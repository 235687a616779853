import PageLint.Report.Console

/-!
# What the lines for people say

A line for people says a text, and where styles are wanted it has their marks in it as well. The
marks are all that is added: whoever takes them out again has the text, and without styles the line
is the text. So the lines of a listing are told here by their texts alone.

## Main definitions

* `Report.Styled` — a line says a text
* `Report.heading`, `Report.advice` — the two texts that list a finding
* `Report.Listing` — lines that list findings
* `Report.closing` — the text that ends a listing

## Main results

* `styled_false_iff` — without styles a line is the text it says
* `exists_lines_eq` — the lines for people list findings, and then close the listing
-/

namespace PageLint.Report

/-! ## Styles -/

/-- The line says the text. Where styles are wanted it can have marks besides, with digits between
their first two characters and their last one. -/
inductive Styled (color : Bool) : String → String → Prop
  | plain (text : String) : Styled color text text
  | mark {number : String} (wanted : color = true)
    (digits : number.toList.all Char.isDigit = true) : Styled color ("\x1b[" ++ number ++ "m") ""
  | append {line line' text text' : String} (first : Styled color line text)
    (second : Styled color line' text') : Styled color (line ++ line') (text ++ text')

/-- Without styles a line is the text it says. -/
theorem styled_false_iff {line text : String} : Styled false line text ↔ line = text := by
  constructor
  · intro reads
    induction reads with
    | plain => rfl
    | mark wanted => cases wanted
    | append _ _ ih ih' => rw [ih, ih']
  · rintro rfl
    exact .plain _

namespace Styled

variable {color : Bool} {line text : String}

/-- Marks around a line do not change what it says. -/
theorem between {first last : String} (wanted : color = true) (reads : Styled color line text)
    (start : first.toList.all Char.isDigit = true) (stop : last.toList.all Char.isDigit = true) :
    Styled color (Style.mark first ++ line ++ Style.mark last) text := by
  have marked : Styled color (Style.mark first ++ line ++ Style.mark last) ("" ++ text ++ "") :=
    .append (.append (.mark wanted start) reads) (.mark wanted stop)
  rwa [String.empty_append, String.append_empty] at marked

theorem paint (style : Style) (reads : Styled color line text) :
    Styled color (style.paint color line) text := by
  rw [Style.paint]
  split
  · rename_i wanted
    refine reads.between wanted ?_ ?_ <;> cases style <;> decide
  · exact reads

/-- A text without styles says itself, behind what a line says already. -/
theorem followed (reads : Styled color line text) (s : String) :
    Styled color (line ++ s) (text ++ s) :=
  reads.append (.plain s)

end Styled

/-! ## Listings -/

/-- The first text of a finding: how grave it is, where it is, which rule it is of, and what is
wrong. -/
def heading (f : Finding) : String :=
  (match f.severity with
    | .error => "✖ ⟦error⟧"
    | .warning => "▲ ⟦warn⟧") ++ " " ++
    f.pageObject ++ ":" ++ toString f.line ++ " ❲" ++ f.ruleId ++ " " ++ toString f.code ++ "❳ " ++
    f.message

/-- The second text of a finding: how to mend it. -/
def advice (f : Finding) : String := "    fix: " ++ f.fix

/-- The lines list the findings, by two lines each. -/
inductive Listing (color : Bool) : List Finding → List String → Prop
  | nil : Listing color [] []
  | cons {f : Finding} {fs : List Finding} {first second : String} {rest : List String}
    (told : Styled color first (heading f)) (advised : Styled color second (advice f))
    (others : Listing color fs rest) : Listing color (f :: fs) (first :: second :: rest)

/-- The text that ends a listing: how many errors and warnings there are, and in how many page
objects they were looked for. -/
def closing (s : Summary) : String :=
  "— Summary — errors=" ++ toString s.errors ++ " warnings=" ++ toString s.warnings ++
    " page_objects=" ++ toString s.pageObjects

variable (color : Bool)

theorem heading_eq (f : Finding) :
    heading f =
      (badge f.severity).1 ++ " " ++ (badge f.severity).2 ++ " " ++
        (f.pageObject ++ ":" ++ toString f.line) ++ " ❲" ++ f.ruleId ++ " " ++ toString f.code ++
        "❳ " ++ f.message := by
  rw [heading]
  cases f.severity <;> simp [badge, String.append_assoc]

/-- The two lines of a finding list it. -/
theorem exists_findingLines_eq (f : Finding) :
    ∃ first second, findingLines color f = [first, second] ∧ Styled color first (heading f) ∧
      Styled color second (advice f) := by
  let style := severityStyle f.severity
  let place := f.pageObject ++ ":" ++ toString f.line
  refine ⟨style.paint color (badge f.severity).1 ++ " " ++
    Style.bold.paint color (style.paint color (badge f.severity).2) ++ " " ++
    Style.bold.paint color place ++ " ❲" ++ f.ruleId ++ " " ++ toString f.code ++ "❳ " ++
    f.message, _, rfl, ?_, ?_⟩
  · -- Only the sign, the tag and the place have styles.
    have sign : Styled color _ (badge f.severity).1 := (Styled.plain _).paint style
    have tag : Styled color _ (badge f.severity).2 := ((Styled.plain _).paint style).paint .bold
    have placed : Styled color _ place := (Styled.plain place).paint .bold
    have front := (((sign.followed " ").append tag).followed " ").append placed
    rw [heading_eq]
    exact front.followed " ❲" |>.followed f.ruleId |>.followed " " |>.followed (toString f.code)
      |>.followed "❳ " |>.followed f.message
  · have word : Styled color _ "fix:" := (Styled.plain _).paint .grey
    exact (((Styled.plain "    ").append word).followed " ").followed f.fix

/-- The lines of findings list them. -/
theorem listing_flatMap_findingLines (fs : List Finding) :
    Listing color fs (fs.flatMap (findingLines color)) := by
  induction fs with
  | nil => exact .nil
  | cons f fs ih =>
    obtain ⟨first, second, two, told, advised⟩ := exists_findingLines_eq color f
    rw [List.flatMap_cons, two]
    exact .cons told advised ih

/-- The lines for people list the findings, if they are to be listed, and then close the listing. -/
theorem exists_lines_eq (list : Bool) (fs : List Finding) (s : Summary) :
    ∃ listing last, lines color list fs s = listing ++ [last] ∧
      Listing color (if list then fs else []) listing ∧ Styled color last (closing s) := by
  refine ⟨_, _, rfl, ?_, (Styled.plain _).paint .bold⟩
  cases list with
  | true => exact listing_flatMap_findingLines color fs
  | false => exact .nil

end PageLint.Report
