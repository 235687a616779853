import PageLint.Proofs.Json.Scanning
import PageLint.Proofs.Text.Trail

/-!
# Names and selectors in descriptors

Descriptors are JSON, so a name or a selector stands in them as a JSON string. A finding is placed
by a search for the text itself between two quotes. This is the same thing only for a text that JSON
writes without escapes. A quote, a backslash or a control character is written by an escape; then
the line of the text does not show the fragment, and the search answers the first line.

The reason that the fragment cannot be found by accident is a count. The text and its JSON string
have equally many quotes, so a fragment that begins and ends with a quote would have to be the whole
string; but each escape makes the string longer, also without blanks.

## Main definitions

* `Json.Unescaped`, `Json.Verbatim` — a character, or a text, stands for itself in a JSON string
* `Text.opened` — lines with an opening brace each, and a last line

## Main results

* `infix_quote_iff` — which texts are found in their JSON strings
* `findLine_quoted_eq` — the line of a name or a selector
-/

namespace PageLint

namespace Json

open Text (squeeze isBlank hexDigit hexValue?)

/-- The character stands for itself in a JSON string. -/
def Unescaped (c : Char) : Prop := c ≠ '"' ∧ c ≠ '\\' ∧ 0x20 ≤ c.toNat

instance (c : Char) : Decidable (Unescaped c) := inferInstanceAs (Decidable (_ ∧ _ ∧ _))

/-- The text stands in a JSON string as it is. -/
def Verbatim (cs : List Char) : Prop := ∀ c ∈ cs, Unescaped c

instance (cs : List Char) : Decidable (Verbatim cs) := List.decidableBAll _ cs

variable {c : Char} {cs : List Char}

theorem quoteChar_of_unescaped (plain : Unescaped c) : quoteChar c = [c] := by
  obtain ⟨mark, slash, high⟩ := plain
  have apart {d : Char} (control : d.toNat < 0x20) : c ≠ d := by
    intro same
    rw [same] at high
    omega
  unfold quoteChar
  rw [if_neg mark, if_neg slash, if_neg (by omega), if_neg (by omega), if_neg (apart (by decide)),
    if_neg (apart (by decide)), if_neg (apart (by decide)), if_neg (by omega)]

theorem hexDigit_ne {n : Nat} (small : n < 16) {d : Char} (other : hexValue? d = none) :
    hexDigit n ≠ d := by
  intro same
  have value := hexValue?_hexDigit small
  rw [same, other] at value
  cases value

/-- The letter of an escape is not blank, and it is a quote only for a quote. -/
theorem solid_of_unescape? {letter : Char} (known : unescape? letter = some c) :
    isBlank letter = false ∧ letter ≠ '\n' ∧ (letter = '"' ↔ c = '"') := by
  unfold unescape? at known
  split_ifs at known with same backspace feed line return' tab <;>
    obtain rfl := Option.some.inj known
  · rcases same with rfl | rfl | rfl <;> decide
  all_goals
    subst letter
    decide

/-- Any other character is written by a backslash and further characters, the first of which is not
blank. They have a quote only for a quote. -/
theorem exists_quoteChar_eq (special : ¬ Unescaped c) :
    ∃ d ds, quoteChar c = '\\' :: d :: ds ∧ isBlank d = false ∧
      (d :: ds).count '"' = [c].count '"' ∧ '\n' ∉ d :: ds := by
  rcases quoteChar_cases c with
    ⟨letter, known, written⟩ | ⟨control, written⟩ | ⟨⟨mark, slash, high⟩, -⟩
  · obtain ⟨solid, noFeed, mark⟩ := solid_of_unescape? known
    refine ⟨letter, [], written, solid, ?_, ?_⟩
    · rw [List.count_singleton, List.count_singleton]
      simp only [beq_iff_eq, mark]
    · simpa using noFeed.symm
  · have high : c.toNat / 16 < 16 := by omega
    have low : c.toNat % 16 < 16 := by omega
    have mark : c ≠ '"' := by
      intro same
      rw [same] at control
      exact absurd control (by decide)
    -- The number is written in four digits, and a quote is none.
    refine ⟨'u', _, written, by decide, ?_, ?_⟩
    · have none {cs : List Char} (other : ∀ d ∈ cs, d ≠ '"') : cs.count '"' = 0 :=
        List.count_eq_zero.mpr fun listed => other _ listed rfl
      rw [none (by simp [hexDigit_ne high (d := '"') rfl, hexDigit_ne low (d := '"') rfl]),
        none (by simpa using mark)]
    · simp [(hexDigit_ne high (d := '\n') rfl).symm, (hexDigit_ne low (d := '\n') rfl).symm]
  · exact absurd ⟨mark, slash, Nat.not_lt.mp high⟩ special

/-- A text has as many quotes as its written form has between the outer ones. -/
theorem count_flatMap_quoteChar (cs : List Char) :
    (cs.flatMap quoteChar).count '"' = cs.count '"' := by
  induction cs with
  | nil => rfl
  | cons c cs ih =>
    have own : (quoteChar c).count '"' = [c].count '"' := by
      by_cases plain : Unescaped c
      · rw [quoteChar_of_unescaped plain]
      · obtain ⟨d, ds, written, -, many, -⟩ := exists_quoteChar_eq plain
        rw [written, List.count_cons_of_ne (by decide), many]
    rw [List.flatMap_cons, List.count_append, own, ih, ← List.count_append, List.singleton_append]

/-- A written text is longer than the text by one character at least for each escape, also without
blanks. -/
theorem length_squeeze_add_le (cs : List Char) :
    (squeeze cs).length + (cs.filter fun c => ¬ Unescaped c).length ≤
      (squeeze (cs.flatMap quoteChar)).length := by
  induction cs with
  | nil => exact Nat.le_refl _
  | cons c cs ih =>
    rw [List.flatMap_cons, Text.squeeze_append, List.length_append]
    by_cases plain : Unescaped c
    · have same : squeeze (c :: cs) = squeeze [c] ++ squeeze cs := Text.squeeze_append [c] cs
      rw [quoteChar_of_unescaped plain, same, List.length_append,
        List.filter_cons_of_neg (by simpa using plain)]
      omega
    · obtain ⟨d, ds, written, solid, -, -⟩ := exists_quoteChar_eq plain
      have longer : 2 ≤ (squeeze (quoteChar c)).length := by
        have kept : squeeze (quoteChar c) = '\\' :: d :: squeeze ds := by
          rw [written]
          simp [squeeze, solid, show isBlank '\\' = false from rfl]
        rw [kept, List.length_cons, List.length_cons]
        omega
      have shorter : (squeeze (c :: cs)).length ≤ (squeeze cs).length + 1 := by
        unfold squeeze
        rw [List.filter_cons]
        split <;> simp
      rw [List.filter_cons_of_pos (by simpa using plain), List.length_cons]
      omega

/-- Without blanks a text is the same as its written form exactly if it has no escapes. -/
theorem squeeze_flatMap_quoteChar_eq_iff :
    squeeze (cs.flatMap quoteChar) = squeeze cs ↔ Verbatim cs := by
  constructor
  · intro same
    have bound := length_squeeze_add_le cs
    rw [same] at bound
    have none : (cs.filter fun c => ¬ Unescaped c) = [] := List.length_eq_zero_iff.mp (by omega)
    intro c listed
    simpa using List.filter_eq_nil_iff.mp none c listed
  · intro plain
    have own : cs.flatMap quoteChar = cs.flatMap fun c => [c] :=
      List.flatMap_congr fun c listed => quoteChar_of_unescaped (plain c listed)
    rw [own, List.flatMap_singleton']

/-- A JSON string stays on one line. -/
theorem newline_not_mem_quote (v : String) : '\n' ∉ quote v := by
  have inside : '\n' ∉ v.toList.flatMap quoteChar := by
    intro listed
    obtain ⟨c, -, within⟩ := List.mem_flatMap.mp listed
    by_cases plain : Unescaped c
    · rw [quoteChar_of_unescaped plain, List.mem_singleton] at within
      exact absurd (within ▸ plain) (by decide)
    · obtain ⟨d, ds, written, -, -, noNewline⟩ := exists_quoteChar_eq plain
      rw [written, List.mem_cons] at within
      exact within.elim (by decide) noNewline
  simp [quote, inside]

end Json

namespace Text

open Json (quote quoteChar Verbatim)

/-- A part that has all of the characters of some kind has the whole text, if the text begins and
ends with one of them. -/
theorem eq_of_infix_of_count {a : Char} {part whole : List Char} (within : part <:+: whole)
    (first : whole.head? = some a) (last : whole.getLast? = some a)
    (many : whole.count a = part.count a) : part = whole := by
  obtain ⟨front, back, rfl⟩ := within
  rw [List.count_append, List.count_append] at many
  have noFront : a ∉ front := List.count_eq_zero.mp (by omega)
  have noBack : a ∉ back := List.count_eq_zero.mp (by omega)
  have front_nil : front = [] := by
    cases front with
    | nil => rfl
    | cons c front =>
      have same : c = a := Option.some.inj first
      exact absurd (same ▸ List.mem_cons_self) noFront
  have back_nil : back = [] := by
    cases List.eq_nil_or_concat back with
    | inl none => exact none
    | inr some =>
      obtain ⟨init, c, rfl⟩ := some
      rw [List.concat_eq_append, ← List.append_assoc, List.getLast?_concat] at last
      have same : c = a := Option.some.inj last
      exact absurd (by simp [same]) noBack
  rw [front_nil, back_nil, List.nil_append, List.append_nil]

theorem squeeze_between_quotes (cs : List Char) :
    squeeze ('"' :: (cs ++ ['"'])) = '"' :: (squeeze cs ++ ['"']) := by
  simp [squeeze, show isBlank '"' = false from rfl]

theorem squeeze_quoted (v : String) :
    squeeze (quoted v).toList = '"' :: (squeeze v.toList ++ ['"']) := by
  rw [← squeeze_between_quotes]
  simp [quoted]

theorem squeeze_quote (v : String) :
    squeeze (quote v) = '"' :: (squeeze (v.toList.flatMap quoteChar) ++ ['"']) :=
  squeeze_between_quotes _

/-- A text between two quotes is a part of its JSON string, without the blanks of either, exactly if
no character of it is escaped. It is the same when something that begins with a quote stands in
front of both. -/
theorem infix_quote_iff {front : List Char} (framed : front = [] ∨ front.head? = some '"')
    (v : String) :
    front ++ squeeze (quoted v).toList <:+: front ++ squeeze (quote v) ↔ Verbatim v.toList := by
  rw [← Json.squeeze_flatMap_quoteChar_eq_iff, squeeze_quoted, squeeze_quote]
  constructor
  · intro within
    have first : (front ++ '"' :: (squeeze (v.toList.flatMap quoteChar) ++ ['"'])).head? =
        some '"' := by
      rcases framed with none | begins
      · rw [none]
        rfl
      · rw [List.head?_append, begins]
        rfl
    have last : (front ++ '"' :: (squeeze (v.toList.flatMap quoteChar) ++ ['"'])).getLast? =
        some '"' := by
      rw [← List.cons_append, ← List.append_assoc, List.getLast?_concat]
    have quotes (cs : List Char) : (squeeze cs).count '"' = cs.count '"' :=
      List.count_filter rfl
    have whole := eq_of_infix_of_count within first last (by
      simp only [List.count_append, List.count_cons, quotes, Json.count_flatMap_quoteChar])
    have behind := List.cons.inj (List.append_cancel_left whole)
    exact (List.append_cancel_right behind.2).symm
  · intro same
    rw [same]

/-! ## The line of a fragment -/

/-- Some lines that hold just an opening brace, and a last line. -/
def opened (k : Nat) (entry : List Char) : List (List Char) := List.replicate k ['{'] ++ [entry]

/-- The last line of a text is answered if it shows a fragment of two characters or more, and the
first line otherwise. -/
theorem findLine_opened {k : Nat} {entry : List Char} {text f : String}
    (laid : lines text.toList = opened k entry) (long : 2 ≤ (squeeze f.toList).length) :
    findLine text [f] = if shows entry f.toList then k + 1 else 1 := by
  have kept : visible [f] = [f.toList] := by
    have some_left : squeeze f.toList ≠ [] := List.ne_nil_of_length_pos (by omega)
    have solid : (f.toList.any fun c => !isBlank c) = true := by simpa [squeeze] using some_left
    exact List.filter_cons_of_pos solid
  have brace : shows ['{'] f.toList = false := by
    rw [Bool.eq_false_iff]
    intro shown
    have short : (squeeze f.toList).length ≤ 1 := (shows_iff.mp shown).2.length_le
    omega
  have taken : (opened k entry).findIdx? (shows · f.toList) =
      if shows entry f.toList then some k else none := by
    rw [opened, List.findIdx?_append, List.findIdx?_replicate, List.findIdx?_singleton]
    cases shows entry f.toList <;> simp [brace]
  rw [findLine_eq, laid, kept, chain, taken]
  cases shows entry f.toList <;> rfl

/-- A text without line feeds is one line. -/
theorem lines_of_newline_not_mem {cs : List Char} (some : cs ≠ []) (unbroken : '\n' ∉ cs) :
    lines cs = [cs] := by
  induction cs with
  | nil => exact absurd rfl some
  | cons c cs ih =>
    rw [List.mem_cons, not_or] at unbroken
    obtain ⟨own, others⟩ := unbroken
    have rest : lines cs = [] ∧ cs = [] ∨ lines cs = [cs] := by
      cases cs with
      | nil => exact .inl ⟨rfl, rfl⟩
      | cons d cs => exact .inr (ih (List.cons_ne_nil d cs) others)
    rw [lines]
    · rcases rest with ⟨none, rfl⟩ | one
      · rfl
      · rw [one]
    -- A carriage return belongs to a line end only in front of a line feed.
    · intro _ _ feed
      exact others (feed ▸ List.mem_cons_self)
    · intro feed
      exact own feed.symm

/-- There is a text of such lines for every last line that is not empty and does not break. -/
theorem exists_lines_opened (k : Nat) {entry : List Char} (unbroken : '\n' ∉ entry)
    (some : entry ≠ []) : ∃ text : String, lines text.toList = opened k entry := by
  refine ⟨String.ofList ((List.replicate k ['{', '\n']).flatten ++ entry), ?_⟩
  rw [String.toList_ofList]
  induction k with
  | zero => exact lines_of_newline_not_mem some unbroken
  | succ k ih =>
    rw [List.replicate_succ, List.flatten_cons, List.append_assoc]
    exact congrArg (['{'] :: ·) ih

/-- The key under which names are declared, with its colon. -/
def nameKey : List Char := "\"name\":".toList

/-- A line with a name, as a JSON string. -/
def declared (v : String) : List Char := nameKey ++ quote v

theorem squeeze_nameFragment (v : String) :
    squeeze (nameFragment v).toList = nameKey ++ squeeze (quoted v).toList := by
  rw [nameFragment, String.toList_append, squeeze_append]
  rfl

theorem squeeze_declared (v : String) : squeeze (declared v) = nameKey ++ squeeze (quote v) :=
  squeeze_append ..

theorem shows_quote_iff (v : String) :
    shows (quote v) (quoted v).toList = true ↔ Verbatim v.toList := by
  have some_left : squeeze (quoted v).toList ≠ [] := by
    rw [squeeze_quoted]
    exact List.cons_ne_nil _ _
  rw [shows_iff, ← infix_quote_iff (.inl rfl) v]
  exact and_iff_right some_left

theorem shows_declared_iff (v : String) :
    shows (declared v) (nameFragment v).toList = true ↔ Verbatim v.toList := by
  rw [shows_iff, squeeze_nameFragment, squeeze_declared, infix_quote_iff (.inr rfl) v]
  exact and_iff_right (List.cons_ne_nil _ _)

/-- There are texts of any number of lines with an opening brace each, followed by a line with the
JSON string of a text, or with the declaration of a name. A search in them for the text between
quotes, or for the declaration, answers the last line exactly if no character of the text is
escaped in JSON, and the first line otherwise, as long as the expression of what is looked for is
within the limit. -/
theorem findLine_quoted_eq (v : String) (k : Nat) :
    (∃ text : String, lines text.toList = opened k (quote v)) ∧
      (∃ text : String, lines text.toList = opened k (declared v)) ∧
      (∀ (fits : Regex → Bool) (text : String), AllFit fits [quoted v] →
        lines text.toList = opened k (quote v) →
        findLineWithin fits text [quoted v] = if Verbatim v.toList then k + 1 else 1) ∧
      ∀ (fits : Regex → Bool) (text : String), AllFit fits [nameFragment v] →
        lines text.toList = opened k (declared v) →
        findLineWithin fits text [nameFragment v] = if Verbatim v.toList then k + 1 else 1 := by
  have long : 2 ≤ (squeeze (quoted v).toList).length := by
    rw [squeeze_quoted, List.length_cons, List.length_append, List.length_singleton]
    omega
  have longer : 2 ≤ (squeeze (nameFragment v).toList).length := by
    rw [squeeze_nameFragment, List.length_append]
    omega
  have unbroken : '\n' ∉ declared v := by
    intro listed
    rcases List.mem_append.mp listed with key | value
    · exact absurd key (by decide)
    · exact Json.newline_not_mem_quote v value
  refine ⟨?_, ?_, ?_, ?_⟩
  · exact exists_lines_opened k (Json.newline_not_mem_quote v) (List.cons_ne_nil _ _)
  · exact exists_lines_opened k unbroken (List.cons_ne_nil _ _)
  · intro fits text small laid
    rw [findLineWithin_of_allFit small, findLine_opened laid long]
    exact if_congr (shows_quote_iff v) rfl rfl
  · intro fits text small laid
    rw [findLineWithin_of_allFit small, findLine_opened laid longer]
    exact if_congr (shows_declared_iff v) rfl rfl

/-- A selector that tests an attribute has quotes, and is not found in the line where it stands. -/
theorem not_findLine_quoted_attribute :
    ¬ ∀ (v : String) (k : Nat) (text : String),
      1 ≤ k → lines text.toList = opened k (quote v) → findLine text [quoted v] = k + 1 := by
  intro found
  have second : findLine "\x7b\n\"[title=\\\"x\\\"]\"" [quoted "[title=\"x\"]"] = 2 :=
    found "[title=\"x\"]" 1 _ (by decide) (by decide)
  exact absurd second (by decide)

/-- A selector without quotes is found below two braces, and a name below three, though expressions
of more than fifty items cannot be used. -/
theorem findLine_quoted_eq_submit :
    let fits (r : Regex) : Bool := r.items.length ≤ 50
    let text := "\x7b\n\x7b\r\n\".submit > a\"\n"
    let text' := "\x7b\n\x7b\n\x7b\n\"name\":\"Sign in\""
    AllFit fits [quoted ".submit > a"] ∧ lines text.toList = opened 2 (quote ".submit > a") ∧
      findLineWithin fits text [quoted ".submit > a"] = 3 ∧
      findLine text [quoted ".submit > a"] = 3 ∧
      AllFit fits [nameFragment "Sign in"] ∧ lines text'.toList = opened 3 (declared "Sign in") ∧
      findLineWithin fits text' [nameFragment "Sign in"] = 4 ∧
      findLine text' [nameFragment "Sign in"] = 4 := by
  intro fits text text'
  have small {f : String} (short : (fragmentRegex? f.toList).all fits = true) :
      AllFit fits [f] := by
    intro g listed r compiled
    rw [List.mem_singleton.mp listed] at compiled
    rwa [compiled] at short
  have small₁ : AllFit fits [quoted ".submit > a"] := small (by decide)
  have small₂ : AllFit fits [nameFragment "Sign in"] := small (by decide)
  have laid : lines text.toList = opened 2 (quote ".submit > a") := by decide
  have laid' : lines text'.toList = opened 3 (declared "Sign in") := by decide
  obtain ⟨-, -, selector, -⟩ := findLine_quoted_eq ".submit > a" 2
  obtain ⟨-, -, -, name⟩ := findLine_quoted_eq "Sign in" 3
  have found := (selector fits text small₁ laid).trans (if_pos (by decide))
  have found' := (name fits text' small₂ laid').trans (if_pos (by decide))
  exact ⟨small₁, laid, found, (findLineWithin_of_allFit small₁ text).symm.trans found,
    small₂, laid', found', (findLineWithin_of_allFit small₂ text').symm.trans found'⟩

end Text

end PageLint
