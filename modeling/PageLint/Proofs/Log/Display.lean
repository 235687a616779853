import PageLint.Log.Line
import PageLint.Proofs.Report.Listing
import PageLint.Text.Hex

/-!
# What the lines of the log say

The line of an event says how urgent the event is, its message and its values. All characters of the
message are there in their order. Those that would act on the terminal are spelled by their number,
and all others stand for themselves, so a message of plain characters is there as it is.

## Main definitions

* `Log.Acts`, `Log.Spells` — a character acts on a terminal, and how it is spelled instead
* `Log.WrittenOut` — a text without such characters says another one
* `Log.Displays` — a line says what an event is

## Main results

* `displays_line` — the line of an event says what it is
* `line_eq_of_not_acts` — the line of a plain event, without styles
-/

namespace PageLint.Log

open Report (Style Styled)

/-! ## Messages -/

/-- The character acts on a terminal instead of showing on it. -/
def Acts (c : Char) : Prop :=
  c.toNat ∈ [0x07, 0x08, 0x0C, 0x1B, 0x7F] ∨ 0x80 ≤ c.toNat ∧ c.toNat ≤ 0x9F

instance (c : Char) : Decidable (Acts c) := inferInstanceAs (Decidable (_ ∨ _))

/-- The characters spell another one by its number, in two hexadecimal digits or between braces. -/
inductive Spells (c : Char) : List Char → Prop
  | short {a b : Char} (number : Text.hexNumber? [a, b] = some c.toNat) : Spells c ['\\', 'x', a, b]
  | long {digits : List Char} (number : Text.hexNumber? digits = some c.toNat) :
    Spells c ('\\' :: 'u' :: '\x7b' :: (digits ++ ['\x7d']))

/-- The second text says the first one: a character that acts on a terminal is spelled, and any
other stands for itself. -/
inductive WrittenOut : List Char → List Char → Prop
  | nil : WrittenOut [] []
  | kept {c : Char} {cs ds : List Char} (shows : ¬ Acts c) (rest : WrittenOut cs ds) :
    WrittenOut (c :: cs) (c :: ds)
  | spelled {c : Char} {cs spelling ds : List Char} (acts : Acts c) (spells : Spells c spelling)
    (rest : WrittenOut cs ds) : WrittenOut (c :: cs) (spelling ++ ds)

/-- A text that does not act on a terminal is there as it is. -/
theorem WrittenOut.eq_of_not_acts {cs ds : List Char} (reads : WrittenOut cs ds)
    (plain : ∀ c ∈ cs, ¬ Acts c) : ds = cs := by
  induction reads with
  | nil => rfl
  | kept _ _ ih => rw [ih fun d listed => plain d (List.mem_cons_of_mem _ listed)]
  | spelled acts => exact absurd acts (plain _ List.mem_cons_self)

/-- The digits of a number beyond the first half of a byte stand for it. -/
theorem hexNumber?_toDigits {n : Nat} (low : 0x80 ≤ n) (high : n ≤ 0x9F) :
    Text.hexNumber? (Nat.toDigits 16 n) = some n := by
  have all : ∀ n < 0xA0, 0x80 ≤ n → Text.hexNumber? (Nat.toDigits 16 n) = some n := by decide
  exact all n (Nat.lt_succ_of_le high) low

/-- A character is written as itself, or it acts on a terminal and is spelled. -/
theorem visible_cases (c : Char) :
    ¬ Acts c ∧ (visible c).toList = [c] ∨ Acts c ∧ Spells c (visible c).toList := by
  rw [visible]
  split
  -- The characters with spellings of their own.
  iterate 5
    rename_i number
    refine .inr ⟨.inl (by rw [number]; decide), .short ?_⟩
    rw [number]
    rfl
  split
  · rename_i range
    refine .inr ⟨.inr range, ?_⟩
    have spelled := Spells.long (hexNumber?_toDigits range.1 range.2)
    simpa [String.toList_append] using spelled
  · rename_i others
    refine .inl ⟨?_, by simp⟩
    rintro (listed | range)
    · simp_all
    · exact others range

theorem writtenOut_visible (cs : List Char) :
    WrittenOut cs (String.join (cs.map visible)).toList := by
  induction cs with
  | nil => exact .nil
  | cons c cs ih =>
    rw [List.map_cons, String.join_cons, String.toList_append]
    rcases visible_cases c with ⟨shows, own⟩ | ⟨acts, spells⟩
    · rw [own]
      exact .kept shows ih
    · exact .spelled acts spells ih

/-! ## Lines -/

/-- How a line begins, by the level of its event. -/
def tag : Level → String
  | .error => "ERROR"
  | .warn => " WARN"
  | .info => " INFO"
  | .debug => "DEBUG"
  | .trace => "TRACE"

/-- The line says what the event is: its level, its message and its values. -/
def Displays (color : Bool) (e : Event) (line : String) : Prop :=
  ∃ shown : String, WrittenOut e.message.toList shown.toList ∧
    Styled color line (tag e.level ++ " " ++ shown ++
      String.join (e.fields.map fun (name, value) => " " ++ name ++ "=" ++ value))

variable {color : Bool}

theorem styled_marked {number : String} (digits : number.toList.all Char.isDigit = true)
    (s : String) : Styled color (marked color number s) s := by
  rw [marked]
  split
  · rename_i wanted
    exact (Styled.plain s).between wanted digits (by decide)
  · exact .plain s

theorem paddedName_eq (l : Level) : paddedName l = tag l := by
  cases l <;> decide

theorem styled_fields (fields : List (String × String)) :
    Styled color
      (String.join (fields.map fun (name, value) =>
        " " ++ marked color "3" name ++ marked color "2" "=" ++ value))
      (String.join (fields.map fun (name, value) => " " ++ name ++ "=" ++ value)) := by
  induction fields with
  | nil => exact .plain _
  | cons field fields ih =>
    have name : Styled color (marked color "3" field.1) field.1 := styled_marked (by decide) _
    have sign : Styled color (marked color "2" "=") "=" := styled_marked (by decide) _
    have own := (((Styled.plain " ").append name).append sign).followed field.2
    simp only [List.map_cons, String.join_cons]
    exact own.append ih

/-- The line of an event says what it is. -/
theorem displays_line (color : Bool) (e : Event) : Displays color e (line color e) := by
  refine ⟨_, writtenOut_visible _, ?_⟩
  have level :
      Styled color (marked color (levelMark e.level) (paddedName e.level)) (tag e.level) := by
    rw [paddedName_eq]
    refine styled_marked ?_ _
    cases e.level <;> decide
  exact ((level.followed " ").followed _).append (styled_fields e.fields)

/-- Without styles, the line of an event with a plain message is the level and the text of the
event. -/
theorem line_eq_of_not_acts {e : Event} (plain : ∀ c ∈ e.message.toList, ¬ Acts c) :
    line false e = tag e.level ++ " " ++ e.text := by
  obtain ⟨shown, written, styled⟩ := displays_line false e
  have same : shown = e.message := String.toList_injective (written.eq_of_not_acts plain)
  rw [Report.styled_false_iff.mp styled, same, Event.text, ← String.append_assoc]

end PageLint.Log
