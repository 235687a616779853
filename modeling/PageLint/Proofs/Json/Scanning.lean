import Mathlib.Tactic.IntervalCases
import PageLint.Json.Printer
import PageLint.Json.Token

/-!
# What the scanner makes of written leaves

A printed text is made of leaves: words, strings, numerals, marks and white space. Here the scanner
reads one of them and then goes on with whatever follows. Only a numeral cares about what that is,
because nothing but the next character ends it.

A string comes back in pieces, not as the characters it was written from: a character that is
written by its number is read as a unit of UTF-16. What counts is the text that the pieces join to.

## Main definitions

* `Json.Delimited` — a text that may follow a numeral

## Main results

* `run_quote` — a written string is read as a token with its text
* `run_ofNat` — a written count is read as its numeral
-/

namespace PageLint.Json

open Text (hexDigit hexValue?)

variable (cs rest : List Char)

/-- A character that completes no token only moves the scanner. -/
theorem Scanning.run_silent {s t : Scanning} {c : Char} (fed : s.feed c = ([], some t)) :
    s.run (c :: cs) = t.run cs := by
  rw [Scanning.run, fed]
  rfl

/-- White space between two tokens is passed over. -/
theorem run_blank {c : Char} (blank : isSpace c = true) :
    Scanning.between.run (c :: cs) = Scanning.between.run cs :=
  Scanning.run_silent cs (by simp [Scanning.feed, start, blank])

theorem run_blanks {gap : List Char} (blank : ∀ c ∈ gap, isSpace c = true) :
    Scanning.between.run (gap ++ cs) = Scanning.between.run cs := by
  induction gap with
  | nil => rfl
  | cons c gap ih =>
    rw [List.cons_append, run_blank _ (blank c List.mem_cons_self)]
    exact ih fun d listed => blank d (List.mem_cons_of_mem c listed)

/-! ## Strings -/

/-- A backslash and a letter are read as the character they stand for. -/
theorem run_letter {letter c : Char} (known : unescape? letter = some c) (pieces : List Piece) :
    (Scanning.text pieces .plain).run ('\\' :: letter :: rest) =
      (Scanning.text (.char c :: pieces) .plain).run rest := by
  have other : letter ≠ 'u' := by
    rintro rfl
    cases known
  rw [Scanning.run_silent _ (t := .text pieces .backslash) rfl,
    Scanning.run_silent _ (t := .text (.char c :: pieces) .plain)
      (by simp [Scanning.feed, Escape.next, known, other])]

/-! ### Units -/

theorem hexValue?_hexDigit {n : Nat} (small : n < 16) : hexValue? (hexDigit n) = some n := by
  interval_cases n <;> decide

/-- A hexadecimal digit takes one byte. -/
theorem utf8Size_of_hexValue? {c : Char} {d : Nat} (digit : hexValue? c = some d) :
    c.utf8Size = 1 := by
  have small : c.toNat ≤ 127 := by
    unfold hexValue? at digit
    split_ifs at digit with decimal lower upper
    · exact le_trans decimal.2 (by decide : 57 ≤ 127)
    · exact le_trans lower.2 (by decide : 102 ≤ 127)
    · exact le_trans upper.2 (by decide : 70 ≤ 127)
  exact Char.utf8Size_eq_one_iff.mpr small

/-- The number that hexadecimal digits stand for after those of another one. -/
def hexFrom? (n : Nat) (digits : List Char) : Option Nat :=
  digits.foldlM (fun value c => (hexValue? c).map (value * 16 + ·)) n

theorem hexFrom?_cons_eq_some_iff {n v : Nat} {c : Char} {digits : List Char} :
    hexFrom? n (c :: digits) = some v ↔
      ∃ d, hexValue? c = some d ∧ hexFrom? (n * 16 + d) digits = some v := by
  simp [hexFrom?, List.foldlM_cons, Option.bind_eq_some_iff]

/-- The digits of a unit are read as its value. -/
theorem run_unit {bytes n v : Nat} {digits : List Char} (number : hexFrom? n digits = some v)
    (length : bytes + digits.length = 4) (early : bytes < 4) (pieces : List Piece) :
    (Scanning.text pieces (.hex bytes (some n))).run (digits ++ rest) =
      (Scanning.text (.unit v :: pieces) .plain).run rest := by
  induction digits generalizing bytes n with
  | nil => exact absurd length early.ne
  | cons c digits ih =>
    obtain ⟨d, digit, others⟩ := hexFrom?_cons_eq_some_iff.mp number
    have narrow := utf8Size_of_hexValue? digit
    rw [List.length_cons] at length
    by_cases last : bytes + 1 < 4
    · have fed : (Scanning.text pieces (.hex bytes (some n))).feed c =
          ([], some (.text pieces (.hex (bytes + 1) (some (n * 16 + d))))) := by
        simp [Scanning.feed, Escape.next, narrow, digit, last]
      rw [List.cons_append, Scanning.run_silent _ fed]
      exact ih others (by omega) last
    · obtain rfl : digits = [] := List.eq_nil_of_length_eq_zero (by omega)
      obtain rfl : n * 16 + d = v := Option.some.inj others
      refine Scanning.run_silent _ ?_
      simp [Scanning.feed, Escape.next, narrow, digit, last]

/-- A control character that is written by its number is read as a unit. -/
theorem run_numbered {n : Nat} (control : n < 0x20) (pieces : List Piece) :
    (Scanning.text pieces .plain).run
        ('\\' :: 'u' :: '0' :: '0' :: hexDigit (n / 16) :: hexDigit (n % 16) :: rest) =
      (Scanning.text (.unit n :: pieces) .plain).run rest := by
  have opened (cs : List Char) :
      (Scanning.text pieces .plain).run ('\\' :: 'u' :: cs) =
        (Scanning.text pieces (.hex 0 (some 0))).run cs := rfl
  have high : hexValue? (hexDigit (n / 16)) = some (n / 16) := hexValue?_hexDigit (by omega)
  have low : hexValue? (hexDigit (n % 16)) = some (n % 16) := hexValue?_hexDigit (by omega)
  have whole : n / 16 * 16 + n % 16 = n := Nat.div_add_mod' n 16
  have number : hexFrom? 0 ['0', '0', hexDigit (n / 16), hexDigit (n % 16)] = some n := by
    simp [hexFrom?, show hexValue? '0' = some 0 from rfl, high, low, whole]
  rw [opened]
  exact run_unit rest number rfl (by decide) pieces

/-! ### Characters and texts -/

theorem join_control {n : Nat} (control : n < 0x20) (pieces : List Piece) :
    join none (.unit n :: pieces) = (Char.ofNat n :: ·) <$> join none pieces := by
  have lead : isLead n = false := by
    unfold isLead
    grind
  have trail : isTrail n = false := by
    unfold isTrail
    grind
  rw [join.eq_def]
  simp [lead, trail]

/-- A character inside a string is written by a backslash and a letter, by its number or as
itself. -/
theorem quoteChar_cases (c : Char) :
    (∃ letter, unescape? letter = some c ∧ quoteChar c = ['\\', letter]) ∨
      (c.toNat < 0x20 ∧
        quoteChar c = ['\\', 'u', '0', '0', hexDigit (c.toNat / 16), hexDigit (c.toNat % 16)]) ∨
      (c ≠ '"' ∧ c ≠ '\\' ∧ ¬ c.toNat < 0x20) ∧ quoteChar c = [c] := by
  have numbered {n : Nat} (number : c.toNat = n) : Char.ofNat n = c := by
    rw [← number, Char.ofNat_toNat]
  unfold quoteChar
  split_ifs with mark slash backspace feed line return' tab control
  · exact .inl ⟨'"', by rw [mark]; rfl, rfl⟩
  · exact .inl ⟨'\\', by rw [slash]; rfl, rfl⟩
  · exact .inl ⟨'b', congrArg some (numbered backspace), rfl⟩
  · exact .inl ⟨'f', congrArg some (numbered feed), rfl⟩
  · exact .inl ⟨'n', by rw [line]; rfl, rfl⟩
  · exact .inl ⟨'r', by rw [return']; rfl, rfl⟩
  · exact .inl ⟨'t', by rw [tab]; rfl, rfl⟩
  · exact .inr (.inl ⟨control, rfl⟩)
  · exact .inr (.inr ⟨⟨mark, slash, control⟩, rfl⟩)

/-- The written form of a character inside a string is read as one piece, which is joined to that
character. -/
theorem exists_piece (c : Char) :
    ∃ piece : Piece,
      (∀ pieces rest, (Scanning.text pieces .plain).run (quoteChar c ++ rest) =
        (Scanning.text (piece :: pieces) .plain).run rest) ∧
        ∀ pieces, join none (piece :: pieces) = (c :: ·) <$> join none pieces := by
  rcases quoteChar_cases c with ⟨letter, known, written⟩ | ⟨control, written⟩ | ⟨plain, written⟩
  · refine ⟨.char c, fun pieces rest => ?_, fun pieces => rfl⟩
    rw [written]
    exact run_letter rest known pieces
  · refine ⟨.unit c.toNat, fun pieces rest => ?_, fun pieces => ?_⟩
    · rw [written]
      exact run_numbered rest control pieces
    · rw [join_control control, Char.ofNat_toNat]
  · refine ⟨.char c, fun pieces rest => ?_, fun pieces => rfl⟩
    rw [written]
    exact Scanning.run_silent rest (by simp [Scanning.feed, Escape.next, plain])

/-- The written form of a text is read as pieces that are joined to that text. -/
theorem exists_pieces :
    ∃ pieces : List Piece,
      (∀ held rest, (Scanning.text held .plain).run (cs.flatMap quoteChar ++ rest) =
        (Scanning.text (pieces.reverse ++ held) .plain).run rest) ∧
        join none pieces = .ok cs := by
  induction cs with
  | nil => exact ⟨[], fun _ _ => rfl, rfl⟩
  | cons c cs ih =>
    obtain ⟨piece, scanned, joined⟩ := exists_piece c
    obtain ⟨pieces, scannedAll, joinedAll⟩ := ih
    refine ⟨piece :: pieces, fun held rest => ?_, ?_⟩
    · rw [List.flatMap_cons, List.append_assoc, scanned, scannedAll]
      simp
    · rw [joined, joinedAll]
      rfl

/-- A written string is read as a token with its text. -/
theorem run_quote (s : String) :
    ∃ q : Quoted, q.text = .ok s ∧
      ∀ rest, Scanning.between.run (quote s ++ rest) = .text q :: Scanning.between.run rest := by
  obtain ⟨pieces, scanned, joined⟩ := exists_pieces s.toList
  refine ⟨⟨pieces, none⟩, ?_, fun rest => ?_⟩
  · rw [Quoted.text, joined]
    exact congrArg Except.ok String.ofList_toList
  · have opened (cs : List Char) :
        Scanning.between.run ('"' :: cs) = (Scanning.text [] .plain).run cs := rfl
    have closed (held : List Piece) :
        (Scanning.text held .plain).run ('"' :: rest) =
          .text ⟨held.reverse, none⟩ :: Scanning.between.run rest := rfl
    rw [quote, List.cons_append, opened, List.append_assoc, scanned, List.singleton_append, closed]
    simp

/-! ## Counts -/

/-- The character would go on a numeral that ends before it. -/
def goesOn (c : Char) : Bool := (digit? c).isSome || c = '.' || c = 'e' || c = 'E'

/-- The text does not go on a numeral that ends before it. -/
def Delimited (cs : List Char) : Prop := ∀ c ∈ cs.head?, goesOn c = false

theorem digit?_digitChar {d : Nat} (small : d < 10) : digit? d.digitChar = some d := by
  interval_cases d <;> rfl

/-- A numeral that is complete ends before a text that does not go on it. -/
theorem run_number_of_delimited {stage : NumeralStage} (complete : stage.complete = true)
    (n : Numeral) (delimited : Delimited rest) :
    (Scanning.number stage n).run rest = .number (.ok n) :: Scanning.between.run rest := by
  cases rest with
  | nil => simp [Scanning.run, Scanning.finish, complete]
  | cons c cs =>
    have stops := delimited c rfl
    simp only [goesOn, Bool.or_eq_false_iff, Option.isSome_eq_false_iff, Option.isNone_iff_eq_none,
      decide_eq_false_iff_not] at stops
    obtain ⟨⟨⟨digit, point⟩, small⟩, large⟩ := stops
    have stopped : stage.next n c = .stop := by
      cases stage with
      | zero | whole | fraction | exponent => simp [NumeralStage.next, digit, point, small, large]
      | sign | point | mark | markSign => cases complete
    simp only [Scanning.run, Scanning.feed, stopped, complete, if_true]
    rcases start c with ⟨tokens, _ | next⟩ <;> rfl

/-- A count is written by digits that are read as its numeral. -/
theorem run_toDigits {n : Nat} (positive : 0 < n) :
    Scanning.between.run (Nat.toDigits 10 n ++ rest) =
      (Scanning.number .whole (.ofNat n)).run rest := by
  induction n using Nat.strongRecOn generalizing rest with
  | ind n ih =>
    by_cases short : n < 10
    · rw [Nat.toDigits_of_lt_base short]
      refine Scanning.run_silent rest ?_
      interval_cases n <;> rfl
    -- The last digit comes after the digits of the other ones.
    · have last : n % 10 < 10 := Nat.mod_lt n (by decide)
      have whole : n / 10 * 10 + n % 10 = n := Nat.div_add_mod' n 10
      rw [Nat.toDigits_of_base_le (by decide) (by omega), List.append_assoc,
        ih (n / 10) (by omega) _ (by omega)]
      refine Scanning.run_silent rest ?_
      simp only [Scanning.feed, NumeralStage.next, digit?_digitChar last, Numeral.ofNat, whole]

/-- A written count is read as its numeral. -/
theorem run_ofNat (n : Nat) (delimited : Delimited rest) :
    Scanning.between.run ((Numeral.ofNat n).text ++ rest) =
      .number (.ok (.ofNat n)) :: Scanning.between.run rest := by
  have digits : (Numeral.ofNat n).text = Nat.toDigits 10 n := by
    simp [Numeral.text, Numeral.ofNat]
  rw [digits]
  rcases Nat.eq_zero_or_pos n with rfl | positive
  · exact run_number_of_delimited rest rfl _ delimited
  · rw [run_toDigits rest positive]
    exact run_number_of_delimited rest rfl _ delimited

end PageLint.Json
