import Mathlib.Data.Option.Basic
import PageLint.Proofs.Json.Faultless

/-!
# The grammar of JSON

A well-formed text is a sequence of marks, words, numerals and strings with white space anywhere
between them, and the sequence is that of a document without faults. All of this is said of the text
alone: nothing is read here, and there is no order in which things happen.

Strings are spelled in pieces, and half of a surrogate pair is as good a piece as any other. Whether
the pieces of a string make up a text is a question of its own.

## Main definitions

* `Json.Lexeme` — the written forms of a token
* `Json.Spelling` — texts that spell a sequence of tokens
* `Json.Document.tokens`, `Json.Document.Faultless` — the tokens of a document; it has no faults
* `Json.Spells` — a text that spells a document
* `Json.Quoted.Says` — the text of a string
-/

namespace PageLint.Json

/-! ## Numerals -/

/-- The value of each digit. -/
def Digits (ds : List Nat) (cs : List Char) : Prop :=
  List.Forall₂ (fun d c => digit? c = some d) ds cs

/-- The number whose last digits are the given ones, and whose digits before them stand for
`n`. -/
def decimal (n : Nat) (ds : List Nat) : Nat := ds.foldl (fun n d => n * 10 + d) n

/-- The whole part of a numeral: digits, of which the first is a zero only where it is alone. -/
def IsWhole (n : Nat) (cs : List Char) : Prop :=
  ∃ d ds, Digits (d :: ds) cs ∧ (d = 0 → ds = []) ∧ decimal 0 (d :: ds) = n

/-- What follows the whole part: nothing, or a point and at least one digit. -/
def IsFraction (ds : List Nat) (cs : List Char) : Prop :=
  (ds = [] ∧ cs = []) ∨ ds ≠ [] ∧ ∃ digits, cs = '.' :: digits ∧ Digits ds digits

/-- The end of a numeral: nothing, or its mark, a sign that may be left out where it says nothing,
and at least one digit. -/
def IsExponent : Option (Bool × Nat) → List Char → Prop
  | none, cs => cs = []
  | some (minus, size), cs =>
    ∃ mark sign digits ds, cs = mark :: (sign ++ digits) ∧ (mark = 'e' ∨ mark = 'E') ∧
      (if minus then sign = ['-'] else sign = [] ∨ sign = ['+']) ∧
      ds ≠ [] ∧ Digits ds digits ∧ decimal 0 ds = size

/-- The written forms of a numeral. -/
def Numeral.Spelled (n : Numeral) (cs : List Char) : Prop :=
  ∃ whole fraction exponent,
    cs = (if n.negative then ['-'] else []) ++ (whole ++ (fraction ++ exponent)) ∧
      IsWhole n.whole whole ∧ IsFraction n.fraction fraction ∧ IsExponent n.exponent exponent

/-! ## Strings -/

/-- The written forms of a piece of a string. -/
inductive Piece.Spelled : Piece → List Char → Prop
  | plain {c : Char} (quote : c ≠ '"') (backslash : c ≠ '\\') (control : ¬ c.toNat < 0x20) :
    Spelled (.char c) [c]
  | letter {l c : Char} (known : unescape? l = some c) : Spelled (.char c) ['\\', l]
  | unit {digits : List Char} {value : Nat} (four : digits.length = 4)
    (number : Text.hexNumber? digits = some value) : Spelled (.unit value) ('\\' :: 'u' :: digits)

/-- The characters that pieces are joined to. A unit that is half of a surrogate pair needs its
other half. -/
inductive Joins : List Piece → List Char → Prop
  | nil : Joins [] []
  | char (c : Char) {ps : List Piece} {cs : List Char} (others : Joins ps cs) :
    Joins (.char c :: ps) (c :: cs)
  | unit {u : Nat} {ps : List Piece} {cs : List Char} (lead : isLead u = false)
    (trail : isTrail u = false) (others : Joins ps cs) :
    Joins (.unit u :: ps) (Char.ofNat u :: cs)
  | pair {u v : Nat} {ps : List Piece} {cs : List Char} (lead : isLead u = true)
    (trail : isTrail v = true) (others : Joins ps cs) :
    Joins (.unit u :: .unit v :: ps) (ofPair u v :: cs)

/-- The string is complete, and this is its text. -/
def Quoted.Says (q : Quoted) (s : String) : Prop :=
  q.fault = none ∧ Joins q.pieces s.toList

theorem isLead_eq_false_of_isTrail {u : Nat} (trail : isTrail u = true) : isLead u = false := by
  simp only [isTrail, Bool.and_eq_true, decide_eq_true_eq] at trail
  simp only [isLead, Bool.and_eq_false_iff, decide_eq_false_iff_not]
  omega

theorem isTrail_eq_false_of_isLead {u : Nat} (lead : isLead u = true) : isTrail u = false := by
  cases trail : isTrail u with
  | false => rfl
  | true => rw [isLead_eq_false_of_isTrail trail] at lead; cases lead

theorem join_eq_ok_iff {fault : Option Fault} {ps : List Piece} {cs : List Char} :
    join fault ps = .ok cs ↔ fault = none ∧ Joins ps cs := by
  constructor
  · intro joined
    fun_induction join fault ps generalizing cs with
    | case1 complete => cases joined; exact ⟨complete, .nil⟩
    | case2 => cases joined
    | case3 c ps ih =>
      obtain ⟨rest, others, rfl⟩ := map_eq_ok_iff.mp joined
      exact (ih others).imp_right (.char c)
    | case4 => cases joined
    | case5 u ps trail lead ih =>
      obtain ⟨rest, others, rfl⟩ := map_eq_ok_iff.mp joined
      exact (ih others).imp_right (.unit (by simpa using lead) (by simpa using trail))
    | case6 u trail lead v ps pair ih =>
      obtain ⟨rest, others, rfl⟩ := map_eq_ok_iff.mp joined
      exact (ih others).imp_right (.pair (by simpa using lead) pair)
    | case7 => cases joined
    | case8 => cases joined
    | case9 => cases joined
  · rintro ⟨rfl, joins⟩
    induction joins with
    | nil => rfl
    | char c others ih => rw [join, ih]; rfl
    | unit lead trail others ih => rw [join.eq_def]; simp [lead, trail, ih]
    | pair lead trail others ih =>
      rw [join]
      simp [lead, trail, isTrail_eq_false_of_isLead lead, ih]

theorem Quoted.text_eq_ok_iff {q : Quoted} {s : String} : q.text = .ok s ↔ q.Says s := by
  rw [Quoted.text, map_eq_ok_iff, Quoted.Says, ← join_eq_ok_iff]
  constructor
  · rintro ⟨cs, joined, rfl⟩
    rw [joined, String.toList_ofList]
  · intro joined
    exact ⟨s.toList, joined, String.ofList_toList⟩

/-- A string has one text. -/
theorem Quoted.Says.unique {q : Quoted} {s s' : String} (text : q.Says s) (text' : q.Says s') :
    s = s' := by
  rw [← Quoted.text_eq_ok_iff] at text text'
  exact Except.ok.inj (text.symm.trans text')

/-! ## Tokens -/

/-- The letters of a word. -/
def Word.letters : Word → List Char
  | .null => ['n', 'u', 'l', 'l']
  | .true => ['t', 'r', 'u', 'e']
  | .false => ['f', 'a', 'l', 's', 'e']

/-- The mark that opens a container. -/
def Bracket.left : Bracket → Char
  | .square => '['
  | .curly => '{'

/-- The mark that closes a container. -/
def Bracket.right : Bracket → Char
  | .square => ']'
  | .curly => '}'

/-- The written forms of a token. A token with a fault has none. -/
inductive Lexeme : Token → List Char → Prop
  | opening (b : Bracket) : Lexeme (.opening b) [b.left]
  | closing (b : Bracket) : Lexeme (.closing b) [b.right]
  | comma : Lexeme .comma [',']
  | colon : Lexeme .colon [':']
  | word (w : Word) : Lexeme (.word w none) w.letters
  | number {n : Numeral} {cs : List Char} (spelled : n.Spelled cs) : Lexeme (.number (.ok n)) cs
  | text {pieces : List Piece} {parts : List (List Char)}
    (spelled : List.Forall₂ Piece.Spelled pieces parts) :
    Lexeme (.text ⟨pieces, none⟩) ('"' :: (parts.flatten ++ ['"']))

/-- The text spells the tokens, with white space anywhere between them. -/
inductive Spelling : List Token → List Char → Prop
  | nil {gap : List Char} (blank : ∀ c ∈ gap, isSpace c = true) : Spelling [] gap
  | cons {gap cs rest : List Char} {t : Token} {ts : List Token}
    (blank : ∀ c ∈ gap, isSpace c = true) (lexeme : Lexeme t cs) (others : Spelling ts rest) :
    Spelling (t :: ts) (gap ++ (cs ++ rest))

/-! ## Documents -/

/-- The bracket that ends a container, where it is ended. -/
def Ending.tokens (b : Bracket) : Ending → List Token
  | .closed => [.closing b]
  | .broken _ _ => []

mutual

/-- The tokens of a document, with commas between items and between entries. -/
def Document.tokens : Document → List Token
  | .absent _ => []
  | .word w fault => [.word w fault]
  | .number n => [.number n]
  | .text q => [.text q]
  | .array items ending =>
    .opening .square :: ([.comma].intercalate (itemTokens items) ++ ending.tokens .square)
  | .object entries ending =>
    .opening .curly :: ([.comma].intercalate (entryTokens entries) ++ ending.tokens .curly)

/-- The tokens of each item of an array. -/
def Document.itemTokens : List Document → List (List Token)
  | [] => []
  | d :: ds => d.tokens :: itemTokens ds

/-- The tokens of each entry of an object: the key, a colon and the value. -/
def Document.entryTokens : List (Quoted × Document) → List (List Token)
  | [] => []
  | (q, d) :: es => (.text q :: .colon :: d.tokens) :: entryTokens es

end

namespace Document

/-- The document is complete, and so are all its parts. -/
inductive Faultless : Document → Prop
  | word (w : Word) : Faultless (.word w none)
  | number (n : Numeral) : Faultless (.number (.ok n))
  | text (pieces : List Piece) : Faultless (.text ⟨pieces, none⟩)
  | array {items : List Document} (inner : ∀ d ∈ items, Faultless d) :
    Faultless (.array items .closed)
  | object {entries : List (Quoted × Document)}
    (keys : ∀ e ∈ entries, e.1.fault = none) (inner : ∀ e ∈ entries, Faultless e.2) :
    Faultless (.object entries .closed)

theorem faultless_word_iff {w : Word} {fault : Option Fault} :
    (Document.word w fault).Faultless ↔ fault = none :=
  ⟨fun faultless => by cases faultless; rfl, fun complete => complete ▸ .word w⟩

theorem faultless_number_iff {n : Except Fault Numeral} :
    (Document.number n).Faultless ↔ ∃ m, n = .ok m :=
  ⟨fun faultless => by cases faultless; exact ⟨_, rfl⟩, fun ⟨m, known⟩ => known ▸ .number m⟩

theorem faultless_text_iff {q : Quoted} : (Document.text q).Faultless ↔ q.fault = none := by
  constructor
  · rintro ⟨⟩
    rfl
  · intro complete
    obtain ⟨pieces, fault⟩ := q
    obtain rfl := complete
    exact .text pieces

theorem faultless_array_iff {items : List Document} {ending : Ending} :
    (Document.array items ending).Faultless ↔ (∀ d ∈ items, d.Faultless) ∧ ending = .closed := by
  constructor
  · rintro (_ | _ | _ | inner)
    exact ⟨inner, rfl⟩
  · rintro ⟨inner, rfl⟩
    exact .array inner

theorem faultless_object_iff {entries : List (Quoted × Document)} {ending : Ending} :
    (Document.object entries ending).Faultless ↔
      (∀ e ∈ entries, e.1.fault = none ∧ e.2.Faultless) ∧ ending = .closed := by
  constructor
  · rintro (_ | _ | _ | _ | ⟨keys, inner⟩)
    exact ⟨fun e listed => ⟨keys e listed, inner e listed⟩, rfl⟩
  · rintro ⟨inner, rfl⟩
    exact .object (fun e listed => (inner e listed).1) fun e listed => (inner e listed).2

theorem ending_fault_eq_none_iff {ending : Ending} : ending.fault = none ↔ ending = .closed := by
  cases ending <;> simp [Ending.fault]

mutual

/-- Skipping a document meets no fault exactly if it has none. -/
theorem skip_eq_none_iff : (d : Document) → (d.skip = none ↔ d.Faultless)
  | .absent f => ⟨nofun, nofun⟩
  | .word w fault => faultless_word_iff.symm
  | .number n => by cases n <;> simp [skip, faultless_number_iff]
  | .text q => faultless_text_iff.symm
  | .array items ending => by
    rw [skip, Option.orElse_eq_none, skipItems_eq_none_iff, ending_fault_eq_none_iff,
      faultless_array_iff]
  | .object entries ending => by
    rw [skip, Option.orElse_eq_none, skipEntries_eq_none_iff, ending_fault_eq_none_iff,
      faultless_object_iff]

theorem skipItems_eq_none_iff :
    (ds : List Document) → (skipItems ds = none ↔ ∀ d ∈ ds, d.Faultless)
  | [] => by simp [skipItems]
  | d :: ds => by
    rw [skipItems, Option.orElse_eq_none, skip_eq_none_iff d, skipItems_eq_none_iff ds,
      List.forall_mem_cons]

theorem skipEntries_eq_none_iff :
    (es : List (Quoted × Document)) →
      (skipEntries es = none ↔ ∀ e ∈ es, e.1.fault = none ∧ e.2.Faultless)
  | [] => by simp [skipEntries]
  | (q, d) :: es => by
    rw [skipEntries, Option.orElse_eq_none, Option.orElse_eq_none, skip_eq_none_iff d,
      skipEntries_eq_none_iff es, List.forall_mem_cons, and_assoc]

end

mutual

/-- A document that has a value has no faults. -/
theorem faultless_of_toJson : (d : Document) → {v : Json} → d.toJson = .ok v → d.Faultless
  | .absent f, _, valued => by cases valued
  | .word w (some f), _, valued => by cases valued
  | .word w none, _, _ => .word w
  | .number n, _, valued => by
    obtain ⟨m, known, -⟩ := map_eq_ok_iff.mp valued
    exact faultless_number_iff.mpr ⟨m, known⟩
  | .text q, _, valued => by
    obtain ⟨s, text, -⟩ := map_eq_ok_iff.mp valued
    exact faultless_text_iff.mpr (Quoted.text_eq_ok_iff.mp text).1
  | .array items ending, _, valued => by
    obtain ⟨vs, inner, ended⟩ := bind_eq_ok_iff.mp valued
    cases ending with
    | broken => cases ended
    | closed => exact .array (faultless_of_toJsonItems items inner)
  | .object entries ending, _, valued => by
    obtain ⟨es, inner, ended⟩ := bind_eq_ok_iff.mp valued
    cases ending with
    | broken => cases ended
    | closed =>
      exact faultless_object_iff.mpr ⟨faultless_of_toJsonEntries entries inner, rfl⟩

theorem faultless_of_toJsonItems :
    (ds : List Document) → {vs : List Json} → toJsonItems ds = .ok vs → ∀ d ∈ ds, d.Faultless
  | [], _, _ => List.forall_mem_nil _
  | d :: ds, _, valued => by
    obtain ⟨v, first, later⟩ := bind_eq_ok_iff.mp valued
    obtain ⟨vs, others, -⟩ := bind_eq_ok_iff.mp later
    exact List.forall_mem_cons.mpr
      ⟨faultless_of_toJson d first, faultless_of_toJsonItems ds others⟩

theorem faultless_of_toJsonEntries :
    (es : List (Quoted × Document)) → {fs : List (String × Json)} → toJsonEntries es = .ok fs →
      ∀ e ∈ es, e.1.fault = none ∧ e.2.Faultless
  | [], _, _ => List.forall_mem_nil _
  | (q, d) :: es, _, valued => by
    obtain ⟨k, key, later⟩ := bind_eq_ok_iff.mp valued
    obtain ⟨v, first, later⟩ := bind_eq_ok_iff.mp later
    obtain ⟨fs, others, -⟩ := bind_eq_ok_iff.mp later
    exact List.forall_mem_cons.mpr
      ⟨⟨(Quoted.text_eq_ok_iff.mp key).1, faultless_of_toJson d first⟩,
        faultless_of_toJsonEntries es others⟩

end

end Document

/-- The text spells the document and nothing else. -/
def Spells (cs : List Char) (d : Document) : Prop :=
  d.Faultless ∧ Spelling d.tokens cs

end PageLint.Json
