import Mathlib.Data.List.Chain
import PageLint.Proofs.Json.Numerals
import PageLint.Proofs.Json.Printing

/-!
# The scanner and the spelling of tokens

What the scanner makes of a text spells the text, as long as it finds no fault, and a text that
spells tokens is scanned as these tokens. Only two numerals in a row would not be kept apart, and
nowhere in a document do two of them meet.

From inside a token the scanner either finds a fault or comes to the end of the token, and then it
goes on between two tokens. This is said first for numerals, then for words and for strings.

## Main definitions

* `Json.Token.Faultless` — the token is complete
* `Json.Token.Apart` — the tokens may follow each other without white space

## Main results

* `spelling_run` — what the scanner makes of a text spells the text
* `run_of_spelling` — what the scanner makes of a spelling
-/

namespace PageLint.Json

/-- The token is complete. -/
def Token.Faultless : Token → Prop
  | .word _ fault => fault = none
  | .number n => ∃ m, n = .ok m
  | .text q => q.fault = none
  | .stray => False
  | .opening _ | .closing _ | .comma | .colon => True

/-- Not both tokens are numerals. -/
def Token.Apart : Token → Token → Prop
  | .number _, .number _ => False
  | _, _ => True

variable {c : Char} {cs rest : List Char}

/-! ## Faults -/

/-- The tokens from here on are complete. -/
def Scanning.Clean (s : Scanning) (cs : List Char) : Prop := ∀ t ∈ s.run cs, t.Faultless

variable {s s' : Scanning} {ts : List Token} {t : Token}

theorem Scanning.Clean.of_silent (clean : s.Clean (c :: cs)) (fed : s.feed c = ([], some s')) :
    s'.Clean cs := by
  rwa [Scanning.Clean, ← Scanning.run_silent cs fed]

theorem Scanning.not_clean_of_fault (fed : s.feed c = ([t], none)) (fault : ¬ t.Faultless) :
    ¬ s.Clean (c :: cs) := by
  intro clean
  refine fault (clean t ?_)
  rw [Scanning.run, fed]
  exact List.mem_singleton_self t

theorem Scanning.not_clean_nil (finish : s.finish = [t]) (fault : ¬ t.Faultless) :
    ¬ s.Clean [] := by
  intro clean
  refine fault (clean t ?_)
  rw [Scanning.run, finish]
  exact List.mem_singleton_self t

theorem Scanning.run_mark (fed : s.feed c = ([t], some s')) : s.run (c :: cs) = t :: s'.run cs := by
  rw [Scanning.run, fed]
  rfl

/-! ## Numerals -/

theorem run_number_of_stop {stage : NumeralStage} {n : Numeral} (step : stage.next n c = .stop)
    (complete : stage.complete = true) :
    (Scanning.number stage n).run (c :: cs) =
      .number (.ok n) :: Scanning.between.run (c :: cs) := by
  simp only [Scanning.run, Scanning.feed, step, complete, if_true]
  rcases start c with ⟨tokens, _ | next⟩ <;> rfl

/-- Inside a numeral the scanner comes to its end or finds a fault. -/
theorem exists_takes_of_clean {stage : NumeralStage} {n : Numeral}
    (clean : (Scanning.number stage n).Clean cs) :
    ∃ m text rest, cs = text ++ rest ∧ stage.Takes m n text ∧
      (Scanning.number stage n).run cs = .number (.ok m) :: Scanning.between.run rest := by
  induction cs generalizing stage n with
  | nil =>
    cases complete : stage.complete with
    | false =>
      have finish : (Scanning.number stage n).finish = [.number (.error .cut)] := by
        simp [Scanning.finish, complete]
      exact absurd clean (Scanning.not_clean_nil finish (by simp [Token.Faultless]))
    | true =>
      refine ⟨n, [], [], rfl, ⟨complete, rfl⟩, ?_⟩
      simp [Scanning.run, Scanning.finish, complete]
  | cons c cs ih =>
    have broken (fed : (Scanning.number stage n).feed c = ([.number (.error .malformed)], none)) :
        False :=
      Scanning.not_clean_of_fault fed (by simp [Token.Faultless]) clean
    cases step : stage.next n c with
    | go stage' n' =>
      have fed : (Scanning.number stage n).feed c = ([], some (.number stage' n')) := by
        simp only [Scanning.feed, step]
      obtain ⟨m, text, rest, rfl, taken, onward⟩ := ih (clean.of_silent fed)
      refine ⟨m, c :: text, rest, rfl, (NumeralStage.takes_cons_of_go step).mpr taken, ?_⟩
      rw [Scanning.run_silent _ fed, onward]
    | stop =>
      cases complete : stage.complete with
      | false => exact (broken (by simp [Scanning.feed, step, complete])).elim
      | true => exact ⟨n, [], c :: cs, rfl, ⟨complete, rfl⟩, run_number_of_stop step complete⟩
    | fault => exact (broken (by simp [Scanning.feed, step])).elim

/-- What takes a numeral to its end is scanned as this numeral, if what follows does not go on
it. -/
theorem run_of_takes {stage : NumeralStage} {m n : Numeral} {text : List Char}
    (taken : stage.Takes m n text) (delimited : Delimited rest) :
    (Scanning.number stage n).run (text ++ rest) =
      .number (.ok m) :: Scanning.between.run rest := by
  induction text generalizing stage n with
  | nil =>
    obtain ⟨complete, rfl⟩ := taken
    exact run_number_of_delimited rest complete n delimited
  | cons c text ih =>
    obtain ⟨stage', n', step, taken⟩ := taken
    have fed : (Scanning.number stage n).feed c = ([], some (.number stage' n')) := by
      simp only [Scanning.feed, step]
    rw [List.cons_append, Scanning.run_silent _ fed, ih taken]

/-- A digit begins a numeral without a sign. -/
theorem start_of_digit {d : Nat} (digit : digit? c = some d) :
    start c = (Scanning.number .sign ⟨false, 0, [], none⟩).feed c := by
  have range : '0' ≤ c ∧ c ≤ '9' := by
    by_contra outside
    rw [digit?, if_neg outside] at digit
    cases digit
  have lower : 48 ≤ c.toNat := range.1
  have upper : c.toNat ≤ 57 := range.2
  rw [← Char.ofNat_toNat c]
  generalize c.toNat = n at lower upper
  interval_cases n <;> rfl

theorem run_digit {d : Nat} (digit : digit? c = some d) :
    Scanning.between.run (c :: cs) =
      (Scanning.number .sign ⟨false, 0, [], none⟩).run (c :: cs) := by
  rw [Scanning.run, Scanning.run, ← start_of_digit digit]
  rfl

/-! ## Words -/

/-- Inside a word the scanner comes to its end or finds a fault. -/
theorem exists_run_word_of_clean {w : Word} {left : List Char} (some' : left ≠ [])
    (clean : (Scanning.word w left).Clean cs) :
    ∃ rest, cs = left ++ rest ∧
      (Scanning.word w left).run cs = .word w none :: Scanning.between.run rest := by
  induction left generalizing cs with
  | nil => exact absurd rfl some'
  | cons l left ih =>
    cases cs with
    | nil => exact absurd clean (Scanning.not_clean_nil rfl (by simp [Token.Faultless]))
    | cons c cs =>
      by_cases same : c = l
      · subst same
        cases left with
        | nil => exact ⟨cs, rfl, Scanning.run_mark (by simp [Scanning.feed])⟩
        | cons l' ls =>
          have fed :
              (Scanning.word w (c :: l' :: ls)).feed c = ([], some (.word w (l' :: ls))) := by
            simp [Scanning.feed]
          obtain ⟨rest, rfl, onward⟩ := ih (List.cons_ne_nil l' ls) (clean.of_silent fed)
          refine ⟨rest, rfl, ?_⟩
          rw [Scanning.run_silent _ fed, onward]
      · have fed : (Scanning.word w (l :: left)).feed c = ([.word w (some .malformed)], none) := by
          cases left <;> simp [Scanning.feed, same]
        exact absurd clean (Scanning.not_clean_of_fault fed (by simp [Token.Faultless]))

theorem run_letters (w : Word) :
    Scanning.between.run (w.letters ++ rest) = .word w none :: Scanning.between.run rest := by
  cases w <;> rfl

/-! ## Strings -/

/-- Inside the digits of a unit the scanner comes to their end or finds a fault. -/
theorem exists_run_unit_of_clean {held : List Piece} {bytes : Nat} {value : Option Nat}
    (early : bytes < 4) (clean : (Scanning.text held (.hex bytes value)).Clean cs) :
    ∃ n digits v rest, value = some n ∧ cs = digits ++ rest ∧ bytes + digits.length = 4 ∧
      hexFrom? n digits = some v := by
  induction cs generalizing bytes value with
  | nil => exact absurd clean (Scanning.not_clean_nil rfl (by simp [Token.Faultless]))
  | cons c cs ih =>
    have extended {n' : Nat} (known : (do return (← value) * 16 + (← Text.hexValue? c)) = some n') :
        ∃ n, value = some n ∧ ∃ d, Text.hexValue? c = some d ∧ n * 16 + d = n' := by
      simpa [Option.bind_eq_some_iff] using known
    by_cases last : bytes + c.utf8Size < 4
    · have fed : (Scanning.text held (.hex bytes value)).feed c =
          ([], some (.text held (.hex (bytes + c.utf8Size)
            (do return (← value) * 16 + (← Text.hexValue? c))))) := by
        simp [Scanning.feed, Escape.next, last]
      obtain ⟨n', digits, v, rest, known, rfl, length, number⟩ := ih last (clean.of_silent fed)
      obtain ⟨n, rfl, d, digit, rfl⟩ := extended known
      have narrow := utf8Size_of_hexValue? digit
      refine ⟨n, c :: digits, v, rest, rfl, rfl, ?_,
        hexFrom?_cons_eq_some_iff.mpr ⟨d, digit, number⟩⟩
      rw [List.length_cons]
      omega
    · cases known : (do return (← value) * 16 + (← Text.hexValue? c) : Option Nat) with
      | none =>
        have fed : (Scanning.text held (.hex bytes value)).feed c = brokenText held := by
          simp only [Scanning.feed, Escape.next, if_neg last, known]
        exact absurd clean (Scanning.not_clean_of_fault fed (by simp [Token.Faultless]))
      | some n' =>
        obtain ⟨n, rfl, d, digit, rfl⟩ := extended known
        have narrow := utf8Size_of_hexValue? digit
        refine ⟨n, [c], n * 16 + d, cs, rfl, rfl, ?_, hexFrom?_cons_eq_some_iff.mpr ⟨d, digit, rfl⟩⟩
        rw [List.length_singleton]
        omega

/-- The written form of a piece is read as this piece. -/
theorem run_piece {piece : Piece} {part : List Char} (spelled : piece.Spelled part)
    (held : List Piece) :
    (Scanning.text held .plain).run (part ++ rest) =
      (Scanning.text (piece :: held) .plain).run rest := by
  cases spelled with
  | plain quote backslash control =>
    exact Scanning.run_silent _ (by simp [Scanning.feed, Escape.next, quote, backslash, control])
  | letter known => exact run_letter rest known held
  | @unit digits value four number =>
    have opened (cs : List Char) :
        (Scanning.text held .plain).run ('\\' :: 'u' :: cs) =
          (Scanning.text held (.hex 0 (some 0))).run cs := rfl
    rw [List.cons_append, List.cons_append, opened]
    exact run_unit rest number (by omega) (by decide) held

/-- Between two pieces of a string the scanner comes to its end, reads another piece or finds a
fault. -/
theorem exists_piece_of_clean {held : List Piece} (clean : (Scanning.text held .plain).Clean cs) :
    (∃ rest, cs = '"' :: rest) ∨
      ∃ piece part rest, cs = part ++ rest ∧ Piece.Spelled piece part := by
  cases cs with
  | nil => exact absurd clean (Scanning.not_clean_nil rfl (by simp [Token.Faultless]))
  | cons c cs =>
    by_cases quote : c = '"'
    · exact .inl ⟨cs, by rw [quote]⟩
    refine .inr ?_
    by_cases backslash : c = '\\'
    · subst backslash
      replace clean : (Scanning.text held .backslash).Clean cs := clean.of_silent rfl
      cases cs with
      | nil => exact absurd clean (Scanning.not_clean_nil rfl (by simp [Token.Faultless]))
      | cons l cs =>
        by_cases unit : l = 'u'
        · subst unit
          replace clean : (Scanning.text held (.hex 0 (some 0))).Clean cs := clean.of_silent rfl
          obtain ⟨n, digits, v, rest, known, rfl, four, number⟩ :=
            exists_run_unit_of_clean (by decide) clean
          obtain rfl := Option.some.inj known
          exact ⟨.unit v, '\\' :: 'u' :: digits, rest, rfl, .unit (by omega) number⟩
        · cases known : unescape? l with
          | some c => exact ⟨.char c, ['\\', l], cs, rfl, .letter known⟩
          | none =>
            have fed : (Scanning.text held .backslash).feed l = brokenText held := by
              simp [Scanning.feed, Escape.next, unit, known]
            exact absurd clean (Scanning.not_clean_of_fault fed (by simp [Token.Faultless]))
    · by_cases control : c.toNat < 0x20
      · have fed : (Scanning.text held .plain).feed c = brokenText held := by
          simp [Scanning.feed, Escape.next, quote, backslash, control]
        exact absurd clean (Scanning.not_clean_of_fault fed (by simp [Token.Faultless]))
      · exact ⟨.char c, [c], cs, rfl, .plain quote backslash control⟩

theorem Piece.Spelled.ne_nil {piece : Piece} {part : List Char} (spelled : piece.Spelled part) :
    part ≠ [] := by
  cases spelled <;> exact List.cons_ne_nil _ _

/-- Inside a string the scanner comes to its end or finds a fault. -/
theorem exists_run_text_of_clean {held : List Piece}
    (clean : (Scanning.text held .plain).Clean cs) :
    ∃ pieces parts rest, cs = parts.flatten ++ '"' :: rest ∧
      List.Forall₂ Piece.Spelled pieces parts ∧
      (Scanning.text held .plain).run cs =
        .text ⟨held.reverse ++ pieces, none⟩ :: Scanning.between.run rest := by
  induction length : cs.length using Nat.strongRecOn generalizing held cs with
  | ind n ih =>
    rcases exists_piece_of_clean clean with ⟨rest, rfl⟩ | ⟨piece, part, rest, rfl, spelled⟩
    · refine ⟨[], [], rest, rfl, .nil, ?_⟩
      rw [List.append_nil]
      rfl
    · have shorter : rest.length < n := by
        have longer := List.length_pos_iff.mpr spelled.ne_nil
        rw [← length, List.length_append]
        omega
      have onward : (Scanning.text held .plain).run (part ++ rest) =
          (Scanning.text (piece :: held) .plain).run rest := run_piece spelled held
      rw [Scanning.Clean, onward] at clean
      obtain ⟨pieces, parts, rest, rfl, others, ends⟩ := ih _ shorter clean rfl
      refine ⟨piece :: pieces, part :: parts, rest, ?_, .cons spelled others, ?_⟩
      · rw [List.flatten_cons, List.append_assoc]
      · rw [onward, ends, List.reverse_cons, List.append_assoc, List.singleton_append]

/-- The pieces of a string and its end are read as the string. -/
theorem run_parts {pieces : List Piece} {parts : List (List Char)}
    (spelled : List.Forall₂ Piece.Spelled pieces parts) (held : List Piece) :
    (Scanning.text held .plain).run (parts.flatten ++ '"' :: rest) =
      .text ⟨held.reverse ++ pieces, none⟩ :: Scanning.between.run rest := by
  induction spelled generalizing held with
  | nil =>
    rw [List.append_nil]
    rfl
  | cons first others ih =>
    rw [List.flatten_cons, List.append_assoc, run_piece first, ih, List.reverse_cons,
      List.append_assoc, List.singleton_append]

/-! ## Texts -/

theorem Spelling.blank (blank : isSpace c = true) (spelling : Spelling ts cs) :
    Spelling ts (c :: cs) := by
  have wider {gap : List Char} (blanks : ∀ c ∈ gap, isSpace c = true) :
      ∀ d ∈ c :: gap, isSpace d = true := List.forall_mem_cons.mpr ⟨blank, blanks⟩
  cases spelling with
  | nil blanks => exact .nil (wider blanks)
  | cons blanks lexeme others => exact .cons (wider blanks) lexeme others

theorem Spelling.lexeme {text : List Char} (lexeme : Lexeme t text) (others : Spelling ts rest) :
    Spelling (t :: ts) (text ++ rest) :=
  .cons (List.forall_mem_nil _) lexeme others

/-- The beginnings of tokens. -/
theorem start_cases (c : Char) :
    isSpace c = true ∨ (∃ t, Lexeme t [c] ∧ start c = ([t], some .between)) ∨
      (c = '"' ∧ start c = ([], some (.text [] .plain))) ∨
      (∃ w : Word, w.letters = c :: w.tail ∧ start c = ([], some (.word w w.tail))) ∨
      (c = '-' ∧ start c = ([], some (.number .sign ⟨true, 0, [], none⟩))) ∨
      (∃ d, digit? c = some d) ∨ start c = ([.stray], none) := by
  by_cases blank : isSpace c = true
  · exact .inl blank
  refine .inr ?_
  by_cases h₁ : c = '['
  · exact .inl ⟨_, by rw [h₁]; exact .opening .square, by rw [h₁]; rfl⟩
  by_cases h₂ : c = ']'
  · exact .inl ⟨_, by rw [h₂]; exact .closing .square, by rw [h₂]; rfl⟩
  by_cases h₃ : c = '{'
  · exact .inl ⟨_, by rw [h₃]; exact .opening .curly, by rw [h₃]; rfl⟩
  by_cases h₄ : c = '}'
  · exact .inl ⟨_, by rw [h₄]; exact .closing .curly, by rw [h₄]; rfl⟩
  by_cases h₅ : c = ','
  · exact .inl ⟨_, by rw [h₅]; exact .comma, by rw [h₅]; rfl⟩
  by_cases h₆ : c = ':'
  · exact .inl ⟨_, by rw [h₆]; exact .colon, by rw [h₆]; rfl⟩
  refine .inr ?_
  by_cases quote : c = '"'
  · exact .inl ⟨quote, by rw [quote]; rfl⟩
  refine .inr ?_
  by_cases h₇ : c = 'n'
  · exact .inl ⟨.null, by rw [h₇]; rfl, by rw [h₇]; rfl⟩
  by_cases h₈ : c = 't'
  · exact .inl ⟨.true, by rw [h₈]; rfl, by rw [h₈]; rfl⟩
  by_cases h₉ : c = 'f'
  · exact .inl ⟨.false, by rw [h₉]; rfl, by rw [h₉]; rfl⟩
  refine .inr ?_
  by_cases minus : c = '-'
  · exact .inl ⟨minus, by rw [minus]; rfl⟩
  refine .inr ?_
  cases digit : digit? c with
  | some d => exact .inl ⟨d, rfl⟩
  | none =>
    exact .inr (by simp [start, blank, h₁, h₂, h₃, h₄, h₅, h₆, quote, h₇, h₈, h₉, minus, digit])

/-- Before a text the scanner passes over white space, reads a token off the text or finds a
fault. -/
theorem exists_lexeme_of_clean (clean : Scanning.between.Clean (c :: cs)) :
    isSpace c = true ∨ ∃ t text rest, c :: cs = c :: text ++ rest ∧ Lexeme t (c :: text) ∧
      Scanning.between.run (c :: cs) = t :: Scanning.between.run rest := by
  have fed : Scanning.between.feed c = start c := rfl
  rcases start_cases c with blank | ⟨t, lexeme, started⟩ | ⟨rfl, started⟩ | ⟨w, letters, started⟩ |
    ⟨rfl, started⟩ | ⟨d, digit⟩ | stray
  · exact .inl blank
  · exact .inr ⟨t, [], cs, rfl, lexeme, Scanning.run_mark (fed.trans started)⟩
  · obtain ⟨pieces, parts, rest, rfl, spelled, ends⟩ :=
      exists_run_text_of_clean (clean.of_silent (fed.trans started))
    refine .inr ⟨_, parts.flatten ++ ['"'], rest, by simp, .text spelled, ?_⟩
    rw [Scanning.run_silent _ (fed.trans started), ends]
    rfl
  · have some' : w.tail ≠ [] := by cases w <;> exact List.cons_ne_nil _ _
    obtain ⟨rest, rfl, ends⟩ := exists_run_word_of_clean some' (clean.of_silent (fed.trans started))
    refine .inr ⟨.word w none, w.tail, rest, rfl, letters ▸ .word w, ?_⟩
    rw [Scanning.run_silent _ (fed.trans started), ends]
  · obtain ⟨m, text, rest, rfl, taken, ends⟩ :=
      exists_takes_of_clean (clean.of_silent (fed.trans started))
    have negative : m.negative = true := taken.negative
    refine .inr ⟨.number (.ok m), text, rest, rfl, .number (Numeral.spelled_iff.mpr ?_), ?_⟩
    · rw [negative]
      exact ⟨text, rfl, taken⟩
    · rw [Scanning.run_silent _ (fed.trans started), ends]
  · rw [Scanning.Clean, run_digit digit] at clean
    obtain ⟨m, text, rest, whole, taken, ends⟩ := exists_takes_of_clean clean
    have negative : m.negative = false := taken.negative
    cases text with
    | nil => cases taken.1
    | cons c' text =>
      obtain ⟨rfl, rfl⟩ := List.cons.inj whole
      refine .inr ⟨.number (.ok m), text, rest, rfl, .number (Numeral.spelled_iff.mpr ?_), ?_⟩
      · rw [negative]
        exact ⟨c :: text, rfl, taken⟩
      · rw [run_digit digit, ends]
  · exact absurd clean (Scanning.not_clean_of_fault (fed.trans stray) id)

/-- What the scanner makes of a text spells the text, if there is no fault. -/
theorem spelling_run (clean : Scanning.between.Clean cs) :
    Spelling (Scanning.between.run cs) cs := by
  induction length : cs.length using Nat.strongRecOn generalizing cs with
  | ind n ih =>
    cases cs with
    | nil => exact .nil (List.forall_mem_nil _)
    | cons c cs =>
      rcases exists_lexeme_of_clean clean with blank | ⟨t, text, rest, whole, lexeme, onward⟩
      · have passed := run_blank cs blank
        rw [Scanning.Clean, passed] at clean
        rw [passed]
        exact (ih _ (by rw [← length]; exact Nat.lt_succ_self _) clean rfl).blank blank
      · have shorter : rest.length < n := by
          rw [← length, whole, List.cons_append, List.length_cons, List.length_append]
          omega
        rw [Scanning.Clean, onward] at clean
        have others := ih _ shorter (fun t listed => clean t (List.mem_cons_of_mem _ listed)) rfl
        rw [onward, whole]
        exact others.lexeme lexeme

/-- A token that is not a numeral does not go on one. -/
theorem delimited_of_lexeme {text : List Char} (lexeme : Lexeme t text)
    (other : ∀ n, t ≠ .number n) : Delimited (text ++ rest) := by
  intro c first
  cases lexeme with
  | opening b | closing b => cases b <;> cases first <;> rfl
  | comma | colon | text => cases first; rfl
  | word w => cases w <;> cases first <;> rfl
  | @number n => exact absurd rfl (other (.ok n))

theorem Spelling.delimited (spelling : Spelling ts cs)
    (other : ∀ t ∈ ts.head?, ∀ n, t ≠ .number n) : Delimited cs := by
  cases spelling with
  | nil blanks =>
    have empty : Delimited [] := by rintro _ ⟨⟩
    have delimited := delimited_blanks blanks empty
    rwa [List.append_nil] at delimited
  | cons blanks lexeme others =>
    exact delimited_blanks blanks (delimited_of_lexeme lexeme (other _ rfl))

/-- A written numeral is scanned as this numeral, if what follows does not go on it. -/
theorem run_numeral {n : Numeral} {text : List Char} (spelled : n.Spelled text)
    (delimited : Delimited rest) :
    Scanning.between.run (text ++ rest) = .number (.ok n) :: Scanning.between.run rest := by
  obtain ⟨text, rfl, taken⟩ := Numeral.spelled_iff.mp spelled
  cases negative : n.negative with
  | true =>
    rw [negative] at taken
    have fed : Scanning.between.feed '-' = ([], some (.number .sign ⟨true, 0, [], none⟩)) := rfl
    exact (Scanning.run_silent _ fed).trans (run_of_takes taken delimited)
  | false =>
    rw [negative] at taken
    cases text with
    | nil => cases taken.1
    | cons c text =>
      cases digit : digit? c with
      | none =>
        have refused : NumeralStage.sign.next ⟨false, 0, [], none⟩ c = .fault := by
          simp [NumeralStage.next, digit]
        exact absurd taken (NumeralStage.not_takes_cons_of_fault refused)
      | some d => exact (run_digit digit).trans (run_of_takes taken delimited)

/-- A spelling of tokens is scanned as these tokens. -/
theorem run_of_spelling (spelling : Spelling ts cs) (apart : ts.IsChain Token.Apart) :
    Scanning.between.run cs = ts := by
  induction spelling with
  | @nil gap blanks =>
    have passed := run_blanks [] blanks
    rwa [List.append_nil] at passed
  | @cons gap text rest t ts blanks lexeme others ih =>
    obtain ⟨next, apart⟩ := List.isChain_cons.mp apart
    have onward := ih apart
    rw [run_blanks _ blanks, ← onward]
    cases lexeme with
    | opening b | closing b => cases b <;> rfl
    | comma | colon => rfl
    | word w => exact run_letters w
    | number spelled =>
      refine run_numeral spelled (others.delimited ?_)
      rintro t listed n rfl
      exact next _ listed
    | text spelled =>
      have opened (cs : List Char) :
          Scanning.between.run ('"' :: cs) = (Scanning.text [] .plain).run cs := rfl
      rw [List.cons_append, opened, List.append_assoc, List.singleton_append, run_parts spelled]
      rfl

end PageLint.Json
