import PageLint.Proofs.Json.Grammar

/-!
# Numerals as the scanner takes them

The scanner goes through a numeral in stages and learns its value on the way. From each stage the
characters that take the numeral to its end are described here by the grammar, beginning with the
last stages, and in the end the stages have disappeared: from its sign on, a numeral is taken to its
end by its written forms and by nothing else.

Three stages collect digits, and they do it in the same way.

## Main definitions

* `Json.NumeralStage.Takes` — the characters take a numeral to its end

## Main results

* `takes_digits` — what a stage that collects digits makes of them
* `Numeral.spelled_iff` — the written forms of a numeral
-/

namespace PageLint.Json

variable {c : Char} {cs : List Char}

/-! ## Leading digits -/

/-- The text begins with digits, and these and the rest have a property. The digits need not be all
that there are. -/
def Leads (p : List Nat → List Char → Prop) (cs : List Char) : Prop :=
  ∃ ds digits rest, cs = digits ++ rest ∧ Digits ds digits ∧ p ds rest

variable {p : List Nat → List Char → Prop}

theorem leads_of_none (holds : p [] cs) : Leads p cs :=
  ⟨[], [], cs, rfl, .nil, holds⟩

theorem leads_nil : Leads p [] ↔ p [] [] := by
  refine ⟨?_, leads_of_none⟩
  rintro ⟨ds, digits, rest, text, spelled, holds⟩
  obtain ⟨rfl, rfl⟩ := List.append_eq_nil_iff.mp text.symm
  cases spelled
  exact holds

theorem leads_cons_of_digit {d : Nat} (digit : digit? c = some d) :
    Leads p (c :: cs) ↔ p [] (c :: cs) ∨ Leads (fun ds rest => p (d :: ds) rest) cs := by
  constructor
  · rintro ⟨ds, digits, rest, text, spelled, holds⟩
    cases spelled with
    | nil =>
      obtain rfl : c :: cs = rest := text
      exact .inl holds
    | @cons d' c' ds digits first others =>
      obtain ⟨rfl, rfl⟩ := List.cons.inj text
      obtain rfl := Option.some.inj (digit.symm.trans first)
      exact .inr ⟨ds, digits, rest, rfl, others, holds⟩
  · rintro (holds | ⟨ds, digits, rest, rfl, spelled, holds⟩)
    · exact leads_of_none holds
    · exact ⟨d :: ds, c :: digits, rest, rfl, .cons digit spelled, holds⟩

theorem leads_cons_of_not_digit (digit : digit? c = none) :
    Leads p (c :: cs) ↔ p [] (c :: cs) := by
  refine ⟨?_, leads_of_none⟩
  rintro ⟨ds, digits, rest, text, spelled, holds⟩
  cases spelled with
  | nil =>
    obtain rfl : c :: cs = rest := text
    exact holds
  | cons first _ =>
    obtain ⟨rfl, -⟩ := List.cons.inj text
    cases digit.symm.trans first

theorem decimal_cons_zero (d : Nat) (ds : List Nat) : decimal 0 (d :: ds) = decimal d ds := by
  rw [decimal, List.foldl_cons, Nat.zero_mul, Nat.zero_add]
  rfl

/-! ## One step -/

namespace NumeralStage

/-- The characters take a numeral, of which so much has been read, to its end. -/
def Takes (m : Numeral) : NumeralStage → Numeral → List Char → Prop
  | stage, n, [] => stage.complete = true ∧ n = m
  | stage, n, c :: cs => ∃ stage' n', stage.next n c = .go stage' n' ∧ Takes m stage' n' cs

variable {stage stage' : NumeralStage} {m n n' : Numeral}

theorem takes_cons_of_go (step : stage.next n c = .go stage' n') :
    stage.Takes m n (c :: cs) ↔ stage'.Takes m n' cs := by
  constructor
  · rintro ⟨_, _, step', taken⟩
    obtain ⟨rfl, rfl⟩ := NumeralStep.go.inj (step.symm.trans step')
    exact taken
  · intro taken
    exact ⟨stage', n', step, taken⟩

theorem not_takes_cons_of_stop (step : stage.next n c = .stop) : ¬ stage.Takes m n (c :: cs) := by
  rintro ⟨_, _, step', -⟩
  cases step.symm.trans step'

theorem not_takes_cons_of_fault (step : stage.next n c = .fault) :
    ¬ stage.Takes m n (c :: cs) := by
  rintro ⟨_, _, step', -⟩
  cases step.symm.trans step'

theorem next_negative (step : stage.next n c = .go stage' n') : n'.negative = n.negative := by
  cases stage <;> grind [NumeralStage.next]

/-- A numeral keeps its sign. -/
theorem Takes.negative (taken : stage.Takes m n cs) : m.negative = n.negative := by
  induction cs generalizing stage n with
  | nil => rw [taken.2]
  | cons c cs ih =>
    obtain ⟨stage', n', step, taken⟩ := taken
    rw [ih taken, next_negative step]

/-- A stage that collects digits takes all of them, and then what takes the numeral to its end from
there. -/
theorem takes_digits {α : Type} (stage : NumeralStage) (state : α → Numeral) (push : α → Nat → α)
    (ends : α → List Char → Prop)
    (loop : ∀ a c d, digit? c = some d → stage.next (state a) c = .go stage (state (push a d)))
    (stop : ∀ a cs, (∀ c ∈ cs.head?, digit? c = none) → (stage.Takes m (state a) cs ↔ ends a cs))
    (apart : ∀ a cs, ends a cs → ∀ c ∈ cs.head?, digit? c = none) (a : α) :
    stage.Takes m (state a) cs ↔ Leads (fun ds rest => ends (ds.foldl push a) rest) cs := by
  induction cs generalizing a with
  | nil =>
    rw [stop a [] (by simp), leads_nil]
    rfl
  | cons c cs ih =>
    cases digit : digit? c with
    | some d =>
      have later : ¬ ends a (c :: cs) := fun ended => by
        cases digit.symm.trans (apart a (c :: cs) ended c rfl)
      rw [takes_cons_of_go (loop a c d digit), ih, leads_cons_of_digit digit]
      simp only [List.foldl_nil, later, false_or, List.foldl_cons]
    | none =>
      rw [stop a (c :: cs) (by rintro _ ⟨⟩; exact digit), leads_cons_of_not_digit digit]
      rfl

variable {b : Bool} {w : Nat} {f : List Nat}

/-! ## The exponent -/

theorem takes_exponent {minus : Bool} {size : Nat} :
    exponent.Takes m ⟨b, w, f, some (minus, size)⟩ cs ↔
      ∃ ds, Digits ds cs ∧ ⟨b, w, f, some (minus, decimal size ds)⟩ = m := by
  let ends (size : Nat) (rest : List Char) := rest = [] ∧ ⟨b, w, f, some (minus, size)⟩ = m
  have collected : exponent.Takes m ⟨b, w, f, some (minus, size)⟩ cs ↔
      Leads (fun ds rest => ends (decimal size ds) rest) cs := takes_digits exponent
    (fun size => ⟨b, w, f, some (minus, size)⟩) (fun k d => k * 10 + d) ends
    (fun k c d digit => by simp only [NumeralStage.next, digit])
    (fun k cs digit => by
      cases cs with
      | nil => simp [Takes, complete, ends]
      | cons c cs =>
        have stopped : exponent.next ⟨b, w, f, some (minus, k)⟩ c = .stop := by
          simp only [NumeralStage.next, digit c rfl]
        simp [not_takes_cons_of_stop stopped, ends])
    (fun k cs ended => by rw [ended.1]; simp) size
  rw [collected]
  constructor
  · rintro ⟨ds, digits, rest, rfl, spelled, rfl, known⟩
    rw [List.append_nil]
    exact ⟨ds, spelled, known⟩
  · rintro ⟨ds, spelled, known⟩
    exact ⟨ds, cs, [], (List.append_nil cs).symm, spelled, rfl, known⟩

theorem takes_markSign {minus : Bool} :
    markSign.Takes m ⟨b, w, f, some (minus, 0)⟩ cs ↔
      ∃ ds, ds ≠ [] ∧ Digits ds cs ∧ ⟨b, w, f, some (minus, decimal 0 ds)⟩ = m := by
  cases cs with
  | nil => simp [Takes, complete, Digits]
  | cons c cs =>
    -- From here on a sign makes no difference, once there is a digit.
    have same : markSign.Takes m ⟨b, w, f, some (minus, 0)⟩ (c :: cs) ↔
        exponent.Takes m ⟨b, w, f, some (minus, 0)⟩ (c :: cs) := Iff.rfl
    rw [same, takes_exponent]
    refine exists_congr fun ds => ⟨fun taken => ⟨?_, taken⟩, And.right⟩
    rintro rfl
    cases taken.1

theorem takes_mark (marked : c = 'e' ∨ c = 'E') :
    mark.Takes m ⟨b, w, f, none⟩ cs ↔ ∃ e, IsExponent e (c :: cs) ∧ ⟨b, w, f, e⟩ = m := by
  constructor
  · intro taken
    cases cs with
    | nil => cases taken.1
    | cons c' cs =>
      cases digit : digit? c' with
      | some d =>
        rw [takes_cons_of_go (by simp only [NumeralStage.next, digit]; rfl), takes_exponent]
          at taken
        obtain ⟨ds, digits, known⟩ := taken
        exact ⟨some (false, decimal d ds), ⟨c, [], c' :: cs, d :: ds, rfl, marked, .inl rfl,
          List.cons_ne_nil d ds, .cons digit digits, decimal_cons_zero d ds⟩, known⟩
      | none =>
        obtain ⟨stage', n', step, taken⟩ := taken
        simp only [NumeralStage.next, digit] at step
        split_ifs at step with plus minus
        · obtain ⟨rfl, rfl⟩ := NumeralStep.go.inj step
          obtain ⟨ds, some', digits, known⟩ := takes_markSign.mp taken
          exact ⟨some (false, decimal 0 ds), ⟨c, ['+'], cs, ds, by rw [plus]; rfl, marked, .inr rfl,
            some', digits, rfl⟩, known⟩
        · obtain ⟨rfl, rfl⟩ := NumeralStep.go.inj step
          obtain ⟨ds, some', digits, known⟩ := takes_markSign.mp taken
          exact ⟨some (true, decimal 0 ds), ⟨c, ['-'], cs, ds, by rw [minus]; rfl, marked, rfl,
            some', digits, rfl⟩, known⟩
  · rintro ⟨e, spelled, known⟩
    cases e with
    | none => cases spelled
    | some e =>
      obtain ⟨minus, size⟩ := e
      obtain ⟨_, sign, digits, ds, text, -, signed, some', spelled, rfl⟩ := spelled
      obtain ⟨rfl, rfl⟩ := List.cons.inj text
      have afterSign : markSign.Takes m ⟨b, w, f, some (minus, 0)⟩ digits :=
        takes_markSign.mpr ⟨ds, some', spelled, known⟩
      cases minus with
      | true =>
        obtain rfl := signed
        exact (takes_cons_of_go rfl).mpr afterSign
      | false =>
        rcases signed with rfl | rfl
        · cases spelled with
          | nil => exact absurd rfl some'
          | @cons d c' ds cs digit digits =>
            refine (takes_cons_of_go (by simp only [NumeralStage.next, digit]; rfl)).mpr ?_
            rw [decimal_cons_zero] at known
            exact takes_exponent.mpr ⟨ds, digits, known⟩
        · exact (takes_cons_of_go rfl).mpr afterSign

theorem isExponent_nil_iff {e : Option (Bool × Nat)} : IsExponent e [] ↔ e = none := by
  cases e <;> simp [IsExponent]

theorem mark_of_isExponent {e : Option (Bool × Nat)} (spelled : IsExponent e (c :: cs)) :
    c = 'e' ∨ c = 'E' := by
  cases e with
  | none => cases spelled
  | some e =>
    obtain ⟨_, _, _, _, text, marked, -⟩ := spelled
    obtain ⟨rfl, -⟩ := List.cons.inj text
    exact marked

theorem digit?_head?_of_isExponent {e : Option (Bool × Nat)} (spelled : IsExponent e cs) :
    ∀ c ∈ cs.head?, digit? c = none := by
  intro c first
  obtain ⟨rest, rfl⟩ := List.head?_eq_some_iff.mp first
  rcases mark_of_isExponent spelled with rfl | rfl <;> rfl

/-! ## The fraction -/

theorem takes_fraction_of_not_digit (digit : ∀ c ∈ cs.head?, digit? c = none) :
    fraction.Takes m ⟨b, w, f, none⟩ cs ↔ ∃ e, IsExponent e cs ∧ ⟨b, w, f, e⟩ = m := by
  cases cs with
  | nil => simp [Takes, complete, isExponent_nil_iff]
  | cons c cs =>
    by_cases marked : c = 'e' ∨ c = 'E'
    · rw [← takes_mark marked]
      exact takes_cons_of_go (by simp only [NumeralStage.next, digit c rfl, if_pos marked])
    · have stopped : fraction.next ⟨b, w, f, none⟩ c = .stop := by
        simp only [NumeralStage.next, digit c rfl, if_neg marked]
      refine iff_of_false (not_takes_cons_of_stop stopped) ?_
      rintro ⟨e, spelled, -⟩
      exact marked (mark_of_isExponent spelled)

theorem takes_fraction :
    fraction.Takes m ⟨b, w, f, none⟩ cs ↔
      Leads (fun ds rest => ∃ e, IsExponent e rest ∧ ⟨b, w, f ++ ds, e⟩ = m) cs := by
  let ends (f : List Nat) (rest : List Char) := ∃ e, IsExponent e rest ∧ ⟨b, w, f, e⟩ = m
  have collected : fraction.Takes m ⟨b, w, f, none⟩ cs ↔
      Leads (fun ds rest => ends (ds.foldl (fun f d => f ++ [d]) f) rest) cs :=
    takes_digits fraction (fun f => ⟨b, w, f, none⟩) (fun f d => f ++ [d]) ends
    (fun f c d digit => by simp only [NumeralStage.next, digit])
    (fun f cs digit => takes_fraction_of_not_digit digit)
    (fun f cs ended => by
      obtain ⟨e, spelled, -⟩ := ended
      exact digit?_head?_of_isExponent spelled) f
  have gathered (ds : List Nat) : ds.foldl (fun f d => f ++ [d]) f = f ++ ds := by
    rw [List.foldl_append_eq_append, ← List.flatMap_def, List.flatMap_singleton']
  simpa only [gathered] using collected

theorem takes_point :
    point.Takes m ⟨b, w, [], none⟩ cs ↔
      Leads (fun ds rest => ds ≠ [] ∧ ∃ e, IsExponent e rest ∧ ⟨b, w, ds, e⟩ = m) cs := by
  cases cs with
  | nil => simp [leads_nil, Takes, complete]
  | cons c cs =>
    cases digit : digit? c with
    | some d =>
      rw [takes_cons_of_go (by simp only [NumeralStage.next, digit]; rfl), takes_fraction,
        leads_cons_of_digit digit]
      simp
    | none =>
      have refused : point.next ⟨b, w, [], none⟩ c = .fault := by
        simp only [NumeralStage.next, digit]
      rw [leads_cons_of_not_digit digit]
      simp [not_takes_cons_of_fault refused]

/-! ## The whole part -/

/-- What may follow a whole part: a fraction and an exponent, or nothing in place of either. -/
def Follows (b : Bool) (w : Nat) (m : Numeral) (cs : List Char) : Prop :=
  ∃ f fraction e exponent, cs = fraction ++ exponent ∧ IsFraction f fraction ∧
    IsExponent e exponent ∧ ⟨b, w, f, e⟩ = m

theorem follows_nil_iff : Follows b w m [] ↔ ⟨b, w, [], none⟩ = m := by
  constructor
  · rintro ⟨f, fraction, e, exponent, text, isFraction, isExponent, known⟩
    obtain ⟨rfl, rfl⟩ := List.append_eq_nil_iff.mp text.symm
    obtain rfl := isExponent_nil_iff.mp isExponent
    rcases isFraction with ⟨rfl, -⟩ | ⟨-, _, impossible, -⟩
    · exact known
    · cases impossible
  · intro known
    exact ⟨[], [], none, [], rfl, .inl ⟨rfl, rfl⟩, rfl, known⟩

theorem follows_cons_iff :
    Follows b w m (c :: cs) ↔
      c = '.' ∧ point.Takes m ⟨b, w, [], none⟩ cs ∨
        (c = 'e' ∨ c = 'E') ∧ mark.Takes m ⟨b, w, [], none⟩ cs := by
  rw [takes_point]
  constructor
  · rintro ⟨f, _, e, exponent, text, ⟨rfl, rfl⟩ | ⟨some', digits, rfl, spelled⟩, isExponent,
      known⟩
    · obtain rfl : c :: cs = exponent := text
      have marked := mark_of_isExponent isExponent
      exact .inr ⟨marked, (takes_mark marked).mpr ⟨e, isExponent, known⟩⟩
    · obtain ⟨rfl, rfl⟩ := List.cons.inj text
      exact .inl ⟨rfl, f, digits, exponent, rfl, spelled, some', e, isExponent, known⟩
  · rintro (⟨rfl, ds, digits, rest, rfl, spelled, some', e, isExponent, known⟩ | ⟨marked, taken⟩)
    · exact ⟨ds, '.' :: digits, e, rest, rfl, .inr ⟨some', digits, rfl, spelled⟩, isExponent,
        known⟩
    · obtain ⟨e, isExponent, known⟩ := (takes_mark marked).mp taken
      exact ⟨[], [], e, c :: cs, rfl, .inl ⟨rfl, rfl⟩, isExponent, known⟩

theorem digit?_head?_of_follows (follows : Follows b w m cs) : ∀ c ∈ cs.head?, digit? c = none := by
  intro c first
  obtain ⟨rest, rfl⟩ := List.head?_eq_some_iff.mp first
  rcases follows_cons_iff.mp follows with ⟨rfl, -⟩ | ⟨rfl | rfl, -⟩ <;> rfl

/-- Where a whole part may end. -/
theorem takes_of_not_digit (natural : stage = whole ∨ stage = zero)
    (digit : ∀ c ∈ cs.head?, digit? c = none) :
    stage.Takes m ⟨b, w, [], none⟩ cs ↔ Follows b w m cs := by
  cases cs with
  | nil =>
    have complete : stage.complete = true := by rcases natural with rfl | rfl <;> rfl
    simp [Takes, complete, follows_nil_iff]
  | cons c cs =>
    have step :
        stage.next ⟨b, w, [], none⟩ c =
          if c = '.' then .go point ⟨b, w, [], none⟩
          else if c = 'e' ∨ c = 'E' then .go mark ⟨b, w, [], none⟩ else .stop := by
      rcases natural with rfl | rfl <;> simp only [NumeralStage.next, digit c rfl]
    rw [follows_cons_iff]
    split_ifs at step with dot marked
    · rw [takes_cons_of_go step]
      simp [dot]
    · rw [takes_cons_of_go step]
      simp [dot, marked]
    · simp [not_takes_cons_of_stop step, dot, marked]

/-- Only the end of the whole part may follow a leading zero. -/
theorem takes_zero : zero.Takes m ⟨b, w, [], none⟩ cs ↔ Follows b w m cs := by
  by_cases digit : ∀ c ∈ cs.head?, digit? c = none
  · exact takes_of_not_digit (.inr rfl) digit
  · refine iff_of_false (fun taken => digit ?_) (mt digit?_head?_of_follows digit)
    intro c first
    obtain ⟨rest, rfl⟩ := List.head?_eq_some_iff.mp first
    cases refused : digit? c with
    | none => rfl
    | some d =>
      exact absurd taken (not_takes_cons_of_fault (by simp only [NumeralStage.next, refused]))

theorem takes_whole :
    whole.Takes m ⟨b, w, [], none⟩ cs ↔
      Leads (fun ds rest => Follows b (decimal w ds) m rest) cs :=
  takes_digits whole (fun w => ⟨b, w, [], none⟩) (fun k d => k * 10 + d) (fun w => Follows b w m)
    (fun k c d digit => by simp only [NumeralStage.next, digit])
    (fun k cs digit => takes_of_not_digit (.inl rfl) digit)
    (fun k cs follows => digit?_head?_of_follows follows) w

/-- A numeral from its whole part on. -/
theorem takes_sign :
    sign.Takes m ⟨b, 0, [], none⟩ cs ↔
      ∃ w whole rest, cs = whole ++ rest ∧ IsWhole w whole ∧ Follows b w m rest := by
  cases cs with
  | nil =>
    refine iff_of_false (fun taken => by cases taken.1) ?_
    rintro ⟨w, whole, rest, text, ⟨d, ds, spelled, -⟩, -⟩
    obtain ⟨rfl, -⟩ := List.append_eq_nil_iff.mp text.symm
    cases spelled
  | cons c cs =>
    cases digit : digit? c with
    | none =>
      have refused : sign.next ⟨b, 0, [], none⟩ c = .fault := by
        simp only [NumeralStage.next, digit]
      refine iff_of_false (not_takes_cons_of_fault refused) ?_
      rintro ⟨w, whole, rest, text, ⟨d, ds, spelled, -⟩, -⟩
      cases spelled with
      | cons first _ =>
        obtain ⟨rfl, -⟩ := List.cons.inj text
        cases digit.symm.trans first
    | some d =>
      by_cases zero : d = 0
      -- Nothing but the end of the whole part may follow a leading zero.
      · subst zero
        rw [takes_cons_of_go (by simp only [NumeralStage.next, digit]; rfl), takes_zero]
        constructor
        · intro follows
          exact ⟨0, [c], cs, rfl, ⟨0, [], .cons digit .nil, fun _ => rfl, rfl⟩, follows⟩
        · rintro ⟨w, whole, rest, text, ⟨d', ds, spelled, alone, rfl⟩, follows⟩
          cases spelled with
          | @cons _ c' _ digits first others =>
            obtain ⟨rfl, rfl⟩ := List.cons.inj text
            obtain rfl := Option.some.inj (digit.symm.trans first)
            obtain rfl := alone rfl
            cases others
            exact follows
      · have step : sign.next ⟨b, 0, [], none⟩ c = .go whole ⟨b, d, [], none⟩ := by
          cases d with
          | zero => exact absurd rfl zero
          | succ d => simp only [NumeralStage.next, digit]
        rw [takes_cons_of_go step, takes_whole]
        constructor
        · rintro ⟨ds, digits, rest, rfl, spelled, follows⟩
          exact ⟨decimal d ds, c :: digits, rest, rfl,
            ⟨d, ds, .cons digit spelled, fun null => absurd null zero, decimal_cons_zero d ds⟩,
            follows⟩
        · rintro ⟨w, whole, rest, text, ⟨d', ds, spelled, alone, rfl⟩, follows⟩
          cases spelled with
          | @cons _ c' _ digits first others =>
            obtain ⟨rfl, rfl⟩ := List.cons.inj text
            obtain rfl := Option.some.inj (digit.symm.trans first)
            rw [decimal_cons_zero] at follows
            exact ⟨ds, digits, rest, rfl, others, follows⟩

end NumeralStage

/-- The written forms of a numeral are what takes it from its sign to its end. -/
theorem Numeral.spelled_iff {m : Numeral} {cs : List Char} :
    m.Spelled cs ↔
      ∃ text, cs = (if m.negative then ['-'] else []) ++ text ∧
        NumeralStage.sign.Takes m ⟨m.negative, 0, [], none⟩ text := by
  simp only [Spelled, NumeralStage.takes_sign, NumeralStage.Follows]
  constructor
  · rintro ⟨whole, fraction, exponent, rfl, isWhole, isFraction, isExponent⟩
    exact ⟨_, rfl, m.whole, whole, _, rfl, isWhole, m.fraction, fraction, m.exponent, exponent,
      rfl, isFraction, isExponent, rfl⟩
  · rintro ⟨_, rfl, w, whole, _, rfl, isWhole, f, fraction, e, exponent, rfl, isFraction,
      isExponent, known⟩
    obtain ⟨negative, w', f', e'⟩ := m
    cases known
    exact ⟨whole, fraction, exponent, rfl, isWhole, isFraction, isExponent⟩

end PageLint.Json
