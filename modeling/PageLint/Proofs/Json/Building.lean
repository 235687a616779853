import PageLint.Proofs.Json.Lexing

/-!
# Documents and their tokens

The builder keeps what it has read: in every place the tokens of what it holds are the tokens it was
fed. So a document without faults is built from its own tokens and from no others. The other way
round the tokens of such a document are accepted one by one, and with the scanner before the builder
the grammar says which texts are read without a fault, and as which documents.

## Main definitions

* `Json.Building.tokens` — the tokens of what the builder holds

## Main results

* `Building.tokens_feed`, `Building.tokens_run` — the builder keeps what it reads
* `Building.run_tokens` — the builder reads the tokens of a document as that document
* `spells_iff` — the texts that are read as a document without faults
-/

namespace PageLint.Json

/-! ## Commas -/

/-- The things in the list, each with a comma after it. -/
def commaAfter (parts : List (List Token)) : List Token := parts.flatMap (· ++ [.comma])

/-- The things in the list, each with a comma before it. -/
def commaBefore (parts : List (List Token)) : List Token := parts.flatMap (.comma :: ·)

theorem intercalate_concat (parts : List (List Token)) (last : List Token) :
    [Token.comma].intercalate (parts ++ [last]) = commaAfter parts ++ last := by
  induction parts with
  | nil => simp [commaAfter, List.intercalate]
  | cons part parts ih =>
    obtain ⟨next, others, same⟩ : ∃ next others, parts ++ [last] = next :: others :=
      List.exists_cons_of_ne_nil (by simp)
    rw [List.cons_append, same, List.intercalate_cons_cons, ← same, ih]
    simp only [commaAfter, List.flatMap_cons, List.append_assoc]

theorem intercalate_cons (part : List Token) (parts : List (List Token)) :
    [Token.comma].intercalate (part :: parts) = part ++ commaBefore parts := by
  induction parts generalizing part with
  | nil => simp [commaBefore, List.intercalate]
  | cons next parts ih =>
    rw [List.intercalate_cons_cons, ih, commaBefore, commaBefore, List.flatMap_cons,
      List.append_assoc, List.singleton_append, List.cons_append]

namespace Document

theorem itemTokens_eq (ds : List Document) : itemTokens ds = ds.map tokens := by
  induction ds with
  | nil => rfl
  | cons d ds ih => rw [itemTokens, ih, List.map_cons]

/-- The tokens of an entry. -/
def ofEntry (e : Quoted × Document) : List Token := .text e.1 :: .colon :: e.2.tokens

theorem entryTokens_eq (es : List (Quoted × Document)) : entryTokens es = es.map ofEntry := by
  induction es with
  | nil => rfl
  | cons e es ih => rw [entryTokens, ih, List.map_cons, ofEntry]

end Document

variable {b b' : Building} {t : Token} {ts : List Token} {d : Document} {stack : List Frame}

/-! ## Faults stay -/

theorem not_faultless_enclose (fault : ¬ d.Faultless) : ¬ (enclose d stack).Faultless := by
  induction stack generalizing d with
  | nil => exact fault
  | cons frame stack ih =>
    cases frame with
    | array items =>
      apply ih
      rintro ⟨⟩
    | object entries key =>
      apply ih
      rintro ⟨⟩

/-- A document that is given up before it is complete has a fault. -/
theorem Building.not_faultless_abandon (open' : ∀ d, b ≠ .done d) (fault : Fault) :
    ¬ (b.abandon fault).Faultless := by
  cases b with
  | done d => exact absurd rfl (open' d)
  | _ =>
    apply not_faultless_enclose
    rintro ⟨⟩

/-- Everything was read, and it is a document without faults. -/
def Building.Accepts (b : Building) (ts : List Token) (d : Document) : Prop :=
  b.run ts = ⟨d, none⟩ ∧ d.Faultless

theorem Building.accepts_nil (accepts : b.Accepts [] d) : b = .done d := by
  obtain ⟨built, faultless⟩ := accepts
  cases b with
  | done d' => rw [(Parsed.mk.inj built).1]
  | _ =>
    obtain ⟨rfl, -⟩ := Parsed.mk.inj built
    exact absurd faultless (not_faultless_abandon (by rintro _ ⟨⟩) .cut)

theorem Building.accepts_cons (accepts : b.Accepts (t :: ts) d) :
    ∃ b', b.feed t = some b' ∧ b'.Accepts ts d := by
  obtain ⟨built, faultless⟩ := accepts
  cases fed : b.feed t with
  | some b' =>
    refine ⟨b', rfl, ?_, faultless⟩
    rwa [Building.run_cons fed] at built
  | none =>
    cases b with
    | done d' => cases (Parsed.mk.inj built).2
    | _ =>
      simp only [Building.run, fed] at built
      obtain ⟨rfl, -⟩ := Parsed.mk.inj built
      exact absurd faultless (not_faultless_abandon (by rintro _ ⟨⟩) .malformed)

/-! ## What the builder holds -/

/-- The tokens that opened a container and those of what it holds. -/
def Frame.tokens : Frame → List Token
  | .array items => .opening .square :: commaAfter (items.reverse.map Document.tokens)
  | .object entries key =>
    .opening .curly :: (commaAfter (entries.reverse.map Document.ofEntry) ++ [.text key, .colon])

/-- The tokens of the containers around a place. -/
def stackTokens : List Frame → List Token
  | [] => []
  | frame :: stack => stackTokens stack ++ frame.tokens

/-- The tokens of what the builder holds. -/
def Building.tokens : Building → List Token
  | .value stack => stackTokens stack
  | .arrayStart stack => stackTokens stack ++ [.opening .square]
  | .arrayNext items stack =>
    stackTokens stack ++
      .opening .square :: [.comma].intercalate (items.reverse.map Document.tokens)
  | .objectStart stack => stackTokens stack ++ [.opening .curly]
  | .objectKey entries stack =>
    stackTokens stack ++ .opening .curly :: commaAfter (entries.reverse.map Document.ofEntry)
  | .objectColon entries key stack =>
    stackTokens stack ++
      .opening .curly :: (commaAfter (entries.reverse.map Document.ofEntry) ++ [.text key])
  | .objectNext entries stack =>
    stackTokens stack ++
      .opening .curly :: [.comma].intercalate (entries.reverse.map Document.ofEntry)
  | .done d => d.tokens

/-- Something was read wherever a comma may come. -/
def Building.Filled : Building → Prop
  | .arrayNext items _ => items ≠ []
  | .objectNext entries _ => entries ≠ []
  | _ => True

theorem filled_deliver : (deliver d stack).Filled := by
  cases stack with
  | nil => trivial
  | cons frame stack => cases frame <;> exact List.cons_ne_nil _ _

theorem tokens_deliver : (deliver d stack).tokens = stackTokens stack ++ d.tokens := by
  cases stack with
  | nil => rfl
  | cons frame stack =>
    cases frame with
    | array items =>
      simp [deliver, Building.tokens, stackTokens, Frame.tokens, intercalate_concat]
    | object entries key =>
      simp [deliver, Building.tokens, stackTokens, Frame.tokens, intercalate_concat,
        Document.ofEntry]

/-- The token that ends a document is kept with those that the builder holds of it. -/
theorem kept_of_deliver (held : b.tokens = stackTokens stack ++ ts) (whole : d.tokens = ts ++ [t]) :
    (deliver d stack).Filled ∧ (deliver d stack).tokens = b.tokens ++ [t] := by
  refine ⟨filled_deliver, ?_⟩
  rw [tokens_deliver, whole, held, List.append_assoc]

/-- A comma after the last part of a list. -/
theorem intercalate_comma {parts : List (List Token)} (some' : parts ≠ []) :
    [Token.comma].intercalate parts ++ [.comma] = commaAfter parts := by
  obtain ⟨init, last, rfl⟩ := List.eq_nil_or_concat parts |>.resolve_left some'
  rw [List.concat_eq_append, intercalate_concat]
  simp [commaAfter]

theorem tokens_begin (begun : Building.begin stack t = some b') :
    b'.Filled ∧ b'.tokens = stackTokens stack ++ [t] := by
  cases t with
  | opening bracket =>
    cases bracket <;> cases begun <;> exact ⟨trivial, rfl⟩
  | word | number | text =>
    cases begun
    exact ⟨filled_deliver, tokens_deliver⟩
  | closing | comma | colon | stray => cases begun

/-- One token is kept. -/
theorem Building.tokens_feed (filled : b.Filled) (fed : b.feed t = some b') :
    b'.Filled ∧ b'.tokens = b.tokens ++ [t] := by
  -- Where a bracket ends a container, its parts become a document; elsewhere one more is held.
  cases b with
  | value stack => exact tokens_begin fed
  | arrayStart stack =>
    simp only [Building.feed] at fed
    split at fed
    · cases fed
      exact kept_of_deliver rfl rfl
    · exact tokens_begin fed
  | arrayNext items stack =>
    have read : items.reverse.map Document.tokens ≠ [] := by simpa [Filled] using filled
    simp only [Building.feed] at fed
    split at fed
    · cases fed
      refine kept_of_deliver rfl ?_
      rw [Document.tokens, Document.itemTokens_eq, Ending.tokens, List.cons_append]
    · cases fed
      refine ⟨trivial, ?_⟩
      rw [tokens, tokens, stackTokens, Frame.tokens, ← intercalate_comma read, List.append_assoc,
        List.cons_append]
    · cases fed
  | objectStart stack =>
    simp only [Building.feed] at fed
    split at fed
    · cases fed
      exact kept_of_deliver rfl rfl
    · cases fed
      simp [Filled, tokens, commaAfter]
    · cases fed
  | objectKey entries stack =>
    simp only [Building.feed] at fed
    split at fed
    · cases fed
      simp [Filled, tokens]
    · cases fed
  | objectColon entries key stack =>
    simp only [Building.feed] at fed
    split at fed
    · cases fed
      simp [Filled, tokens, stackTokens, Frame.tokens]
    · cases fed
  | objectNext entries stack =>
    have read : entries.reverse.map Document.ofEntry ≠ [] := by simpa [Filled] using filled
    simp only [Building.feed] at fed
    split at fed
    · cases fed
      refine kept_of_deliver rfl ?_
      rw [Document.tokens, Document.entryTokens_eq, Ending.tokens, List.cons_append]
    · cases fed
      refine ⟨trivial, ?_⟩
      rw [tokens, tokens, ← intercalate_comma read, List.append_assoc, List.cons_append]
    · cases fed
  | done d => cases fed

/-- All tokens are kept, until the document is complete. -/
theorem Building.tokens_run (filled : b.Filled) (accepts : b.Accepts ts d) :
    d.tokens = b.tokens ++ ts := by
  induction ts generalizing b with
  | nil =>
    rw [accepts_nil accepts, List.append_nil]
    rfl
  | cons t ts ih =>
    obtain ⟨b', fed, accepts⟩ := accepts_cons accepts
    obtain ⟨filled', kept⟩ := tokens_feed filled fed
    rw [ih filled' accepts, kept, List.append_assoc, List.singleton_append]

/-! ## What the builder makes of the tokens of a document -/

/-- The tokens of further items and the end of their array. -/
theorem Building.run_items {ds : List Document} {rest : List Token}
    (inner : ∀ d ∈ ds, ∀ stack rest,
      (Building.value stack).run (d.tokens ++ rest) = (deliver d stack).run rest)
    (items : List Document) :
    (Building.arrayNext items stack).run
        (commaBefore (ds.map Document.tokens) ++ .closing .square :: rest) =
      (deliver (.array (items.reverse ++ ds) .closed) stack).run rest := by
  induction ds generalizing items with
  | nil =>
    rw [List.append_nil]
    exact Building.run_cons rfl rest
  | cons d ds ih =>
    rw [List.map_cons, commaBefore, List.flatMap_cons, List.append_assoc, List.cons_append,
      Building.run_cons rfl, inner d List.mem_cons_self]
    refine (ih (fun d listed => inner d (List.mem_cons_of_mem _ listed)) (d :: items)).trans ?_
    rw [List.reverse_cons, List.append_assoc, List.singleton_append]

/-- The tokens of further entries and the end of their object. -/
theorem Building.run_entries {es : List (Quoted × Document)} {rest : List Token}
    (inner : ∀ e ∈ es, ∀ stack rest,
      (Building.value stack).run (e.2.tokens ++ rest) = (deliver e.2 stack).run rest)
    (entries : List (Quoted × Document)) :
    (Building.objectNext entries stack).run
        (commaBefore (es.map Document.ofEntry) ++ .closing .curly :: rest) =
      (deliver (.object (entries.reverse ++ es) .closed) stack).run rest := by
  induction es generalizing entries with
  | nil =>
    rw [List.append_nil]
    exact Building.run_cons rfl rest
  | cons e es ih =>
    rw [List.map_cons, commaBefore, List.flatMap_cons, List.append_assoc, Document.ofEntry,
      List.cons_append, List.cons_append, List.cons_append, Building.run_cons rfl,
      Building.run_cons rfl, Building.run_cons rfl, inner e List.mem_cons_self]
    refine (ih (fun d listed => inner d (List.mem_cons_of_mem _ listed)) (e :: entries)).trans ?_
    rw [List.reverse_cons, List.append_assoc, List.singleton_append]

/-- Where a value may come, the tokens of a document are read as that document. -/
theorem Building.run_tokens (faultless : d.Faultless) (awaits : Awaits b stack)
    (rest : List Token) :
    b.run (d.tokens ++ rest) = (deliver d stack).run rest := by
  induction faultless generalizing b stack rest with
  | word w => exact Building.run_cons (awaits.feed rfl) rest
  | number n => exact Building.run_cons (awaits.feed rfl) rest
  | text pieces => exact Building.run_cons (awaits.feed rfl) rest
  | @array items inner ih =>
    rw [Document.tokens, Document.itemTokens_eq, Ending.tokens, List.cons_append,
      Building.run_cons (awaits.feed rfl), List.append_assoc, List.singleton_append]
    cases items with
    | nil => exact Building.run_cons rfl rest
    | cons d ds =>
      rw [List.map_cons, intercalate_cons, List.append_assoc,
        ih d List.mem_cons_self (.arrayStart stack)]
      exact Building.run_items
        (fun d listed stack rest => ih d (List.mem_cons_of_mem _ listed) (.value stack) rest) [d]
  | @object entries keys inner ih =>
    rw [Document.tokens, Document.entryTokens_eq, Ending.tokens, List.cons_append,
      Building.run_cons (awaits.feed rfl), List.append_assoc, List.singleton_append]
    cases entries with
    | nil => exact Building.run_cons rfl rest
    | cons e es =>
      rw [List.map_cons, intercalate_cons, List.append_assoc, Document.ofEntry, List.cons_append,
        List.cons_append, Building.run_cons rfl, Building.run_cons rfl,
        ih e List.mem_cons_self (.value _)]
      exact Building.run_entries
        (fun e listed stack rest => ih e (List.mem_cons_of_mem _ listed) (.value stack) rest) [e]

/-! ## Tokens of documents -/

theorem mem_intercalate {parts : List (List Token)} (listed : t ∈ [Token.comma].intercalate parts) :
    t = .comma ∨ ∃ part ∈ parts, t ∈ part := by
  cases parts with
  | nil => cases listed
  | cons part parts =>
    rw [intercalate_cons, commaBefore, List.mem_append, List.mem_flatMap] at listed
    rcases listed with first | ⟨later, listed, inside⟩
    · exact .inr ⟨part, List.mem_cons_self, first⟩
    · rcases List.mem_cons.mp inside with rfl | inside
      · exact .inl rfl
      · exact .inr ⟨later, List.mem_cons_of_mem _ listed, inside⟩

/-- A document without faults has tokens without faults. -/
theorem faultless_of_mem_tokens (faultless : d.Faultless) (listed : t ∈ d.tokens) :
    t.Faultless := by
  induction faultless with
  | word w =>
    obtain rfl := List.mem_singleton.mp listed
    rfl
  | number n =>
    obtain rfl := List.mem_singleton.mp listed
    exact ⟨n, rfl⟩
  | text pieces =>
    obtain rfl := List.mem_singleton.mp listed
    rfl
  | @array items inner ih =>
    rw [Document.tokens, Document.itemTokens_eq, List.mem_cons, List.mem_append] at listed
    rcases listed with rfl | within | last
    · trivial
    · rcases mem_intercalate within with rfl | ⟨_, item, inside⟩
      · trivial
      · obtain ⟨d, listed, rfl⟩ := List.mem_map.mp item
        exact ih d listed inside
    · obtain rfl := List.mem_singleton.mp last
      trivial
  | @object entries keys inner ih =>
    rw [Document.tokens, Document.entryTokens_eq, List.mem_cons, List.mem_append] at listed
    rcases listed with rfl | within | last
    · trivial
    · rcases mem_intercalate within with rfl | ⟨_, entry, inside⟩
      · trivial
      · obtain ⟨e, listed, rfl⟩ := List.mem_map.mp entry
        rcases List.mem_cons.mp inside with rfl | inside
        · exact keys e listed
        rcases List.mem_cons.mp inside with rfl | inside
        · trivial
        · exact ih e listed inside
    · obtain rfl := List.mem_singleton.mp last
      trivial

/-- No value may follow a complete value. -/
theorem feed_number_deliver (n : Except Fault Numeral) :
    (deliver d stack).feed (.number n) = none := by
  cases stack with
  | nil => rfl
  | cons frame stack => cases frame <;> rfl

theorem exists_deliver_of_feed_number {n : Except Fault Numeral}
    (fed : b.feed (.number n) = some b') : ∃ d stack, b' = deliver d stack := by
  cases b with
  | value stack => exact ⟨_, stack, (Option.some.inj fed).symm⟩
  | arrayStart stack => exact ⟨_, .array [] :: stack, (Option.some.inj fed).symm⟩
  | _ => cases fed

/-- Two numerals in a row are not accepted. -/
theorem Building.Accepts.apart (accepts : b.Accepts ts d) : ts.IsChain Token.Apart := by
  induction ts generalizing b with
  | nil => exact .nil
  | cons t ts ih =>
    obtain ⟨b', fed, onward⟩ := accepts_cons accepts
    refine List.isChain_cons.mpr ⟨fun u first => ?_, ih onward⟩
    obtain ⟨rest, rfl⟩ := List.head?_eq_some_iff.mp first
    cases t with
    | number n =>
      cases u with
      | number m =>
        obtain ⟨d, stack, rfl⟩ := exists_deliver_of_feed_number fed
        obtain ⟨b'', refused, -⟩ := accepts_cons onward
        rw [feed_number_deliver] at refused
        cases refused
      | _ => trivial
    | _ => trivial

/-! ## Texts -/

variable {cs : List Char}

theorem accepts_tokens (faultless : d.Faultless) : (Building.value []).Accepts d.tokens d := by
  have built := Building.run_tokens faultless (.value []) []
  rw [List.append_nil] at built
  exact ⟨built, faultless⟩

/-- The texts that are read as a document without faults are those that spell it. -/
theorem spells_iff : Spells cs d ↔ parse cs = ⟨d, none⟩ ∧ d.Faultless := by
  constructor
  · rintro ⟨faultless, spelling⟩
    have accepts := accepts_tokens faultless
    refine ⟨?_, faultless⟩
    rw [parse, scan, run_of_spelling spelling accepts.apart]
    exact accepts.1
  · intro accepts
    have read : d.tokens = scan cs := Building.tokens_run (b := .value []) trivial accepts
    have clean : Scanning.between.Clean cs := by
      intro t listed
      rw [← scan, ← read] at listed
      exact faultless_of_mem_tokens accepts.2 listed
    refine ⟨accepts.2, ?_⟩
    rw [read]
    exact spelling_run clean

/-- A text spells at most one document. -/
theorem Spells.unique {d' : Document} (spells : Spells cs d) (spells' : Spells cs d') : d = d' := by
  have read := (spells_iff.mp spells).1
  have read' := (spells_iff.mp spells').1
  exact (Parsed.mk.inj (read.symm.trans read')).1

/-- A text is read as a value exactly if it spells a document of that value. -/
theorem ofString_eq_ok_iff {s : String} {v : Json} :
    Json.ofString s = .ok v ↔ ∃ d, Spells s.toList d ∧ d.toJson = .ok v := by
  constructor
  · intro denoted
    obtain ⟨w, valued, ended⟩ := bind_eq_ok_iff.mp denoted
    split at ended
    · rename_i clean
      cases ended
      have faultless := Document.faultless_of_toJson _ valued
      exact ⟨_, spells_iff.mpr ⟨congrArg (Parsed.mk _) clean, faultless⟩, valued⟩
    · cases ended
  · rintro ⟨d, spells, valued⟩
    rw [Json.ofString, (spells_iff.mp spells).1]
    simp only [valued]
    rfl

end PageLint.Json
