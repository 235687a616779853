import PageLint.Json.Document
import PageLint.Proofs.Json.Scanning

/-!
# Printed texts denote what was printed

A text denotes a value if it can stand wherever a value has to come and is read there as a document
of that value. Such texts are put together like values: from the texts of items and entries, with
white space between them as one likes. The two layouts of the printer are two ways to do that, and
so reading undoes both.

Scanner and builder are looked at together here: a text carries the builder from one place to
another, whatever follows it. The printer is only ever given counts for numbers, and only these are
considered.

## Main definitions

* `Json.Carries` — a text carries the builder from one place to another
* `Json.Denotes` — a text denotes a value
* `Json.IsCounted` — all numbers in a value are counts

## Main results

* `denotes_compact`, `denotes_indentedAt` — a printed text denotes its value
* `exists_parse_of_denotes` — the document of a text that denotes a value
* `ofString_compact`, `ofString_indented` — the value of a printed text
-/

namespace PageLint.Json

variable {text more : List Char} {b b' b'' : Building}

/-! ## From one place to another -/

/-- The text carries the builder from one place to another. What follows may not go on a numeral at
the end of the text. -/
def Carries (text : List Char) (b b' : Building) : Prop :=
  ∀ rest, Delimited rest →
    b.run (Scanning.between.run (text ++ rest)) = b'.run (Scanning.between.run rest)

theorem Building.run_cons {t : Token} (fed : b.feed t = some b') (ts : List Token) :
    b.run (t :: ts) = b'.run ts := by
  cases b with
  | done d => cases fed
  | _ => simp only [Building.run, fed]

theorem Carries.refl (b : Building) : Carries [] b b :=
  fun _ _ => rfl

/-- A text with a token of its own carries the builder as that token does. -/
theorem Carries.token {t : Token}
    (scanned : ∀ rest, Delimited rest →
      Scanning.between.run (text ++ rest) = t :: Scanning.between.run rest)
    (fed : b.feed t = some b') : Carries text b b' := by
  intro rest delimited
  rw [scanned rest delimited, Building.run_cons fed]

theorem Carries.append (first : Carries text b b') (delimited : ∀ rest, Delimited (more ++ rest))
    (onward : Carries more b' b'') : Carries (text ++ more) b b'' := by
  intro rest ended
  rw [List.append_assoc, first _ (delimited rest), onward rest ended]

/-- A mark in front of a text. -/
theorem Carries.mark {c : Char} {t : Token} (scanned : start c = ([t], some .between))
    (fed : b.feed t = some b') (onward : Carries more b' b'') : Carries (c :: more) b b'' := by
  intro rest delimited
  have first : Scanning.between.run (c :: (more ++ rest)) =
      t :: Scanning.between.run (more ++ rest) := by
    rw [Scanning.run, Scanning.feed, scanned]
    rfl
  rw [List.cons_append, first, Building.run_cons fed, onward rest delimited]

/-- A mark at the end of a text. -/
theorem Carries.lastMark {c : Char} {t : Token} (scanned : start c = ([t], some .between))
    (fed : b.feed t = some b') : Carries [c] b b' :=
  .mark scanned fed (.refl b')

/-- White space in front of a text. -/
theorem Carries.blanks {gap : List Char} (blank : ∀ c ∈ gap, isSpace c = true)
    (carries : Carries more b b') : Carries (gap ++ more) b b' := by
  intro rest delimited
  rw [List.append_assoc, run_blanks _ blank, carries rest delimited]

/-- A key in front of a text. -/
theorem exists_carries_quote (k : String) :
    ∃ q : Quoted, q.text = .ok k ∧
      ∀ {b b' b'' more}, b.feed (.text q) = some b' → Carries more b' b'' →
        Carries (quote k ++ more) b b'' := by
  obtain ⟨q, known, scanned⟩ := run_quote k
  refine ⟨q, known, fun fed onward rest delimited => ?_⟩
  rw [List.append_assoc, scanned, Building.run_cons fed, onward rest delimited]

/-! ## Texts that denote a value -/

/-- A value may come here, and it goes onto the stack. -/
inductive Awaits : Building → List Frame → Prop
  | value (stack : List Frame) : Awaits (.value stack) stack
  | arrayStart (stack : List Frame) : Awaits (.arrayStart stack) (.array [] :: stack)

/-- The text denotes the value: wherever a value may come, a document of it is delivered. -/
def Denotes (text : List Char) (v : Json) : Prop :=
  ∃ d : Document, d.toJson = .ok v ∧
    ∀ {b stack}, Awaits b stack → Carries text b (deliver d stack)

/-- The text denotes the items of an array after those that were read, and ends the array. -/
def DenotesItems (text : List Char) (vs : List Json) : Prop :=
  (∀ rest, Delimited (text ++ rest)) ∧ ∃ ds, Document.toJsonItems ds = .ok vs ∧
    ∀ items stack, Carries text (.arrayNext items stack)
      (deliver (.array (items.reverse ++ ds) .closed) stack)

/-- The text denotes the entries of an object after those that were read, and ends the object. -/
def DenotesEntries (text : List Char) (es : List (String × Json)) : Prop :=
  (∀ rest, Delimited (text ++ rest)) ∧ ∃ ds, Document.toJsonEntries ds = .ok es ∧
    ∀ entries stack, Carries text (.objectNext entries stack)
      (deliver (.object (entries.reverse ++ ds) .closed) stack)

/-- A token that begins a value does so wherever a value may come. -/
theorem Awaits.feed {stack : List Frame} {t : Token} (awaits : Awaits b stack)
    (begun : Building.begin stack t = some b') : b.feed t = some b' := by
  cases awaits with
  | value stack => exact begun
  | arrayStart stack =>
    cases t with
    | closing => cases begun
    | opening | comma | colon | word | number | text | stray => exact begun

/-- A text with a token of its own denotes the value of that token. -/
theorem Denotes.token {t : Token} {d : Document} {v : Json}
    (scanned : ∀ rest, Delimited rest →
      Scanning.between.run (text ++ rest) = t :: Scanning.between.run rest)
    (begun : ∀ stack, Building.begin stack t = some (deliver d stack)) (valued : d.toJson = .ok v) :
    Denotes text v :=
  ⟨d, valued, fun awaits => .token scanned (awaits.feed (begun _))⟩

theorem denotes_null : Denotes ['n', 'u', 'l', 'l'] .null :=
  .token (t := .word .null none) (d := .word .null none) (fun _ _ => rfl) (fun _ => rfl) rfl

theorem denotes_boolText (value : Bool) : Denotes (boolText value) (.bool value) := by
  cases value
  · exact .token (t := .word .false none) (d := .word .false none) (fun _ _ => rfl)
      (fun _ => rfl) rfl
  · exact .token (t := .word .true none) (d := .word .true none) (fun _ _ => rfl)
      (fun _ => rfl) rfl

theorem denotes_ofNat (n : Nat) : Denotes (Numeral.ofNat n).text (.ofNat n) :=
  .token (d := .number (.ok (.ofNat n))) (fun rest => run_ofNat rest n) (fun _ => rfl) rfl

theorem denotes_quote (s : String) : Denotes (quote s) (.string s) := by
  obtain ⟨q, known, scanned⟩ := run_quote s
  refine .token (d := .text q) (fun rest _ => scanned rest) (fun _ => rfl) ?_
  rw [Document.toJson, known]
  rfl

/-! ### White space -/

/-- White space goes on no numeral. -/
theorem goesOn_of_isSpace {c : Char} (blank : isSpace c = true) : goesOn c = false := by
  simp only [isSpace, Bool.or_eq_true, decide_eq_true_eq] at blank
  rcases blank with ((rfl | rfl) | rfl) | rfl <;> rfl

theorem delimited_blanks {gap : List Char} (blank : ∀ c ∈ gap, isSpace c = true)
    (delimited : Delimited more) : Delimited (gap ++ more) := by
  cases gap with
  | nil => exact delimited
  | cons c gap =>
    intro d first
    cases first
    exact goesOn_of_isSpace (blank c List.mem_cons_self)

section Blanks

variable {gap : List Char} (blank : ∀ c ∈ gap, isSpace c = true)
include blank

theorem Denotes.blanks {v : Json} (denotes : Denotes text v) : Denotes (gap ++ text) v := by
  obtain ⟨d, valued, carries⟩ := denotes
  exact ⟨d, valued, fun awaits => (carries awaits).blanks blank⟩

theorem DenotesItems.blanks {vs : List Json} (denotes : DenotesItems text vs) :
    DenotesItems (gap ++ text) vs := by
  obtain ⟨delimited, ds, valued, carries⟩ := denotes
  refine ⟨fun rest => ?_, ds, valued, fun items stack => (carries items stack).blanks blank⟩
  rw [List.append_assoc]
  exact delimited_blanks blank (delimited rest)

theorem DenotesEntries.blanks {es : List (String × Json)} (denotes : DenotesEntries text es) :
    DenotesEntries (gap ++ text) es := by
  obtain ⟨delimited, ds, valued, carries⟩ := denotes
  refine ⟨fun rest => ?_, ds, valued, fun entries stack => (carries entries stack).blanks blank⟩
  rw [List.append_assoc]
  exact delimited_blanks blank (delimited rest)

end Blanks

/-! ### Arrays -/

theorem denotesItems_nil : DenotesItems [']'] [] :=
  ⟨fun _ _ first => by cases first; rfl, [], rfl, fun items stack => by
    rw [List.append_nil]
    exact .lastMark rfl rfl⟩

/-- The value of a document and the values of the items after it. -/
theorem toJsonItems_cons {d : Document} {ds : List Document} {v : Json} {vs : List Json}
    (first : d.toJson = .ok v) (others : Document.toJsonItems ds = .ok vs) :
    Document.toJsonItems (d :: ds) = .ok (v :: vs) := by
  rw [Document.toJsonItems, first, others]
  rfl

theorem denotesItems_cons {v : Json} {vs : List Json} (first : Denotes text v)
    (others : DenotesItems more vs) : DenotesItems (',' :: (text ++ more)) (v :: vs) := by
  obtain ⟨d, valued, carries⟩ := first
  obtain ⟨delimited, ds, valuedAll, carriesAll⟩ := others
  refine ⟨fun _ _ first => by cases first; rfl, d :: ds, toJsonItems_cons valued valuedAll, ?_⟩
  intro items stack
  rw [List.append_cons, ← List.reverse_cons]
  exact .mark rfl rfl ((carries (.value _)).append delimited (carriesAll (d :: items) stack))

theorem denotes_array_nil : Denotes ['[', ']'] (.array []) :=
  ⟨.array [] .closed, rfl, fun awaits => .mark rfl (awaits.feed rfl) (.lastMark rfl rfl)⟩

theorem denotes_array_cons {v : Json} {vs : List Json} (first : Denotes text v)
    (others : DenotesItems more vs) : Denotes ('[' :: (text ++ more)) (.array (v :: vs)) := by
  obtain ⟨d, valued, carries⟩ := first
  obtain ⟨delimited, ds, valuedAll, carriesAll⟩ := others
  refine ⟨.array (d :: ds) .closed, ?_, fun {b stack} awaits => ?_⟩
  · rw [Document.toJson, toJsonItems_cons valued valuedAll]
    rfl
  · exact .mark rfl (awaits.feed rfl)
      ((carries (.arrayStart stack)).append delimited (carriesAll [d] stack))

/-! ### Objects -/

theorem denotesEntries_nil : DenotesEntries ['}'] [] :=
  ⟨fun _ _ first => by cases first; rfl, [], rfl, fun entries stack => by
    rw [List.append_nil]
    exact .lastMark rfl rfl⟩

/-- The entry of a key and a document, and the entries after it. -/
theorem toJsonEntries_cons {q : Quoted} {d : Document} {ds : List (Quoted × Document)} {k : String}
    {v : Json} {es : List (String × Json)} (key : q.text = .ok k) (value : d.toJson = .ok v)
    (others : Document.toJsonEntries ds = .ok es) :
    Document.toJsonEntries ((q, d) :: ds) = .ok ((k, v) :: es) := by
  rw [Document.toJsonEntries, key, value, others]
  rfl

section Entries

variable {gap : List Char} (blank : ∀ c ∈ gap, isSpace c = true) (k : String) {v : Json}
  {es : List (String × Json)} (first : Denotes text v) (others : DenotesEntries more es)
include blank first others

theorem denotesEntries_cons :
    DenotesEntries (',' :: (gap ++ (quote k ++ ':' :: (text ++ more)))) ((k, v) :: es) := by
  obtain ⟨q, key, quoted⟩ := exists_carries_quote k
  obtain ⟨d, valued, carries⟩ := first
  obtain ⟨delimited, ds, valuedAll, carriesAll⟩ := others
  refine ⟨fun _ _ first => by cases first; rfl, (q, d) :: ds,
    toJsonEntries_cons key valued valuedAll, fun entries stack => ?_⟩
  rw [List.append_cons entries.reverse, ← List.reverse_cons]
  exact .mark rfl rfl (.blanks blank (quoted rfl (.mark rfl rfl
    ((carries (.value _)).append delimited (carriesAll ((q, d) :: entries) stack)))))

theorem denotes_object_cons :
    Denotes ('{' :: (gap ++ (quote k ++ ':' :: (text ++ more)))) (.object ((k, v) :: es)) := by
  obtain ⟨q, key, quoted⟩ := exists_carries_quote k
  obtain ⟨d, valued, carries⟩ := first
  obtain ⟨delimited, ds, valuedAll, carriesAll⟩ := others
  refine ⟨.object ((q, d) :: ds) .closed, ?_, fun {b stack} awaits => ?_⟩
  · rw [Document.toJson, toJsonEntries_cons key valued valuedAll]
    rfl
  · exact .mark rfl (awaits.feed rfl) (.blanks blank (quoted rfl (.mark rfl rfl
      ((carries (.value _)).append delimited (carriesAll [(q, d)] stack)))))

end Entries

theorem denotes_object_nil : Denotes ['{', '}'] (.object []) :=
  ⟨.object [] .closed, rfl, fun awaits => .mark rfl (awaits.feed rfl) (.lastMark rfl rfl)⟩

/-! ## The printer -/

/-- All numbers in the value are counts. -/
inductive IsCounted : Json → Prop
  | null : IsCounted .null
  | bool (value : Bool) : IsCounted (.bool value)
  | count (n : Nat) : IsCounted (.ofNat n)
  | string (s : String) : IsCounted (.string s)
  | array {items : List Json} (counted : ∀ v ∈ items, IsCounted v) : IsCounted (.array items)
  | object {entries : List (String × Json)} (counted : ∀ e ∈ entries, IsCounted e.2) :
    IsCounted (.object entries)

@[simp] theorem isCounted_bool (value : Bool) : (Json.bool value).IsCounted := .bool value

@[simp] theorem isCounted_ofNat (n : Nat) : (Json.ofNat n).IsCounted := .count n

@[simp] theorem isCounted_string (s : String) : (Json.string s).IsCounted := .string s

@[simp] theorem isCounted_array_iff {items : List Json} :
    (Json.array items).IsCounted ↔ ∀ v ∈ items, v.IsCounted :=
  ⟨fun | .array counted => counted, .array⟩

@[simp] theorem isCounted_object_iff {entries : List (String × Json)} :
    (Json.object entries).IsCounted ↔ ∀ e ∈ entries, e.2.IsCounted :=
  ⟨fun | .object counted => counted, .object⟩

theorem denotesItems_compact {vs : List Json} (denotes : ∀ v ∈ vs, Denotes v.compact v) :
    DenotesItems (compactItems vs) vs := by
  induction vs with
  | nil => exact denotesItems_nil
  | cons v vs ih =>
    exact denotesItems_cons (denotes v List.mem_cons_self)
      (ih fun w listed => denotes w (List.mem_cons_of_mem v listed))

theorem denotesEntries_compact {es : List (String × Json)}
    (denotes : ∀ e ∈ es, Denotes e.2.compact e.2) : DenotesEntries (compactEntries es) es := by
  induction es with
  | nil => exact denotesEntries_nil
  | cons e es ih =>
    exact denotesEntries_cons (List.forall_mem_nil _) e.1 (denotes e List.mem_cons_self)
      (ih fun f listed => denotes f (List.mem_cons_of_mem e listed))

/-- The compact text of a value denotes it. -/
theorem denotes_compact {v : Json} (counted : v.IsCounted) : Denotes v.compact v := by
  induction counted with
  | null => exact denotes_null
  | bool value => exact denotes_boolText value
  | count n => exact denotes_ofNat n
  | string s => exact denotes_quote s
  | @array items counted ih =>
    cases items with
    | nil => exact denotes_array_nil
    | cons v vs =>
      exact denotes_array_cons (ih v List.mem_cons_self)
        (denotesItems_compact fun w listed => ih w (List.mem_cons_of_mem v listed))
  | @object entries counted ih =>
    cases entries with
    | nil => exact denotes_object_nil
    | cons e es =>
      exact denotes_object_cons (List.forall_mem_nil _) e.1 (ih e List.mem_cons_self)
        (denotesEntries_compact fun f listed => ih f (List.mem_cons_of_mem e listed))

theorem isSpace_of_mem_space : ∀ c ∈ [' '], isSpace c = true :=
  List.forall_mem_singleton.mpr rfl

/-- A new line and its indentation are white space. -/
theorem isSpace_of_mem_newline {depth : Nat} : ∀ c ∈ newline depth, isSpace c = true := by
  intro c listed
  rcases List.mem_cons.mp listed with rfl | spaces
  · rfl
  · rw [List.eq_of_mem_replicate spaces]
    rfl

theorem denotesItems_indented {depth : Nat} {vs : List Json}
    (denotes : ∀ v ∈ vs, Denotes (indentedAt (depth + 1) v) v) :
    DenotesItems (indentedItems depth vs) vs := by
  induction vs with
  | nil => exact denotesItems_nil.blanks isSpace_of_mem_newline
  | cons v vs ih =>
    exact denotesItems_cons ((denotes v List.mem_cons_self).blanks isSpace_of_mem_newline)
      (ih fun w listed => denotes w (List.mem_cons_of_mem v listed))

theorem denotesEntries_indented {depth : Nat} {es : List (String × Json)}
    (denotes : ∀ e ∈ es, Denotes (indentedAt (depth + 1) e.2) e.2) :
    DenotesEntries (indentedEntries depth es) es := by
  induction es with
  | nil => exact denotesEntries_nil.blanks isSpace_of_mem_newline
  | cons e es ih =>
    rw [indentedEntries, List.append_assoc, List.append_assoc]
    exact denotesEntries_cons isSpace_of_mem_newline e.1
      ((denotes e List.mem_cons_self).blanks isSpace_of_mem_space)
      (ih fun f listed => denotes f (List.mem_cons_of_mem e listed))

/-- The indented text of a value denotes it at any depth. -/
theorem denotes_indentedAt {v : Json} (counted : v.IsCounted) (depth : Nat) :
    Denotes (indentedAt depth v) v := by
  induction counted generalizing depth with
  | null => exact denotes_null
  | bool value => exact denotes_boolText value
  | count n => exact denotes_ofNat n
  | string s => exact denotes_quote s
  | @array items counted ih =>
    cases items with
    | nil => exact denotes_array_nil
    | cons v vs =>
      exact denotes_array_cons
        ((ih v List.mem_cons_self (depth + 1)).blanks isSpace_of_mem_newline)
        (denotesItems_indented fun w listed => ih w (List.mem_cons_of_mem v listed) (depth + 1))
  | @object entries counted ih =>
    cases entries with
    | nil => exact denotes_object_nil
    | cons e es =>
      rw [indentedAt, List.append_assoc, List.append_assoc]
      exact denotes_object_cons isSpace_of_mem_newline e.1
        ((ih e List.mem_cons_self (depth + 1)).blanks isSpace_of_mem_space)
        (denotesEntries_indented fun f listed =>
          ih f (List.mem_cons_of_mem e listed) (depth + 1))

/-! ## Whole texts -/

/-- A text that denotes a value is read as a document of that value, with nothing after it. -/
theorem exists_parse_of_denotes {v : Json} (denotes : Denotes text v) :
    ∃ d : Document, parse text = ⟨d, none⟩ ∧ d.toJson = .ok v := by
  obtain ⟨d, valued, carries⟩ := denotes
  refine ⟨d, ?_, valued⟩
  have delimited : Delimited [] := by
    rintro _ ⟨⟩
  have carried := carries (.value []) [] delimited
  rwa [List.append_nil] at carried

theorem ofString_of_denotes {v : Json} (denotes : Denotes text v) :
    Json.ofString (String.ofList text) = .ok v := by
  obtain ⟨d, parsed, valued⟩ := exists_parse_of_denotes denotes
  rw [Json.ofString, String.toList_ofList, parsed]
  simp only [valued]
  rfl

/-- Reading undoes the compact layout. -/
theorem ofString_compact {v : Json} (counted : v.IsCounted) :
    Json.ofString (String.ofList v.compact) = .ok v :=
  ofString_of_denotes (denotes_compact counted)

/-- Reading undoes the indented layout. -/
theorem ofString_indented {v : Json} (counted : v.IsCounted) :
    Json.ofString (String.ofList v.indented) = .ok v :=
  ofString_of_denotes (denotes_indentedAt counted 0)

end PageLint.Json
