import Mathlib.Data.List.Induction
import PageLint.Proofs.Facts.Schema
import PageLint.Rule.Active

/-!
# Shadow boundaries that are named twice

A page object is either made step by step or read from a fact file. Who makes it may declare a
shadow boundary as often as they like: only the first declaration of a name counts, so the names are
a set in the order of their first declarations. A fact file is taken as it is. A name that it lists
twice is there twice, and the rule on shadow boundaries, which objects to one name after the other,
objects to it twice.

## Main definitions

* `PageObject.Declaration`, `PageObject.ofDeclarations` — the making of a page object
* `PageObject.Held` — the ways to come by a page object
* `Rule.boundary` — the rule's words on one name

## Main results

* `shadowBoundaries_ofDeclarations` — the names of a page object that was made
* `forall₂_says_of_loadOne` — the names of a page object that was read
* `findings_shadowBoundaries` — the findings of the rule, and when there is one for each name
* `not_nodup_shadowBoundaries_of_held` — a name can be held, and reported, twice
-/

namespace PageLint

/-! ## First occurrences -/

section Distinct

variable {α : Type} [DecidableEq α] {as : List α} {a : α}

theorem eraseDups_concat (as : List α) (a : α) :
    (as ++ [a]).eraseDups = if a ∈ as then as.eraseDups else as.eraseDups ++ [a] := by
  rw [List.eraseDups_append]
  by_cases known : a ∈ as <;> simp [known, List.removeAll, List.eraseDups_cons]

theorem nodup_eraseDups (as : List α) : as.eraseDups.Nodup := by
  induction as using List.reverseRecOn with
  | nil => exact List.nodup_nil
  | append_singleton as a ih =>
    rw [eraseDups_concat]
    split
    · exact ih
    · rename_i new
      rw [← List.concat_eq_append]
      exact ih.concat fun old => new (List.mem_eraseDups.mp old)

theorem eraseDups_sublist (as : List α) : as.eraseDups.Sublist as := by
  induction as using List.reverseRecOn with
  | nil => exact List.Sublist.refl _
  | append_singleton as a ih =>
    rw [eraseDups_concat]
    split
    · exact ih.trans (List.sublist_append_left as [a])
    · exact ih.append (List.Sublist.refl [a])

/-- The distinct items of a list are all of it exactly if no one comes twice. -/
theorem eraseDups_eq_self_iff : as.eraseDups = as ↔ as.Nodup := by
  constructor
  · intro whole
    rw [← whole]
    exact nodup_eraseDups as
  · intro distinct
    have same : as.eraseDups.Perm as :=
      (List.perm_ext_iff_of_nodup (nodup_eraseDups as) distinct).mpr fun _ => List.mem_eraseDups
    exact (eraseDups_sublist as).eq_of_length same.length_eq

/-- What is made of the items is made of the distinct ones exactly if no item comes twice, since
otherwise there is too much of it. -/
theorem map_eq_map_eraseDups_iff {β : Type} (f : α → β) :
    as.map f = as.eraseDups.map f ↔ as.Nodup := by
  rw [← eraseDups_eq_self_iff]
  constructor
  · intro same
    have length := congrArg List.length same
    rw [List.length_map, List.length_map] at length
    exact (eraseDups_sublist as).eq_of_length length.symm
  · intro whole
    rw [whole]

end Distinct

/-! ## Page objects that are made -/

namespace PageObject

/-- A step in the making of a page object. -/
inductive Declaration where
  | element (e : Element)
  | method (m : Method)
  | shadowBoundary (name : String)
  | root (r : Root)
deriving DecidableEq, Repr

/-- The name of a shadow boundary that is declared. -/
def Declaration.boundary? : Declaration → Option String
  | shadowBoundary name => some name
  | element _ | method _ | root _ => none

/-- The page object after one more step. -/
def declare (p : PageObject) : Declaration → PageObject
  | .element e => p.addElement e
  | .method m => p.addMethod m
  | .shadowBoundary name => p.addShadowBoundary name
  | .root r => p.setRoot r

/-- The page object that is made in the given steps. -/
def ofDeclarations (name path type : String) (ds : List Declaration) : PageObject :=
  ds.foldl declare (bare name path type)

/-- The ways to come by a page object: it is made, or read from a fact file. -/
inductive Held : PageObject → Prop
  | made (name path type : String) (ds : List Declaration) : Held (ofDeclarations name path type ds)
  | loaded {t : FileTree} {path : Path} {p : PageObject} : Facts.loadOne t path = .ok p → Held p

variable {p : PageObject} {d : Declaration}

/-- A step that declares no boundary leaves the names as they are. -/
theorem shadowBoundaries_declare_of_none (other : d.boundary? = none) :
    (p.declare d).shadowBoundaries = p.shadowBoundaries := by
  cases d with
  | shadowBoundary name => cases other
  | element | method | root => rfl

/-- A boundary is declared behind all others, unless its name is there already. -/
theorem shadowBoundaries_declare_of_some {boundary : String}
    (declared : d.boundary? = some boundary) :
    (p.declare d).shadowBoundaries =
      if boundary ∈ p.shadowBoundaries then p.shadowBoundaries
      else p.shadowBoundaries ++ [boundary] := by
  cases d with
  | shadowBoundary name =>
    obtain rfl : name = boundary := Option.some.inj declared
    rw [declare, addShadowBoundary]
    by_cases known : name ∈ p.shadowBoundaries <;> simp [known]
  | element | method | root => cases declared

theorem ofDeclarations_concat (name path type : String) (ds : List Declaration) (d : Declaration) :
    ofDeclarations name path type (ds ++ [d]) = (ofDeclarations name path type ds).declare d :=
  List.foldl_concat _ _ _ _

/-- The names of a page object that was made are those that were declared, in the order of their
first declarations. -/
theorem shadowBoundaries_ofDeclarations (name path type : String) (ds : List Declaration) :
    (ofDeclarations name path type ds).shadowBoundaries =
      (ds.filterMap Declaration.boundary?).eraseDups := by
  -- The last step adds to what the steps before it have made.
  induction ds using List.reverseRecOn with
  | nil => rfl
  | append_singleton ds d ih =>
    rw [ofDeclarations_concat, List.filterMap_append]
    cases declared : d.boundary? with
    | none =>
      rw [shadowBoundaries_declare_of_none declared, ih, List.filterMap_cons_none declared,
        List.filterMap_nil, List.append_nil]
    | some boundary =>
      rw [shadowBoundaries_declare_of_some declared, ih, List.filterMap_cons_some declared,
        List.filterMap_nil, eraseDups_concat]
      simp only [List.mem_eraseDups]

end PageObject

/-! ## Page objects that are read -/

namespace Facts

open Json (Document Quoted Spells)

/-- The text of a fact file lists the items under the key of the shadow boundaries, or at their
place. -/
def ListsBoundaries (text : String) (items : List Document) : Prop :=
  (∃ (entries : List (Quoted × Document)) (q : Quoted),
    Spells text.toList (.object entries .closed) ∧ (q, .array items .closed) ∈ entries ∧
      q.Says "shadowBoundaries") ∨
    ∃ ds : List Document,
      Spells text.toList (.array ds .closed) ∧ ds[5]? = some (.array items .closed)

/-- An item of a list is the text of a name. -/
def SaysName (item : Document) (name : String) : Prop := ∃ q : Quoted, item = .text q ∧ q.Says name

/-- The names of a page object that was read are those that the file lists, as often as it does. -/
theorem forall₂_says_of_loadOne {t : FileTree} {path : Path} {text : String} {items : List Document}
    {p : PageObject} (stored : t.read path = .ok text) (listed : ListsBoundaries text items)
    (loaded : loadOne t path = .ok p) : List.Forall₂ SaysName items p.shadowBoundaries := by
  obtain ⟨text', stored', read⟩ := loadOne_eq_ok_iff.mp loaded
  obtain rfl : text = text' := Except.ok.inj (stored.symm.trans stored')
  obtain ⟨d, spells, r, rfl, conforms⟩ := Shape.parse_eq_ok_iff.mp read
  obtain ⟨_, _, _, _, _, names, _, ⟨⟩⟩ := r
  rcases listed with ⟨entries, q, spells', member, key⟩ | ⟨ds, spells', there⟩
  -- A page object that is written as an object has one entry of the key.
  · obtain rfl := spells.unique spells'
    rcases conforms with ⟨entries', named, same, keyed, held⟩ | ⟨_, impossible, -⟩
    · obtain ⟨rfl, -⟩ := Document.object.inj same
      obtain ⟨⟨k, d⟩, named, text, rfl⟩ := exists_mem_of_forall₂ keyed member
      obtain rfl : "shadowBoundaries" = k := key.unique text
      obtain ⟨-, -, -, -, -, once, -⟩ := held
      obtain ⟨-, items', same, names⟩ := once.eq_singleton (List.mem_filter.mpr ⟨named, rfl⟩)
      obtain ⟨rfl, -⟩ := Document.array.inj same
      exact names
    · cases impossible
  -- In one that is written as an array the names are the sixth item.
  · obtain rfl := spells.unique spells'
    rcases conforms with ⟨_, _, impossible, -⟩ | ⟨ds', same, held⟩
    · cases impossible
    · obtain ⟨rfl, -⟩ := Document.array.inj same
      match ds, there, held with
      | _ :: _ :: _ :: _ :: _ :: d :: _, there, held =>
        obtain ⟨-, -, -, -, -, ⟨items', same, names⟩, -⟩ := held
        obtain rfl := Option.some.inj there
        obtain ⟨rfl, -⟩ := Document.array.inj same
        exact names

end Facts

/-! ## The detections of the rule -/

/-- The rule's own words on the name of an element that declares a shadow boundary. -/
def Rule.boundary (find : Lookup) (p : PageObject) (name : String) : Detection where
  pageObject := p.path
  related := none
  message :=
    "only root shadow boundary is allowed, please create another page object for the " ++
      "element " ++ Text.quoted name
  fix :=
    "remove \"shadow\" under element " ++ Text.quoted name ++
      " and create separate page object for its content"
  line := find p.path [Text.nameFragment name, Text.quoted "shadow"]

namespace PageObject

/-- The names of shadow boundaries that the rule objects to, all but the root's. -/
def innerBoundaries (p : PageObject) : List String :=
  p.shadowBoundaries.filter (· ≠ Root.elementName)

end PageObject

namespace ActiveRule

variable {r : ActiveRule} (find : Lookup)

/-- The rule objects to one name after the other. -/
theorem findings_shadowBoundaries_eq (which : r.rule = .shadowBoundaries) {p : PageObject}
    (applies : r.appliesTo p = true) :
    r.findings find p = p.innerBoundaries.map fun name => r.report (Rule.boundary find p name) := by
  have others : p.shadowBoundaries.filter (· != Root.elementName) = p.innerBoundaries :=
    List.filter_congr fun _ _ => Bool.eq_iff_iff.mpr (by simp)
  rw [findings, if_pos applies, which, Rule.detect, Rule.detectShadowBoundaries, others,
    List.map_map]
  rfl

/-- A page object that was made has each declared name once, in the order of their first
declarations; one that was read has the names that its file lists, as often as it lists them. The
rule makes a finding for each name but the root's, one after the other, and it makes one finding for
each distinct name exactly if no name but the root's is there twice. -/
theorem findings_shadowBoundaries (which : r.rule = .shadowBoundaries) :
    (∀ (name path type : String) (ds : List PageObject.Declaration),
      let p := PageObject.ofDeclarations name path type ds
      p.shadowBoundaries = (ds.filterMap PageObject.Declaration.boundary?).eraseDups ∧
        p.shadowBoundaries.Nodup) ∧
      (∀ (t : FileTree) (path : Path) (text : String) (items : List Json.Document) (p : PageObject),
        t.read path = .ok text → Facts.ListsBoundaries text items →
          Facts.loadOne t path = .ok p →
            List.Forall₂ Facts.SaysName items p.shadowBoundaries) ∧
      ∀ p : PageObject, r.appliesTo p = true →
        r.findings find p =
            p.innerBoundaries.map (fun name => r.report (Rule.boundary find p name)) ∧
          (r.findings find p =
              p.innerBoundaries.eraseDups.map (fun name => r.report (Rule.boundary find p name)) ↔
            p.innerBoundaries.Nodup) := by
  refine ⟨fun name path type ds => ?_, fun t path text items p => Facts.forall₂_says_of_loadOne,
    fun p applies => ?_⟩
  · have names := PageObject.shadowBoundaries_ofDeclarations name path type ds
    exact ⟨names, names ▸ nodup_eraseDups _⟩
  · have found := findings_shadowBoundaries_eq find which applies
    refine ⟨found, ?_⟩
    rw [found]
    exact map_eq_map_eraseDups_iff _

/-- A page object that has one name twice. -/
def cardsPage : PageObject :=
  { PageObject.bare "cards" "pages/cards.json" "app.Cards" with
    shadowBoundaries := ["card", "root", "card"] }

/-- The directory of a fact file of this page object. -/
def cardsTree : FileTree :=
  ⟨[("cards.json", .file (some (String.ofList (PageObject.shape.write cardsPage).compact)))], []⟩

theorem loadOne_cardsTree : Facts.loadOne cardsTree ⟨"cards.json"⟩ = .ok cardsPage := by
  obtain ⟨compact, -⟩ := Shape.parse_printed PageObject.faithful_shape cardsPage
  exact Facts.loadOne_of_parse rfl compact

/-- A name that a fact file lists twice is held twice, and makes two findings. -/
theorem not_nodup_shadowBoundaries_of_held :
    ¬ ∀ p : PageObject, p.Held →
      p.shadowBoundaries.Nodup ∧
        ∀ (r : ActiveRule) (find : Lookup), r.rule = .shadowBoundaries → r.appliesTo p = true →
          r.findings find p =
            p.innerBoundaries.eraseDups.map fun name => r.report (Rule.boundary find p name) := by
  intro sets
  obtain ⟨distinct, -⟩ := sets cardsPage (.loaded loadOne_cardsTree)
  exact absurd distinct (by decide)

/-- A page object is made with a name that is declared twice, and is reported for each name once;
the one that was read is not. -/
theorem findings_shadowBoundaries_cardsPage :
    let r : ActiveRule := .plain .shadowBoundaries
    let find : Lookup := fun _ _ => 1
    let p := PageObject.ofDeclarations "cards" "pages/cards.json" "app.Cards"
      [.shadowBoundary "card", .root ⟨true, true, none⟩, .shadowBoundary "root",
        .shadowBoundary "card", .method ⟨"open", true⟩, .shadowBoundary "menu"]
    r.rule = .shadowBoundaries ∧
      (r.appliesTo p = true ∧ r.appliesTo cardsPage = true) ∧
      p.shadowBoundaries = ["card", "root", "menu"] ∧
      r.findings find p = ["card", "menu"].map (fun name => r.report (Rule.boundary find p name)) ∧
      r.findings find cardsPage =
        ["card", "card"].map (fun name => r.report (Rule.boundary find cardsPage name)) := by
  intro r find p
  obtain ⟨made, -, reported⟩ := findings_shadowBoundaries (r := r) find rfl
  obtain ⟨names, -⟩ := made "cards" "pages/cards.json" "app.Cards"
    [.shadowBoundary "card", .root ⟨true, true, none⟩, .shadowBoundary "root",
      .shadowBoundary "card", .method ⟨"open", true⟩, .shadowBoundary "menu"]
  have applies : r.appliesTo p = true := rfl
  have applies' : r.appliesTo cardsPage = true := rfl
  exact ⟨rfl, ⟨applies, applies'⟩, names.trans (by decide), (reported p applies).1,
    (reported cardsPage applies').1⟩

end ActiveRule

end PageLint
