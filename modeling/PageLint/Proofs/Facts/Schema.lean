import PageLint.Proofs.Facts
import PageLint.Proofs.Shape.Reordering

/-!
# The schema of fact files

A fact file holds a page object exactly if its text spells one JSON document that conforms to the
shape of page objects, and it is the page object that the document denotes. Entries of objects may
stand in any order, and at every level there may be others under keys that are not known.

## Main results

* `Facts.loadOne_eq_ok_iff` — the files that hold a page object
* `Facts.loadOne_conforms` — texts and files, and what may differ between them
-/

namespace PageLint.Facts

open Json (Document Quoted Spells)

/-- A file holds the page object that its text is read as. -/
theorem loadOne_eq_ok_iff {t : FileTree} {path : Path} {p : PageObject} :
    loadOne t path = .ok p ↔
      ∃ text, t.read path = .ok text ∧ Shape.parse PageObject.shape text = .ok p := by
  constructor
  · intro loaded
    rw [loadOne] at loaded
    split at loaded
    · cases loaded
    · rename_i text stored
      split at loaded
      · cases loaded
      · rename_i read
        cases loaded
        exact ⟨text, stored, read⟩
  · rintro ⟨text, stored, read⟩
    exact loadOne_of_parse stored read

/-- A text is read as a page object exactly if it spells a document that conforms to the shape of
page objects, and as the page object that this document denotes; so is a file with that text. The
order of entries and entries under unknown keys make no difference. -/
theorem loadOne_conforms (text : String) :
    (∀ p, Shape.parse PageObject.shape text = .ok p ↔
        ∃ d, Spells text.toList d ∧ PageObject.shape.Conforms d p) ∧
      (∀ (t : FileTree) (path : Path), t.read path = .ok text →
        ∀ p, loadOne t path = .ok p ↔
          ∃ d, Spells text.toList d ∧ PageObject.shape.Conforms d p) ∧
      ∀ text' d d', Spells text.toList d → Spells text'.toList d' → PageObject.shape.Alike d d' →
        ∀ p, Shape.parse PageObject.shape text = .ok p ↔
          Shape.parse PageObject.shape text' = .ok p := by
  refine ⟨fun p => Shape.parse_eq_ok_iff, fun t path stored p => ?_, ?_⟩
  · rw [loadOne_eq_ok_iff, ← Shape.parse_eq_ok_iff]
    constructor
    · rintro ⟨text', stored', read⟩
      rwa [Except.ok.inj (stored.symm.trans stored')]
    · exact fun read => ⟨text, stored, read⟩
  · intro text' d d' spells spells' alike p
    exact Shape.parse_eq_ok_iff_of_alike spells spells' alike

/-- A page object without parts, written without white space. -/
def plainText : String :=
  "\x7b\"name\":\"A\",\"sourcePath\":\"B\",\"typeFullName\":\"C\"\x7d"

/-- The same page object, with a key that is not known and in another order. -/
def shuffledText : String :=
  "\x7b \"seen\": [1, null], \"typeFullName\": \"C\",\n\"sourcePath\": \"B\", \"name\": \"A\" \x7d\n"

/-- The entries of the first text. -/
def plainEntries : List (Quoted × Document) :=
  [(.ofString "name", .text (.ofString "A")), (.ofString "sourcePath", .text (.ofString "B")),
    (.ofString "typeFullName", .text (.ofString "C"))]

/-- The entry that the second text has beside them. -/
def seenEntry : Quoted × Document :=
  (.ofString "seen", .array [.number (.ok (.ofNat 1)), .word .null none] .closed)

/-- The directory of a file with the first text. -/
def plainTree : FileTree := ⟨[("a.json", .file (some plainText))], []⟩

theorem spells_plainText : Spells plainText.toList (.object plainEntries .closed) :=
  Json.spells_iff.mpr ⟨by rfl, (Document.skip_eq_none_iff _).mp (by rfl)⟩

theorem spells_shuffledText :
    Spells shuffledText.toList (.object (plainEntries ++ [seenEntry]).reverse .closed) :=
  Json.spells_iff.mpr ⟨by rfl, (Document.skip_eq_none_iff _).mp (by rfl)⟩

theorem alike_shuffled :
    PageObject.shape.Alike (.object plainEntries .closed)
      (.object (plainEntries ++ [seenEntry]).reverse .closed) := by
  refine .inr (.inl ⟨_, _, rfl, rfl, plainEntries, plainEntries, [], [seenEntry], ?_,
    List.reverse_perm _, ?_, List.forall_mem_nil _, List.forall_mem_singleton.mpr ?_⟩)
  · rw [List.append_nil]
  · exact List.forall₂_same.mpr fun e _ => ⟨rfl, Shape.Fields.AlikeAt.refl _⟩
  · exact ⟨"seen", Json.Quoted.text_eq_ok_iff.mp (Json.Quoted.text_ofString "seen"), by decide⟩

theorem loadOne_conforms_shuffled :
    plainTree.read ⟨"a.json"⟩ = .ok plainText ∧
      loadOne plainTree ⟨"a.json"⟩ = .ok (PageObject.bare "A" "B" "C") ∧
      Shape.parse PageObject.shape shuffledText = .ok (PageObject.bare "A" "B" "C") := by
  have stored : plainTree.read ⟨"a.json"⟩ = .ok plainText := rfl
  have read : Shape.parse PageObject.shape plainText = .ok (PageObject.bare "A" "B" "C") := by rfl
  obtain ⟨texts, files, order⟩ := loadOne_conforms plainText
  refine ⟨stored, (files plainTree _ stored _).mpr ((texts _).mp read), ?_⟩
  exact (order _ _ _ spells_plainText spells_shuffledText alike_shuffled _).mp read

end PageLint.Facts
