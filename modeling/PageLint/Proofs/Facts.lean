import PageLint.Facts
import PageLint.Proofs.Shape.RoundTrip

/-!
# Fact files keep page objects as they are

The shapes of a page object and of its parts lose nothing in writing: no record has a key twice, the
strategies have different names, and a part that may be left out is never written as null when it is
there. So a fact file that was written from a page object gives back that page object, whatever is
in its texts, and in either layout.

## Main results

* `PageObject.faithful_shape` — page objects lose nothing in writing
* `Facts.loadOne_printed` — a fact file gives back the page object that was written
-/

namespace PageLint

/-! ## Shapes that lose nothing -/

theorem Strategy.name_injective : Function.Injective Strategy.name := by
  intro s t
  cases s <;> cases t <;> decide

theorem Strategy.faithful_shape : Strategy.shape.Faithful := by
  refine ⟨fun s => ?_, Strategy.name_injective⟩
  cases s <;> decide

theorem Locator.faithful_shape : Locator.shape.Faithful :=
  ⟨⟨Strategy.faithful_shape, trivial, trivial⟩, by decide, fun _ => rfl⟩

theorem Selector.faithful_shape : Selector.shape.Faithful :=
  ⟨⟨Locator.faithful_shape, trivial, trivial⟩, by decide, fun _ => rfl⟩

theorem Scope.faithful_shape : Scope.shape.Faithful :=
  ⟨⟨⟨trivial, nofun⟩, trivial, trivial⟩, by decide, fun _ => rfl⟩

theorem Element.faithful_shape : Element.shape.Faithful :=
  ⟨⟨trivial, ⟨trivial, nofun⟩, ⟨Selector.faithful_shape, nofun⟩, ⟨Scope.faithful_shape, nofun⟩,
    trivial⟩, by decide, fun _ => rfl⟩

theorem Method.faithful_shape : Method.shape.Faithful :=
  ⟨⟨trivial, trivial, trivial⟩, by decide, fun _ => rfl⟩

theorem Root.faithful_shape : Root.shape.Faithful :=
  ⟨⟨trivial, trivial, ⟨Selector.faithful_shape, nofun⟩, trivial⟩, by decide, fun _ => rfl⟩

/-- Page objects lose nothing in writing. -/
theorem PageObject.faithful_shape : PageObject.shape.Faithful :=
  ⟨⟨trivial, trivial, trivial, Element.faithful_shape, Method.faithful_shape, trivial,
    ⟨Root.faithful_shape, nofun⟩, trivial⟩, by decide, fun _ => rfl⟩

/-! ## Files -/

namespace Facts

/-- A file gives the page object that its text is read as. -/
theorem loadOne_of_parse {p : PageObject} {text : String} {t : FileTree} {path : Path}
    (stored : t.read path = .ok text) (parsed : Shape.parse PageObject.shape text = .ok p) :
    loadOne t path = .ok p := by
  rw [loadOne, stored]
  simp only [parsed]

/-- The text of a written page object is read as that page object, in the compact layout and in the
indented one, and so is a fact file that holds it. -/
theorem loadOne_printed (p : PageObject) :
    Shape.parse PageObject.shape (String.ofList (PageObject.shape.write p).compact) = .ok p ∧
      Shape.parse PageObject.shape (String.ofList (PageObject.shape.write p).indented) = .ok p ∧
      ∀ (t : FileTree) (path : Path),
        (t.read path = .ok (String.ofList (PageObject.shape.write p).compact) ∨
          t.read path = .ok (String.ofList (PageObject.shape.write p).indented)) →
        loadOne t path = .ok p := by
  obtain ⟨compact, indented⟩ := Shape.parse_printed PageObject.faithful_shape p
  refine ⟨compact, indented, fun t path stored => ?_⟩
  rcases stored with stored | stored
  · exact loadOne_of_parse stored compact
  · exact loadOne_of_parse stored indented

/-- A page object with quotes, a backslash, a control character and a letter beyond ASCII in its
texts, and with parts that are there and parts that are not. -/
def thorny : PageObject where
  name := "say \"hi\"\\"
  path := "a\u0001b.json"
  type := "größe"
  elements :=
    [⟨"row", none, some ⟨⟨.classChain, "\t**"⟩, true⟩, some ⟨none, true⟩⟩,
      ⟨"", some "basic", none, none⟩]
  methods := [⟨"press", false⟩]
  shadowBoundaries := ["row"]
  root := some ⟨true, false, none⟩

/-- The directory of a file with the compact text of this page object. -/
def thornyTree : FileTree :=
  ⟨[("a.json", .file (some (String.ofList (PageObject.shape.write thorny).compact)))], []⟩

theorem loadOne_printed_thorny :
    thornyTree.read ⟨"a.json"⟩ = .ok (String.ofList (PageObject.shape.write thorny).compact) ∧
      loadOne thornyTree ⟨"a.json"⟩ = .ok thorny := by
  have stored :
      thornyTree.read ⟨"a.json"⟩ =
        .ok (String.ofList (PageObject.shape.write thorny).compact) := rfl
  obtain ⟨-, -, loaded⟩ := loadOne_printed thorny
  exact ⟨stored, loaded _ _ (.inl stored)⟩

end Facts

end PageLint
