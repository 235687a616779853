import PageLint.Config.Discovery
import PageLint.Proofs.Json.Merging
import PageLint.Proofs.Shape.Following

/-!
# Configurations inside larger documents

A compiler hands its configuration over as a value, which it has cut out of a larger document; a
repository has one in a file, and its text is read directly. Both give the same configuration, and
both refuse the same texts. Only the reason may differ, because a text goes wrong at a character and
a value does not.

A compiler holds objects as maps, so this is said of values that are merged, and of texts whose
objects repeat no key: where one does, the file is refused, and the compiler has lost the entry that
would be the reason to refuse.

## Main definitions

* `Config.IsJson` — the configuration at the path is read as JSON

## Main results

* `embedded_eq_ok_iff` — a configuration is read from a value as it is from the text of a file
-/

namespace PageLint.Config

open Json (Document Spells)

/-- The configuration at the path is read as JSON: no other format has the path's extension. -/
def IsJson (path : Path) : Prop := path.extension? ∉ [some "toml", some "yaml", some "yml"]

instance (path : Path) : Decidable (IsJson path) := inferInstanceAs (Decidable (¬ _))

theorem parse_of_isJson {path : Path} (json : IsJson path) (text : String) :
    parse path text = (Shape.parse shape text).mapError (.json path) := by
  unfold parse
  split
  · rename_i toml
    exact absurd (by simp [toml]) json
  · rename_i yaml
    exact absurd (by simp [yaml]) json
  · rename_i yml
    exact absurd (by simp [yml]) json
  · cases Shape.parse shape text <;> rfl

/-- The file at such a path has the configuration that its text has. -/
theorem ofFile_of_isJson {t : FileTree} {path : Path} {text : String}
    (stored : t.read path = .ok text) (json : IsJson path) :
    ofFile t path = (Shape.parse shape text).mapError (.json path) := by
  rw [ofFile, stored]
  exact parse_of_isJson json text

theorem mapError_eq_ok_iff {ε ε' α : Type} {f : ε → ε'} {x : Except ε α} {a : α} :
    x.mapError f = .ok a ↔ x = .ok a := by
  cases x <;> simp [Except.mapError]

/-- Where no object of a text repeats a key, the configuration that a value of the text has, as a
part of a larger document, is the one of the text and of a file with it. If there is none, then both
are refused, each for a reason of its own. -/
theorem embedded_eq_ok_iff {s : String} {v : Json} (denotes : Json.ofString s = .ok v)
    (once : v.Unrepeated) :
    (∀ c, ofJson? (some v.merged) = .ok c ↔ Shape.parse shape s = .ok c) ∧
      ∀ (t : FileTree) (path : Path), t.read path = .ok s → IsJson path →
        (∀ c, ofJson? (some v.merged) = .ok c ↔ ofFile t path = .ok c) ∧
          ((∃ c, ofJson? (some v.merged) = .ok c ∧ ofFile t path = .ok c) ∨
            ∃ trouble trouble', ofJson? (some v.merged) = .error trouble ∧
              ofFile t path = .error (.json path trouble')) := by
  have alike (c : Config) : ofJson? (some v.merged) = .ok c ↔ Shape.parse shape s = .ok c := by
    rw [once.merged_eq]
    exact Shape.read_ofValue_eq_ok_iff_parse denotes
  refine ⟨alike, fun t path stored json => ?_⟩
  rw [ofFile_of_isJson stored json]
  refine ⟨fun c => (alike c).trans mapError_eq_ok_iff.symm, ?_⟩
  cases parsed : Shape.parse shape s with
  | ok c => exact .inl ⟨c, (alike c).mpr parsed, rfl⟩
  | error trouble' =>
    cases embedded : ofJson? (some v.merged) with
    | ok c =>
      rw [(alike c).mp embedded] at parsed
      cases parsed
    | error trouble => exact .inr ⟨trouble, trouble', rfl, rfl⟩

/-- Of a text that repeats a key, the value is accepted and the text is refused. -/
example :
    (∃ c, ofJson? (some (Json.object [("disable", .bool true), ("disable", .bool true)]).merged) =
      .ok c) ∧
      Shape.parse shape "\x7b\"disable\": true, \"disable\": true\x7d" =
        .error (.mismatch (.duplicate "disable")) :=
  ⟨⟨_, rfl⟩, by cbv⟩

/-- A text with a setting under its other name, and with an entry that no setting has. -/
def authorText : String :=
  "\x7b\"throwError\": true, \"requiredAuthor\": \x7b\"violation\": \"error\"\x7d, \"x\": [1]\x7d"

/-- The value of this text. -/
def authorValue : Json :=
  .object [("throwError", .bool true),
    ("requiredAuthor", .object [("violation", .string "error")]),
    ("x", .array [.number (.ofNat 1)])]

/-- What this text says. -/
def authorDocument : Document :=
  .object
    [(.ofString "throwError", .word .true none),
      (.ofString "requiredAuthor",
        .object [(.ofString "violation", .text (.ofString "error"))] .closed),
      (.ofString "x", .array [.number (.ok (.ofNat 1))] .closed)] .closed

theorem spells_authorText : Spells authorText.toList authorDocument :=
  Json.spells_iff.mpr ⟨by rfl, (Document.skip_eq_none_iff _).mp (by rfl)⟩

theorem unrepeated_authorValue : authorValue.Unrepeated := by
  refine .object (by decide) ?_
  simp only [List.forall_mem_cons]
  refine ⟨.bool true, .object (by decide) ?_, .array ?_, fun e none => by cases none⟩
  · simpa using .string "error"
  · simpa using .number _

/-- A repository with the text as its configuration. -/
def authorTree : FileTree := ⟨[("polint.json", .file (some authorText))], []⟩

theorem embedded_eq_ok_iff_author :
    Json.ofString authorText = .ok authorValue ∧
      authorTree.read ⟨"polint.json"⟩ = .ok authorText ∧
      ∃ c : Config, c.throwOnError = true ∧
        c.overrides .author = some ⟨some .error, [], none, none⟩ ∧
        ofJson? (some authorValue.merged) = .ok c ∧ Shape.parse shape authorText = .ok c ∧
        ofFile authorTree ⟨"polint.json"⟩ = .ok c := by
  have denotes : Json.ofString authorText = .ok authorValue :=
    Json.ofString_eq_ok_iff.mpr ⟨authorDocument, spells_authorText, rfl⟩
  have stored : authorTree.read ⟨"polint.json"⟩ = .ok authorText := rfl
  obtain ⟨text, file⟩ := embedded_eq_ok_iff denotes unrepeated_authorValue
  obtain ⟨same, -⟩ := file authorTree ⟨"polint.json"⟩ stored (by decide)
  obtain ⟨c, accepted⟩ : ∃ c, ofJson? (some authorValue.merged) = .ok c := ⟨_, rfl⟩
  refine ⟨denotes, stored, c, ?_, ?_, accepted, (text c).mp accepted, (same c).mp accepted⟩
  · cases accepted
    rfl
  · cases accepted
    rfl

end PageLint.Config
