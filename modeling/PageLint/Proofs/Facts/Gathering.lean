import PageLint.Facts
import PageLint.Proofs.FileTree.Locating

/-!
# Gathering page objects

Page objects are gathered from all files that match the inputs, or from none. A file that is matched
twice is read once: of the paths with its parts only the first is kept. This loses no reason to
refuse, since paths with the same parts lead to the same file, and so it is enough to look at the
matched paths, and not at those that are kept.

## Main definitions

* `Facts.Matches` — a file matches an input
* `Facts.Gathers` — the page objects of the files that match the inputs
* `Facts.Obstructed` — an input or a file is of no use

## Main results

* `exists_addNew_eq` — files are added behind those that are known, each once
* `value_expand_eq` — the files of all inputs, in their order, each where it comes first
* `exists_mem_foldl_addNew` — each matched file is kept under a path with its parts
* `Gathers.not_obstructed`, `exists_gathers` — page objects are gathered unless an input or a matched
  file is of no use
-/

namespace PageLint

/-! ## Files under several paths -/

namespace FileTree

variable {t : FileTree} {p q : Path}

theorem exists_locate_of_isFile (there : t.isFile p = true) : ∃ place, t.locate p = .ok place := by
  unfold isFile at there
  cases found : t.locate p with
  | ok place => exact ⟨place, rfl⟩
  | error cause =>
    rw [found] at there
    cases there

/-- A file has the same text under all paths with the same parts. -/
theorem read_eq_of_parts_eq (same : p.parts = q.parts) (there : t.isFile p = true)
    (there' : t.isFile q = true) : t.read p = t.read q := by
  obtain ⟨place, found⟩ := exists_locate_of_isFile there
  obtain ⟨place', found'⟩ := exists_locate_of_isFile there'
  rw [read, read, found, found', eq_of_locate_of_parts_eq same found found']

end FileTree

namespace Facts

variable {t : FileTree} {root path : Path} {input : String} {inputs : List String}
  {files known paths : List Path}

/-! ## The files of an input -/

/-- The path is one of those that the input finds, and there is a file at it. -/
def Matches (t : FileTree) (root : Path) (input : String) (path : Path) : Prop :=
  ∃ pattern, patternOf root input = .ok pattern ∧ path ∈ pattern.find t ∧
    t.isFile path = true

theorem mem_filesOf_iff (valid : filesOf t root input = .ok files) :
    path ∈ files ↔ Matches t root input path := by
  unfold filesOf at valid
  unfold Matches
  cases read : patternOf root input with
  | error fault =>
    rw [read] at valid
    cases valid
  | ok pattern =>
    rw [read] at valid
    cases valid
    simp

theorem filesOf_eq_error_iff {err : Error} :
    filesOf t root input = .error err ↔
      ∃ fault, patternOf root input = .error fault ∧
        err = .badPattern input fault := by
  unfold filesOf
  cases patternOf root input <;> simp [eq_comm]

/-! ## The files of all inputs -/

/-- Files are added behind those that are known, in their order, and none of them twice. -/
theorem exists_addNew_eq (known files : List Path) :
    ∃ fresh, addNew known files = known ++ fresh ∧ fresh.Sublist files ∧
      (∀ p ∈ fresh, ∀ q ∈ known, q.parts ≠ p.parts) ∧
      fresh.Pairwise fun p q => p.parts ≠ q.parts := by
  induction files generalizing known with
  | nil => exact ⟨[], by simp [addNew]⟩
  | cons p files ih =>
    rw [addNew]
    split
    · obtain ⟨fresh, added, within, new, distinct⟩ := ih known
      exact ⟨fresh, added, within.cons p, new, distinct⟩
    · rename_i other
      have first : ∀ q ∈ known, q.parts ≠ p.parts := by simpa using other
      -- What comes later is new beside the known files and beside this one.
      obtain ⟨fresh, added, within, new, distinct⟩ := ih (known ++ [p])
      simp only [List.forall_mem_append, List.forall_mem_singleton] at new
      refine ⟨p :: fresh, by rw [added, List.append_assoc, List.singleton_append],
        within.cons_cons p, ?_, ?_⟩
      · exact List.forall_mem_cons.mpr ⟨first, fun q listed => (new q listed).1⟩
      · exact List.pairwise_cons.mpr ⟨fun q listed => (new q listed).2, distinct⟩

theorem prefix_addNew (known files : List Path) : known <+: addNew known files := by
  obtain ⟨fresh, added, -⟩ := exists_addNew_eq known files
  exact ⟨fresh, added.symm⟩

theorem mem_or_mem_of_mem_addNew (listed : path ∈ addNew known files) :
    path ∈ known ∨ path ∈ files := by
  obtain ⟨fresh, added, within, -⟩ := exists_addNew_eq known files
  rw [added] at listed
  exact (List.mem_append.mp listed).imp_right fun own => within.subset own

/-- A path that is not added has its parts in common with one that is there. -/
theorem exists_mem_addNew (listed : path ∈ files) (known : List Path) :
    ∃ q ∈ addNew known files, q.parts = path.parts := by
  induction files generalizing known with
  | nil => cases listed
  | cons p files ih =>
    rw [addNew]
    rcases List.mem_cons.mp listed with rfl | later
    · split
      · rename_i old
        obtain ⟨q, member, same⟩ := List.any_eq_true.mp old
        exact ⟨q, (prefix_addNew _ _).subset member, eq_of_beq same⟩
      · exact ⟨path, (prefix_addNew _ _).subset (by simp), rfl⟩
    · split
      · exact ih later known
      · exact ih later _

theorem prefix_foldl_addNew (filess : List (List Path)) (known : List Path) :
    known <+: filess.foldl addNew known := by
  induction filess generalizing known with
  | nil => exact List.prefix_rfl
  | cons files filess ih => exact (prefix_addNew known files).trans (ih _)

theorem exists_mem_of_mem_foldl_addNew {filess : List (List Path)}
    (listed : path ∈ filess.foldl addNew known) :
    path ∈ known ∨ ∃ files ∈ filess, path ∈ files := by
  induction filess generalizing known with
  | nil => exact .inl listed
  | cons files filess ih =>
    rcases ih listed with earlier | ⟨others, member, later⟩
    · rcases mem_or_mem_of_mem_addNew earlier with old | own
      · exact .inl old
      · exact .inr ⟨files, List.mem_cons_self, own⟩
    · exact .inr ⟨others, List.mem_cons_of_mem _ member, later⟩

/-- Each file is kept under a path with its parts. -/
theorem exists_mem_foldl_addNew {filess : List (List Path)} (member : files ∈ filess)
    (listed : path ∈ files) (known : List Path) :
    ∃ q ∈ filess.foldl addNew known, q.parts = path.parts := by
  induction filess generalizing known with
  | nil => cases member
  | cons others filess ih =>
    rcases List.mem_cons.mp member with rfl | later
    · obtain ⟨q, added, same⟩ := exists_mem_addNew listed known
      exact ⟨q, (prefix_foldl_addNew filess _).subset added, same⟩
    · exact ih later _

theorem expandFrom_cons :
    expandFrom t root known (input :: inputs) =
      (match filesOf t root input with
      | .error err => pure (.error err)
      | .ok files => do
        if files.isEmpty then Logged.log [unmatched input]
        expandFrom t root (addNew known files) inputs) := by
  rfl

/-- Whether an input has files is logged, but does not decide what comes of it. -/
theorem value_expandFrom_cons :
    (expandFrom t root known (input :: inputs)).value = (do
      let files ← filesOf t root input
      (expandFrom t root (addNew known files) inputs).value) := by
  rw [expandFrom_cons]
  cases filesOf t root input with
  | error err => rfl
  | ok files =>
    dsimp only
    split
    · rfl
    · rfl

theorem value_expandFrom_eq (known : List Path) (inputs : List String) :
    (expandFrom t root known inputs).value =
      (fun filess => filess.foldl addNew known) <$> inputs.mapM (filesOf t root) := by
  induction inputs generalizing known with
  | nil => rfl
  | cons input inputs ih =>
    rw [value_expandFrom_cons, List.mapM_cons]
    simp only [ih]
    cases filesOf t root input with
    | error err => rfl
    | ok files => cases inputs.mapM (filesOf t root) <;> rfl

/-- The files of all inputs, in the order of the inputs, each where it comes first. -/
theorem value_expand_eq (t : FileTree) (root : Path) (inputs : List String) :
    (expand t root inputs).value =
      (fun filess => filess.foldl addNew []) <$> inputs.mapM (filesOf t root) :=
  value_expandFrom_eq [] inputs

/-! ## The page objects -/

theorem value_load_eq (t : FileTree) (paths : List Path) :
    (load t paths).value = paths.mapM (loadOne t) := by
  unfold load
  cases paths.mapM (loadOne t) <;> rfl

/-- The page objects of the files that match the inputs. -/
def Gathers (t : FileTree) (root : Path) (inputs : List String) (ps : List PageObject) : Prop :=
  ∃ paths, (expand t root inputs).value = .ok paths ∧ (load t paths).value = .ok ps

theorem Gathers.unique {ps qs : List PageObject} (gathered : Gathers t root inputs ps)
    (gathered' : Gathers t root inputs qs) : ps = qs := by
  obtain ⟨paths, expanded, loaded⟩ := gathered
  obtain ⟨paths', expanded', loaded'⟩ := gathered'
  obtain rfl := Except.ok.inj (expanded.symm.trans expanded')
  exact Except.ok.inj (loaded.symm.trans loaded')

/-- An input or a matched file is of no use. -/
inductive Obstructed (t : FileTree) (root : Path) (inputs : List String) : Prop
  /-- The input is no pattern. -/
  | pattern {input : String} {fault : Pattern.Fault} (given : input ∈ inputs)
    (faulty : patternOf root input = .error fault)
  /-- The file has no text. -/
  | unreadable {input : String} {path : Path} {cause : FileTree.Cause} (given : input ∈ inputs)
    (found : Matches t root input path) (failed : t.read path = .error cause)
  /-- The text of the file is not that of a page object. -/
  | malformed {input : String} {path : Path} {text : String} {trouble : Shape.Trouble}
    (given : input ∈ inputs) (found : Matches t root input path) (stored : t.read path = .ok text)
    (faulty : Shape.parse PageObject.shape text = .error trouble)

theorem loadOne_eq_error_iff {err : Error} :
    loadOne t path = .error err ↔
      (∃ cause, t.read path = .error cause ∧ err = .unreadable path cause) ∨
        ∃ text trouble, t.read path = .ok text ∧
          Shape.parse PageObject.shape text = .error trouble ∧ err = .malformed path trouble := by
  unfold loadOne
  cases t.read path with
  | error cause => simp [eq_comm]
  | ok text => cases parsed : Shape.parse PageObject.shape text <;> simp [parsed, eq_comm]

theorem Obstructed.of_filesOf {err : Error} (given : input ∈ inputs)
    (failed : filesOf t root input = .error err) : Obstructed t root inputs := by
  obtain ⟨fault, faulty, -⟩ := filesOf_eq_error_iff.mp failed
  exact .pattern given faulty

theorem Obstructed.of_loadOne {err : Error} (given : input ∈ inputs)
    (found : Matches t root input path) (failed : loadOne t path = .error err) :
    Obstructed t root inputs := by
  rcases loadOne_eq_error_iff.mp failed with ⟨cause, failed, -⟩ | ⟨text, trouble, stored, faulty, -⟩
  · exact .unreadable given found failed
  · exact .malformed given found stored faulty

/-- The page object of a file does not depend on which of its paths is read. -/
theorem loadOne_eq_ok_of_parts_eq {q : Path} {p : PageObject} (same : q.parts = path.parts)
    (there : t.isFile path = true) (there' : t.isFile q = true) (loaded : loadOne t q = .ok p) :
    loadOne t path = .ok p := by
  rw [loadOne, FileTree.read_eq_of_parts_eq same there' there] at loaded
  unfold loadOne
  cases read : t.read path with
  | error cause =>
    rw [read] at loaded
    cases loaded
  | ok text =>
    rw [read] at loaded
    dsimp only at loaded ⊢
    cases parsed : Shape.parse PageObject.shape text with
    | error trouble =>
      rw [parsed] at loaded
      cases loaded
    | ok p' =>
      rw [parsed] at loaded
      exact loaded

/-- Where page objects are gathered, each input is a pattern, and each file that one of them matches
is that of a page object. -/
theorem Gathers.not_obstructed {ps : List PageObject} (gathered : Gathers t root inputs ps) :
    ¬ Obstructed t root inputs := by
  obtain ⟨paths, expanded, loaded⟩ := gathered
  rw [value_load_eq] at loaded
  rw [value_expand_eq, map_eq_ok_iff] at expanded
  obtain ⟨filess, valid, rfl⟩ := expanded
  have found {input} (given : input ∈ inputs) :
      ∃ files ∈ filess, filesOf t root input = .ok files := exists_mem_of_mapM_eq_ok valid given
  -- A matched file is kept under a path with its parts, and what is kept is matched itself.
  have gives {input path} (given : input ∈ inputs) (hit : Matches t root input path) :
      ∃ p, loadOne t path = .ok p := by
    obtain ⟨files, member, own⟩ := found given
    obtain ⟨q, kept, same⟩ := exists_mem_foldl_addNew member ((mem_filesOf_iff own).mpr hit) []
    obtain ⟨p, -, loaded⟩ := exists_mem_of_mapM_eq_ok loaded kept
    rcases exists_mem_of_mem_foldl_addNew kept with none | ⟨others, listed, later⟩
    · cases none
    · obtain ⟨input', -, other⟩ := exists_of_mem_mapM valid listed
      obtain ⟨_, _, _, there⟩ := hit
      obtain ⟨_, _, _, there'⟩ := (mem_filesOf_iff other).mp later
      exact ⟨p, loadOne_eq_ok_of_parts_eq same there there' loaded⟩
  intro obstructed
  cases obstructed with
  | pattern given faulty =>
    obtain ⟨files, -, own⟩ := found given
    rw [filesOf_eq_error_iff.mpr ⟨_, faulty, rfl⟩] at own
    cases own
  | unreadable given hit failed =>
    obtain ⟨p, own⟩ := gives given hit
    rw [loadOne_eq_error_iff.mpr (.inl ⟨_, failed, rfl⟩)] at own
    cases own
  | malformed given hit stored faulty =>
    obtain ⟨p, own⟩ := gives given hit
    rw [loadOne_eq_error_iff.mpr (.inr ⟨_, _, stored, faulty, rfl⟩)] at own
    cases own

/-- Page objects are gathered unless an input or a matched file is of no use. -/
theorem exists_gathers (free : ¬ Obstructed t root inputs) : ∃ ps, Gathers t root inputs ps := by
  have valid (input) (given : input ∈ inputs) : ∃ files, filesOf t root input = .ok files := by
    cases own : filesOf t root input with
    | error err => exact absurd (.of_filesOf given own) free
    | ok files => exact ⟨files, rfl⟩
  obtain ⟨filess, valid⟩ := exists_mapM_eq_ok valid
  have useful (path) (kept : path ∈ filess.foldl addNew []) : ∃ p, loadOne t path = .ok p := by
    rcases exists_mem_of_mem_foldl_addNew kept with none | ⟨files, listed, own⟩
    · cases none
    · obtain ⟨input, given, found⟩ := exists_of_mem_mapM valid listed
      cases loaded : loadOne t path with
      | error err => exact absurd (.of_loadOne given ((mem_filesOf_iff found).mp own) loaded) free
      | ok p => exact ⟨p, rfl⟩
  obtain ⟨ps, loaded⟩ := exists_mapM_eq_ok useful
  refine ⟨ps, _, ?_, (value_load_eq t _).trans loaded⟩
  rw [value_expand_eq, valid]
  rfl

end Facts

end PageLint
