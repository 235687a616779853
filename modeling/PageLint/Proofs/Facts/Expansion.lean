import Mathlib.Order.Lattice.Nat
import PageLint.Proofs.Facts
import PageLint.Proofs.Facts.Gathering
import PageLint.Proofs.Path.Order

/-!
# Inputs that overlap

The files of a list of inputs are those that one of them finds, each of them once. They come in the
order of the inputs that find them first, and those with the same first input in the order of their
paths. Paths with the same parts count as one here, as they do for the order of paths.

So a list of files is settled by what the inputs find, and not by how they are gone through: more
inputs add files at its end, and an input that is given again adds none.

## Main definitions

* `Facts.Finds` — an input finds the file at a path
* `Facts.FirstAt` — the index of the first input that finds it
* `Facts.Precedes` — the order of the files of all inputs

## Main results

* `IsUnion.concat`, `isUnion_foldl_addNew` — one more input, and all inputs
* `expand_unites` — the files of a list of inputs, their order, and the reason to refuse the list
-/

namespace PageLint.Facts

variable {t : FileTree} {root p q : Path} {input : String} {inputs more : List String}
  {files known paths : List Path}

/-! ## The files of one input -/

/-- The files of an input come in the order of their paths. -/
theorem sorted_of_filesOf (valid : filesOf t root input = .ok files) :
    files.Pairwise fun p q => p.ranks ≤ q.ranks := by
  unfold filesOf at valid
  split at valid
  · cases valid
  · cases valid
    exact Path.pairwise_mergeSort_le _

/-- Files that are known are not added. -/
theorem addNew_eq_of_known (all : ∀ p ∈ files, ∃ q ∈ known, q.parts = p.parts) :
    addNew known files = known := by
  obtain ⟨fresh, added, within, new, -⟩ := exists_addNew_eq known files
  obtain rfl : fresh = [] := by
    refine List.eq_nil_iff_forall_not_mem.mpr fun p listed => ?_
    obtain ⟨q, member, same⟩ := all p (within.subset listed)
    exact new p listed q member same
  rw [added, List.append_nil]

/-! ## What the inputs find -/

/-- The input finds the file at the path, under the path itself or another one with its parts. -/
def Finds (t : FileTree) (root : Path) (input : String) (path : Path) : Prop :=
  ∃ q, q.parts = path.parts ∧ Matches t root input q

/-- The index is that of the first input that finds the file at the path. -/
def FirstAt (t : FileTree) (root : Path) (inputs : List String) (path : Path) : ℕ → Prop :=
  IsLeast {n | ∃ input, inputs[n]? = some input ∧ Finds t root input path}

/-- One file comes before another: an earlier input finds it first, or the same input does and its
path comes first. -/
def Precedes (t : FileTree) (root : Path) (inputs : List String) (p q : Path) : Prop :=
  ∃ m n, FirstAt t root inputs p m ∧ FirstAt t root inputs q n ∧
    (m < n ∨ m = n ∧ p.ranks < q.ranks)

theorem Finds.congr (found : Finds t root input p) (same : p.parts = q.parts) :
    Finds t root input q := by
  obtain ⟨r, alike, hit⟩ := found
  exact ⟨r, alike.trans same, hit⟩

theorem FirstAt.congr {n : ℕ} (first : FirstAt t root inputs p n) (same : p.parts = q.parts) :
    FirstAt t root inputs q n := by
  obtain ⟨⟨input, given, found⟩, least⟩ := first
  refine ⟨⟨input, given, found.congr same⟩, fun m earlier => least ?_⟩
  obtain ⟨input', given', found'⟩ := earlier
  exact ⟨input', given', found'.congr same.symm⟩

/-- Further inputs do not change which one is the first. -/
theorem FirstAt.append {n : ℕ} (first : FirstAt t root inputs p n) (more : List String) :
    FirstAt t root (inputs ++ more) p n := by
  obtain ⟨⟨input, given, found⟩, least⟩ := first
  have within : n < inputs.length := (List.getElem?_eq_some_iff.mp given).1
  refine ⟨⟨input, by rw [List.getElem?_append_left within, given], found⟩, fun m earlier => ?_⟩
  obtain ⟨input', given', found'⟩ := earlier
  by_contra! shorter
  rw [List.getElem?_append_left (shorter.trans within)] at given'
  exact absurd (least ⟨input', given', found'⟩) (not_le.mpr shorter)

theorem FirstAt.lt_length {n : ℕ} (first : FirstAt t root inputs p n) : n < inputs.length := by
  obtain ⟨⟨input, given, -⟩, -⟩ := first
  exact (List.getElem?_eq_some_iff.mp given).1

/-- A file that an input finds is found by a first one. -/
theorem exists_firstAt (given : input ∈ inputs) (found : Finds t root input p) :
    ∃ n, FirstAt t root inputs p n := by
  obtain ⟨m, place⟩ := List.mem_iff_getElem?.mp given
  exact ⟨_, Nat.sInf_mem ⟨m, input, place, found⟩, fun _ => Nat.sInf_le⟩

/-- A file that only the last input finds. -/
theorem firstAt_concat (found : Finds t root input p)
    (unknown : ∀ earlier ∈ inputs, ¬ Finds t root earlier p) :
    FirstAt t root (inputs ++ [input]) p inputs.length := by
  refine ⟨⟨input, by simp, found⟩, fun m earlier => ?_⟩
  obtain ⟨input', given, found'⟩ := earlier
  by_contra! shorter
  rw [List.getElem?_append_left shorter] at given
  exact unknown input' (List.mem_of_getElem? given) found'

theorem Precedes.append (before : Precedes t root inputs p q) (more : List String) :
    Precedes t root (inputs ++ more) p q := by
  obtain ⟨m, n, first, first', order⟩ := before
  exact ⟨m, n, first.append more, first'.append more, order⟩

theorem Precedes.asymm (before : Precedes t root inputs p q) : ¬ Precedes t root inputs q p := by
  rintro ⟨n', m', second', first', order'⟩
  obtain ⟨m, n, first, second, order⟩ := before
  obtain rfl := first.unique first'
  obtain rfl := second.unique second'
  rcases order with earlier | ⟨same, less⟩
  · omega
  · rcases order' with later | ⟨-, less'⟩
    · omega
    · exact lt_asymm less less'

/-- A file does not come before itself, under whichever path. -/
theorem Precedes.parts_ne (before : Precedes t root inputs p q) : p.parts ≠ q.parts := by
  intro same
  obtain ⟨m, n, first, second, order⟩ := before
  obtain rfl := (first.congr same).unique second
  rcases order with earlier | ⟨-, less⟩
  · exact lt_irrefl m earlier
  · exact less.ne (Path.ranks_eq_iff.mpr same)

/-! ## The files of all inputs -/

/-- The paths are those of the files that the inputs find, each once and in their order. -/
structure IsUnion (t : FileTree) (root : Path) (inputs : List String) (paths : List Path) :
    Prop where
  matched : ∀ p ∈ paths, ∃ input ∈ inputs, Matches t root input p
  complete : ∀ input ∈ inputs, ∀ p, Matches t root input p → ∃ q ∈ paths, q.parts = p.parts
  ordered : paths.Pairwise (Precedes t root inputs)

namespace IsUnion

theorem exists_mem_iff (union : IsUnion t root inputs paths) :
    (∃ q ∈ paths, q.parts = p.parts) ↔ ∃ input ∈ inputs, Finds t root input p := by
  constructor
  · rintro ⟨q, listed, same⟩
    obtain ⟨input, given, hit⟩ := union.matched q listed
    exact ⟨input, given, q, same, hit⟩
  · rintro ⟨input, given, r, same, hit⟩
    obtain ⟨q, listed, alike⟩ := union.complete input given r hit
    exact ⟨q, listed, alike.trans same⟩

theorem nodup (union : IsUnion t root inputs paths) : (paths.map Path.parts).Nodup :=
  List.pairwise_map.mpr (union.ordered.imp Precedes.parts_ne)

theorem lt_iff (union : IsUnion t root inputs paths) {m n : ℕ} (here : paths[m]? = some p)
    (there : paths[n]? = some q) : m < n ↔ Precedes t root inputs p q := by
  obtain ⟨short, rfl⟩ := List.getElem?_eq_some_iff.mp here
  obtain ⟨short', rfl⟩ := List.getElem?_eq_some_iff.mp there
  have ordered := List.pairwise_iff_getElem.mp union.ordered
  refine ⟨fun earlier => ordered m n short short' earlier, fun before => ?_⟩
  rcases lt_trichotomy m n with earlier | rfl | later
  · exact earlier
  · exact absurd rfl before.parts_ne
  · exact absurd (ordered n m short' short later) before.asymm

theorem nil : IsUnion t root [] [] where
  matched := by simp
  complete := by simp
  ordered := .nil

/-- A file that is not known yet is found first by the input at the end. -/
theorem firstAt_of_new (union : IsUnion t root inputs known)
    (valid : filesOf t root input = .ok files) (own : p ∈ files)
    (new : ∀ q ∈ known, q.parts ≠ p.parts) :
    FirstAt t root (inputs ++ [input]) p inputs.length := by
  refine firstAt_concat ⟨p, rfl, (mem_filesOf_iff valid).mp own⟩ fun earlier given found => ?_
  obtain ⟨q, member, same⟩ := union.exists_mem_iff.mpr ⟨earlier, given, found⟩
  exact new q member same

/-- One more input adds the files that no input before it finds. -/
theorem concat (union : IsUnion t root inputs known) (valid : filesOf t root input = .ok files) :
    IsUnion t root (inputs ++ [input]) (addNew known files) := by
  refine ⟨fun p listed => ?matched, fun earlier given p hit => ?complete, ?ordered⟩
  case matched =>
    rcases mem_or_mem_of_mem_addNew listed with old | own
    · obtain ⟨earlier, given, hit⟩ := union.matched p old
      exact ⟨earlier, List.mem_append_left _ given, hit⟩
    · exact ⟨input, by simp, (mem_filesOf_iff valid).mp own⟩
  case complete =>
    rcases List.mem_append.mp given with old | own
    · obtain ⟨q, member, same⟩ := union.complete earlier old p hit
      exact ⟨q, (prefix_addNew _ _).subset member, same⟩
    · rw [List.mem_singleton.mp own, ← mem_filesOf_iff valid] at hit
      exact exists_mem_addNew hit known
  case ordered =>
    obtain ⟨fresh, added, within, new, distinct⟩ := exists_addNew_eq known files
    have first (p) (listed : p ∈ fresh) : FirstAt t root (inputs ++ [input]) p inputs.length :=
      union.firstAt_of_new valid (within.subset listed) (new p listed)
    rw [added, List.pairwise_append]
    refine ⟨union.ordered.imp fun before => before.append _, ?_, fun p old q listed => ?_⟩
    -- What is added was sorted, and no two paths of it are alike.
    · have sorted := (sorted_of_filesOf valid).sublist within
      refine List.Pairwise.imp_of_mem ?_ (sorted.and distinct)
      rintro p q listed listed' ⟨least, differ⟩
      have less : p.ranks < q.ranks := lt_of_le_of_ne least (mt Path.ranks_eq_iff.mp differ)
      exact ⟨_, _, first p listed, first q listed', .inr ⟨rfl, less⟩⟩
    -- What was known is found by an input before the one at the end.
    · obtain ⟨earlier, given, hit⟩ := union.matched p old
      obtain ⟨n, before⟩ := exists_firstAt given ⟨p, rfl, hit⟩
      exact ⟨n, _, before.append _, first q listed, .inl before.lt_length⟩

end IsUnion

/-- Going through the inputs gives the files that they find. -/
theorem isUnion_foldl_addNew {filess : List (List Path)}
    (valid : inputs.mapM (filesOf t root) = .ok filess) :
    IsUnion t root inputs (filess.foldl addNew []) := by
  induction inputs using List.reverseRecOn generalizing filess with
  | nil =>
    cases valid
    exact .nil
  | append_singleton inputs input ih =>
    obtain ⟨before, last, valid', own, rfl⟩ := mapM_append_eq_ok_iff.mp valid
    obtain ⟨files, rest, found, none, rfl⟩ :=
      List.forall₂_cons_left_iff.mp (mapM_eq_ok_iff.mp own)
    cases none
    rw [List.foldl_concat]
    exact (ih valid').concat found

/-! ## The inputs as they are given -/

/-- The input is a pattern, below the root. -/
def IsPattern (root : Path) (input : String) : Prop :=
  ∃ pattern, patternOf root input = .ok pattern

theorem exists_filesOf_eq_ok_iff :
    (∃ files, filesOf t root input = .ok files) ↔ IsPattern root input := by
  unfold filesOf IsPattern
  cases patternOf root input <;> simp

/-- The first input that is no pattern is the reason to refuse all of them. -/
theorem exists_value_expand_eq_error (bad : ∃ input ∈ inputs, ¬ IsPattern root input) :
    ∃ before input after fault, inputs = before ++ input :: after ∧
      (∀ earlier ∈ before, IsPattern root earlier) ∧
      patternOf root input = .error fault ∧
      (expand t root inputs).value = .error (.badPattern input fault) := by
  simp only [← exists_filesOf_eq_ok_iff (t := t)] at bad ⊢
  obtain ⟨before, input, after, err, split, fine, failed, result⟩ := exists_mapM_eq_error bad
  obtain ⟨fault, faulty, rfl⟩ := filesOf_eq_error_iff.mp failed
  refine ⟨before, input, after, fault, split, fine, faulty, ?_⟩
  rw [value_expand_eq, result]
  rfl

theorem exists_isUnion (valid : ∀ input ∈ inputs, IsPattern root input) :
    ∃ paths, (expand t root inputs).value = .ok paths ∧ IsUnion t root inputs paths := by
  obtain ⟨filess, valid⟩ :=
    exists_mapM_eq_ok fun input given => exists_filesOf_eq_ok_iff.mpr (valid input given)
  exact ⟨_, by rw [value_expand_eq, valid]; rfl, isUnion_foldl_addNew valid⟩

/-- More inputs add files at the end. -/
theorem prefix_of_value_expand (expanded : (expand t root inputs).value = .ok paths)
    {paths' : List Path} (expanded' : (expand t root (inputs ++ more)).value = .ok paths') :
    paths <+: paths' := by
  rw [value_expand_eq, map_eq_ok_iff] at expanded expanded'
  obtain ⟨filess, valid, rfl⟩ := expanded
  obtain ⟨both, valid', rfl⟩ := expanded'
  obtain ⟨filess', later, first, -, rfl⟩ := mapM_append_eq_ok_iff.mp valid'
  obtain rfl := Except.ok.inj (valid.symm.trans first)
  rw [List.foldl_append]
  exact prefix_foldl_addNew later _

/-- An input that is given again adds nothing. -/
theorem value_expand_again {before after : List String} (given : input ∈ before) :
    (expand t root (before ++ input :: after)).value = (expand t root (before ++ after)).value := by
  rw [value_expand_eq, value_expand_eq]
  cases valid : before.mapM (filesOf t root) with
  | error err => rw [mapM_append_of_error valid, mapM_append_of_error valid]
  | ok filess =>
    obtain ⟨files, member, own⟩ := exists_mem_of_mapM_eq_ok valid given
    have known (p) (listed : p ∈ files) : ∃ q ∈ filess.foldl addNew [], q.parts = p.parts :=
      exists_mem_foldl_addNew member listed []
    rw [List.mapM_append, List.mapM_append, List.mapM_cons, valid, own]
    cases after.mapM (filesOf t root) with
    | error err => rfl
    | ok later =>
      change Except.ok ((filess ++ files :: later).foldl addNew []) =
        Except.ok ((filess ++ later).foldl addNew [])
      rw [List.foldl_append, List.foldl_append, List.foldl_cons, addNew_eq_of_known known]

/-- Where an input is no pattern, the first such input is the reason to refuse the list. Otherwise
the files of the inputs are those that one of them finds, each once, in the order of the first
inputs that find them and then of their paths; more inputs add files at the end, and each file gives
one page object. An input that is given again changes nothing in either case. -/
theorem expand_unites (t : FileTree) (root : Path) (inputs : List String) :
    ((∃ input ∈ inputs, ¬ IsPattern root input) →
        ∃ before input after fault, inputs = before ++ input :: after ∧
          (∀ earlier ∈ before, IsPattern root earlier) ∧
          patternOf root input = .error fault ∧
          (expand t root inputs).value = .error (.badPattern input fault)) ∧
      ((∀ input ∈ inputs, IsPattern root input) →
        ∃ paths, (expand t root inputs).value = .ok paths ∧
          (∀ p ∈ paths, ∃ input ∈ inputs, Matches t root input p) ∧
          (∀ p, (∃ q ∈ paths, q.parts = p.parts) ↔ ∃ input ∈ inputs, Finds t root input p) ∧
          (paths.map Path.parts).Nodup ∧
          (∀ (m n : ℕ) (p q : Path), paths[m]? = some p → paths[n]? = some q →
            (m < n ↔ Precedes t root inputs p q)) ∧
          (∀ more paths', (expand t root (inputs ++ more)).value = .ok paths' → paths <+: paths') ∧
          ∀ ps, (load t paths).value = .ok ps →
            List.Forall₂ (fun path p => loadOne t path = .ok p) paths ps) ∧
      ∀ before input after, inputs = before ++ input :: after → input ∈ before →
        (expand t root inputs).value = (expand t root (before ++ after)).value := by
  refine ⟨exists_value_expand_eq_error, fun valid => ?_, ?_⟩
  · obtain ⟨paths, expanded, union⟩ := exists_isUnion (t := t) valid
    refine ⟨paths, expanded, union.matched, fun p => union.exists_mem_iff, union.nodup,
      fun m n p q => union.lt_iff, fun more paths' => prefix_of_value_expand expanded,
      fun ps loaded => ?_⟩
    rw [value_load_eq] at loaded
    exact mapM_eq_ok_iff.mp loaded
  · rintro before input after rfl given
    exact value_expand_again given

/-- A directory with three files, which are not in the order of their names. -/
def threeFacts : FileTree :=
  let fact := FileTree.Node.file (some (String.ofList (PageObject.shape.write thorny).compact))
  ⟨[("facts", .dir [("b.json", fact), ("a.json", fact), ("c.json", fact)])], []⟩

theorem filesOf_threeFacts_single :
    filesOf threeFacts ⟨"/"⟩ "facts/c.json" = .ok [⟨"/facts/c.json"⟩] := by
  have found : filesOf threeFacts ⟨"/"⟩ "facts/c.json" =
      .ok ([⟨"/facts/c.json"⟩].mergeSort Path.le) := rfl
  rw [found, List.mergeSort_singleton]

theorem filesOf_threeFacts_all :
    filesOf threeFacts ⟨"/"⟩ "facts/*.json" =
      .ok [⟨"/facts/a.json"⟩, ⟨"/facts/b.json"⟩, ⟨"/facts/c.json"⟩] := by
  let signs : List Pattern.Sign := .run :: ".json".toList.map .char
  have pattern : patternOf ⟨"/"⟩ "facts/*.json" =
      .ok ⟨true, [.name "facts", .wild signs], false⟩ := rfl
  have entry : Pattern.entryPath ⟨"/"⟩ "facts" = ⟨"/facts"⟩ := rfl
  have isThere : threeFacts.hasPath ⟨"/facts"⟩ = true := rfl
  have isDir : threeFacts.isDir ⟨"/facts"⟩ = true := rfl
  have children : Pattern.children threeFacts ⟨"/facts"⟩ =
      [⟨⟨"/facts/b.json"⟩, "b.json", false⟩, ⟨⟨"/facts/a.json"⟩, "a.json", false⟩,
        ⟨⟨"/facts/c.json"⟩, "c.json", false⟩] := rfl
  have found : Pattern.find threeFacts ⟨true, [.name "facts", .wild signs], false⟩ =
      [⟨"/facts/b.json"⟩, ⟨"/facts/a.json"⟩, ⟨"/facts/c.json"⟩] := by
    simp [Pattern.find, Pattern.search, entry, isThere, isDir, children, signs, Pattern.fits,
      Pattern.dots]
  have files : [⟨"/facts/b.json"⟩, ⟨"/facts/a.json"⟩, ⟨"/facts/c.json"⟩].filter threeFacts.isFile =
      [⟨"/facts/b.json"⟩, ⟨"/facts/a.json"⟩, ⟨"/facts/c.json"⟩] := rfl
  have later : Path.le ⟨"/facts/b.json"⟩ ⟨"/facts/a.json"⟩ = false := by decide
  have first : Path.le ⟨"/facts/a.json"⟩ ⟨"/facts/c.json"⟩ = true := by decide
  have second : Path.le ⟨"/facts/b.json"⟩ ⟨"/facts/c.json"⟩ = true := by decide
  rw [filesOf, pattern]
  dsimp only
  rw [found, files]
  simp [List.mergeSort, List.MergeSort.Internal.splitInTwo, later, first, second]

theorem loadOne_threeFacts {path : Path}
    (listed : path ∈ [⟨"/facts/c.json"⟩, ⟨"/facts/a.json"⟩, ⟨"/facts/b.json"⟩]) :
    loadOne threeFacts path = .ok thorny := by
  have parsed := (Shape.parse_printed PageObject.faithful_shape thorny).1
  simp only [List.mem_cons, List.not_mem_nil, or_false] at listed
  rcases listed with rfl | rfl | rfl
  · exact loadOne_of_parse rfl parsed
  · exact loadOne_of_parse rfl parsed
  · exact loadOne_of_parse rfl parsed

/-- The file that is asked for first comes first, and only once. -/
theorem expand_unites_threeFacts :
    let inputs := ["facts/c.json", "facts/*.json"]
    let paths : List Path := [⟨"/facts/c.json"⟩, ⟨"/facts/a.json"⟩, ⟨"/facts/b.json"⟩]
    (expand threeFacts ⟨"/"⟩ inputs).value = .ok paths ∧
      Precedes threeFacts ⟨"/"⟩ inputs ⟨"/facts/c.json"⟩ ⟨"/facts/a.json"⟩ ∧
      Precedes threeFacts ⟨"/"⟩ inputs ⟨"/facts/a.json"⟩ ⟨"/facts/b.json"⟩ ∧
      List.Forall₂ (fun path p => loadOne threeFacts path = .ok p) paths [thorny, thorny, thorny] ∧
      (expand threeFacts ⟨"/"⟩ (inputs ++ ["facts/c.json"])).value = .ok paths ∧
      ∃ fault, (expand threeFacts ⟨"/"⟩ ["facts/c.json", "facts/["]).value =
        .error (.badPattern "facts/[" fault) := by
  intro inputs paths
  have valid : ∀ input ∈ inputs, IsPattern ⟨"/"⟩ input := by
    refine List.forall_mem_cons.mpr ⟨⟨_, rfl⟩, List.forall_mem_singleton.mpr ⟨_, rfl⟩⟩
  have expanded : (expand threeFacts ⟨"/"⟩ inputs).value = .ok paths := by
    rw [value_expand_eq, List.mapM_cons, List.mapM_cons, filesOf_threeFacts_single,
      filesOf_threeFacts_all]
    rfl
  have loaded : (load threeFacts paths).value = .ok [thorny, thorny, thorny] := by
    rw [value_load_eq, mapM_eq_ok_iff]
    simp [paths, loadOne_threeFacts]
  obtain ⟨paths', expanded', -, -, -, order, -, loads⟩ :=
    (expand_unites threeFacts ⟨"/"⟩ inputs).2.1 valid
  obtain rfl : paths = paths' := Except.ok.inj (expanded.symm.trans expanded')
  refine ⟨expanded, (order 0 1 _ _ rfl rfl).mp one_pos, (order 1 2 _ _ rfl rfl).mp one_lt_two,
    loads _ loaded, ?_, ?_⟩
  · rw [(expand_unites threeFacts ⟨"/"⟩ (inputs ++ ["facts/c.json"])).2.2 inputs "facts/c.json" []
      rfl List.mem_cons_self, List.append_nil, expanded]
  · obtain ⟨before, input, after, fault, split, fine, faulty, refused⟩ :=
      (expand_unites threeFacts ⟨"/"⟩ ["facts/c.json", "facts/["]).1
        ⟨"facts/[", by simp, nofun⟩
    rcases before with _ | ⟨first, _ | ⟨second, rest⟩⟩
    · cases split
      cases faulty
    · cases split
      exact ⟨fault, refused⟩
    · simp at split

end PageLint.Facts
