import PageLint.Config.Discovery
import PageLint.Proofs.FileTree.Locating

/-!
# The configuration that holds

From where a command starts, the nearest directory with a configuration or the mark of a repository
is its root, whatever lies further up. The root alone settles which file is read, unless the command
line names one, and then nothing but this one file is asked for its text: a file of lower preference
or further up never takes the place of one that cannot be read. What the command line says comes
before what the file says, switch by switch, and a default holds only where neither says anything.

## Main definitions

* `FileTree.IsRootOf` — a directory is the root of the repository around another one
* `Config.IsSource` — where a configuration is read from

## Main results

* `exists_detectRoot_eq` — the root is found
* `IsSource.load_eq` — the configuration of a directory is that of the preferred file in it
* `effective_resolves` — the configuration that holds, or why there is none
-/

namespace PageLint

/-- Searching a list's beginnings from the longest to the shortest finds the longest one that is
searched for. -/
theorem find?_reverse_inits_eq_some_iff {α : Type} {holds : List α → Bool} {as found : List α} :
    as.inits.reverse.find? holds = some found ↔
      found <+: as ∧ holds found = true ∧
        ∀ bs, bs <+: as → found.length < bs.length → holds bs = false := by
  induction as using List.reverseRecOn generalizing found with
  | nil =>
    have single : ([] : List α).inits.reverse = [[]] := rfl
    rw [single, List.find?_singleton]
    constructor
    · intro search
      split at search
      · rename_i own
        cases search
        exact ⟨List.prefix_rfl, own, fun bs short long => by simp_all⟩
      · cases search
    · rintro ⟨short, own, -⟩
      obtain rfl := List.prefix_nil.mp short
      rw [if_pos own]
  | append_singleton as a ih =>
    have longest : (as ++ [a]).inits.reverse = (as ++ [a]) :: as.inits.reverse := by
      simp [List.inits_append]
    rw [longest]
    cases own : holds (as ++ [a]) with
    | true =>
      rw [List.find?_cons_of_pos own, Option.some.injEq]
      constructor
      · rintro rfl
        exact ⟨List.prefix_rfl, own, fun bs short long => absurd short.length_le (by omega)⟩
      · rintro ⟨short, -, none⟩
        by_contra other
        have proper : found.length < (as ++ [a]).length :=
          lt_of_le_of_ne short.length_le fun same => other (short.eq_of_length same).symm
        rw [none _ List.prefix_rfl proper] at own
        cases own
    | false =>
      rw [List.find?_cons_of_neg (by simp [own]), ih]
      constructor
      · rintro ⟨short, found', none⟩
        refine ⟨short.trans (List.prefix_append _ _), found', fun bs begins long => ?_⟩
        rcases List.prefix_concat_iff.mp begins with rfl | begins
        · exact own
        · exact none bs begins long
      · rintro ⟨short, found', none⟩
        have others := fun bs (begins : bs <+: as) =>
          none bs (begins.trans (List.prefix_append _ _))
        rcases List.prefix_concat_iff.mp short with rfl | short
        · rw [found'] at own
          cases own
        · exact ⟨short, found', others⟩

namespace FileTree

variable {t : FileTree} {root root' start : List String}

/-- The directory holds a configuration or the mark of a repository. -/
def IsMarked (t : FileTree) (names : List String) : Prop :=
  ∃ name ∈ Config.fileNames ++ [Config.repositoryMark], (t.at? (names ++ [name])).isSome

instance (t : FileTree) (names : List String) : Decidable (t.IsMarked names) :=
  inferInstanceAs (Decidable (∃ name ∈ _, _))

/-- The directory is the nearest one, from the start upwards, that holds a configuration or the mark
of a repository; it is the start itself if there is none. -/
structure IsRootOf (t : FileTree) (root start : List String) : Prop where
  above : root <+: start
  nearest : ∀ names, names <+: start → root.length < names.length → ¬ t.IsMarked names
  marked : t.IsMarked root ∨ root = start ∧ ∀ names, names <+: start → ¬ t.IsMarked names

/-- There is one root around a start. -/
theorem IsRootOf.unique (found : t.IsRootOf root start) (found' : t.IsRootOf root' start) :
    root = root' := by
  -- Of two roots the longer one would be no root, unless it is the start, and the other not marked.
  have noLonger {root root'} (found : t.IsRootOf root start) (found' : t.IsRootOf root' start) :
      ¬ root.length < root'.length := by
    intro longer
    have unmarked := found.nearest root' found'.above longer
    rcases found'.marked with marked | ⟨rfl, none⟩
    · exact unmarked marked
    · rcases found.marked with marked | ⟨rfl, -⟩
      · exact none root found.above marked
      · exact absurd longer (lt_irrefl _)
  have same : root.length = root'.length :=
    le_antisymm (not_lt.mp (noLonger found' found)) (not_lt.mp (noLonger found found'))
  exact (List.prefix_of_prefix_length_le found.above found'.above same.le).eq_of_length same

/-- A directory that is marked is its own root. -/
theorem isRootOf_self (marked : t.IsMarked root) : t.IsRootOf root root where
  above := List.prefix_rfl
  nearest _ short longer := absurd short.length_le (not_le.mpr longer)
  marked := .inl marked

end FileTree

namespace Config

open FileTree (Place)

variable {t t' : FileTree} {f : Flags} {root : List String} {start : Place}

/-! ## The root -/

theorem isName_of_mem_fileNames {name : String} (listed : name ∈ fileNames) :
    Path.IsName name := by
  have all : ∀ name ∈ fileNames, Path.IsName name := by decide
  exact all name listed

theorem isName_of_mem_marks {name : String} (listed : name ∈ fileNames ++ [repositoryMark]) :
    Path.IsName name := by
  have all : ∀ name ∈ fileNames ++ [repositoryMark], Path.IsName name := by decide
  exact all name listed

/-- An entry of a directory is looked for under the directory's path. -/
theorem hasPath_join_ofNames {name : String} (proper : ∀ s ∈ root, Path.IsName s)
    (proper' : Path.IsName name) :
    t.hasPath ((Path.ofNames root).join ⟨name⟩) = (t.at? (root ++ [name])).isSome := by
  rw [Path.join_ofNames proper proper']
  refine FileTree.hasPath_ofNames fun s listed => ?_
  rcases List.mem_append.mp listed with above | last
  · exact proper s above
  · rw [List.mem_singleton.mp last]
    exact proper'

theorem isRoot_ofNames_iff (proper : ∀ s ∈ root, Path.IsName s) :
    isRoot t (.ofNames root) = true ↔ t.IsMarked root := by
  rw [isRoot, List.any_eq_true]
  refine exists_congr fun name => and_congr_right fun listed => ?_
  rw [hasPath_join_ofNames proper (isName_of_mem_marks listed)]

/-- The root is found from everywhere in the tree. -/
theorem exists_detectRoot_eq {p : Path} (proper : ∀ s ∈ start.names, Path.IsName s)
    (there : t.locate p = .ok start) :
    ∃ root, t.IsRootOf root start.names ∧ detectRoot t p = .ofNames root := by
  have marks {names} (short : names <+: start.names) :
      isRoot t (.ofNames names) = true ↔ t.IsMarked names :=
    isRoot_ofNames_iff fun s listed => proper s (short.subset listed)
  simp only [detectRoot, FileTree.canonical_of_locate there, Path.withParents_ofNames proper,
    List.find?_map]
  cases search : start.names.inits.reverse.find? (isRoot t ∘ Path.ofNames) with
  | some root =>
    obtain ⟨short, own, none⟩ := find?_reverse_inits_eq_some_iff.mp search
    refine ⟨root, ⟨short, fun names short' long marked => ?_, Or.inl ((marks short).mp own)⟩, rfl⟩
    have unmarked := none names short' long
    rw [Function.comp_apply, (marks short').mpr marked] at unmarked
    cases unmarked
  | none =>
    have unmarked (names) (short : names <+: start.names) : ¬ t.IsMarked names := by
      intro marked
      refine List.find?_eq_none.mp search names ?_ ((marks short).mpr marked)
      rw [List.mem_reverse, List.mem_inits]
      exact short
    exact ⟨start.names, ⟨List.prefix_rfl, fun names short _ => unmarked names short,
      Or.inr ⟨rfl, unmarked⟩⟩, rfl⟩

/-- The root is told by the places of the tree. -/
theorem detectRoot_eq_of_keeps {p : Path} (keeps : t.Keeps t') (keeps' : t'.Keeps t)
    (there : t.locate p = .ok start) : detectRoot t' p = detectRoot t p := by
  obtain ⟨start', there', same, -⟩ := keeps.locate there
  have marks : isRoot t' = isRoot t := by
    funext dir
    simp only [isRoot, keeps.hasPath_eq keeps']
  rw [detectRoot, detectRoot, FileTree.canonical_of_locate there,
    FileTree.canonical_of_locate there', same, marks]

/-! ## The file -/

/-- Where the configuration of a root is read from, if from anywhere. -/
inductive IsSource (t : FileTree) (root : List String) (f : Flags) : Option Path → Prop
  /-- The command line names the file. -/
  | named {file : String} (given : f.file = some file) :
    IsSource t root f (some ((Path.ofNames root).join ⟨file⟩))
  /-- The root has the file, and none that is preferred to it. -/
  | preferred {before after : List String} {name : String} (free : f.file = none)
    (order : fileNames = before ++ name :: after) (present : (t.at? (root ++ [name])).isSome)
    (absent : ∀ other ∈ before, t.at? (root ++ [other]) = none) :
    IsSource t root f (some (.ofNames (root ++ [name])))
  /-- The root has no such file. -/
  | nowhere (free : f.file = none) (absent : ∀ name ∈ fileNames, t.at? (root ++ [name]) = none) :
    IsSource t root f none

/-- There is a source, or the lack of one. -/
theorem exists_isSource (t : FileTree) (root : List String) (f : Flags) :
    ∃ source, IsSource t root f source := by
  cases given : f.file with
  | some file => exact ⟨_, .named given⟩
  | none =>
    cases search : fileNames.find? fun name => (t.at? (root ++ [name])).isSome with
    | some name =>
      obtain ⟨present, before, after, order, others⟩ := List.find?_eq_some_iff_append.mp search
      exact ⟨_, .preferred given order present fun other earlier => by
        simpa using others other earlier⟩
    | none =>
      exact ⟨none, .nowhere given fun name listed => by
        simpa using List.find?_eq_none.mp search name listed⟩

/-- There is one source. -/
theorem IsSource.eq {source : Option Path} (isSource : IsSource t root f source) :
    source =
      match f.file with
      | some file => some ((Path.ofNames root).join ⟨file⟩)
      | none =>
        (fileNames.find? fun name => (t.at? (root ++ [name])).isSome).map fun name =>
          .ofNames (root ++ [name]) := by
  cases isSource with
  | named given => rw [given]
  | @preferred before after name free order present absent =>
    have search : fileNames.find? (fun name => (t.at? (root ++ [name])).isSome) = some name :=
      List.find?_eq_some_iff_append.mpr
        ⟨present, before, after, order, fun other earlier => by simp [absent other earlier]⟩
    rw [free, search]
    rfl
  | nowhere free absent =>
    have search : fileNames.find? (fun name => (t.at? (root ++ [name])).isSome) = none :=
      List.find?_eq_none.mpr fun name listed => by simp [absent name listed]
    rw [free, search]
    rfl

/-- Where a tree with the same places has its source, is told by the places. -/
theorem IsSource.of_keeps {source : Option Path} (isSource : IsSource t root f source)
    (keeps : t.Keeps t') (keeps' : t'.Keeps t) : IsSource t' root f source := by
  cases isSource with
  | named given => exact .named given
  | preferred free order present absent =>
    exact .preferred free order (keeps.isSome_at? present) fun other earlier =>
      keeps'.at?_eq_none (absent other earlier)
  | nowhere free absent =>
    exact .nowhere free fun name listed => keeps'.at?_eq_none (absent name listed)

/-- The configuration of a directory is that of the preferred file in it. -/
theorem IsSource.load_eq {source : Option Path} (isSource : IsSource t root f source)
    (proper : ∀ s ∈ root, Path.IsName s) (free : f.file = none) :
    load t (.ofNames root) = source.mapM (ofFile t) := by
  -- A path of the directory leads somewhere exactly if there is an entry of its name.
  have search : fileNames.find? (t.hasPath ∘ fun name => (Path.ofNames root).join ⟨name⟩) =
      fileNames.find? fun name => (t.at? (root ++ [name])).isSome := by
    rw [← List.head?_filter, ← List.head?_filter]
    refine congrArg List.head? (List.filter_congr fun name listed => ?_)
    exact hasPath_join_ofNames proper (isName_of_mem_fileNames listed)
  rw [isSource.eq, free, load, List.find?_map, search]
  dsimp only
  cases found : fileNames.find? fun name => (t.at? (root ++ [name])).isSome with
  | none => rfl
  | some name =>
    have proper' := isName_of_mem_fileNames (List.mem_of_find?_eq_some found)
    rw [Option.map_some, Option.map_some, Path.join_ofNames proper proper']
    rfl

theorem ofFile_eq_error_iff {p : Path} {err : Error} :
    ofFile t p = .error err ↔
      (∃ cause, t.read p = .error cause ∧ err = .unreadable p cause) ∨
        ∃ text, t.read p = .ok text ∧ parse p text = .error err := by
  unfold ofFile
  cases t.read p with
  | error cause => simp [eq_comm]
  | ok text => simp

/-! ## What holds -/

/-- From a root on, the configuration is that of its source, with what the command line says in the
place of what the source says. -/
theorem IsSource.effective_eq {source : Option Path} (isSource : IsSource t root f source)
    (proper : ∀ s ∈ root, Path.IsName s)
    (found : detectRoot t ⟨f.root.getD "."⟩ = .ofNames root) :
    effective t f = (fun file => ⟨.ofNames root, file.isSome, f.apply (file.getD default)⟩) <$>
      source.mapM (ofFile t) := by
  have loaded := fun free => isSource.load_eq proper free
  unfold effective
  simp only [found]
  cases isSource with
  | named given => simp only [given]; rfl
  | preferred free => simp only [free, loaded free]; rfl
  | nowhere free => simp only [free, loaded free]; rfl

/-- A switch is as the command line says, else as the file says, else as by default. -/
theorem apply_eq (f : Flags) (file : Option Config) :
    f.apply (file.getD default) =
      { disable := (f.disable <|> file.map (·.disable)).getD Config.default.disable
        writeReport := (f.writeReport <|> file.map (·.writeReport)).getD Config.default.writeReport
        throwOnError :=
          (f.throwOnError <|> file.map (·.throwOnError)).getD Config.default.throwOnError
        reportPath := (f.reportPath <|> file.map (·.reportPath)).getD Config.default.reportPath
        printToConsole := (file.getD Config.default).printToConsole
        overrides := (file.getD Config.default).overrides } := by
  obtain ⟨_, _, disable, writeReport, throwOnError, reportPath⟩ := f
  cases file <;> cases disable <;> cases writeReport <;> cases throwOnError <;> cases reportPath <;>
    rfl

/-- The configuration that holds for a start in the tree, whose working directory is reached by
names that entries can have. Its root is the nearest directory upwards that is marked. A file is
read only if the command line names one or the root has one, and then it is this one: if it is not
readable or not valid, there is no configuration. Otherwise each switch is as the command line says,
else as the file says, else as by default, and all else is as the file says, or as by default if
there is no file. No other text in the tree makes a difference. -/
theorem effective_resolves (proper : ∀ s ∈ t.cwd, Path.IsName s)
    (there : t.locate ⟨f.root.getD "."⟩ = .ok start) :
    ∃ root source, t.IsRootOf root start.names ∧ IsSource t root f source ∧
      (∀ err, effective t f = .error err ↔
        ∃ p, source = some p ∧
          ((∃ cause, t.read p = .error cause ∧ err = .unreadable p cause) ∨
            ∃ text, t.read p = .ok text ∧ parse p text = .error err)) ∧
      (∀ e, effective t f = .ok e ↔
        ∃ file : Option Config, source.mapM (ofFile t) = .ok file ∧
          e.root = .ofNames root ∧ e.found = file.isSome ∧
          e.config =
            { disable := (f.disable <|> file.map (·.disable)).getD Config.default.disable
              writeReport :=
                (f.writeReport <|> file.map (·.writeReport)).getD Config.default.writeReport
              throwOnError :=
                (f.throwOnError <|> file.map (·.throwOnError)).getD Config.default.throwOnError
              reportPath :=
                (f.reportPath <|> file.map (·.reportPath)).getD Config.default.reportPath
              printToConsole := (file.getD Config.default).printToConsole
              overrides := (file.getD Config.default).overrides }) ∧
      ∀ t', t.Keeps t' → t'.Keeps t → (∀ p, source = some p → t'.read p = t.read p) →
        effective t' f = effective t f := by
  have named := FileTree.isName_of_locate proper there
  obtain ⟨root, isRoot, found⟩ := exists_detectRoot_eq named there
  have named : ∀ s ∈ root, Path.IsName s := fun s listed => named s (isRoot.above.subset listed)
  obtain ⟨source, isSource⟩ := exists_isSource t root f
  have holds := isSource.effective_eq named found
  refine ⟨root, source, isRoot, isSource, fun err => ?_, fun e => ?_, fun t' keeps keeps' same => ?_⟩
  · simp only [holds, ← ofFile_eq_error_iff]
    cases source with
    | none => simp [pure, Except.pure]
    | some p => cases read : ofFile t p <;> simp [read]
  · rw [holds, map_eq_ok_iff]
    refine exists_congr fun file => and_congr_right fun _ => ?_
    rw [apply_eq]
    obtain ⟨_, _, _⟩ := e
    simp only [Effective.mk.injEq]
    grind
  · rw [holds, (isSource.of_keeps keeps keeps').effective_eq named
      ((detectRoot_eq_of_keeps keeps keeps' there).trans found)]
    cases source with
    | none => rfl
    | some p => simp only [Option.mapM_some, ofFile, same p rfl]

/-- A repository without a configuration, in a directory that has one which is no text. -/
def nested : FileTree :=
  ⟨[("polint.json", .file none), ("work", .dir [(".git", .dir []), ("pages", .dir [])])],
    ["work", "pages"]⟩

theorem isRootOf_nested : nested.IsRootOf ["work"] ["work", "pages"] where
  above := by decide
  nearest names short longer := by
    have full : names.length = ["work", "pages"].length :=
      le_antisymm short.length_le (Nat.succ_le_of_lt longer)
    rw [short.eq_of_length full]
    decide
  marked := .inl (by decide)

/-- Two repositories. In the first one the preferred file can be used, and the other one cannot; in
the second one it is the other way around. -/
def layered : FileTree :=
  ⟨[("sound", .dir
      [("polint.toml", .file (some "=")),
        ("polint.json", .file (some "\x7b\"reportOutputPath\": \"out.sarif\"\x7d"))]),
    ("spoilt", .dir
      [("polint.toml", .file (some "throwOnError = true")), ("polint.json", .file (some "["))])],
    []⟩

/-- From within the repository the defaults hold, since the file above it is not asked for. Of two
files the preferred one is read and comes behind the command line; where it is not valid there is no
configuration, though the other one is. -/
theorem effective_resolves_nested :
    (∀ s ∈ nested.cwd, Path.IsName s) ∧
      nested.locate ⟨"."⟩ = .ok ⟨["work", "pages"], .dir []⟩ ∧
      (∃ e, effective nested ⟨none, none, none, none, some true, none⟩ = .ok e ∧
        e.root = .ofNames ["work"] ∧ e.found = false ∧
        e.config = { Config.default with throwOnError := true }) ∧
      (∃ e, effective layered ⟨some "sound", none, none, none, some true, none⟩ = .ok e ∧
        e.root = .ofNames ["sound"] ∧ e.found = true ∧ e.config.throwOnError = true ∧
        e.config.reportPath = "out.sarif" ∧ e.config.writeReport = true) ∧
      (∃ c, ofFile layered (.ofNames ["spoilt", "polint.toml"]) = .ok c ∧ c.throwOnError = true) ∧
      ∃ trouble, effective layered ⟨some "spoilt", none, none, none, none, none⟩ =
        .error (.json (.ofNames ["spoilt", "polint.json"]) trouble) := by
  have proper : ∀ s ∈ nested.cwd, Path.IsName s := by decide
  have there : nested.locate ⟨"."⟩ = .ok ⟨["work", "pages"], .dir []⟩ := rfl
  have bare : ∀ s ∈ layered.cwd, Path.IsName s := by decide
  obtain ⟨sound, inSound⟩ : ∃ node, layered.locate ⟨"sound"⟩ = .ok ⟨["sound"], node⟩ := ⟨_, rfl⟩
  obtain ⟨spoilt, inSpoilt⟩ : ∃ node, layered.locate ⟨"spoilt"⟩ = .ok ⟨["spoilt"], node⟩ :=
    ⟨_, rfl⟩
  refine ⟨proper, there, ?_, ?_, ⟨_, rfl, rfl⟩, ?_⟩
  · obtain ⟨root, source, isRoot, isSource, -, holds, -⟩ :=
      effective_resolves (f := ⟨none, none, none, none, some true, none⟩) proper there
    obtain rfl : root = ["work"] := isRoot.unique isRootOf_nested
    obtain rfl : source = none := isSource.eq
    exact ⟨⟨_, _, _⟩, (holds _).mpr ⟨none, rfl, rfl, rfl, rfl⟩, rfl, rfl, rfl⟩
  · obtain ⟨root, source, isRoot, isSource, -, holds, -⟩ :=
      effective_resolves (f := ⟨some "sound", none, none, none, some true, none⟩) bare inSound
    obtain rfl : root = ["sound"] := isRoot.unique (FileTree.isRootOf_self (by decide))
    obtain rfl : source = some (.ofNames ["sound", "polint.json"]) := isSource.eq
    exact ⟨⟨_, _, _⟩, (holds _).mpr ⟨_, rfl, rfl, rfl, rfl⟩, rfl, rfl, rfl, rfl, rfl⟩
  · obtain ⟨root, source, isRoot, isSource, fails, -, -⟩ :=
      effective_resolves (f := ⟨some "spoilt", none, none, none, none, none⟩) bare inSpoilt
    obtain rfl : root = ["spoilt"] := isRoot.unique (FileTree.isRootOf_self (by decide))
    obtain rfl : source = some (.ofNames ["spoilt", "polint.json"]) := isSource.eq
    exact ⟨_, (fails _).mpr ⟨_, rfl, .inr ⟨_, rfl, rfl⟩⟩⟩

end Config

end PageLint
