import PageLint.Proofs.FileTree.Straight

/-!
# The way from a directory to a path

The way from a directory to a path goes up for each part that only the directory has, and then down
along the parts that only the path has. Who goes on from the directory along this way, and takes
back a name for each step up, arrives at the path: the steps up take back just those names of the
directory that the path does not share.

## Main definitions

* `Path.resolved` — the parts of a path, with each step up taken
* `Path.Part.IsPiece` — a part that can be read back as it is written

## Main results

* `parts_join` — a path that goes on from a directory has the parts of the directory first
* `resolved_of_isStraight` — where no step goes up, none is taken back
* `exists_wayFrom_eq` — the way goes up from what is not shared, and then down
* `exists_resolved_join_eq` — going on along the way arrives at the path
-/

namespace PageLint.Path

variable {base p root path : Path} {s : String} {way : List Part}

/-! ## Steps up -/

/-- Takes one more step; the parts so far are kept last first. A step up takes back a name, and
there is nothing above the root. -/
def settle : List Part → Part → List Part
  | .name _ :: above, .up => above
  | .root :: above, .up => .root :: above
  | soFar, a => a :: soFar

/-- The parts of a path, where each step up takes back the name before it. -/
def resolved (p : Path) : List Part := (p.parts.foldl settle []).reverse

@[simp] theorem settle_name (soFar : List Part) (s : String) :
    settle soFar (.name s) = .name s :: soFar := by
  unfold settle
  split <;> simp_all

theorem foldl_settle_names (names : List String) (soFar : List Part) :
    (names.map Part.name).foldl settle soFar = (names.map Part.name).reverse ++ soFar := by
  induction names generalizing soFar with
  | nil => rfl
  | cons s names ih =>
    rw [List.map_cons, List.foldl_cons, settle_name, ih, List.reverse_cons, List.append_assoc,
      List.singleton_append]

/-- As many steps up as there are names take back all of them. -/
theorem foldl_settle_up (names : List String) (soFar : List Part) :
    (List.replicate names.length Part.up).foldl settle ((names.map Part.name).reverse ++ soFar) =
      soFar := by
  -- The last name is taken back first, so the induction is on the names from behind.
  rw [← List.map_reverse, ← List.length_reverse]
  induction names.reverse with
  | nil => rfl
  | cons s names ih => exact ih

/-- A detour along some names and back leaves no trace. -/
theorem foldl_settle_detour (shared left onward : List String) (soFar : List Part) :
    ((shared ++ left).map Part.name ++
        (List.replicate left.length Part.up ++ onward.map Part.name)).foldl settle soFar =
      ((shared ++ onward).map Part.name).reverse ++ soFar := by
  simp only [List.map_append, List.foldl_append, foldl_settle_names, foldl_settle_up,
    List.reverse_append, List.append_assoc]

/-! ## Parts that are read back -/

/-- The part is read back from its text, which is one piece of a path. -/
def Part.IsPiece (a : Part) : Prop := Part.ofPiece? a.text = some a ∧ '/' ∉ a.text.toList

theorem Part.isPiece_up : Part.up.IsPiece := ⟨rfl, by decide⟩

theorem IsName.isPiece (proper : IsName s) : (Part.name s).IsPiece := by
  obtain ⟨written, notHere, notUp, plain⟩ := proper
  refine ⟨?_, plain⟩
  rw [Part.text, Part.ofPiece?, if_neg (not_or.mpr ⟨written, notHere⟩), if_neg notUp]

theorem Part.IsPiece.text_ne (single : (a : Part).IsPiece) : a.text ≠ "" := by
  intro none
  have read := single.1
  rw [none] at read
  cases read

theorem filterMap_ofPiece?_text (single : ∀ a ∈ way, a.IsPiece) :
    (way.map Part.text).filterMap Part.ofPiece? = way := by
  induction way with
  | nil => rfl
  | cons a way ih =>
    obtain ⟨own, others⟩ := List.forall_mem_cons.mp single
    rw [List.map_cons, List.filterMap_cons_some own.1, ih others]

/-- A way is read back from its text. -/
theorem pieces_way (single : ∀ a ∈ way, a.IsPiece) :
    (Path.mk ("/".intercalate (way.map Part.text))).pieces.filterMap Part.ofPiece? = way := by
  cases way with
  | nil => rfl
  | cons a way =>
    rw [pieces_intercalate (by simp), filterMap_ofPiece?_text single]
    intro piece listed
    obtain ⟨b, member, rfl⟩ := List.mem_map.mp listed
    exact (single b member).2

theorem isAbsolute_way (single : ∀ a ∈ way, a.IsPiece) :
    (Path.mk ("/".intercalate (way.map Part.text))).isAbsolute = false := by
  cases way with
  | nil => rfl
  | cons a way =>
    by_contra absolute
    rw [Bool.not_eq_false] at absolute
    obtain ⟨rest, starts⟩ := pieces_of_isAbsolute absolute
    have plain : ∀ piece ∈ (a :: way).map Part.text, '/' ∉ piece.toList := by
      simpa using fun b member => (single b member).2
    rw [pieces_intercalate (by simp) plain] at starts
    exact (single a List.mem_cons_self).text_ne (List.cons.inj starts).1

/-! ## Going on -/

theorem parts_of_isAbsolute (absolute : p.isAbsolute = true) :
    p.parts = .root :: p.pieces.filterMap Part.ofPiece? := by
  rw [parts_eq, start?, if_pos absolute]
  rfl

theorem exists_text_join (written : base.text ≠ "") (relative : p.isAbsolute = false) :
    ∃ cs, (base.join p).text.toList = base.text.toList ++ cs := by
  have nonempty : base.text.isEmpty = false := by simpa using written
  rw [join, relative, nonempty, if_neg (by simp)]
  split
  · exact ⟨p.text.toList, by simp⟩
  · exact ⟨'/' :: p.text.toList, by simp⟩

/-- Whether the directory is written with a separator at its end makes no difference. -/
theorem filterMap_pieces_join (written : base.text ≠ "") (relative : p.isAbsolute = false) :
    (base.join p).pieces.filterMap Part.ofPiece? =
      base.pieces.filterMap Part.ofPiece? ++ p.pieces.filterMap Part.ofPiece? := by
  obtain ⟨front, blanks, split, blank, joined⟩ := exists_pieces_join_eq written relative
  have none : blanks.filterMap Part.ofPiece? = [] := by
    refine List.filterMap_eq_nil_iff.mpr fun s listed => ?_
    rw [blank s listed]
    rfl
  rw [joined, split, List.filterMap_append, List.filterMap_append, none, List.append_nil]

/-- A path that goes on from a directory has the parts of the directory first. -/
theorem parts_join (absolute : base.isAbsolute = true) (relative : p.isAbsolute = false) :
    (base.join p).parts = base.parts ++ p.pieces.filterMap Part.ofPiece? := by
  have starts : base.text.toList.head? = some '/' := by simpa [isAbsolute] using absolute
  have written : base.text ≠ "" := by
    intro none
    simp [none] at starts
  have absolute' : (base.join p).isAbsolute = true := by
    obtain ⟨cs, text⟩ := exists_text_join written relative
    simp [isAbsolute, text, starts]
  rw [parts_of_isAbsolute absolute', filterMap_pieces_join written relative,
    parts_of_isAbsolute absolute, List.cons_append]

theorem filterMap_ofPiece?_eq {ss : List String} (straight : ".." ∉ ss) :
    ss.filterMap Part.ofPiece? = (ss.filter fun s => s ≠ "" ∧ s ≠ ".").map Part.name := by
  induction ss with
  | nil => rfl
  | cons s ss ih =>
    rw [List.mem_cons, not_or] at straight
    rw [List.filterMap_cons, ih straight.2, Part.ofPiece?]
    by_cases blank : s = "" ∨ s = "."
    · rw [if_pos blank, List.filter_cons_of_neg (by simpa [or_iff_not_imp_left] using blank)]
    · rw [if_neg blank, if_neg (Ne.symm straight.1),
        List.filter_cons_of_pos (by simpa using not_or.mp blank), List.map_cons]

/-- A path from the root that never goes up has nothing but names behind the root. -/
theorem exists_parts_eq (absolute : p.isAbsolute = true) (straight : p.IsStraight) :
    ∃ names : List String, p.parts = .root :: names.map Part.name ∧
      ∀ s ∈ names, IsName s ∧ s ∈ p.pieces := by
  refine ⟨p.pieces.filter fun s => s ≠ "" ∧ s ≠ ".", ?_, fun s listed => ?_⟩
  · rw [parts_of_isAbsolute absolute, filterMap_ofPiece?_eq straight]
  · obtain ⟨member, proper⟩ := List.mem_filter.mp listed
    obtain ⟨written, notHere⟩ := of_decide_eq_true proper
    have notUp : s ≠ ".." := fun up => straight (up ▸ member)
    exact ⟨⟨written, notHere, notUp, not_mem_of_mem_pieces member⟩, member⟩

/-- A path from the root that never goes up is resolved as it is. -/
theorem resolved_of_isStraight (absolute : p.isAbsolute = true) (straight : p.IsStraight) :
    p.resolved = p.parts := by
  obtain ⟨names, parts, -⟩ := exists_parts_eq absolute straight
  rw [resolved, parts, List.foldl_cons, foldl_settle_names]
  simp [settle]

/-! ## The way -/

theorem map_up_names (names : List String) :
    ((names.map Part.name).map fun _ => Part.up) = List.replicate names.length .up := by
  rw [List.map_const', List.length_map]

/-- The way between two places goes up from what they do not share, and then down. -/
theorem exists_wayFrom_eq (bs as : List String) :
    ∃ shared left onward, bs = shared ++ left ∧ as = shared ++ onward ∧
      wayFrom (bs.map Part.name) (as.map Part.name) =
        some (List.replicate left.length .up ++ onward.map Part.name) := by
  induction bs generalizing as with
  | nil => exact ⟨[], [], as, rfl, rfl, by cases as <;> rfl⟩
  | cons b bs ih =>
    cases as with
    | nil =>
      refine ⟨[], b :: bs, [], rfl, rfl, ?_⟩
      rw [← map_up_names, List.map_nil, List.append_nil]
      rfl
    | cons a as =>
      rw [List.map_cons, List.map_cons, wayFrom]
      by_cases same : Part.name a = .name b
      · obtain ⟨shared, left, onward, rfl, rfl, way⟩ := ih as
        obtain rfl := Part.name.inj same
        exact ⟨a :: shared, left, onward, rfl, rfl, by rw [if_pos rfl, way]⟩
      -- Nothing is shared from here on, also if names agree further down.
      · refine ⟨[], b :: bs, a :: as, rfl, rfl, ?_⟩
        rw [if_neg same, if_neg nofun, map_up_names]
        rfl

/-- Going on from a directory along the way to a path arrives at the path. -/
theorem exists_resolved_join_eq (absolute : root.isAbsolute = true)
    (absolute' : path.isAbsolute = true) (straight : root.IsStraight)
    (straight' : path.IsStraight) :
    ∃ way, wayFrom root.parts path.parts = some way ∧
      (∀ a ∈ way, a = .up ∨ a.text ∈ path.pieces) ∧
      (root.join ⟨"/".intercalate (way.map Part.text)⟩).resolved = path.parts := by
  obtain ⟨bs, parts, -⟩ := exists_parts_eq absolute straight
  obtain ⟨as, parts', proper⟩ := exists_parts_eq absolute' straight'
  obtain ⟨shared, left, onward, rfl, rfl, way⟩ := exists_wayFrom_eq bs as
  have onto : ∀ s ∈ onward, IsName s ∧ s ∈ path.pieces := fun s listed =>
    proper s (List.mem_append_right _ listed)
  -- The way is spelled with steps up and names of the path, so its text is read back as the way.
  have leads : ∀ a ∈ List.replicate left.length .up ++ onward.map Part.name,
      a.IsPiece ∧ (a = .up ∨ a.text ∈ path.pieces) := by
    refine List.forall_mem_append.mpr ⟨fun a listed => ?_, List.forall_mem_map.mpr ?_⟩
    · rw [List.eq_of_mem_replicate listed]
      exact ⟨Part.isPiece_up, .inl rfl⟩
    · exact fun s listed => ⟨(onto s listed).1.isPiece, .inr (onto s listed).2⟩
  have single := fun a listed => (leads a listed).1
  refine ⟨_, by rw [parts, parts', wayFrom, if_pos rfl, way], fun a listed => (leads a listed).2,
    ?_⟩
  rw [resolved, parts_join absolute (isAbsolute_way single), pieces_way single, parts, parts',
    List.cons_append, List.foldl_cons, foldl_settle_detour]
  simp [settle]

end PageLint.Path
