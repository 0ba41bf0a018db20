import Confine.Path

/-!
# Normal paths

A path in normal form is a root flag and a list of names, where a name is a text that is
not empty, holds no slash, and is neither `.` nor `..`. Every named component of any path
is such a name (`isName_of_normal_mem`), and the walk of normalisation keeps only named
components, dropping one for each `..` (`Walk.step_names`, `walk_names`). Written out, a
root flag and names read back as the root and those names (`components_ofNames`), so a
normal form has no `.` and no `..` component (`components_normalize`).
-/

namespace Confine.Path

/-- A name a normal path is made of: not empty, without a slash, neither `.` nor `..`. -/
def IsName (n : String) : Prop :=
  n.toList ≠ [] ∧ '/' ∉ n.toList ∧ n.toList ≠ ['.'] ∧ n.toList ≠ ['.', '.']

/-! ## The components of a path -/

/-- No part between slashes holds a slash. -/
theorem not_mem_of_mem_splitSlash : ∀ {cs part : List Char}, part ∈ splitSlash cs → '/' ∉ part
  | [], part, h => by
    simp only [splitSlash, List.splitOn_nil, List.mem_singleton] at h
    simp [h]
  | c :: cs, part, h => by
    unfold splitSlash at h
    rw [List.splitOn_cons_eq_if_modifyHead] at h
    split at h
    · rcases List.mem_cons.1 h with rfl | h
      · simp
      · exact @not_mem_of_mem_splitSlash cs _ h
    · -- the first part gains a character that is no slash
      rename_i hc
      obtain ⟨r, rs, hr⟩ := List.exists_cons_of_ne_nil (List.splitOn_ne_nil '/' cs)
      rw [hr, List.modifyHead_cons] at h
      rcases List.mem_cons.1 h with rfl | h
      · rw [List.mem_cons, not_or]
        refine ⟨fun h' => hc (by simp [← h']), ?_⟩
        exact @not_mem_of_mem_splitSlash cs _ (by rw [splitSlash, hr]; exact List.mem_cons_self ..)
      · exact @not_mem_of_mem_splitSlash cs _ (by rw [splitSlash, hr]; exact List.mem_cons_of_mem _ h)

theorem isName_ofList {part : List Char} (hne : part ≠ []) (hslash : '/' ∉ part)
    (hdot : part ≠ ['.']) (hdots : part ≠ ['.', '.']) : IsName (String.ofList part) := by
  simp [IsName, hne, hslash, hdot, hdots]

/-- The parts that become components are names, or `..`. -/
theorem isName_of_mem_parts {cs : List Char} {n : String}
    (h : Component.normal n ∈
      ((splitSlash cs).filter fun part => !part.isEmpty && part ≠ ['.']).map partComponent) :
    IsName n := by
  obtain ⟨part, hpart, hn⟩ := List.mem_map.1 h
  obtain ⟨hsplit, hkeep⟩ := List.mem_filter.1 hpart
  have hkept : part ≠ [] ∧ part ≠ ['.'] := by simpa using hkeep
  unfold partComponent at hn
  split at hn
  · cases hn
  · rename_i hdots
    cases hn
    exact isName_ofList hkept.1 (not_mem_of_mem_splitSlash hsplit) hkept.2 hdots

/-- Every named component of a path is a name: the components are the root or `.` first,
then the parts between slashes that are kept. -/
theorem isName_of_normal_mem {p n : String} (h : Component.normal n ∈ components p) :
    IsName n := by
  unfold components at h
  dsimp only at h
  split at h
  · rcases List.mem_cons.1 h with h | h
    · cases h
    · exact isName_of_mem_parts h
  · rcases List.mem_append.1 h with hlead | h
    · split at hlead <;> simp at hlead
    · exact isName_of_mem_parts h

/-! ## Written names read back -/

/-- A name is kept as a part and becomes a named component. -/
theorem keep_of_isName {n : String} (h : IsName n) :
    (!n.toList.isEmpty && decide (n.toList ≠ ['.'])) = true := by
  simp [h.1, h.2.2.1]

theorem partComponent_of_isName {n : String} (h : IsName n) :
    partComponent n.toList = .normal n := by
  simp [partComponent, h.2.2.2]

/-- Names joined by slashes split back into those names. -/
theorem splitSlash_intercalate {names : List String} (h : ∀ n ∈ names, IsName n)
    (hne : names ≠ []) :
    splitSlash (['/'].intercalate (names.map String.toList)) = names.map String.toList :=
  List.splitOn_intercalate '/' (by simpa using fun n hn => (h n hn).2.1) (by simpa using hne)

/-- The parts of names joined by slashes are the names as components. -/
theorem named_parts_intercalate {names : List String} (h : ∀ n ∈ names, IsName n)
    (hne : names ≠ []) :
    ((splitSlash (['/'].intercalate (names.map String.toList))).filter
        (fun part => !part.isEmpty && part ≠ ['.'])).map partComponent =
      names.map .normal := by
  have hkept : names.filter ((fun part : List Char => !part.isEmpty && part ≠ ['.']) ∘
      String.toList) = names :=
    List.filter_eq_self.mpr fun n hn => keep_of_isName (h n hn)
  rw [splitSlash_intercalate h hne, List.filter_map, List.map_map, hkept]
  exact List.map_congr_left fun n hn => partComponent_of_isName (h n hn)

/-- Names after a leading slash read back as the root, then the names. -/
theorem components_ofNames_rooted {n : String} {rest : List String}
    (h : ∀ m ∈ n :: rest, IsName m) :
    components (ofNames true (n :: rest)) = .root :: (n :: rest).map .normal := by
  have htoList : (ofNames true (n :: rest)).toList =
      '/' :: ['/'].intercalate ((n :: rest).map String.toList) := by
    simp [ofNames]
  unfold components
  dsimp only
  rw [htoList, splitSlash, List.splitOn_cons_eq_if_modifyHead, if_pos (by decide)]
  simpa [splitSlash] using named_parts_intercalate h (List.cons_ne_nil n rest)

/-- Names without a leading slash read back as the names: the first name starts the text,
and it is neither a slash nor `.`. -/
theorem components_ofNames_relative {n : String} {rest : List String}
    (h : ∀ m ∈ n :: rest, IsName m) :
    components (ofNames false (n :: rest)) = (n :: rest).map .normal := by
  have hne : n :: rest ≠ [] := List.cons_ne_nil n rest
  obtain ⟨c, cs, hc⟩ := List.exists_cons_of_ne_nil (h n (List.mem_cons_self ..)).1
  have hslash : c ≠ '/' := by
    intro hc'
    exact (h n (List.mem_cons_self ..)).2.1 (by rw [hc, hc']; exact List.mem_cons_self ..)
  obtain ⟨tail, htail⟩ : ∃ tail, ['/'].intercalate ((n :: rest).map String.toList) = c :: tail := by
    cases rest <;> simp [hc, List.intercalate_cons_cons]
  have htoList : (ofNames false (n :: rest)).toList = c :: tail := by
    simp [ofNames, ← htail]
  have hfirst : (splitSlash (c :: tail)).head? = some n.toList := by
    rw [← htail, splitSlash_intercalate h hne]
    rfl
  unfold components
  dsimp only
  rw [htoList]
  split
  · rename_i tail' heq
    cases heq
    exact absurd rfl hslash
  · split
    · rename_i tail' heq
      rw [heq] at hfirst
      exact absurd (Option.some.inj hfirst).symm (h n (List.mem_cons_self ..)).2.2.1
    · rw [← htail, named_parts_intercalate h hne, List.nil_append]

/-- A root flag and names, written out, read back as the root and the names. -/
theorem components_ofNames (rooted : Bool) {names : List String} (h : ∀ n ∈ names, IsName n) :
    components (ofNames rooted names) = (if rooted then [.root] else []) ++ names.map .normal := by
  cases names with
  | nil => cases rooted <;> decide
  | cons n rest =>
    cases rooted with
    | true => rw [components_ofNames_rooted h]; rfl
    | false => rw [components_ofNames_relative h]; rfl

/-! ## The walk of normalisation -/

/-- One step keeps the names it had, less the last one for `..`, and adds a name only
for a named component. -/
theorem Walk.step_names {w w' : Walk} {c : Component} (h : w.step c = some w') :
    ∀ n ∈ w'.names, n ∈ w.names ∨ c = .normal n := by
  intro n hn
  cases c with
  | root => cases h; exact Or.inl hn
  | cur => cases h; exact Or.inl hn
  | parent =>
    simp only [Walk.step] at h
    cases hw : w.names with
    | nil =>
      rw [hw] at h
      cases h
    | cons m rest =>
      rw [hw] at h
      cases h
      exact Or.inl (List.mem_cons_of_mem m hn)
  | normal m =>
    cases h
    rcases List.mem_cons.1 hn with rfl | hn
    · exact Or.inr rfl
    · exact Or.inl hn

/-- A walk over components whose named components are names keeps only names. -/
theorem walk_names {w w' : Walk} {cs : List Component} (hw : ∀ n ∈ w.names, IsName n)
    (hcs : ∀ n, Component.normal n ∈ cs → IsName n) (h : walk w cs = some w') :
    ∀ n ∈ w'.names, IsName n := by
  induction cs generalizing w with
  | nil =>
    cases h
    exact hw
  | cons c cs ih =>
    obtain ⟨w₁, hstep, hrest⟩ := Option.bind_eq_some_iff.mp h
    refine ih (fun n hn => ?_) (fun n hn => hcs n (List.mem_cons_of_mem _ hn)) hrest
    rcases Walk.step_names hstep n hn with hold | rfl
    · exact hw n hold
    · exact hcs n (List.mem_cons_self ..)

/-- A normal form is a root flag and names, which it reads back as: it has no `.` and no
`..` component. -/
theorem components_normalize {p q : String} (h : normalize p = some q) :
    ∃ rooted names, (∀ n ∈ names, IsName n) ∧ q = ofNames rooted names ∧
      components q = (if rooted then [.root] else []) ++ names.map .normal := by
  obtain ⟨w, hwalk, rfl⟩ := Option.map_eq_some_iff.mp h
  have hnames : ∀ n ∈ w.names.reverse, IsName n := by
    intro n hn
    exact walk_names (by simp) (fun n hn => isName_of_normal_mem hn) hwalk n
      (List.mem_reverse.mp hn)
  exact ⟨w.rooted, w.names.reverse, hnames, rfl, components_ofNames w.rooted hnames⟩

theorem cur_parent_not_mem_normalize {p q : String} (h : normalize p = some q) :
    Component.cur ∉ components q ∧ Component.parent ∉ components q := by
  obtain ⟨rooted, names, -, -, hq⟩ := components_normalize h
  rw [hq]
  constructor <;> cases rooted <;> simp

/-! ## Normal forms are fixed points -/

/-- A walk over named components keeps them all, the last one first. -/
theorem walk_normals (w : Walk) (names : List String) :
    walk w (names.map .normal) = some { w with names := names.reverse ++ w.names } := by
  induction names generalizing w with
  | nil => rfl
  | cons n rest ih => simp [walk, Walk.step, ih]

/-- A root flag and names, written out, normalise to themselves. -/
theorem normalize_ofNames (rooted : Bool) {names : List String} (h : ∀ n ∈ names, IsName n) :
    normalize (ofNames rooted names) = some (ofNames rooted names) := by
  unfold normalize
  rw [components_ofNames rooted h, walk_append]
  cases rooted <;> simp [walk, Walk.step, walk_normals]

/-! ## Where the walk fails -/

/-- A step fails only on `..` with no name left to remove. -/
theorem Walk.step_eq_none_iff {w : Walk} {c : Component} :
    w.step c = none ↔ c = .parent ∧ w.names = [] := by
  cases c with
  | root | cur | normal => simp [Walk.step]
  | parent => cases hw : w.names <;> simp [Walk.step, hw]

/-- A walk fails exactly at a `..` reached with no name left to remove. -/
theorem walk_eq_none_iff {w : Walk} {cs : List Component} :
    walk w cs = none ↔
      ∃ pre post, cs = pre ++ .parent :: post ∧ ∃ w', walk w pre = some w' ∧ w'.names = [] := by
  constructor
  · -- induction on the components, the walk so far carried along
    induction cs generalizing w with
    | nil => simp [walk]
    | cons c cs ih =>
      intro h
      cases hstep : w.step c with
      | none =>
        obtain ⟨rfl, hnames⟩ := Walk.step_eq_none_iff.mp hstep
        exact ⟨[], cs, rfl, w, rfl, hnames⟩
      | some w₁ =>
        rw [walk, hstep, Option.bind_some] at h
        obtain ⟨pre, post, rfl, w', hw', hnames⟩ := ih h
        exact ⟨c :: pre, post, rfl, w', by rw [walk, hstep, Option.bind_some, hw'], hnames⟩
  · rintro ⟨pre, post, rfl, w', hw', hnames⟩
    rw [walk_append, hw', Option.bind_some, walk, Walk.step_eq_none_iff.mpr ⟨rfl, hnames⟩,
      Option.bind_none]

/-- Normalisation is the walk over the components: it succeeds when the walk does, with the
walk's root flag and names, and fails exactly when a `..` finds no name left to remove, on
the empty relative path or on the bare root. Its result has no `.` and no `..` component, and
normalising it again changes nothing. -/
theorem normalize_walk_idempotent (p : String) :
    (∀ q, normalize p = some q ↔
      ∃ w, walk ⟨false, []⟩ (components p) = some w ∧ q = ofNames w.rooted w.names.reverse) ∧
    (normalize p = none ↔ ∃ pre post, components p = pre ++ .parent :: post ∧
      ∃ w, walk ⟨false, []⟩ pre = some w ∧ w.names = []) ∧
    (∀ q, normalize p = some q →
      Component.cur ∉ components q ∧ Component.parent ∉ components q ∧ normalize q = some q) := by
  refine ⟨fun q => ?_, ?_, fun q hq => ?_⟩
  · unfold normalize
    rw [Option.map_eq_some_iff]
    exact exists_congr fun w => and_congr_right fun _ => eq_comm
  · unfold normalize
    rw [Option.map_eq_none_iff]
    exact walk_eq_none_iff
  · obtain ⟨hcur, hparent⟩ := cur_parent_not_mem_normalize hq
    obtain ⟨rooted, names, hnames, rfl, -⟩ := components_normalize hq
    exact ⟨hcur, hparent, normalize_ofNames rooted hnames⟩

end Confine.Path
