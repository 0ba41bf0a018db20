import Mathlib.Data.List.Basic
import Confine.Proofs.JailedPaths

/-!
# A leading slash names the jail root

Inside a jail, a request is read relative to the root, and an absolute request loses its
own root first. A request `/p` and the request `p` therefore name the same directory: both
are admitted, as one path, or both are refused, each with its own text
(`resolve_leading_slash`). Since `p` may itself start with slashes, any number of them name
the jail root and never the host's.

The argument is on components. Past its root or a leading `.`, a path is the parts between
its slashes that are neither empty nor `.` (`parts`), and joining a relative path to a base
appends its parts to the base's components (`components_join_filter_cur`). Normalisation
skips `.`, so two paths with the same components besides `.` normalise alike
(`normalize_eq_of_filter_cur`). Stripping the root of `/p` writes the parts of `p` out as
names and `..`, which read back as those parts (`stripRoot_slash`).
-/

namespace Confine

namespace Path

/-- The components the parts between slashes give: each part that is neither empty nor `.`,
read as `..` or as a name. A path's components are these, after its root or a leading `.`. -/
def parts (cs : List Char) : List Component :=
  ((splitSlash cs).filter fun part => !part.isEmpty && part ≠ ['.']).map partComponent

@[simp] theorem parts_nil : parts [] = [] := rfl

theorem parts_append_slash (a b : List Char) : parts (a ++ '/' :: b) = parts a ++ parts b := by
  simp only [parts, splitSlash, List.splitOn_append_cons_self, List.filter_append, List.map_append]

theorem parts_slash_cons (b : List Char) : parts ('/' :: b) = parts b := by
  simpa using parts_append_slash [] b

/-- A part is `..` or a name, never the root or `.`. -/
theorem mem_parts {cs : List Char} {c : Component} (h : c ∈ parts cs) :
    c = .parent ∨ ∃ n, c = .normal n ∧ IsName n := by
  cases c with
  | normal n => exact Or.inr ⟨n, rfl, isName_of_mem_parts h⟩
  | parent => exact Or.inl rfl
  | root | cur =>
    obtain ⟨part, -, hpart⟩ := List.mem_map.mp h
    unfold partComponent at hpart
    split at hpart <;> cases hpart

theorem filter_cur_parts (cs : List Char) : (parts cs).filter (· ≠ .cur) = parts cs :=
  List.filter_eq_self.mpr fun c hc => by
    rcases mem_parts hc with rfl | ⟨n, rfl, -⟩ <;> simp

/-- Texts that are neither empty nor `.` and hold no slash, joined by slashes, are read back
part by part. -/
theorem parts_intercalate {ns : List (List Char)} (h : ∀ n ∈ ns, n ≠ [] ∧ '/' ∉ n ∧ n ≠ ['.']) :
    parts (['/'].intercalate ns) = ns.map partComponent := by
  cases ns with
  | nil => rfl
  | cons n rest =>
    unfold parts
    rw [splitSlash, List.splitOn_intercalate '/' (fun l hl => (h l hl).2.1) (List.cons_ne_nil _ _),
      List.filter_eq_self.mpr fun l hl => by simp [(h l hl).1, (h l hl).2.2]]

/-! ## Components, besides `.` -/

theorem isAbsolute_iff_head? {p : String} : isAbsolute p = true ↔ p.toList.head? = some '/' := by
  simp [isAbsolute, List.singleton_prefix_iff_head?_eq_some]

theorem isAbsolute_append {a : String} (b : String) (ha : a ≠ "") :
    isAbsolute (a ++ b) = isAbsolute a := by
  have hne : a.toList ≠ [] := by simpa using ha
  obtain ⟨c, cs, hc⟩ := List.exists_cons_of_ne_nil hne
  rw [Bool.eq_iff_iff, isAbsolute_iff_head?, isAbsolute_iff_head?, String.toList_append, hc]
  rfl

theorem components_of_isAbsolute {p : String} (hp : isAbsolute p = true) :
    components p = .root :: parts p.toList := by
  obtain ⟨rest, hrest⟩ := List.head?_eq_some_iff.mp (isAbsolute_iff_head?.mp hp)
  unfold components
  rw [hrest]
  rfl

theorem components_slash (p : String) : components ("/" ++ p) = .root :: parts p.toList := by
  have h : ("/" ++ p).toList = '/' :: p.toList := by simp
  unfold components
  rw [h]
  exact congrArg _ (parts_slash_cons p.toList)

/-- Besides `.`, a path is its root if it is absolute, then its parts. -/
theorem components_filter_cur (p : String) :
    (components p).filter (· ≠ .cur) = (if isAbsolute p then [.root] else []) ++ parts p.toList := by
  unfold components
  dsimp only
  split
  · rename_i rest hrest
    rw [if_pos (isAbsolute_iff_head?.mpr (by rw [hrest]; rfl)),
      List.filter_cons_of_pos (by decide)]
    exact congrArg _ (filter_cur_parts _)
  · rename_i hnot
    have hrel : isAbsolute p = false := by
      cases habs : isAbsolute p with
      | false => rfl
      | true =>
        obtain ⟨rest, hrest⟩ := List.head?_eq_some_iff.mp (isAbsolute_iff_head?.mp habs)
        exact absurd hrest (hnot rest)
    rw [hrel, if_neg Bool.false_ne_true, List.filter_append, List.nil_append,
      show List.map partComponent _ = parts p.toList from rfl, filter_cur_parts]
    -- a leading `.` is the only component before the parts
    split <;> simp

/-- Joining a relative path to a base appends its parts to the base's components. -/
theorem components_join_filter_cur (base : String) {q : String} (hq : isAbsolute q = false) :
    (components (join base q)).filter (· ≠ .cur) =
      (components base).filter (· ≠ .cur) ++ parts q.toList := by
  unfold join
  rw [if_neg (by simp [hq])]
  split
  · rename_i hbase
    obtain rfl : base = "" := by simpa using hbase
    rw [components_filter_cur, hq]
    rfl
  · rename_i hbase
    have hne : base ≠ "" := by simpa using hbase
    split
    · -- the base's own last slash separates the two
      rename_i hend
      obtain ⟨b, hb⟩ : ∃ b, b ++ ['/'] = base.toList := by
        have h' : base.toSlice.endsWith "/" = true := hend
        rw [String.Slice.endsWith_string_iff, String.copy_toSlice] at h'
        exact h'
      rw [components_filter_cur, components_filter_cur, isAbsolute_append _ hne, List.append_assoc]
      congr 1
      rw [String.toList_append, ← hb, List.append_assoc, List.singleton_append, parts_append_slash,
        parts_append_slash, parts_nil, List.append_nil]
    · rw [components_filter_cur, components_filter_cur, String.append_assoc,
        isAbsolute_append _ hne, List.append_assoc]
      congr 1
      rw [String.toList_append, String.toList_append]
      exact parts_append_slash _ _

/-! ## Normalisation skips `.` -/

theorem walk_filter_cur (w : Walk) (cs : List Component) :
    walk w (cs.filter (· ≠ .cur)) = walk w cs := by
  induction cs generalizing w with
  | nil => rfl
  | cons c cs ih =>
    by_cases hc : c = .cur
    · subst hc
      rw [List.filter_cons_of_neg (by simp), ih]
      rfl
    · rw [List.filter_cons_of_pos (by simpa using hc)]
      simp only [walk]
      cases w.step c with
      | none => rfl
      | some w' => exact ih w'

theorem normalize_eq_of_filter_cur {p q : String}
    (h : (components p).filter (· ≠ .cur) = (components q).filter (· ≠ .cur)) :
    normalize p = normalize q := by
  unfold normalize
  rw [← walk_filter_cur _ (components p), h, walk_filter_cur]

/-! ## Stripping the root -/

theorem toList_ofNames_relative (ns : List String) :
    (ofNames false ns).toList = ['/'].intercalate (ns.map String.toList) := by
  simp [ofNames]

theorem parts_ofNames_relative {ns : List String}
    (h : ∀ n ∈ ns, n.toList ≠ [] ∧ '/' ∉ n.toList ∧ n.toList ≠ ['.']) :
    parts (ofNames false ns).toList = ns.map (partComponent ∘ String.toList) := by
  rw [toList_ofNames_relative, parts_intercalate, List.map_map]
  simpa using h

/-- Names written without a root start with the first name, which holds no slash. -/
theorem isAbsolute_ofNames_relative {ns : List String}
    (h : ∀ n ∈ ns, n.toList ≠ [] ∧ '/' ∉ n.toList ∧ n.toList ≠ ['.']) :
    isAbsolute (ofNames false ns) = false := by
  cases ns with
  | nil => rfl
  | cons n rest =>
    obtain ⟨c, cs, hc⟩ := List.exists_cons_of_ne_nil (h n (List.mem_cons_self ..)).1
    have hslash : c ≠ '/' := by
      rintro rfl
      exact (h n (List.mem_cons_self ..)).2.1 (by rw [hc]; exact List.mem_cons_self ..)
    cases habs : isAbsolute (ofNames false (n :: rest)) with
    | false => rfl
    | true =>
      rw [isAbsolute_iff_head?, toList_ofNames_relative] at habs
      cases rest <;> simp [hc, List.intercalate_cons_cons] at habs <;> exact absurd habs hslash

/-- Stripping the root of `/p` writes out the parts of `p`, each as a name or `..`. -/
theorem stripRoot_slash (p : String) :
    ∃ ns : List String, stripRoot ("/" ++ p) = ofNames false ns ∧
      (∀ n ∈ ns, n.toList ≠ [] ∧ '/' ∉ n.toList ∧ n.toList ≠ ['.']) ∧
      ns.map (partComponent ∘ String.toList) = parts p.toList := by
  unfold stripRoot
  rw [components_slash]
  refine ⟨_, rfl, ?_, ?_⟩
  · simp only [List.mem_filterMap]
    rintro n ⟨c, hc, hn⟩
    rcases mem_parts hc with rfl | ⟨m, rfl, hm⟩
    · cases hn
      decide
    · cases hn
      exact ⟨hm.1, hm.2.1, hm.2.2.1⟩
  · rw [List.map_filterMap]
    refine (List.filterMap_eq_map_iff_forall_eq_some.mpr fun c hc => ?_).trans (List.map_id _)
    rcases mem_parts hc with rfl | ⟨n, rfl, hn⟩
    · rfl
    · simp [partComponent_of_isName hn]

/-- A request under one more leading slash is read relative to a base as the request
itself, with its own root stripped: the two normalise alike. -/
theorem normalize_join_slash (base p : String) :
    normalize (join base (stripRoot ("/" ++ p))) =
      normalize (join base (if isAbsolute p then stripRoot p else p)) := by
  cases hp : isAbsolute p with
  | true =>
    -- an absolute request already has the root that the slash adds
    have hsame : components ("/" ++ p) = components p := by
      rw [components_slash, components_of_isAbsolute hp]
    rw [if_pos rfl]
    unfold stripRoot
    rw [hsame, components_of_isAbsolute hp]
  | false =>
    -- a relative request has the parts of its written-out form
    rw [if_neg Bool.false_ne_true]
    obtain ⟨ns, hstrip, hnames, hparts⟩ := stripRoot_slash p
    apply normalize_eq_of_filter_cur
    rw [hstrip, components_join_filter_cur base (isAbsolute_ofNames_relative hnames),
      components_join_filter_cur base hp, parts_ofNames_relative hnames, hparts]

end Path

namespace Workspace

/-- A jail admits for `/p` what it admits for `p`. -/
theorem admits_slash_iff {h : HostView} {root p q : String} :
    Admits h root ("/" ++ p) q ↔ Admits h root p q := by
  have habs : Path.isAbsolute ("/" ++ p) = true := Path.isAbsolute_iff_head?.mpr (by simp)
  have hnormal := Path.normalize_join_slash root p
  constructor
  · intro ha
    have hn := ha.normal
    rw [habs, if_pos rfl, hnormal] at hn
    exact ⟨hn, ha.under, ha.canonical⟩
  · intro ha
    refine ⟨?_, ha.under, ha.canonical⟩
    rw [habs, if_pos rfl, hnormal]
    exact ha.normal

/-- **A leading slash names the jail root.** Inside a jail, a request `p` that is not blank
and the request `/p` are both admitted as the same path, or both refused, each with its own
text. -/
theorem resolve_leading_slash (h : HostView) (root p : String) (hp : Text.isBlankText p = false) :
    (∃ q, resolve h (some root) (some ("/" ++ p)) = .ok q ∧
        resolve h (some root) (some p) = .ok q) ∨
      (resolve h (some root) (some ("/" ++ p)) = .error (.invalidWorkingDirectory ("/" ++ p)) ∧
        resolve h (some root) (some p) = .error (.invalidWorkingDirectory p)) := by
  have hslash : Text.isBlankText ("/" ++ p) = false := by
    simp [Text.isBlankText, Text.isBlank]
  rcases resolve_root_cases hp with ⟨q, hres, hq⟩ | ⟨hres, hnone⟩
  · exact Or.inl ⟨q, (resolve_root_eq_ok_iff hslash q).mpr (admits_slash_iff.mpr hq), hres⟩
  · -- `p` is refused, so `/p` cannot be admitted either
    rcases @resolve_root_cases h root ("/" ++ p) hslash with ⟨q, -, hq⟩ | ⟨hres', -⟩
    · exact absurd (admits_slash_iff.mp hq) (hnone q)
    · exact Or.inr ⟨hres', hres⟩

/-- The request `../x` is not blank, so in a jail at `/jail` it and `/../x` resolve alike. -/
theorem resolve_leading_slash_parent :
    Text.isBlankText "../x" = false ∧
      ((∃ q, resolve ⟨.dir [], some []⟩ (some "/jail") (some ("/" ++ "../x")) = .ok q ∧
          resolve ⟨.dir [], some []⟩ (some "/jail") (some "../x") = .ok q) ∨
        (resolve ⟨.dir [], some []⟩ (some "/jail") (some ("/" ++ "../x")) =
            .error (.invalidWorkingDirectory ("/" ++ "../x")) ∧
          resolve ⟨.dir [], some []⟩ (some "/jail") (some "../x") =
            .error (.invalidWorkingDirectory "../x"))) :=
  ⟨by decide, resolve_leading_slash ⟨.dir [], some []⟩ "/jail" "../x" (by decide)⟩

end Workspace

end Confine
