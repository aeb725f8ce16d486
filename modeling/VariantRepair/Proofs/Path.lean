import Mathlib.Tactic.Common
import VariantRepair.Path

/-!
# The text of a path names the path

A path in normal form has parts without slashes, none of which is empty or a single dot. Its text
names it again. Paths that come from a text are in normal form.
-/

namespace VariantRepair.Path

variable {p : Path} {s t : String}

/-- Paths as they come from texts. -/
structure IsNormal (p : Path) : Prop where
  root : p.root = "" ∨ p.root = "/" ∨ p.root = "//"
  ne_empty : ∀ s ∈ p.parts, s ≠ ""
  ne_dot : ∀ s ∈ p.parts, s ≠ "."
  slash_notMem : ∀ s ∈ p.parts, '/' ∉ s.toList

lemma notMem_of_mem_splitOn {α : Type} [DecidableEq α] {x : α} {xs l : List α}
    (h : l ∈ xs.splitOn x) : x ∉ l := by
  induction xs generalizing l with
  | nil =>
    rw [List.splitOn_nil, List.mem_singleton] at h
    subst h
    exact List.not_mem_nil
  | cons y ys ih =>
    rw [List.splitOn_cons_eq_if_modifyHead] at h
    split_ifs at h with hy
    · rcases List.mem_cons.mp h with rfl | h
      · exact List.not_mem_nil
      · exact ih h
    · cases hsplit : ys.splitOn x with
      | nil => exact absurd hsplit (List.splitOn_ne_nil x ys)
      | cons l₀ ls =>
        rw [hsplit, List.modifyHead_cons] at h
        rw [hsplit] at ih
        rcases List.mem_cons.mp h with rfl | h
        · rw [List.mem_cons, not_or]
          exact ⟨fun hxy => hy (by simp [hxy]), ih List.mem_cons_self⟩
        · exact ih (List.mem_cons_of_mem _ h)

lemma rootOf_cases (s : String) : rootOf s = "" ∨ rootOf s = "/" ∨ rootOf s = "//" := by
  rw [rootOf]
  split
  · exact .inr (.inl rfl)
  · exact .inr (.inr rfl)
  · exact .inr (.inl rfl)
  · exact .inl rfl

lemma isNormal_ofText (s : String) : (ofText s).IsNormal where
  root := rootOf_cases s
  ne_empty t ht := (of_decide_eq_true (List.mem_filter.mp ht).2).1
  ne_dot t ht := (of_decide_eq_true (List.mem_filter.mp ht).2).2
  slash_notMem t ht := by
    obtain ⟨l, hl, rfl⟩ := List.mem_map.mp (List.mem_filter.mp ht).1
    rw [String.toList_ofList]
    exact notMem_of_mem_splitOn hl

namespace IsNormal

/-- A path with other parts of the same kind. -/
lemma withParts (h : p.IsNormal) {parts : List String}
    (hparts : ∀ s ∈ parts, s ≠ "" ∧ s ≠ "." ∧ '/' ∉ s.toList) :
    ({ p with parts } : Path).IsNormal :=
  ⟨h.root, fun s hs => (hparts s hs).1, fun s hs => (hparts s hs).2.1,
    fun s hs => (hparts s hs).2.2⟩

lemma of_mem (h : p.IsNormal) (hs : s ∈ p.parts) : s ≠ "" ∧ s ≠ "." ∧ '/' ∉ s.toList :=
  ⟨h.ne_empty s hs, h.ne_dot s hs, h.slash_notMem s hs⟩

lemma filter_parts (h : p.IsNormal) : p.parts.filter (fun s => s ≠ "" ∧ s ≠ ".") = p.parts := by
  refine List.filter_eq_self.mpr fun s hs => ?_
  simp [h.ne_empty s hs, h.ne_dot s hs]

/-- The pieces of the text behind the root. -/
lemma pieces_intercalate (h : p.IsNormal) (hparts : p.parts ≠ []) :
    (("/".intercalate p.parts).toList.splitOn '/').map String.ofList = p.parts := by
  have hslash : "/".toList = ['/'] := rfl
  have hfree : ∀ l ∈ p.parts.map String.toList, '/' ∉ l := by
    rintro l hl
    obtain ⟨s, hs, rfl⟩ := List.mem_map.mp hl
    exact h.slash_notMem s hs
  rw [String.toList_intercalate, hslash, List.splitOn_intercalate _ hfree (by simpa using hparts),
    List.map_map]
  exact (List.map_congr_left fun s _ => String.ofList_toList).trans (List.map_id _)

/-- The text behind the root begins with no slash. -/
lemma head?_intercalate (h : p.IsNormal) (hparts : p.parts ≠ []) :
    ∃ c cs, ("/".intercalate p.parts).toList = c :: cs ∧ c ≠ '/' := by
  obtain ⟨s, ss, hs⟩ := List.exists_cons_of_ne_nil hparts
  obtain ⟨hne, -, hslash⟩ := h.of_mem (s := s) (by rw [hs]; exact List.mem_cons_self)
  obtain ⟨c, cs, hc⟩ := List.exists_cons_of_ne_nil (mt String.toList_eq_nil_iff.mp hne)
  have hcslash : c ≠ '/' := by
    rintro rfl
    exact hslash (by rw [hc]; exact List.mem_cons_self)
  rw [hs, String.toList_intercalate, List.map_cons]
  cases ss with
  | nil => exact ⟨c, cs, by simpa using hc, hcslash⟩
  | cons t ts =>
    rw [List.map_cons, List.intercalate_cons_cons, hc]
    exact ⟨c, _, rfl, hcslash⟩

end IsNormal

lemma pieces_slash_append (s : String) : pieces ("/" ++ s) = "" :: pieces s := by
  have hslash : "/".toList = ['/'] := rfl
  rw [pieces, String.toList_append, hslash, List.singleton_append,
    List.splitOn_cons_eq_if_modifyHead, if_pos (beq_self_eq_true _), List.map_cons]
  rfl

lemma parts_ofText_slash_append (s : String) : (ofText ("/" ++ s)).parts = (ofText s).parts := by
  rw [ofText, pieces_slash_append, List.filter_cons_of_neg (by decide)]
  rfl

lemma rootOf_of_cons {c : Char} {cs : List Char} (hc : c ≠ '/') (hs : s.toList = c :: cs) :
    rootOf s = "" ∧ rootOf ("/" ++ s) = "/" ∧ rootOf ("//" ++ s) = "//" := by
  have hslash : "/".toList = ['/'] := rfl
  have hslashes : "//".toList = ['/', '/'] := rfl
  refine ⟨?_, ?_, ?_⟩
  · rw [rootOf, hs]
    split <;> simp_all
  · rw [rootOf, String.toList_append, hs, hslash]
    split <;> simp_all
  · rw [rootOf, String.toList_append, hs, hslashes]
    split
    · simp_all
    · rfl
    · next hone htail => exact absurd (List.cons.inj htail).2.symm (hone (c :: cs))
    · simp_all

/-- The text of a path in normal form names the path. -/
theorem ofText_text (h : p.IsNormal) : ofText p.text = p := by
  obtain ⟨root, parts⟩ := p
  by_cases hne : parts = []
  · obtain rfl := hne
    rcases h.root with hroot | hroot | hroot <;> obtain rfl : root = _ := hroot <;> decide +kernel
  · obtain ⟨c, cs, hc, hcslash⟩ := h.head?_intercalate hne
    obtain ⟨hnone, hone, htwo⟩ := rootOf_of_cons hcslash hc
    have hparts : (ofText ("/".intercalate parts)).parts = parts := by
      rw [ofText, pieces, h.pieces_intercalate hne]
      exact h.filter_parts
    have htext : text ⟨root, parts⟩ = root ++ "/".intercalate parts := by
      rw [text, List.isEmpty_eq_false_iff.mpr hne, Bool.and_false, if_neg Bool.false_ne_true]
    have hslashes : "//" = "/" ++ "/" := rfl
    rw [htext]
    rcases h.root with hroot | hroot | hroot <;> obtain rfl : root = _ := hroot
    · rw [String.empty_append]
      exact congrArg₂ Path.mk hnone hparts
    · exact congrArg₂ Path.mk hone ((parts_ofText_slash_append _).trans hparts)
    · refine congrArg₂ Path.mk htwo ?_
      rw [hslashes, String.append_assoc]
      exact ((parts_ofText_slash_append _).trans (parts_ofText_slash_append _)).trans hparts

/-! ### Names -/

lemma pieces_of_name {s : String} (hslash : '/' ∉ s.toList) : pieces s = [s] := by
  rw [pieces, List.splitOn_eq_singleton hslash, List.map_singleton, String.ofList_toList]

/-- A name without slashes names the path with that one part. -/
lemma ofText_of_name {s : String} (hslash : '/' ∉ s.toList) (hlong : 1 < s.length) :
    ofText s = { root := "", parts := [s] } := by
  have hne {t : String} (ht : t.length ≤ 1) : s ≠ t := by
    rintro rfl
    omega
  let p : Path := { root := "", parts := [s] }
  have hp : p.IsNormal :=
    { root := .inl rfl
      ne_empty := by simpa [p] using hne (t := "") (by decide)
      ne_dot := by simpa [p] using hne (t := ".") (by decide)
      slash_notMem := by simpa [p] using hslash }
  have htext : p.text = s := by
    change "" ++ "/".intercalate [s] = s
    rw [String.intercalate_singleton, String.empty_append]
  exact htext ▸ ofText_text hp

lemma text_ofText_of_name {s : String} (hslash : '/' ∉ s.toList) (hlong : 1 < s.length) :
    (ofText s).text = s := by
  rw [ofText_of_name hslash hlong]
  change "" ++ "/".intercalate [s] = s
  rw [String.intercalate_singleton, String.empty_append]

/-! ### Children -/

/-- The path below another that a name without slashes names. -/
lemma child_of_name {s : String} (hslash : '/' ∉ s.toList) (hlong : 1 < s.length) :
    p.child s = { p with parts := p.parts ++ [s] } := by
  rw [child, ofText_of_name hslash hlong]
  rfl

lemma text_child_of_name {s : String} (hparts : p.parts ≠ []) (hslash : '/' ∉ s.toList)
    (hlong : 1 < s.length) : (p.child s).text = p.text ++ "/" ++ s := by
  have hsome : (p.parts ++ [s]).isEmpty = false := List.isEmpty_eq_false_iff.mpr (by simp)
  rw [child_of_name hslash hlong, text, text, hsome, List.isEmpty_eq_false_iff.mpr hparts,
    Bool.and_false, if_neg Bool.false_ne_true, if_neg Bool.false_ne_true,
    String.intercalate_append_of_ne_nil hparts (List.cons_ne_nil _ _),
    String.intercalate_singleton, ← String.append_assoc, ← String.append_assoc]

lemma pieces_append_slash_append (s t : String) :
    pieces (s ++ "/" ++ t) = pieces s ++ pieces t := by
  have hslash : "/".toList = ['/'] := rfl
  rw [pieces, String.toList_append, String.toList_append, hslash, List.append_assoc,
    List.singleton_append, List.splitOn_append_cons_self, List.map_append]
  rfl

lemma text_concat (root : String) (parts : List String) (s : String) :
    ({ root, parts := parts ++ [s] } : Path).text
      = root ++ (if parts = [] then "" else "/".intercalate parts ++ "/") ++ s := by
  have hsome : (parts ++ [s]).isEmpty = false := List.isEmpty_eq_false_iff.mpr (by simp)
  rw [text, hsome, Bool.and_false, if_neg Bool.false_ne_true]
  split_ifs with hparts
  · simp [hparts]
  · rw [String.intercalate_append_of_ne_nil hparts (List.cons_ne_nil _ _),
      String.intercalate_singleton, String.append_assoc, String.append_assoc, String.append_assoc]

/-- Paths that differ in their last part at most have the same text only if they are the same. -/
lemma text_concat_inj {root : String} {parts : List String} :
    ({ root, parts := parts ++ [s] } : Path).text = ({ root, parts := parts ++ [t] } : Path).text
      ↔ s = t := by
  rw [text_concat, text_concat, String.append_right_inj]

/-- The absolute form of the path below another that a name names. -/
lemma resolve_child_of_name {directory : List String} (hslash : '/' ∉ s.toList)
    (hlong : 2 < s.length) :
    (p.child s).resolve directory
      = { root := "/", parts := (p.resolve directory).parts ++ [s] } := by
  have hdots : s ≠ ".." := by
    rintro rfl
    exact absurd hlong (by decide)
  have hcollapse (parts : List String) : collapse (parts ++ [s]) = collapse parts ++ [s] := by
    rw [collapse, List.foldl_append, List.foldl_cons, List.foldl_nil, if_neg hdots]
  rw [child_of_name hslash (by omega), resolve, resolve, isAbsolute, isAbsolute]
  split_ifs
  · rw [hcollapse]
  · rw [← List.append_assoc, hcollapse]

/-! ### Characters -/

section Char

variable {c : Char}

lemma mem_intercalate {ss : List String} (hc : c ≠ '/') :
    c ∈ ("/".intercalate ss).toList ↔ ∃ s ∈ ss, c ∈ s.toList := by
  induction ss with
  | nil => simp [String.intercalate_nil]
  | cons s ss ih =>
    cases ss with
    | nil => simp [String.intercalate_singleton]
    | cons t ts =>
      rw [String.intercalate_cons_cons, String.toList_append, String.toList_append,
        List.mem_append, List.mem_append, ih]
      simp [hc]

/-- The characters of a path are those of its root and of its parts, but for slashes and a dot. -/
lemma mem_text_iff (hslash : c ≠ '/') (hdot : c ≠ '.') :
    c ∈ p.text.toList ↔ c ∈ p.root.toList ∨ ∃ s ∈ p.parts, c ∈ s.toList := by
  rw [text]
  split_ifs with hempty
  · obtain ⟨hroot, hparts⟩ := (Bool.and_eq_true _ _).mp hempty
    rw [List.isEmpty_iff.mp hparts, String.isEmpty_iff.mp hroot]
    simpa using hdot
  · rw [String.toList_append, List.mem_append, mem_intercalate hslash]

lemma notMem_rootOf (hslash : c ≠ '/') : c ∉ (rootOf s).toList := by
  rcases rootOf_cases s with h | h | h <;> simp [h, hslash]

lemma mem_of_mem_ofText (hslash : c ≠ '/') (ht : t ∈ (ofText s).parts) (hc : c ∈ t.toList) :
    c ∈ s.toList := by
  have hjoin : "/".intercalate (pieces s) = s := by
    have hcut : (pieces s).map String.toList = s.toList.splitOn '/' := by
      rw [pieces, List.map_map]
      exact (List.map_congr_left fun _ _ => String.toList_ofList).trans (List.map_id _)
    rw [← String.toList_inj, String.toList_intercalate, hcut]
    exact List.intercalate_splitOn '/'
  rw [← hjoin, mem_intercalate hslash]
  exact ⟨t, (List.mem_filter.mp ht).1, hc⟩

/-- A character that is neither in a path nor in a text is not in the path below that the text
names. -/
lemma notMem_text_child (hslash : c ≠ '/') (hdot : c ≠ '.') (hp : c ∉ p.text.toList)
    (hs : c ∉ s.toList) : c ∉ (p.child s).text.toList := by
  have hparts : ¬ ∃ t ∈ (ofText s).parts, c ∈ t.toList := fun ⟨_, ht, hc⟩ =>
    hs (mem_of_mem_ofText hslash ht hc)
  rw [mem_text_iff hslash hdot] at hp ⊢
  rw [child, join]
  split_ifs
  · exact not_or.mpr ⟨notMem_rootOf hslash, hparts⟩
  · simp only [List.mem_append, or_and_right, exists_or, ← or_assoc]
    exact not_or.mpr ⟨hp, hparts⟩

end Char

/-! ### Suffixes -/

lemma suffixOf_subset (name : String) :
    ∀ c ∈ (suffixOf name).toList, c = '.' ∨ c ∈ name.toList := by
  intro c hc
  rw [suffixOf] at hc
  split_ifs at hc
  · simp at hc
  · rw [String.toList_ofList, List.mem_cons, List.mem_reverse] at hc
    refine hc.imp id fun hc => ?_
    simpa using (List.takeWhile_sublist _).subset hc

lemma slash_notMem_name (h : p.IsNormal) : '/' ∉ p.name.toList := by
  rw [name]
  cases hlast : p.parts.getLast? with
  | none => simp
  | some s => exact h.slash_notMem s (List.mem_of_getLast? hlast)

/-- The suffix of a path stands in its last part. -/
lemma slash_notMem_suffix (h : p.IsNormal) : '/' ∉ p.suffix.toList := by
  intro hc
  rcases suffixOf_subset _ _ hc with hdot | hname
  · exact absurd hdot (by decide)
  · exact slash_notMem_name h hname

end VariantRepair.Path
