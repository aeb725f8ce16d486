import Mathlib.Data.List.Basic
import Mathlib.Data.List.Induction
import Mathlib.Tactic.Common
import VariantRepair.Value.Basic

/-!
# Lists of pairs by their keys

What a list of pairs has for a key after pairs were put into it, and when the keys are values.
-/

/-!
## Values that are put in

A pair is put into a list in place of those with its key, or behind all others if there is none.
Looked at by key, this changes what the list has for that key and for no other; of several pairs
with one key that are put in one after another, the last one stays.
-/

namespace VariantRepair

variable {α β : Type} [BEq α]

/-- The pairs with a value for a key, in place of an earlier one. -/
def put (ps : List (α × β)) (key : α) (value : β) : List (α × β) :=
  if (ps.lookup key).isSome then ps.map fun p => if p.1 == key then (key, value) else p
  else ps ++ [(key, value)]

/-- The pairs with values put in one after another. -/
def putAll (ps qs : List (α × β)) : List (α × β) :=
  qs.foldl (fun ps q => put ps q.1 q.2) ps

lemma putAll_cons (ps qs : List (α × β)) (q : α × β) :
    putAll ps (q :: qs) = putAll (put ps q.1 q.2) qs := rfl

lemma putAll_concat (ps qs : List (α × β)) (q : α × β) :
    putAll ps (qs ++ [q]) = put (putAll ps qs) q.1 q.2 := by
  rw [putAll, putAll, List.foldl_append]
  rfl

variable [LawfulBEq α]

lemma lookup_cons_eq_ite [DecidableEq α] (p : α × β) (ps : List (α × β)) (key : α) :
    (p :: ps).lookup key = if key = p.1 then some p.2 else ps.lookup key := by
  rw [List.lookup_cons]
  split_ifs with hkey
  · rw [hkey, beq_self_eq_true]
  · rw [beq_eq_false_iff_ne.mpr hkey]

lemma lookup_replace [DecidableEq α] (ps : List (α × β)) (key other : α) (value : β) :
    (ps.map fun p => if p.1 == key then (key, value) else p).lookup other
      = if other = key then (ps.lookup key).map fun _ => value else ps.lookup other := by
  induction ps with
  | nil => simp
  | cons p ps ih =>
    rw [List.map_cons, lookup_cons_eq_ite, lookup_cons_eq_ite, lookup_cons_eq_ite, ih]
    by_cases hp : p.1 = key
    · by_cases hother : other = key <;> simp [hp, hother]
    · by_cases hother : other = key
      · simp [hp, hother, Ne.symm hp]
      · simp [hp, hother]

/-- Putting in a value changes what is found by its key. -/
lemma lookup_put [DecidableEq α] (ps : List (α × β)) (key other : α) (value : β) :
    (put ps key value).lookup other = if other = key then some value else ps.lookup other := by
  rw [put]
  cases hfound : ps.lookup key with
  | some old => rw [Option.isSome_some, if_pos rfl, lookup_replace, hfound, Option.map_some]
  | none =>
    rw [Option.isSome_none, if_neg Bool.false_ne_true, List.lookup_append, lookup_cons_eq_ite]
    by_cases hother : other = key
    · simp [hother, hfound]
    · simp [hother]

/-- Of values with one key that are put in, the last one stays. -/
lemma lookup_putAll [DecidableEq α] (qs ps : List (α × β)) (key : α) :
    (putAll ps qs).lookup key
      = (qs.reverse.lookup key).or (ps.lookup key) := by
  induction qs generalizing ps with
  | nil => rfl
  | cons q qs ih =>
    rw [putAll_cons, ih, lookup_put, List.reverse_cons, List.lookup_append, Option.or_assoc,
      lookup_cons_eq_ite]
    split_ifs <;> rfl

/-! ### Putting in again -/

variable {ps qs : List (α × β)}

lemma mem_put {p : α × β} {key : α} {value : β} (h : p ∈ put ps key value) :
    p = (key, value) ∨ p ∈ ps ∧ p.1 ≠ key := by
  rw [put] at h
  split_ifs at h with hfound
  · obtain ⟨p', hp', rfl⟩ := List.mem_map.mp h
    split_ifs with hkey
    · exact .inl rfl
    · exact .inr ⟨hp', by simpa using hkey⟩
  · obtain hp | hp := List.mem_append.mp h
    · refine .inr ⟨hp, fun hkey => hfound ?_⟩
      exact List.lookup_isSome_iff.mpr ⟨p, hp, by simp [hkey]⟩
    · exact .inl (List.mem_singleton.mp hp)

/-- What is there after values were put in is the last of them, if there is any for its key. -/
lemma eq_of_mem_putAll [DecidableEq α] {p : α × β} {value : β} (h : p ∈ putAll ps qs)
    (hlast : qs.reverse.lookup p.1 = some value) : p.2 = value := by
  induction qs using List.reverseRecOn with
  | nil => cases hlast
  | append_singleton qs q ih =>
    rw [List.reverse_concat, lookup_cons_eq_ite] at hlast
    rw [putAll_concat] at h
    obtain rfl | ⟨hp, hne⟩ := mem_put h
    · rw [if_pos rfl] at hlast
      exact Option.some.inj hlast
    · rw [if_neg hne] at hlast
      exact ih hp hlast

/-- Where all keys are known, the pairs stay in their places, each with its last value. -/
lemma putAll_of_known [DecidableEq α] (h : ∀ q ∈ qs, (ps.lookup q.1).isSome) :
    putAll ps qs = ps.map fun p => (p.1, (qs.reverse.lookup p.1).getD p.2) := by
  induction qs generalizing ps with
  | nil => simp [putAll]
  | cons q qs ih =>
    obtain ⟨hq, hqs⟩ := List.forall_mem_cons.mp h
    have hknown : ∀ q' ∈ qs, ((put ps q.1 q.2).lookup q'.1).isSome := by
      intro q' hq'
      rw [lookup_put]
      split_ifs
      · rfl
      · exact hqs q' hq'
    rw [putAll_cons, ih hknown, put, if_pos hq, List.map_map, List.reverse_cons]
    refine List.map_congr_left fun p _ => ?_
    rw [Function.comp_apply, List.lookup_append, lookup_cons_eq_ite]
    by_cases hp : p.1 = q.1
    · rw [if_pos (beq_iff_eq.mpr hp), if_pos hp, Option.getD_or, hp]
      rfl
    · rw [if_neg (by simpa using hp), if_neg hp, List.lookup_nil, Option.or_none]

/-- Putting in the same values again changes nothing. -/
lemma putAll_putAll [DecidableEq α] (ps qs : List (α × β)) :
    putAll (putAll ps qs) qs = putAll ps qs := by
  have hknown : ∀ q ∈ qs, ((putAll ps qs).lookup q.1).isSome := by
    intro q hq
    have hlast : (qs.reverse.lookup q.1).isSome :=
      List.lookup_isSome_iff.mpr ⟨q, List.mem_reverse.mpr hq, by simp⟩
    rw [lookup_putAll, Option.isSome_or, hlast, Bool.true_or]
  rw [putAll_of_known hknown]
  refine (List.map_congr_left fun p hp => ?_).trans (List.map_id _)
  cases hlast : qs.reverse.lookup p.1 with
  | none => rfl
  | some value => exact Prod.ext rfl (eq_of_mem_putAll hp hlast).symm

end VariantRepair

/-!
## Values by texts as keys

Values are compared down to a depth. Texts and numbers have no depth, so as values they are equal
just when they are equal. Among pairs a text is therefore a key of its own: what it was given last
is found by it, and what other texts were given stays.
-/

namespace VariantRepair.Value

/-! ### Texts and numbers -/

@[simp] lemma str_beq (s t : String) : (str s == str t) = (s == t) := by
  change equal (999999 + 1) (str s) (str t) = _
  simp [equal, equalLeaf, whole?]

@[simp] lemma int_beq (m n : Int) : (int m == int n) = (m == n) := by
  change equal (999999 + 1) (int m) (int n) = _
  simp [equal, equalLeaf, whole?]

/-- No other value is equal to a text. -/
lemma beq_str_iff {v : Value} {s : String} : (v == .str s) = true ↔ v = .str s := by
  cases v with
  | str t => rw [str_beq, beq_iff_eq, str.injEq]
  | _ =>
    refine iff_of_false (Bool.eq_false_iff.mp ?_) nofun
    change equal (999999 + 1) _ (str s) = false
    simp [equal, equalLeaf, whole?]

variable {ps : List (Value × Value)} {k key : String} {v : Value} {p : Value × Value}

/-! ### Looking up -/

lemma field_cons : field k (p :: ps) = if p.1 == .str k then some p.2 else field k ps := by
  rw [field, lookup, List.find?_cons]
  cases p.1 == .str k <;> rfl

lemma field_append (qs : List (Value × Value)) :
    field k (ps ++ qs) = (field k ps).or (field k qs) := by
  induction ps with
  | nil => rfl
  | cons p ps ih =>
    rw [List.cons_append, field_cons, field_cons, ih]
    split_ifs <;> rfl

lemma mem_of_field (h : field k ps = some v) : (.str k, v) ∈ ps := by
  induction ps with
  | nil => cases h
  | cons p ps ih =>
    rw [field_cons] at h
    split_ifs at h with hp
    · obtain rfl := Option.some.inj h
      rw [← beq_str_iff.mp hp]
      exact List.mem_cons_self
    · exact List.mem_cons_of_mem _ (ih h)

lemma field_eq_none_iff : field k ps = none ↔ .str k ∉ ps.map Prod.fst := by
  induction ps with
  | nil => exact iff_of_true rfl nofun
  | cons p ps ih =>
    rw [field_cons, List.map_cons, List.mem_cons, not_or]
    split_ifs with hp
    · exact iff_of_false nofun fun h => h.1 (beq_str_iff.mp hp).symm
    · exact ih.trans ⟨fun h => ⟨fun hk => hp (beq_str_iff.mpr hk.symm), h⟩, And.right⟩

/-! ### Giving a key a value -/

lemma any_beq_str_iff : (ps.any fun p => p.1 == .str key) = true ↔ .str key ∈ ps.map Prod.fst := by
  rw [List.any_eq_true, List.mem_map]
  exact exists_congr fun p => and_congr_right fun _ => beq_str_iff

/-- A new key is put at the end. -/
lemma insertPair_of_notMem (h : .str key ∉ ps.map Prod.fst) (v : Value) :
    insertPair ps (.str key) v = ps ++ [(.str key, v)] := by
  rw [insertPair, if_neg (mt any_beq_str_iff.mp h)]

lemma insertPair_of_mem (h : .str key ∈ ps.map Prod.fst) (v : Value) :
    insertPair ps (.str key) v = ps.map fun p => if p.1 == .str key then (p.1, v) else p := by
  rw [insertPair, if_pos (any_beq_str_iff.mpr h)]

/-- No key is put in twice. -/
lemma map_fst_insertPair_of_mem (h : .str key ∈ ps.map Prod.fst) (v : Value) :
    (insertPair ps (.str key) v).map Prod.fst = ps.map Prod.fst := by
  rw [insertPair_of_mem h, List.map_map]
  refine List.map_congr_left fun p _ => ?_
  rw [Function.comp_apply]
  split_ifs <;> rfl

lemma field_map_replace (ps : List (Value × Value)) (k key : String) (v : Value) :
    field k (ps.map fun p => if p.1 == .str key then (p.1, v) else p)
      = if k = key ∧ (field k ps).isSome then some v else field k ps := by
  induction ps with
  | nil => simp [field, lookup]
  | cons p ps ih =>
    rw [List.map_cons, field_cons, field_cons, ih]
    by_cases hkey : (p.1 == .str key) = true
    · rw [if_pos hkey, beq_str_iff.mp hkey]
      by_cases hk : k = key
      · simp [hk]
      · simp [hk, Ne.symm hk]
    · rw [if_neg hkey]
      by_cases hk : (p.1 == .str k) = true
      · have hne : k ≠ key := by
          rintro rfl
          exact hkey hk
        simp [hk, hne]
      · simp [hk]

/-- A key has the value that it was given, and other texts have theirs. -/
lemma field_insertPair (ps : List (Value × Value)) (k key : String) (v : Value) :
    field k (insertPair ps (.str key) v) = if k = key then some v else field k ps := by
  by_cases h : .str key ∈ ps.map Prod.fst
  · have hsome : (field key ps).isSome := by
      rw [Option.isSome_iff_ne_none]
      exact fun hnone => field_eq_none_iff.mp hnone h
    rw [insertPair_of_mem h, field_map_replace]
    by_cases hk : k = key
    · simp [hk, hsome]
    · simp [hk]
  · rw [insertPair_of_notMem h, field_append, field_cons]
    by_cases hk : k = key
    · subst hk
      simp [field_eq_none_iff.mpr h]
    · simp [hk, Ne.symm hk, field, lookup]

/-- Pairs with different texts as keys are collected as they are. -/
lemma collect_eq_self (hkeys : ∀ p ∈ ps, ∃ s, p.1 = .str s) (hnodup : (ps.map Prod.fst).Nodup) :
    collect ps = ps := by
  rw [collect]
  induction ps using List.reverseRecOn with
  | nil => rfl
  | append_singleton ps p ih =>
    obtain ⟨key, hkey⟩ := hkeys p (by simp)
    obtain ⟨_, v⟩ := p
    obtain rfl : _ = Value.str key := hkey
    rw [List.map_append, List.nodup_append] at hnodup
    obtain ⟨hps, -, hdisjoint⟩ := hnodup
    rw [List.foldl_append, ih (fun p hp => hkeys p (List.mem_append_left _ hp)) hps]
    exact insertPair_of_notMem (fun h => hdisjoint _ h _ (by simp) rfl) v

end VariantRepair.Value
