import Mathlib.Tactic.Common
import VariantRepair.CommandLine.Words
import VariantRepair.Proofs.Failing

/-!
# What the words of a command line set

Every option that a word stands for is one of those that have names, so a command line sets no other
field than those that have an option of their own.
-/

namespace VariantRepair.CommandLine

/-- Only fields that have an option are set. -/
def Options.Listed (o : Options) : Prop :=
  ∀ f, (o.settings f).isSome → f ∈ settingFields

lemma mem_settingFields {f : Field} (h : Key.slot (.field f) ∈ names.map Prod.snd) :
    f ∈ settingFields := by
  revert h
  cases f <;> decide

/-- A field is set, or the settings stay as they are. -/
lemma settings_of_put {o o' : Options} {slot : Slot} {g : Given String}
    (h : o.put slot g = .ok o') :
    (∃ f v, slot = .field f ∧ o' = o.setField f v) ∨ o'.settings = o.settings := by
  cases slot with
  | field f =>
    have hset : ∃ v, o' = o.setField f v := by
      cases f
      all_goals
        obtain ⟨v, -, rfl⟩ := exists_of_map_eq_ok h
        exact ⟨v, rfl⟩
    obtain ⟨v, rfl⟩ := hset
    exact .inl ⟨f, v, rfl, rfl⟩
  | sanity | randomEdits =>
    obtain ⟨v, -, rfl⟩ := exists_of_map_eq_ok h
    exact .inr rfl
  | _ =>
    cases h
    exact .inr rfl

namespace Options.Listed

variable {o o' : Options}

lemma default : Options.default.Listed := fun _ h => absurd h (by simp [Options.default])

lemma turnOn (h : o.Listed) (s : Switch) : (o.turnOn s).Listed := by
  cases s <;> exact h

lemma put {slot : Slot} {g : Given String} (h : o.Listed)
    (hslot : Key.slot slot ∈ names.map Prod.snd) (hput : o.put slot g = .ok o') : o'.Listed := by
  obtain ⟨f, v, rfl, rfl⟩ | hsame := settings_of_put hput
  · intro f' hf'
    by_cases hff : f = f'
    · subst hff
      exact mem_settingFields hslot
    · rw [Options.setField] at hf'
      simp only [hff, dite_false] at hf'
      exact h f' hf'
  · intro f hf
    rw [hsame] at hf
    exact h f hf

end Options.Listed

/-- A word that is an option is one of those that have names. -/
def Word.Named : Word → Prop
  | .option key _ => key ∈ names.map Prod.snd
  | _ => True

lemma mem_of_lookup_names {s : String} {key : Key} (h : names.lookup s = some key) :
    key ∈ names.map Prod.snd := by
  obtain ⟨before, behind, hnames, -⟩ := List.lookup_eq_some_iff.mp h
  rw [hnames]
  simp

lemma named_of_classifyOther {s : String} {w : Word} (h : classifyOther s = .ok w) : w.Named := by
  rw [classifyOther] at h
  generalize cutValue s = cut at h
  obtain ⟨name, value⟩ := cut
  dsimp only at h
  split at h
  next key v hkey =>
    cases h
    split_ifs
    · trivial
    · exact mem_of_lookup_names hkey
  next =>
    split at h
    next start key hmatching =>
      cases h
      have hmem : (start, key) ∈ names := by
        split_ifs at hmatching
        exact (List.mem_filter.mp (hmatching ▸ List.mem_singleton_self _)).1
      exact List.mem_map_of_mem hmem
    next => cases h
    next =>
      split_ifs at h <;> cases h <;> trivial

lemma named_of_classify {s : String} {w : Word} (h : classify s = .ok w) : w.Named := by
  rw [classify] at h
  split_ifs at h
  · cases h
    trivial
  · split at h
    next key hkey =>
      cases h
      exact mem_of_lookup_names hkey
    next => exact named_of_classifyOther h

lemma named_of_classifyAll {ss : List String} {ws : List Word} (h : classifyAll ss = .ok ws) :
    ∀ w ∈ ws, w.Named := by
  induction ss generalizing ws with
  | nil =>
    cases h
    exact fun w hw => absurd hw List.not_mem_nil
  | cons s ss ih =>
    rw [classifyAll] at h
    split_ifs at h
    · cases h
      intro w hw
      obtain rfl | hw := List.mem_cons.mp hw
      · trivial
      · obtain ⟨s, -, rfl⟩ := List.mem_map.mp hw
        trivial
    · cases hs : classify s with
      | error e =>
        rw [hs] at h
        cases h
      | ok w =>
        cases hss : classifyAll ss with
        | error e =>
          rw [hs, hss] at h
          cases h
        | ok ws' =>
          rw [hs, hss] at h
          cases h
          exact List.forall_mem_cons.mpr ⟨named_of_classify hs, ih hss⟩

/-- Taking words sets only fields that have an option. -/
lemma listed_of_take {o o' : Options} {extra : List String} (ws : List Word)
    (ho : o.Listed) (hws : ∀ w ∈ ws, w.Named) (h : take o extra ws = .ok (.run o')) :
    o'.Listed := by
  -- Induction on the number of words, since an option takes the word after it as well.
  induction hn : ws.length using Nat.strongRecOn generalizing o extra ws with
  | ind n ih =>
    subst hn
    have hgive {slot : Slot} {g : Given String} {v : String} {rest : List Word}
        (hslot : Key.slot slot ∈ names.map Prod.snd) (hrest : ∀ w ∈ rest, w.Named)
        (hlt : rest.length < ws.length) (h : take.give o extra slot g v rest = .ok (.run o')) :
        o'.Listed := by
      rw [take.give] at h
      split at h
      · next o₁ hput => exact ih _ hlt rest (ho.put hslot hput) hrest h rfl
      · cases h
    cases ws with
    | nil =>
      rw [take] at h
      split_ifs at h
      cases h
      exact ho
    | cons w ws =>
      obtain ⟨hw, hrest⟩ := List.forall_mem_cons.mp hws
      cases w with
      | plain s | unknown s | separator =>
        rw [take] at h
        exact ih _ (Nat.lt_succ_self _) ws ho hrest h rfl
      | cluster cs =>
        rw [take] at h
        obtain ⟨u, -, hrun⟩ := exists_of_map_eq_ok h
        cases hrun
      | option key value =>
        cases key with
        | switch s =>
          cases value with
          | some v =>
            rw [take] at h
            cases h
          | none =>
            rw [take] at h
            split_ifs at h
            · cases h
            · exact ih _ (Nat.lt_succ_self _) ws (ho.turnOn s) hrest h rfl
        | slot slot =>
          cases value with
          | some v =>
            rw [take] at h
            exact hgive hw hrest (Nat.lt_succ_self _) h
          | none =>
            by_cases hplain : ∃ v rest, ws = .plain v :: rest
            · obtain ⟨v, rest, rfl⟩ := hplain
              rw [take] at h
              exact hgive hw (List.forall_mem_cons.mp hrest).2
                (by simp only [List.length_cons]; omega) h
            · rw [take] at h
              · cases h
              · exact fun v rest heq => hplain ⟨v, rest, heq⟩

/-- Only fields that have an option are set by a command line. -/
lemma listed_of_read {words : List String} {o : Options} (h : read words = .ok (.run o)) :
    o.Listed := by
  rw [read] at h
  cases hws : classifyAll words with
  | error e =>
    rw [hws] at h
    cases h
  | ok ws =>
    rw [hws] at h
    exact listed_of_take ws .default (named_of_classifyAll hws) h

end VariantRepair.CommandLine
