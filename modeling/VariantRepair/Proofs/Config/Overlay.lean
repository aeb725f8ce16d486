import Mathlib.Data.List.Nodup
import Mathlib.Tactic.Common
import VariantRepair.CommandLine.Options
import VariantRepair.Config.Source

/-!
# What settings leave of a configuration

Settings that are overlaid on a configuration change the fields that they name: each of them holds
what the last of its settings is converted to, and the other fields are as they were. Null is no
setting. Settings come as entries of a data file, from the environment, and from the command line.
-/

namespace VariantRepair

namespace Config

/-! ### Settings by name -/

/-- The name that a key of settings stands for: a hyphen counts as an underscore. -/
def keyName (s : String) : String :=
  String.ofList (s.toList.map fun c => if c = '-' then '_' else c)

/-- Does an entry set a field? Null sets nothing. -/
def sets (f : Field) : Value × Value → Bool
  | (_, .null) => false
  | (key, _) => key.written.toOption.map keyName == some f.name

/-- What the last entry that sets a field has for it. -/
def lastSetting? (f : Field) (entries : List (Value × Value)) : Option Value :=
  (entries.reverse.find? (sets f)).map (·.2)

lemma lastSetting?_cons (f : Field) (p : Value × Value) (entries : List (Value × Value)) :
    lastSetting? f (p :: entries)
      = (lastSetting? f entries).or (if sets f p then some p.2 else none) := by
  rw [lastSetting?, lastSetting?, List.reverse_cons, List.find?_append, Option.map_or,
    List.find?_singleton]
  split_ifs <;> rfl

lemma mem_all (f : Field) : f ∈ Field.all := by
  cases f <;> decide

lemma name_injective : Function.Injective Field.name := by
  have hnodup : (Field.all.map Field.name).Nodup := by decide +kernel
  exact fun f g h => List.inj_on_of_nodup_map hnodup (mem_all f) (mem_all g) h

lemma keyName_name (f : Field) : keyName f.name = f.name := by
  cases f <;> decide

/-- A name stands for the one field that has it. -/
lemma ofName?_eq_some_iff {s : String} {f : Field} :
    Field.ofName? s = some f ↔ keyName s = f.name := by
  rw [Field.ofName?, ← keyName]
  have hnamed {g : Field} (h : Field.all.find? (fun g => g.name == keyName s) = some g) :
      keyName s = g.name := by
    have hg := List.find?_some h
    exact (beq_iff_eq.mp hg).symm
  refine ⟨hnamed, fun h => ?_⟩
  obtain ⟨g, hg⟩ : ∃ g, Field.all.find? (fun g => g.name == keyName s) = some g :=
    Option.isSome_iff_exists.mp (List.find?_isSome.mpr ⟨f, mem_all f, by simp [h]⟩)
  rw [hg, name_injective ((hnamed hg).symm.trans h)]

/-- An entry whose key is written as a name sets the field with this name. -/
lemma sets_iff {key : Value} {s : String} (hkey : key.written = .ok s) (raw : Value) (f : Field) :
    sets f (key, raw) = true ↔ raw ≠ .null ∧ Field.ofName? s = some f := by
  rw [ofName?_eq_some_iff, sets.eq_def]
  cases raw <;> simp [hkey, Except.toOption]

/-! ### Overlays -/

@[simp] lemma set_self (c : Config) (f : Field) (v : f.Carrier) : c.set f v f = v := by
  simp [set]

lemma set_of_ne (c : Config) {f g : Field} (v : f.Carrier) (h : f ≠ g) : c.set f v g = c g := by
  simp [set, h]

/-- A field holds what a setting is converted to, or what it held before if there is no setting. -/
def Takes (f : Field) (raw : Option Value) (old new : f.Carrier) : Prop :=
  match raw with
  | some v => coerce f v = .ok new
  | none => new = old

/-- Where there is a later setting, what was set before does not matter. -/
lemma Takes.trans {f : Field} {raw raw' : Option Value} {x y z : f.Carrier}
    (h : Takes f raw x y) (h' : Takes f raw' y z) : Takes f (raw'.or raw) x z := by
  cases raw' with
  | some v => exact h'
  | none =>
    obtain rfl : z = y := h'
    exact h

/-- After settings were overlaid, each field holds what its last setting is converted to. -/
lemma takes_overlayFrom {c c' : Config} {settings : List (Value × Value)}
    {warnings : List String} (h : c.overlayFrom settings = (warnings, .ok c')) (f : Field) :
    Takes f (lastSetting? f settings) (c f) (c' f) := by
  induction settings generalizing c warnings with
  | nil =>
    obtain ⟨-, hc⟩ := Prod.mk.inj h
    obtain rfl := Except.ok.inj hc
    rfl
  | cons p settings ih =>
    obtain ⟨key, raw⟩ := p
    rw [lastSetting?_cons]
    rw [overlayFrom] at h
    split at h
    next e hkey => exact absurd (Prod.mk.inj h).2 (by simp)
    next s hkey =>
      have hsets := sets_iff hkey raw f
      split at h
      next hname =>
        rw [if_neg (by simp [hsets, hname]), Option.or_none]
        obtain ⟨-, hrest⟩ := Prod.mk.inj h
        exact ih (Prod.ext rfl hrest)
      next g hname =>
        split at h
        next =>
          rw [if_neg (by simp [hsets]), Option.or_none]
          exact ih h
        next raw hnull =>
          split at h
          next e he => exact absurd (Prod.mk.inj h).2 (by simp)
          next v hv =>
            refine Takes.trans ?_ (ih h)
            by_cases hgf : g = f
            · subst hgf
              rw [if_pos (hsets.mpr ⟨hnull, hname⟩), set_self]
              exact hv
            · rw [if_neg (by simp [hsets, hname, hgf]), set_of_ne c v hgf]
              rfl

/-! ### Entries from elsewhere -/

/-- Entries that give some fields a value each, in any order, say just this. -/
lemma lastSetting?_filterMap {fields : List Field} (hnodup : fields.Nodup)
    {given : Field → Option Value} (hnull : ∀ f, given f ≠ some .null) (f : Field) :
    lastSetting? f (fields.filterMap fun g => (given g).map fun v => (.str g.name, v))
      = if f ∈ fields then given f else none := by
  induction fields with
  | nil => rfl
  | cons g fields ih =>
    obtain ⟨hg, hnodup⟩ := List.nodup_cons.mp hnodup
    have hcons : lastSetting? f ((g :: fields).filterMap fun g => (given g).map fun v =>
        (.str g.name, v)) = (if f ∈ fields then given f else none).or
          (if g = f then given g else none) := by
      rw [← ih hnodup, List.filterMap_cons]
      cases hgiven : given g with
      | none => simp
      | some v =>
        have hv : v ≠ .null := fun h => hnull g (hgiven.trans (congrArg some h))
        have hsets : sets f (.str g.name, v) = true ↔ g = f := by
          rw [sets_iff (s := g.name) rfl, ofName?_eq_some_iff, keyName_name, name_injective.eq_iff]
          exact and_iff_right hv
        rw [Option.map_some, lastSetting?_cons]
        simp only [hsets]
    rw [hcons]
    by_cases hgf : g = f
    · subst hgf
      rw [if_neg hg, if_pos rfl, if_pos List.mem_cons_self, Option.none_or]
    · simp only [hgf, if_false, Option.or_none, List.mem_cons, Ne.symm hgf, false_or]

/-- The first of a field's variables that is not empty. -/
def fromVariables? (env : Environment) (f : Field) : Option String :=
  (fieldVariables.lookup f).bind env.first?

lemma lastSetting?_settingsOfEnvironment (env : Environment) (f : Field) :
    lastSetting? f (settingsOfEnvironment env) = (fromVariables? env f).map .str := by
  have hentries : settingsOfEnvironment env = (fieldVariables.map (·.1)).filterMap fun g =>
      ((fromVariables? env g).map .str).map fun v => (.str g.name, v) := by
    simp only [settingsOfEnvironment, Option.map_map]
    rfl
  rw [hentries, lastSetting?_filterMap (by decide) (by simp)]
  split_ifs with hmem
  · rfl
  · have hlookup : fieldVariables.lookup f = none := by
      refine List.lookup_eq_none_iff.mpr fun p hp => bne_iff_ne.mpr ?_
      rintro rfl
      exact hmem (List.mem_map_of_mem hp)
    rw [fromVariables?, hlookup]
    rfl

end Config

end VariantRepair
