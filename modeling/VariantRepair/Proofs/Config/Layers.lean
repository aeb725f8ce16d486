import VariantRepair.Proofs.CommandLine.Settings
import VariantRepair.Proofs.Config.Overflow
import VariantRepair.Proofs.Config.Overlay
import VariantRepair.Proofs.Number.Binary64
import VariantRepair.Proofs.Number.Exact
import VariantRepair.Proofs.Number.Whole

/-!
# What layers of settings come to

A configuration is made of layers of settings. It keeps its bounds, and takes whole numbers by way
of doubles.
-/

/-!
## Layers of settings

A configuration is made of layers of settings: each of them is overlaid on what those before it
came to, beginning with the configuration in which nothing has been set. A layer that is refused
leaves what was there.
-/

namespace VariantRepair.Config

variable {c c' : Config} {settings : List (Value × Value)} {layers : List (List (Value × Value))}

lemma ofValue_of_coerce {f : Field} {raw : Value} {v : f.Carrier} (h : coerce f raw = .ok v) :
    f.kind.ofValue raw = .ok (some v) := by
  rw [coerce] at h
  split at h
  · cases h
  · next hvalue =>
    obtain rfl := Except.ok.inj h
    exact hvalue
  · cases h

/-- An overlay that is not refused gives a configuration that passes its check, in which each field
holds what its last setting is converted to. -/
lemma of_overlay_eq_ok (h : (c.overlay settings).2 = .ok c') :
    c'.check = .ok c' ∧ ∀ f, Takes f (lastSetting? f settings) (c f) (c' f) := by
  rw [overlay] at h
  cases hfrom : c.overlayFrom settings with
  | mk warnings r =>
    rw [hfrom] at h
    cases r with
    | error e => cases h
    | ok c₁ =>
      have hcheck : c₁.check = .ok c' := h
      obtain rfl := eq_of_check hcheck
      exact ⟨hcheck, takes_overlayFrom hfrom⟩

lemma overlay_eq_ok (h : (c.overlayFrom settings).2 = .ok c') (hcheck : c'.check = .ok c') :
    (c.overlay settings).2 = .ok c' := by
  change (c.overlayFrom settings).2 >>= check = _
  rw [h]
  exact hcheck

lemma check_default : default.check = .ok default := check_eq_ok (by decide)

/-- The last setting for a field is the one that comes last behind all others. -/
lemma lastSetting?_append (f : Field) (entries entries' : List (Value × Value)) :
    lastSetting? f (entries ++ entries')
      = (lastSetting? f entries').or (lastSetting? f entries) := by
  rw [lastSetting?, lastSetting?, lastSetting?, List.reverse_append, List.find?_append,
    Option.map_or]

/-- The configurations that are made of layers of settings. -/
inductive Layered : List (List (Value × Value)) → Config → Prop
  /-- Nothing has been set. -/
  | default : Layered [] .default
  /-- One more layer is overlaid, and it is not refused. -/
  | overlay {c c' : Config} {layers : List (List (Value × Value))}
      {settings : List (Value × Value)} (below : Layered layers c)
      (taken : (c.overlay settings).2 = .ok c') : Layered (layers ++ [settings]) c'

namespace Layered

/-- What is made of layers passes its check. -/
lemma check (h : Layered layers c) : c.check = .ok c := by
  cases h with
  | default => exact check_default
  | overlay below taken => exact (of_overlay_eq_ok taken).1

/-- Each field holds what its last setting in any of the layers is converted to. -/
lemma takes (h : Layered layers c) (f : Field) :
    Takes f (lastSetting? f layers.flatten) (Config.default f) (c f) := by
  induction h with
  | default => rfl
  | overlay below taken ih =>
    rw [List.flatten_append, List.flatten_singleton, lastSetting?_append]
    exact ih.trans ((of_overlay_eq_ok taken).2 f)

end Layered

end VariantRepair.Config

/-!
## The bounds of configurations

Whatever the layers are that a configuration is made of, its fields have the types that are declared
for them, and lie within their bounds. One bound lets something through: it is refused when a
timeout is zero or less, and what is no number is not.
-/

namespace VariantRepair

/-! ### Kinds -/

namespace FieldKind

/-- The name of the type of what a field of the kind holds. -/
def typeName : FieldKind → String
  | text => "str"
  | whole => "int"
  | real => "float"
  | flag => "bool"

/-- The kind that settings are converted to where a value is held: what is neither a truth value nor
a number takes texts. -/
def like : Value → FieldKind
  | .bool _ => flag
  | .int _ => whole
  | .float _ => real
  | _ => text

lemma typeName_toValue (k : FieldKind) (v : k.Carrier) : (k.toValue v).typeName = k.typeName := by
  cases k <;> rfl

lemma like_toValue (k : FieldKind) (v : k.Carrier) : like (k.toValue v) = k := by
  cases k <;> rfl

/-- A field holds a double that its setting is read as. -/
lemma toFloat_of_ofValue {k : FieldKind} {raw : Value} {v : k.Carrier} {x : Float}
    (h : k.ofValue raw = .ok (some v)) (hv : k.toValue v = .float x) : raw.toFloat = .ok x := by
  cases k with
  | text | whole | flag => cases hv
  | real =>
    obtain rfl := Value.float.inj hv
    rw [ofValue] at h
    cases hread : raw.toFloat with
    | ok y =>
      rw [hread] at h
      obtain rfl := Option.some.inj (Except.ok.inj h)
      rfl
    | error e =>
      rw [hread, ofValue.lenient] at h
      split at h <;> cases h

end FieldKind

/-! ### Doubles -/

/-- A double that is not zero or less is above zero, or it is no number. -/
lemma Number.pos_of_not_le {x : Float} (h : ¬ x ≤ 0) : 0 < x ∨ x = notANumber := by
  have hx := eq_ofModel x
  have hle : x ≤ 0 ↔ x.toModel.unpack.le (.zero .positive) = true := le_iff_unpack
  have hlt : 0 < x ↔ Float.Model.UnpackedFloat.lt (.zero .positive) x.toModel.unpack = true :=
    lt_iff_unpack
  rw [hle] at h
  rw [hlt]
  generalize x.toModel.unpack = u at h hx
  cases u with
  | notANumber => exact .inr hx
  | zero s => exact absurd rfl h
  | infinity s =>
    cases s with
    | positive => exact .inl rfl
    | negative => exact absurd rfl h
  | finite s m e hm =>
    cases s with
    | positive => exact .inl rfl
    | negative => exact absurd rfl h

namespace Config

variable {c c' : Config} {settings : List (Value × Value)} {layers : List (List (Value × Value))}

/-- The bounds that a configuration has to keep. -/
structure IsWithinBounds (c : Config) : Prop where
  positives : 0 ≤ c.posTests
  negatives : 0 ≤ c.negTests
  scheme : c.faultScheme ∈ faultSchemes
  weights : ∀ w ∈ [c.positivePathWeight, c.negativePathWeight, c.untouchedWeight], 0 ≤ w ∧ w ≤ 1
  compiling : ¬ c.compileTimeout ≤ 0
  testing : ¬ c.testTimeout ≤ 0

lemma find?_unitFields_eq_none_iff :
    unitFields.find? (fun p => !Weight.inUnit (p.2 c)) = none
      ↔ ∀ w ∈ [c.positivePathWeight, c.negativePathWeight, c.untouchedWeight], 0 ≤ w ∧ w ≤ 1 := by
  simp only [unitFields, Weight.inUnit, List.find?_eq_none, List.forall_mem_cons,
    List.not_mem_nil, false_imp_iff, forall_true_iff, and_true, Bool.not_eq_true,
    Bool.not_eq_false', Bool.and_eq_true, decide_eq_true_eq]
  exact Iff.rfl

/-- A configuration passes its check if and only if it keeps the bounds. -/
lemma check_eq_ok_iff : c.check = .ok c ↔ c.IsWithinBounds := by
  constructor
  · intro h
    rw [check] at h
    split at h
    next => cases h
    next hcounts =>
      split at h
      next => cases h
      next hscheme =>
        split at h
        next => cases h
        next hweights =>
          split at h
          next => cases h
          next htimeouts =>
            rw [not_or] at hcounts htimeouts
            exact ⟨by omega, by omega, by simpa using hscheme,
              find?_unitFields_eq_none_iff.mp hweights, htimeouts.1, htimeouts.2⟩
  · rintro ⟨hpositives, hnegatives, hscheme, hweights, hcompiling, htesting⟩
    rw [check, if_neg (by omega), if_neg (by simpa using hscheme),
      find?_unitFields_eq_none_iff.mpr hweights]
    dsimp only
    rw [if_neg (not_or.mpr ⟨hcompiling, htesting⟩)]

/-- A field that holds a double holds its default, or its last setting is read as the double. -/
lemma Layered.toFloat {layers : List (List (Value × Value))} (h : Layered layers c) {f : Field}
    {x : Float} (hx : f.kind.toValue (c f) = .float x) :
    f.kind.toValue (Config.default f) = .float x ∨
      ∃ raw, lastSetting? f layers.flatten = some raw ∧ raw.toFloat = .ok x := by
  have htakes := h.takes f
  cases hlast : lastSetting? f layers.flatten with
  | none =>
    rw [hlast] at htakes
    have hdefault : c f = Config.default f := htakes
    rw [hdefault] at hx
    exact .inl hx
  | some raw =>
    rw [hlast] at htakes
    exact .inr ⟨raw, rfl, FieldKind.toFloat_of_ofValue (ofValue_of_coerce htakes) hx⟩

/-- A timeout is above zero, or its last setting is read as no number. -/
lemma Layered.pos_or_notANumber {layers : List (List (Value × Value))} (h : Layered layers c)
    {f : Field} {t d : Float} (ht : f.kind.toValue (c f) = .float t)
    (hd : f.kind.toValue (Config.default f) = .float d) (hdefault : 0 < d) (hpos : ¬ t ≤ 0) :
    0 < t ∨ t = Number.notANumber ∧
      ∃ raw, lastSetting? f layers.flatten = some raw ∧ raw.toFloat = .ok Number.notANumber := by
  rcases Number.pos_of_not_le hpos with hpos | rfl
  · exact .inl hpos
  · rcases h.toFloat ht with hnan | hlast
    · obtain rfl : d = Number.notANumber := Value.float.inj (hd.symm.trans hnan)
      exact .inl hdefault
    · exact .inr ⟨rfl, hlast⟩

/-- A configuration that is made of layers of settings, whatever they hold, has in each field a
value of the type that is declared for it, so that the next layer's setting is converted to this
type too. It has no number of tests below zero, a known scheme of fault localization, and weights
between zero and one. Its timeouts are above zero, except that a timeout is no number when its last
setting is read as that. -/
theorem layered_within_bounds {layers : List (List (Value × Value))} (h : Layered layers c) :
    (∀ f : Field, (f.kind.toValue (c f)).typeName = f.kind.typeName ∧
      FieldKind.like (f.kind.toValue (c f)) = f.kind) ∧
    0 ≤ c.posTests ∧ 0 ≤ c.negTests ∧ c.faultScheme ∈ ["path", "uniform", "line"] ∧
    (∀ w ∈ [c.positivePathWeight, c.negativePathWeight, c.untouchedWeight], 0 ≤ w ∧ w ≤ 1) ∧
    ∀ p ∈ [(Field.compileTimeout, c.compileTimeout), (Field.testTimeout, c.testTimeout)],
      0 < p.2 ∨ p.2 = Number.notANumber ∧
        ∃ raw, lastSetting? p.1 layers.flatten = some raw ∧
          raw.toFloat = .ok Number.notANumber := by
  obtain ⟨hpositives, hnegatives, hscheme, hweights, hcompiling, htesting⟩ :=
    check_eq_ok_iff.mp h.check
  refine ⟨fun f => ⟨FieldKind.typeName_toValue _ _, FieldKind.like_toValue _ _⟩, hpositives,
    hnegatives, hscheme, hweights, fun p hp => ?_⟩
  rcases List.mem_pair.mp hp with rfl | rfl
  · exact h.pos_or_notANumber (f := .compileTimeout) rfl rfl (by decide) hcompiling
  · exact h.pos_or_notANumber (f := .testTimeout) rfl rfl (by decide) htesting

/-- An infinite timeout in one layer, and a seed in the next one, are within the bounds. -/
theorem layered_within_bounds_infinite :
    ∃ c : Config, Layered [[(.str "test-timeout-seconds", .str "inf")], [(.str "seed", .int 3)]] c ∧
      c.seed = 3 ∧ c.testTimeout = Number.infinity ∧ 0 < c.testTimeout := by
  let c₁ : Config := Config.default.set .testTimeout Number.infinity
  have hfirst : (Config.default.overlay [(.str "test-timeout-seconds", .str "inf")]).2 = .ok c₁ :=
    overlay_eq_ok rfl (check_eq_ok (by decide))
  have hsecond : (c₁.overlay [(.str "seed", .int 3)]).2 = .ok (c₁.set .seed 3) :=
    overlay_eq_ok rfl (check_eq_ok (by decide))
  have hlayered := (Layered.default.overlay hfirst).overlay hsecond
  refine ⟨_, hlayered, rfl, rfl, ?_⟩
  obtain ⟨-, -, -, -, -, htimeouts⟩ := layered_within_bounds hlayered
  rcases htimeouts _ (List.mem_pair.mpr (.inr rfl)) with hpos | ⟨-, raw, hlast, hread⟩
  · exact hpos
  · obtain rfl : Value.str "inf" = raw := Option.some.inj hlast
    exact absurd (congrArg Float.isNaN (Except.ok.inj hread)) (by decide)

/-- A text for no number is taken for a timeout, which is not above zero then. -/
theorem layered_timeout_not_positive :
    ∃ c : Config, Layered [[(.str "compile_timeout_seconds", .str "nan")]] c ∧
      ¬ 0 < c.compileTimeout := by
  have hlayer : (Config.default.overlay [(.str "compile_timeout_seconds", .str "nan")]).2
      = .ok (Config.default.set .compileTimeout Number.notANumber) :=
    overlay_eq_ok rfl (check_eq_ok (by decide))
  exact ⟨_, Layered.default.overlay hlayer, by decide⟩

end Config

end VariantRepair

/-!
## Whole numbers in settings

A whole number is taken by way of a double, whether it is set as an integer or as a text of its
digits. So a field holds what the number is rounded to, and a configuration comes back from its
mapping just when each of its integers is a double.
-/

namespace VariantRepair

open Number

variable {n : Int} {raw : Value}

/-! ### Conversions -/

/-- The values that spell an integer: the integer itself, and a text of its decimal digits. -/
inductive Value.Spells (n : Int) : Value → Prop
  | int : Spells n (.int n)
  | digits : Spells n (.str (toString n))

namespace Value.Spells

/-- An integer within the range of doubles is taken for what it is rounded to. -/
lemma ofValue_of_inRange (h : raw.Spells n) (hn : InRange n) :
    FieldKind.whole.ofValue raw = .ok (some (roundWhole n)) := by
  have hread : raw.toFloat = .ok (nearest (n < 0) n.natAbs 1) := by
    cases h with
    | int => rw [Value.toFloat, ofInt?_eq, if_pos hn]
    | digits =>
      rw [Value.toFloat, parseFloat_toString]
      rfl
  have hwhole : (Value.float (nearest (n < 0) n.natAbs 1)).toInt = .ok (roundWhole n) := by
    rw [Value.toInt, (nearest_of_lt hn _).2, roundWhole]
    simp only [decide_eq_true_eq]
  rw [FieldKind.ofValue, hread]
  change FieldKind.ofValue.lenient (Value.float _).toInt = _
  rw [hwhole]
  rfl

/-- An integer beyond the range of doubles is out of the range of the field. -/
lemma exceeds (h : raw.Spells n) (hn : ¬ InRange n) : FieldKind.whole.Exceeds raw := by
  cases h with
  | int => exact .tooLarge (.inl rfl) (by rw [ofInt?_eq, if_neg hn])
  | digits =>
    refine .infinite (x := if n < 0 then -infinity else infinity) ?_ ?_
    · rw [Value.toFloat, parseFloat_toString, nearest_of_le (not_lt.mp hn)]
      simp only [decide_eq_true_eq]
      rfl
    · split_ifs
      · exact .inr rfl
      · exact .inl rfl

/-- A setting that spells an integer is taken if and only if the integer is within the range of
doubles, and the field holds what it is rounded to. -/
lemma toValue_of_ofValue (h : raw.Spells n) {k : FieldKind} (hk : k = .whole) {v : k.Carrier}
    (hv : k.ofValue raw = .ok (some v)) : InRange n ∧ k.toValue v = .int (roundWhole n) := by
  subst hk
  by_cases hn : InRange n
  · obtain rfl := Option.some.inj (Except.ok.inj ((h.ofValue_of_inRange hn).symm.trans hv))
    exact ⟨hn, rfl⟩
  · obtain ⟨e, he⟩ := (h.exceeds hn).ofValue
    cases he.symm.trans hv

end Value.Spells

lemma FieldKind.eq_whole_of_toValue {k : FieldKind} {v : k.Carrier} (h : k.toValue v = .int n) :
    k = .whole := by
  cases k with
  | whole => rfl
  | text | real | flag => cases h

/-- What a field holds is converted to itself, unless it is an integer that is no double. -/
lemma FieldKind.ofValue_toValue {k : FieldKind} {v : k.Carrier}
    (h : ∀ n, k.toValue v = .int n → IsDouble n) : k.ofValue (k.toValue v) = .ok (some v) := by
  cases k with
  | text | real | flag => rfl
  | whole =>
    obtain ⟨hrange, hround⟩ := isDouble_iff.mp (h v rfl)
    have hspells : (Value.int v).Spells v := .int
    exact (hspells.ofValue_of_inRange hrange).trans (by rw [hround])

namespace Config

variable {c c' : Config} {f : Field} {settings : List (Value × Value)}

/-! ### Settings -/

/-- A field for a whole number that was set holds what the number is rounded to. -/
lemma Takes.rounded {old new : f.Carrier} (h : Takes f (some raw) old new)
    (hf : f.kind = .whole) (hraw : raw.Spells n) :
    InRange n ∧ f.kind.toValue new = .int (roundWhole n) :=
  hraw.toValue_of_ofValue hf (ofValue_of_coerce h)

/-! ### Mappings -/

lemma coerce_of_ofValue {v : f.Carrier} (h : f.kind.ofValue raw = .ok (some v)) :
    coerce f raw = .ok v := by
  rw [coerce, h]

lemma toValue_ne_null (v : f.Carrier) : f.kind.toValue v ≠ .null := by
  cases f <;> exact fun h => Value.noConfusion h

lemma sets_name (v : f.Carrier) : sets f (.str f.name, f.kind.toValue v) = true :=
  (sets_iff (s := f.name) rfl _ _).mpr
    ⟨toValue_ne_null v, ofName?_eq_some_iff.mpr (keyName_name f)⟩

lemma lastSetting?_toMap (c : Config) (f : Field) :
    lastSetting? f c.toMap = some (f.kind.toValue (c f)) := by
  have hmap : c.toMap = Field.all.filterMap fun g =>
      (some (g.kind.toValue (c g))).map fun v => (.str g.name, v) := by
    rw [toMap, ← List.filterMap_eq_map]
    rfl
  rw [hmap, lastSetting?_filterMap (by decide) fun g h =>
    toValue_ne_null (c g) (Option.some.inj h), if_pos (mem_all f)]

/-- Settings that give fields their values are taken if each value is converted to itself. -/
lemma exists_overlayFrom_of_coerce {fields : List Field} (base : Config)
    (h : ∀ f ∈ fields, coerce f (f.kind.toValue (c f)) = .ok (c f)) :
    ∃ c', (base.overlayFrom (fields.map fun f => (.str f.name, f.kind.toValue (c f)))).2
      = .ok c' := by
  induction fields generalizing base with
  | nil => exact ⟨base, rfl⟩
  | cons f fields ih =>
    obtain ⟨hf, hfields⟩ := List.forall_mem_cons.mp h
    obtain ⟨c', hc'⟩ := ih (base.set f (c f)) hfields
    refine ⟨c', ?_⟩
    rw [List.map_cons, overlayFrom_cons_of_sets (sets_name (c f)), hf]
    exact hc'

/-- A configuration within its bounds comes back from its mapping if and only if each integer in it
is a double. -/
lemma overlay_toMap_iff (hc : c.check = .ok c) (base : Config) :
    (base.overlay c.toMap).2 = .ok c
      ↔ ∀ (f : Field) (n : Int), f.kind.toValue (c f) = .int n → IsDouble n := by
  constructor
  · intro h f n hn
    have htakes := (of_overlay_eq_ok h).2 f
    rw [lastSetting?_toMap, hn] at htakes
    obtain ⟨hrange, hround⟩ := htakes.rounded (FieldKind.eq_whole_of_toValue hn) .int
    exact isDouble_iff.mpr ⟨hrange, Value.int.inj (hround.symm.trans hn)⟩
  · intro h
    have hcoerce (f : Field) : coerce f (f.kind.toValue (c f)) = .ok (c f) :=
      coerce_of_ofValue (FieldKind.ofValue_toValue (h f))
    obtain ⟨c', hfrom⟩ := exists_overlayFrom_of_coerce base fun f (_ : f ∈ Field.all) => hcoerce f
    obtain rfl : c' = c := by
      funext f
      have htakes := takes_overlayFrom (Prod.ext rfl hfrom) f
      change Takes f (lastSetting? f c.toMap) _ _ at htakes
      rw [lastSetting?_toMap] at htakes
      exact Except.ok.inj (htakes.symm.trans (hcoerce f))
    exact overlay_eq_ok hfrom hc

end Config

end VariantRepair
