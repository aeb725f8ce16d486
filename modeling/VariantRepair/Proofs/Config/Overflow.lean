import Mathlib.Tactic.Common
import VariantRepair.Proofs.Config.Overlay
import VariantRepair.Proofs.Number.Binary64

/-!
# How an overlay fails

Whatever the settings are, to overlay them gives a configuration within its bounds, or a setting is
refused, or it overflows. It overflows where a number is out of the range of its field: a whole
number is read by way of a double, so that an integer can be too large to be one, and what is read
as an infinity is no integer.
-/

namespace VariantRepair

/-! ### Conversions -/

/-- A value has a number that is out of the range of fields of this kind. -/
inductive FieldKind.Exceeds : FieldKind → Value → Prop
  /-- An integer is beyond the largest double. -/
  | tooLarge {k : FieldKind} {n : Int} (hkind : k = .whole ∨ k = .real)
      (hn : Number.ofInt? n = none) : Exceeds k (.int n)
  /-- An infinity, or a text that is read as one, is no whole number. -/
  | infinite {v : Value} {x : Float} (hread : v.toFloat = .ok x)
      (hx : x = Number.infinity ∨ x = -Number.infinity) : Exceeds .whole v

namespace FieldKind

variable {k : FieldKind} {v : Value} {e : ConversionError}

/-- A conversion that fails refuses the value, unless its error is an overflow. -/
lemma lenient_eq_error_iff {α : Type} {r : Except ConversionError α} {f : Failure} :
    ofValue.lenient r = .error f
      ↔ ∃ e, r = .error e ∧ Failure.ofConversion e = .overflow e ∧ f = .overflow e := by
  cases r with
  | ok x => simp [ofValue.lenient]
  | error e => cases e <;> simp [ofValue.lenient, Failure.ofConversion, eq_comm]

/-- Of all values, the integers beyond the largest double overflow on the way to a double. -/
lemma overflow_toFloat_iff :
    v.toFloat = .error e ∧ Failure.ofConversion e = .overflow e
      ↔ e = .tooLarge ∧ ∃ n, v = .int n ∧ Number.ofInt? n = none := by
  constructor
  · rintro ⟨h, hoverflow⟩
    have hunread {α : Type} (r : Except Number.NumberError α) : r.mapError .text ≠ .error e := by
      intro hr
      cases r with
      | ok x => cases hr
      | error e' =>
        cases hr
        cases hoverflow
    cases v with
    | bool b | float x => cases h
    | int n =>
      rw [Value.toFloat] at h
      split at h
      · cases h
      · next hn => exact ⟨(Except.error.inj h).symm, n, rfl, hn⟩
    | str s | bytes bs =>
      rw [Value.toFloat] at h
      exact absurd h (hunread _)
    | _ =>
      cases h
      cases hoverflow
  · rintro ⟨rfl, n, rfl, hn⟩
    exact ⟨by rw [Value.toFloat, hn], rfl⟩

lemma toInt_infinity {x : Float} (hx : x = Number.infinity ∨ x = -Number.infinity) :
    (Value.float x).toInt = .error .infinite := by
  rcases hx with rfl | rfl
  · decide +kernel
  · decide +kernel

/-- Of all doubles, the infinities overflow on the way to an integer. -/
lemma overflow_toInt_iff {x : Float} :
    (Value.float x).toInt = .error e ∧ Failure.ofConversion e = .overflow e
      ↔ e = .infinite ∧ (x = Number.infinity ∨ x = -Number.infinity) := by
  constructor
  · rintro ⟨h, hoverflow⟩
    have hinfinity (hx : x = Number.infinity ∨ x = -Number.infinity) : e = .infinite :=
      Except.error.inj (h.symm.trans (toInt_infinity hx))
    rcases Number.float_cases x with rfl | hx | hx | ⟨-, -, negative, m, q, hx⟩
    · have hnan : (Value.float Number.notANumber).toInt = .error .notANumber := by decide +kernel
      obtain rfl := Except.error.inj (hnan.symm.trans h)
      cases hoverflow
    · exact ⟨hinfinity (.inl hx), .inl hx⟩
    · exact ⟨hinfinity (.inr hx), .inr hx⟩
    · rw [Value.toInt, Number.truncate?, hx] at h
      cases h
  · rintro ⟨rfl, hx⟩
    exact ⟨toInt_infinity hx, rfl⟩

/-- A number out of range overflows. -/
lemma Exceeds.ofValue (h : k.Exceeds v) : ∃ e, k.ofValue v = .error (.overflow e) := by
  rcases h with ⟨rfl | rfl, hn⟩ | ⟨hread, hx⟩
  · exact ⟨.tooLarge, by rw [FieldKind.ofValue, Value.toFloat, hn]; rfl⟩
  · exact ⟨.tooLarge, by rw [FieldKind.ofValue, Value.toFloat, hn]; rfl⟩
  · refine ⟨.infinite, ?_⟩
    rw [FieldKind.ofValue, hread]
    change ofValue.lenient (Value.float _).toInt = _
    exact lenient_eq_error_iff.mpr ⟨_, (overflow_toInt_iff.mpr ⟨rfl, hx⟩).1, rfl, rfl⟩

/-- A conversion that fails is one of a number out of range, and it overflows. -/
lemma exceeds_of_ofValue {f : Failure} (h : k.ofValue v = .error f) :
    k.Exceeds v ∧ ∃ e, f = .overflow e := by
  cases k with
  | text =>
    obtain ⟨e, hwritten, hoverflow, -⟩ := lenient_eq_error_iff.mp h
    rw [Value.written] at hwritten
    split at hwritten
    · cases hwritten
      cases hoverflow
    · cases hwritten
  | flag => cases v <;> cases h
  | real =>
    obtain ⟨e, hread, hoverflow, rfl⟩ := lenient_eq_error_iff.mp h
    obtain ⟨-, n, rfl, hn⟩ := overflow_toFloat_iff.mp ⟨hread, hoverflow⟩
    exact ⟨.tooLarge (.inr rfl) hn, e, rfl⟩
  | whole =>
    obtain ⟨e, hconvert, hoverflow, rfl⟩ := lenient_eq_error_iff.mp h
    refine ⟨?_, e, rfl⟩
    cases hread : v.toFloat with
    | error e' =>
      rw [hread] at hconvert
      obtain rfl : e' = e := Except.error.inj hconvert
      obtain ⟨-, n, rfl, hn⟩ := overflow_toFloat_iff.mp ⟨hread, hoverflow⟩
      exact .tooLarge (.inl rfl) hn
    | ok x =>
      rw [hread] at hconvert
      change (Value.float x).toInt = _ at hconvert
      exact .infinite hread (overflow_toInt_iff.mp ⟨hconvert, hoverflow⟩).2

end FieldKind

/-! ### Settings -/

namespace Config

variable {c : Config} {f : Field} {p : Value × Value}

/-- To refuse a value by its form in messages refuses it in any case. -/
lemma exists_of_naming (v : Value) (r : String → Refusal) :
    ∃ r', Failure.naming v (fun shown => .refused (r shown)) = .refused r' := by
  rw [Failure.naming, Value.shown]
  split_ifs
  · exact ⟨_, rfl⟩
  · exact ⟨_, rfl⟩

/-- A setting is taken, refused, or out of the range of its field. -/
lemma coerce_cases (f : Field) (raw : Value) :
    (∃ v, coerce f raw = .ok v) ∨ (∃ r, coerce f raw = .error (.refused r)) ∨
      f.kind.Exceeds raw ∧ ∃ e, coerce f raw = .error (.overflow e) := by
  rw [coerce]
  split
  · next failure hfailure =>
    obtain ⟨hexceeds, e, rfl⟩ := FieldKind.exceeds_of_ofValue hfailure
    exact .inr (.inr ⟨hexceeds, e, rfl⟩)
  · exact .inl ⟨_, rfl⟩
  · obtain ⟨r, hr⟩ := exists_of_naming raw (.setting f.name)
    exact .inr (.inl ⟨r, congrArg _ hr⟩)

lemma coerce_of_exceeds {raw : Value} (h : f.kind.Exceeds raw) :
    ∃ e, coerce f raw = .error (.overflow e) := by
  obtain ⟨e, he⟩ := h.ofValue
  exact ⟨e, by rw [coerce, he]⟩

/-- A setting of a field is converted for it, and the settings behind it are overlaid then. -/
lemma overlayFrom_cons_of_sets (h : sets f p = true) (c : Config)
    (settings : List (Value × Value)) : (c.overlayFrom (p :: settings)).2
      = coerce f p.2 >>= fun v => ((c.set f v).overlayFrom settings).2 := by
  obtain ⟨key, raw⟩ := p
  cases hkey : key.written with
  | error e =>
    rw [sets.eq_def] at h
    cases raw <;> simp [hkey, Except.toOption] at h
  | ok name =>
    obtain ⟨hnull, hname⟩ := (sets_iff hkey raw f).mp h
    simp only [overlayFrom, hkey, hname]
    cases hcoerce : coerce f raw with
    | error failure => rfl
    | ok v => rfl

/-- What sets no field is passed over, unless its key cannot be written. -/
lemma overlayFrom_cons_of_not_sets (h : ∀ f, sets f p = false) (c : Config) :
    (∃ r, ∀ settings, (c.overlayFrom (p :: settings)).2 = .error (.refused r)) ∨
      ∀ settings, (c.overlayFrom (p :: settings)).2 = (c.overlayFrom settings).2 := by
  obtain ⟨key, raw⟩ := p
  cases hkey : key.written with
  | error e =>
    rw [Value.written] at hkey
    split at hkey
    · cases hkey
      exact .inl ⟨.number .overlong, by simp [overlayFrom, Value.written, *, Failure.ofConversion]⟩
    · cases hkey
  | ok name =>
    refine .inr fun settings => ?_
    cases hname : Field.ofName? name with
    | none => simp [overlayFrom, hkey, hname]
    | some f =>
      obtain rfl : raw = .null := by
        by_contra hnull
        exact Bool.false_ne_true ((h f).symm.trans ((sets_iff hkey raw f).mpr ⟨hnull, hname⟩))
      simp [overlayFrom, hkey, hname]

/-- A setting has a number that is out of the range of its field, and all settings before it are
taken. -/
def OutOfRange (c : Config) (settings : List (Value × Value)) : Prop :=
  ∃ before p after f, settings = before ++ p :: after ∧
    (∃ c', (c.overlayFrom before).2 = .ok c') ∧ sets f p = true ∧ f.kind.Exceeds p.2

/-- Settings are taken, or one of them is refused, or one is out of the range of its field. -/
lemma overlayFrom_cases (c : Config) (settings : List (Value × Value)) :
    (∃ c', (c.overlayFrom settings).2 = .ok c') ∨
      (∃ r, (c.overlayFrom settings).2 = .error (.refused r)) ∨ OutOfRange c settings := by
  induction settings generalizing c with
  | nil => exact .inl ⟨c, rfl⟩
  | cons p settings ih =>
    have hrest {c' : Config} (h : ∀ before c'', (c'.overlayFrom before).2 = .ok c'' →
        (c.overlayFrom (p :: before)).2 = .ok c'') (hrange : OutOfRange c' settings) :
        OutOfRange c (p :: settings) := by
      obtain ⟨before, q, after, f, rfl, ⟨c'', hbefore⟩, hsets, hexceeds⟩ := hrange
      exact ⟨p :: before, q, after, f, rfl, ⟨c'', h before c'' hbefore⟩, hsets, hexceeds⟩
    by_cases h : ∃ f, sets f p = true
    · obtain ⟨f, hf⟩ := h
      rw [overlayFrom_cons_of_sets hf]
      rcases coerce_cases f p.2 with ⟨v, hv⟩ | ⟨r, hr⟩ | ⟨hexceeds, e, he⟩
      · rw [hv]
        refine (ih (c.set f v)).imp_right (.imp_right (hrest fun before c'' hbefore => ?_))
        rw [overlayFrom_cons_of_sets hf, hv]
        exact hbefore
      · exact .inr (.inl ⟨r, by rw [hr]; rfl⟩)
      · exact .inr (.inr ⟨[], p, settings, f, rfl, ⟨c, rfl⟩, hf, hexceeds⟩)
    · have hf (f : Field) : sets f p = false := Bool.eq_false_iff.mpr fun hf => h ⟨f, hf⟩
      rcases overlayFrom_cons_of_not_sets hf c with ⟨r, hr⟩ | hpassed
      · exact .inr (.inl ⟨r, hr settings⟩)
      · rw [hpassed]
        exact (ih c).imp_right (.imp_right (hrest fun before c'' hbefore =>
          (hpassed before).trans hbefore))

/-- A number out of range overflows, whatever the settings behind it are. -/
lemma OutOfRange.overflows {settings : List (Value × Value)} (h : OutOfRange c settings) :
    ∃ e, (c.overlayFrom settings).2 = .error (.overflow e) := by
  obtain ⟨before, p, after, f, rfl, ⟨c', hbefore⟩, hsets, hexceeds⟩ := h
  induction before generalizing c with
  | nil =>
    obtain ⟨e, he⟩ := coerce_of_exceeds hexceeds
    exact ⟨e, by rw [List.nil_append, overlayFrom_cons_of_sets hsets, he]; rfl⟩
  | cons q before ih =>
    rw [List.cons_append]
    by_cases h : ∃ g, sets g q = true
    · obtain ⟨g, hg⟩ := h
      rw [overlayFrom_cons_of_sets hg] at hbefore ⊢
      cases hv : coerce g q.2 with
      | error failure =>
        rw [hv] at hbefore
        cases hbefore
      | ok v =>
        rw [hv] at hbefore
        exact ih hbefore
    · have hg (g : Field) : sets g q = false := Bool.eq_false_iff.mpr fun hg => h ⟨g, hg⟩
      rcases overlayFrom_cons_of_not_sets hg c with ⟨r, hr⟩ | hpassed
      · cases (hr before).symm.trans hbefore
      · rw [hpassed] at hbefore ⊢
        exact ih hbefore

/-- A configuration whose bounds are broken is refused. -/
lemma check_cases (c : Config) : c.check = .ok c ∨ ∃ r, c.check = .error (.refused r) := by
  rw [check]
  split
  · exact .inr ⟨_, rfl⟩
  · split
    · exact .inr ⟨_, rfl⟩
    · split
      · exact .inr ⟨_, rfl⟩
      · split
        · exact .inr ⟨_, rfl⟩
        · exact .inl rfl

/-- A number out of range overflows, and then no bounds are checked. -/
lemma OutOfRange.overlay {settings : List (Value × Value)} (h : OutOfRange c settings) :
    ∃ e, (c.overlay settings).2 = .error (.overflow e) := by
  obtain ⟨e, he⟩ := h.overflows
  exact ⟨e, congrArg (· >>= check) he⟩

/-- An overlay gives a configuration within its bounds, or a setting or a bound is refused, or a
setting is out of the range of its field. -/
lemma overlay_cases (c : Config) (settings : List (Value × Value)) :
    (∃ c', (c.overlay settings).2 = .ok c' ∧ c'.check = .ok c') ∨
      (∃ r, (c.overlay settings).2 = .error (.refused r)) ∨ OutOfRange c settings := by
  change (∃ c', (c.overlayFrom settings).2 >>= check = .ok c' ∧ _) ∨
    (∃ r, (c.overlayFrom settings).2 >>= check = .error (.refused r)) ∨ _
  rcases overlayFrom_cases c settings with ⟨c', hc'⟩ | ⟨r, hr⟩ | hrange
  · rw [hc']
    rcases check_cases c' with hcheck | hrefused
    · exact .inl ⟨c', hcheck, hcheck⟩
    · exact .inr (.inl hrefused)
  · exact .inr (.inl ⟨r, by rw [hr]; rfl⟩)
  · exact .inr (.inr hrange)

/-- To overlay any settings on any configuration gives one within its bounds, or fails with a
refusal or an overflow. It overflows if and only if a setting has a number that is out of the range
of its field and all settings before it are taken. -/
theorem overlay_overflows_iff (c : Config) (settings : List (Value × Value)) :
    (∀ c', (c.overlay settings).2 = .ok c' → c'.check = .ok c') ∧
    (∀ f, (c.overlay settings).2 = .error f → f.label = "ValueError" ∨ f.label = "OverflowError") ∧
    ((∃ f, (c.overlay settings).2 = .error f ∧ f.label = "OverflowError")
      ↔ OutOfRange c settings) := by
  have hcases := overlay_cases c settings
  refine ⟨fun c' hc' => ?bounds, fun f hf => ?labels, ?overflow, ?range⟩
  case bounds =>
    rcases hcases with ⟨c'', hc'', hcheck⟩ | ⟨r, hr⟩ | hrange
    · obtain rfl : c'' = c' := Except.ok.inj (hc''.symm.trans hc')
      exact hcheck
    · cases hr.symm.trans hc'
    · obtain ⟨e, he⟩ := hrange.overlay
      cases he.symm.trans hc'
  case labels =>
    rcases hcases with ⟨c', hc', -⟩ | ⟨r, hr⟩ | hrange
    · cases hc'.symm.trans hf
    · obtain rfl : .refused r = f := Except.error.inj (hr.symm.trans hf)
      exact .inl rfl
    · obtain ⟨e, he⟩ := hrange.overlay
      obtain rfl : .overflow e = f := Except.error.inj (he.symm.trans hf)
      exact .inr rfl
  case overflow =>
    rintro ⟨f, hf, hlabel⟩
    rcases hcases with ⟨c', hc', -⟩ | ⟨r, hr⟩ | hrange
    · cases hc'.symm.trans hf
    · obtain rfl : .refused r = f := Except.error.inj (hr.symm.trans hf)
      exact absurd hlabel (by decide : "ValueError" ≠ "OverflowError")
    · exact hrange
  case range =>
    intro hrange
    obtain ⟨e, he⟩ := hrange.overlay
    exact ⟨.overflow e, he, rfl⟩

/-- An infinite seed is not refused: it overflows. -/
theorem overlay_overflows_at_seed :
    (Config.default.overlay [(.str "seed", .str "inf")]).2 = .error (.overflow .infinite) ∧
      (Failure.overflow .infinite).label ≠ "ValueError" :=
  ⟨rfl, by decide⟩

end Config

end VariantRepair
