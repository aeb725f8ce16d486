import Mathlib.Tactic.Common
import VariantRepair.Proofs.Bench.Prepared
import VariantRepair.Proofs.CommandLine.Settings
import VariantRepair.Proofs.Localization.FaultRows
import VariantRepair.Proofs.Localization.Greatest
import VariantRepair.Proofs.Variant.Random
import VariantRepair.Proofs.Variant.Rows

/-!
# Weights of atoms that exist

The scheme that gives all atoms the same weight and the one that goes by the lines of a fault file
give weights to atoms of the program and to nothing else, and edits renumber the weights together
with the atoms. So a random edit, which changes an atom with a positive weight if there is one,
always finds its atoms.
-/

namespace VariantRepair

/-! ### Weights that are given in turn -/

namespace Localization

variable {W : Type} {l : Localization W} {pairs : List (Int × W)} {p : Int × W} {n : Nat}

lemma mem_ofList (h : p ∈ (ofList pairs).pairs) : p ∈ pairs := by
  have hfold : ∀ (pairs : List (Int × W)) (l : Localization W),
      p ∈ (pairs.foldl (fun l p => l.set p.1 p.2) l).pairs → p ∈ l.pairs ∨ p ∈ pairs := by
    intro pairs
    induction pairs with
    | nil => exact fun l h => .inl h
    | cons q pairs ih =>
      intro l h
      rcases ih _ h with h | h
      · rcases mem_place h with rfl | h
        · exact .inr List.mem_cons_self
        · exact .inl h
      · exact .inr (List.mem_cons_of_mem _ h)
  exact (hfold pairs ∅ h).resolve_left List.not_mem_nil

lemma liesIn_empty (n : Nat) : (∅ : Localization W).LiesIn n := nofun

lemma liesIn_ofList (h : ∀ p ∈ pairs, 1 ≤ p.1 ∧ p.1 ≤ n) : (ofList pairs).LiesIn n :=
  fun p hp => h p (mem_ofList hp)

lemma inUnit_ofList [Weight W] (h : ∀ p ∈ pairs, Weight.inUnit p.2 = true) :
    (ofList pairs).InUnit :=
  fun p hp => h p (mem_ofList hp)

end Localization

/-! ### Atoms by their lines -/

namespace Program

open SlotModule

variable {p : Program} {e : Edit}

/-- Each atom of a module has the lines that it had in the text. -/
def IsSpanned : Program → Prop
  | lines _ => True
  | module m => m.spans.length = m.slots.length

lemma isSpanned_of_read {b : Backend} {text : String} (h : read b text = .ok p) : p.IsSpanned := by
  cases b with
  | lines =>
    cases h
    trivial
  | python =>
    rw [read, SlotModule.read] at h
    cases hread : Language.readModule text with
    | error f =>
      rw [hread] at h
      cases h
    | ok statements =>
      rw [hread] at h
      cases h
      simp [IsSpanned, ofStatements]

/-- An edit of a module changes what is in the slots, of which there are as many as before. -/
lemma exists_edited_module (m : SlotModule) (e : Edit) :
    ∃ slots, (module m).edited e = module { m with slots } ∧ slots.length = m.slots.length := by
  cases e with
  | delete a => exact ⟨_, rfl, List.length_set⟩
  | append d s => exact ⟨_, rfl, List.length_set⟩
  | swap a b =>
    rw [Program.edited]
    split_ifs
    · exact ⟨m.slots, rfl, rfl⟩
    · exact ⟨_, rfl, by rw [List.length_set, List.length_set]⟩

lemma IsSpanned.edited (h : p.IsSpanned) (e : Edit) : (p.edited e).IsSpanned := by
  cases p with
  | lines ls =>
    have hbackend := (lines ls).backend_edited e
    cases hedited : (lines ls).edited e with
    | lines ls' => trivial
    | module m =>
      rw [hedited] at hbackend
      cases hbackend
  | module m =>
    obtain ⟨slots, hedited, hlength⟩ := exists_edited_module m e
    rw [hedited]
    exact h.trans hlength.symm

/-- The atoms of a line are atoms of the program. -/
lemma IsSpanned.of_mem_atomsAtLine (h : p.IsSpanned) {line a : Int}
    (ha : a ∈ p.atomsAtLine line) : 1 ≤ a ∧ a ≤ p.size := by
  cases p with
  | lines ls =>
    rw [atomsAtLine] at ha
    split_ifs at ha with hline
    · obtain rfl := List.mem_singleton.mp ha
      exact hline
    · cases ha
  | module m =>
    obtain ⟨k, hk, rfl⟩ := List.mem_map.mp ha
    obtain ⟨⟨span, k'⟩, hmem, rfl⟩ := List.mem_map.mp hk
    have hspan := List.mem_zipIdx (List.mem_filter.mp hmem).1
    have hlength : m.spans.length = m.slots.length := h
    rw [size, SlotModule.size, ← hlength]
    omega

end Program

/-! ### Edits -/

namespace Variant

variable {v : Variant Float} {untouched : Float} {e : Edit}

/-- Edits renumber the weights together with the atoms. -/
lemma liesIn_edited (h : v.localization.LiesIn v.size) (he : e.Fits v.size) :
    (v.edited untouched e).localization.LiesIn (v.edited untouched e).size := by
  cases hp : v.program with
  | lines ls =>
    have hrows : v.HasRows untouched (lineRows ls v.localization untouched) := by
      refine ⟨ls, hp, rfl, ?_⟩
      rwa [size, hp] at h
    have hedited := hrows.edited (hrows.size_eq ▸ he)
    rw [hedited.size_eq]
    exact hedited.within
  | module m =>
    obtain ⟨slots, hedited, hlength⟩ := Program.exists_edited_module m e
    have hsize : (v.edited untouched e).size = v.size := by
      rw [size, size, edited, hp, hedited]
      exact hlength
    have hbackend : v.backend.renumbering = .tombstone := by
      rw [backend, hp]
      rfl
    rw [hsize, edited, hbackend]
    cases e <;> exact h

/-- What a random edit needs of a variant: only atoms have weights, each weight lies between zero
and one, and each atom of a module has its lines. -/
structure IsWeighed (v : Variant Float) : Prop where
  liesIn : v.localization.LiesIn v.size
  inUnit : v.localization.InUnit
  isSpanned : v.program.IsSpanned

namespace IsWeighed

lemma edited (h : v.IsWeighed) (hu : Weight.inUnit untouched = true) (he : e.Fits v.size) :
    (v.edited untouched e).IsWeighed where
  liesIn := liesIn_edited h.liesIn he
  inUnit := h.inUnit.edited hu _ e
  isSpanned := h.isSpanned.edited e

lemma of_apply (h : v.IsWeighed) (hu : Weight.inUnit untouched = true) {v' : Variant Float}
    (hv' : v.apply untouched e = .ok v') : v'.IsWeighed := by
  have hattempt : v.attempt untouched (.ofEdit e) = .ok v' := by
    cases e <;> exact hv'
  obtain ⟨f, hf⟩ | ⟨e', he', hedited⟩ := v.attempt_cases untouched (.ofEdit e)
  · rw [hf] at hattempt
    cases hattempt
  · obtain rfl := Except.ok.inj (hedited.symm.trans hattempt)
    exact h.edited hu he'

end IsWeighed

lemma isWeighed_of_readText {text : String} {v' : Variant Float} (h : v.readText text = .ok v') :
    v'.IsWeighed := by
  rw [readText] at h
  cases hread : Program.read v.backend text with
  | error f =>
    rw [hread] at h
    cases h
  | ok p =>
    rw [hread] at h
    cases h
    exact ⟨Localization.liesIn_empty _, Localization.inUnit_empty, Program.isSpanned_of_read hread⟩

end Variant

/-! ### Weights by schemes -/

namespace Work

open Host

variable {l l' : Localization Float} {n : Nat} {c : Config} {b b' : Bench} {v : Variant Float}

lemma liesIn_uniformWeights (n : Nat) : (Localization.ofList (uniformWeights n)).LiesIn n := by
  refine Localization.liesIn_ofList fun p hp => ?_
  obtain ⟨a, ha, rfl⟩ := List.mem_map.mp hp
  exact Variant.mem_atomIds.mp ha

lemma inUnit_uniformWeights (n : Nat) : (Localization.ofList (uniformWeights n)).InUnit := by
  refine Localization.inUnit_ofList fun p hp => ?_
  obtain ⟨a, -, rfl⟩ := List.mem_map.mp hp
  exact inUnit_one

/-- The rows of a fault file have weights between zero and one. -/
lemma inUnit_of_run_readFaultFile {path : String} {rows : List (Int × Float)} {m m' : Machine}
    (h : (readFaultFile path).run m = (.ok rows, m')) :
    ∀ row ∈ rows, Weight.inUnit row.2 = true := by
  obtain ⟨text, m₁, -, h⟩ := exists_run_of_run_bind h
  cases hrows : faultRows (Path.ofText path).text text with
  | error f =>
    rw [hrows] at h
    cases h
  | ok rs =>
    rw [hrows] at h
    cases h
    exact inUnit_of_forall₂ (faultRows_eq_ok_iff.mp hrows)

/-- Rows with weights between zero and one give such weights to atoms of the program. -/
lemma of_rowWeights {rows : List (Int × Float)} (hv : v.program.IsSpanned)
    (hrows : ∀ row ∈ rows, Weight.inUnit row.2 = true)
    (h : rowWeights (.ofVariant v) rows = .ok l) : l.LiesIn v.size ∧ l.InUnit := by
  rw [rowWeights_ofVariant] at h
  obtain rfl := Except.ok.inj h
  have hgreatest := holdsGreatest_given v.program hrows
  have hgiven : ∀ p ∈ Localization.pairs _, p ∈ given v.program rows := fun p hp =>
    hgreatest.mem p.1 p.2 (hgreatest.nodup.mem_iff.mp hp)
  refine ⟨fun p hp => ?_, fun p hp => inUnit_given v.program hrows p (hgiven p hp)⟩
  obtain ⟨line, -, hatom⟩ := mem_given.mp (hgiven p hp)
  exact hv.of_mem_atomsAtLine hatom

/-! ### The schemes -/

lemma localization_of_uniform (h : c.faultScheme = "uniform") :
    localization c = do return .ofList (uniformWeights (← reading (·.size))) := by
  rw [localization, h, if_pos (by decide)]

lemma localization_of_line (h : c.faultScheme = "line") :
    localization c = lineLocalization c := by
  rw [localization, h, if_neg (by decide), if_pos (by decide)]

lemma localization_of_path (h : c.faultScheme = "path") :
    localization c = pathLocalization c := by
  rw [localization, h, if_neg (by decide), if_neg (by decide), if_pos (by decide)]

/-- The first two schemes give weights between zero and one to atoms of the program. -/
lemma of_run_localization (hv : b.altered = .ofVariant v) (hspanned : v.program.IsSpanned)
    (hscheme : c.faultScheme = "uniform" ∨ c.faultScheme = "line")
    (h : (localization c).run b = (.ok l, b')) : l.LiesIn v.size ∧ l.InUnit := by
  rcases hscheme with hscheme | hscheme
  · rw [localization_of_uniform hscheme] at h
    obtain ⟨size, hsize, h⟩ := of_run_reading_bind h
    rw [hv] at hsize
    cases hsize
    cases h
    exact ⟨liesIn_uniformWeights _, inUnit_uniformWeights _⟩
  · rw [localization_of_line hscheme, lineLocalization] at h
    split_ifs at h
    · cases h
    · obtain ⟨rows, m, hread, h⟩ := of_run_onMachine_bind h
      rw [run_reading] at h
      obtain ⟨hrows, -⟩ := Prod.mk.inj h
      rw [hv] at hrows
      exact of_rowWeights hspanned (inUnit_of_run_readFaultFile hread) hrows

lemma run_localize_of_error (hv : b.altered = .ofVariant v) {f : Failure}
    (h : (localization c).run b = (.error f, b')) : (localize c).run b = (.error f, b') := by
  rw [localize, run_bind_of_ok (run_callable hv _), run_bind_of_ok (run_provides hv _ _)]
  exact run_bind_of_error h _

/-- The weights that a scheme gives take the place of those there are. -/
lemma run_localize_of_ok (hv : b.altered = .ofVariant v)
    (h : (localization c).run b = (.ok l, b')) :
    ∃ m, (localize c).run b = (.ok (), { b' with
      machine := m, altered := .ofVariant { v with localization := l } }) := by
  have hkept : b'.altered = .ofVariant v := by
    have hkept := altered_localization (c := c) (A := (· = .ofVariant v)) b hv
    rwa [h] at hkept
  have hset : (alter (Altered.setLocalization l)).run b'
      = (.ok (), { b' with altered := .ofVariant { v with localization := l } }) := by
    rw [run_alter, hkept]
    rfl
  rw [localize, run_bind_of_ok (run_callable hv _), run_bind_of_ok (run_provides hv _ _),
    run_bind_of_ok h, run_bind_of_ok hset]
  exact ⟨_, rfl⟩

lemma of_run_localize (hv : b.altered = .ofVariant v) (h : (localize c).run b = (.ok (), b')) :
    ∃ l b₁, (localization c).run b = (.ok l, b₁) ∧
      b'.altered = .ofVariant { v with localization := l } := by
  cases hrun : (localization c).run b with
  | mk r b₁ =>
    cases r with
    | error f =>
      rw [run_localize_of_error hv hrun] at h
      cases h
    | ok l =>
      obtain ⟨m, hlocalize⟩ := run_localize_of_ok hv hrun
      rw [hlocalize] at h
      cases h
      exact ⟨l, b₁, rfl, rfl⟩

end Work

/-! ### What is reached -/

/-- In a configuration that was checked, the weights lie between zero and one. -/
lemma Config.inUnit_of_check {c c' : Config} (h : c.check = .ok c') {p : String × (Config → Float)}
    (hp : p ∈ unitFields) : Weight.inUnit (p.2 c) = true := by
  cases hfind : unitFields.find? fun p => !Weight.inUnit (p.2 c) with
  | some q =>
    rw [check, hfind] at h
    split_ifs at h
  | none => simpa using List.find?_eq_none.mp hfind p hp

/-- What a bench comes to when a text is read, weights are computed by one of the first two schemes
and edits are made, each with success. -/
inductive Bench.Reached (untouched : Float) : Bench → Prop
  | read {b b' : Bench} {v : Variant Float} {text : String} (hb : b.altered = .ofVariant v)
      (h : (Work.readProgram text).run b = (.ok (), b')) : Reached untouched b'
  | localized {b b' : Bench} {c : Config} (hb : Reached untouched b)
      (hscheme : c.faultScheme = "uniform" ∨ c.faultScheme = "line")
      (h : (Work.localize c).run b = (.ok (), b')) : Reached untouched b'
  | edited {b b' : Bench} {e : Edit} (hb : Reached untouched b)
      (h : (Work.alter (Altered.apply untouched e)).run b = (.ok (), b')) : Reached untouched b'

namespace Bench.Reached

open Work

variable {untouched : Float} {b b' : Bench}

lemma exists_variant (hb : b.Reached untouched) (hu : Weight.inUnit untouched = true) :
    ∃ v, b.altered = .ofVariant v ∧ v.IsWeighed := by
  induction hb with
  | @read b b' v text hb h =>
    rw [readProgram, run_alter, hb, Altered.run_readText] at h
    cases hread : v.readText text with
    | error f =>
      rw [hread] at h
      cases h
    | ok v' =>
      rw [hread] at h
      cases h
      exact ⟨v', rfl, Variant.isWeighed_of_readText hread⟩
  | localized hb hscheme h ih =>
    obtain ⟨v, hv, hweighed⟩ := ih
    obtain ⟨l, b₁, hl, hb'⟩ := of_run_localize hv h
    obtain ⟨hlies, hunit⟩ := of_run_localization hv hweighed.isSpanned hscheme hl
    exact ⟨_, hb', hlies, hunit, hweighed.isSpanned⟩
  | @edited b b' e hb h ih =>
    obtain ⟨v, hv, hweighed⟩ := ih
    rw [run_alter, hv, Altered.run_apply] at h
    cases happly : v.apply untouched e with
    | error f =>
      rw [happly] at h
      cases h
    | ok v' =>
      rw [happly] at h
      cases h
      exact ⟨v', rfl, hweighed.of_apply hu happly⟩

end Bench.Reached

/-! ### Random edits -/

/-- Where a text was read, weighed by one of the first two schemes and edited in any way, and some
atom is left, exact arithmetic always draws an edit if some kind of edit has a positive weight, and
the edit can be made. Its kind has a positive weight. The atom that it changes has a positive
weight; if none has, it has one when atoms without any get the default, and it is any atom if there
is none even then. The other atom is any. Of the draws this needs only that the second fraction lies
from zero on below one, and that numbers below a bound are. -/
theorem random_edits_apply {c : Config} {b : Bench} (hc : c.check = .ok c)
    (hb : b.Reached c.untouchedWeight) :
    ∃ v, b.altered = .ofVariant v ∧ (1 ≤ v.size →
      ∀ (G : Type) (dice : Chance.Dice G ℚ) (weights : ℚ × ℚ × ℚ) (g : G),
        (0 < weights.1 ∨ 0 < weights.2.1 ∨ 0 < weights.2.2) →
        0 ≤ (dice.fraction (dice.fraction g).2).1 → (dice.fraction (dice.fraction g).2).1 < 1 →
        (∀ n g, 0 < n → (dice.below n g).1 < n) →
        ∃ e v', (Variant.drawEdit dice (v.mapWeights Number.exact)
            (Number.exact c.untouchedWeight) weights g).1 = .ok e ∧
          (Altered.apply c.untouchedWeight e).run b.altered = (.ok (), .ofVariant v') ∧
          0 < e.kindWeight weights ∧ v.MayChange c.untouchedWeight e.target ∧
          ∀ a ∈ e.other?, 1 ≤ a ∧ a ≤ v.size) := by
  have hu : Weight.inUnit c.untouchedWeight = true :=
    Config.inUnit_of_check hc (p := ("untouched_weight", _)) (by simp [Config.unitFields])
  obtain ⟨v, hv, hweighed⟩ := hb.exists_variant hu
  refine ⟨v, hv, fun hsize G dice weights g hweights hzero hone hbelow => ?_⟩
  have hexact := Number.keepsSign_exact
  have hstored : ∀ p ∈ (v.mapWeights Number.exact).localization.pairs, 0 ≤ p.2 := by
    intro p hp
    obtain ⟨q, hq, rfl⟩ := List.mem_map.mp hp
    exact hexact.nonneg (hweighed.inUnit q hq)
  obtain ⟨e, he, hkind⟩ := Variant.exists_drawEdit (v := v.mapWeights Number.exact) hsize hweights
    hzero hone hstored (hexact.nonneg hu)
  obtain ⟨hchange, hother⟩ := Variant.of_drawEdit_eq_ok hbelow he
  have hchange' := Variant.mayChange_of_mapWeights hexact hweighed.inUnit hu hchange
  have hfits : e.Fits v.size := Edit.fits_iff.mpr ⟨hchange'.isAtom hweighed.liesIn, hother⟩
  refine ⟨e, v.edited c.untouchedWeight e, he, ?_, hkind, hchange', hother⟩
  rw [hv, Altered.run_apply, Variant.apply_of_fits hfits, Altered.settled]

/-- Two lines of the same weight, the second of which is copied behind the first: draws that are
always a half and the last number find a line to append to and one to copy. -/
theorem random_edits_apply_lines :
    ∃ (c : Config) (b : Bench) (v : Variant Float), c.check = .ok c ∧
      b.Reached c.untouchedWeight ∧ b.altered = .ofVariant v ∧ v.program = .lines ["a", "b", "b"] ∧
      ∃ d s v', (Variant.drawEdit ⟨fun g => (1 / 2, g), fun n g => (n - 1, g)⟩
          (v.mapWeights Number.exact) (Number.exact c.untouchedWeight) (0, 1, 0) ()).1
            = .ok (.append d s) ∧
        (Altered.apply c.untouchedWeight (.append d s)).run b.altered
          = (.ok (), .ofVariant v') ∧ 1 ≤ s ∧ s ≤ 3 := by
  let c : Config := Config.default.set .faultScheme "uniform"
  let r : Variant Float := (Variant.empty .lines).restart (.lines ["a", "b"])
  let b₀ : Bench :=
    { machine := Host.Machine.ofDirectory [] "1", cache := none, stats := .zero, port := 808
      altered := .ofVariant (.empty .lines) }
  have hc : c.check = .ok c := Config.check_eq_ok (by decide +kernel)
  have hread : (Work.readProgram "a\nb\n").run b₀ = (.ok (), { b₀ with altered := .ofVariant r }) :=
    rfl
  have hweights : (Work.localization c).run { b₀ with altered := .ofVariant r }
      = (.ok (.ofList (Work.uniformWeights 2)), { b₀ with altered := .ofVariant r }) := rfl
  obtain ⟨m, hlocalize⟩ := Work.run_localize_of_ok rfl hweights
  have hlocalized : Bench.Reached c.untouchedWeight _ :=
    (Bench.Reached.read rfl hread).localized (.inl rfl) hlocalize
  have hb := hlocalized.edited (e := .append 1 2) rfl
  obtain ⟨v, hv, hdraw⟩ := random_edits_apply hc hb
  have hprogram : v.program = .lines ["a", "b", "b"] := congrArg (·.variant.program) hv.symm
  have hsize : v.size = 3 := by
    rw [Variant.size, hprogram]
    rfl
  obtain ⟨e, v', he, happly, hkind, -, hother⟩ := hdraw (by omega) Unit
    ⟨fun g => (1 / 2, g), fun n g => (n - 1, g)⟩ (0, 1, 0) () (.inr (.inl one_pos))
    (by norm_num) (by norm_num) (fun n g hn => Nat.sub_lt hn one_pos)
  cases e with
  | append d s =>
    obtain ⟨hone, hthree⟩ := hother s rfl
    rw [hsize] at hthree
    exact ⟨c, _, v, hc, hb, hv, hprogram, d, s, v', he, happly, hone, hthree⟩
  | delete a => exact absurd hkind (lt_irrefl 0)
  | swap a b => exact absurd hkind (lt_irrefl 0)

end VariantRepair
