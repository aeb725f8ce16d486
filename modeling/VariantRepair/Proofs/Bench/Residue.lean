import Mathlib.Tactic.Common
import VariantRepair.Proofs.Bench.Loaded
import VariantRepair.Proofs.Host.Texts

/-!
# What outlives a program

A text, a file or a snapshot brings a variant that takes the place of the one at hand. What comes
does not depend on what was there, and all of it is taken; only a suffix need not come along, and
then the one that was there before stays.
-/

namespace VariantRepair

/-- The variant with the suffix of another one, unless it has one of its own. -/
def Variant.keepingSuffix {W : Type} (w v : Variant W) : Variant W :=
  { w with ownSuffix := w.ownSuffix <|> v.ownSuffix }

namespace Variant

variable {W : Type} {v w : Variant W}

/-- Where there is a suffix already, or none to keep, nothing changes. -/
lemma keepingSuffix_eq_self (h : w.ownSuffix.isSome = true ∨ v.ownSuffix = none) :
    w.keepingSuffix v = w := by
  obtain ⟨program, localization, history, ownSuffix, compiled⟩ := w
  cases ownSuffix with
  | none =>
    rw [keepingSuffix, h.resolve_left Bool.false_ne_true]
    rfl
  | some s => rfl

lemma keepingSuffix_empty (w : Variant W) (k : Backend) : w.keepingSuffix (empty k) = w :=
  keepingSuffix_eq_self (.inr rfl)

/-- A fresh program brings everything but a suffix, which the file may bring. -/
lemma named_restart_eq_keepingSuffix (v : Variant W) (k : Backend) (p : Program) (path : Path) :
    (v.restart p).named path = (((empty k).restart p).named path).keepingSuffix v := by
  rw [named, named, keepingSuffix]
  cases path.suffix.isEmpty <;> rfl

/-- Which suffix the sources get, when the variant of a backend takes the place of another one of
this backend. -/
lemma suffix_keepingSuffix_eq_iff (h : w.backend = v.backend) :
    (w.keepingSuffix v).suffix = w.suffix
      ↔ w.ownSuffix.isSome = true ∨ v.suffix = v.backend.suffix := by
  have hbackend : (w.keepingSuffix v).backend = w.backend := rfl
  rw [suffix, suffix, suffix, hbackend, h, keepingSuffix]
  cases w.ownSuffix with
  | none => simp
  | some s => simp

end Variant

lemma Program.backend_of_read {k : Backend} {text : String} {p : Program}
    (h : read k text = .ok p) : p.backend = k := by
  cases k with
  | lines =>
    cases h
    rfl
  | python =>
    rw [read] at h
    cases hread : SlotModule.read text with
    | error f =>
      rw [hread] at h
      cases h
    | ok m =>
      rw [hread] at h
      cases h
      rfl

/-! ### Ways to load -/

/-- A way to load a program. -/
inductive Loading where
  /-- The program is read from a text. -/
  | text (text : String)
  /-- The program is read from a file. -/
  | file (path : String)
  /-- A variant is taken from a snapshot. -/
  | snapshot (path : String)

namespace Loading

/-- Load a program. -/
def load : Loading → Work Unit
  | .text s => Work.readProgram s
  | .file path => Work.loadSource path
  | .snapshot path => Work.loadSnapshot path

/-- A snapshot that can be read is that of a variant that was built. -/
def IsSaved (m : Host.Machine) : Loading → Prop
  | .snapshot path => ∀ r, ((Host.readRecord path).run m).1 = .ok r →
      ∃ a : Altered, a.Built ∧ r = a.record
  | _ => True

/-- A suffix comes along. -/
def BringsSuffix (m : Host.Machine) : Loading → Prop
  | .text _ => False
  | .file path => (Path.ofText path).suffix.isEmpty = false
  | .snapshot path => ∃ w : Variant Float,
      ((Host.readRecord path).run m).1 = .ok (.snapshot (.ofVariant w)) ∧ w.ownSuffix.isSome = true

/-- What a way to load brings, on a machine and for a backend. It takes the place of the variant at
hand, which keeps no more than its suffix. -/
structure Brings (x : Loading) (m : Host.Machine) (k : Backend)
    (r : Except Failure (Variant Float)) : Prop where
  run : ∀ {b : Bench} {v : Variant Float}, b.machine = m → b.altered = .ofVariant v →
    v.backend = k →
      x.load.run b = ((Altered.settled v (r.map (·.keepingSuffix v))).1,
        { b with altered := (Altered.settled v (r.map (·.keepingSuffix v))).2 })
  brought : ∀ w, r = .ok w → w.backend = k ∧ w.compiled = none ∧
    (w.ownSuffix.isSome = true ↔ x.BringsSuffix m)

variable {m : Host.Machine} {k : Backend} {path : String}

lemma brings_error {x : Loading} {f : Failure}
    (h : ∀ {b : Bench} {v : Variant Float}, b.machine = m → b.altered = .ofVariant v →
      v.backend = k → x.load.run b = (.error f, b)) : x.Brings m k (.error f) where
  run hm hv hk := by
    rw [h hm hv hk, Except.map, Altered.settled, ← hv]
  brought := nofun

lemma brings_text (m : Host.Machine) (k : Backend) (s : String) :
    (Loading.text s).Brings m k ((Program.read k s).map (Variant.empty k).restart) where
  run := by
    rintro b v - hv rfl
    rw [load, Work.readProgram, Work.run_alter, hv, Altered.run_readText, Variant.readText]
    cases Program.read v.backend s <;> rfl
  brought w hw := by
    cases hread : Program.read k s with
    | error f =>
      rw [hread] at hw
      cases hw
    | ok p =>
      rw [hread] at hw
      cases hw
      exact ⟨Program.backend_of_read hread, rfl, iff_of_false Bool.false_ne_true id⟩

/-- A file that is read brings its program, and its suffix if it has one. -/
lemma brings_file {t : String} {p : Program}
    (hfile : (Host.readText (Path.ofText path).text).run m = (.ok t, m))
    (hread : Program.read k t = .ok p) :
    (Loading.file path).Brings m k
      (.ok (((Variant.empty k).restart p).named (Path.ofText path))) where
  run := by
    rintro b v rfl hv rfl
    have hprogram : (Work.readProgram t).run b
        = (.ok (), { b with altered := .ofVariant (v.restart p) }) := by
      rw [Work.readProgram, Work.run_alter, hv, Altered.run_readText, Variant.readText, hread]
      rfl
    rw [load, Work.loadSource, run_bind_of_ok (Work.run_callable hv _),
      run_bind_of_ok (Work.run_onMachine_of_ok hfile), run_bind_of_ok hprogram, Except.map,
      Altered.settled, ← Variant.named_restart_eq_keepingSuffix, Variant.named]
    cases (Path.ofText path).suffix.isEmpty <;> rfl
  brought w hw := by
    cases hw
    refine ⟨Program.backend_of_read hread, rfl, ?_⟩
    rw [BringsSuffix, Variant.named]
    cases (Path.ofText path).suffix.isEmpty <;> simp [Variant.restart, Variant.empty]

/-- A snapshot brings the variant that was saved, if it is one of the backend. -/
lemma brings_snapshot {w : Variant Float}
    (hread : (Host.readRecord path).run m = (.ok (.snapshot (.ofVariant w)), m)) :
    (Loading.snapshot path).Brings m k (if w.backend = k then .ok { w with compiled := none }
      else .error (.refused (.snapshotBackend path w.backend.key k.key))) where
  run := by
    rintro b v rfl hv rfl
    have hheld : (ofExcept ((Record.snapshot (.ofVariant w)).held path) : Work Record.Held).run b
        = (.ok (.variant (.ofVariant w)), b) := rfl
    rw [load, Work.loadSnapshot, run_bind_of_ok (Work.run_callable hv _),
      run_bind_of_ok (Work.run_onMachine_of_ok hread), run_bind_of_ok hheld, Work.run_alter, hv,
      Altered.run_load_ofVariant]
    split_ifs <;> rfl
  brought w' hw' := by
    split_ifs at hw' with hbackend
    cases hw'
    refine ⟨hbackend, rfl, ?_⟩
    rw [BringsSuffix, hread]
    refine ⟨fun h => ⟨w, rfl, h⟩, ?_⟩
    rintro ⟨w', hw', h⟩
    cases hw'
    exact h

/-- Every way to load brings something, or fails, by the machine and the backend alone. -/
lemma exists_brings (x : Loading) (k : Backend) (hx : x.IsSaved m) : ∃ r, x.Brings m k r := by
  cases x with
  | text s => exact ⟨_, brings_text m k s⟩
  | file path =>
    obtain ⟨answer, hanswer⟩ := Host.looksOnly_readText (Path.ofText path).text
    have hfile := hanswer m
    cases hm : answer m.files m.directory with
    | error f =>
      rw [hm] at hfile
      refine ⟨.error f, brings_error ?_⟩
      rintro b v rfl hv -
      rw [load, Work.loadSource, run_bind_of_ok (Work.run_callable hv _),
        run_bind_of_error (Work.run_onMachine_of_error hfile)]
    | ok t =>
      rw [hm] at hfile
      cases hread : Program.read k t with
      | ok p => exact ⟨_, brings_file hfile hread⟩
      | error f =>
        refine ⟨.error f, brings_error ?_⟩
        rintro b v rfl hv rfl
        have hprogram : (Work.readProgram t).run b = (.error f, b) := by
          rw [Work.readProgram, Work.run_alter, hv, Altered.run_readText, Variant.readText, hread,
            Except.map, Altered.settled, ← hv]
        rw [load, Work.loadSource, run_bind_of_ok (Work.run_callable hv _),
          run_bind_of_ok (Work.run_onMachine_of_ok hfile), run_bind_of_error hprogram]
  | snapshot path =>
    obtain ⟨answer, hanswer⟩ := Host.looksOnly_readRecord path
    have hread := hanswer m
    cases hm : answer m.files m.directory with
    | error f =>
      rw [hm] at hread
      refine ⟨.error f, brings_error ?_⟩
      rintro b v rfl hv -
      rw [load, Work.loadSnapshot, run_bind_of_ok (Work.run_callable hv _),
        run_bind_of_error (Work.run_onMachine_of_error hread)]
    | ok r =>
      rw [hm] at hread
      obtain ⟨a, ha, rfl⟩ := hx r (by rw [hread])
      obtain ⟨w, rfl, -⟩ := ha.exists_variant
      exact ⟨_, brings_snapshot (w := w.forget) hread⟩

end Loading

/-- Nothing of what was at hand outlives the loading of another program, except for its suffix.
Let a variant have been built in any way, by loading, weighing, editing and compiling. A text, a
file, or a snapshot of another one that was built is loaded on its bench if and only if it is loaded
on a bench with a variant without atoms, and a failure is the same. The two variants that come of it
agree in the program, the weights and the history, and have forgotten what was compiled. Their
suffixes agree if and only if one came along, or the variant before had that of its backend; where
one came along, or there was none to keep, they agree in everything. -/
theorem only_suffix_outlives_loading (b : Bench) (x : Loading) (hb : b.altered.Built)
    (hx : x.IsSaved b.machine) :
    ∃ v : Variant Float, b.altered = .ofVariant v ∧
      (x.load.run b).1 = (x.load.run { b with altered := .ofVariant (.empty v.backend) }).1 ∧
      ∀ b', x.load.run b = (.ok (), b') → ∃ w : Variant Float,
        x.load.run { b with altered := .ofVariant (.empty v.backend) }
          = (.ok (), { b' with altered := .ofVariant w }) ∧
        b'.altered = .ofVariant { w with ownSuffix := w.ownSuffix <|> v.ownSuffix } ∧
        w.compiled = none ∧
        (b'.altered.suffix = (Altered.ofVariant w).suffix ↔
          x.BringsSuffix b.machine ∨ v.suffix = v.backend.suffix) ∧
        (x.BringsSuffix b.machine ∨ v.ownSuffix = none → b'.altered = .ofVariant w) := by
  obtain ⟨v, hv, -⟩ := hb.exists_variant
  obtain ⟨r, hr⟩ := x.exists_brings v.backend hx
  have hrun := hr.run rfl hv rfl
  have hfresh := hr.run (b := { b with altered := .ofVariant (.empty v.backend) })
    (v := .empty v.backend) rfl rfl (by cases v.backend <;> rfl)
  refine ⟨v, hv, ?_, fun b' hb' => ?_⟩
  · rw [hrun, hfresh]
    cases r <;> rfl
  · cases r with
    | error f =>
      rw [hrun] at hb'
      cases hb'
    | ok w =>
      rw [Except.map, Altered.settled, Variant.keepingSuffix_empty] at hfresh
      obtain rfl : b' = { b with altered := .ofVariant (w.keepingSuffix v) } :=
        ((Prod.mk.inj (hrun.symm.trans hb')).2).symm
      have hsuffix : (Altered.ofVariant (w.keepingSuffix v)).suffix = (Altered.ofVariant w).suffix
          ↔ (w.keepingSuffix v).suffix = w.suffix := ⟨Value.str.inj, congrArg Value.str⟩
      obtain ⟨hbackend, hcompiled, hbrought⟩ := hr.brought w rfl
      refine ⟨w, hfresh, rfl, hcompiled, ?_, fun h => ?_⟩
      · rw [hsuffix, Variant.suffix_keepingSuffix_eq_iff hbackend, hbrought]
      · rw [← hbrought] at h
        exact congrArg Altered.ofVariant (Variant.keepingSuffix_eq_self h)

/-! ### A file with a suffix and one without -/

namespace Work

/-- A bench with the two files `p.s` and `q`, and a variant of lines without atoms. -/
def filesBench : Bench where
  machine :=
    let m := Host.Machine.ofDirectory [] "1"
    { m with files :=
        (m.files.set ["p.s"] (.file (.ofText "a\nb\n"))).set ["q"] (.file (.ofText "c\n")) }
  cache := none
  stats := .zero
  port := 0
  altered := .ofVariant (.empty .lines)

/-- Each of the two files is loaded in place of whatever lines are there. -/
lemma run_loadSource_filesBench (v : Variant Float) (hlines : v.backend = .lines) :
    (loadSource "p.s").run { filesBench with altered := .ofVariant v }
        = (.ok (), { filesBench with
          altered := .ofVariant { v.restart (.lines ["a", "b"]) with ownSuffix := some ".s" } }) ∧
      (loadSource "q").run { filesBench with altered := .ofVariant v }
        = (.ok (), { filesBench with altered := .ofVariant (v.restart (.lines ["c"])) }) := by
  have hp : filesBench.machine.HasText (Path.ofText "p.s").text "a\nb\n" := by
    rw [show (Path.ofText "p.s").text = "p.s" by decide +kernel]
    exact ⟨by decide, ["p.s"], Host.FileTree.find_eq_ok_iff.mpr
      ⟨Host.FileTree.locate_of_name (by decide) (by decide) (by decide +kernel) rfl, rfl⟩⟩
  have hq : filesBench.machine.HasText (Path.ofText "q").text "c\n" := by
    rw [show (Path.ofText "q").text = "q" by decide +kernel]
    exact ⟨by decide, ["q"], Host.FileTree.find_eq_ok_iff.mpr
      ⟨Host.FileTree.locate_of_name (by decide) (by decide) (by decide +kernel) rfl, rfl⟩⟩
  have hlines (s : String) : Program.read v.backend (Text.asRead s)
      = .ok (.lines (Program.Lines.ofText (Text.asRead s))) := by
    rw [hlines, Program.read]
  let b : Bench := { filesBench with altered := .ofVariant v }
  have hpath : (Path.ofText "p.s").suffix = ".s" ∧ (Path.ofText "q").suffix = "" := by
    decide +kernel
  have hread : Program.Lines.ofText (Text.asRead "a\nb\n") = ["a", "b"] ∧
      Program.Lines.ofText (Text.asRead "c\n") = ["c"] := by
    decide +kernel
  constructor
  · have hload := run_loadSource (b := b) rfl hp (hlines _)
    rw [hread.1, Variant.named, hpath.1] at hload
    exact hload
  · have hload := run_loadSource (b := b) rfl hq (hlines _)
    rw [hread.2, Variant.named, hpath.2] at hload
    exact hload

end Work

/-- The file without a suffix is loaded in place of an edited program from the other one. -/
theorem only_suffix_outlives_loading_files :
    ∃ (b b' : Bench) (v w : Variant Float), b.altered = .ofVariant v ∧ v.history = [.delete 1] ∧
      (Work.loadSource "q").run b = (.ok (), b') ∧
      (Work.loadSource "q").run { b with altered := .ofVariant (.empty .lines) }
        = (.ok (), { b' with altered := .ofVariant w }) ∧
      b'.altered = .ofVariant { w with ownSuffix := some ".s" } ∧
      w.program = .lines ["c"] ∧ w.history = [] ∧ w.localization = ∅ ∧ w.ownSuffix = none := by
  let steps : List Making := [.read "a\nb\n", .named ".s", .weighed ⟨[(2, 0.5)]⟩,
    .attempt (.delete (.int 1)), .compiled ⟨"d", true, .ofText "/s", none⟩]
  let a := steps.foldl (fun a x => ((x.make 0.25).run a).2) (Altered.ofVariant (.empty .lines))
  have hsuffix : (Making.named ".s").ComesWithFile := ⟨by decide, "p.s", by decide +kernel⟩
  have hbuilt : a.Built :=
    (((((Altered.Built.fresh .lines).made (.read "a\nb\n") trivial).made (.named ".s") hsuffix).made
      (.weighed ⟨[(2, 0.5)]⟩) trivial).made (.attempt (.delete (.int 1))) trivial).made
      (.compiled ⟨"d", true, .ofText "/s", none⟩) trivial
  let b : Bench := { Work.filesBench with altered := a }
  obtain ⟨v, hv, -, hloads⟩ := only_suffix_outlives_loading b (.file "q") hbuilt trivial
  have hlines : v.backend = .lines := congrArg (·.variant.backend) hv.symm
  have hown : v.ownSuffix = some ".s" := congrArg (·.variant.ownSuffix) hv.symm
  obtain ⟨-, hload⟩ := Work.run_loadSource_filesBench v hlines
  rw [← hv] at hload
  obtain ⟨w, hfresh, hkept, -⟩ := hloads _ hload
  rw [hlines] at hfresh
  obtain ⟨-, hempty⟩ := Work.run_loadSource_filesBench (.empty .lines) rfl
  obtain rfl : (Variant.empty .lines).restart (.lines ["c"]) = w :=
    congrArg (·.altered.variant) (eq_of_run_eq_ok hempty hfresh).2
  exact ⟨b, _, v, _, hv, congrArg (·.variant.history) hv.symm, hload, hfresh,
    by rw [← hown]; exact hkept, rfl, rfl, rfl, rfl⟩

/-- The file with the suffix is loaded and then the other one: the sources of this go on having the
suffix of the first, and have none if it is loaded alone. -/
theorem suffix_outlives_program :
    ∃ b b' fresh : Bench, (Work.loadSource "p.s").run Work.filesBench = (.ok (), b) ∧
      (Work.loadSource "q").run b = (.ok (), b') ∧
      (Work.loadSource "q").run Work.filesBench = (.ok (), fresh) ∧
      b'.altered.text = .ok "c\n" ∧ fresh.altered.text = .ok "c\n" ∧
      b'.altered.suffix = .str ".s" ∧ fresh.altered.suffix = .str "" := by
  obtain ⟨hp, hq⟩ := Work.run_loadSource_filesBench (.empty .lines) rfl
  obtain ⟨-, hagain⟩ := Work.run_loadSource_filesBench
    { (Variant.empty .lines).restart (.lines ["a", "b"]) with ownSuffix := some ".s" } rfl
  exact ⟨_, _, _, hp, hagain, hq, rfl, rfl, rfl, rfl⟩

end VariantRepair
