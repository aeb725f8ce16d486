import VariantRepair.Proofs.CommandLine.Archived
import VariantRepair.Proofs.CommandLine.Precedence
import VariantRepair.Proofs.Config.Layers

/-!
# The seed of a run

The configuration of a run is made of three layers: variables, the entries of a data file, and the
command line. The seed, like every whole number in these, goes by way of a double: random edits are
drawn with the integer that the given seed is rounded to.
-/

namespace VariantRepair.CommandLine

open Host Number

variable {o : Options} {c c' : Config} {m m' : Machine} {settings : List (Value × Value)}

/-! ### The layers of a run -/

/-- The layers that the configuration of a run is made of, and where they come from. -/
structure Layers (o : Options) (m : Machine) (c : Config) where
  assignments : Config.Environment
  environment : Config.Environment
  entries : List (Value × Value)
  fromEnvironment : Config
  fromEntries : Config
  assigns : FileAssignments o m assignments
  lookup_eq : ∀ name,
    environment.lookup name = (m.environment.lookup name).or (assignments.lookup name)
  reads : FileEntries o m entries
  takesEnvironment :
    (Config.default.overlay (Config.settingsOfEnvironment environment)).2 = .ok fromEnvironment
  takesEntries : (fromEnvironment.overlay entries).2 = .ok fromEntries
  takesOptions : (fromEntries.overlay o.overrides).2 = .ok c

lemma overlay_of_run (h : (overlay c settings).run m = (.ok c', m')) :
    (c.overlay settings).2 = .ok c' := by
  obtain ⟨warnings, hfrom, hcheck⟩ := exists_of_run_overlay h
  exact Config.overlay_eq_ok (congrArg (·.2) hfrom) hcheck

/-- A configuration that is worked out is made of its layers. -/
lemma nonempty_layers (h : (CommandLine.resolve o).run m = (.ok c, m')) :
    Nonempty (Layers o m c) := by
  obtain ⟨answer, m₁, hload, h⟩ := exists_run_of_run_bind h
  obtain ⟨assignments, hassigns, hlookup⟩ := of_run_loadEnvironment hload
  have hm₁ : m.SameFiles m₁ := (sameFiles_loadEnvironment _ _).of_run (.refl m) hload
  obtain ⟨c₁, m₂, hvariables, h⟩ := exists_run_of_run_bind h
  rw [environmentConfig, run_bind_of_ok (run_get m₁)] at hvariables
  have hm₂ : m.SameFiles m₂ := (sameFiles_overlay _ _).of_run hm₁ hvariables
  obtain ⟨entries, m₃, hreads, h⟩ : ∃ entries m₃, FileEntries o m entries ∧ (do
      let c ← overlay c₁ entries
      overlay c o.overrides : Action Config).run m₃ = (.ok c, m') := by
    cases hnoConfig : o.noConfig with
    | true =>
      rw [hnoConfig, if_pos rfl] at h
      exact ⟨[], m₂, .ignored hnoConfig, h⟩
    | false =>
      rw [hnoConfig, if_neg Bool.false_ne_true] at h
      obtain ⟨entries, m₃, hread, h⟩ := exists_run_of_run_bind h
      exact ⟨entries, m₃, fileEntries_of_run hm₂ hnoConfig hread, h⟩
  obtain ⟨c₂, m₄, hentries, hoptions⟩ := exists_run_of_run_bind h
  exact ⟨⟨assignments, m₁.environment, entries, c₁, c₂, hassigns, hlookup, hreads,
    overlay_of_run hvariables, overlay_of_run hentries, overlay_of_run hoptions⟩⟩

namespace Layers

/-- The first setting for a field: what the command line sets it to, or else what the last entry for
it has that is not null, or else what the first of its variables has that is not empty. -/
def setting? (l : Layers o m c) (f : Field) : Option Value :=
  (o.flag? f).or ((Config.lastSetting? f l.entries).or
    ((Config.fromVariables? l.environment f).map .str))

lemma layered (l : Layers o m c) :
    Config.Layered [Config.settingsOfEnvironment l.environment, l.entries, o.overrides] c :=
  ((Config.Layered.default.overlay l.takesEnvironment).overlay l.takesEntries).overlay
    l.takesOptions

/-- Each field holds what its first setting is converted to. -/
lemma takes (l : Layers o m c) (hlisted : o.Listed) (f : Field) :
    Config.Takes f (l.setting? f) (Config.default f) (c f) := by
  have htakes := l.layered.takes f
  rw [List.flatten_cons, List.flatten_cons, List.flatten_singleton, Config.lastSetting?_append,
    Config.lastSetting?_append, lastSetting?_overrides hlisted,
    Config.lastSetting?_settingsOfEnvironment, Option.or_assoc] at htakes
  exact htakes

end Layers

/-- A field for a whole number that is set to an integer holds what the integer is rounded to; an
integer that is not rounded to a double is not taken. So it holds the integer itself if and only if
that is a double, and all integers up to two to the fifty-third are. In a run this goes for the
seed: where the first setting for it, on the command line, in the data file or in the environment,
is an integer, random edits are drawn with what the integer is rounded to. A configuration within
its bounds comes back from its mapping if and only if each integer in it is a double. -/
theorem whole_settings_are_rounded (n : Int) (c : Config) :
    (∀ (c' : Config) (settings : List (Value × Value)) (f : Field) (raw : Value),
      f.kind = .whole → Config.lastSetting? f settings = some raw → raw.Spells n →
      (c.overlay settings).2 = .ok c' →
        InRange n ∧ f.kind.toValue (c' f) = .int (roundWhole n)) ∧
    (InRange n ∧ roundWhole n = n ↔ IsDouble n) ∧
    twoTo 53 * (roundWhole n - n).natAbs ≤ n.natAbs ∧ (n.natAbs ≤ twoTo 53 → IsDouble n) ∧
    (∀ (words : List String) (o : Options) (m m' : Machine),
      CommandLine.read words = .ok (.run o) → (CommandLine.resolve o).run m = (.ok c, m') →
        Nonempty (Layers o m c) ∧ ∀ (l : Layers o m c) (raw : Value),
          l.setting? .seed = some raw → raw.Spells n →
            c.seed = roundWhole n ∧
            ∀ b b' : Bench, (vary o c).run b = (.ok (), b') →
              ∃ (v : Varies o c b.altered b'.altered) (g : Chance.Twister),
                Altered.drawEdits Chance.Twister.dice c.untouchedWeight
                  (c.deleteProbability, c.appendProbability, c.swapProbability) v.count v.edited
                  (Chance.Twister.ofSeed (roundWhole n)) = (v.drawn, none, b'.altered, g)) ∧
    (c.check = .ok c → ∀ base : Config, (base.overlay c.toMap).2 = .ok c
      ↔ ∀ (f : Field) (k : Int), f.kind.toValue (c f) = .int k → IsDouble k) := by
  refine ⟨fun c' settings f raw hf hlast hraw htaken => ?fields, isDouble_iff.symm,
    dist_roundWhole_le n, isDouble_of_le,
    fun words o m m' hwords hrun => ⟨nonempty_layers hrun, fun l raw hsetting hraw => ?seed⟩,
    fun hc base => Config.overlay_toMap_iff hc base⟩
  case fields =>
    have htakes := (Config.of_overlay_eq_ok htaken).2 f
    rw [hlast] at htakes
    exact htakes.rounded hf hraw
  case seed =>
    have htakes := l.takes (listed_of_read hwords) .seed
    rw [hsetting] at htakes
    have hseed : c.seed = roundWhole n := Value.int.inj (htakes.rounded rfl hraw).2
    refine ⟨hseed, fun b b' hvary => ?_⟩
    obtain ⟨v⟩ := nonempty_varies hvary
    obtain ⟨g, hdraws⟩ := v.draws
    rw [hseed] at hdraws
    exact ⟨v, g, hdraws⟩

/-- The least positive integer that is no double is set as the seed: on the command line, as a text
in a mapping, and in a configuration that is written as a mapping. -/
theorem whole_settings_are_rounded_above_doubles :
    (∃ c' : Config,
      (Config.default.overlay [(.str "seed", .str (toString 9007199254740993))]).2 = .ok c' ∧
      c'.seed = 9007199254740992) ∧
    (∃ (o : Options) (m m' : Machine) (c : Config) (b b' : Bench) (g : Chance.Twister)
        (v : Varies o c b.altered b'.altered),
      CommandLine.read ["--no-config", "--seed", "9007199254740993"] = .ok (.run o) ∧
      (CommandLine.resolve o).run m = (.ok c, m') ∧ c.seed = 9007199254740992 ∧
      (vary o c).run b = (.ok (), b') ∧
      Altered.drawEdits Chance.Twister.dice c.untouchedWeight
        (c.deleteProbability, c.appendProbability, c.swapProbability) v.count v.edited
        (Chance.Twister.ofSeed 9007199254740992) = (v.drawn, none, b'.altered, g)) ∧
    ∃ c : Config, c.check = .ok c ∧ c.seed = 9007199254740993 ∧
      (Config.default.overlay c.toMap).2 ≠ .ok c := by
  have hround : roundWhole 9007199254740993 = 9007199254740992 := by decide
  refine ⟨?text, ?run, ?mapping⟩
  case text =>
    have htaken : (Config.default.overlay [(.str "seed", .str (toString 9007199254740993))]).2
        = .ok (Config.default.set .seed 9007199254740992) :=
      Config.overlay_eq_ok rfl (Config.check_eq_ok (by decide))
    obtain ⟨hfields, -⟩ := whole_settings_are_rounded 9007199254740993 Config.default
    obtain ⟨-, hstored⟩ := hfields _ _ .seed _ rfl rfl .digits htaken
    exact ⟨_, htaken, Value.int.inj (hstored.trans (congrArg Value.int hround))⟩
  case run =>
    let o : Options :=
      { Options.default.setField .seed (.value 9007199254740993) with noConfig := true }
    let m : Machine := Machine.ofDirectory [] "1"
    let b : Bench := OneLine.bench (.empty .lines) ""
    have hread : CommandLine.read ["--no-config", "--seed", "9007199254740993"]
        = .ok (.run o) := by
      let classified : List Word := [.option (.switch .noConfig) none,
        .option (.slot (.field .seed)) none, .plain "9007199254740993"]
      have hwords : classifyAll ["--no-config", "--seed", "9007199254740993"]
          = .ok classified := by
        decide +kernel
      calc CommandLine.read ["--no-config", "--seed", "9007199254740993"]
        _ = take .default [] classified := by
          rw [CommandLine.read, hwords]
          rfl
        _ = take { Options.default with noConfig := true } [] (classified.drop 1) :=
          take_switch (by decide)
        _ = take o [] [] := take_slot rfl
        _ = .ok (.run o) := take_nil
    have hlocate : m.files.locate m.directory (Path.ofText o.envFile.text).text
        = .ok [".env"] := by
      decide +kernel
    have hresolve : (CommandLine.resolve o).run m
        = (.ok (Config.default.set .seed 9007199254740992), m) := by
      rw [run_resolve rfl (run_isFile_of_none (run_look_of_none hlocate rfl)) rfl
        (show Config.default.overlayFrom o.overrides
          = ([], .ok (Config.default.set .seed 9007199254740992)) from rfl),
        Config.check_eq_ok (by decide)]
    have hvary : (vary o (Config.default.set .seed 9007199254740992)).run b = (.ok (), b) := rfl
    obtain ⟨-, -, -, -, hseed, -⟩ := whole_settings_are_rounded 9007199254740993
      (Config.default.set .seed 9007199254740992)
    obtain ⟨⟨l⟩, hl⟩ := hseed _ o m m hread hresolve
    obtain ⟨hstored, hdraws⟩ := hl l _ rfl .int
    obtain ⟨v, g, hdraw⟩ := hdraws b b hvary
    rw [hround] at hstored hdraw
    exact ⟨o, m, m, _, b, b, g, v, hread, hresolve, hstored, hvary, hdraw⟩
  case mapping =>
    have hcheck : (Config.default.set .seed 9007199254740993).check = .ok _ :=
      Config.check_eq_ok (by decide)
    refine ⟨_, hcheck, rfl, fun hback => ?_⟩
    obtain ⟨-, -, -, -, -, hmapping⟩ := whole_settings_are_rounded 9007199254740993
      (Config.default.set .seed 9007199254740993)
    obtain ⟨-, hself⟩ := isDouble_iff.mp ((hmapping hcheck _).mp hback .seed _ rfl)
    exact absurd (hround.symm.trans hself) (by decide)

/-- A seed is not stored as it is given. -/
theorem seed_is_not_stored :
    ∃ c : Config, (Config.default.overlay [(.str "seed", .int 9007199254740993)]).2 = .ok c ∧
      c.seed ≠ 9007199254740993 :=
  ⟨Config.default.set .seed 9007199254740992, rfl, by decide⟩

end VariantRepair.CommandLine
