import Mathlib.Tactic.Common
import VariantRepair.Proofs.CommandLine.Settings
import VariantRepair.Proofs.CommandLine.Words
import VariantRepair.Proofs.Config.Assignments
import VariantRepair.Proofs.Config.Overlay
import VariantRepair.Proofs.Host.Texts

/-!
# Which setting counts

A field of the configuration is set by the command line, by the data file, by the environment, or by
none of them. The first of these that has a setting for the field decides: the field holds what this
setting is converted to, whatever the others say.
-/

namespace VariantRepair

open Host

/-! ### Entries of data files -/

/-- The entries of a value: those of its section, if that is a mapping, and else its own, if it is a
mapping itself. -/
inductive Config.EntriesOf : Value → List (Value × Value) → Prop
  | inSection {pairs entries : List (Value × Value)}
      (h : Value.field sectionName pairs = some (.map entries)) : EntriesOf (.map pairs) entries
  | whole {pairs : List (Value × Value)}
      (h : ∀ entries, Value.field sectionName pairs ≠ some (.map entries)) :
      EntriesOf (.map pairs) pairs
  | other {v : Value} (h : ∀ pairs, v ≠ .map pairs) : EntriesOf v []

lemma Config.entriesOf_settingsOf (v : Value) : EntriesOf v (settingsOf v) := by
  cases v with
  | map pairs =>
    rw [settingsOf]
    split
    next entries h => exact .inSection h
    next h => exact .whole h
  | _ => exact .other fun _ h => Value.noConfusion h

/-- The entries of a document, in which a collection may be a part of itself: those of its section,
if that is a mapping, and else its own, if it is a mapping itself. -/
inductive Yaml.EntriesOf (cells : Array Cell) : Option Object → List (Key × Object) → Prop
  | inSection {root : Object} {pairs entries : List (Key × Object)} {p : Key × Object}
      (hroot : mapOf? cells root = some pairs)
      (hp : pairs.find? (fun p => p.1.value == .str Config.sectionName) = some p)
      (h : mapOf? cells p.2 = some entries) : EntriesOf cells (some root) entries
  | whole {root : Object} {pairs : List (Key × Object)} (hroot : mapOf? cells root = some pairs)
      (h : ∀ p, pairs.find? (fun p => p.1.value == .str Config.sectionName) = some p →
        mapOf? cells p.2 = none) : EntriesOf cells (some root) pairs
  | other {root : Object} (hroot : mapOf? cells root = none) : EntriesOf cells (some root) []
  | nothing : EntriesOf cells none []

lemma Yaml.entriesOf_section? (cells : Array Cell) (root : Option Object) :
    EntriesOf cells root ((root.bind (section? Config.sectionName cells)).getD []) := by
  cases root with
  | none => exact .nothing
  | some root =>
    rw [Option.bind_some, section?]
    cases hroot : mapOf? cells root with
    | none => exact .other hroot
    | some pairs =>
      simp only [bind, Option.bind_some, pure, Option.getD_some]
      cases hp : pairs.find? fun p => p.1.value == .str Config.sectionName with
      | none => exact .whole hroot fun p h => by simp [hp] at h
      | some p =>
        rw [Option.bind_some]
        cases hsection : mapOf? cells p.2 with
        | none =>
          refine .whole hroot fun q h => ?_
          obtain rfl : p = q := Option.some.inj (hp.symm.trans h)
          exact hsection
        | some entries => exact .inSection hroot hp hsection

namespace CommandLine

variable {m m' : Machine}

/-- A variable that could be set is set, and nothing else is changed. -/
lemma eq_of_run_setVariable {n value : String} {u : Unit}
    (h : (setVariable n value).run m = (.ok u, m')) :
    m' = { m with environment := m.environment.set n value } := by
  obtain ⟨⟨⟩, m₁, hname, hrest⟩ := exists_run_of_run_bind h
  obtain ⟨-, rfl⟩ := run_checkText_of_ok hname
  obtain ⟨⟨⟩, m₂, hvalue, hset⟩ := exists_run_of_run_bind hrest
  obtain ⟨-, rfl⟩ := run_checkText_of_ok hvalue
  cases hset
  rfl

/-- Assignments that could be made are made, and nothing else is changed. -/
lemma eq_of_run_assignments {override : Bool} {ps : List (String × String)} {u : PUnit}
    (h : (ps.forM fun (n, value) => do
      if override || ((← get).environment.lookup n).isNone then setVariable n value :
        Action PUnit).run m = (.ok u, m')) :
    m' = { m with environment := m.environment.assignAll override ps } := by
  induction ps generalizing m with
  | nil =>
    cases h
    rfl
  | cons p ps ih =>
    obtain ⟨⟨⟩, m₁, hfirst, hrest⟩ := exists_run_of_run_bind h
    rw [run_bind_of_ok (run_get m)] at hfirst
    have hm₁ : m₁ = { m with environment := m.environment.assign override p } := by
      rw [Config.Environment.assign]
      split_ifs at hfirst ⊢
      · exact eq_of_run_setVariable hfirst
      · cases hfirst
        rfl
    rw [ih hrest, hm₁]
    rfl

/-! ### The command line -/

/-- What the command line sets a field to: some switches set a field by being there, and the other
fields are given their values. -/
def Options.flag? (o : Options) : Field → Option Value
  | .useCache => if o.noCache then some (.bool false) else none
  | .keepSource => if o.keepSource then some (.bool true) else none
  | .progress => if o.noProgress then some (.bool false) else none
  | f => (o.settings f).map fun g => g.toValue f.kind.toValue

/-- The fields that the command line can set, in the order in which they are taken. -/
def flagFields : List Field :=
  settingFields ++ [.useCache, .keepSource, .progress]

lemma flag?_of_mem_settingFields (o : Options) {f : Field} (h : f ∈ settingFields) :
    o.flag? f = (o.settings f).map fun g => g.toValue f.kind.toValue := by
  cases f
  case useCache | keepSource | progress => exact absurd h (by decide)
  all_goals rfl

lemma flag?_ne_null (o : Options) (f : Field) : o.flag? f ≠ some .null := by
  have hvalue (g : Given f.Carrier) : g.toValue f.kind.toValue ≠ .null := by
    cases g with
    | value a => cases f <;> exact fun h => Value.noConfusion h
    | nothing => exact fun h => Value.noConfusion h
  have hset : (o.settings f).map (fun g => g.toValue f.kind.toValue) ≠ some .null := by
    intro h
    obtain ⟨g, -, hg⟩ := Option.map_eq_some_iff.mp h
    exact hvalue g hg
  cases f
  case useCache | keepSource | progress =>
    rw [Options.flag?]
    split_ifs <;> simp
  all_goals exact hset

lemma overrides_eq (o : Options) :
    o.overrides = flagFields.filterMap fun f => (o.flag? f).map fun v => (.str f.name, v) := by
  have hsettings : (settingFields.filterMap fun f => (o.flag? f).map fun v =>
      ((.str f.name, v) : Value × Value)) = settingFields.filterMap fun f =>
        (o.settings f).map fun g => (.str f.name, g.toValue f.kind.toValue) := by
    refine List.filterMap_congr fun f hf => ?_
    rw [flag?_of_mem_settingFields o hf, Option.map_map]
    rfl
  rw [flagFields, List.filterMap_append, hsettings, Options.overrides, List.append_assoc,
    List.append_assoc]
  congr 1
  simp only [List.filterMap_cons, List.filterMap_nil, Options.flag?]
  cases o.noCache <;> cases o.keepSource <;> cases o.noProgress <;> rfl

/-- The settings of a command line are what it sets the fields to. -/
lemma lastSetting?_overrides {o : Options} (ho : o.Listed) (f : Field) :
    Config.lastSetting? f o.overrides = o.flag? f := by
  rw [overrides_eq, Config.lastSetting?_filterMap (by decide) (flag?_ne_null o)]
  split_ifs with hmem
  · rfl
  · have hnone : o.settings f = none :=
      Option.not_isSome_iff_eq_none.mp fun h => hmem (List.mem_append_left _ (ho f h))
    cases f
    case useCache | keepSource | progress => exact absurd (by decide) hmem
    all_goals
      change none = Option.map _ (o.settings _)
      rw [hnone]
      rfl

/-! ### Where settings come from -/

/-- The assignments in the file that the command line names for them. -/
inductive FileAssignments (o : Options) (m : Machine) : List (String × String) → Prop
  | unnamed (h : o.envFile.text = "") : FileAssignments o m []
  | missing (h : o.envFile.text ≠ "")
      (hfile : (isFile (Path.ofText o.envFile.text).text).run m = (.ok false, m)) :
      FileAssignments o m []
  | read {text : String} (h : o.envFile.text ≠ "")
      (hfile : (isFile (Path.ofText o.envFile.text).text).run m = (.ok true, m))
      (hread : (readText (Path.ofText o.envFile.text).text).run m = (.ok text, m)) :
      FileAssignments o m (Config.assignments text)

/-- The entries in the data file that the command line names; the one that is meant where it names
none may be missing. -/
inductive FileEntries (o : Options) (m : Machine) : List (Value × Value) → Prop
  | ignored (h : o.noConfig = true) : FileEntries o m []
  | unnamed (h : o.noConfig = false) (hpath : o.config.text = "") : FileEntries o m []
  | missing (h : o.noConfig = false) (hpath : o.config.text = defaultConfigPath)
      (hfile : (fileExists (Path.ofText o.config.text).text).run m = (.ok false, m)) :
      FileEntries o m []
  | json {text : String} {v : Value} {entries : List (Value × Value)} (h : o.noConfig = false)
      (hpath : o.config.text ≠ "")
      (hname : Config.isJsonName (Path.ofText o.config.text).suffix = true)
      (hread : (readText (Path.ofText o.config.text).text).run m = (.ok text, m))
      (hparse : Json.parse text = .ok v) (hentries : Config.EntriesOf v entries) :
      FileEntries o m entries
  | yaml {text : String} {root : Option Yaml.Object} {cells : Array Yaml.Cell}
      {pairs : List (Yaml.Key × Yaml.Object)} (h : o.noConfig = false)
      (hpath : o.config.text ≠ "")
      (hname : Config.isJsonName (Path.ofText o.config.text).suffix = false)
      (hread : (readText (Path.ofText o.config.text).text).run m = (.ok text, m))
      (hparse : Yaml.read text = .ok (root, cells)) (hentries : Yaml.EntriesOf cells root pairs) :
      FileEntries o m (pairs.map fun p => (p.1.value, Yaml.valueOf cells p.2))

section Steps

variable {o : Options} {c c' : Config} {settings : List (Value × Value)}

lemma of_run_loadEnvironment {answer : Bool}
    (h : (loadEnvironment o.envFile.text false).run m = (.ok answer, m')) :
    ∃ assignments, FileAssignments o m assignments ∧
      ∀ name, m'.environment.lookup name
        = (m.environment.lookup name).or (assignments.lookup name) := by
  have hnone (name : String) : m.environment.lookup name
      = (m.environment.lookup name).or (([] : Config.Environment).lookup name) := by
    rw [List.lookup_nil, Option.or_none]
  obtain ⟨isThere, m₁, hfile, hrest⟩ := exists_run_of_run_bind h
  obtain rfl := run_eq_of_preserves (fun _ => preserves_isFile _) hfile
  by_cases hpath : o.envFile.text = ""
  · rw [hpath] at hrest
    cases hrest
    exact ⟨[], .unnamed hpath, hnone⟩
  · have hisEmpty : o.envFile.text.isEmpty = false := by
      rw [Bool.eq_false_iff, ne_eq, String.isEmpty_iff]
      exact hpath
    rw [hisEmpty, Bool.false_or] at hrest
    cases isThere with
    | false =>
      cases hrest
      exact ⟨[], .missing hpath hfile, hnone⟩
    | true =>
      rw [if_neg (by simp)] at hrest
      obtain ⟨text, m₂, hread, hassignAll⟩ := exists_run_of_run_bind hrest
      obtain rfl := run_eq_of_preserves (fun _ => preserves_readText _) hread
      obtain ⟨u, m₃, hassign, hanswer⟩ := exists_run_of_run_bind hassignAll
      obtain ⟨-, rfl⟩ := Prod.mk.inj hanswer
      refine ⟨_, .read hpath hfile hread, fun name => ?_⟩
      rw [eq_of_run_assignments hassign, Config.Environment.lookup_assignAll_false]

lemma takes_of_run_overlay (h : (overlay c settings).run m = (.ok c', m')) (f : Field) :
    Config.Takes f (Config.lastSetting? f settings) (c f) (c' f) := by
  obtain ⟨warnings, hfrom, -⟩ := exists_of_run_overlay h
  exact Config.takes_overlayFrom hfrom f

lemma eq_ok_of_mapError_eq_ok {ε ε' α : Type} {r : Except ε α} {f : ε → ε'} {a : α}
    (h : r.mapError f = .ok a) : r = .ok a := by
  cases r with
  | error e => cases h
  | ok b =>
    cases h
    rfl

lemma fileEntries_of_settingsOfText {entries : List (Value × Value)} {text : String}
    (hnoConfig : o.noConfig = false) (hpath : o.config.text ≠ "")
    (hread : (readText (Path.ofText o.config.text).text).run m = (.ok text, m))
    (h : Config.settingsOfText (Config.isJsonName (Path.ofText o.config.text).suffix) text
      = .ok entries) : FileEntries o m entries := by
  rw [Config.settingsOfText] at h
  split_ifs at h with hname
  · obtain ⟨v, hparse, rfl⟩ := exists_of_map_eq_ok h
    exact .json hnoConfig hpath hname hread (eq_ok_of_mapError_eq_ok hparse)
      (Config.entriesOf_settingsOf v)
  · have hyaml := eq_ok_of_mapError_eq_ok h
    rw [Yaml.settings] at hyaml
    cases hparse : Yaml.read text with
    | error e =>
      rw [hparse] at hyaml
      cases hyaml
    | ok document =>
      rw [hparse] at hyaml
      obtain rfl := Except.ok.inj hyaml
      exact .yaml hnoConfig hpath (by simpa using hname) hread hparse
        (Yaml.entriesOf_section? document.2 document.1)

lemma fileEntries_of_run {entries : List (Value × Value)} {m₀ : Machine}
    (hm : m₀.SameFiles m) (hnoConfig : o.noConfig = false)
    (h : (fileSettings o.config.text (o.config.text == defaultConfigPath)).run m
      = (.ok entries, m')) : FileEntries o m₀ entries := by
  rw [fileSettings] at h
  by_cases hpath : o.config.text = ""
  · rw [if_pos (String.isEmpty_iff.mpr hpath)] at h
    cases h
    exact .unnamed hnoConfig hpath
  · rw [if_neg fun h => hpath (String.isEmpty_iff.mp h)] at h
    obtain ⟨isThere, m₁, hexists, hrest⟩ := exists_run_of_run_bind h
    obtain ⟨hexists₀, rfl⟩ := (looksOnly_fileExists _).run_of_run hm.files hm.directory hexists
    cases isThere with
    | false =>
      rw [if_pos (by simp)] at hrest
      split_ifs at hrest with hdefault
      · cases hrest
        exact .missing hnoConfig (beq_iff_eq.mp hdefault) hexists₀
      · cases hrest
    | true =>
      rw [if_neg (by simp)] at hrest
      obtain ⟨text, m₂, hread, hsettings⟩ := exists_run_of_run_bind hrest
      obtain ⟨hread₀, rfl⟩ := (looksOnly_readText _).run_of_run hm.files hm.directory hread
      split at hsettings
      next settings htext =>
        cases hsettings
        exact fileEntries_of_settingsOfText hnoConfig hpath hread₀ htext
      next => cases hsettings

/-- The settings of a data file that can be read. -/
lemma run_fileSettings_of_read {path text : String} (hpath : path ≠ "")
    (hfile : (fileExists (Path.ofText path).text).run m = (.ok true, m))
    (hread : (readText (Path.ofText path).text).run m = (.ok text, m)) (mayBeMissing : Bool) :
    (fileSettings path mayBeMissing).run m
      = (Config.settingsOfText (Config.isJsonName (Path.ofText path).suffix) text, m) := by
  rw [fileSettings, if_neg fun h => hpath (String.isEmpty_iff.mp h), run_bind_of_ok hfile,
    if_neg (by simp), run_bind_of_ok hread]
  cases Config.settingsOfText (Config.isJsonName (Path.ofText path).suffix) text <;> rfl

end Steps

end CommandLine

end VariantRepair
