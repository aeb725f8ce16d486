import VariantRepair.Proofs.Archive
import VariantRepair.Proofs.Json.Written

/-!
# What is noted about a variant

The metadata of a variant are an object of JSON that names the digest and the source file. Saving
the variant again leaves both, unless the further pairs that are noted give them.
-/

namespace VariantRepair.Archive

variable {d file : String} {metadata named : List (Value × Value)} {note : Note}

/-- Metadata of a variant, with the digest and the source file that they name. -/
structure IsMeta (d file : String) (metadata : List (Value × Value)) : Prop where
  json : (Value.map metadata).IsJson
  sha : Value.field "sha" metadata = some (.str d)
  file : Value.field "file" metadata = some (.str file)

/-- Metadata stay so when another text is given a value. -/
lemma IsMeta.insertPair (h : IsMeta d file metadata) {key : String} (hsha : key ≠ "sha")
    (hfile : key ≠ "file") {v : Value} (hv : v.IsJson) :
    IsMeta d file (Value.insertPair metadata (.str key) v) where
  json := h.json.insertPair key hv
  sha := by rw [Value.field_insertPair, if_neg (Ne.symm hsha), h.sha]
  file := by rw [Value.field_insertPair, if_neg (Ne.symm hfile), h.file]

/-! ### Names -/

section Names

variable {name : String} {aliases v : Value}

lemma isJson_aliases (h : (Value.map metadata).IsJson) :
    ((Value.field "aliases" metadata).getD (.list [])).IsJson := by
  cases hfield : Value.field "aliases" metadata with
  | none => exact .list nofun
  | some v => exact h.field hfield

lemma isJson_addAlias (h : aliases.IsJson) (hv : addAlias name aliases = .ok v) : v.IsJson := by
  unfold addAlias at hv
  cases hfound : isAlias name aliases with
  | error e =>
    rw [hfound] at hv
    cases hv
  | ok found =>
    rw [hfound] at hv
    cases found with
    | true =>
      cases hv
      exact h
    | false =>
      cases aliases with
      | list items =>
        cases hv
        refine .list fun w hw => ?_
        rcases List.mem_append.mp hw with hw | hw
        · exact h.of_mem hw
        · obtain rfl := List.mem_singleton.mp hw
          exact .str name
      | _ => cases hv

/-- A name is that of the metadata, or it is among the aliases afterwards. -/
lemma noteName_cases (h : noteName metadata name = .ok named) :
    Value.field "name" metadata = some (.str name) ∧ named = metadata ∨
      Value.field "name" metadata ≠ some (.str name) ∧
        ∃ v, addAlias name ((Value.field "aliases" metadata).getD (.list [])) = .ok v ∧
          named = Value.insertPair metadata (.str "aliases") v := by
  have hsame : (Value.field "name" metadata == some (.str name)) = true
      ↔ Value.field "name" metadata = some (.str name) := by
    cases hfield : Value.field "name" metadata with
    | none => exact iff_of_false nofun nofun
    | some w =>
      rw [Option.some_beq_some, Value.beq_str_iff, Option.some.injEq]
  rw [noteName] at h
  split_ifs at h with hname
  · exact .inl ⟨hsame.mp hname, (Except.ok.inj h).symm⟩
  · refine .inr ⟨mt hsame.mpr hname, ?_⟩
    dsimp only at h
    cases hadd : addAlias name ((Value.field "aliases" metadata).getD (.list [])) with
    | error e =>
      rw [hadd] at h
      cases h
    | ok v =>
      rw [hadd] at h
      exact ⟨v, rfl, (Except.ok.inj h).symm⟩

lemma IsMeta.noteName (h : IsMeta d file metadata) (hnamed : noteName metadata name = .ok named) :
    IsMeta d file named := by
  rcases noteName_cases hnamed with ⟨-, rfl⟩ | ⟨-, v, hv, rfl⟩
  · exact h
  · exact h.insertPair (by decide) (by decide) (isJson_addAlias (isJson_aliases h.json) hv)

end Names

/-! ### Fitness -/

lemma exists_float_of_fitnessValue {v w : Value} (h : fitnessValue v = .ok w) :
    ∃ x, w = .float x := by
  rw [fitnessValue] at h
  cases hx : v.toFloat with
  | error e =>
    rw [hx] at h
    cases h
  | ok x =>
    rw [hx] at h
    exact ⟨x, (Except.ok.inj h).symm⟩

/-- The double that a note has as fitness, if it has any. -/
def Note.double? (note : Note) : Option Value :=
  note.fitness.bind fun v => (fitnessValue v).toOption

lemma mapM_fitnessValue {fitness : Option Value}
    (h : note.fitness.mapM fitnessValue = .ok fitness) :
    fitness = note.double? ∧ ∀ v ∈ fitness, v.IsJson := by
  rw [Note.double?]
  cases hfitness : note.fitness with
  | none =>
    rw [hfitness] at h
    cases h
    exact ⟨rfl, nofun⟩
  | some v =>
    rw [hfitness] at h
    cases hw : fitnessValue v with
    | error e =>
      simp [hw] at h
    | ok w =>
      obtain ⟨x, rfl⟩ := exists_float_of_fitnessValue hw
      obtain rfl : some (.float x) = fitness := by simpa [hw] using h
      refine ⟨by rw [Option.bind_some, hw]; rfl, ?_⟩
      rintro _ ⟨⟩
      exact .float x

/-- Metadata with a fitness, if one is noted. -/
def withFitness (metadata : List (Value × Value)) (fitness : Option Value) :
    List (Value × Value) :=
  match fitness with
  | some v => Value.insertPair metadata (.str "fitness") v
  | none => metadata

lemma IsMeta.withFitness (h : IsMeta d file metadata) {fitness : Option Value}
    (hfitness : ∀ v ∈ fitness, v.IsJson) : IsMeta d file (withFitness metadata fitness) := by
  cases fitness with
  | none => exact h
  | some v => exact h.insertPair (by decide) (by decide) (hfitness v rfl)

/-! ### Further pairs -/

lemma field_noteExtra {extra : List (Value × Value)} (h : (Value.map extra).IsJson)
    (metadata : List (Value × Value)) (key : String) :
    Value.field key (noteExtra metadata extra)
      = (Value.field key extra).or (Value.field key metadata) := by
  obtain ⟨hkeys, hnodup, -⟩ := Value.isJson_map_iff.mp h
  clear h
  rw [noteExtra]
  induction extra generalizing metadata with
  | nil => rfl
  | cons p extra ih =>
    obtain ⟨⟨s, hs⟩, hkeys⟩ := List.forall_mem_cons.mp hkeys
    rw [List.map_cons, List.nodup_cons, hs] at hnodup
    rw [List.foldl_cons, ih _ hkeys hnodup.2, hs, Value.field_insertPair, Value.field_cons, hs,
      Value.str_beq]
    by_cases hkey : key = s
    · subst hkey
      simp [Value.field_eq_none_iff.mpr hnodup.1]
    · simp [hkey, Ne.symm hkey]

lemma isJson_noteExtra {extra : List (Value × Value)} (h : (Value.map extra).IsJson)
    (hmeta : (Value.map metadata).IsJson) : (Value.map (noteExtra metadata extra)).IsJson := by
  obtain ⟨hkeys, -, hvalues⟩ := Value.isJson_map_iff.mp h
  clear h
  rw [noteExtra]
  induction extra generalizing metadata with
  | nil => exact hmeta
  | cons p extra ih =>
    obtain ⟨⟨s, hs⟩, hkeys⟩ := List.forall_mem_cons.mp hkeys
    obtain ⟨hp, hvalues⟩ := List.forall_mem_cons.mp hvalues
    rw [List.foldl_cons, hs]
    exact ih (hmeta.insertPair s hp) hkeys hvalues

/-- What can be noted besides: the pairs of an object of JSON that give neither the digest nor the
source file. -/
structure Note.IsFree (note : Note) : Prop where
  json : (Value.map note.extra).IsJson
  sha : Value.field "sha" note.extra = none
  file : Value.field "file" note.extra = none

lemma IsMeta.noteExtra (h : IsMeta d file metadata) (hnote : note.IsFree) :
    IsMeta d file (noteExtra metadata note.extra) where
  json := isJson_noteExtra hnote.json h.json
  sha := by rw [field_noteExtra hnote.json, hnote.sha, Option.none_or, h.sha]
  file := by rw [field_noteExtra hnote.json, hnote.file, Option.none_or, h.file]

/-! ### Saving once and again -/

/-- Metadata that take all that is noted. -/
lemma renote_eq_ok (h : renote metadata note = (named, none)) :
    ∃ renamed fitness, noteName metadata note.name = .ok renamed ∧
      note.fitness.mapM fitnessValue = .ok fitness ∧
      named = noteExtra (withFitness renamed fitness) note.extra := by
  rw [renote] at h
  split at h
  · cases h
  · next renamed hname =>
    split at h
    · cases h
    · next fitness hfitness =>
      refine ⟨renamed, fitness, hname, hfitness, ?_⟩
      rw [← (Prod.mk.inj h).1]
      cases fitness <;> rfl

/-- Metadata stay so when a variant is saved again, also where not all of the note is taken. -/
lemma IsMeta.renote (h : IsMeta d file metadata) (hnote : note.IsFree) :
    IsMeta d file (renote metadata note).1 := by
  rw [Archive.renote]
  split
  · exact h.insertPair (by decide) (by decide) (isJson_aliases h.json)
  · next renamed hname =>
    have hrenamed := h.noteName hname
    split
    · exact hrenamed
    · next fitness hfitness =>
      have hwith := hrenamed.withFitness (mapM_fitnessValue hfitness).2
      cases fitness <;> exact hwith.noteExtra hnote

/-- The edits that a name lists. -/
def editsOf (name : String) : List String :=
  if name = "original" then [] else Text.words name

/-- The metadata that a variant begins with. -/
def firstMeta (d file : String) (note : Note) : List (Value × Value) :=
  [(.str "sha", .str d), (.str "name", .str note.name),
   (.str "edits", .list ((editsOf note.name).map Value.str)),
   (.str "fitness", note.double?.getD .null), (.str "file", .str file)]

lemma newMeta_eq_ok (h : newMeta d file note = .ok metadata) :
    metadata = noteExtra (firstMeta d file note) note.extra ∧ (note.double?.getD .null).IsJson := by
  rw [newMeta] at h
  cases hfitness : note.fitness.mapM fitnessValue with
  | error e =>
    rw [hfitness] at h
    cases h
  | ok fitness =>
    obtain ⟨rfl, hjson⟩ := mapM_fitnessValue hfitness
    rw [hfitness] at h
    have hedits : (if note.name == "original" then [] else Text.words note.name)
        = editsOf note.name := by
      simp [editsOf]
    refine ⟨?_, ?_⟩
    · rw [firstMeta, ← hedits]
      exact (Except.ok.inj h).symm
    · cases hdouble : note.double? with
      | none => exact .null
      | some v => exact hjson v hdouble

lemma isMeta_newMeta (hnote : note.IsFree) (h : newMeta d file note = .ok metadata) :
    IsMeta d file metadata := by
  obtain ⟨rfl, hfitness⟩ := newMeta_eq_ok h
  refine IsMeta.noteExtra ⟨?_, by simp [firstMeta, Value.field_cons], by
    simp [firstMeta, Value.field_cons]⟩ hnote
  refine .map ?_ ?_ ?_
  · simp [firstMeta]
  · simp [firstMeta]
  · simp only [firstMeta, List.forall_mem_cons]
    refine ⟨.str d, .str _, .list fun v hv => ?_, hfitness, .str file, nofun⟩
    obtain ⟨s, -, rfl⟩ := List.mem_map.mp hv
    exact .str s

end VariantRepair.Archive
