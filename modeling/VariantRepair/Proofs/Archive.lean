import Mathlib.Tactic.Common
import VariantRepair.Archive
import VariantRepair.Proofs.Host.Kept
import VariantRepair.Proofs.Host.Reported

/-!
# The files of an archive

Saving a variant writes its source and its metadata, both under names that have the digest of the
source. A source that is noted under another name is only written where nothing is. A failure to do
so is reported, apart from metadata in which a new name has no place.
-/

namespace VariantRepair.Archive

open Host

variable {m₀ : Machine} {S : Place → Prop} {C : Content → Prop} {I : Machine → Prop} {a : Archive}

lemma preserves_readMeta? (path : String) : Preserves I (readMeta? path) := by
  rw [readMeta?]
  refine .bind (.tryCatch (.bind (preserves_readText _) fun text => ?_) fun f => ?_)
    fun early => ?_
  · split
    · exact .pure _
    · exact .bind (.throw _) fun _ => .pure _
  · split_ifs
    · exact .pure _
    · exact .bind (.throw _) fun _ => .pure _
  · cases early with
    | error r => exact .pure _
    | ok r => exact .pure _

lemma preserves_readAll (directory : Path) (index : List (String × List (Value × Value)))
    (names : List String) : Preserves I (readAll directory index names) := by
  induction names generalizing index with
  | nil => exact .pure _
  | cons name names ih => exact .bind (preserves_readMeta? _) fun _ => ih _

/-- Opening an archive makes its directory at most. -/
lemma keeps_open (directory suffix : String) : Preserves (m₀.Keeps S C) («open» directory suffix) :=
  .bind (keeps_needDirectories _) fun _ => .bind (preserves_listNames _) fun _ =>
    .bind (preserves_readAll _ _ _) fun _ => .pure _

lemma of_run_open {directory suffix : String} {m m' : Machine}
    (h : («open» directory suffix).run m = (.ok a, m')) :
    a.directory = .ofText directory ∧ a.suffix = suffix := by
  obtain ⟨⟨⟩, m₁, -, h⟩ := exists_run_of_run_bind h
  obtain ⟨names, m₂, -, h⟩ := exists_run_of_run_bind h
  obtain ⟨index, m₃, -, h⟩ := exists_run_of_run_bind h
  cases h
  exact ⟨rfl, rfl⟩

/-- A file that is only written where nothing is takes the place of no file. -/
lemma keeps_writeText_of_missing {α : Type} (path source : String) {rest : Action α}
    (hrest : Preserves (m₀.Keeps S C) rest) :
    Preserves (m₀.Keeps S C) (do
      if !(← fileExists path) then writeText path source
      rest) := by
  refine .bind_spec (preserves_fileExists path)
    (Q := fun found m => m₀.Keeps S C m ∧ (fileExists path).run m = (.ok found, m)) ?_ ?_
  · intro m found m' hm hrun
    obtain rfl := run_eq_of_preserves (fun I => preserves_fileExists path) hrun
    exact ⟨hm, hrun⟩
  · rintro found m ⟨hm, hrun⟩
    cases found with
    | true => exact hrest m hm
    | false =>
      exact Preserves.run_bind (keeps_run_writeContent_of_missing hm _ hrun) fun _ => hrest

/-- What is preserved by steps that may fail is preserved when something is made of their answer. -/
lemma run_answer {α β : Type} {I : Machine → Prop} {x : Action α} (hx : Preserves I x)
    {f : Except Failure α → StateM Machine β} (hf : ∀ r m, ((f r).run m).2 = m) (m : Machine)
    (hm : I m) : I ((x.run >>= f).run m).2 := by
  have hrun : ((x.run >>= f).run m).2 = (x.run m).2 := hf (x.run m).1 (x.run m).2
  rw [hrun]
  exact hx m hm

section Save

variable {source : String}
  (hmeta : ¬ S (FileTree.placeOf m₀.directory
    (a.directory.child (metaName (shortDigest source))).text))

include hmeta

lemma keeps_writeMeta (metadata : List (Value × Value)) :
    Preserves (m₀.Keeps S C) (a.writeMeta (shortDigest source) metadata) := by
  rw [writeMeta]
  exact .ite_bind (.throw _) fun _ => keeps_writeText hmeta _

/-- Saving a source writes its own files at most. -/
lemma keeps_save (note : Note)
    (hsource : ¬ S (FileTree.placeOf m₀.directory
      (a.directory.child (sourceName (shortDigest source) a.suffix)).text)) :
    ∀ m, m₀.Keeps S C m → m₀.Keeps S C ((a.save source "" note).run m).2 := by
  intro m hm
  rw [save]
  split
  · next metadata _ =>
    refine run_answer ?_ (fun r m => rfl) m hm
    let a' : Archive :=
      { a with index := insertMeta a.index (shortDigest source) (renote metadata note).1 }
    have hwrite : Preserves (m₀.Keeps S C) (do
        let path ← ofExcept (a'.sourcePath (shortDigest source) a.suffix (renote metadata note).1)
        if !(← fileExists path.text) then writeText path.text source
        a'.writeMeta (shortDigest source) (renote metadata note).1
        return shortDigest source) :=
      .bind (.ofExcept _) fun path => keeps_writeText_of_missing _ _
        (.bind (keeps_writeMeta (a := a') hmeta _) fun _ => .pure _)
    dsimp only
    split
    · exact .bind (.throw _) fun _ => hwrite
    · exact hwrite
  · refine run_answer ?_ (fun r m => ?_) m hm
    · refine .bind (keeps_writeText hsource _) fun _ => ?_
      split
      · exact .throw _
      · exact .bind (keeps_writeMeta hmeta _) fun _ => .pure _
    · cases r with
      | error f => rfl
      | ok metadata => rfl

end Save

/-! ### An archive without variants -/

section New

variable {m m₁ m' : Machine} {directory suffix source : String} {note : Note}
  {metadata : List (Value × Value)}

/-- An archive in an empty directory has no variants. -/
lemma run_open_of_empty {place : Place} (hnul : '\x00' ∉ (Path.ofText directory).text.toList)
    (hfind : m.files.find m.directory (Path.ofText directory).text = .ok (place, .directory))
    (hempty : m.files.names place = []) :
    («open» directory suffix).run m
      = (.ok { directory := .ofText directory, suffix := suffix, index := [] }, m) := by
  have hnames := run_listNames_of_find hnul hfind
  rw [hempty] at hnames
  rw [«open», run_bind_of_ok (run_needDirectories_of_find hnul hfind), run_bind_of_ok hnames]
  rfl

/-- What is made of the answer to steps that may fail. -/
lemma run_answer_of_run {α β : Type} {x : Action α} {r : Except Failure α}
    (h : x.run m = (r, m')) {f : Except Failure α → StateM Machine β} :
    (x.run >>= f).run m = (f r).run m' := by
  change (f (x.run m).1).run (x.run m).2 = _
  rw [h]

/-- A source that an archive does not have is saved with its metadata. -/
lemma run_save_of_new (hnew : a.index.lookup (shortDigest source) = none)
    (hmeta : newMeta (shortDigest source) (sourceName (shortDigest source) a.suffix) note
      = .ok metadata)
    (hsource : (writeText (a.directory.child (sourceName (shortDigest source) a.suffix)).text
      source).run m = (.ok (), m₁))
    (hwrite : (a.writeMeta (shortDigest source) metadata).run m₁ = (.ok (), m')) :
    (a.save source "" note).run m
      = (({ a with index := insertMeta a.index (shortDigest source) metadata },
        .ok (shortDigest source)), m') := by
  rw [save, hnew, if_pos (show "".isEmpty = true from rfl)]
  refine (run_answer_of_run (r := .ok metadata) ?_).trans rfl
  rw [run_bind_of_ok hsource, hmeta]
  dsimp only
  rw [run_bind_of_ok hwrite]
  rfl

end New

/-! ### Failures -/

section Reported

variable {E : Failure → Prop}

lemma reported_metadataOf? (text : String) : Reported E (metadataOf? text) := by
  rw [metadataOf?]
  split
  · exact .ok _
  · next e hmalformed he =>
    cases hparse : Json.parse text with
    | ok v =>
      rw [hparse] at he
      cases he
    | error e' =>
      rw [hparse] at he
      obtain rfl := Except.error.inj he
      cases e' <;> exact .error (.inl rfl)
  · next pairs _ =>
    have hwritten := Value.reported_written (E := E) ((Value.field "sha" pairs).getD (.str ""))
    split
    · next e he =>
      rw [he] at hwritten
      exact .error (hwritten _ rfl)
    · exact .ok _
  · exact .ok _

lemma tells_readMeta? (path : String) : Tells E (readMeta? path) := by
  rw [readMeta?]
  refine .bind (.tryCatch (.bind (faults_readText _).tells fun text => ?_) fun f hf => ?_)
    fun early => ?_
  · split
    · exact .pure _
    · next e he => exact .bind (.throw (reported_metadataOf? text e he)) fun _ => .pure _
  · split_ifs
    · exact .pure _
    · exact .bind (.throw hf) fun _ => .pure _
  · cases early with
    | error r => exact .pure _
    | ok r => exact .pure _

lemma tells_open (directory suffix : String) : Tells E («open» directory suffix) := by
  have hall (directory : Path) (index : List (String × List (Value × Value)))
      (names : List String) : Tells E (readAll directory index names) := by
    induction names generalizing index with
    | nil => exact .pure _
    | cons name names ih => exact .bind (tells_readMeta? _) fun _ => ih _
  exact .bind (faults_needDirectories _).tells fun _ => .bind (faults_listNames _).tells fun _ =>
    .bind (hall _ _ _) fun _ => .pure _

lemma tells_writeMeta (a : Archive) (digest : String) (metadata : List (Value × Value)) :
    Tells E (a.writeMeta digest metadata) := by
  rw [writeMeta]
  exact .ite_bind (.throw (.inl rfl)) fun _ => (faults_writeText _ _).tells

lemma reported_sourcePath (a : Archive) (digest suffix : String)
    (metadata : List (Value × Value)) : Reported E (a.sourcePath digest suffix metadata) := by
  have hwritten := Value.reported_written (E := E)
    ((Value.field "file" metadata).getD (.str (sourceName digest suffix)))
  rw [sourcePath]
  split
  · exact .ok _
  · next e he =>
    rw [he] at hwritten
    exact .error (hwritten _ rfl)

section Note

variable {note : Note} (hfitness : Reported E (note.fitness.mapM fitnessValue))

include hfitness

lemma reported_newMeta (digest file : String) : Reported E (newMeta digest file note) :=
  .bind hfitness fun _ _ => .ok _

lemma isReported_of_renote {metadata : List (Value × Value)}
    (hname : Reported E (noteName metadata note.name)) {f : Failure}
    (h : (renote metadata note).2 = some f) : f.isReported = true ∨ E f := by
  rw [renote] at h
  cases hnamed : noteName metadata note.name with
  | error e =>
    rw [hnamed] at h
    obtain rfl := Option.some.inj h
    exact hname e hnamed
  | ok named =>
    rw [hnamed] at h
    cases hvalue : note.fitness.mapM fitnessValue with
    | error e =>
      rw [hvalue] at h
      obtain rfl := Option.some.inj h
      exact hfitness e hvalue
    | ok fitness =>
      rw [hvalue] at h
      cases h

/-- Saving a source fails with what is reported, and where metadata do not take the name or the
fitness. -/
lemma reported_save {source : String}
    (hname : ∀ metadata, a.index.lookup (shortDigest source) = some metadata →
      Reported E (noteName metadata note.name)) (suffix : String) (m : Machine) :
    Reported E ((a.save source suffix note).run m).1.2 := by
  have hanswer {α β γ : Type} {x : Action α} (hx : Tells E x)
      {f : Except Failure α → StateM Machine (β × Except Failure γ)}
      (hf : ∀ r m, Reported E r → Reported E ((f r).run m).1.2) :
      Reported E ((x.run >>= f).run m).1.2 := hf _ _ (hx.reported m trivial)
  have hwrite (a : Archive) (digest suffix : String) (metadata : List (Value × Value)) :
      Tells E (do
        let path ← ofExcept (a.sourcePath digest suffix metadata)
        if !(← fileExists path.text) then writeText path.text source
        a.writeMeta digest metadata
        return digest) := by
    exact .bind (.ofExcept (reported_sourcePath _ _ _ _)) fun path =>
      .bind (faults_fileExists _).tells fun found => .ite_bind (faults_writeText _ _).tells fun _ =>
      .bind (tells_writeMeta _ _ _) fun _ => .pure _
  rw [save]
  split
  · next metadata hlookup =>
    refine hanswer ?_ fun r m hr => hr
    dsimp only
    split
    · next f hf =>
      have he := isReported_of_renote hfitness (hname metadata hlookup) hf
      exact .bind (.throw he) fun _ => hwrite _ _ _ _
    · exact hwrite _ _ _ _
  · refine hanswer ?_ fun r m hr => ?_
    · refine .bind (faults_writeText _ _).tells fun _ => ?_
      split
      · next e he => exact .throw (reported_newMeta hfitness _ _ e he)
      · exact .bind (tells_writeMeta _ _ _) fun _ => .pure _
    · cases r with
      | error f => exact .error (hr f rfl)
      | ok metadata => exact .ok _

end Note

end Reported

end VariantRepair.Archive
