import Mathlib.Tactic.Common
import VariantRepair.Proofs.CommandLine.Outputs
import VariantRepair.Proofs.Path

/-!
# No run loses an outcome

A run reads the cache file before its program, and writes the cache afterwards, however the work in
between ends. The cache only grows on the way. So the file knows afterwards all outcomes that it
knew before, unless something else that the run writes is in its place.
-/

namespace VariantRepair.CommandLine

open Host Work

variable {m₀ m : Machine} {S : Place → Prop} {C : Content → Prop} {K : Cache → Prop}
  {o : Options} {c : Config} {path : String} {known : List (CacheKey × Bool)}

/-- Nothing that a run writes besides the cache file is in the place of the cache file. -/
def OutputsElsewhere (o : Options) (c : Config) (m : Machine) : Prop :=
  ∀ output, IsOutput o c m output → FileTree.placeOf m.directory output
    ≠ FileTree.placeOf m.directory (Path.ofText c.cachePath).text

/-- A machine after work that keeps a cache file with known outcomes. -/
abbrev KeepsCache (path : String) (known : List (CacheKey × Bool)) (m₀ m : Machine) : Prop :=
  m₀.Keeps (· = FileTree.placeOf m₀.directory (Path.ofText path).text) (Cache.HoldsAll known) m

/-! ### Closing the cache -/

lemma within_closeCache {J : Machine → Prop} {A : Altered → Prop}
    (hsay : ∀ line, Preserves J (say line))
    (hpersist : ∀ cache, K cache → Preserves J cache.persist) :
    Preserves (Bench.Within J K A) closeCache := by
  refine .bind_get fun b hb => ?_
  split
  · exact .pure _
  · next cache hcache =>
    exact .bind (within_onMachine (hpersist cache (hb.cache cache hcache))) fun _ =>
      within_onMachine (hsay _)

/-- Work after which the cache is written. -/
lemma run_thenClose {I : Bench → Prop} {w : Work Unit} {b : Bench} (hw : I (w.run b).2)
    (hclose : Preserves I closeCache) : I ((thenClose w).run b).2 := by
  have hfailed (f : Failure) : Preserves I (do closeCache; throw f : Work Unit) :=
    .bind hclose fun _ => .throw _
  rw [thenClose]
  exact Preserves.run_bind (Preserves.run_tryCatch hw hfailed) fun _ => hclose

/-! ### A run -/

/-- The work of a run keeps the cache file, and the cache grows. -/
lemma within_process {b : Bench} {backend : Backend}
    (houtputs : ∀ path, IsOutput o c m₀ path → ¬ S (FileTree.placeOf m₀.directory path))
    (hnew : Cache.TakesNew K) (hsame : m₀.SameFiles b.machine)
    (hbackend : (chooseBackend c (nonempty o.loadSnapshot)).run b.machine
      = (.ok backend, b.machine))
    (haltered : b.altered = .ofVariant (.empty backend))
    (hb : Bench.Within (m₀.Keeps S C) K (fun _ => True) b) :
    Bench.Within (m₀.Keeps S C) K (fun _ => True) ((process o c).run b).2 := by
  rw [process_eq]
  have hloaded := within_loadProgram c (nonempty o.loadSnapshot) b hb
  cases hload : (loadProgram c (nonempty o.loadSnapshot)).run b with
  | mk r b' =>
    rw [hload] at hloaded
    cases r with
    | error f =>
      rw [run_bind_of_error hload]
      exact hloaded
    | ok u =>
      have hloads : Loads o c m₀ b'.altered.suffix :=
        ⟨backend, b, b', hsame, hbackend, haltered, hload, rfl⟩
      rw [run_bind_of_ok hload]
      have hend := within_afterLoading houtputs hnew hloads b'
        ⟨hloaded.machine, hloaded.cache, rfl⟩
      exact ⟨hend.machine, hend.cache, trivial⟩

/-- A cache whose file holds known outcomes is opened with them. -/
lemma run_openCache (hknows : Cache.FileKnows c.cachePath known m) :
    ∃ cache out, (openCache c).run m = (.ok cache, { m with out }) ∧
      ∀ x, cache = some x → Cache.Extends (.ofText c.cachePath) known x := by
  obtain ⟨entries, hread, hcovers⟩ := hknows.run_readEntries
  obtain ⟨r, -, hr⟩ := Cache.file_of_run_readEntries hread
  rw [openCache]
  split
  · obtain ⟨out, hrestore⟩ := Cache.run_restore_of_ok hread
    rw [run_bind_of_ok hrestore]
    refine ⟨_, out, rfl, ?_⟩
    rintro x ⟨⟩
    exact ⟨rfl, Cache.isStorable_of_ofRecord hr, hcovers⟩
  · exact ⟨none, m.out, rfl, nofun⟩

/-- What a run does with a configuration. -/
def runWith (o : Options) (c : Config) : Action Unit := do
  if c.program.isEmpty && (nonempty o.loadSnapshot).isNone then throw (.refused .noProgram)
  let cache ← openCache c
  let backend ← chooseBackend c (nonempty o.loadSnapshot)
  let bench : Bench :=
    { machine := ← get, cache, stats := .zero, port := c.port
      altered := .ofVariant (.empty backend) }
  let (r, bench) := (thenClose (process o c)).run bench
  set bench.machine
  match r with
  | .error f => throw f
  | .ok () => say (Json.write Json.blockLayout (.map bench.stats.summary))

lemma run_eq (o : Options) : run o = (do runWith o (← CommandLine.resolve o)) := rfl

/-- A cache that knows all outcomes that its file holds may be written. -/
lemma keeps_persist_of_extends {cache : Cache} (hprocess : '/' ∉ m.process.toList)
    (h : Cache.Extends (.ofText path) known cache) :
    Preserves (KeepsCache path known m) cache.persist := by
  refine Cache.keeps_persist ?_ h.holdsAll ?_ hprocess
  · rintro place rfl
    rw [h.path_eq]
  · rw [h.path_eq]
    exact Path.isNormal_ofText path

/-- The work of a run on a bench with a cache that knows all outcomes that its file holds. -/
lemma keeps_thenClose {b : Bench} {backend : Backend} (hprocess : '/' ∉ m₀.process.toList)
    (houtputs : OutputsElsewhere o c m₀) (hsame : m₀.SameFiles b.machine)
    (hbackend : (chooseBackend c (nonempty o.loadSnapshot)).run b.machine
      = (.ok backend, b.machine))
    (haltered : b.altered = .ofVariant (.empty backend))
    (hm : KeepsCache c.cachePath known m₀ b.machine)
    (hcache : ∀ cache, b.cache = some cache → Cache.Extends (.ofText c.cachePath) known cache) :
    KeepsCache c.cachePath known m₀ ((thenClose (process o c)).run b).2.machine := by
  have hend := within_process
    (S := (· = FileTree.placeOf m₀.directory (Path.ofText c.cachePath).text)) houtputs
    Cache.Extends.takesNew hsame hbackend haltered ⟨hm, hcache, trivial⟩
  exact (run_thenClose hend
    (within_closeCache keeps_say fun cache => keeps_persist_of_extends hprocess)).machine

/-- A run with a configuration leaves a cache file that holds all outcomes that it held before. -/
lemma keeps_runWith (hprocess : '/' ∉ m.process.toList)
    (hknows : Cache.FileKnows c.cachePath known m) (houtputs : OutputsElsewhere o c m) :
    KeepsCache c.cachePath known m ((runWith o c).run m).2 := by
  have hm : KeepsCache c.cachePath known m m := by
    obtain ⟨content, ⟨-, place, hfind⟩, hknown⟩ := hknows
    obtain ⟨hlocate, hget⟩ := FileTree.find_eq_ok_iff.mp hfind
    refine .refl fun place' hplace' => ⟨content, ?_, hknown⟩
    rw [hplace', ← FileTree.eq_placeOf_of_locate hlocate, hget]
  rw [runWith]
  dsimp only
  split
  · exact hm
  obtain ⟨cache, out, hopen, hcache⟩ := run_openCache hknows
  have hopened : KeepsCache c.cachePath known m { m with out } :=
    ⟨rfl, rfl, rfl, hm.stay, hm.file⟩
  rw [run_bind_of_ok hopen]
  cases hchoose : (chooseBackend c (nonempty o.loadSnapshot)).run { m with out } with
  | mk r m' =>
    obtain rfl := run_eq_of_preserves (fun I => preserves_chooseBackend c _) hchoose
    cases r with
    | error f =>
      rw [run_bind_of_error hchoose]
      exact hopened
    | ok backend =>
      rw [run_bind_of_ok hchoose, run_bind_of_ok (run_get _)]
      let bench : Bench :=
        { machine := { m with out }, cache, stats := .zero, port := c.port
          altered := .ofVariant (.empty backend) }
      have hend := keeps_thenClose (b := bench) hprocess houtputs ⟨rfl, rfl, rfl⟩ hchoose rfl
        hopened hcache
      split
      next r bench' hclose =>
      rw [hclose] at hend
      have hset : (set bench'.machine : Action Unit).run { m with out }
          = (.ok (), bench'.machine) := rfl
      rw [run_bind_of_ok hset]
      cases r with
      | error f => exact hend
      | ok u => exact keeps_say _ _ hend

/-- Work that keeps the cache file leaves it with the known outcomes. -/
lemma fileKnows_of_keeps (hknows : Cache.FileKnows path known m₀)
    (hm : KeepsCache path known m₀ m) : Cache.FileKnows path known m := by
  obtain ⟨_, ⟨hnul, place, hfind⟩, -⟩ := hknows
  obtain ⟨hlocate, -⟩ := FileTree.find_eq_ok_iff.mp hfind
  obtain ⟨content, hfind, hholds⟩ := hm.find (FileTree.eq_placeOf_of_locate hlocate) hlocate
  exact ⟨content, ⟨hnul, place, hfind⟩, hholds⟩

/-- After a run the cache file knows all outcomes that it knew before. -/
lemma fileKnows_run (hprocess : '/' ∉ m.process.toList) (hknows : Cache.FileKnows path known m)
    (houtputs : ∀ c m', (CommandLine.resolve o).run m = (.ok c, m') →
      c.cachePath = path ∧ OutputsElsewhere o c m') :
    Cache.FileKnows path known ((run o).run m).2 := by
  have hsame := sameFiles_resolve o m (.refl m)
  rw [run_eq]
  cases hresolve : (CommandLine.resolve o).run m with
  | mk r m' =>
    rw [hresolve] at hsame
    have hknows' := hsame.fileKnows hknows
    cases r with
    | error f =>
      rw [run_bind_of_error hresolve]
      exact hknows'
    | ok c =>
      rw [run_bind_of_ok hresolve]
      obtain ⟨rfl, helsewhere⟩ := houtputs c m' hresolve
      exact fileKnows_of_keeps hknows'
        (keeps_runWith (hsame.process ▸ hprocess) hknows' helsewhere)

lemma fileKnows_warn (line : String) : Preserves (Cache.FileKnows path known) (warn line) :=
  fun m hm => (sameFiles_warn line m (.refl m)).fileKnows hm

/-- Let a cache file hold outcomes, and let nothing else that a run writes be in its place. However
the run ends, the file is a cache file afterwards, and it holds all outcomes that it held before. -/
theorem execute_keeps_outcomes (words : List String) (m : Machine) (path : String)
    (known : List (CacheKey × Bool)) (hprocess : '/' ∉ m.process.toList)
    (hknown : ((Cache.ofPath path).readEntries.run m).1 = .ok known)
    (hrun : ∀ o c m', CommandLine.read words = .ok (.run o) →
      (CommandLine.resolve o).run m = (.ok c, m') → c.cachePath = path ∧ OutputsElsewhere o c m') :
    ∃ entries, ((Cache.ofPath path).readEntries.run ((execute words).run m).2).1 = .ok entries ∧
      Cache.Covers entries known := by
  have hknows : Cache.FileKnows path known m :=
    Cache.fileKnows_of_run_readEntries (Prod.ext hknown rfl)
  have hafter : Cache.FileKnows path known ((execute words).run m).2 := by
    rw [execute]
    split
    · exact hknows
    · exact hknows
    · next o hread =>
      have hdone := fileKnows_run hprocess hknows fun c m' => hrun o c m' hread
      refine Preserves.run_bind (Preserves.run_tryCatch
        (Preserves.run_bind hdone fun _ => .pure _) fun f => ?_) fun early => ?_
      · split
        · exact .bind (fileKnows_warn _) fun _ => .pure _
        · exact .bind (.throw _) fun _ => .pure _
      · cases early with
        | error status => exact .pure _
        | ok status => exact .pure _
  obtain ⟨entries, hread, hcovers⟩ := hafter.run_readEntries
  exact ⟨entries, by rw [hread], hcovers⟩

/-- A script is run with a line for its evaluation, and the outcome in the cache file stays. -/
theorem execute_keeps_outcomes_script :
    ∃ (m : Machine) (known : List (CacheKey × Bool)) (t : Test),
      known = [(("d", t), true)] ∧
      ('/' ∉ m.process.toList ∧ ((Cache.ofPath "repair.cache").readEntries.run m).1 = .ok known ∧
        ∀ o c m',
          CommandLine.read ["--program", "x.py", "--no-config", "--output", "y"] = .ok (.run o) →
          (CommandLine.resolve o).run m = (.ok c, m') →
          c.cachePath = "repair.cache" ∧ OutputsElsewhere o c m') ∧
      ∃ entries, ((Cache.ofPath "repair.cache").readEntries.run
        ((execute ["--program", "x.py", "--no-config", "--output", "y"]).run m).2).1 = .ok entries ∧
        entries.lookup ("d", t) = some true := by
  let t : Test := ⟨.positive, 1, Nat.one_pos⟩
  let cache : Cache := { Cache.ofPath "repair.cache" with entries := [(("d", t), true)] }
  let m : Machine :=
    { Machine.ofDirectory [] "1" with
      files := ((FileTree.ofDirectory []).set ["x.py"] (.file (.ofText "pass\n"))).set
        ["repair.cache"] (.file (.record (.value cache.toValue))) }
  have hstorable : Cache.IsStorable cache.entries := by
    refine ⟨List.nodup_singleton _, fun e he => ?_⟩
    rw [List.mem_singleton.mp he]
    exact Test.isReadable_one _
  have hfile : Cache.FileAt m (Cache.ofPath "repair.cache").path.text
      (.record (.value cache.toValue)) :=
    ⟨by decide, ["repair.cache"], FileTree.find_eq_ok_iff.mpr ⟨by decide +kernel, rfl⟩⟩
  have hknown : (Cache.ofPath "repair.cache").readEntries.run m = (.ok cache.entries, m) := by
    rw [Cache.run_readEntries_of_file hfile (Cache.ofRecord_toValue hstorable), Cache.sorted,
      List.mergeSort_singleton]
  let o₀ : Options :=
    { Options.default.setField .program (.value "x.py") with
      noConfig := true, output := some (.value "y") }
  have hread : CommandLine.read ["--program", "x.py", "--no-config", "--output", "y"]
      = .ok (.run o₀) := by
    let classified : List Word := [.option (.slot (.field .program)) none, .plain "x.py",
      .option (.switch .noConfig) none, .option (.slot .output) none, .plain "y"]
    have hwords : classifyAll ["--program", "x.py", "--no-config", "--output", "y"]
        = .ok classified := by
      decide +kernel
    calc CommandLine.read ["--program", "x.py", "--no-config", "--output", "y"]
      _ = take .default [] classified := by
        rw [CommandLine.read, hwords]
        rfl
      _ = take (.setField .default .program (.value "x.py")) [] (classified.drop 2) :=
        take_slot rfl
      _ = take { Options.default.setField .program (.value "x.py") with noConfig := true } []
          (classified.drop 3) := take_switch (by decide)
      _ = take o₀ [] [] := take_slot rfl
      _ = .ok (.run o₀) := take_nil
  have hrun (o : Options) (c : Config) (m' : Machine)
      (h : CommandLine.read ["--program", "x.py", "--no-config", "--output", "y"] = .ok (.run o))
      (hresolve : (CommandLine.resolve o).run m = (.ok c, m')) :
      c.cachePath = "repair.cache" ∧ OutputsElsewhere o c m' := by
    obtain rfl := Request.run.inj (Except.ok.inj (hread.symm.trans h))
    have hlocate : m.files.locate m.directory (Path.ofText o₀.envFile.text).text
        = .ok [".env"] := by
      decide +kernel
    have hoverlay : Config.default.overlayFrom o₀.overrides
        = ([], .ok (Config.default.set .program "x.py")) := rfl
    obtain ⟨rfl, rfl⟩ := of_run_resolve rfl
      (run_isFile_of_none (run_look_of_none hlocate rfl)) rfl hoverlay hresolve
    refine ⟨rfl, ?_⟩
    rintro output (⟨hloads, hpath⟩ | hpath | hpath | hpath | ⟨_, hdirectory⟩ | ⟨_, hdirectory⟩)
    · have hsuffix {s : String} (h : Value.needText (.str (Path.ofText "x.py").suffix) = .ok s) :
          ".py" = s := by
        have hpy : (Path.ofText "x.py").suffix = ".py" := by decide
        rw [hpy] at h
        exact Except.ok.inj h
      obtain rfl := suffix_of_loads rfl (by decide) hloads
      rcases hpath with ⟨rfl | rfl, h⟩ | h | _
      · obtain rfl := hsuffix h
        decide +kernel
      · obtain rfl := hsuffix h
        decide +kernel
      · obtain rfl := hsuffix h
        decide +kernel
      · decide +kernel
    · cases hpath
    · cases hpath
    · cases hpath
      decide +kernel
    · cases hdirectory
    · cases hdirectory
  obtain ⟨entries, hentries, hcovers⟩ := execute_keeps_outcomes _ m "repair.cache" cache.entries
    (by decide) (by rw [hknown]) hrun
  exact ⟨m, cache.entries, t, rfl, ⟨by decide, by rw [hknown], hrun⟩, entries, hentries,
    hcovers _ _ rfl⟩

end VariantRepair.CommandLine
