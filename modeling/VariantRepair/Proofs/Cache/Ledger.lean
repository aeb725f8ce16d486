import Mathlib.Data.Finmap
import Mathlib.Tactic.Common
import VariantRepair.Proofs.Cache.Stored
import VariantRepair.Proofs.Cache.File

/-!
# A cache is a ledger with a file

A cache behaves as a map of outcomes, a set of tests that were run, and the map that its file holds.
Whatever is done to it in whatever order, every answer is that of the map and the set. What is
written to the file depends on the map alone.
-/

namespace VariantRepair

open Host

/-- Outcomes by key. -/
abbrev Outcomes := Finmap fun _ : CacheKey => Bool

/-- The outcomes that are known, the tests that were run in the session, and the outcomes in the
file, if there is one. -/
structure Ledger where
  outcomes : Outcomes
  session : Finset CacheKey
  file : Option Outcomes

/-- Something done to a cache. -/
inductive CacheOperation where
  | query (digest : String) (test : Test)
  | add (digest : String) (test : Test) (passed : Bool)
  | recordEvaluation (digest : String) (test : Test)
  | evaluations
  | resetSession
  | size
  | persist
  | restore
  /-- A new cache with the same file takes the place of the one at hand. -/
  | renew

/-- What comes back. -/
inductive CacheReply where
  | nothing
  | outcome (passed : Option Bool)
  | count (n : Nat)
  | restored (taken : Bool)

namespace CacheOperation

/-- Do something to a cache whose file a text names. -/
def make (path : String) (c : Cache) : CacheOperation → Action (CacheReply × Cache)
  | query digest test => return (.outcome (c.query digest test), c)
  | add digest test passed => return (.nothing, c.add digest test passed)
  | recordEvaluation digest test => return (.nothing, c.recordEvaluation digest test)
  | evaluations => return (.count c.evaluations, c)
  | resetSession => return (.nothing, c.resetSession)
  | size => return (.count c.size, c)
  | persist => do
    c.persist
    return (.nothing, c)
  | restore => do
    let (taken, c) ← c.restore
    return (.restored taken, c)
  | renew => return (.nothing, .ofPath path)

/-- What the same comes to in a ledger. -/
def enter (l : Ledger) : CacheOperation → CacheReply × Ledger
  | query digest test => (.outcome (l.outcomes.lookup (digest, test)), l)
  | add digest test passed =>
    (.nothing, { l with outcomes := l.outcomes.insert (digest, test) passed })
  | recordEvaluation digest test =>
    (.nothing, { l with session := insert (digest, test) l.session })
  | evaluations => (.count l.session.card, l)
  | resetSession => (.nothing, { l with session := ∅ })
  | size => (.count l.outcomes.keys.card, l)
  | persist => (.nothing, { l with file := some l.outcomes })
  | restore => (.restored l.file.isSome, { l with outcomes := l.file.getD ∅ })
  | renew => (.nothing, { l with outcomes := ∅, session := ∅ })

/-- The test of an outcome that is added has an index with few enough digits to be read. -/
def IsReadable : CacheOperation → Prop
  | add _ test _ => test.IsReadable
  | _ => True

end CacheOperation

/-- Do things to a cache in turn. -/
def Cache.operate (path : String) : Cache → List CacheOperation → Action (List CacheReply × Cache)
  | c, [] => return ([], c)
  | c, o :: os => do
    let (reply, c) ← o.make path c
    let (replies, c) ← operate path c os
    return (reply :: replies, c)

/-- What the same come to in a ledger. -/
def Ledger.operate : Ledger → List CacheOperation → List CacheReply × Ledger
  | l, [] => ([], l)
  | l, o :: os =>
    let (reply, l) := o.enter l
    let (replies, l) := operate l os
    (reply :: replies, l)

/-! ### Outcomes and entries -/

/-- The outcomes in a list of entries. -/
def Outcomes.Are (outcomes : Outcomes) (entries : List (CacheKey × Bool)) : Prop :=
  ∀ key, outcomes.lookup key = entries.lookup key

/-- The stored value of a map of outcomes. -/
noncomputable def Outcomes.payload (outcomes : Outcomes) : Value :=
  Cache.toValue { path := .ofText Cache.defaultPath, evaluated := []
                  entries := outcomes.entries.toList.map fun e => (e.1, e.2) }

namespace Outcomes.Are

variable {outcomes : Outcomes} {entries : List (CacheKey × Bool)}

lemma nil : (∅ : Outcomes).Are [] := fun _ => Finmap.lookup_empty _

lemma insertEntry (h : outcomes.Are entries) (key : CacheKey) (passed : Bool) :
    Outcomes.Are (outcomes.insert key passed) (Cache.insertEntry key passed entries) := by
  intro key'
  rw [Cache.lookup_insertEntry]
  split_ifs with hkey
  · rw [hkey, Finmap.lookup_insert]
  · rw [Finmap.lookup_insert_of_ne _ hkey, h key']

lemma of_perm {entries' : List (CacheKey × Bool)} (h : outcomes.Are entries)
    (hnodup : (entries.map Prod.fst).Nodup) (hperm : entries'.Perm entries) :
    outcomes.Are entries' :=
  fun key => (h key).trans (Cache.lookup_of_perm hnodup hperm key).symm

lemma card_keys (h : outcomes.Are entries) (hnodup : (entries.map Prod.fst).Nodup) :
    outcomes.keys.card = entries.length := by
  have hkeys : outcomes.keys = (entries.map Prod.fst).toFinset := by
    ext key
    rw [Finmap.mem_keys, ← Finmap.lookup_isSome, h key, List.mem_toFinset,
      Option.isSome_iff_ne_none, Ne, Cache.lookup_eq_none_iff, not_not]
  rw [hkeys, List.toFinset_card_of_nodup hnodup, List.length_map]

/-- The stored value of a cache depends on its outcomes alone. -/
lemma toValue_eq_payload {c : Cache} (h : outcomes.Are c.entries)
    (hnodup : (c.entries.map Prod.fst).Nodup) : c.toValue = outcomes.payload := by
  let listed : List (CacheKey × Bool) := outcomes.entries.toList.map fun e => (e.1, e.2)
  have hlisted : (listed.map Prod.fst).Nodup := by
    have hkeys : ((listed.map Prod.fst : List CacheKey) : Multiset CacheKey)
        = outcomes.entries.keys := by
      rw [List.map_map, ← Multiset.map_coe, Multiset.coe_toList]
      rfl
    rw [← Multiset.coe_nodup, hkeys]
    exact outcomes.nodupKeys.nodup_keys
  have hmem (key : CacheKey) (passed : Bool) :
      (key, passed) ∈ listed ↔ outcomes.lookup key = some passed := by
    rw [Finmap.lookup_eq_some_iff, ← Multiset.mem_toList, List.mem_map]
    constructor
    · rintro ⟨⟨key', passed'⟩, he, heq⟩
      obtain ⟨rfl, rfl⟩ := Prod.mk.inj heq
      exact he
    · exact fun he => ⟨_, he, rfl⟩
  refine Cache.toValue_eq_of_query hnodup hlisted fun digest test => Option.ext fun passed => ?_
  have hquery : outcomes.lookup (digest, test) = c.query digest test := h (digest, test)
  rw [← hquery, ← hmem, ← Cache.lookup_eq_some_iff hlisted]
  rfl

end Outcomes.Are

/-! ### Caches that a ledger describes -/

/-- What a ledger says of the file at a path. -/
def Outcomes.AreAt (m : Machine) (path : String) : Option Outcomes → Prop
  | none => ∀ content, ¬ Cache.FileAt m path content
  | some outcomes => ∃ r entries, Cache.FileAt m path (.record r) ∧
      Cache.ofRecord r = .ok entries ∧ outcomes.Are entries

/-- A cache is as a ledger says. -/
structure Ledger.Describes (path : String) (l : Ledger) (c : Cache) (m : Machine) : Prop where
  path_eq : c.path = .ofText path
  storable : Cache.IsStorable c.entries
  outcomes : l.outcomes.Are c.entries
  nodup : c.evaluated.Nodup
  session : ∀ key, key ∈ l.session ↔ key ∈ c.evaluated
  file : Outcomes.AreAt m (Path.ofText path).text l.file
  process : '/' ∉ m.process.toList

namespace Ledger.Describes

variable {path : String} {l : Ledger} {c c' : Cache} {m m' : Machine} {o : CacheOperation}
  {reply : CacheReply}

lemma isNormal (h : l.Describes path c m) : c.path.IsNormal := by
  rw [h.path_eq]
  exact Path.isNormal_ofText path

lemma card_session (h : l.Describes path c m) : l.session.card = c.evaluations := by
  have hsession : l.session = c.evaluated.toFinset := by
    ext key
    rw [h.session, List.mem_toFinset]
  rw [hsession, List.toFinset_card_of_nodup h.nodup]
  rfl

lemma recordEvaluation (h : l.Describes path c m) (digest : String) (test : Test) :
    Describes path { l with session := insert (digest, test) l.session }
      (c.recordEvaluation digest test) m := by
  refine { h with
    path_eq := (Cache.path_recordEvaluation c digest test).trans h.path_eq
    storable := ?_, outcomes := ?_, session := fun key => ?_
    nodup := Cache.nodup_evaluated_recordEvaluation h.nodup digest test }
  · rw [Cache.entries_recordEvaluation]
    exact h.storable
  · rw [Cache.entries_recordEvaluation]
    exact h.outcomes
  · rw [Finset.mem_insert, Cache.mem_evaluated_recordEvaluation, h.session key, or_comm]

/-- A machine that has printed something. -/
lemma printed (h : l.Describes path c m) (out err : String) :
    l.Describes path c { m with out, err } :=
  { h with file := h.file, process := h.process }

/-- What is written is what the ledger has. -/
lemma of_run_persist (h : l.Describes path c m) (hrun : c.persist.run m = (.ok (), m')) :
    Describes path { l with file := some l.outcomes } c m' := by
  obtain ⟨hnul, place, hfind⟩ := Cache.of_run_persist h.isNormal h.process hrun
  have hkept : m.Keeps (fun _ => False) (fun _ => True) m' := by
    simpa [hrun] using Cache.keeps_persist (S := fun _ => False) (C := fun _ => True) (c := c)
      nofun trivial h.isNormal h.process m (.refl nofun)
  refine { h with file := ?_, process := by rw [hkept.process]; exact h.process }
  have hat : Cache.FileAt m' (Path.ofText path).text (.record (.value c.toValue)) := by
    rw [← h.path_eq]
    exact ⟨hnul, place, hfind⟩
  have hare : l.outcomes.Are (Cache.sorted c.entries) :=
    h.outcomes.of_perm h.storable.nodup (Cache.sorted_perm _)
  exact ⟨_, _, hat, Cache.ofRecord_toValue h.storable, hare⟩

/-- What is restored is what the file has. -/
lemma of_run_restore (h : l.Describes path c m) {taken : Bool}
    (hrun : c.restore.run m = (.ok (taken, c'), m')) :
    taken = l.file.isSome ∧
      Describes path { l with outcomes := l.file.getD ∅ } c' m' := by
  have hfile := h.file
  rw [← h.path_eq] at hfile
  obtain ⟨known, session, file⟩ := l
  cases file with
  | none =>
    cases hread : c.readEntries.run m with
    | mk r m₁ =>
      obtain rfl := run_eq_of_preserves (fun I => Cache.preserves_readEntries c) hread
      cases r with
      | ok entries =>
        obtain ⟨r, hat, -⟩ := Cache.file_of_run_readEntries hread
        exact absurd hat (hfile _)
      | error f =>
        obtain ⟨hanswer, err, rfl⟩ := Cache.of_run_restore_of_error hread hrun
        obtain ⟨rfl, rfl⟩ := Prod.mk.inj hanswer
        exact ⟨rfl, { h.printed m₁.out err with storable := .nil, outcomes := .nil }⟩
  | some outcomes =>
    obtain ⟨r, entries, hat, hr, hare⟩ := hfile
    obtain ⟨out, hrestore⟩ := Cache.run_restore_of_ok (Cache.run_readEntries_of_file hat hr)
    obtain ⟨hanswer, rfl⟩ := Prod.mk.inj (hrestore.symm.trans hrun)
    obtain ⟨rfl, rfl⟩ := Prod.mk.inj (Except.ok.inj hanswer)
    exact ⟨rfl, { h.printed out m.err with
      storable := Cache.isStorable_of_ofRecord hr, outcomes := hare }⟩

/-- What a single operation answers and leaves is what the ledger says. -/
lemma of_run_make (h : l.Describes path c m) (ho : o.IsReadable)
    (hrun : (o.make path c).run m = (.ok (reply, c'), m')) :
    reply = (o.enter l).1 ∧ (o.enter l).2.Describes path c' m' := by
  cases o with
  | query digest test =>
    cases hrun
    have hquery : l.outcomes.lookup (digest, test) = c.query digest test := h.outcomes _
    rw [CacheOperation.enter, hquery]
    exact ⟨rfl, h⟩
  | add digest test passed =>
    cases hrun
    have htest : (digest, test).2.IsReadable := ho
    exact ⟨rfl, { h with
      storable := h.storable.insertEntry htest passed
      outcomes := h.outcomes.insertEntry (digest, test) passed }⟩
  | recordEvaluation digest test =>
    cases hrun
    exact ⟨rfl, h.recordEvaluation digest test⟩
  | evaluations =>
    cases hrun
    rw [CacheOperation.enter, h.card_session]
    exact ⟨rfl, h⟩
  | resetSession =>
    cases hrun
    exact ⟨rfl, { h with
      nodup := List.nodup_nil
      session := fun key => by simp [Cache.resetSession, CacheOperation.enter] }⟩
  | size =>
    cases hrun
    rw [CacheOperation.enter, h.outcomes.card_keys h.storable.nodup]
    exact ⟨rfl, h⟩
  | persist =>
    obtain ⟨u, m₁, hpersist, hrest⟩ := exists_run_of_run_bind hrun
    cases hrest
    exact ⟨rfl, h.of_run_persist hpersist⟩
  | restore =>
    obtain ⟨⟨taken, c₁⟩, m₁, hrestore, hrest⟩ := exists_run_of_run_bind hrun
    cases hrest
    obtain ⟨rfl, hafter⟩ := h.of_run_restore hrestore
    exact ⟨rfl, hafter⟩
  | renew =>
    cases hrun
    exact ⟨rfl, { h with
      path_eq := rfl, storable := .nil, outcomes := .nil, nodup := List.nodup_nil
      session := fun key => by simp [Cache.ofPath, CacheOperation.enter] }⟩

/-- An operation on an accessible cache does not fail. -/
lemma exists_run_make {goal temporary : Place} (h : l.Describes path c m)
    (haccess : c.Accessible m goal temporary) :
    ∃ reply c' m', (o.make path c).run m = (.ok (reply, c'), m') ∧
      c'.Accessible m' goal temporary := by
  have hsame {c' : Cache} (hc : c'.path = c.path) : c'.Accessible m goal temporary :=
    haccess.of_stay hc rfl rfl (.refl _) haccess.goal.not_directory
      haccess.temporary.not_directory
  cases o with
  | persist =>
    obtain ⟨m', hpersist, haccess'⟩ := haccess.run_persist h.storable h.isNormal h.process
    exact ⟨_, _, m', run_bind_of_ok hpersist _, haccess'⟩
  | restore =>
    have hfile := h.file
    rw [← h.path_eq] at hfile
    cases hl : l.file with
    | none =>
      rw [hl] at hfile
      have hnone : m.files.get? goal = none := by
        cases hget : m.files.get? goal with
        | none => rfl
        | some e =>
          cases e with
          | directory => exact absurd hget haccess.goal.not_directory
          | file content =>
            have hfind := FileTree.find_eq_ok_iff.mpr ⟨haccess.goal.locate, hget⟩
            exact absurd ⟨haccess.goal.nul, goal, hfind⟩ (hfile content)
      have hrestore := Cache.run_restore_of_missing (run_look_of_none haccess.goal.locate hnone)
      exact ⟨_, _, m, run_bind_of_ok hrestore _, hsame rfl⟩
    | some outcomes =>
      rw [hl] at hfile
      obtain ⟨r, entries, hat, hr, -⟩ := hfile
      obtain ⟨out, hrestore⟩ := Cache.run_restore_of_ok (Cache.run_readEntries_of_file hat hr)
      exact ⟨_, _, _, run_bind_of_ok hrestore _, haccess.of_stay rfl rfl rfl (.refl _)
        haccess.goal.not_directory haccess.temporary.not_directory⟩
  | renew => exact ⟨_, _, m, rfl, hsame h.path_eq.symm⟩
  | recordEvaluation digest test =>
    refine ⟨_, _, m, rfl, hsame ?_⟩
    rw [Cache.recordEvaluation]
    split_ifs <;> rfl
  | _ => exact ⟨_, _, m, rfl, hsame rfl⟩

/-! ### Runs -/

variable {os : List CacheOperation} {replies : List CacheReply}

lemma of_run_operate (h : l.Describes path c m) (hos : ∀ o ∈ os, o.IsReadable)
    (hrun : (c.operate path os).run m = (.ok (replies, c'), m')) :
    replies = (l.operate os).1 ∧ (l.operate os).2.Describes path c' m' := by
  induction os generalizing l c m replies with
  | nil =>
    cases hrun
    exact ⟨rfl, h⟩
  | cons o os ih =>
    obtain ⟨ho, hos⟩ := List.forall_mem_cons.mp hos
    obtain ⟨⟨reply, c₁⟩, m₁, hmake, hrest⟩ := exists_run_of_run_bind hrun
    obtain ⟨⟨rest, c₂⟩, m₂, hoperate, hreturn⟩ := exists_run_of_run_bind hrest
    cases hreturn
    obtain ⟨rfl, hstep⟩ := h.of_run_make ho hmake
    obtain ⟨rfl, hafter⟩ := ih hstep hos hoperate
    exact ⟨rfl, hafter⟩

lemma exists_run_operate {goal temporary : Place} (h : l.Describes path c m)
    (hos : ∀ o ∈ os, o.IsReadable) (haccess : c.Accessible m goal temporary) :
    ∃ replies c' m', (c.operate path os).run m = (.ok (replies, c'), m') := by
  induction os generalizing l c m with
  | nil => exact ⟨[], c, m, rfl⟩
  | cons o os ih =>
    obtain ⟨ho, hos⟩ := List.forall_mem_cons.mp hos
    obtain ⟨reply, c₁, m₁, hmake, haccess₁⟩ := h.exists_run_make haccess
    obtain ⟨-, hstep⟩ := h.of_run_make ho hmake
    obtain ⟨rest, c₂, m₂, hoperate⟩ := ih hstep hos haccess₁
    exact ⟨reply :: rest, c₂, m₂,
      (run_bind_of_ok hmake _).trans ((run_bind_of_ok hoperate _).trans rfl)⟩

end Ledger.Describes

/-- A cache is a ledger with a file. Let a new cache be made for a path at which there is no file or
one with outcomes that are read, and let its operations come in any order; the tests whose outcomes
are added have few enough digits, and the number of the process has no slash. Then, unless an
operation fails, every answer is the one that the ledger gives, the cache is as the ledger says, and
what is written to the file next is the stored value of the ledger's outcomes, however they came
there. No operation fails if the cache file and the temporary file beside it can be written. -/
theorem cache_is_ledger (path : String) (m : Machine) (file : Option Outcomes)
    (os : List CacheOperation) (hfile : Outcomes.AreAt m (Path.ofText path).text file)
    (hprocess : '/' ∉ m.process.toList) (hos : ∀ o ∈ os, o.IsReadable) :
    (∀ replies c m', ((Cache.ofPath path).operate path os).run m = (.ok (replies, c), m') →
      replies = (Ledger.operate ⟨∅, ∅, file⟩ os).1 ∧
      (Ledger.operate ⟨∅, ∅, file⟩ os).2.Describes path c m' ∧
      ∀ m'', c.persist.run m' = (.ok (), m'') → Cache.FileAt m'' (Path.ofText path).text
        (.record (.value (Ledger.operate ⟨∅, ∅, file⟩ os).2.outcomes.payload))) ∧
    ((∃ goal temporary, (Cache.ofPath path).Accessible m goal temporary) →
      ∃ replies c m', ((Cache.ofPath path).operate path os).run m = (.ok (replies, c), m')) := by
  have hnew : Ledger.Describes path ⟨∅, ∅, file⟩ (.ofPath path) m :=
    { path_eq := rfl, storable := .nil, outcomes := .nil, nodup := List.nodup_nil
      session := fun key => by simp [Cache.ofPath], file := hfile, process := hprocess }
  constructor
  · intro replies c m' hrun
    obtain ⟨hreplies, hafter⟩ := hnew.of_run_operate hos hrun
    refine ⟨hreplies, hafter, fun m'' hpersist => ?_⟩
    obtain ⟨hnul, place, hfind⟩ :=
      Cache.of_run_persist hafter.isNormal hafter.process hpersist
    rw [hafter.path_eq] at hnul hfind
    rw [← hafter.outcomes.toValue_eq_payload hafter.storable.nodup]
    exact ⟨hnul, place, hfind⟩
  · rintro ⟨goal, temporary, haccess⟩
    exact hnew.exists_run_operate hos haccess

/-- An outcome is written, forgotten by a new cache, and restored; the second writing replaces what
the first one wrote. -/
theorem cache_is_ledger_twice :
    ∃ (p n : Test) (m : Machine) (replies : List CacheReply) (c : Cache) (m' : Machine),
      ((Cache.ofPath "out/c").operate "out/c" [.add "d" p true, .recordEvaluation "d" p, .persist,
        .add "d" p false, .add "e" n true, .persist, .renew, .query "d" p, .restore, .query "d" p,
        .size, .evaluations]).run m = (.ok (replies, c), m') ∧
      replies = [.nothing, .nothing, .nothing, .nothing, .nothing, .nothing, .nothing,
        .outcome none, .restored true, .outcome (some false), .count 2, .count 0] := by
  let p : Test := ⟨.positive, 1, Nat.one_pos⟩
  let n : Test := ⟨.negative, 12, by decide⟩
  let m : Machine := .ofDirectory ["w", "out"] "7"
  let m : Machine := { m with directory := ["w"] }
  let os : List CacheOperation := [.add "d" p true, .recordEvaluation "d" p, .persist,
    .add "d" p false, .add "e" n true, .persist, .renew, .query "d" p, .restore, .query "d" p,
    .size, .evaluations]
  have hreadable : ∀ o ∈ os, o.IsReadable := by
    have hp : p.IsReadable := by change 1 < Number.tenTo Number.digitLimit; decide +kernel
    have hn : n.IsReadable := by change 12 < Number.tenTo Number.digitLimit; decide +kernel
    simp [os, CacheOperation.IsReadable, hp, hn]
  have hlocate : m.files.locate m.directory (Path.ofText "out/c").text = .ok ["w", "out", "c"] := by
    decide +kernel
  have hnone : Outcomes.AreAt m (Path.ofText "out/c").text none := by
    rintro content ⟨-, place, hfind⟩
    obtain ⟨hplace, hget⟩ := FileTree.find_eq_ok_iff.mp hfind
    obtain rfl := Except.ok.inj (hlocate.symm.trans hplace)
    cases hget
  have haccess : (Cache.ofPath "out/c").Accessible m ["w", "out", "c"] ["w", "out", "c.tmp.7"] :=
    { parts := by decide +kernel
      parent_nul := by decide +kernel
      parent := ⟨["w", "out"], FileTree.find_eq_ok_iff.mpr ⟨by decide +kernel, rfl⟩⟩
      goal := ⟨by decide +kernel, hlocate, nofun, rfl⟩
      dots := by decide +kernel
      temporary := ⟨by decide +kernel, by decide +kernel, nofun, rfl⟩ }
  obtain ⟨hruns, hsucceeds⟩ :=
    cache_is_ledger "out/c" m none os hnone (by decide +kernel) hreadable
  obtain ⟨replies, c, m', hrun⟩ := hsucceeds ⟨_, _, haccess⟩
  refine ⟨p, n, m, replies, c, m', hrun, ?_⟩
  rw [(hruns replies c m' hrun).1]
  rfl

end VariantRepair
