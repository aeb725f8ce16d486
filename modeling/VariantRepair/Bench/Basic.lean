import VariantRepair.Cache
import VariantRepair.Stats

/-!
The bench: what work on a variant needs besides the configuration. It has the machine, the cache if
one is used, the counters, the port of the next test, and the variant at hand, whose parts a stored
state may have altered.
-/

namespace VariantRepair

/-- What is on the bench. -/
structure Bench where
  machine : Host.Machine
  cache : Option Cache
  stats : Stats
  port : Int
  altered : Altered

/-- Something done at the bench. What was done before a failure stays done. -/
abbrev Work := ExceptT Failure (StateM Bench)

namespace Work

variable {α : Type}

/-- Do something on the machine. -/
def onMachine (a : Host.Action α) : Work α := do
  let b ← get
  let (r, m) := a.run b.machine
  set { b with machine := m }
  ofExcept r

/-- The variant at hand. -/
def variant : Work (Variant Float) :=
  return (← get).altered.variant

/-- Change the variant at hand. -/
def alter (a : Altered.Alteration α) : Work α := do
  let b ← get
  let (r, altered) := a.run b.altered
  set { b with altered }
  ofExcept r

/-- Read something off the variant at hand. -/
def reading (f : Altered → Except Failure α) : Work α := do
  ofExcept (f (← get).altered)

/-- Change the counters. -/
def count (f : Stats → Stats) : Work Unit :=
  modify fun b => { b with stats := f b.stats }

/-- Change the cache, if one is used. -/
def changeCache (f : Cache → Cache) : Work Unit :=
  modify fun b => { b with cache := b.cache.map f }

end Work

end VariantRepair
