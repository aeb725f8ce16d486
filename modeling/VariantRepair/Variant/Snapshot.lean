import VariantRepair.Variant.Altered

/-!
Snapshots: stored values that hold a variant, and what a variant takes from one. A stored value has
a format, a version and a backend; one that was not made from a variant can still name parts of it.
-/

namespace VariantRepair

/-- The format that marks a stored value as a snapshot. -/
def snapshotFormat : String := "repair-representation"

/-- The version of snapshots. -/
def snapshotVersion : Int := 1

/-- What a record file holds. -/
inductive Record where
  | value (v : Value)
  /-- A variant; what was compiled is not kept, nor what is shared between variants. -/
  | snapshot (a : Altered)
  /-- A file that has lost its end. -/
  | damaged

namespace Record

/-- What a snapshot holds: a variant, or a mapping that may give some of its parts. -/
inductive Held where
  | variant (a : Altered)
  | pairs (ps : List (Value × Value))

/-- The content of a snapshot file, its format and version checked; `path` stands in messages. -/
def held (path : String) : Record → Except Failure Held
  | damaged => .error .unreadableRecord
  | snapshot a => .ok (.variant a)
  | value (.map ps) =>
    if Value.field "format" ps != some (.str snapshotFormat) then
      .error (.refused (.notSnapshot path))
    else
      let version := (Value.field "version" ps).getD .null
      if version != .int snapshotVersion then
        .error (.naming version fun shown => .refused (.snapshotVersion path shown))
      else .ok (.pairs ps)
  | value _ => .error (.refused (.notSnapshot path))

/-- The backend that is stored, or a default. -/
def Held.backend (default : Value) : Held → Value
  | .variant a => a.key
  | .pairs ps => (Value.field "backend" ps).getD default

/-- The text of the backend that is stored, or of a default. -/
def Held.backendText (default : Value) (h : Held) : Except Failure String :=
  (h.backend default).needText

end Record

/-- The record of a variant. -/
def Altered.record (a : Altered) : Record :=
  let kept := a.restore Altered.sharedParts
  .snapshot { kept with variant := { a.variant with compiled := none } }

namespace Altered

/-- Take a part of a variant from a stored value. A part of another type is kept as it is, in place
of the part. -/
def absorbPart (a : Altered) (key part : Value) : Altered :=
  let set (name : String) (f : Variant Float → Variant Float) : Altered :=
    { a.restore [name] with variant := f a.variant }
  match key with
  | .str name =>
    match name, part, a.variant.program with
    | "source_suffix", .str s, _ => set name fun v => { v with ownSuffix := some s }
    | "_history", .list [], _ => set name fun v => { v with history := [] }
    | "_header", .list [], .module m =>
      set name fun v => { v with program := .module { m with header := [] } }
    | "_slots", .map [], .module m =>
      set name fun v => { v with program := .module { m with slots := [] } }
    | "_spans", .map [], .module m =>
      set name fun v => { v with program := .module { m with spans := [] } }
    | "_lines", .list items, .lines _ =>
      match Value.textsFrom 0 items with
      | .ok texts => set name fun v => { v with program := .lines texts }
      | .error _ => a.replace name part
    | _, _, _ => a.replace name part
  | _ => a

/-- The pair that an item of a list of updates gives. -/
def updatePair (index : Nat) (item : Value) : Except Failure (Value × Value) := do
  match item.items? with
  | none => throw (.misuse (.notSequence index))
  | some [k, v] => if k.hashable then return (k, v) else throw (.misuse (.unhashable k.typeName))
  | some items => throw (.refused (.updateLength index items.length))

/-- Take the parts that a list of updates gives, up to one that gives none. -/
def absorbItems (index : Nat) : List Value → Alteration Unit
  | [] => return
  | item :: items => do
    let (key, part) ← ofExcept (updatePair index item)
    modify fun a => a.absorbPart key part
    absorbItems (index + 1) items

/-- Take the parts that a stored state gives: the pairs of a mapping, or of a list of pairs. -/
def absorb (state : Value) : Alteration Unit := do
  match state with
  | .map ps => modify fun a => ps.foldl (fun a p => a.absorbPart p.1 p.2) a
  | state => absorbItems 0 (← ofExcept state.needItems)

/-- The variant with all that a stored one has; what the stored one does not have stays. -/
def absorbVariant (a stored : Altered) : Altered :=
  let suffix := if stored.variant.ownSuffix.isSome then ["source_suffix"] else []
  let own := a.restore (programParts ++ suffix ++ stored.parts.map (·.1))
  { variant :=
      { stored.variant with ownSuffix := stored.variant.ownSuffix <|> a.variant.ownSuffix }
    parts := stored.parts ++ own.parts }

/-- Take what a snapshot holds. What was compiled is forgotten. -/
def load (path : String) (held : Record.Held) : Alteration Unit := do
  let own := (← get).key
  if held.backend .null != own then
    let stored ← ofExcept (held.backendText .null)
    throw (.refused (.snapshotBackend path stored (← ofExcept own.needText)))
  match held with
  | .variant stored => modify (·.absorbVariant stored)
  | .pairs ps =>
    match Value.field "state" ps with
    | none => throw (.key (Text.quote "state"))
    | some state => absorb state
  change fun v => { v with compiled := none }

end Altered

end VariantRepair
