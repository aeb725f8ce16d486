import VariantRepair.Number.Binary64
import VariantRepair.Weight
import VariantRepair.Failure

/-!
Random draws: a fraction of one, a number below a bound, and one of several weighted cases. What
draws is left open; the generator at hand is the Mersenne Twister, a generator of 32-bit words with
a state of 624 words, seeded by a list of words.
-/

namespace VariantRepair.Chance

/-- The state words and the place of the next one to be handed out. -/
structure Twister where
  words : Array UInt32
  next : Nat
deriving Repr

namespace Twister

/-- The number of state words. -/
def size : Nat := 624

/-- The state grown from one word. -/
def grow (seed : UInt32) : Array UInt32 :=
  (List.range (size - 1)).foldl (fun ws i =>
    let last : UInt32 := ws.getD i 0
    ws.push ((1812433253 : UInt32) * (last ^^^ (last >>> 30)) + UInt32.ofNat (i + 1))) #[seed]

/-- One step of mixing: the word at `i` is overwritten from itself and the word before it. At the
end the last word is carried to the front and the walk goes on behind it. -/
def mixAt (ws : Array UInt32) (i : Nat) (factor : UInt32) (change : UInt32 → UInt32) :
    Array UInt32 × Nat :=
  let last := ws.getD (i - 1) 0
  let ws := ws.setIfInBounds i (change (ws.getD i 0 ^^^ ((last ^^^ (last >>> 30)) * factor)))
  if size ≤ i + 1 then (ws.setIfInBounds 0 (ws.getD (size - 1) 0), 1) else (ws, i + 1)

/-- Mix a key into the state: `steps` steps that go round the key. -/
def mixKey (key : Array UInt32) (steps : Nat) (ws : Array UInt32) (i : Nat) : Array UInt32 × Nat :=
  (List.range steps).foldl (fun (ws, i) step =>
    let j := step % key.size
    mixAt ws i 1664525 (· + key.getD j 0 + UInt32.ofNat j)) (ws, i)

/-- Mix the state with itself. -/
def mixSelf (steps : Nat) (ws : Array UInt32) (i : Nat) : Array UInt32 :=
  ((List.range steps).foldl (fun (ws, i) _ =>
    mixAt ws i 1566083941 (· - UInt32.ofNat i)) (ws, i)).1

/-- A generator seeded by a key that has at least one word. -/
def ofKey (key : Array UInt32) : Twister :=
  let (ws, i) := mixKey key (max size key.size) (grow 19650218) 1
  let ws := mixSelf (size - 1) ws i
  { words := ws.setIfInBounds 0 0x80000000, next := size }

/-- The 32-bit digits of a number, lowest first; `fuel` bounds their count. -/
def keyWords : (fuel : Nat) → Nat → List UInt32
  | 0, _ => []
  | fuel + 1, n =>
    let word := Number.twoTo 32
    if n = 0 then [] else UInt32.ofNat (n % word) :: keyWords fuel (n / word)

/-- A generator seeded by an integer; its sign does not matter. -/
def ofSeed (seed : Int) : Twister :=
  let n := seed.natAbs
  let key := keyWords (Nat.log2 n / 32 + 1) n
  ofKey (if key.isEmpty then #[0] else key.toArray)

/-- The word that the upper bit of one word and the lower bits of the next turn into. -/
def twist (upper lower : UInt32) : UInt32 :=
  let y := (upper &&& 0x80000000) ||| (lower &&& 0x7FFFFFFF)
  (y >>> 1) ^^^ (if y &&& 1 = 1 then 0x9908B0DF else 0)

/-- Compute all state words anew. -/
def refill (ws : Array UInt32) : Array UInt32 :=
  (List.range size).foldl (fun ws i =>
    let w (k : Nat) : UInt32 := ws.getD (k % size) 0
    ws.setIfInBounds i (w (i + 397) ^^^ twist (w i) (w (i + 1)))) ws

/-- Spread the bits of a state word. -/
def temper (y : UInt32) : UInt32 :=
  let y := y ^^^ (y >>> 11)
  let y := y ^^^ ((y <<< 7) &&& 0x9D2C5680)
  let y := y ^^^ ((y <<< 15) &&& 0xEFC60000)
  y ^^^ (y >>> 18)

/-- The next word. -/
def word (g : Twister) : UInt32 × Twister :=
  let g := if size ≤ g.next then { words := refill g.words, next := 0 } else g
  (temper (g.words.getD g.next 0), { g with next := g.next + 1 })

end Twister

/-! ### Draws -/

/-- A source of random draws with states `G`. -/
structure Dice (G W : Type) where
  /-- A number from zero on, below one. -/
  fraction : G → W × G
  /-- A number below a positive bound. -/
  below : Nat → G → Nat × G

namespace Dice

variable {G W : Type} [Weight W]

/-- A number between zero and `total`. -/
def upTo (dice : Dice G W) (total : W) (g : G) : W × G :=
  let (x, g) := dice.fraction g
  (0 + total * x, g)

/-- The sums of the first weights: of one, of two, and so on. -/
def runningSums (sum : W) : List W → List W
  | [] => []
  | w :: ws => (sum + w) :: runningSums (sum + w) ws

/-- The number of sums, the last one apart, that the point is not below. -/
def caseAt (sums : List W) (point : W) : Nat :=
  (sums.dropLast.takeWhile fun s => !decide (point < s)).length

/-- One of several cases, by their weights. -/
def case (dice : Dice G W) (weights : List W) (g : G) : Except Failure Nat × G :=
  let sums := runningSums 0 weights
  let total := sums.getLast?.getD 0 + 0
  if total ≤ 0 then (.error (.refused (.totalWeight true)), g)
  else if !Weight.finite total then (.error (.refused (.totalWeight false)), g)
  else
    let (x, g) := dice.fraction g
    (.ok (caseAt sums (x * total)), g)

end Dice

namespace Twister

/-- A fraction of one with 53 random bits, from two words. -/
def fraction (g : Twister) : Float × Twister :=
  let (a, g) := g.word
  let (b, g) := g.word
  (Number.nearest false ((a >>> 5).toNat * Number.twoTo 26 + (b >>> 6).toNat) (Number.twoTo 53), g)

/-- Numbers of the bound's size are drawn until one is below it, at most `fuel` times. -/
def belowFrom (bound : Nat) : (fuel : Nat) → Twister → Nat × Twister
  | 0, g => (0, g)
  | fuel + 1, g =>
    let (w, g) := g.word
    let bits := Nat.log2 bound + 1
    let r := w.toNat / Number.twoTo (32 - bits)
    if r < bound then (r, g) else belowFrom bound fuel g

/-- The draws that a generator provides. -/
def dice : Dice Twister Float where
  fraction := fraction
  below := fun bound g => belowFrom bound 4096 g

end Twister

end VariantRepair.Chance
