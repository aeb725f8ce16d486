/-!
Texts that may hold surrogates. A surrogate is a code point and no character, so such a text is a
list of code points. Where a text of characters is needed, private characters stand in for the
surrogates, and they are written as the surrogates that they stand for.
-/

namespace VariantRepair.Text

/-- Is the code point a surrogate? -/
def isSurrogate (n : Nat) : Bool :=
  0xD800 ≤ n && n < 0xE000

/-- The text that some code points make; nothing if there is a surrogate among them. -/
def ofPoints? (points : List Nat) : Option String :=
  if points.any isSurrogate then none else some (String.ofList (points.map Char.ofNat))

/-- How far the private characters that stand for surrogates are from them. -/
def standInOffset : Nat := 0x100000

/-- The character of a code point; for a surrogate a private one that stands in for it. -/
def standIn (n : Nat) : Char :=
  Char.ofNat (if isSurrogate n then n + standInOffset else n)

/-- The code point that a character has or stands in for. -/
def standsFor (c : Char) : Nat :=
  if isSurrogate (c.toNat - standInOffset) then c.toNat - standInOffset else c.toNat

/-- The text that some code points make, with characters that stand in for surrogates. -/
def ofPoints (points : List Nat) : String :=
  String.ofList (points.map standIn)

end VariantRepair.Text
