import VariantRepair.Text.Digit
import VariantRepair.Text.Printable
import VariantRepair.Text.Surrogate

/-!
Quoted form of a text, as it stands in messages and in rendered programs. Single quotes are used
unless the text holds one and no double quote. The quote in use and the backslash are escaped,
and so is every code point that is not printable.

Texts are lists of code points here, because a string constant of a program may hold surrogates,
which are no characters.
-/

namespace VariantRepair.Text

/-- The escape of a code point by its number: two, four or eight hexadecimal digits. -/
def escapeCode (n : Nat) : List Char :=
  if n ≤ 0xFF then '\\' :: 'x' :: hexDigits 2 n
  else if n ≤ 0xFFFF then '\\' :: 'u' :: hexDigits 4 n
  else '\\' :: 'U' :: hexDigits 8 n

/-- The escape of a code point that is not printable: by letter where there is one. -/
def escapeUnprintable (n : Nat) : List Char :=
  if n = 9 then ['\\', 't']
  else if n = 10 then ['\\', 'n']
  else if n = 13 then ['\\', 'r']
  else escapeCode n

/-- One code point inside quotes. -/
def quotePoint (quote : Nat) (n : Nat) : List Char :=
  if n = quote ∨ n = 92 then ['\\', Char.ofNat n]
  else if isPrintable n then [Char.ofNat n]
  else escapeUnprintable n

/-- The quote for a text: the single one unless the text holds that one and not the double one. -/
def chooseQuote (points : List Nat) : Nat :=
  if points.contains 39 && !points.contains 34 then 34 else 39

/-- The text in quotes, as characters. -/
def quotePoints (points : List Nat) : List Char :=
  let quote := chooseQuote points
  Char.ofNat quote :: (points.flatMap (quotePoint quote) ++ [Char.ofNat quote])

/-- The code points of a text. -/
def points (s : String) : List Nat :=
  s.toList.map Char.toNat

/-- The text in quotes. -/
def quote (s : String) : String :=
  String.ofList (quotePoints (s.toList.map standsFor))

/-- One byte inside quotes: ASCII is printed, all else is escaped by number. -/
def quoteByte (quote : Nat) (n : Nat) : List Char :=
  if n = quote ∨ n = 92 then ['\\', Char.ofNat n]
  else if n = 9 then ['\\', 't']
  else if n = 10 then ['\\', 'n']
  else if n = 13 then ['\\', 'r']
  else if n < 32 ∨ 127 ≤ n then '\\' :: 'x' :: hexDigits 2 n
  else [Char.ofNat n]

/-- A sequence of bytes in quotes, marked as bytes. -/
def quoteBytes (bytes : List Nat) : List Char :=
  let quote := chooseQuote bytes
  'b' :: Char.ofNat quote :: (bytes.flatMap (quoteByte quote) ++ [Char.ofNat quote])

end VariantRepair.Text
