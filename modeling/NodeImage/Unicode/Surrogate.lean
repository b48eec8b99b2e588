/-!
# Lone surrogates

Text may arrive holding a lone surrogate: a JSON or YAML `\uD800` escape with no partner,
or such an escape in a template's string. A surrogate is a code point but not a character,
so a string cannot hold it as itself. It is held as a stand-in instead: surrogate
`0xD800 + k` is the code point `0x4D800 + k`, in plane 4, where no character is assigned.
Every place where a surrogate behaves differently from a character turns the stand-in back
into the surrogate it stands for: JSON and quoted output, encoding to UTF-8, and the order
of text.

A character type without the surrogates has 2048 fewer values than there are code points, so
a text cannot tell every code point apart: the 2048 of the stand-in block give way. A reader
that meets one of them (four UTF-8 bytes, a JSON or YAML pair of surrogate escapes) holds it as
the surrogate it would stand for, and the text then behaves as if it held that surrogate.
Every other code point is held as itself.
-/

namespace NodeImage.Unicode

/-- How far a stand-in lies above its surrogate. -/
def standInOffset : Nat := 0x40000

/-- Whether a code point is a surrogate. -/
def isSurrogate (n : Nat) : Bool := 0xD800 ≤ n && n ≤ 0xDFFF

/-- The stand-in of a surrogate. -/
def standIn (surrogate : Nat) : Char := Char.ofNat (surrogate + standInOffset)

/-- The surrogate a character stands for, if it is a stand-in. -/
def surrogateOf? (c : Char) : Option Nat :=
  if 0x4D800 ≤ c.toNat && c.toNat ≤ 0x4DFFF then
    some (c.toNat - standInOffset)
  else none

/-- The character holding a code point: a surrogate's stand-in, or the character itself. -/
def charOfCode (n : Nat) : Char := if isSurrogate n then standIn n else Char.ofNat n

/-- The code point a character holds: the surrogate for a stand-in. Text is ordered by
these. -/
def codeOfChar (c : Char) : Nat := (surrogateOf? c).getD c.toNat

end NodeImage.Unicode
