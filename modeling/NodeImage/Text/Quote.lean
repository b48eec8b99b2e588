import NodeImage.Unicode.Character

/-!
# Quoted text

The printed form of text and bytes inside error messages and printed collections: the
text between quotes, single ones unless the text holds a single quote and no double one.
The quote itself, the backslash, line feed, carriage return and tab are escaped by a
backslash; other characters that do not print as themselves (controls, separators other
than the space, format characters, private-use and unassigned code points) are written as
`\xhh`, `\uhhhh` or `\Uhhhhhhhh`, by the smallest form that holds them; a lone
surrogate is written as `\uhhhh`.
-/

namespace NodeImage

/-- Two hexadecimal digits of a byte or code point below 256. -/
def hex2 (n : Nat) : String :=
  let d := fun (k : Nat) => if k < 10 then Char.ofNat (48 + k) else Char.ofNat (87 + k)
  String.ofList [d (n / 16 % 16), d (n % 16)]

/-- Lower-case hexadecimal digits of a number, padded to a width. -/
def hexPadded (width n : Nat) : String :=
  let ds := (Nat.toDigits 16 n)
  String.ofList (List.replicate (width - ds.length) '0' ++ ds)

/-- Whether a character is printed as itself inside quoted text: control characters,
separators other than the space, format characters, private-use and unassigned code points
are escaped. -/
def printable (c : Char) : Bool := Unicode.isPrintable c.toNat

/-- One character of quoted text, escaped as needed. -/
def quoteChar (quote : Char) (c : Char) : String :=
  if c == quote || c == '\\' then String.ofList ['\\', c]
  else if c == '\n' then "\\n"
  else if c == '\r' then "\\r"
  else if c == '\t' then "\\t"
  else if let some s := Unicode.surrogateOf? c then "\\u" ++ hexPadded 4 s
  else if printable c then String.singleton c
  else if c.toNat < 0x100 then "\\x" ++ hex2 c.toNat
  else if c.toNat < 0x10000 then "\\u" ++ hexPadded 4 c.toNat
  else "\\U" ++ hexPadded 8 c.toNat

/-- Quoted text: single quotes unless the text holds a single quote and no double one. -/
def quoteText (s : String) : String :=
  let q := if s.contains '\'' && !s.contains '"' then '"' else '\''
  String.singleton q ++ String.join (s.toList.map (quoteChar q)) ++ String.singleton q

/-- Quoted bytes, `b'...'`. -/
def quoteBytes (bs : List UInt8) : String :=
  let hasSingle := bs.contains 39
  let q : UInt8 := if hasSingle && !bs.contains 34 then 34 else 39
  let one := fun (b : UInt8) =>
    let n := b.toNat
    if b == q || n == 92 then String.ofList ['\\', Char.ofNat n]
    else if n == 10 then "\\n" else if n == 13 then "\\r" else if n == 9 then "\\t"
    else if n < 32 || n ≥ 127 then "\\x" ++ hex2 n
    else String.singleton (Char.ofNat n)
  "b" ++ String.singleton (Char.ofNat q.toNat) ++ String.join (bs.map one) ++
    String.singleton (Char.ofNat q.toNat)

end NodeImage
