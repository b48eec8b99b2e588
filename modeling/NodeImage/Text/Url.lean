import NodeImage.Text.Utf8

/-!
# Percent-encoding

Text is quoted for a URL byte by byte over its UTF-8 encoding: letters, digits and
`_.-~` stand for themselves, so do the characters a caller declares safe, and every other
byte becomes `%` and two upper-case hexadecimal digits. In a query string a space is
written as `+`.
-/

namespace NodeImage.Text

/-- The upper-case hexadecimal digit of a number below 16. -/
def upperHexDigit (n : Nat) : Char := Char.ofNat (if n < 10 then 48 + n else 55 + n)

/-- Whether a byte stands for itself in a quoted URL. -/
def urlUnreserved (b : Nat) : Bool :=
  (48 ≤ b && b ≤ 57) || (65 ≤ b && b ≤ 90) || (97 ≤ b && b ≤ 122) ||
    b == 95 || b == 46 || b == 45 || b == 126

/-- The quoted form of bytes, keeping the unreserved ones and those listed as safe. -/
def quoteBytesForUrl (safe : List Nat) (bytes : List UInt8) : String :=
  String.ofList (bytes.flatMap fun b =>
    let n := b.toNat
    if urlUnreserved n || safe.contains n then [Char.ofNat n]
    else ['%', upperHexDigit (n / 16), upperHexDigit (n % 16)])

/-- The quoted form of text for a URL: `/` is kept in a path, and a space becomes `+` in
a query string. -/
def urlQuote (text : String) (forQuery : Bool) : String :=
  let quoted := quoteBytesForUrl (if forQuery then [] else [47]) (Utf8.encode text)
  if forQuery then quoted.replace "%20" "+" else quoted

end NodeImage.Text
