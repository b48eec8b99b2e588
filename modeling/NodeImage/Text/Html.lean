import NodeImage.Text.Numeral

/-!
# Character references of HTML

Replacing the character references of HTML text by the characters they stand for.

A reference starts with `&`. A numeric one is `#` and decimal digits or `#x` and
hexadecimal digits, with an optional `;`: the code points 0x80 to 0x9F stand for the
characters of the Windows-1252 code page there, zero for the replacement character, a
surrogate or a number beyond Unicode for the replacement character, and the code points
that are not characters (most controls and the noncharacters) for nothing. A named one is
up to 32 characters other than blanks, `<`, `&`, `#` and `;`, with an optional `;`: the
name is looked up with its `;`, and failing that the longest prefix that names a
character without one is replaced and the rest kept. Anything else stays as it is.
-/

namespace NodeImage.Text

/-- The characters the code points 0x80 to 0x9F stand for in a numeric reference. -/
def windowsCodePage : List Nat :=
  [0x20AC, 0x81, 0x201A, 0x0192, 0x201E, 0x2026, 0x2020, 0x2021, 0x02C6, 0x2030, 0x0160,
    0x2039, 0x0152, 0x8D, 0x017D, 0x8F, 0x90, 0x2018, 0x2019, 0x201C, 0x201D, 0x2022,
    0x2013, 0x2014, 0x02DC, 0x2122, 0x0161, 0x203A, 0x0153, 0x9D, 0x017E, 0x0178]

/-- Whether a code point is dropped when a numeric reference names it. -/
def droppedCodePoint (n : Nat) : Bool :=
  (0x1 ≤ n && n ≤ 0x8) || n == 0xB || (0xE ≤ n && n ≤ 0x1F) || (0x7F ≤ n && n ≤ 0x9F) ||
    (0xFDD0 ≤ n && n ≤ 0xFDEF) || n % 0x10000 == 0xFFFE || n % 0x10000 == 0xFFFF

/-- The text of a numeric reference to a code point. -/
def numericReference (n : Nat) : String :=
  if n == 0 then "�"
  else if n == 0xD then "\r"
  else if 0x80 ≤ n && n ≤ 0x9F then String.singleton (Char.ofNat (windowsCodePage[n - 0x80]!))
  else if (0xD800 ≤ n && n ≤ 0xDFFF) || n > 0x10FFFF then "�"
  else if droppedCodePoint n then ""
  else String.singleton (Char.ofNat n)

/-- Named references: those with `;`, and those that also stand without it. -/
def namedReferences : List (String × String) :=
  [("amp", "&"), ("lt", "<"), ("gt", ">"), ("quot", "\""), ("nbsp", " "),
    ("copy", "©"), ("reg", "®"), ("AMP", "&"), ("LT", "<"), ("GT", ">"),
    ("QUOT", "\""), ("COPY", "©"), ("REG", "®"), ("laquo", "«"),
    ("raquo", "»"), ("cent", "¢"), ("pound", "£"), ("yen", "¥"),
    ("sect", "§"), ("deg", "°"), ("plusmn", "±"), ("times", "×"),
    ("divide", "÷"), ("middot", "·"), ("para", "¶"), ("shy", "­"),
    ("iexcl", "¡"), ("iquest", "¿"), ("frac12", "½"), ("frac14", "¼"),
    ("frac34", "¾"), ("sup1", "¹"), ("sup2", "²"), ("sup3", "³"),
    ("acute", "´"), ("micro", "µ"), ("ordf", "ª"), ("ordm", "º"),
    ("not", "¬"), ("macr", "¯"), ("uml", "¨"), ("cedil", "¸"),
    ("curren", "¤"), ("brvbar", "¦"), ("szlig", "ß"), ("auml", "ä"),
    ("ouml", "ö"), ("uuml", "ü"), ("Auml", "Ä"), ("Ouml", "Ö"),
    ("Uuml", "Ü"), ("eacute", "é"), ("egrave", "è"), ("aacute", "á"),
    ("agrave", "à"), ("ccedil", "ç"), ("ntilde", "ñ")]

/-- Named references that need their `;`. -/
def namedReferencesWithSemicolon : List (String × String) :=
  [("apos", "'"), ("hellip", "…"), ("mdash", "—"), ("ndash", "–"),
    ("euro", "€"), ("trade", "™"), ("bull", "•"), ("lsquo", "‘"),
    ("rsquo", "’"), ("ldquo", "“"), ("rdquo", "”"), ("hearts", "♥"),
    ("larr", "←"), ("rarr", "→"), ("uarr", "↑"), ("darr", "↓"),
    ("dagger", "†"), ("Dagger", "‡"), ("permil", "‰"), ("prime", "′"),
    ("infin", "∞"), ("ne", "≠"), ("le", "≤"), ("ge", "≥"),
    ("alpha", "α"), ("beta", "β"), ("gamma", "γ"), ("delta", "δ"),
    ("pi", "π"), ("sigma", "σ"), ("omega", "ω"), ("lambda", "λ"),
    ("mu", "μ"), ("tab", "\t"), ("newline", "\n"), ("colon", ":"), ("comma", ","),
    ("period", "."), ("semi", ";"), ("excl", "!"), ("quest", "?"), ("num", "#"),
    ("dollar", "$"), ("percnt", "%"), ("lpar", "("), ("rpar", ")"), ("ast", "*"),
    ("plus", "+"), ("sol", "/"), ("equals", "="), ("commat", "@"), ("lsqb", "["),
    ("rsqb", "]"), ("bsol", "\\"), ("lowbar", "_"), ("grave", "\x60"), ("verbar", "|"),
    ("lcub", "\x7b"), ("rcub", "\x7d"), ("Hat", "^")]

/-- The text of a named reference, its `;` included when it was written. -/
def namedReference (name : String) : String :=
  let withSemi := name.endsWith ";"
  let bare := if withSemi then String.ofList (name.toList.dropLast) else name
  let exact := if withSemi then
      (namedReferences.lookup bare).orElse fun _ => namedReferencesWithSemicolon.lookup bare
    else namedReferences.lookup bare
  match exact with
  | some t => t
  | none =>
    let cs := name.toList
    let prefixes := (List.range (cs.length - 1)).reverse.filterMap fun k =>
      let x := k + 1
      if x ≥ 2 then
        (namedReferences.lookup (String.ofList (cs.take x))).map fun t =>
          t ++ String.ofList (cs.drop x)
      else none
    match prefixes.head? with
    | some t => t
    | none => "&" ++ name

/-- Whether a character may be part of a reference name. -/
def referenceNameChar (c : Char) : Bool :=
  !(c == '\t' || c == '\n' || c == '\x0c' || c == ' ' || c == '<' || c == '&' || c == '#' || c == ';')

/-- Whether a character is a hexadecimal digit. -/
def isHexDigit (c : Char) : Bool :=
  c.isDigit || ('a' ≤ c && c ≤ 'f') || ('A' ≤ c && c ≤ 'F')

/-- Replaces the character references of HTML text; `fuel` bounds the characters read. -/
def unescapeFrom : Nat → List Char → String
  | 0, cs => String.ofList cs
  | _ + 1, [] => ""
  | fuel + 1, '&' :: '#' :: rest =>
    let (hex, body) := match rest with
      | x :: r => if x == 'x' || x == 'X' then (true, r) else (false, rest)
      | [] => (false, rest)
    let digits := body.takeWhile fun c => if hex then isHexDigit c else ('0' ≤ c && c ≤ '9')
    if digits.isEmpty then "&#" ++ unescapeFrom fuel rest
    else
      let after := body.drop digits.length
      let after := match after with
        | ';' :: r => r
        | r => r
      let n := valueOfDigits (if hex then 16 else 10) (digits.map digitValue)
      numericReference n ++ unescapeFrom fuel after
  | fuel + 1, '&' :: rest =>
    let name := (rest.takeWhile referenceNameChar).take 32
    if name.isEmpty then "&" ++ unescapeFrom fuel rest
    else
      let after := rest.drop name.length
      let (name, after) := match after with
        | ';' :: r => (name ++ [';'], r)
        | r => (name, r)
      namedReference (String.ofList name) ++ unescapeFrom fuel after
  | fuel + 1, c :: rest => String.singleton c ++ unescapeFrom fuel rest

/-- Replaces the character references of HTML text by their characters. -/
def unescapeHtml (s : String) : String := unescapeFrom (s.length + 1) s.toList

end NodeImage.Text
