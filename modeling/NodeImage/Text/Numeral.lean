import NodeImage.Text.FloatText
import NodeImage.Text.Quote

/-!
# Reading numbers from text

How text converts to integers and doubles, the way the conversion functions of the
templates' and documents' host language read it.

Before reading, the text is brought to ASCII: white space of any script becomes a blank,
a decimal digit of any script becomes its ASCII digit, and the first other character
beyond ASCII cuts the text short with a character that no reader accepts. ASCII white
space around the number is then ignored.

* An integer is an optional sign and digits of the base, single underscores allowed
  between digits. Base 16, 8 and 2 numbers may carry their `0x`, `0o`, `0b` prefix, with
  one underscore after it; base 0 takes the base from the prefix, and without one reads
  decimal digits that may not start with a zero unless the number is zero. Decimal
  numbers of more than 4300 digits are refused.
* A double is an optional sign and `inf`, `infinity` or `nan` in any case, or decimal
  digits with an optional fraction and exponent, at least one digit before the exponent.
  Underscores may stand only between two digits.

A refused integer is reported with the base and the quoted text (cut to 200 characters);
a refused double with the quoted text.
-/

namespace NodeImage.Text

/-- Whether a character is ASCII white space, as the readers skip it. -/
def isAsciiSpace (c : Char) : Bool :=
  c == ' ' || c == '\t' || c == '\n' || c == '\x0b' || c == '\x0c' || c == '\r'

/-- The text brought to ASCII for reading a number: white space becomes a blank, decimal
digits become ASCII digits, and the first other character beyond ASCII ends the text as
a `?`. -/
def numeralChars : List Char → List Char
  | [] => []
  | c :: cs =>
    if c.toNat < 127 then c :: numeralChars cs
    else if Unicode.isSpace c.toNat then ' ' :: numeralChars cs
    else match Unicode.decimalValue? c.toNat with
      | some d => Char.ofNat (48 + d) :: numeralChars cs
      | none => ['?']

/-- The value of a character as a digit in bases up to 36; 37 for any other. -/
def digitValue (c : Char) : Nat :=
  if '0' ≤ c && c ≤ '9' then c.toNat - 48
  else if 'a' ≤ c && c ≤ 'z' then c.toNat - 87
  else if 'A' ≤ c && c ≤ 'Z' then c.toNat - 55
  else 37

/-- Why text is not an integer. -/
inductive IntRefusal where
  /-- The text is not an integer in the base. -/
  | invalid
  /-- A decimal number with more digits than allowed; the count of its digits. -/
  | tooManyDigits (count : Nat)
deriving DecidableEq, Repr

/-- The longest decimal numbers read. -/
def maxDecimalDigits : Nat := 4300

/-- Digits of a base with single underscores between them, from the front of some text:
the digits (underscores dropped), and the rest; none when an underscore comes first, is
doubled or comes last. -/
def digitsWithUnderscores (base : Nat) : List Char → Option (List Nat × List Char)
  | '_' :: _ => none
  | cs =>
    let rec go : List Char → Bool → Option (List Nat × List Char)
      | '_' :: rest, afterDigit =>
        if afterDigit then
          match rest with
          | c :: _ => if digitValue c < base then go rest false else none
          | [] => none
        else none
      | c :: rest, _ =>
        if digitValue c < base then
          (go rest true).map fun (ds, r) => (digitValue c :: ds, r)
        else some ([], c :: rest)
      | [], _ => some ([], [])
    go cs false

/-- The number written by digits of a base, most significant first. -/
def valueOfDigits (base : Nat) (ds : List Nat) : Nat := ds.foldl (fun acc d => acc * base + d) 0

/-- Reads an integer in a base (0 or 2 to 36) from text already brought to ASCII. -/
def readIntAscii (cs : List Char) (base : Nat) : Except IntRefusal Int := do
  let cs := cs.dropWhile isAsciiSpace
  let (negative, cs) := match cs with
    | '+' :: r => (false, r)
    | '-' :: r => (true, r)
    | r => (false, r)
  let prefixBase : Option Nat := match cs with
    | '0' :: p :: _ =>
      if p == 'x' || p == 'X' then some 16
      else if p == 'o' || p == 'O' then some 8
      else if p == 'b' || p == 'B' then some 2
      else none
    | _ => none
  let (base, zeroOnly) :=
    if base == 0 then
      match prefixBase with
      | some b => (b, false)
      | none => (10, cs.head? == some '0')
    else (base, false)
  let cs := if prefixBase == some base then
      match cs.drop 2 with
      | '_' :: r => r
      | r => r
    else cs
  let some (ds, rest) := digitsWithUnderscores base cs | throw .invalid
  if ds.isEmpty then throw .invalid
  if !(rest.dropWhile isAsciiSpace).isEmpty then throw .invalid
  if base == 10 && ds.length > maxDecimalDigits then throw (.tooManyDigits ds.length)
  let n := valueOfDigits base ds
  if zeroOnly && n != 0 then throw .invalid
  return if negative then -(n : Int) else n

/-- The message for text that is not an integer in a base. -/
def intRefusalMessage (base : Nat) (text : String) : IntRefusal → String
  | .invalid => "invalid literal for int() with base " ++ toString base ++ ": " ++
      String.ofList ((quoteText text).toList.take 200)
  | .tooManyDigits n => "Exceeds the limit (4300 digits) for integer string conversion: " ++
      "value has " ++ toString n ++ " digits; use sys.set_int_max_str_digits() to increase the limit"

/-- Reads an integer in a base (0 or 2 to 36) from text, or the message refusing it. -/
def readInt (text : String) (base : Nat) : Except String Int :=
  match readIntAscii (numeralChars text.toList) base with
  | .ok i => .ok i
  | .error r => .error (intRefusalMessage base text r)

/-- Text with underscores removed when each stands between two digits; none otherwise. -/
def dropDigitUnderscores (cs : List Char) : Option (List Char) :=
  let rec go : Option Char → List Char → Option (List Char)
    | prev, '_' :: rest =>
      let afterDigit := match prev with
        | some p => p.isDigit
        | none => false
      match rest with
      | c :: _ => if afterDigit && c.isDigit then go (some '_') rest else none
      | [] => none
    | _, c :: rest => (c :: ·) <$> go (some c) rest
    | _, [] => some []
  go none cs

/-- Whether some text names infinity or NaN, in any case: the value, with its sign. -/
def specialDouble? (cs : List Char) : Option Float :=
  let (negative, body) := match cs with
    | '-' :: r => (true, r)
    | '+' :: r => (false, r)
    | r => (false, r)
  let word := String.ofList (body.map Char.toLower)
  if word == "inf" || word == "infinity" then
    some (if negative then -Number.infinity else Number.infinity)
  else if word == "nan" then some Number.notANumber
  else none

/-- Reads a double from text, or none. -/
def readDouble? (text : String) : Option Float := do
  let cs := numeralChars text.toList
  let cs := ((cs.dropWhile isAsciiSpace).reverse.dropWhile isAsciiSpace).reverse
  if cs.contains '\x00' then none
  let cs ← dropDigitUnderscores cs
  match specialDouble? cs with
  | some x => some x
  | none =>
    let body := match cs with
      | '+' :: r | '-' :: r => r
      | r => r
    if body.all fun c => c.isDigit || c == '.' || c == 'e' || c == 'E' || c == '+' || c == '-' then
      let lead := match body with
        | '.' :: d :: _ => d.isDigit
        | d :: _ => d.isDigit
        | [] => false
      if lead then readDecimal? (String.ofList cs) else none
    else none

/-- Reads a double from text, or the message refusing it. -/
def readDouble (text : String) : Except String Float :=
  match readDouble? text with
  | some x => .ok x
  | none => .error ("could not convert string to float: " ++ quoteText text)

end NodeImage.Text
