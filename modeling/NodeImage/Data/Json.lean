import NodeImage.Data.Value

/-!
# JSON text

Reading JSON text into document values and writing document values as JSON text.

Reading keeps what the text says about numbers: a number written without a fraction or an
exponent is an integer of any size, any other number a double; the words `NaN`,
`Infinity` and `-Infinity` are doubles too. An object becomes a mapping in the order of its
members, a repeated member keeping its first place and taking its last value.

Writing (`Json.write`) puts `", "` between items and `": "` after keys, writes printable
ASCII text other than quotes and backslashes as it is and every other character as an
escape (characters beyond the first plane as two surrogate escapes), and writes doubles in their
shortest form, with `NaN`, `Infinity` and `-Infinity` for the values that have no decimal.
Values that JSON has no form for are written by the rule `Json.Encoding` gives.
-/

namespace NodeImage.Json

/-- Skips JSON white space. -/
def skipBlank : List Char → List Char
  | c :: cs => if c == ' ' || c == '\t' || c == '\n' || c == '\r' then skipBlank cs else c :: cs
  | [] => []

/-- The value of a hexadecimal digit. -/
def hexDigit? (c : Char) : Option Nat :=
  if '0' ≤ c && c ≤ '9' then some (c.toNat - '0'.toNat)
  else if 'a' ≤ c && c ≤ 'f' then some (c.toNat - 'a'.toNat + 10)
  else if 'A' ≤ c && c ≤ 'F' then some (c.toNat - 'A'.toNat + 10)
  else none

/-- Four hexadecimal digits. -/
def hex4? : List Char → Option (Nat × List Char)
  | a :: b :: c :: d :: rest => do
    let a ← hexDigit? a
    let b ← hexDigit? b
    let c ← hexDigit? c
    let d ← hexDigit? d
    pure (((a * 16 + b) * 16 + c) * 16 + d, rest)
  | _ => none

/-- The character of a code point; a surrogate that stands alone is held by its stand-in. -/
def codeChar (n : Nat) : Char := Unicode.charOfCode n

/-- The body of a string after its opening quote, up to and without the closing quote. -/
def readString : Nat → List Char → Option (List Char × List Char)
  | 0, _ => none
  | _ + 1, [] => none
  | fuel + 1, c :: cs =>
    if c == '"' then some ([], cs)
    else if c == '\\' then
      match cs with
      | e :: rest =>
        let simple := fun (x : Char) => (readString fuel rest).map fun (s, r) => (x :: s, r)
        if e == '"' then simple '"'
        else if e == '\\' then simple '\\'
        else if e == '/' then simple '/'
        else if e == 'b' then simple (Char.ofNat 8)
        else if e == 'f' then simple (Char.ofNat 12)
        else if e == 'n' then simple '\n'
        else if e == 'r' then simple '\r'
        else if e == 't' then simple '\t'
        else if e == 'u' then do
          let (hi, rest) ← hex4? rest
          if 0xD800 ≤ hi && hi ≤ 0xDBFF then
            match rest with
            | '\\' :: 'u' :: more =>
              match hex4? more with
              | some (lo, rest') =>
                if 0xDC00 ≤ lo && lo ≤ 0xDFFF then
                  let n := 0x10000 + (hi - 0xD800) * 0x400 + (lo - 0xDC00)
                  (readString fuel rest').map fun (s, r) => (Char.ofNat n :: s, r)
                else (readString fuel rest).map fun (s, r) => (codeChar hi :: s, r)
              | none => none
            | _ => (readString fuel rest).map fun (s, r) => (codeChar hi :: s, r)
          else (readString fuel rest).map fun (s, r) => (codeChar hi :: s, r)
        else none
      | [] => none
    else (readString fuel cs).map fun (s, r) => (c :: s, r)

/-- Digits from the front of a character list. -/
def spanDigits (cs : List Char) : List Char × List Char :=
  (cs.takeWhile Char.isDigit, cs.dropWhile Char.isDigit)

/-- A number: an integer when it has neither fraction nor exponent, else a double. -/
def readNumber (cs : List Char) : Option (Value × List Char) :=
  let (sign, afterSign) := match cs with
    | '-' :: r => (['-'], r)
    | r => ([], r)
  let (whole, r1) := spanDigits afterSign
  if whole.isEmpty then none
  else
    let (frac, r2) := match r1 with
      | '.' :: r => let (f, r') := spanDigits r; ('.' :: f, r')
      | r => ([], r)
    let (expo, r3) := match r2 with
      | e :: r =>
        if e == 'e' || e == 'E' then
          let (s, r') := match r with
            | '+' :: r'' => (['+'], r'')
            | '-' :: r'' => (['-'], r'')
            | r'' => ([], r'')
          let (d, r'') := spanDigits r'
          (e :: s ++ d, r'')
        else ([], e :: r)
      | [] => ([], [])
    if frac.isEmpty && expo.isEmpty then
      let n : Int := Text.digitsValue whole
      some (.int (if sign.isEmpty then n else -n), r3)
    else
      (Text.readDecimal? (String.ofList (sign ++ whole ++ frac ++ expo))).map fun x => (.float x, r3)

/-- Whether a list starts with a word. -/
def startsWith (cs : List Char) (w : String) : Bool := w.toList.isPrefixOf cs

mutual
/-- One JSON value from the front of the text, after white space. -/
def readValue : Nat → List Char → Option (Value × List Char)
  | 0, _ => none
  | fuel + 1, cs =>
    match skipBlank cs with
    | '{' :: rest => readMembers fuel [] (skipBlank rest) true
    | '[' :: rest => readItems fuel [] (skipBlank rest) true
    | '"' :: rest => (readString (rest.length + 1) rest).map fun (s, r) => (.str (String.ofList s), r)
    | cs' =>
      if startsWith cs' "true" then some (.bool true, cs'.drop 4)
      else if startsWith cs' "false" then some (.bool false, cs'.drop 5)
      else if startsWith cs' "null" then some (.null, cs'.drop 4)
      else if startsWith cs' "NaN" then some (.float (0.0 / 0.0), cs'.drop 3)
      else if startsWith cs' "Infinity" then some (.float (1.0 / 0.0), cs'.drop 8)
      else if startsWith cs' "-Infinity" then some (.float (-1.0 / 0.0), cs'.drop 9)
      else readNumber cs'

/-- The items of an array after its opening bracket. -/
def readItems : Nat → List Value → List Char → Bool → Option (Value × List Char)
  | 0, _, _, _ => none
  | fuel + 1, acc, cs, first =>
    match cs with
    | ']' :: rest => if first then some (.seq acc.reverse, rest) else none
    | _ => do
      let (v, rest) ← readValue fuel cs
      match skipBlank rest with
      | ',' :: more => readItems fuel (v :: acc) (skipBlank more) false
      | ']' :: more => some (.seq (v :: acc).reverse, more)
      | _ => none

/-- The members of an object after its opening brace. -/
def readMembers : Nat → List (Value × Value) → List Char → Bool → Option (Value × List Char)
  | 0, _, _, _ => none
  | fuel + 1, acc, cs, first =>
    match cs with
    | '}' :: rest => if first then some (.map (Value.entriesOf acc.reverse), rest) else none
    | '"' :: rest => do
      let (k, rest) ← readString (rest.length + 1) rest
      match skipBlank rest with
      | ':' :: more =>
        let (v, rest) ← readValue fuel more
        let acc := (Value.str (String.ofList k), v) :: acc
        match skipBlank rest with
        | ',' :: more => readMembers fuel acc (skipBlank more) false
        | '}' :: more => some (.map (Value.entriesOf acc.reverse), more)
        | _ => none
      | _ => none
    | _ => none
end

/-- Reads a whole JSON text; nothing but white space may follow the value. -/
def read? (s : String) : Option Value :=
  let cs := s.toList
  match readValue (cs.length + 2) cs with
  | some (v, rest) => if (skipBlank rest).isEmpty then some v else none
  | none => none

/-- One character inside a JSON string. -/
def escapeChar (c : Char) : String :=
  if c == '"' then "\\\""
  else if c == '\\' then "\\\\"
  else if c == '\n' then "\\n"
  else if c == '\r' then "\\r"
  else if c == '\t' then "\\t"
  else if c.toNat == 8 then "\\b"
  else if c.toNat == 12 then "\\f"
  else if let some s := Unicode.surrogateOf? c then "\\u" ++ hexPadded 4 s
  else if c.toNat < 0x20 || c.toNat ≥ 0x7F then
    if c.toNat < 0x10000 then "\\u" ++ hexPadded 4 c.toNat
    else
      let v := c.toNat - 0x10000
      "\\u" ++ hexPadded 4 (0xD800 + v / 0x400) ++ "\\u" ++ hexPadded 4 (0xDC00 + v % 0x400)
  else String.singleton c

/-- A JSON string literal. -/
def quote (s : String) : String := "\"" ++ String.join (s.toList.map escapeChar) ++ "\""

/-- A double as a JSON number, or as the word for a value with no decimal. -/
def floatLiteral (x : Float) : String :=
  if x.isNaN then "NaN"
  else if x.isInf then (if x < 0 then "-Infinity" else "Infinity")
  else Text.floatText x

mutual
/-- JSON text of a value; values that JSON has no form for are written as null (see
`Encoding.apply` for replacing them first). -/
def write : Value → String
  | .null => "null"
  | .bool b => if b then "true" else "false"
  | .int i => toString i
  | .float x => floatLiteral x
  | .str s => quote s
  | .seq xs => "[" ++ writeItems xs ++ "]"
  | .map es => "\x7b" ++ writeMembers es ++ "\x7d"
  | _ => "null"

/-- Items separated by commas. -/
def writeItems : List Value → String
  | [] => ""
  | [x] => write x
  | x :: xs => write x ++ ", " ++ writeItems xs

/-- Members separated by commas; a key that is not text is written as its JSON text. -/
def writeMembers : List (Value × Value) → String
  | [] => ""
  | [(k, v)] => writeKey k ++ ": " ++ write v
  | (k, v) :: es => writeKey k ++ ": " ++ write v ++ ", " ++ writeMembers es

/-- A member's key. -/
def writeKey : Value → String
  | .str s => quote s
  | k => quote (write k)
end

/-- How the values that JSON has no form for are written: a scalar with no JSON form is
replaced by a JSON value of its own (`scalar`), and a set by a JSON value built from its
already replaced items (`set`). -/
structure Encoding where
  scalar : Value → Option Value
  set : List Value → Value

mutual
/-- Replaces the values that JSON has no form for, and turns every mapping key that is not
text into the JSON text of its replacement. -/
def Encoding.apply (enc : Encoding) : Value → Value
  | .seq xs => .seq (Encoding.applyItems enc xs)
  | .set xs => enc.set (Encoding.applyItems enc xs)
  | .map es => .map (Encoding.applyEntries enc es)
  | v => (enc.scalar v).getD v

/-- Replaces within items. -/
def Encoding.applyItems (enc : Encoding) : List Value → List Value
  | [] => []
  | x :: xs => Encoding.apply enc x :: Encoding.applyItems enc xs

/-- Replaces within entries, keys included. -/
def Encoding.applyEntries (enc : Encoding) : List (Value × Value) → List (Value × Value)
  | [] => []
  | (k, v) :: es =>
    let key := match k with
      | .str s => Value.str s
      | _ => Value.str (write (Encoding.apply enc k))
    (key, Encoding.apply enc v) :: Encoding.applyEntries enc es
end

end NodeImage.Json
