import NodeImage.Template.Access

/-!
# Formatting values into text

Two ways of formatting values into a text: with `%` directives (`'%5.2f' % x`), which the
`%` operator on texts and the `format` filter use, and with replacement fields
(`'{0:>5}'.format(x)`), which the `format` method of texts uses.

Floats are formatted from their exact binary value: a fixed number of decimals, or of
significant digits in scientific notation, is obtained by rounding that exact value half
to even, so `'%.2f' % 2.675` is `2.67` because the double nearest to 2.675 lies below it.
General notation (`g`) picks fixed or scientific notation by the decimal exponent and drops
trailing zeros.

The directives and the format specifications follow their usual grammar: flags, width,
precision and conversion type for `%`; fill, alignment, sign, alternate form, zero
padding, width, grouping, precision and type for replacement fields. The errors for a bad
directive, a missing or extra argument and an argument of the wrong type are the usual
ones.
-/

namespace NodeImage.Template

namespace Format

/-- `2 ^ 1074`, the denominator of exact double values. -/
def doubleScale : Nat := Nat.pow 2 1074

/-- `10 ^ n`. -/
def pow10 (n : Nat) : Nat := Nat.pow 10 n

/-- The number of decimal digits of a natural number (one for zero). -/
def digitCount (n : Nat) : Nat := (toString n).length

/-- Pads text on the left with a character to a width. -/
def padStart (c : Char) (width : Nat) (s : String) : String :=
  String.ofList (List.replicate (width - s.length) c) ++ s

/-- The greatest `k` with `10 ^ k ≤ scaled / 2 ^ 1074`, for a positive `scaled`. -/
def decimalExponent (scaled : Nat) : Int :=
  let guess : Int := (digitCount scaled : Int) - (digitCount doubleScale : Int)
  let atMost := fun (k : Int) =>
    if k ≥ 0 then pow10 k.toNat * doubleScale ≤ scaled else doubleScale ≤ scaled * pow10 k.natAbs
  if atMost (guess + 1) then guess + 1 else if atMost guess then guess else guess - 1

/-- The digits of `scaled / 2 ^ 1074` with `prec` decimals, rounded half to even. -/
def fixedDigits (scaled prec : Nat) : Nat :=
  Number.roundHalfEven (scaled * pow10 prec) doubleScale

/-- Fixed notation of a magnitude with `prec` decimals; `alt` keeps the point without
decimals. -/
def fixedText (scaled prec : Nat) (alt : Bool) : String :=
  let s := padStart '0' (prec + 1) (toString (fixedDigits scaled prec))
  let whole := String.ofList (s.toList.take (s.length - prec))
  let frac := String.ofList (s.toList.drop (s.length - prec))
  if prec == 0 then whole ++ (if alt then "." else "") else whole ++ "." ++ frac

/-- The `prec + 1` significant digits of a positive magnitude, rounded half to even, and
its decimal exponent after rounding. -/
def significant (scaled prec : Nat) : Nat × Int :=
  if scaled == 0 then (0, 0)
  else
    let k := decimalExponent scaled
    let shift : Int := (prec : Int) - k
    let n := if shift ≥ 0 then Number.roundHalfEven (scaled * pow10 shift.toNat) doubleScale
      else Number.roundHalfEven scaled (doubleScale * pow10 shift.natAbs)
    if n ≥ pow10 (prec + 1) then (n / 10, k + 1) else (n, k)

/-- The exponent part of scientific notation: a sign and at least two digits. -/
def exponentText (e : Int) (upper : Bool) : String :=
  (if upper then "E" else "e") ++ (if e < 0 then "-" else "+") ++ padStart '0' 2 (toString e.natAbs)

/-- Scientific notation of a magnitude with `prec` decimals. -/
def expText (scaled prec : Nat) (alt upper : Bool) : String :=
  let (n, e) := significant scaled prec
  let ds := padStart '0' (prec + 1) (toString n)
  let first := String.ofList (ds.toList.take 1)
  let rest := String.ofList (ds.toList.drop 1)
  first ++ (if prec == 0 then (if alt then "." else "") else "." ++ rest) ++ exponentText e upper

/-- Drops trailing zeros after a decimal point, and the point when nothing follows it. -/
def trimZeros (s : String) : String :=
  if s.contains '.' then
    let t := (s.toList.reverse.dropWhile (· == '0')).reverse
    String.ofList (if t.getLast? == some '.' then t.dropLast else t)
  else s

/-- General notation of a magnitude with `prec` significant digits: fixed notation for
decimal exponents from -4 up to the precision (one less when `addDot`), scientific
otherwise, trailing zeros dropped unless `alt`; `addDot` keeps one decimal on whole
numbers. -/
def generalText (scaled prec : Nat) (alt upper addDot : Bool) : String :=
  let p := if prec == 0 then 1 else prec
  let (_, e) := significant scaled (p - 1)
  let e := if scaled == 0 then 0 else e
  let limit : Int := if addDot then (p : Int) - 1 else p
  if e < -4 || e + 1 > limit then
    let t := expText scaled (p - 1) alt upper
    if alt then t
    else
      let parts := t.splitOn (if upper then "E" else "e")
      match parts with
      | [mant, ex] => trimZeros mant ++ (if upper then "E" else "e") ++ ex
      | _ => t
  else
    let decimals := ((p : Int) - 1 - e).toNat
    let t := fixedText scaled decimals alt
    let t := if alt then t else trimZeros t
    if addDot && !t.contains '.' then t ++ ".0" else t

/-- The sign and magnitude of a finite double; none for infinities and NaN. -/
def magnitude? (x : Float) : Option (Bool × Nat) :=
  (Number.exactValue? x).map fun e => (e.negative, e.scaled)

/-- A float formatted by a conversion type (`e`, `f`, `g` or `r` for the shortest form),
as a sign flag and the text of its magnitude. -/
def floatBody (x : Float) (kind : Char) (prec : Option Nat) (alt addDot : Bool) : Bool × String :=
  let upper := kind.isUpper
  match magnitude? x with
  | Option.none =>
    let word := if x.isNaN then "nan" else "inf"
    (!x.isNaN && x < 0, if upper then word.toUpper else word)
  | some (negative, scaled) =>
    let k := kind.toLower
    let body :=
      if k == 'f' then fixedText scaled (prec.getD 6) alt
      else if k == 'e' then expText scaled (prec.getD 6) alt upper
      else if k == 'g' then generalText scaled (prec.getD 6) alt upper addDot
      else
        let t := Text.floatText x
        if t.startsWith "-" then String.ofList (t.toList.drop 1) else t
    (negative, body)

/-- Inserts a separator between groups of `size` digits, from the right. -/
def group (digits : String) (sep : String) (size : Nat) : String :=
  let cs := digits.toList.reverse
  let rec go : Nat → List Char → List Char
    | _, [] => []
    | i, c :: rest =>
      if i > 0 && i % size == 0 then (sep.toList.reverse ++ [c]) ++ go (i + 1) rest
      else c :: go (i + 1) rest
  String.ofList (go 0 cs).reverse

/-- Digits of a natural number in a base (2, 8, 10 or 16). -/
def digitsIn (base : Nat) (n : Nat) (upper : Bool) : String :=
  let s := String.ofList (Nat.toDigits base n)
  if upper then s.toUpper else s

end Format

/-- A parsed format specification of a replacement field. -/
structure FormatSpec where
  fill : Char := ' '
  align : Option Char := none
  sign : Char := '-'
  alt : Bool := false
  zero : Bool := false
  width : Nat := 0
  grouping : Option Char := none
  precision : Option Nat := none
  kind : Option Char := none

namespace FormatSpec

/-- Reads decimal digits from the front of a character list. -/
def readNat (cs : List Char) : Option Nat × List Char :=
  let ds := cs.takeWhile Char.isDigit
  if ds.isEmpty then (none, cs)
  else (some (ds.foldl (fun acc c => acc * 10 + (c.toNat - 48)) 0), cs.drop ds.length)

/-- Parses a format specification. -/
def parse (spec : String) : Except Failure FormatSpec := do
  let cs := spec.toList
  let isAlign := fun (c : Char) => c == '<' || c == '>' || c == '^' || c == '='
  let (fill, align, cs) := match cs with
    | f :: a :: rest => if isAlign a then (f, some a, rest)
      else if isAlign f then (' ', some f, a :: rest) else (' ', none, cs)
    | [a] => if isAlign a then (' ', some a, []) else (' ', none, cs)
    | [] => (' ', none, [])
  let (sign, cs) := match cs with
    | c :: rest => if c == '+' || c == '-' || c == ' ' then (c, rest) else ('-', cs)
    | [] => ('-', [])
  let cs := match cs with
    | 'z' :: rest => rest
    | _ => cs
  let (alt, cs) := match cs with
    | '#' :: rest => (true, rest)
    | _ => (false, cs)
  let (zero, cs) := match cs with
    | '0' :: rest => (true, rest)
    | _ => (false, cs)
  let (width, cs) := readNat cs
  let (grouping, cs) := match cs with
    | ',' :: rest => (some ',', rest)
    | '_' :: rest => (some '_', rest)
    | _ => (none, cs)
  let (precision, cs) ← match cs with
    | '.' :: rest =>
      match readNat rest with
      | (some p, rest') => pure (some p, rest')
      | (none, _) => throw (.valueError "Format specifier missing precision")
    | _ => pure (none, cs)
  let base : FormatSpec :=
    { fill := fill, align := align, sign := sign, alt := alt,
      zero := zero, width := width.getD 0, grouping := grouping, precision := precision }
  match cs with
  | [] => return base
  | [k] => return { base with kind := some k }
  | _ => throw (.valueError "Invalid format specifier")

/-- Pads a formatted value to the width: `prefix` is its sign and base prefix, which
`=` alignment keeps in front of the padding; `number` picks the default alignment. -/
def pad (s : FormatSpec) (pre body : String) (number : Bool) : String :=
  let (fill, align) :=
    if s.zero && s.align.isNone then ('0', some '=') else (s.fill, s.align)
  let align := align.getD (if number then '>' else '<')
  let len := pre.length + body.length
  if len ≥ s.width then pre ++ body
  else
    let n := s.width - len
    let rep := fun (k : Nat) => String.ofList (List.replicate k fill)
    match align with
    | '<' => pre ++ body ++ rep n
    | '^' => rep (n / 2) ++ pre ++ body ++ rep (n - n / 2)
    | '=' => pre ++ rep n ++ body
    | _ => rep n ++ pre ++ body

/-- The sign text of a number. -/
def signText (s : FormatSpec) (negative : Bool) : String :=
  if negative then "-" else if s.sign == '+' then "+" else if s.sign == ' ' then " " else ""

end FormatSpec

namespace Datum

/-- The printable form of a value with every character outside ASCII escaped. -/
def asciiRepr (d : Datum) : HeapM String := do
  let r ← repr d
  return String.join (r.toList.map fun c =>
    if c.toNat < 128 then String.singleton c
    else if c.toNat < 0x100 then "\\x" ++ hex2 c.toNat
    else if c.toNat < 0x10000 then "\\u" ++ hexPadded 4 c.toNat
    else "\\U" ++ hexPadded 8 c.toNat)

/-- Converts an integer to a float, refusing one too large. -/
def intToFloat (i : Int) : Except Failure Float :=
  match Number.ofInt? i with
  | some x => .ok x
  | Option.none => .error (.host "OverflowError" "int too large to convert to float")

/-- The integer part of a float, refusing infinities and NaN. -/
def floatToInt (x : Float) : Except Failure Int :=
  if x.isNaN then .error (.valueError "cannot convert float NaN to integer")
  else match Number.exactValue? x with
    | some e => .ok e.truncate
    | Option.none => .error (.host "OverflowError" "cannot convert float infinity to integer")

/-- A value formatted by a format specification, as the `format` builtin does. -/
def formatWith (d : Datum) (specText : String) : HeapM String := do
  let typeName ← d.typeName
  let unknown := fun (k : Char) =>
    Failure.valueError ("Unknown format code " ++ quoteText (String.singleton k) ++
      " for object of type " ++ quoteText typeName)
  let asFloat := fun (s : FormatSpec) (x : Float) (kind : Char) => do
    let (kind, x, percent) := if kind == '%' then ('f', x * 100.0, true) else (kind, x, false)
    let addDot := s.kind.isNone
    let kind := if s.kind.isNone then (if s.precision.isSome then 'g' else 'r') else kind
    let (negative, body) := Format.floatBody x kind s.precision s.alt addDot
    let body := match s.grouping with
      | some g =>
        let (whole, rest) := (body.takeWhile Char.isDigit, body.dropWhile Char.isDigit)
        Format.group whole.toString (String.singleton g) 3 ++ rest.toString
      | Option.none => body
    let body := if percent then body ++ "%" else body
    return s.pad (s.signText negative) body true
  match d with
  | .str t | .markup t =>
    let s ← liftExcept (FormatSpec.parse specText)
    match s.kind with
    | Option.none | some 's' =>
      if s.sign != '-' then throw (.valueError "Sign not allowed in string format specifier")
      if s.align == some '=' then
        throw (.valueError "'=' alignment not allowed in string format specifier")
      let body := match s.precision with
        | some p => String.ofList (t.toList.take p)
        | Option.none => t
      return s.pad "" body false
    | some k => throw (unknown k)
  | .bool _ | .int _ =>
    if specText.isEmpty then return ← toText d
    let i := (d.index?).getD 0
    let s ← liftExcept (FormatSpec.parse specText)
    let k := s.kind.getD 'd'
    if ['e', 'E', 'f', 'F', 'g', 'G', '%'].contains k then
      asFloat s (← liftExcept (intToFloat i)) k
    else if k == 'c' then
      if i < 0 || i ≥ 0x110000 then throw (.host "OverflowError" "%c arg not in range(0x110000)")
      return s.pad "" (String.singleton (Char.ofNat i.toNat)) false
    else
      let (base, pre) := match k with
        | 'b' => (2, "0b") | 'o' => (8, "0o") | 'x' => (16, "0x") | 'X' => (16, "0X")
        | _ => (10, "")
      if !(['b', 'o', 'x', 'X', 'd', 'n'].contains k) then throw (unknown k)
      let digits := Format.digitsIn base i.natAbs (k == 'X')
      let digits := match s.grouping with
        | some g => Format.group digits (String.singleton g) (if base == 10 then 3 else 4)
        | Option.none => digits
      let pre := s.signText (i < 0) ++ (if s.alt then pre else "")
      return s.pad pre digits true
  | .float x =>
    let s ← liftExcept (FormatSpec.parse specText)
    let k := s.kind.getD 'g'
    if !(['e', 'E', 'f', 'F', 'g', 'G', '%', 'n'].contains k) then throw (unknown k)
    asFloat s x (if k == 'n' then 'g' else k)
  | _ =>
    if specText.isEmpty then toText d
    else throw (.typeError ("unsupported format string passed to " ++ typeName ++ ".__format__"))

/-- The number a `%` directive formats as an integer: floats are truncated. -/
def directiveInt (k : Char) (d : Datum) : HeapM Int := do
  match d with
  | .float x =>
    if k == 'd' || k == 'i' || k == 'u' then liftExcept (floatToInt x)
    else throw (.typeError ("%" ++ String.singleton k ++ " format: an integer is required, not float"))
  | _ =>
    match d.index? with
    | some i => return i
    | Option.none =>
      let what := if k == 'd' || k == 'i' || k == 'u' then "a real number" else "an integer"
      throw (.typeError ("%" ++ String.singleton k ++ " format: " ++ what ++ " is required, not " ++
        (← d.typeName)))

/-- Formats one `%` directive's value. `escape` wraps text conversions for safe text. -/
def directive (k : Char) (flags : List Char) (width : Nat) (prec : Option Nat) (v : Datum)
    (escape : String → String) : HeapM String := do
  let left := flags.contains '-'
  let sign := if flags.contains '+' then '+' else if flags.contains ' ' then ' ' else '-'
  let spec : FormatSpec :=
    { align := some (if left then '<' else '>'), sign := sign,
      width := width, alt := flags.contains '#', zero := flags.contains '0' && !left }
  let spec := if spec.zero then { spec with align := Option.none } else spec
  let textual := fun (t : String) =>
    let t := match prec with
      | some p => String.ofList (t.toList.take p)
      | Option.none => t
    { spec with zero := false, align := some (if left then '<' else '>') }.pad "" t false
  match k with
  | 's' => return textual (escape (← toText v))
  | 'r' => return textual (escape (← repr v))
  | 'a' => return textual (escape (← asciiRepr v))
  | 'c' =>
    let ch ← match v with
      | .str t | .markup t =>
        if t.length == 1 then pure t
        else throw (.typeError "%c requires int or char")
      | _ => match v.index? with
        | some i =>
          if i < 0 || i ≥ 0x110000 then throw (.host "OverflowError" "%c arg not in range(0x110000)")
          pure (String.singleton (Char.ofNat i.toNat))
        | Option.none => throw (.typeError "%c requires int or char")
    return textual ch
  | 'd' | 'i' | 'u' | 'o' | 'x' | 'X' =>
    let i ← directiveInt k v
    let base := if k == 'o' then 8 else if k == 'x' || k == 'X' then 16 else 10
    let digits := Format.digitsIn base i.natAbs (k == 'X')
    let digits := match prec with
      | some p => Format.padStart '0' p digits
      | Option.none => digits
    let pre := if spec.alt then (if k == 'o' then "0o" else if k == 'x' then "0x"
      else if k == 'X' then "0X" else "") else ""
    return spec.pad (spec.signText (i < 0) ++ pre) digits true
  | 'e' | 'E' | 'f' | 'F' | 'g' | 'G' =>
    let x ← match v with
      | .float x => pure x
      | _ => match v.index? with
        | some i => liftExcept (intToFloat i)
        | Option.none => throw (.typeError ("must be real number, not " ++ (← v.typeName)))
    let (negative, body) := Format.floatBody x k (some (prec.getD 6)) spec.alt false
    return spec.pad (spec.signText negative) body true
  | _ => throw (.valueError "unsupported format character")

/-- A width or precision of a `%` directive: given, or taken from the arguments (`*`). -/
inductive Amount where
  | given (n : Nat)
  | star

/-- A `%` directive as written: its mapping key, flags, width, precision, conversion
character and the position of that character; `bare` for `%%`. -/
structure Directive where
  key : Option String
  flags : List Char
  width : Option Amount
  prec : Option Amount
  kind : Char
  pos : Nat
  bare : Bool

/-- The position of the `)` closing a mapping key, parentheses nesting. -/
def closeParen (cs : Array Char) : Nat → Nat → Nat → Option Nat
  | 0, _, _ => Option.none
  | fuel + 1, j, depth =>
    match cs[j]? with
    | Option.none => Option.none
    | some '(' => closeParen cs fuel (j + 1) (depth + 1)
    | some ')' => if depth == 1 then some j else closeParen cs fuel (j + 1) (depth - 1)
    | some _ => closeParen cs fuel (j + 1) depth

/-- The characters from a position on that pass a test, and the position after them. -/
def spanChars (cs : Array Char) (p : Char → Bool) : Nat → Nat → List Char × Nat
  | 0, j => ([], j)
  | fuel + 1, j =>
    match cs[j]? with
    | some c => if p c then let (more, k) := spanChars cs p fuel (j + 1); (c :: more, k) else ([], j)
    | Option.none => ([], j)

/-- The value of decimal digits. -/
def digitsValue (ds : List Char) : Nat := ds.foldl (fun acc c => acc * 10 + (c.toNat - 48)) 0

/-- An amount at a position: `*`, digits, or none. -/
def readAmount (cs : Array Char) (j : Nat) : Option Amount × Nat :=
  if cs[j]? == some '*' then (some .star, j + 1)
  else
    let (ds, k) := spanChars cs Char.isDigit cs.size j
    if ds.isEmpty then (Option.none, j) else (some (.given (digitsValue ds)), k)

/-- Reads the directive after the `%` at a position; the position after it. -/
def readDirective (cs : Array Char) (i : Nat) : Except Failure (Directive × Nat) := do
  if cs[i + 1]? == some '%' then
    return (⟨Option.none, [], Option.none, Option.none, '%', i + 1, true⟩, i + 2)
  let (key, j) ← if cs[i + 1]? == some '(' then
      match closeParen cs cs.size (i + 2) 1 with
      | some close => pure (some (String.ofList (cs.extract (i + 2) close).toList), close + 1)
      | Option.none => throw (.valueError "incomplete format key")
    else pure (Option.none, i + 1)
  let (flags, j) := spanChars cs (fun c => ['-', '+', ' ', '#', '0'].contains c) cs.size j
  let (width, j) := readAmount cs j
  let (prec, j) := if cs[j]? == some '.' then
      match readAmount cs (j + 1) with
      | (some a, k) => (some a, k)
      | (Option.none, k) => (some (Amount.given 0), k)
    else (Option.none, j)
  let (_, j) := spanChars cs (fun c => c == 'h' || c == 'l' || c == 'L') cs.size j
  match cs[j]? with
  | some k => return (⟨key, flags, width, prec, k, j, false⟩, j + 1)
  | Option.none => throw (.valueError "incomplete format")

/-- Takes the next positional argument of `%` formatting. -/
def nextArg : List Datum → HeapM (Datum × List Datum)
  | v :: more => return (v, more)
  | [] => throw (.typeError "not enough arguments for format string")

/-- A width or precision, taking `*` from the arguments; a negative width left-aligns. -/
def amountValue (a : Option Amount) (args : List Datum) :
    HeapM (Option Int × List Datum) := do
  match a with
  | Option.none => return (Option.none, args)
  | some (.given n) => return (some n, args)
  | some .star =>
    let (v, rest) ← nextArg args
    match v.index? with
    | some n => return (some n, rest)
    | Option.none => throw (.typeError "* wants int")

/-- Formats text with `%` directives and arguments; `escape` is applied to text
conversions (identity for plain text). -/
def percentFormat (fmt : String) (args : Datum) (escape : String → String) : HeapM String := do
  let (positional, single) := match args.plain with
    | .tuple xs => (xs, false)
    | d => ([d], true)
  let isMapping ← match args with
    | .tuple _ | .group _ _ | .str _ | .markup _ => pure false
    | .obj addr => do
      match ← Heap.get addr with
      | .list _ | .dict _ => pure true
      | _ => pure false
    | .bytes _ | .range _ _ _ | .undefined _ => pure true
    | _ => pure false
  let mapping := if isMapping then some args else Option.none
  let cs := fmt.toList.toArray
  let rec go : Nat → Nat → List Datum → String → HeapM (String × List Datum)
    | 0, _, rest, acc => return (acc, rest)
    | fuel + 1, i, rest, acc => do
      match cs[i]? with
      | Option.none => return (acc, rest)
      | some '%' =>
        let (d, next) ← liftExcept (readDirective cs i)
        if d.bare then go fuel next rest (acc.push '%')
        else
          let (keyed, rest) ← match d.key with
            | some name =>
              match mapping with
              | some m => pure (some (← rawItem m (.str name)), rest)
              | Option.none => throw (.typeError "format requires a mapping")
            | Option.none => pure (Option.none, rest)
          let (width, rest) ← amountValue d.width rest
          let (prec, rest) ← amountValue d.prec rest
          let flags := match width with
            | some w => if w < 0 then d.flags ++ ['-'] else d.flags
            | Option.none => d.flags
          let (v, rest) ← match keyed with
            | some v => pure (v, rest)
            | Option.none => nextArg rest
          if !"sracdiuoxXeEfFgG".toList.contains d.kind then
            throw (.valueError ("unsupported format character " ++ quoteText (String.singleton d.kind) ++
              " (0x" ++ hexPadded 1 d.kind.toNat ++ ") at index " ++ toString d.pos))
          let text ← directive d.kind flags ((width.getD 0).natAbs) (prec.map Int.toNat) v escape
          go fuel next rest (acc ++ text)
      | some c => go fuel (i + 1) rest (acc.push c)
  let (out, rest) ← go (cs.size + 1) 0 positional ""
  let _ := single
  if !rest.isEmpty && mapping.isNone then
    throw (.typeError "not all arguments converted during string formatting")
  return out

/-- The value of a replacement field's name: an argument, then members and items. -/
def fieldValue (name : String) (args : List Datum) (kwargs : List (String × Datum))
    (auto : Nat) : HeapM (Datum × Bool) := do
  let cs := name.toList
  let head := cs.takeWhile fun c => c != '.' && c != '['
  let rest := cs.drop head.length
  let headText := String.ofList head
  let (value, numbered) ← if head.isEmpty then
      match args[auto]? with
      | some v => pure (v, false)
      | Option.none => throw (.host "IndexError" ("Replacement index " ++ toString auto ++
          " out of range for positional args tuple"))
    else if head.all Char.isDigit then
      let n := head.foldl (fun acc c => acc * 10 + (c.toNat - 48)) 0
      match args[n]? with
      | some v => pure (v, true)
      | Option.none => throw (.host "IndexError" ("Replacement index " ++ toString n ++
          " out of range for positional args tuple"))
    else
      match kwargs.lookup headText with
      | some v => pure (v, true)
      | Option.none => throw (.host "KeyError" (quoteText headText))
  let rec walk : Nat → List Char → Datum → HeapM Datum
    | 0, _, v => return v
    | _ + 1, [], v => return v
    | fuel + 1, '.' :: more, v => do
      let attr := more.takeWhile fun c => c != '.' && c != '['
      let attrText := String.ofList attr
      match ← rawAttr v attrText with
      | some w => walk fuel (more.drop attr.length) w
      | Option.none => throw (.host "AttributeError" (quoteText (← v.typeName) ++
          " object has no attribute " ++ quoteText attrText))
    | fuel + 1, '[' :: more, v => do
      let key := more.takeWhile (· != ']')
      let keyText := String.ofList key
      let k : Datum := if !key.isEmpty && key.all Char.isDigit then
          .int (key.foldl (fun acc c => acc * 10 + (c.toNat - 48)) 0) else .str keyText
      walk fuel (more.drop (key.length + 1)) (← rawItem v k)
    | _ + 1, _, _ => throw (.valueError "Only '.' or '[' may follow ']' in format field specifier")
  return (← walk (rest.length + 1) rest value, numbered)

/-- The position of the `}` closing a replacement field, braces nesting. -/
def closeBrace (cs : Array Char) : Nat → Nat → Nat → Option Nat
  | 0, _, _ => Option.none
  | fuel + 1, j, depth =>
    match cs[j]? with
    | Option.none => Option.none
    | some '{' => closeBrace cs fuel (j + 1) (depth + 1)
    | some '}' => if depth == 1 then some j else closeBrace cs fuel (j + 1) (depth - 1)
    | some _ => closeBrace cs fuel (j + 1) depth

/-- Splits a replacement field into its name, conversion and format specification. -/
def splitField (field : String) : String × Option String × String :=
  let cs := field.toList
  let nameLen := (cs.takeWhile fun c => c != '!' && c != ':').length
  let name := String.ofList (cs.take nameLen)
  let rest := cs.drop nameLen
  match rest with
  | '!' :: more =>
    let conv := more.takeWhile (· != ':')
    let after := more.drop conv.length
    (name, some (String.ofList conv), String.ofList (after.drop 1))
  | ':' :: more => (name, Option.none, String.ofList more)
  | _ => (name, Option.none, "")

/-- How fields are numbered so far: not yet known, automatically, or by hand. -/
inductive Numbering where
  | unknown
  | automatic
  | manual
deriving DecidableEq

/-- Formats text with replacement fields, as the `format` method of texts does;
`depth` bounds the nesting of fields within format specifications. -/
def braceFormatIn : Nat → String → List Datum → List (String × Datum) → Nat → Numbering →
    HeapM (String × Nat × Numbering)
  | 0, _, _, _, _, _ => throw (.valueError "Max string recursion exceeded")
  | depth + 1, fmt, args, kwargs, auto0, numbering0 => do
    let cs := fmt.toList.toArray
    let rec go : Nat → Nat → Nat → Numbering → String → HeapM (String × Nat × Numbering)
      | 0, _, auto, numbering, acc => return (acc, auto, numbering)
      | fuel + 1, i, auto, numbering, acc => do
        match cs[i]? with
        | Option.none => return (acc, auto, numbering)
        | some '{' =>
          if cs[i + 1]? == some '{' then go fuel (i + 2) auto numbering (acc.push '{')
          else if i + 1 ≥ cs.size then throw (.valueError "Single '\x7b' encountered in format string")
          else
            match closeBrace cs cs.size (i + 1) 1 with
            | Option.none => throw (.valueError "expected '\x7d' before end of string")
            | some j =>
              let field := String.ofList (cs.extract (i + 1) j).toList
              let (name, conv, spec) := splitField field
              let isAuto := name.isEmpty || name.startsWith "." || name.startsWith "["
              let numbered := !isAuto && name.toList.head?.any Char.isDigit
              if isAuto && numbering == .manual then
                throw (.valueError
                  "cannot switch from manual field specification to automatic field numbering")
              if numbered && numbering == .automatic then
                throw (.valueError
                  "cannot switch from automatic field numbering to manual field specification")
              let numbering := if isAuto then .automatic else if numbered then .manual else numbering
              let (value, _) ← fieldValue name args kwargs auto
              let auto := if isAuto then auto + 1 else auto
              let value ← match conv with
                | Option.none => pure value
                | some "r" => pure (.str (← repr value))
                | some "s" => pure (.str (← toText value))
                | some "a" => pure (.str (← asciiRepr value))
                | some c => throw (.valueError ("Unknown conversion specifier " ++ c))
              let (spec, auto, numbering) ← if spec.contains '{' then
                  braceFormatIn depth spec args kwargs auto numbering
                else pure (spec, auto, numbering)
              let text ← formatWith value spec
              go fuel (j + 1) auto numbering (acc ++ text)
        | some '}' =>
          if cs[i + 1]? == some '}' then go fuel (i + 2) auto numbering (acc.push '}')
          else throw (.valueError "Single '\x7d' encountered in format string")
        | some c => go fuel (i + 1) auto numbering (acc.push c)
      termination_by fuel _ _ _ _ => (depth, fuel + 1)
    go (cs.size + 1) 0 auto0 numbering0 ""
termination_by depth _ _ _ _ _ => (depth, 0)

/-- Formats text with replacement fields, as the `format` method of texts does. -/
def braceFormat (fmt : String) (args : List Datum) (kwargs : List (String × Datum)) :
    HeapM String := do
  return (← braceFormatIn 3 fmt args kwargs 0 .unknown).1

end Datum

end NodeImage.Template
