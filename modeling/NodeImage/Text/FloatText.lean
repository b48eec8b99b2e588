import NodeImage.Number.Double

/-!
# Decimal text of binary floating-point numbers

A finite double is `± mantissa · 2 ^ exponent`. Its text is the shortest decimal that
reads back to the same double: for one significant digit, then two, and so on, the two
points of the decimal grid around the value are tested against the interval of reals that
round to it (the ends belong to the interval when the mantissa is even), and the first
precision with a hit wins; of two hits the nearer one is taken, an exact tie going to the
even digit. All of this is exact arithmetic on natural numbers.

The layout is the second, separate decision: `FloatLayout.standard` writes the digits in
positional notation while the decimal point stays within sixteen places of the first digit
and no more than four zeros follow the point, and otherwise as `d.ddde±XX`; a whole number
keeps a trailing `.0`. Reading goes the other way: `readDecimal?` takes the usual
`[sign] digits [. digits] [e [sign] digits]` form and rounds to the nearest double.
-/

namespace NodeImage.Text

/-- A finite double split into sign, integral mantissa and binary exponent:
its value is `(-1)^negative · mantissa · 2 ^ exponent`. -/
structure BinaryParts where
  negative : Bool
  mantissa : Nat
  exponent : Int
  /-- The value's lower neighbour is half as far away as its upper one
  (the mantissa is the smallest of its binade and the binade is not the lowest). -/
  narrowBelow : Bool
deriving Repr

/-- Splits a double into its parts; `none` for an infinity or a NaN. -/
def BinaryParts.ofFloat? (x : Float) : Option BinaryParts :=
  let bits : Nat := x.toBits.toNat
  let negative : Bool := bits / Nat.pow 2 63 % 2 == 1
  let biased : Nat := bits / Nat.pow 2 52 % Nat.pow 2 11
  let fraction : Nat := bits % Nat.pow 2 52
  if biased == 2047 then none
  else if biased == 0 then
    some ⟨negative, fraction, -1074, false⟩
  else
    some ⟨negative, fraction + Nat.pow 2 52, (biased : Int) - 1075, fraction == 0 && biased > 1⟩

/-- A decimal number `digits · 10 ^ exponent`. -/
structure Decimal where
  digits : Nat
  exponent : Int
deriving Repr, DecidableEq

/-- Two non-negative numbers `a · 10^p · 2^q` and `b · 10^r · 2^s`, compared exactly:
`scaleCompare a p q b r s` is the ordering of the first against the second. -/
def scaleCompare (a : Nat) (p q : Int) (b : Nat) (r s : Int) : Ordering :=
  let lhs := a * Nat.pow 10 (max p 0).toNat * Nat.pow 2 (max q 0).toNat
    * Nat.pow 10 (max (-r) 0).toNat * Nat.pow 2 (max (-s) 0).toNat
  let rhs := b * Nat.pow 10 (max r 0).toNat * Nat.pow 2 (max s 0).toNat
    * Nat.pow 10 (max (-p) 0).toNat * Nat.pow 2 (max (-q) 0).toNat
  compare lhs rhs

/-- `⌊a · 2^q / 10^p⌋` for a natural `a`. -/
def scaleFloor (a : Nat) (q p : Int) : Nat :=
  (a * Nat.pow 2 (max q 0).toNat * Nat.pow 10 (max (-p) 0).toNat) /
    (Nat.pow 2 (max (-q) 0).toNat * Nat.pow 10 (max p 0).toNat)

/-- The number of binary digits of a natural number. -/
def bitLength (n : Nat) : Nat := if n = 0 then 0 else n.log2 + 1

/-- The decimal exponent `e` with `10^e ≤ a · 2^q < 10^(e+1)`, for `a > 0`: an estimate
from the bit length, then corrected by at most a few steps. -/
def decimalExponent (a : Nat) (q : Int) : Int :=
  let guess : Int := ((bitLength a : Int) - 1 + q) * 30103 / 100000
  let rec down : Nat → Int → Int
    | 0, e => e
    | fuel + 1, e => if scaleCompare 1 e 0 a 0 q == .gt then down fuel (e - 1) else e
  let rec up : Nat → Int → Int
    | 0, e => e
    | fuel + 1, e => if scaleCompare 1 (e + 1) 0 a 0 q != .gt then up fuel (e + 1) else e
  up 4 (down 4 guess)

/-- The interval of reals that round to a positive double `m · 2^q`, in units of
`2^(q-2)`: from `4m - below` to `4m + 2`, ends included when `inclusive`. -/
structure RoundingInterval where
  scaled : Nat
  below : Nat
  inclusive : Bool
  unitExponent : Int

/-- Whether `c · 10^s` lies in the rounding interval. -/
def RoundingInterval.holds (iv : RoundingInterval) (c : Nat) (s : Int) : Bool :=
  let low := scaleCompare c s 0 (iv.scaled - iv.below) 0 iv.unitExponent
  let high := scaleCompare c s 0 (iv.scaled + 2) 0 iv.unitExponent
  if iv.inclusive then low != .lt && high != .gt
  else low == .gt && high == .lt

/-- Drops the trailing zeros of a decimal's digits. -/
def Decimal.normalize : Nat → Decimal → Decimal
  | 0, d => d
  | fuel + 1, d =>
    if d.digits != 0 && d.digits % 10 == 0 then
      Decimal.normalize fuel ⟨d.digits / 10, d.exponent + 1⟩
    else d

/-- The shortest decimal in the rounding interval of the positive number `m · 2^q`
(`narrow` when the lower neighbour is half as far as the upper one). -/
def shortestPositive (m : Nat) (q : Int) (narrow : Bool) : Decimal :=
  let iv : RoundingInterval :=
    ⟨4 * m, if narrow then 1 else 2, m % 2 == 0, q - 2⟩
  let e := decimalExponent m q
  let rec search : Nat → Nat → Decimal
    | 0, _ => ⟨m, q⟩
    | fuel + 1, k =>
      let s : Int := e - (k : Int) + 1
      let lo := scaleFloor (4 * m) (q - 2) s
      let hi := lo + 1
      let loIn := iv.holds lo s
      let hiIn := iv.holds hi s
      if loIn && hiIn then
        match scaleCompare (2 * lo + 1) s 0 (8 * m) 0 (q - 2) with
        | .gt => ⟨lo, s⟩
        | .lt => ⟨hi, s⟩
        | .eq => if lo % 2 == 0 then ⟨lo, s⟩ else ⟨hi, s⟩
      else if loIn then ⟨lo, s⟩
      else if hiIn then ⟨hi, s⟩
      else search fuel (k + 1)
  Decimal.normalize 400 (search 17 1)

/-- How a decimal is laid out as text. -/
structure FloatLayout where
  /-- Positional notation is used when the decimal point sits after at most this many
  digits counted from the first significant digit... -/
  positionalAbove : Int
  /-- ...and when at most this many zeros follow the point before the first digit. -/
  leadingZeros : Int
  /-- The least number of digits of an exponent. -/
  exponentDigits : Nat
  /-- Text of infinity and of a NaN. -/
  infinity : String
  notANumber : String

/-- Sixteen places positional, four leading zeros, two-digit exponents, `inf` and `nan`. -/
def FloatLayout.standard : FloatLayout := ⟨16, 4, 2, "inf", "nan"⟩

/-- The decimal digits of a natural number. -/
def digitText (n : Nat) : String := toString n

/-- Pads a digit string with zeros on the left to the given width. -/
def padLeft (width : Nat) (s : String) : String :=
  String.ofList (List.replicate (width - s.length) '0') ++ s

/-- Lays out a positive decimal: `point` is the position of the decimal point counted
from the first digit. -/
def FloatLayout.place (layout : FloatLayout) (d : Decimal) : String :=
  let ds := digitText d.digits
  let n : Int := ds.length
  let point : Int := n + d.exponent
  if point > layout.positionalAbove || point ≤ -layout.leadingZeros then
    let first := String.ofList (ds.toList.take 1)
    let rest := String.ofList (ds.toList.drop 1)
    let e := point - 1
    let sign := if e < 0 then "-" else "+"
    first ++ (if rest.isEmpty then "" else "." ++ rest) ++ "e" ++ sign ++
      padLeft layout.exponentDigits (toString e.natAbs)
  else if point ≤ 0 then
    "0." ++ String.ofList (List.replicate point.natAbs '0') ++ ds
  else if point ≥ n then
    ds ++ String.ofList (List.replicate (point - n).toNat '0') ++ ".0"
  else
    String.ofList (ds.toList.take point.toNat) ++ "." ++ String.ofList (ds.toList.drop point.toNat)

/-- The shortest decimal of a finite double, with its sign; `none` for inf and NaN. -/
def Float.shortest? (x : Float) : Option (Bool × Decimal) :=
  (BinaryParts.ofFloat? x).map fun p =>
    if p.mantissa = 0 then (p.negative, ⟨0, 0⟩)
    else (p.negative, shortestPositive p.mantissa p.exponent p.narrowBelow)

/-- The text of a double in a layout: the shortest decimal that reads back to it. -/
def FloatLayout.render (layout : FloatLayout) (x : Float) : String :=
  match Float.shortest? x with
  | none => if x.isNaN then layout.notANumber
            else if x < 0 then "-" ++ layout.infinity else layout.infinity
  | some (negative, d) =>
    let body := if d.digits = 0 then "0.0" else layout.place d
    if negative then "-" ++ body else body

/-- The standard text of a double. -/
def floatText (x : Float) : String := FloatLayout.standard.render x

/-- Digits and the number of them, read from the front of a character list. -/
def takeDigits : List Char → List Char × List Char
  | c :: cs => if c.isDigit then let (d, r) := takeDigits cs; (c :: d, r) else ([], c :: cs)
  | [] => ([], [])

/-- The natural number written by decimal digits. -/
def digitsValue (ds : List Char) : Nat :=
  ds.foldl (fun acc c => acc * 10 + (c.toNat - '0'.toNat)) 0

/-- Reads `[sign] digits [. digits] [(e|E) [sign] digits]` with at least one digit before
the exponent, rounding to the nearest double. -/
def readDecimal? (s : String) : Option Float :=
  let cs := s.toList
  let (negative, cs) := match cs with
    | '-' :: r => (true, r)
    | '+' :: r => (false, r)
    | r => (false, r)
  let (whole, cs) := takeDigits cs
  let (frac, cs) := match cs with
    | '.' :: r => takeDigits r
    | r => ([], r)
  if whole.isEmpty && frac.isEmpty then none
  else
    let expPart : Option Int := match cs with
      | [] => some 0
      | e :: r =>
        if e == 'e' || e == 'E' then
          let (eneg, r) := match r with
            | '-' :: r' => (true, r')
            | '+' :: r' => (false, r')
            | r' => (false, r')
          let (ed, rest) := takeDigits r
          if ed.isEmpty || !rest.isEmpty then none
          else some (if eneg then -(digitsValue ed : Int) else digitsValue ed)
        else none
    expPart.map fun ex =>
      Number.ofDecimal negative (digitsValue (whole ++ frac)) (ex - frac.length)

end NodeImage.Text
