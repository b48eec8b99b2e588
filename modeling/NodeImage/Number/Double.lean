/-!
# Doubles as exact numbers

A finite double is a natural significand times a power of two. Seen at the scale of the
smallest subnormal, `2 ^ -1074`, every finite double is an integer: its *scaled*
magnitude `m · 2 ^ p` with `m < 2 ^ 53` and `0 ≤ p ≤ 2045`, where `m ≥ 2 ^ 52` unless
`p = 0`. That integer is exactly what the bit pattern spells: `p · 2 ^ 52 + m`.

So rounding a non-negative rational `a / d` to a double is integer arithmetic. The *unit
exponent* `p` is the least one with `a · 2 ^ 1074 < d · 2 ^ (p + 53)`; the significand is
the quotient of `a · 2 ^ 1074` by `d · 2 ^ p` rounded to the nearest integer, ties to the
even one; a significand that rounds up to `2 ^ 53` moves to the next binade. The result
overflows when `p` passes 2045, which is the case exactly from `2 ^ 1024 - 2 ^ 970` on.

Everything exact about doubles builds on this: integers and ratios of integers converted
to the nearest double (or overflowing), a double taken apart into its exact value, exact
comparison of doubles with integers, and the exact remainder of two doubles.
-/

namespace NodeImage.Number

/-- `a / d` rounded to the nearest natural number, a tie going to the even one. -/
def roundHalfEven (a d : Nat) : Nat :=
  let q := a / d
  let r := a % d
  if 2 * r > d || (2 * r == d && q % 2 == 1) then q + 1 else q

/-- The number of binary digits of a natural number. -/
def bitLength (n : Nat) : Nat := if n = 0 then 0 else n.log2 + 1

/-- Lowers a candidate unit exponent while the one below still bounds the quotient; at
most `fuel` steps. -/
def lowerUnit (a d : Nat) : Nat → Nat → Nat
  | 0, p => p
  | fuel + 1, p =>
    if p > 0 && a < d * Nat.pow 2 (p + 52) then lowerUnit a d fuel (p - 1) else p

/-- The least `p` with `a < d · 2 ^ (p + 53)`, for `a, d > 0`. Since `a / d` lies below
`2 ^ (bitLength a - bitLength d + 1)`, that exponent less 53 bounds it, and it is at most
two above the least one. -/
def unitExponent (a d : Nat) : Nat :=
  lowerUnit a d 3 (bitLength a + 1 - bitLength d - 53)

/-- The bits of the double nearest to `a / d · 2 ^ -1074` (sign bit clear); none when it
is too large for a double. -/
def scaledBits? (a d : Nat) : Option Nat :=
  if a = 0 then some 0
  else
    let p := unitExponent a d
    let m := roundHalfEven a (d * Nat.pow 2 p)
    let (m, p) := if m = Nat.pow 2 53 then (Nat.pow 2 52, p + 1) else (m, p)
    if p > 2045 then none else some (p * Nat.pow 2 52 + m)

/-- The double with a sign and magnitude bits. -/
def withSign (negative : Bool) (bits : Nat) : Float :=
  Float.ofBits (UInt64.ofNat ((if negative then Nat.pow 2 63 else 0) + bits))

/-- Positive infinity. -/
def infinity : Float := Float.ofBits 0x7FF0000000000000

/-- A quiet NaN. -/
def notANumber : Float := Float.ofBits 0x7FF8000000000000

/-- The double nearest to `± a / d` (`d > 0`); none when it overflows. -/
def ofRatio? (negative : Bool) (a d : Nat) : Option Float :=
  (scaledBits? (a * Nat.pow 2 1074) d).map (withSign negative)

/-- The double nearest to an integer; none when it overflows. -/
def ofInt? (i : Int) : Option Float := ofRatio? (i < 0) i.natAbs 1

/-- The double nearest to `± a / d`, infinite when it overflows. -/
def ofRatio (negative : Bool) (a d : Nat) : Float :=
  (ofRatio? negative a d).getD (if negative then -infinity else infinity)

/-- The double nearest to `digits · 10 ^ exponent`. Far outside the range of doubles the
result is zero or infinity without computing the power. -/
def ofDecimal (negative : Bool) (digits : Nat) (exponent : Int) : Float :=
  if digits = 0 then withSign negative 0
  else
    let magnitude : Int := (toString digits).length + exponent
    if magnitude > 400 then withSign negative (2047 * Nat.pow 2 52)
    else if magnitude < -400 then withSign negative 0
    else if exponent ≥ 0 then ofRatio negative (digits * Nat.pow 10 exponent.toNat) 1
    else ofRatio negative digits (Nat.pow 10 exponent.natAbs)

/-- A finite double taken apart: its sign and its scaled magnitude, so that its value is
`± scaled · 2 ^ -1074`. -/
structure Exact where
  negative : Bool
  scaled : Nat
deriving Repr, DecidableEq

/-- The exact value of a double; none for an infinity or a NaN. -/
def exactValue? (x : Float) : Option Exact :=
  let bits := x.toBits.toNat
  let negative := bits ≥ Nat.pow 2 63
  let magnitude := bits % Nat.pow 2 63
  let field := magnitude / Nat.pow 2 52
  let fraction := magnitude % Nat.pow 2 52
  if field = 2047 then none
  else if field = 0 then some ⟨negative, fraction⟩
  else some ⟨negative, (fraction + Nat.pow 2 52) * Nat.pow 2 (field - 1)⟩

/-- The signed value of an exact double times `2 ^ 1074`. -/
def Exact.signed (e : Exact) : Int := if e.negative then -(e.scaled : Int) else e.scaled

/-- The integer part of a finite double, rounded towards zero. -/
def Exact.truncate (e : Exact) : Int :=
  let q : Int := e.scaled / Nat.pow 2 1074
  if e.negative then -q else q

/-- The greatest integer not above a finite double. -/
def Exact.floor (e : Exact) : Int := Int.fdiv e.signed (Nat.pow 2 1074)

/-- The least integer not below a finite double. -/
def Exact.ceil (e : Exact) : Int := -(Int.fdiv (-e.signed) (Nat.pow 2 1074))

/-- Compares an integer with a double exactly; NaN is unordered (none). -/
def compareIntFloat (i : Int) (x : Float) : Option Ordering :=
  if x.isNaN then none
  else match exactValue? x with
    | some e => some (compare (i * Nat.pow 2 1074) e.signed)
    | none => some (if x > 0 then .lt else .gt)

/-- Whether a double's sign bit is set (negative numbers, `-0.0`). -/
def signBit (x : Float) : Bool := x.toBits.toNat ≥ Nat.pow 2 63

/-- A double with the magnitude of `x` and the sign of `s`. -/
def copySign (x s : Float) : Float :=
  withSign (signBit s) (x.toBits.toNat % Nat.pow 2 63)

/-- The remainder of `x` by `y` with the sign of `x`, as the C `fmod` gives it: exact for
finite operands, `x` itself for an infinite divisor, NaN for an infinite dividend, a zero
divisor or a NaN. -/
def fmod (x y : Float) : Float :=
  if x.isNaN || y.isNaN || x.isInf || y == 0 then notANumber
  else if y.isInf then x
  else match exactValue? x, exactValue? y with
    | some a, some b => withSign a.negative ((scaledBits? (a.scaled % b.scaled) 1).getD 0)
    | _, _ => notANumber

/-- The remainder of floating-point division with the sign of the divisor, as `%` on
doubles gives it (for a non-zero divisor): the C remainder moved by the divisor when the
signs differ, and a zero result carrying the divisor's sign. -/
def floatModulo (x y : Float) : Float :=
  let m := fmod x y
  if m != 0 || m.isNaN then (if (y < 0) != (m < 0) then m + y else m)
  else copySign 0 y

/-- Floor division of doubles as `//` gives it (for a non-zero divisor): `(x - m) / y` for
the C remainder `m`, lowered by one when `m` and `y` differ in sign, then snapped to the
nearest integer; a zero quotient takes the sign of `x / y`. -/
def floatFloorDivide (x y : Float) : Float :=
  let m := fmod x y
  let q := (x - m) / y
  let q := if (m != 0 || m.isNaN) && (y < 0) != (m < 0) then q - 1.0 else q
  if q != 0 || q.isNaN then
    let f := q.floor
    if q - f > 0.5 then f + 1.0 else f
  else copySign 0 (x / y)

end NodeImage.Number
