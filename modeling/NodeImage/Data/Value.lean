import NodeImage.Text.FloatText
import NodeImage.Text.Quote

/-!
# Document values

The values that configuration documents and requests are made of: null, booleans,
integers of any size, doubles, text, raw bytes, calendar dates and timestamps,
sequences, sets and mappings. A mapping is a list of entries in insertion order; two keys
are the same key when they are equal under `Value.sameKey`, under which the numbers
`1`, `1.0` and `true` are one key, so a later entry with an equal key replaces the value
of the earlier one in place (`Value.insertEntry`).

Truthiness (`Value.truthy`), type names (`Value.typeName`) and the printed form
(`Value.repr`) follow the conventions of the configuration files' host language, since
error messages quote them.
-/

namespace NodeImage

/-- A calendar date. -/
structure Date where
  year : Nat
  month : Nat
  day : Nat
deriving DecidableEq, Repr

/-- A timestamp: a date and a time of day to the microsecond, with an offset from UTC in
minutes when the timestamp names one. -/
structure DateTime where
  date : Date
  hour : Nat
  minute : Nat
  second : Nat
  micro : Nat
  offset : Option Int
deriving DecidableEq, Repr

/-- A document value. -/
inductive Value where
  | null
  | bool (b : Bool)
  | int (i : Int)
  | float (x : Float)
  | str (s : String)
  | bytes (b : List UInt8)
  | date (d : Date)
  | dateTime (t : DateTime)
  | seq (items : List Value)
  | set (items : List Value)
  | map (entries : List (Value × Value))
deriving Inhabited

namespace Date

/-- Days from 1970-01-01 to this date in the proleptic Gregorian calendar. -/
def daysFromEpoch (d : Date) : Int :=
  let y : Int := if d.month ≤ 2 then (d.year : Int) - 1 else d.year
  let era := (if y ≥ 0 then y else y - 399) / 400
  let yoe := y - era * 400
  let m : Int := d.month
  let doy := (153 * (if m > 2 then m - 3 else m + 9) + 2) / 5 + (d.day : Int) - 1
  let doe := yoe * 365 + yoe / 4 - yoe / 100 + doy
  era * 146097 + doe - 719468

/-- The number of days in a month of a year. -/
def monthLength (year month : Nat) : Nat :=
  if month = 2 then
    if year % 4 = 0 && (year % 100 ≠ 0 || year % 400 = 0) then 29 else 28
  else if month = 4 || month = 6 || month = 9 || month = 11 then 30
  else 31

/-- Whether the day exists in the calendar (years 1 to 9999). -/
def valid (d : Date) : Bool :=
  1 ≤ d.year && d.year ≤ 9999 && 1 ≤ d.month && d.month ≤ 12 &&
    1 ≤ d.day && d.day ≤ monthLength d.year d.month

end Date

/-- Zero-padded decimal text of a natural number. -/
def padded (width n : Nat) : String := Text.padLeft width (toString n)

/-- `YYYY-MM-DD`. -/
def Date.isoText (d : Date) : String :=
  padded 4 d.year ++ "-" ++ padded 2 d.month ++ "-" ++ padded 2 d.day

/-- `±HH:MM` for an offset in minutes. -/
def offsetText (minutes : Int) : String :=
  let sign := if minutes < 0 then "-" else "+"
  let m := minutes.natAbs
  sign ++ padded 2 (m / 60) ++ ":" ++ padded 2 (m % 60)

/-- `YYYY-MM-DDTHH:MM:SS[.ffffff][±HH:MM]`. -/
def DateTime.isoText (t : DateTime) : String :=
  t.date.isoText ++ "T" ++ padded 2 t.hour ++ ":" ++ padded 2 t.minute ++ ":" ++
    padded 2 t.second ++ (if t.micro = 0 then "" else "." ++ padded 6 t.micro) ++
    (match t.offset with | some o => offsetText o | none => "")

/-- Microseconds since the epoch of the instant a timestamp names, read as UTC when it has
no offset. -/
def DateTime.instant (t : DateTime) : Int :=
  let seconds := t.date.daysFromEpoch * 86400 + (t.hour : Int) * 3600 + (t.minute : Int) * 60
    + t.second - (t.offset.getD 0) * 60
  seconds * 1000000 + t.micro

/-- The exact value of a finite double as `numerator / 2^shift`. -/
def Float.exactParts? (x : Float) : Option (Int × Nat) :=
  (Text.BinaryParts.ofFloat? x).map fun p =>
    let n : Int := if p.negative then -(p.mantissa : Int) else p.mantissa
    if p.exponent ≥ 0 then (n * Int.pow 2 p.exponent.toNat, 0) else (n, p.exponent.natAbs)

/-- A number as a mapping key: its exact value, the two infinities, or NaN. -/
inductive NumberKey where
  /-- The value `numerator / 2 ^ shift`, in lowest terms. -/
  | exact (numerator : Int) (shift : Nat)
  | posInf
  | negInf
  | nan
deriving DecidableEq, Repr

/-- The key of `n / 2 ^ shift`: halves both while the shift is positive and the numerator
even, so that equal values have one key. -/
def NumberKey.reduce (n : Int) : Nat → NumberKey
  | 0 => .exact n 0
  | shift + 1 => if n % 2 == 0 then reduce (n / 2) shift else .exact n (shift + 1)

/-- The key of a double: its exact value when it is finite. -/
def Float.numberKey (x : Float) : NumberKey :=
  match Float.exactParts? x with
  | some (n, shift) => NumberKey.reduce n shift
  | none => if x.isNaN then .nan else if x > 0 then .posInf else .negInf

/-- What decides whether two keys are one: numbers by value, text, bytes and dates by
content, timestamps with an offset by their instant and those without by their fields. -/
inductive KeyForm where
  | null
  | number (k : NumberKey)
  | text (s : String)
  | bytes (b : List UInt8)
  | date (d : Date)
  | aware (instant : Int)
  | naive (t : DateTime)
deriving DecidableEq, Repr

namespace Value

/-- The form of a value as a key, if it can be one; booleans are the numbers 0 and 1. -/
def keyForm? : Value → Option KeyForm
  | null => some .null
  | bool b => some (.number (.exact (if b then 1 else 0) 0))
  | int i => some (.number (.exact i 0))
  | float x => some (.number (Float.numberKey x))
  | str s => some (.text s)
  | bytes b => some (.bytes b)
  | date d => some (.date d)
  | dateTime t => some (match t.offset with
    | some _ => .aware t.instant
    | none => .naive t)
  | seq _ | set _ | map _ => none

/-- Whether a value can be a mapping key: sequences, sets and mappings cannot. -/
def hashable : Value → Bool
  | seq _ | set _ | map _ => false
  | _ => true

/-- Whether two keys are the same key: both can be keys and have one form, so numbers
agree by value (`1`, `1.0` and `true` are one key), and timestamps by the instant they name
when both have an offset and by their fields when neither does. Every NaN a document reads
is one and the same value, so NaN keys are one key too. -/
def sameKey (a b : Value) : Bool :=
  match a.keyForm?, b.keyForm? with
  | some x, some y => x == y
  | _, _ => false

/-- Adds an entry to a mapping: an equal key keeps its place and takes the new value,
otherwise the entry goes last. -/
def insertEntry : List (Value × Value) → Value × Value → List (Value × Value)
  | [], e => [e]
  | (k, v) :: rest, (k', v') =>
    if sameKey k k' then (k, v') :: rest else (k, v) :: insertEntry rest (k', v')

/-- Builds a mapping's entries from pairs in order, later keys replacing earlier values. -/
def entriesOf (pairs : List (Value × Value)) : List (Value × Value) :=
  pairs.foldl insertEntry []

/-- The value under a key of a mapping's entries. -/
def lookup (entries : List (Value × Value)) (key : Value) : Option Value :=
  (entries.find? fun e => sameKey e.1 key).map (·.2)

/-- The value of a text key, if the value is a mapping that has it. -/
def field? (v : Value) (name : String) : Option Value :=
  match v with
  | map entries => lookup entries (str name)
  | _ => none

/-- Whether a value counts as true: null, false, zero, and empty text, bytes and
collections count as false. -/
def truthy : Value → Bool
  | null => false
  | bool b => b
  | int i => i != 0
  | float x => x != 0
  | str s => !s.isEmpty
  | bytes b => !b.isEmpty
  | seq xs => !xs.isEmpty
  | set xs => !xs.isEmpty
  | map es => !es.isEmpty
  | date _ | dateTime _ => true

/-- The name of a value's type, as error messages give it. -/
def typeName : Value → String
  | null => "NoneType"
  | bool _ => "bool"
  | int _ => "int"
  | float _ => "float"
  | str _ => "str"
  | bytes _ => "bytes"
  | date _ => "datetime.date"
  | dateTime _ => "datetime.datetime"
  | seq _ => "list"
  | set _ => "set"
  | map _ => "dict"

end Value

namespace Value

mutual
/-- The printed form of a value, as error messages quote it. -/
def repr : Value → String
  | null => "None"
  | bool b => if b then "True" else "False"
  | int i => toString i
  | float x => Text.floatText x
  | str s => quoteText s
  | bytes b => quoteBytes b
  | date d => "datetime.date(" ++ toString d.year ++ ", " ++ toString d.month ++ ", " ++
      toString d.day ++ ")"
  | dateTime t =>
    "datetime.datetime(" ++ toString t.date.year ++ ", " ++ toString t.date.month ++ ", " ++
      toString t.date.day ++ ", " ++ toString t.hour ++ ", " ++ toString t.minute ++
      (if t.second = 0 && t.micro = 0 then "" else ", " ++ toString t.second) ++
      (if t.micro = 0 then "" else ", " ++ toString t.micro) ++
      (match t.offset with
       | none => ""
       | some 0 => ", tzinfo=datetime.timezone.utc"
       | some o => ", tzinfo=datetime.timezone(datetime.timedelta(" ++
           (if o < 0 then "days=-1, seconds=" ++ toString (86400 + o * 60)
            else "seconds=" ++ toString (o * 60)) ++ "))") ++ ")"
  | seq xs => "[" ++ reprItems xs ++ "]"
  | set xs => if xs.isEmpty then "set()" else "\x7b" ++ reprItems xs ++ "\x7d"
  | map es => "\x7b" ++ reprEntries es ++ "\x7d"

/-- Printed items separated by commas. -/
def reprItems : List Value → String
  | [] => ""
  | [x] => repr x
  | x :: xs => repr x ++ ", " ++ reprItems xs

/-- Printed mapping entries separated by commas. -/
def reprEntries : List (Value × Value) → String
  | [] => ""
  | [(k, v)] => repr k ++ ": " ++ repr v
  | (k, v) :: es => repr k ++ ": " ++ repr v ++ ", " ++ reprEntries es
end

/-- The text a value prints as: text as it is, anything else as its printed form. -/
def shown : Value → String
  | str s => s
  | v => v.repr

end Value

end NodeImage
