import NodeImage.Template.Tests

/-!
# Sorting, extremes and sums

Sorting is stable and compares with `<` only, in the order the host's sort compares: it
finds the run at the start (ascending, or strictly descending and then reversed) and
inserts every later item by binary search. The order of comparisons matters because a
comparison between values of kinds that cannot be ordered fails, and the first one that
fails names the kinds. A reverse sort reverses the items, sorts them, and reverses the
result, which keeps items with equal keys in their order. Keys are computed for all items
before any is compared.

The least or greatest item is found by comparing each item's key with the best key so
far; the first of equal items wins.

A sum starts from its start value and adds the items in turn: integers exactly; floats
with a compensation term that catches the rounding error of each addition (Neumaier's
method), which the result gets back at the end; integers met while adding floats are
added as floats. Anything else is added with `+`.
-/

namespace NodeImage.Template

namespace Datum

/-- The length of the run at the start of the items, and whether it is strictly descending. -/
def countRun (lt : Datum → Datum → HeapM Bool) (xs : Array (Datum × Datum)) : HeapM (Nat × Bool) := do
  let n := xs.size
  if n < 2 then return (n, false)
  let desc ← lt (xs[1]!).1 (xs[0]!).1
  let mut k := 2
  let mut going := true
  for i in [2:n] do
    if going then
      let r ← lt (xs[i]!).1 (xs[i - 1]!).1
      if r == desc then k := k + 1 else going := false
  return (k, desc)

/-- Inserts an item into sorted items, after every item whose key is not greater. -/
def insertSorted (lt : Datum → Datum → HeapM Bool) (sorted : Array (Datum × Datum))
    (pivot : Datum × Datum) : HeapM (Array (Datum × Datum)) := do
  let mut l := 0
  let mut r := sorted.size
  for _ in [0:sorted.size + 1] do
    if l < r then
      let p := l + (r - l) / 2
      if ← lt pivot.1 (sorted[p]!).1 then r := p else l := p + 1
  return (sorted.toList.take l ++ [pivot] ++ sorted.toList.drop l).toArray

/-- Sorts items by their keys, stably. -/
def sortPairs (lt : Datum → Datum → HeapM Bool) (xs : List (Datum × Datum)) :
    HeapM (List (Datum × Datum)) := do
  let arr := xs.toArray
  if arr.size < 2 then return xs
  let (k, desc) ← countRun lt arr
  let run := arr.toList.take k
  let mut sorted := (if desc then run.reverse else run).toArray
  for x in arr.toList.drop k do
    sorted ← insertSorted lt sorted x
  return sorted.toList

/-- The flag of a sort's `reverse` argument, which must be an integer. -/
def sortFlag (d : Datum) : HeapM Bool := do
  match d.index? with
  | some i =>
    if i ≥ Nat.pow 2 31 || i < -(Nat.pow 2 31 : Int) then
      throw (.host "OverflowError" "Python int too large to convert to C int")
    return i != 0
  | Option.none =>
    throw (.typeError (quoteText (← d.typeName) ++ " object cannot be interpreted as an integer"))

/-- Items sorted by a key, in reverse when asked. -/
def sortedBy (xs : List Datum) (key : Datum → HeapM Datum) (reverse : Bool) : HeapM (List Datum) := do
  let keys ← xs.mapM key
  let pairs := keys.zip xs
  let pairs := if reverse then pairs.reverse else pairs
  let sorted ← sortPairs (order .lt) pairs
  return (if reverse then sorted.reverse else sorted).map (·.2)

/-- The item whose key is least (`op` is `<`) or greatest (`op` is `>`), the first of equal
ones. -/
def extremum (first : Datum) (rest : List Datum) (key : Datum → HeapM Datum) (op : CmpOp) :
    HeapM Datum := do
  let mut best := first
  let mut bestKey ← key first
  for x in rest do
    let k ← key x
    if ← order op k bestKey then
      best := x
      bestKey := k
  return best

/-- The bounds of a machine integer, within which a sum of integers runs on its fast path. -/
def machineInt (i : Int) : Bool := -(Nat.pow 2 63 : Int) ≤ i && i < (Nat.pow 2 63 : Int)

/-- Adds floats from a running sum with its compensation; integers are added as floats
without compensation; anything else ends the float phase. -/
def sumFloats : List Datum → Float → Float → HeapM (Float × Float × List Datum)
  | [], f, c => return (f, c, [])
  | x :: rest, f, c => do
    match x with
    | .float y =>
      let t := f + y
      let c := if f.abs ≥ y.abs then c + ((f - t) + y) else c + ((y - t) + f)
      sumFloats rest t c
    | .int _ | .bool _ =>
      let i := (x.index?).getD 0
      if machineInt i then
        sumFloats rest (f + (Number.ofInt? i).getD 0) c
      else return (f, c, x :: rest)
    | _ => return (f, c, x :: rest)

/-- The compensated float sum with its compensation applied. -/
def compensated (f c : Float) : Float :=
  if c != 0 && !c.isInf && !c.isNaN then f + c else f

/-- Adds integers on the fast path while the sum stays a machine integer. -/
def sumInts : List Datum → Int → Option (Int × List Datum)
  | [], acc => some (acc, [])
  | x :: rest, acc =>
    match x with
    | .int _ | .bool _ =>
      let i := (x.index?).getD 0
      if machineInt i && machineInt (acc + i) then sumInts rest (acc + i)
      else some (acc, x :: rest)
    | _ => some (acc, x :: rest)

/-- The sum of items after a start value. -/
def sumItems (xs : List Datum) (start : Datum) : HeapM Datum := do
  match start with
  | .str _ | .markup _ => throw (.typeError "sum() can't sum strings [use ''.join(seq) instead]")
  | .bytes _ => throw (.typeError "sum() can't sum bytes [use b''.join(seq) instead]")
  | _ => pure ()
  let mut result := start
  let mut rest := xs
  if let .int i := start then
    if machineInt i then
      match sumInts xs i with
      | some (acc, more) =>
        result := .int acc
        match more with
        | [] => return result
        | y :: ys =>
          result ← binary .add result y
          rest := ys
      | Option.none => pure ()
  if let .float f := result then
    let (g, c, more) ← sumFloats rest f 0
    match more with
    | [] => return .float (compensated g c)
    | y :: ys =>
      result ← binary .add (.float (compensated g c)) y
      rest := ys
  for x in rest do
    result ← binary .add result x
  return result

end Datum

end NodeImage.Template
