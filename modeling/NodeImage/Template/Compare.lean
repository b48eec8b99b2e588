import NodeImage.Template.Show
import NodeImage.Number.Double

/-!
# Comparing values

Equality, order and use as a mapping key, as the template language defines them.

Booleans, integers and floats are one kind of number: they compare by exact value, so a
large integer and the float nearest to it can differ, and a NaN is equal to nothing.
Texts compare with texts (safe or not) by code points, tuples with tuples and lists with
lists item by item, the first differing item deciding the order and otherwise the length;
mappings are equal when they hold equal keys with equal values; ranges are equal when they
hold the same numbers. Values in the heap are otherwise equal only to themselves, and an
item compared with itself is equal without further ado. Ordering values of different
kinds is refused. Comparing with a strict undefined value fails; a plain one is equal to
any other plain one. Any undefined value refuses to be ordered.

A mapping key must be hashable: lists, mappings and two of the views are not, nor a tuple
that holds one, and a strict undefined value fails.
-/

namespace NodeImage.Template

/-- A number: an integer (booleans included) or a float. -/
inductive Num where
  | int (i : Int)
  | float (x : Float)

namespace Num

/-- Compares two numbers exactly; none when a NaN is involved. -/
def cmp : Num → Num → Option Ordering
  | int a, int b => some (compare a b)
  | int a, float x => Number.compareIntFloat a x
  | float x, int a => (Number.compareIntFloat a x).map Ordering.swap
  | float x, float y =>
    if x.isNaN || y.isNaN then none
    else if x < y then some .lt else if x == y then some .eq else some .gt

end Num

/-- Whether an order holds for a comparison operator. -/
def CmpOp.holds (op : CmpOp) (o : Ordering) : Bool :=
  match op, o with
  | .eq, .eq | .ne, .lt | .ne, .gt => true
  | .lt, .lt | .lteq, .lt | .lteq, .eq | .gt, .gt | .gteq, .gt | .gteq, .eq => true
  | _, _ => false

/-- The symbol of a comparison operator. -/
def CmpOp.symbol : CmpOp → String
  | .eq => "==" | .ne => "!=" | .lt => "<" | .lteq => "<=" | .gt => ">" | .gteq => ">="
  | .isIn => "in" | .notIn => "not in"

namespace Datum

/-- The number a value is, if it is one. -/
def num? : Datum → Option Num
  | .bool b => some (.int (if b then 1 else 0))
  | .int i => some (.int i)
  | .float x => some (.float x)
  | _ => Option.none

/-- The text a value is, if it is text. -/
def text? : Datum → Option String
  | .str s | .markup s => some s
  | _ => Option.none

/-- The number of items of a range. -/
def rangeLength (a b s : Int) : Nat :=
  if s > 0 then (if a < b then ((b - a + s - 1) / s).toNat else 0)
  else if s < 0 then (if a > b then ((a - b - s - 1) / (-s)).toNat else 0)
  else 0

/-- The items of a range. -/
def rangeItems (a b s : Int) : List Datum :=
  (List.range (rangeLength a b s)).map fun (k : Nat) => .int (a + s * (k : Int))

/-- Compares codes of two texts. -/
def compareText (a b : String) : Ordering := compare a b

mutual

/-- Whether two values are equal; fails on a strict undefined value. -/
def equalIn : Nat → Datum → Datum → HeapM Bool
  | 0, _, _ => throw (recursionFailure " in comparison")
  | fuel + 1, a, b =>
    match a.plain, b.plain with
    | .undefined u, _ => do
      if u.strict then throw (undefinedFailure u)
      return (match b with
        | .undefined v => !v.strict
        | _ => false)
    | _, .undefined u => do
      if u.strict then throw (undefinedFailure u)
      return false
    | .obj x, .obj y => do
      if x == y then return true
      match ← Heap.get x, ← Heap.get y with
      | .list xs, .list ys =>
        if xs.size != ys.size then return false
        itemsEqual fuel xs.toList ys.toList
      | .dict xs, .dict ys =>
        if xs.size != ys.size then return false
        entriesWithin fuel xs.toList ys.toList
      | _, _ => return false
    | _, _ =>
      match a.num?, b.num? with
      | some m, some n => return m.cmp n == some .eq
      | _, _ =>
        match a, b with
        | .none, .none => return true
        | .str x, .str y | .str x, .markup y | .markup x, .str y | .markup x, .markup y =>
          return x == y
        | .bytes x, .bytes y => return x == y
        | .tuple xs, .tuple ys => do
          if xs.length != ys.length then return false
          itemsEqual fuel xs ys
        | .range a1 b1 s1, .range a2 b2 s2 =>
          let n1 := rangeLength a1 b1 s1
          let n2 := rangeLength a2 b2 s2
          return n1 == n2 && (n1 == 0 || (a1 == a2 && (n1 == 1 || s1 == s2)))
        | .slice a1 b1 c1, .slice a2 b2 c2 => itemsEqual fuel [a1, b1, c1] [a2, b2, c2]
        | .view k1 x, .view k2 y => return k1 == k2 && x == y
        | .builtin x, .builtin y => return x == y
        | .method r1 n1, .method r2 n2 => do
          if n1 != n2 then return false
          match r1, r2 with
          | .obj x, .obj y => return x == y
          | _, _ => equalIn fuel r1 r2
        | _, _ => return false

/-- Whether two lists of values are equal item by item, an item being equal to itself. -/
def itemsEqual : Nat → List Datum → List Datum → HeapM Bool
  | 0, _, _ => throw (recursionFailure " in comparison")
  | _ + 1, [], [] => return true
  | fuel + 1, x :: xs, y :: ys => do
    let same ← match x, y with
      | .obj p, .obj q => if p == q then pure true else equalIn fuel x y
      | _, _ => equalIn fuel x y
    if same then itemsEqual fuel xs ys else return false
  | _ + 1, _, _ => return false

/-- Whether every entry of the first mapping has an equal key in the second with an equal
value. -/
def entriesWithin : Nat → List (Datum × Datum) → List (Datum × Datum) → HeapM Bool
  | 0, _, _ => throw (recursionFailure " in comparison")
  | _ + 1, [], _ => return true
  | fuel + 1, (k, v) :: rest, other => do
    match ← findEntry fuel k other with
    | some w =>
      let same ← match v, w with
        | .obj p, .obj q => if p == q then pure true else equalIn fuel v w
        | _, _ => equalIn fuel v w
      if same then entriesWithin fuel rest other else return false
    | Option.none => return false

/-- The value of the first entry whose key equals a key. -/
def findEntry : Nat → Datum → List (Datum × Datum) → HeapM (Option Datum)
  | 0, _, _ => throw (recursionFailure " in comparison")
  | _ + 1, _, [] => return Option.none
  | fuel + 1, key, (k, v) :: rest => do
    let same ← match key, k with
      | .obj p, .obj q => if p == q then pure true else equalIn fuel key k
      | _, _ => equalIn fuel key k
    if same then return some v else findEntry fuel key rest

end

/-- Whether two values are equal. -/
def equal (a b : Datum) : HeapM Bool := equalIn nestingLimit a b

/-- The message refusing an order between two values. -/
def orderRefusal (op : CmpOp) (a b : Datum) : HeapM Failure :=
  return .typeError (quoteText op.symbol ++ " not supported between instances of " ++
    quoteText (← a.typeName) ++ " and " ++ quoteText (← b.typeName))

mutual

/-- Whether an ordering comparison holds between two values. -/
def orderIn : Nat → CmpOp → Datum → Datum → HeapM Bool
  | 0, _, _, _ => throw (recursionFailure " in comparison")
  | fuel + 1, op, a, b =>
    match a.plain, b.plain with
    | .undefined u, _ | _, .undefined u => throw (undefinedFailure u)
    | _, _ =>
      match a.num?, b.num? with
      | some m, some n => return match m.cmp n with
        | some o => op.holds o
        | Option.none => false
      | _, _ =>
        match a.text?, b.text? with
        | some x, some y => return op.holds (compareText x y)
        | _, _ =>
          match a, b with
          | .bytes x, .bytes y => return op.holds (compare (x.map UInt8.toNat) (y.map UInt8.toNat))
          | .tuple xs, .tuple ys => sequenceOrder fuel op xs ys
          | .obj x, .obj y => do
            match ← Heap.get x, ← Heap.get y with
            | .list xs, .list ys => sequenceOrder fuel op xs.toList ys.toList
            | _, _ => do throw (← orderRefusal op a b)
          | _, _ => do throw (← orderRefusal op a b)

/-- Orders two sequences: by the first items that differ, else by length. -/
def sequenceOrder : Nat → CmpOp → List Datum → List Datum → HeapM Bool
  | 0, _, _, _ => throw (recursionFailure " in comparison")
  | _ + 1, op, [], [] => return op.holds .eq
  | _ + 1, op, [], _ :: _ => return op.holds .lt
  | _ + 1, op, _ :: _, [] => return op.holds .gt
  | fuel + 1, op, x :: xs, y :: ys => do
    let same ← match x, y with
      | .obj p, .obj q => if p == q then pure true else equalIn fuel x y
      | _, _ => equalIn fuel x y
    if same then sequenceOrder fuel op xs ys else orderIn fuel op x y

end

/-- Whether an ordering comparison holds. -/
def order (op : CmpOp) (a b : Datum) : HeapM Bool := orderIn nestingLimit op a b

/-- The failure of using an unhashable value as a key. -/
def unhashable (name : String) : Failure := .typeError ("unhashable type: " ++ quoteText name)

/-- Checks that a value can be a mapping key. -/
def checkHashable : Nat → Datum → HeapM Unit
  | 0, _ => throw (recursionFailure "")
  | fuel + 1, d =>
    match d with
    | .undefined u => if u.strict then throw (undefinedFailure u) else return ()
    | .tuple xs => xs.forM (checkHashable fuel)
    | .group k v => [k, v].forM (checkHashable fuel)
    | .slice a b c => [a, b, c].forM (checkHashable fuel)
    | .view .keys _ => throw (unhashable "dict_keys")
    | .view .items _ => throw (unhashable "dict_items")
    | .obj addr => do
      match ← Heap.get addr with
      | .list _ => throw (unhashable "list")
      | .dict _ => throw (unhashable "dict")
      | _ => return ()
    | _ => return ()

/-- Checks that a value can be a mapping key. -/
def hashable (d : Datum) : HeapM Unit := checkHashable nestingLimit d

/-- The position of a key among the entries of a mapping. -/
def keyIndex (entries : Array (Datum × Datum)) (key : Datum) : HeapM (Option Nat) := do
  hashable key
  let rec go : Nat → List (Datum × Datum) → HeapM (Option Nat)
    | _, [] => return Option.none
    | i, (k, _) :: rest => do
      let same ← match k, key with
        | .obj p, .obj q => if p == q then pure true else equal k key
        | _, _ => equal k key
      if same then return some i else go (i + 1) rest
  go 0 entries.toList

/-- The value of a key in a mapping, if it is there. -/
def lookup (entries : Array (Datum × Datum)) (key : Datum) : HeapM (Option Datum) := do
  match ← keyIndex entries key with
  | some i => return entries[i]?.map (·.2)
  | Option.none => return Option.none

/-- Sets a key of a mapping, keeping the position of a key already there. -/
def insertKey (entries : Array (Datum × Datum)) (key value : Datum) :
    HeapM (Array (Datum × Datum)) := do
  match ← keyIndex entries key with
  | some i => return entries.modify i fun (k, _) => (k, value)
  | Option.none => return entries.push (key, value)

end Datum

end NodeImage.Template
