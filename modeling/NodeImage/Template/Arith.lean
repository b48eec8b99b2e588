import NodeImage.Template.Format

/-!
# Operators on values

The arithmetic operators, the unary signs, truth, and joining values into text.

Booleans count as the integers 0 and 1. Integer `+`, `-`, `*`, `//`, `%` and `**` with a
non-negative exponent are exact; `/` on integers is the exact quotient rounded once to the
nearest float, and fails when it is too large for one. An integer meets a float by turning
into a float, which fails for integers beyond the largest float. Floor division and the
remainder round towards negative infinity, the remainder taking the sign of the divisor.
A power that overflows fails instead of giving infinity; zero to a negative power fails.

Texts, lists, tuples and bytes are joined by `+` with their own kind and repeated by `*`
with an integer (nothing for a count below one). Safe text stays safe and escapes the plain
text it is joined with. `%` on text formats it. Any operator on an undefined value fails,
and every other mix of kinds is refused with the message naming both types.
-/

namespace NodeImage.Template

/-- The symbol of an arithmetic operator, as type errors name it. -/
def BinOp.symbol : BinOp → String
  | .add => "+" | .sub => "-" | .mul => "*" | .div => "/" | .floorDiv => "//"
  | .mod => "%" | .pow => "** or pow()"

namespace Datum

/-- The failure of an operator on two kinds that do not support it. -/
def unsupported (op : BinOp) (a b : Datum) : HeapM Failure :=
  return .typeError ("unsupported operand type(s) for " ++ op.symbol ++ ": " ++
    quoteText (← a.typeName) ++ " and " ++ quoteText (← b.typeName))

/-- Escapes text for HTML: `&`, `<`, `>`, `'` and `"`. -/
def escapeText (s : String) : String :=
  String.join (s.toList.map fun c =>
    match c with
    | '&' => "&amp;"
    | '<' => "&lt;"
    | '>' => "&gt;"
    | '\'' => "&#39;"
    | '"' => "&#34;"
    | c => String.singleton c)

/-- The safe text of a value: safe text as it is, a module's output, other values as
escaped text. -/
def escape (d : Datum) : HeapM String := do
  match d with
  | .markup s => return s
  | .obj addr =>
    match ← Heap.get addr with
    | .module _ _ body => joinChunks body
    | _ => return escapeText (← toText d)
  | _ => return escapeText (← toText d)

/-- Whether a value has a safe form of its own (safe text or a module). -/
def hasSafeForm (d : Datum) : HeapM Bool := do
  match d with
  | .markup _ => return true
  | .obj addr =>
    match ← Heap.get addr with
    | .module _ _ _ => return true
    | _ => return false
  | _ => return false

/-- The truth of a value. -/
def truthy (d : Datum) : HeapM Bool := do
  match d with
  | .none => return false
  | .bool b => return b
  | .int i => return i != 0
  | .float x => return x != 0
  | .str s | .markup s => return !s.isEmpty
  | .bytes bs => return !bs.isEmpty
  | .tuple xs => return !xs.isEmpty
  | .range a b s => return rangeLength a b s != 0
  | .undefined u => if u.strict then throw (undefinedFailure u) else return false
  | .view _ _ => return (← length d) != 0
  | .obj addr =>
    match ← Heap.get addr with
    | .list xs => return !xs.isEmpty
    | .dict es => return !es.isEmpty
    | .loop _ => return (← length d) != 0
    | _ => return true
  | _ => return true

/-- Repeats a list `n` times (nothing for `n` below one). -/
def repeatList {α : Type} (xs : List α) (n : Int) : List α :=
  (List.replicate n.toNat xs).flatten

/-- The count of a repetition, refused when it is not an integer or far too large. -/
def repeatCount (seq count : Datum) : HeapM Int := do
  match count.index? with
  | some n =>
    if n ≥ Nat.pow 2 63 then throw (.host "OverflowError" "cannot fit 'int' into an index-sized integer")
    let len ← length seq
    if n > 0 && len * n.toNat > Nat.pow 2 32 then throw (.host "MemoryError" "")
    return n
  | Option.none =>
    throw (.typeError ("can't multiply sequence by non-int of type " ++ quoteText (← count.typeName)))

/-- Whether a value is a sequence that `*` repeats. -/
def isSequence (d : Datum) : HeapM Bool := do
  match d with
  | .str _ | .markup _ | .tuple _ | .group _ _ | .bytes _ => return true
  | .obj addr =>
    match ← Heap.get addr with
    | .list _ => return true
    | _ => return false
  | _ => return false

/-- Repeats a sequence. -/
def repeatSeq (seq : Datum) (n : Int) : HeapM Datum := do
  match seq with
  | .str s => return .str (String.join (List.replicate n.toNat s))
  | .markup s => return .markup (String.join (List.replicate n.toNat s))
  | .tuple xs => return .tuple (repeatList xs n)
  | .group k v => return .tuple (repeatList [k, v] n)
  | .bytes bs => return .bytes (repeatList bs n)
  | .obj addr =>
    match ← Heap.get addr with
    | .list xs => newList (repeatList xs.toList n).toArray
    | _ => return seq
  | _ => return seq

/-- The quotient of two integers as the nearest float. -/
def intDivide (a b : Int) : HeapM Datum := do
  if b == 0 then throw (.host "ZeroDivisionError" "division by zero")
  let negative := (a < 0) != (b < 0)
  match Number.ofRatio? negative a.natAbs b.natAbs with
  | some x => return .float (if a == 0 && b < 0 then -0.0 else x)
  | Option.none => throw (.host "OverflowError" "integer division result too large for a float")

/-- The power of two floats, with the failures of overflow and of zero to a negative power. -/
def floatPower (x y : Float) : HeapM Float := do
  if y == 0 then return 1.0
  if x == 0 && y < 0 then throw (.host "ZeroDivisionError" "0.0 cannot be raised to a negative power")
  if x < 0 && !y.isInf && !y.isNaN && y.floor != y then
    throw (.valueError "math domain error")
  let r := Float.pow x y
  if r.isInf && !x.isInf && !y.isInf then
    throw (.host "OverflowError" "(34, 'Numerical result out of range')")
  return r

/-- The result of an arithmetic operator on two numbers. -/
def numeric (op : BinOp) (m n : Num) : HeapM Datum := do
  let toFloat := fun (k : Num) => match k with
    | .int i => liftExcept (intToFloat i)
    | .float x => pure x
  match op, m, n with
  | .add, .int a, .int b => return .int (a + b)
  | .sub, .int a, .int b => return .int (a - b)
  | .mul, .int a, .int b => return .int (a * b)
  | .div, .int a, .int b => intDivide a b
  | .floorDiv, .int a, .int b =>
    if b == 0 then throw (.host "ZeroDivisionError" "integer division or modulo by zero")
    return .int (Int.fdiv a b)
  | .mod, .int a, .int b =>
    if b == 0 then throw (.host "ZeroDivisionError" "integer modulo by zero")
    return .int (Int.fmod a b)
  | .pow, .int a, .int b =>
    if b ≥ 0 then return .int (Int.pow a b.toNat)
    if a == 0 then throw (.host "ZeroDivisionError" "0.0 cannot be raised to a negative power")
    return .float (← floatPower (← toFloat m) (← toFloat n))
  | _, _, _ =>
    let x ← toFloat m
    let y ← toFloat n
    match op with
    | .add => return .float (x + y)
    | .sub => return .float (x - y)
    | .mul => return .float (x * y)
    | .div =>
      if y == 0 then throw (.host "ZeroDivisionError" "float division by zero")
      return .float (x / y)
    | .floorDiv =>
      if y == 0 then throw (.host "ZeroDivisionError" "float floor division by zero")
      return .float (Number.floatFloorDivide x y)
    | .mod =>
      if y == 0 then throw (.host "ZeroDivisionError" "float modulo")
      return .float (Number.floatModulo x y)
    | .pow => return .float (← floatPower x y)

/-- The result of an arithmetic operator on two values. -/
def binary (op : BinOp) (a b : Datum) : HeapM Datum := do
  match a, b with
  | .undefined u, _ | _, .undefined u => throw (undefinedFailure u)
  | _, _ =>
  match a.num?, b.num? with
  | some m, some n => numeric op m n
  | _, _ =>
  match op with
  | .add =>
    match a, b with
    | .str x, .str y => return .str (x ++ y)
    | .markup x, .str y => return .markup (x ++ escapeText y)
    | .markup x, .markup y | .str x, .markup y =>
      return .markup ((if let .str _ := a then escapeText x else x) ++ y)
    | .markup x, _ =>
      if ← hasSafeForm b then return .markup (x ++ (← escape b))
      throw (.typeError ("can only concatenate str (not " ++ (← b.typeName).quote ++ ") to str"))
    | .str _, _ =>
      throw (.typeError ("can only concatenate str (not " ++ (← b.typeName).quote ++ ") to str"))
    | .tuple _, _ | .group _ _, _ =>
      if let (.tuple xs, .tuple ys) := (a.plain, b.plain) then return .tuple (xs ++ ys)
      throw (.typeError ("can only concatenate tuple (not " ++ (← b.typeName).quote ++ ") to tuple"))
    | .bytes xs, .bytes ys => return .bytes (xs ++ ys)
    | .bytes _, _ => throw (.typeError ("can't concat " ++ (← b.typeName) ++ " to bytes"))
    | .obj x, _ =>
      match ← Heap.get x with
      | .list xs =>
        match b with
        | .obj y =>
          match ← Heap.get y with
          | .list ys => newList (xs ++ ys)
          | _ => throw (.typeError ("can only concatenate list (not " ++ (← b.typeName).quote ++ ") to list"))
        | _ => throw (.typeError ("can only concatenate list (not " ++ (← b.typeName).quote ++ ") to list"))
      | _ => throw (← unsupported op a b)
    | _, _ => throw (← unsupported op a b)
  | .mul =>
    if ← isSequence a then
      let n ← repeatCount a b
      return ← repeatSeq a n
    if ← isSequence b then
      let n ← repeatCount b a
      return ← repeatSeq b n
    throw (← unsupported op a b)
  | .mod =>
    match a with
    | .str s => return .str (← percentFormat s b id)
    | .markup s => return .markup (← percentFormat s b escapeText)
    | _ => throw (← unsupported op a b)
  | _ => throw (← unsupported op a b)

/-- The result of a unary sign on a value. -/
def negate (op : UnOp) (d : Datum) : HeapM Datum := do
  if op == .not then return .bool !(← truthy d)
  match d with
  | .undefined u => throw (undefinedFailure u)
  | _ =>
    match d.num?, op with
    | some (.int i), .neg => return .int (-i)
    | some (.float x), .neg => return .float (-x)
    | some (.int i), .pos => return .int i
    | some (.float x), .pos => return .float x
    | _, .not => return .bool !(← truthy d)
    | _, _ =>
      throw (.typeError ("bad operand type for unary " ++ (if op == .neg then "-" else "+") ++
        ": " ++ quoteText (← d.typeName)))

/-- The texts of values joined, as `~` joins them: plain text. -/
def joinText (parts : List Datum) : HeapM String := do
  let texts ← parts.mapM toText
  return String.join texts

/-- The texts of values joined with escaping: when one of them is safe text, the others
are escaped and the result is safe. -/
def joinMarkup (parts : List Datum) : HeapM Datum := do
  let mut anySafe := false
  for p in parts do
    if ← hasSafeForm p then anySafe := true
  if anySafe then
    let texts ← parts.mapM escape
    return .markup (String.join texts)
  return .str (← joinText parts)

end Datum

end NodeImage.Template
