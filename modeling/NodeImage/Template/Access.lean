import NodeImage.Template.Compare

/-!
# Reaching into values

The length of a value, its items, its members and its items by key, its slices, and
whether it contains a value.

Member access first looks for an attribute of the value's type (a method bound to the
value, or a property such as the position of a loop) and then for an item of that name;
item access first looks for the item and then, for a text key, for an attribute. What
neither finds is a strict undefined value naming the object and the member, and only
lookup errors and type errors lead to it: any other failure, and any access on an
undefined value, fails.

Slices follow the usual rules: missing bounds default to the ends, negative ones count
from the end, bounds are clamped, and a zero step is refused. A list is iterated live, so
that a loop sees items appended while it runs.
-/

namespace NodeImage.Template

/-- The next item of a stream, and the stream after it. -/
def Stream.next : Stream → HeapM (Option (Datum × Stream))
  | .items [] => return Option.none
  | .items (x :: xs) => return some (x, .items xs)
  | .list addr i => do
    match ← Heap.get addr with
    | .list cells => return (cells[i]?).map fun x => (x, .list addr (i + 1))
    | _ => return Option.none
  | .generator addr => do
    match ← Heap.get addr with
    | .generator n (x :: xs) f =>
      Heap.set addr (.generator n xs f)
      return some (x, .generator addr)
    | .generator n [] (some f) =>
      Heap.set addr (.generator n [] Option.none)
      throw f
    | _ => return Option.none
  | .range a b s =>
    if (s > 0 && a < b) || (s < 0 && a > b) then return some (.int a, .range (a + s) b s)
    else return Option.none

/-- All the items left in a stream; `fuel` bounds their number. -/
def Stream.rest : Nat → Stream → HeapM (List Datum)
  | 0, _ => return []
  | fuel + 1, s => do
    match ← s.next with
    | some (x, s') => return x :: (← Stream.rest fuel s')
    | Option.none => return []

namespace Datum

/-- The index-sized integer a value is, for positions and slice bounds. -/
def index? : Datum → Option Int
  | .bool b => some (if b then 1 else 0)
  | .int i => some i
  | _ => Option.none

/-- A slice bound: none for a missing one, refused when not an integer. -/
def sliceBound : Datum → HeapM (Option Int)
  | .none => return Option.none
  | d => match d.index? with
    | some i => return some i
    | Option.none =>
      throw (.typeError "slice indices must be integers or None or have an __index__ method")

/-- The start, stop and step a slice selects in a sequence of a length. -/
def sliceIndices (start stop step : Datum) (length : Nat) : HeapM (Int × Int × Int) := do
  let step ← match ← sliceBound step with
    | some 0 => throw (.valueError "slice step cannot be zero")
    | some s => pure s
    | Option.none => pure 1
  let start ← sliceBound start
  let stop ← sliceBound stop
  let len : Int := length
  let (lower, upper) : Int × Int := if step < 0 then (-1, len - 1) else (0, len)
  let clamp := fun (b : Option Int) (dflt : Int) =>
    match b with
    | Option.none => dflt
    | some i =>
      if i < 0 then (if i + len < lower then lower else i + len)
      else if i > upper then upper else i
  return (clamp start (if step < 0 then upper else lower),
    clamp stop (if step < 0 then lower else upper), step)

/-- The positions a slice selects in a sequence of a length. -/
def slicePositions (start stop step : Datum) (length : Nat) : HeapM (List Nat) := do
  let (a, b, s) ← sliceIndices start stop step length
  return (rangeItems a b s).filterMap fun d => match d with
    | .int i => some i.toNat
    | _ => Option.none

/-- The items of a list at positions. -/
def pick {α : Type} [Inhabited α] (xs : Array α) (ps : List Nat) : List α :=
  ps.map fun p => xs[p]!

/-- Resolves an index against a length, negative ones counting from the end. -/
def position? (length : Nat) (i : Int) : Option Nat :=
  let j := if i < 0 then i + length else i
  if 0 ≤ j && j < length then some j.toNat else Option.none

/-- The failure of a position out of range. -/
def outOfRange (what : String) : Failure := .host "IndexError" (what ++ " index out of range")

/-- The failure of a key that is missing. -/
def missingKey (key : Datum) : HeapM Failure := return .host "KeyError" (← repr key)

/-- The failure of a type that has no items. -/
def notSubscriptable (d : Datum) : HeapM Failure :=
  return .typeError (quoteText (← d.typeName) ++ " object is not subscriptable")

/-- The characters of a text, each as a text. -/
def chars (s : String) : List Datum := s.toList.map fun c => .str (String.singleton c)

/-- The item of a value at a key, or the lookup or type error refusing it. -/
def rawItem (obj key : Datum) : HeapM Datum := do
  let obj := obj.plain
  let seqIndex := fun (what : String) (len : Nat) => do
    match key.index? with
    | some i => match position? len i with
      | some p => pure (some p)
      | Option.none => throw (outOfRange what)
    | Option.none => pure Option.none
  let refuse := fun (what : String) => do
    throw (.typeError (what ++ " indices must be integers or slices, not " ++ (← key.typeName)))
  match obj with
  | .str s | .markup s =>
    let cs := s.toList.toArray
    let wrap := fun (t : String) => match obj with
      | .markup _ => Datum.markup t
      | _ => Datum.str t
    match key with
    | .slice a b c => return wrap (String.ofList (pick cs (← slicePositions a b c cs.size)))
    | _ =>
      match ← seqIndex "string" cs.size with
      | some p => return wrap (String.singleton cs[p]!)
      | Option.none =>
        throw (.typeError ("string indices must be integers, not " ++ quoteText (← key.typeName)))
  | .tuple xs =>
    let arr := xs.toArray
    match key with
    | .slice a b c => return .tuple (pick arr (← slicePositions a b c arr.size))
    | _ =>
      match ← seqIndex "tuple" arr.size with
      | some p => return arr[p]!
      | Option.none => refuse "tuple"
  | .bytes bs =>
    let arr := bs.toArray
    match key with
    | .slice a b c => return .bytes (pick arr (← slicePositions a b c arr.size))
    | _ =>
      match ← seqIndex "index" arr.size with
      | some p => return .int arr[p]!.toNat
      | Option.none => refuse "byte"
  | .range a b s =>
    let n := rangeLength a b s
    match key with
    | .slice x y z =>
      let (i, j, k) ← sliceIndices x y z n
      return .range (a + i * s) (a + j * s) (s * k)
    | _ =>
      match key.index? with
      | some i => match position? n i with
        | some p => return .int (a + s * p)
        | Option.none => throw (.host "IndexError" "range object index out of range")
      | Option.none => refuse "range"
  | .undefined u => throw (undefinedFailure u)
  | .obj addr =>
    match ← Heap.get addr with
    | .list items =>
      match key with
      | .slice a b c => newList (pick items (← slicePositions a b c items.size)).toArray
      | _ =>
        match ← seqIndex "list" items.size with
        | some p => return items[p]!
        | Option.none => refuse "list"
    | .dict entries =>
      match ← lookup entries key with
      | some v => return v
      | Option.none => throw (← missingKey key)
    | _ => throw (← notSubscriptable obj)
  | _ => throw (← notSubscriptable obj)

/-- Whether a failure is one that member and item access turn into an undefined value. -/
def isLookupFailure (f : Failure) : Bool :=
  ["TypeError", "IndexError", "KeyError", "AttributeError"].contains f.kind

/-- The undefined value of a missing attribute. -/
def missingAttribute (obj : Datum) (name : String) : HeapM Datum :=
  return strictUndefined (quoteText (← objectTypeRepr obj) ++ " has no attribute " ++ quoteText name)

/-- The undefined value of a missing item. -/
def missingItem (obj key : Datum) : HeapM Datum :=
  return strictUndefined ((← objectTypeRepr obj) ++ " has no element " ++ (← repr key))

/-- The method names of texts. -/
def textMethods : List String :=
  ["capitalize", "casefold", "center", "count", "encode", "endswith", "expandtabs", "find",
    "format", "format_map", "index", "isalnum", "isalpha", "isascii", "isdecimal", "isdigit",
    "isidentifier", "islower", "isnumeric", "isprintable", "isspace", "istitle", "isupper",
    "join", "ljust", "lower", "lstrip", "maketrans", "partition", "removeprefix",
    "removesuffix", "replace", "rfind", "rindex", "rjust", "rpartition", "rsplit", "rstrip",
    "split", "splitlines", "startswith", "strip", "swapcase", "title", "translate", "upper",
    "zfill"]

/-- The method names of integers. -/
def intMethods : List String :=
  ["as_integer_ratio", "bit_count", "bit_length", "conjugate", "from_bytes", "is_integer",
    "to_bytes"]

/-- The method names of floats. -/
def floatMethods : List String :=
  ["as_integer_ratio", "conjugate", "fromhex", "hex", "is_integer"]

/-- The method names of lists. -/
def listMethods : List String :=
  ["append", "clear", "copy", "count", "extend", "index", "insert", "pop", "remove", "reverse",
    "sort"]

/-- The method names of mappings. -/
def dictMethods : List String :=
  ["clear", "copy", "fromkeys", "get", "items", "keys", "pop", "popitem", "setdefault",
    "update", "values"]

/-- The bound on the number of items read from a stream at once. -/
def streamLimit : Nat := 100000000

/-- The failure of a value that cannot be iterated. -/
def notIterable (d : Datum) : HeapM Failure :=
  return .typeError (quoteText (← d.typeName) ++ " object is not iterable")

/-- The items a value yields when iterated; a generator is used up. -/
def items (d : Datum) : HeapM (List Datum) := do
  match d with
  | .str s | .markup s => return chars s
  | .bytes bs => return bs.map fun b => .int b.toNat
  | .tuple xs => return xs
  | .group k v => return [k, v]
  | .range a b s => return rangeItems a b s
  | .undefined u => if u.strict then throw (undefinedFailure u) else return []
  | .view k addr =>
    match ← Heap.get addr with
    | .dict es => return match k with
      | .keys => es.toList.map (·.1)
      | .values => es.toList.map (·.2)
      | .items => es.toList.map fun (a, b) => .tuple [a, b]
    | _ => return []
  | .obj addr =>
    match ← Heap.get addr with
    | .list xs => return xs.toList
    | .dict es => return es.toList.map (·.1)
    | .generator n xs f =>
      Heap.set addr (.generator n [] Option.none)
      if let some e := f then throw e
      return xs
    | _ => throw (← notIterable d)
  | _ => throw (← notIterable d)

/-- The stream of a value's items, for a loop: a list and a range are read as the loop
goes, a generator is consumed as it goes. -/
def toStream (d : Datum) : HeapM Stream := do
  match d with
  | .range a b s => return .range a b s
  | .obj addr =>
    match ← Heap.get addr with
    | .list _ => return .list addr 0
    | .generator _ _ _ => return .generator addr
    | _ => return .items (← items d)
  | _ => return .items (← items d)

/-- The failure of a value without a length. -/
def noLength (d : Datum) : HeapM Failure :=
  return .typeError ("object of type " ++ quoteText (← d.typeName) ++ " has no len()")

/-- The length of a value that has one. -/
def sizedLength? (d : Datum) : HeapM (Option Nat) := do
  match d with
  | .str s | .markup s => return some s.length
  | .bytes bs => return some bs.length
  | .tuple xs => return some xs.length
  | .group _ _ => return some 2
  | .range a b s => return some (rangeLength a b s)
  | .view _ addr =>
    match ← Heap.get addr with
    | .dict es => return some es.size
    | _ => return some 0
  | .obj addr =>
    match ← Heap.get addr with
    | .list xs => return some xs.size
    | .dict es => return some es.size
    | _ => return Option.none
  | _ => return Option.none

/-- The length of a loop: asked of its iterable when it has one, otherwise counted by
reading the rest of its items, which the loop then reads from a list. -/
def loopLength (addr : Nat) (st : LoopState) : HeapM Nat := do
  if let some n := st.length then return n
  let known ← match st.iterable with
    | some it => sizedLength? it
    | Option.none => pure Option.none
  match known with
  | some n =>
    Heap.set addr (.loop { st with length := some n })
    return n
  | Option.none =>
    let rest ← st.source.rest streamLimit
    let n := rest.length + (st.index0 + 1).toNat + (if st.after.isSome then 1 else 0)
    Heap.set addr (.loop { st with length := some n, source := .items rest })
    return n

/-- The length of a value. -/
def length (d : Datum) : HeapM Nat := do
  match d with
  | .undefined u => if u.strict then throw (undefinedFailure u) else return 0
  | .obj addr =>
    match ← Heap.get addr with
    | .loop st => loopLength addr st
    | _ =>
      match ← sizedLength? d with
      | some n => return n
      | Option.none => throw (← noLength d)
  | _ =>
    match ← sizedLength? d with
    | some n => return n
    | Option.none => throw (← noLength d)

/-- The item after the current one of a loop, read ahead and kept; none at the end. -/
def loopPeek (addr : Nat) : HeapM (Option Datum) := do
  match ← Heap.get addr with
  | .loop st =>
    if let some x := st.after then return some x
    match ← st.source.next with
    | some (x, s) =>
      Heap.set addr (.loop { st with after := some x, source := s })
      return some x
    | Option.none => return Option.none
  | _ => return Option.none

/-- A property of a loop. -/
def loopAttr (self : Datum) (addr : Nat) (st : LoopState) (name : String) : HeapM (Option Datum) := do
  let index0 := st.index0
  match name with
  | "index0" => return some (.int index0)
  | "index" => return some (.int (index0 + 1))
  | "depth0" => return some (.int st.depth0)
  | "depth" => return some (.int (st.depth0 + 1))
  | "first" => return some (.bool (index0 == 0))
  | "length" => return some (.int (← loopLength addr st))
  | "revindex" => return some (.int ((← loopLength addr st : Int) - index0))
  | "revindex0" => return some (.int ((← loopLength addr st : Int) - (index0 + 1)))
  | "last" => return some (.bool (← loopPeek addr).isNone)
  | "previtem" =>
    if index0 == 0 then return some (strictUndefined "there is no previous item")
    return some (st.before.getD (strictUndefined "there is no previous item"))
  | "nextitem" =>
    match ← loopPeek addr with
    | some x => return some x
    | Option.none => return some (strictUndefined "there is no next item")
  | "cycle" | "changed" => return some (.method self name)
  | _ => return Option.none

/-- The attribute of a value's type with a name, if it has one: a bound method or a
property. -/
def rawAttr (obj : Datum) (name : String) : HeapM (Option Datum) := do
  match obj with
  | .undefined u => throw (undefinedFailure u)
  | .str _ => return if textMethods.contains name then some (.method obj name) else Option.none
  | .markup _ =>
    return if textMethods.contains name || ["escape", "unescape", "striptags"].contains name then
      some (.method obj name) else Option.none
  | .bool _ | .int _ =>
    let i := match obj.index? with
      | some i => i
      | Option.none => 0
    match name with
    | "real" | "numerator" => return some (.int i)
    | "imag" => return some (.int 0)
    | "denominator" => return some (.int 1)
    | _ => return if intMethods.contains name then some (.method obj name) else Option.none
  | .float x =>
    match name with
    | "real" => return some (.float x)
    | "imag" => return some (.float 0)
    | _ => return if floatMethods.contains name then some (.method obj name) else Option.none
  | .tuple _ => return if ["count", "index"].contains name then some (.method obj name) else Option.none
  | .group k v =>
    match name with
    | "grouper" => return some k
    | "list" => return some v
    | "count" | "index" => return some (.method (.tuple [k, v]) name)
    | _ => return Option.none
  | .range a b s =>
    match name with
    | "start" => return some (.int a)
    | "stop" => return some (.int b)
    | "step" => return some (.int s)
    | "count" | "index" => return some (.method obj name)
    | _ => return Option.none
  | .slice a b c =>
    match name with
    | "start" => return some a
    | "stop" => return some b
    | "step" => return some c
    | "indices" => return some (.method obj name)
    | _ => return Option.none
  | .bytes _ => return if ["decode", "hex"].contains name then some (.method obj name) else Option.none
  | .view _ _ => return if name == "isdisjoint" then some (.method obj name) else Option.none
  | .obj addr =>
    match ← Heap.get addr with
    | .list _ => return if listMethods.contains name then some (.method obj name) else Option.none
    | .dict _ => return if dictMethods.contains name then some (.method obj name) else Option.none
    | .namespace entries => lookup entries (.str name)
    | .cycler items pos =>
      match name with
      | "reset" | "next" => return some (.method obj name)
      | "current" => return items[pos]?
      | "items" => return some (.tuple items)
      | "pos" => return some (.int pos)
      | _ => return Option.none
    | .joiner sep used =>
      match name with
      | "sep" => return some sep
      | "used" => return some (.bool used)
      | _ => return Option.none
    | .loop st => loopAttr obj addr st name
    | .callable m =>
      match name with
      | "name" => return some ((m.name.map Datum.str).getD .none)
      | "arguments" => return some (.tuple (m.params.map .str))
      | "catch_kwargs" => return some (.bool m.usesKwargs)
      | "catch_varargs" => return some (.bool m.usesVarargs)
      | "caller" => return some (.bool m.usesCaller)
      | _ => return Option.none
    | .module _ exports _ => return exports.lookup name
    | .blockRef bname ctx stack depth =>
      if name == "super" then
        if depth + 1 ≥ stack.length then
          return some (strictUndefined ("there is no parent block called " ++ quoteText bname ++ "."))
        return some (.obj (← Heap.alloc (.blockRef bname ctx stack (depth + 1))))
      return Option.none
    | _ => return Option.none
  | _ => return Option.none

/-- The item of a value of a template reference: the block of that name. -/
def templateItem (ctx : Nat) (key : Datum) : HeapM (Option Datum) := do
  match key, ← Heap.get ctx with
  | .str n, .context c | .markup n, .context c =>
    match c.blocks.lookup n with
    | some stack => return some (.obj (← Heap.alloc (.blockRef n ctx stack 0)))
    | Option.none => return Option.none
  | _, _ => return Option.none

/-- Member access: an attribute of the value's type, else the item of that name, else a
strict undefined value. -/
def getAttr (obj : Datum) (name : String) : HeapM Datum := do
  match ← rawAttr obj name with
  | some v => return v
  | Option.none =>
    if let .obj addr := obj then
      if let .templateRef ctx ← Heap.get addr then
        if let some v ← templateItem ctx (.str name) then return v
    tryCatch (rawItem obj (.str name)) fun f =>
      if isLookupFailure f then missingAttribute obj name else throw f

/-- Item access: the item at a key, else for a text key the attribute of that name, else
a strict undefined value. -/
def getItem (obj key : Datum) : HeapM Datum := do
  if let .obj addr := obj then
    if let .templateRef ctx ← Heap.get addr then
      if let some v ← templateItem ctx key then return v
  tryCatch (rawItem obj key) fun f => do
    if !isLookupFailure f then throw f
    match key with
    | .str s | .markup s =>
      match ← rawAttr obj s with
      | some v => return v
      | Option.none => missingAttribute obj s
    | _ => missingItem obj key

/-- The failure of testing membership in a value that cannot hold items. -/
def notContainer (d : Datum) : HeapM Failure :=
  return .typeError ("argument of type " ++ quoteText (← d.typeName) ++ " is not iterable")

/-- Whether a list of values holds one equal to a value. -/
def holds (item : Datum) : List Datum → HeapM Bool
  | [] => return false
  | x :: xs => do
    let same ← match x, item with
      | .obj p, .obj q => if p == q then pure true else equal x item
      | _, _ => equal x item
    if same then return true else holds item xs

/-- Whether a container holds an item; a generator is read up to the item. -/
def contains (container item : Datum) : HeapM Bool := do
  match container with
  | .undefined u => if u.strict then throw (undefinedFailure u) else return false
  | .str s | .markup s =>
    match item with
    | .str t | .markup t => return (s.splitOn t).length > 1 || t.isEmpty
    | _ => throw (.typeError ("'in <string>' requires string as left operand, not " ++ (← item.typeName)))
  | .bytes bs =>
    match item with
    | .bytes t => return t.isEmpty || (List.range (bs.length + 1)).any fun i => (bs.drop i).take t.length == t
    | _ => match item.index? with
      | some i => return bs.any fun b => (b.toNat : Int) == i
      | Option.none =>
        throw (.typeError ("a bytes-like object is required, not " ++ quoteText (← item.typeName)))
  | .tuple xs => holds item xs
  | .group k v => holds item [k, v]
  | .range a b s =>
    match item with
    | .int _ | .bool _ =>
      let i := (item.index?).getD 0
      let n := rangeLength a b s
      return n > 0 && (if s > 0 then a ≤ i && i < b else b < i && i ≤ a) && (i - a) % s == 0
    | _ => holds item (rangeItems a b s)
  | .view k addr =>
    match ← Heap.get addr with
    | .dict es =>
      match k with
      | .keys => return (← lookup es item).isSome
      | .values => holds item (es.toList.map (·.2))
      | .items =>
        match item with
        | .tuple [key, v] =>
          match ← lookup es key with
          | some w => equal v w
          | Option.none => return false
        | _ => return false
    | _ => return false
  | .obj addr =>
    match ← Heap.get addr with
    | .list xs => holds item xs.toList
    | .dict es => return (← lookup es item).isSome
    | .generator n xs f =>
      let rec scan : List Datum → HeapM (Bool × List Datum)
        | [] => return (false, [])
        | x :: rest => do
          if ← equal x item then return (true, rest) else scan rest
      let (found, rest) ← scan xs
      Heap.set addr (.generator n rest (if found then f else Option.none))
      if !found then
        if let some e := f then throw e
      return found
    | _ => throw (← notContainer container)
  | _ => throw (← notContainer container)

end Datum

end NodeImage.Template
