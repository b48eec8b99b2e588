import NodeImage.Template.Binding

/-!
# Tests

The tests a template applies with `is`: what kind of value it is (`defined`, `none`,
`number`, `string`, `mapping`, `sequence`, `iterable`, `callable`, …), properties of
numbers (`odd`, `even`, `divisibleby`) and of text (`lower`, `upper`), comparisons with
another value (`eq`, `lt`, `in`, `sameas`, …) and whether a name is a filter or a test.

A test is a function: it takes the value and its own parameters, and an argument that
does not fit fails as a call does. The comparisons are those of the operators, failing
where they fail. `sameas` is identity: the same object in the heap, or a value the host
keeps only one of (`none`, the booleans, small integers, the empty text and
one-character texts).
-/

namespace NodeImage.Template

/-- The names of the filters. -/
def filterNames : List String :=
  ["abs", "attr", "batch", "capitalize", "center", "count", "d", "default", "dictsort", "e",
    "escape", "filesizeformat", "first", "float", "forceescape", "format", "groupby", "indent",
    "int", "join", "last", "length", "list", "lower", "items", "map", "min", "max", "pprint",
    "random", "reject", "rejectattr", "replace", "reverse", "round", "safe", "select",
    "selectattr", "slice", "sort", "string", "striptags", "sum", "title", "trim", "truncate",
    "unique", "upper", "urlencode", "urlize", "wordcount", "wordwrap", "xmlattr", "tojson"]

/-- The names of the tests. -/
def testNames : List String :=
  ["odd", "even", "divisibleby", "defined", "undefined", "filter", "test", "none", "boolean",
    "false", "true", "integer", "float", "lower", "upper", "string", "mapping", "number",
    "sequence", "iterable", "callable", "sameas", "escaped", "in", "==", "eq", "equalto", "!=",
    "ne", ">", "gt", "greaterthan", "ge", ">=", "<", "lt", "lessthan", "<=", "le"]

namespace Datum

/-- Whether a value can be called. -/
def isCallable (d : Datum) : HeapM Bool := do
  match d with
  | .builtin _ | .method _ _ | .undefined _ => return true
  | .obj a =>
    match ← Heap.get a with
    | .callable _ | .loop _ | .joiner _ _ | .blockRef _ _ _ _ => return true
    | _ => return false
  | _ => return false

/-- Whether two values are the same object. -/
def sameObject (a b : Datum) : Bool :=
  match a, b with
  | .none, .none => true
  | .bool x, .bool y => x == y
  | .int x, .int y => x == y && -5 ≤ x && x ≤ 256
  | .str x, .str y => x == y && (x.isEmpty || (x.length == 1 && x.front.toNat < 256))
  | .tuple [], .tuple [] => true
  | .obj x, .obj y => x == y
  | .view k x, .view l y => k == l && x == y
  | .builtin x, .builtin y => x == y
  | _, _ => false

/-- Whether a value has a length and items by position. -/
def isSequence' (d : Datum) : HeapM Bool := do
  match d with
  | .str _ | .markup _ | .bytes _ | .tuple _ | .group _ _ | .range _ _ _ => return true
  | .undefined u => return !u.strict
  | .obj a =>
    match ← Heap.get a with
    | .list _ | .dict _ => return true
    | _ => return false
  | _ => return false

/-- Whether a value can be iterated; a strict undefined value fails. -/
def isIterable (d : Datum) : HeapM Bool := do
  match d with
  | .str _ | .markup _ | .bytes _ | .tuple _ | .group _ _ | .range _ _ _ | .view _ _ => return true
  | .undefined u => if u.strict then throw (undefinedFailure u) else return true
  | .obj a =>
    match ← Heap.get a with
    | .list _ | .dict _ | .generator _ _ _ | .loop _ => return true
    | _ => return false
  | _ => return false

/-- Whether a value names something in a list of names, as a key of a mapping would. -/
def namesOneOf (d : Datum) (names : List String) : HeapM Bool := do
  hashable d
  match d with
  | .str s | .markup s => return names.contains s
  | _ => return false

/-- Applies a test to a value. -/
def applyTest (name : String) (value : Datum) (args : List Datum)
    (kwargs : List (String × Datum)) : HeapM Bool := do
  let plainTest := fun (params : List String) => do
    let b ← (Signature.mk ("test_" ++ name) ("value" :: params) (params.length + 1) 0 false false).bind
      (value :: args) kwargs
    pure b
  let other := fun (b : Bound) => b.get 1 .none
  let compare := fun (fname : String) => do
    let (a, b) ← checkTwoArguments fname (value :: args) kwargs
    pure (a, b)
  match name with
  | "odd" | "even" =>
    let _ ← plainTest []
    let r ← binary .mod value (.int 2)
    equal r (.int (if name == "odd" then 1 else 0))
  | "divisibleby" =>
    let b ← plainTest ["num"]
    let r ← binary .mod value (other b)
    equal r (.int 0)
  | "defined" => let _ ← plainTest []; return !(value matches .undefined _)
  | "undefined" => let _ ← plainTest []; return (value matches .undefined _)
  | "filter" | "test" =>
    let b ← (Signature.mk ("test_" ++ name) ["env", "value"] 2 0 false false).bind (.none :: value :: args) kwargs
    namesOneOf (b.get 1 .none) (if name == "filter" then filterNames else testNames)
  | "none" => let _ ← plainTest []; return (value matches .none)
  | "boolean" => let _ ← plainTest []; return (value matches .bool _)
  | "false" => let _ ← plainTest []; return (value matches .bool false)
  | "true" => let _ ← plainTest []; return (value matches .bool true)
  | "integer" => let _ ← plainTest []; return (value matches .int _)
  | "float" => let _ ← plainTest []; return (value matches .float _)
  | "lower" => let _ ← plainTest []; return Text.isLowerCase (← toText value)
  | "upper" => let _ ← plainTest []; return Text.isUpperCase (← toText value)
  | "string" => let _ ← plainTest []; return value.text?.isSome
  | "mapping" =>
    let _ ← plainTest []
    match value with
    | .obj a => return ((← Heap.get a) matches .dict _)
    | _ => return false
  | "number" => let _ ← plainTest []; return value.num?.isSome
  | "sequence" => let _ ← plainTest []; isSequence' value
  | "iterable" => let _ ← plainTest []; isIterable value
  | "callable" => isCallable (← checkOneArgument "callable" (value :: args) kwargs)
  | "sameas" => let b ← plainTest ["other"]; return sameObject value (other b)
  | "escaped" =>
    let _ ← plainTest []
    match value with
    | .markup _ => return true
    | .obj a => return ((← Heap.get a) matches .module _ _ _)
    | _ => return false
  | "in" => let b ← plainTest ["seq"]; contains (other b) value
  | "==" | "eq" | "equalto" => let (a, b) ← compare "eq"; equal a b
  | "!=" | "ne" => let (a, b) ← compare "ne"; return !(← equal a b)
  | ">" | "gt" | "greaterthan" => let (a, b) ← compare "gt"; order .gt a b
  | ">=" | "ge" => let (a, b) ← compare "ge"; order .gteq a b
  | "<" | "lt" | "lessthan" => let (a, b) ← compare "lt"; order .lt a b
  | "<=" | "le" => let (a, b) ← compare "le"; order .lteq a b
  | _ => throw (.runtime ("No test named " ++ quoteText name ++ "."))

end Datum

end NodeImage.Template
