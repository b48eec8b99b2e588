import NodeImage.Template.Syntax
import NodeImage.Template.Failure
import NodeImage.Text.Quote

/-!
# Values of rendering

Rendering works on `Datum`s. Numbers, texts, tuples and ranges are plain values; lists,
mappings, namespaces and every value with state or identity (a cycler, a joiner, the state
of a loop, a callable defined by the template, a template module) live in a heap of cells
and are reached by their address, so that a change made through one reference is seen
through every other, as the template language requires.

An undefined value remembers the message it fails with. A strict one fails as soon as it
is printed, compared, iterated or tested for truth; the plain one, which an inline `if`
without `else` yields, prints as nothing and fails only on arithmetic and member access.

The heap also holds the activations of the template's callables, their variables keyed by
scope level and name, and the contexts of rendered templates.
-/

namespace NodeImage.Template

/-- The callables every template sees as globals. -/
inductive Builtin where
  | range
  | dict
  | lipsum
  | cycler
  | joiner
  | namespace
deriving DecidableEq, Repr, Inhabited

/-- The three views of a mapping. -/
inductive ViewKind where
  | keys
  | values
  | items
deriving DecidableEq, Repr, Inhabited

/-- An undefined value: strict or plain, with the message it fails with. -/
structure Undefined where
  strict : Bool
  message : String
deriving Inhabited, Repr

/-- A value. -/
inductive Datum where
  | none
  | bool (b : Bool)
  | int (i : Int)
  | float (x : Float)
  | str (s : String)
  /-- Text that is safe from escaping. -/
  | markup (s : String)
  | bytes (bs : List UInt8)
  | tuple (items : List Datum)
  /-- A group of `groupby`: a pair of the key and the list of its items, with the fields
  `grouper` and `list`. -/
  | group (key items : Datum)
  | range (start stop step : Int)
  | slice (start stop step : Datum)
  /-- A value in the heap. -/
  | obj (addr : Nat)
  /-- A view of the mapping at an address. -/
  | view (kind : ViewKind) (addr : Nat)
  | builtin (b : Builtin)
  /-- A method bound to its receiver. -/
  | method (recv : Datum) (name : String)
  | undefined (u : Undefined)
deriving Inhabited

/-- Where the items of a loop come from: a fixed sequence, a list read live by position,
a generator consumed as it goes, or the numbers of a range from the next one on. -/
inductive Stream where
  | items (xs : List Datum)
  | list (addr : Nat) (index : Nat)
  | generator (addr : Nat)
  | range (next stop step : Int)
deriving Inhabited

/-- What a recursive loop calls itself with: the loop statement, and the activation,
escaping and template of the place it stands in. -/
structure Recursion where
  stmt : Stmt
  activation : Nat
  escaping : Escaping
  template : String
deriving Inhabited

/-- The filter of a loop with an `if` part: the loop's target, the test, and the activation,
escaping and template the test runs with. Items the test rejects are skipped when the loop
reads ahead. -/
structure LoopFilter where
  target : Expr
  test : Expr
  activation : Nat
  escaping : Escaping
  template : String
deriving Inhabited

/-- The state of a loop: the iterable (when its length can be asked), its remaining items
and the position reached, the item looked at ahead (if any), the previous and current
items, the last value given to `changed`, the recursion it belongs to, and its filter. -/
structure LoopState where
  iterable : Option Datum
  source : Stream
  index0 : Int := -1
  length : Option Nat := none
  after : Option Datum := none
  current : Option Datum := none
  before : Option Datum := none
  lastChanged : Option (List Datum) := none
  recursion : Option Recursion := none
  depth0 : Nat := 0
  filter : Option LoopFilter := none
deriving Inhabited

/-- A callable the template defines (a macro or the body of a call block): its parameters
and defaults, body and scope, which special names it uses, how its output is escaped, and
the activation, context and template it was defined in. -/
structure MacroDef where
  name : Option String
  params : List String
  defaults : List Expr
  body : List Stmt
  entry : Entry
  usesCaller : Bool
  usesKwargs : Bool
  usesVarargs : Bool
  escaping : Escaping
  closure : Nat
  context : Nat
  template : String
deriving Inhabited

/-- The context of a rendered template: its own variables, the variables it was given,
the names it exports, its blocks by name (the overriding one first) and whether output is
escaped. -/
structure Context where
  name : String
  vars : List (String × Datum) := []
  parent : List (String × Datum) := []
  exported : List String := []
  blocks : List (String × List BlockDef) := []
  autoescape : Bool := false
deriving Inhabited

/-- An activation of a template function: the lowest scope level it holds, its variables
by level and name, the activation it is nested in, its context, and the template the
top level of a template has extended, once it has. -/
structure Activation where
  base : Nat
  vars : List ((Nat × String) × Datum) := []
  parent : Option Nat := none
  context : Nat
  extended : Option String := none
deriving Inhabited

/-- A value with state or identity, in the heap. -/
inductive Cell where
  | list (items : Array Datum)
  | dict (entries : Array (Datum × Datum))
  | namespace (entries : Array (Datum × Datum))
  | cycler (items : List Datum) (pos : Nat)
  | joiner (sep : Datum) (used : Bool)
  /-- A generator produced by a filter (or an iterator of a builtin type), with the items
  it has left and the failure it raises once they are used up, if producing them failed. -/
  | generator (fname : String) (items : List Datum) (failure : Option Failure)
  | loop (state : LoopState)
  | callable (m : MacroDef)
  | activation (a : Activation)
  | context (c : Context)
  /-- A rendered template module: its exported names and the chunks of its output. -/
  | module (name : String) (exports : List (String × Datum)) (body : List Datum)
  /-- A block of the inheritance chain, at a depth, rendered in a context. -/
  | blockRef (name : String) (context : Nat) (stack : List BlockDef) (depth : Nat)
  /-- The template itself, seen from a context. -/
  | templateRef (context : Nat)
deriving Inhabited

/-- The heap of cells. -/
structure Heap where
  cells : Array Cell := #[]
deriving Inhabited

/-- Computations on the heap that may fail. -/
abbrev HeapM := ExceptT Failure (StateM Heap)

namespace Heap

/-- The cell at an address. -/
def get (addr : Nat) : HeapM Cell := do
  match (← getThe Heap).cells[addr]? with
  | some c => return c
  | none => throw (.host "RuntimeError" "dangling reference")

/-- Replaces the cell at an address. -/
def set (addr : Nat) (c : Cell) : HeapM Unit :=
  modifyThe Heap fun h => { h with cells := h.cells.set! addr c }

/-- Puts a cell into the heap, at a fresh address. -/
def alloc (c : Cell) : HeapM Nat := do
  let h ← getThe Heap
  modifyThe Heap fun h => { h with cells := h.cells.push c }
  return h.cells.size

end Heap

namespace Datum

/-- A new list. -/
def newList (items : Array Datum) : HeapM Datum := return .obj (← Heap.alloc (.list items))

/-- A new mapping. -/
def newDict (entries : Array (Datum × Datum)) : HeapM Datum :=
  return .obj (← Heap.alloc (.dict entries))

/-- A value with a group seen as the plain pair it is. -/
def plain : Datum → Datum
  | group k v => tuple [k, v]
  | d => d

/-- A strict undefined value with its message. -/
def strictUndefined (message : String) : Datum := .undefined ⟨true, message⟩

/-- The undefined value of a name nothing defines. -/
def undefinedName (name : String) : Datum :=
  strictUndefined (quoteText name ++ " is undefined")

/-- The failure of using an undefined value. -/
def undefinedFailure (u : Undefined) : Failure := .undefined u.message

/-- The name of a builtin's type, and of the builtin in printed form. -/
def Builtin.className : Builtin → String
  | .range => "range"
  | .dict => "dict"
  | .lipsum => "generate_lorem_ipsum"
  | .cycler => "Cycler"
  | .joiner => "Joiner"
  | .namespace => "Namespace"

/-- The name of a cell's type. -/
def cellTypeName : Cell → String
  | .list _ => "list"
  | .dict _ => "dict"
  | .namespace _ => "Namespace"
  | .cycler _ _ => "Cycler"
  | .joiner _ _ => "Joiner"
  | .generator _ _ _ => "generator"
  | .loop _ => "LoopContext"
  | .callable _ => "Macro"
  | .activation _ => "frame"
  | .context _ => "Context"
  | .module _ _ _ => "TemplateModule"
  | .blockRef _ _ _ _ => "BlockReference"
  | .templateRef _ => "TemplateReference"

/-- The module that defines a cell's type, when it is not a builtin one. -/
def cellTypeModule : Cell → Option String
  | .namespace _ | .cycler _ _ | .joiner _ _ => some "jinja2.utils"
  | .loop _ | .callable _ | .context _ | .blockRef _ _ _ _ | .templateRef _ => some "jinja2.runtime"
  | .module _ _ _ => some "jinja2.environment"
  | _ => Option.none

/-- The name of the type of a value. -/
def typeName : Datum → HeapM String
  | none => return "NoneType"
  | bool _ => return "bool"
  | int _ => return "int"
  | float _ => return "float"
  | str _ => return "str"
  | markup _ => return "Markup"
  | bytes _ => return "bytes"
  | tuple _ => return "tuple"
  | group _ _ => return "_GroupTuple"
  | range _ _ _ => return "range"
  | slice _ _ _ => return "slice"
  | obj a => return cellTypeName (← Heap.get a)
  | view k _ => return match k with
    | .keys => "dict_keys"
    | .values => "dict_values"
    | .items => "dict_items"
  | builtin b => return match b with
    | .lipsum => "function"
    | _ => "type"
  | method _ _ => return "builtin_function_or_method"
  | undefined u => return if u.strict then "StrictUndefined" else "Undefined"

/-- How an undefined value's message names the object it was looked up on: `None`, the
type's name with `object`, qualified by its module when that is not the builtins. -/
def objectTypeRepr (d : Datum) : HeapM String := do
  match d with
  | none => return "None"
  | markup _ => return "markupsafe.Markup object"
  | group _ _ => return "jinja2.filters._GroupTuple object"
  | undefined u => return "jinja2.runtime." ++ (if u.strict then "StrictUndefined" else "Undefined") ++ " object"
  | obj a =>
    let c ← Heap.get a
    match cellTypeModule c with
    | some m => return m ++ "." ++ cellTypeName c ++ " object"
    | Option.none => return cellTypeName c ++ " object"
  | builtin b => return match b with
    | .lipsum => "function object"
    | _ => "type object"
  | d => return (← d.typeName) ++ " object"

/-- The text of output chunks joined: every chunk must be text. -/
def joinChunks (chunks : List Datum) : HeapM String := do
  let mut out := ""
  let mut i := 0
  for c in chunks do
    match c with
    | .str s | .markup s => out := out ++ s
    | _ => throw (.typeError ("sequence item " ++ toString i ++ ": expected str instance, " ++
        (← c.typeName) ++ " found"))
    i := i + 1
  return out

end Datum

end NodeImage.Template
