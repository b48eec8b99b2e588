import NodeImage.Template.Value
import NodeImage.Text.FloatText

/-!
# Printed forms of values

Every value has a printed form (`repr`), the one it shows inside a printed collection, and
a text form (`str`), the one output uses. The two differ for texts, which print quoted;
for safe text; for template modules, whose text is their output; and for undefined values:
a strict one cannot be turned into text, a plain one is the empty text, and both print as
`Undefined`.

Integers print in decimal up to 4300 digits and are refused beyond. Floats print in their
shortest form that reads back. A collection that holds itself prints the inner occurrence
as `[...]` or `{...}`; the addresses of the heap stand for the identity of the objects.
Values whose printed form would show a memory address show a fixed one.
-/

namespace NodeImage.Template

/-- How deep printing and comparing descend into nested values. -/
def nestingLimit : Nat := 1000

/-- The failure of nesting too deep. -/
def recursionFailure (what : String) : Failure :=
  .host "RecursionError" ("maximum recursion depth exceeded" ++ what)

/-- The decimal text of an integer, refused beyond 4300 digits. -/
def intText (i : Int) : Except Failure String :=
  let s := toString i.natAbs
  if s.length > 4300 then
    .error (.valueError ("Exceeds the limit (4300 digits) for integer string conversion; " ++
      "use sys.set_int_max_str_digits() to increase the limit"))
  else .ok (if i < 0 then "-" ++ s else s)

/-- The text a memory address is shown as. -/
def addressText (addr : Nat) : String := "0x7f" ++ hexPadded 10 (0x1000 + 16 * addr)

/-- Joins texts with a separator. -/
def joinWith (sep : String) (parts : List String) : String := sep.intercalate parts

namespace Datum

/-- The printed form of a builtin. -/
def Builtin.repr : Builtin → String
  | .range => "<class 'range'>"
  | .dict => "<class 'dict'>"
  | .lipsum => "<function generate_lorem_ipsum at " ++ addressText 0 ++ ">"
  | .cycler => "<class 'jinja2.utils.Cycler'>"
  | .joiner => "<class 'jinja2.utils.Joiner'>"
  | .namespace => "<class 'jinja2.utils.Namespace'>"

/-- Lifts a failing computation into heap computations. -/
def liftExcept {α : Type} : Except Failure α → HeapM α
  | .ok a => pure a
  | .error f => throw f

/-- The printed form of a range. -/
def rangeRepr (a b s : Int) : String :=
  if s == 1 then "range(" ++ toString a ++ ", " ++ toString b ++ ")"
  else "range(" ++ toString a ++ ", " ++ toString b ++ ", " ++ toString s ++ ")"

mutual

/-- The printed form of a value; `seen` are the collections being printed around it. -/
def reprIn : Nat → List Nat → Datum → HeapM String
  | 0, _, _ => throw (recursionFailure " while getting the repr of an object")
  | fuel + 1, seen, d =>
    match d with
    | .none => return "None"
    | .bool b => return if b then "True" else "False"
    | .int i => liftExcept (intText i)
    | .float x => return Text.floatText x
    | .str s => return quoteText s
    | .markup s => return "Markup(" ++ quoteText s ++ ")"
    | .bytes bs => return quoteBytes bs
    | .tuple [x] => return "(" ++ (← reprIn fuel seen x) ++ ",)"
    | .tuple xs => return "(" ++ joinWith ", " (← reprAll fuel seen xs) ++ ")"
    | .group k v => return "(" ++ joinWith ", " (← reprAll fuel seen [k, v]) ++ ")"
    | .range a b s => return rangeRepr a b s
    | .slice a b c =>
      return "slice(" ++ (← reprIn fuel seen a) ++ ", " ++ (← reprIn fuel seen b) ++ ", " ++
        (← reprIn fuel seen c) ++ ")"
    | .obj addr => reprCell fuel seen addr
    | .view k addr => do
      let entries ← match ← Heap.get addr with
        | .dict es => pure es.toList
        | _ => pure []
      match k with
      | .keys => return "dict_keys([" ++ joinWith ", " (← reprAll fuel seen (entries.map (·.1))) ++ "])"
      | .values => return "dict_values([" ++ joinWith ", " (← reprAll fuel seen (entries.map (·.2))) ++ "])"
      | .items =>
        return "dict_items([" ++
          joinWith ", " (← reprAll fuel seen (entries.map fun (k, v) => .tuple [k, v])) ++ "])"
    | .builtin b => return Builtin.repr b
    | .method recv name =>
      return "<built-in method " ++ name ++ " of " ++ (← recv.typeName) ++ " object at " ++
        addressText 1 ++ ">"
    | .undefined _ => return "Undefined"

/-- The printed forms of several values. -/
def reprAll : Nat → List Nat → List Datum → HeapM (List String)
  | 0, _, _ => throw (recursionFailure " while getting the repr of an object")
  | _ + 1, _, [] => return []
  | fuel + 1, seen, x :: xs => return (← reprIn fuel seen x) :: (← reprAll fuel seen xs)

/-- The printed form of the entries of a mapping. -/
def reprEntries : Nat → List Nat → List (Datum × Datum) → HeapM (List String)
  | 0, _, _ => throw (recursionFailure " while getting the repr of an object")
  | _ + 1, _, [] => return []
  | fuel + 1, seen, (k, v) :: es =>
    return ((← reprIn fuel seen k) ++ ": " ++ (← reprIn fuel seen v)) :: (← reprEntries fuel seen es)

/-- The printed form of a value in the heap. -/
def reprCell : Nat → List Nat → Nat → HeapM String
  | 0, _, _ => throw (recursionFailure " while getting the repr of an object")
  | fuel + 1, seen, addr => do
    let inner := addr :: seen
    match ← Heap.get addr with
    | .list items =>
      if seen.contains addr then return "[...]"
      return "[" ++ joinWith ", " (← reprAll fuel inner items.toList) ++ "]"
    | .dict entries =>
      if seen.contains addr then return "\x7b...\x7d"
      return "\x7b" ++ joinWith ", " (← reprEntries fuel inner entries.toList) ++ "\x7d"
    | .namespace entries =>
      if seen.contains addr then return "<Namespace \x7b...\x7d>"
      return "<Namespace \x7b" ++ joinWith ", " (← reprEntries fuel inner entries.toList) ++ "\x7d>"
    | .cycler _ _ => return "<jinja2.utils.Cycler object at " ++ addressText addr ++ ">"
    | .joiner _ _ => return "<jinja2.utils.Joiner object at " ++ addressText addr ++ ">"
    | .generator fname _ _ =>
      if fname.startsWith "sync_do_" || fname.startsWith "do_" then
        return "<generator object " ++ fname ++ " at " ++ addressText addr ++ ">"
      return "<" ++ fname ++ " object at " ++ addressText addr ++ ">"
    | .loop st =>
      let length := st.length.getD 0
      return "<LoopContext " ++ toString (st.index0 + 1) ++ "/" ++ toString length ++ ">"
    | .callable m => return "<Macro " ++ (m.name.map quoteText).getD "anonymous" ++ ">"
    | .module name _ _ => return "<TemplateModule " ++ quoteText name ++ ">"
    | .templateRef c =>
      match ← Heap.get c with
      | .context ctx => return "<TemplateReference " ++ quoteText ctx.name ++ ">"
      | _ => return "<TemplateReference>"
    | c => return "<" ++ (match cellTypeModule c with
        | some m => m ++ "."
        | Option.none => "") ++ cellTypeName c ++ " object at " ++ addressText addr ++ ">"

end

/-- The printed form of a value. -/
def repr (d : Datum) : HeapM String := reprIn nestingLimit [] d

/-- The text of a value, as output shows it. -/
def toText (d : Datum) : HeapM String := do
  match d with
  | .str s | .markup s => return s
  | .undefined u => if u.strict then throw (undefinedFailure u) else return ""
  | .obj addr =>
    match ← Heap.get addr with
    | .module _ _ body => joinChunks body
    | _ => repr d
  | _ => repr d

/-- Whether a value is safe text: marked safe, or a module, whose text is its output. -/
def isSafe : Datum → Bool
  | .markup _ => true
  | _ => false

end Datum

end NodeImage.Template
