import NodeImage.Template.Methods

/-!
# Binding arguments to parameters

The filters and tests are functions with named parameters, some with defaults; a call
binds its positional arguments first, then its keyword arguments by name. The failures
are those of a function call: a keyword naming no parameter, a parameter given twice, too
many positional arguments, required ones missing. Keywords are checked before the count
of positional arguments, so a call with both faults reports the keyword.

Some functions take their first parameters from the renderer (the environment or the
context): they count in the messages as any other parameter.

Functions of the runtime itself take exactly one argument and no keywords.
-/

namespace NodeImage.Template

/-- The parameters of a function: their names, how many have no default, how many may
only be passed by position, and whether extra positional or keyword arguments are
collected. -/
structure Signature where
  name : String
  params : List String
  required : Nat
  positionalOnly : Nat := 0
  varargs : Bool := false
  varkw : Bool := false

/-- The arguments bound to a function's parameters; the extra ones, when it collects them. -/
structure Bound where
  slots : Array (Option Datum)
  extra : List Datum := []
  extraKw : List (String × Datum) := []

/-- The argument bound to a parameter, if any. -/
def Bound.arg (b : Bound) (i : Nat) : Option Datum := (b.slots[i]?).getD Option.none

/-- The argument bound to a parameter, or its default. -/
def Bound.get (b : Bound) (i : Nat) (default : Datum) : Datum := (b.arg i).getD default

/-- Names listed as the messages list them: `'a'`, `'a' and 'b'`, `'a', 'b', and 'c'`. -/
def listNames (names : List String) : String :=
  match names.reverse with
  | [] => ""
  | [a] => a
  | [b, a] => a ++ " and " ++ b
  | last :: prev :: rest => ", ".intercalate (rest.reverse ++ [prev ++ ", and " ++ last])

/-- Binds a call's arguments to a function's parameters. -/
def Signature.bind (sig : Signature) (args : List Datum) (kwargs : List (String × Datum)) :
    HeapM Bound := do
  let n := sig.params.length
  let mut slots : Array (Option Datum) := Array.replicate n Option.none
  let mut i := 0
  for a in args do
    if i < n then slots := slots.set! i (some a)
    i := i + 1
  let mut extraKw : List (String × Datum) := []
  let named := sig.params.drop sig.positionalOnly
  for (k, v) in kwargs do
    match named.idxOf? k with
    | some j =>
      let p := j + sig.positionalOnly
      if (slots[p]?).getD Option.none |>.isSome then
        throw (.typeError (sig.name ++ "() got multiple values for argument " ++ quoteText k))
      slots := slots.set! p (some v)
    | Option.none =>
      if sig.varkw then extraKw := extraKw ++ [(k, v)]
      else
        let passed := (sig.params.take sig.positionalOnly).filter fun p => kwargs.any (·.1 == p)
        if !passed.isEmpty then
          throw (.typeError (sig.name ++ "() got some positional-only arguments passed as keyword arguments: '" ++
            ", ".intercalate passed ++ "'"))
        throw (.typeError (sig.name ++ "() got an unexpected keyword argument " ++ quoteText k))
  if args.length > n && !sig.varargs then
    let defaults := n - sig.required
    let counted := if defaults > 0 then "from " ++ toString sig.required ++ " to " ++ toString n
      else toString n
    let plural := defaults > 0 || n != 1
    throw (.typeError (sig.name ++ "() takes " ++ counted ++ " positional argument" ++
      (if plural then "s" else "") ++ " but " ++ toString args.length ++ " " ++
      (if args.length == 1 then "was" else "were") ++ " given"))
  let missing := (List.range sig.required).filter fun p => ((slots[p]?).getD Option.none).isNone
  if !missing.isEmpty then
    let names := missing.map fun p => quoteText (sig.params[p]?.getD "")
    throw (.typeError (sig.name ++ "() missing " ++ toString names.length ++
      " required positional argument" ++ (if names.length == 1 then "" else "s") ++ ": " ++
      listNames names))
  return { slots, extra := if sig.varargs then args.drop n else [], extraKw }

/-- Checks a call of a runtime function that takes exactly one argument. -/
def checkOneArgument (fname : String) (args : List Datum) (kwargs : List (String × Datum)) :
    HeapM Datum := do
  if !kwargs.isEmpty then throw (.typeError (fname ++ "() takes no keyword arguments"))
  match args with
  | [a] => return a
  | _ => throw (.typeError (fname ++ "() takes exactly one argument (" ++ toString args.length ++ " given)"))

/-- Checks a call of a comparison operator function, which takes exactly two arguments. -/
def checkTwoArguments (fname : String) (args : List Datum) (kwargs : List (String × Datum)) :
    HeapM (Datum × Datum) := do
  if !kwargs.isEmpty then throw (.typeError (fname ++ "() takes no keyword arguments"))
  match args with
  | [a, b] => return (a, b)
  | _ => throw (.typeError (fname ++ " expected 2 arguments, got " ++ toString args.length))

end NodeImage.Template
