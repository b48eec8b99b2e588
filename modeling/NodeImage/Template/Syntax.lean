/-!
# The syntax of templates

A template is a list of statements (`Stmt`): output of text and expressions, loops,
conditionals, assignments, blocks, inheritance, inclusion and import of other templates,
callable definitions and calls with a body, filter sections, scoped sections and
sections that change escaping.

Expressions (`Expr`) are those of the template language: constants, names, tuples, lists
and mappings, member and item access with slices, calls with positional, keyword, `*` and
`**` arguments, filters (`x | f(…)`) and tests (`x is t(…)`), the boolean, comparison and
arithmetic operators, `~` for joining texts, and the inline `a if b else c`.

A constant (`Lit`) is a value that needs nothing from the template's context: a literal of
the source, or the value an expression with constant operands folds to before rendering.

Names carry the scope level they resolve to, and statements that open a scope carry the
bindings made on entering it. The parser leaves both empty; the compiler fills them in.
-/

namespace NodeImage.Template

/-- A constant value. -/
inductive Lit where
  | none
  | bool (b : Bool)
  | int (i : Int)
  | float (x : Float)
  | str (s : String)
  /-- Text that is safe from escaping. -/
  | markup (s : String)
  | tuple (items : List Lit)
  | list (items : List Lit)
  | dict (entries : List (Lit × Lit))
  | range (start stop step : Int)
deriving Inhabited

/-- What the compiler knows of escaping where a statement stands: whether output is
escaped, and whether that is known only when the template runs (`volatile`, after an
escaping switch whose value is not constant), in which case printed expressions are
escaped as the template's setting says then. -/
structure Escaping where
  autoescape : Bool := false
  volatile : Bool := false
deriving DecidableEq, Repr, Inhabited

/-- The arithmetic operators. -/
inductive BinOp where
  | add
  | sub
  | mul
  | div
  | floorDiv
  | mod
  | pow
deriving DecidableEq, Repr, Inhabited

/-- The unary operators. -/
inductive UnOp where
  | neg
  | pos
  | not
deriving DecidableEq, Repr, Inhabited

/-- The comparison operators. -/
inductive CmpOp where
  | eq
  | ne
  | lt
  | lteq
  | gt
  | gteq
  | isIn
  | notIn
deriving DecidableEq, Repr, Inhabited

/-- An expression. A name carries the level of the scope that holds it. -/
inductive Expr where
  | lit (v : Lit)
  | name (n : String) (level : Nat)
  | tuple (items : List Expr)
  | list (items : List Expr)
  | dict (pairs : List (Expr × Expr))
  | getAttr (obj : Expr) (attr : String)
  | getItem (obj : Expr) (key : Expr)
  | slice (start stop step : Option Expr)
  | call (callee : Expr) (args : List Expr) (kwargs : List (String × Expr))
      (star : Option Expr) (starStar : Option Expr)
  /-- A filter; the filtered value is missing in the filter of a section or assignment block. -/
  | filter (value : Option Expr) (fname : String) (args : List Expr)
      (kwargs : List (String × Expr)) (star : Option Expr) (starStar : Option Expr)
  | test (value : Expr) (tname : String) (args : List Expr) (kwargs : List (String × Expr))
      (star : Option Expr) (starStar : Option Expr)
  | binary (op : BinOp) (a b : Expr)
  | unary (op : UnOp) (e : Expr)
  | and (a b : Expr)
  | or (a b : Expr)
  | concat (parts : List Expr)
  | compare (first : Expr) (rest : List (CmpOp × Expr))
  /-- `yes if test else no`, with the line it starts on. -/
  | cond (test yes : Expr) (no : Option Expr) (line : Nat)
  /-- A namespace member as an assignment target, `ns.attr`. -/
  | nsRef (ns attr : String) (level : Nat)
deriving Inhabited

/-- How a scope binds a name when it is entered. -/
inductive Load where
  /-- Looked up in the template's context. -/
  | resolve
  /-- Copied from the same name in the enclosing scope at a level. -/
  | copyOf (level : Nat)
  /-- A parameter, bound by the statement itself. -/
  | param
  /-- Unbound until assigned. -/
  | undefined
deriving DecidableEq, Repr, Inhabited

/-- The bindings a scope makes on entry, with its level. -/
structure Entry where
  level : Nat := 0
  loads : List (String × Load) := []
deriving Inhabited, Repr

/-- A piece of output: text of the template, or an expression to print. -/
inductive Piece where
  | text (s : String)
  | expr (e : Expr)
deriving Inhabited

/-- A statement. -/
inductive Stmt where
  /-- Output; `guarded` when it is skipped once the template has extended another. -/
  | output (pieces : List Piece) (guarded : Bool)
  /-- A loop with its target, iterable, body, `else` part, filter and whether it may
  recurse; the entries of its body, `else` and filter scopes, and whether the body sees
  the loop's state. -/
  | forLoop (target : Expr) (iter : Expr) (body : List Stmt) (orElse : List Stmt)
      (test : Option Expr) (recursive : Bool)
      (bodyEntry elseEntry testEntry : Entry) (withState : Bool)
  | ifThen (test : Expr) (body : List Stmt) (elifs : List (Expr × List Stmt))
      (orElse : List Stmt)
  /-- An assignment; `exported` when it is at the top of a template. -/
  | assign (target : Expr) (value : Expr) (exported : Bool)
  | assignBlock (target : Expr) (filter : Option Expr) (body : List Stmt) (exported : Bool)
      (entry : Entry)
  /-- A block where it is rendered; `guarded` when it is skipped once the template has
  extended another; `locals` are the names in scope, with their levels, that a scoped
  block sees. -/
  | block (bname : String) (isScoped required : Bool) (body : List Stmt) (guarded : Bool)
      (locals : List (String × Nat))
  /-- Extending a template; `checkTwice` when an earlier one may have run. -/
  | extend (template : Expr) (checkTwice : Bool)
  /-- A runtime error of the engine, with its message. -/
  | stop (message : String)
  | include (template : Expr) (ignoreMissing withContext : Bool) (locals : List (String × Nat))
  | importAs (template : Expr) (target : String) (withContext : Bool) (level : Nat)
      (exported : Bool) (locals : List (String × Nat))
  /-- An import of names, with the line it is on; each name is imported under an alias,
  bound at a level. -/
  | fromImport (template : Expr) (names : List (String × String)) (withContext : Bool)
      (line : Nat) (levels : List Nat) (exported : Bool) (locals : List (String × Nat))
  /-- A callable definition with its parameters and defaults; its scope's entry and which
  of `caller`, `kwargs` and `varargs` it uses. -/
  | define (cname : String) (params : List String) (defaults : List Expr) (body : List Stmt)
      (level : Nat) (exported : Bool) (entry : Entry) (usesCaller usesKwargs usesVarargs : Bool)
  /-- A call with a body passed as `caller`. -/
  | callBlock (params : List String) (defaults : List Expr) (call : Expr) (body : List Stmt)
      (entry : Entry) (usesCaller usesKwargs usesVarargs : Bool)
  | filterBlock (filter : Expr) (body : List Stmt) (entry : Entry)
  | withBlock (targets : List Expr) (values : List Expr) (body : List Stmt) (entry : Entry)
  | scope (body : List Stmt) (entry : Entry)
  /-- A section that switches escaping, with what the compiler knows of escaping in it. -/
  | autoescape (value : Expr) (body : List Stmt) (escaping : Escaping)
deriving Inhabited

/-- The type name of an expression, as the message about an impossible assignment gives it. -/
def Expr.kindName : Expr → String
  | .lit _ => "const"
  | .name _ _ => "name"
  | .tuple _ => "tuple"
  | .list _ => "list"
  | .dict _ => "dict"
  | .getAttr _ _ => "getattr"
  | .getItem _ _ => "getitem"
  | .slice _ _ _ => "slice"
  | .call _ _ _ _ _ => "call"
  | .filter _ _ _ _ _ _ => "filter"
  | .test _ _ _ _ _ _ => "test"
  | .binary op _ _ => match op with
    | .add => "add" | .sub => "sub" | .mul => "mul" | .div => "div"
    | .floorDiv => "floordiv" | .mod => "mod" | .pow => "pow"
  | .unary op _ => match op with
    | .neg => "neg" | .pos => "pos" | .not => "not"
  | .and _ _ => "and"
  | .or _ _ => "or"
  | .concat _ => "concat"
  | .compare _ _ => "compare"
  | .cond _ _ _ _ => "condexpr"
  | .nsRef _ _ _ => "nsref"

mutual

/-- Whether an expression can be assigned to: names other than the constant words,
namespace members, and tuples of such. -/
def Expr.canAssign : Expr → Bool
  | .name n _ => !(["true", "false", "none", "True", "False", "None"].contains n)
  | .nsRef _ _ _ => true
  | .tuple items => Expr.canAssignAll items
  | _ => false

/-- Whether every expression of a list can be assigned to. -/
def Expr.canAssignAll : List Expr → Bool
  | [] => true
  | e :: rest => e.canAssign && Expr.canAssignAll rest

end

/-- A template: its statements. -/
structure Source where
  body : List Stmt
deriving Inhabited

/-- A block of a template, as it is stacked for inheritance: its body and scope, and
whether it refers to `self` and `super`. -/
structure BlockDef where
  template : String
  name : String
  body : List Stmt
  entry : Entry
  usesSelf : Bool
  usesSuper : Bool
deriving Inhabited

/-- A compiled template: its statements and the scope they run in, its blocks, whether it
extends another and whether it refers to `self`. -/
structure Program where
  name : String
  body : List Stmt
  entry : Entry
  blocks : List BlockDef
  hasExtends : Bool
  usesSelf : Bool
deriving Inhabited

end NodeImage.Template
