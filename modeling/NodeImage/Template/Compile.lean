import NodeImage.Template.Filters
import NodeImage.Template.Parser

/-!
# Compiling templates

Before a template runs, its names are resolved to the scopes that hold them, constant
expressions are folded, and the checks of the compiler are made.

Every statement that opens a scope (a loop body, a callable, a section) gets a level one
deeper than the scope around it. A scope records the names it refers to (`refs`), how each
is bound on entering it (`loads`) and which it assigns (`stores`). A name a scope only reads
is looked up in the template's context, unless an enclosing scope already refers to it; a
name it assigns is unbound until assigned, or a copy of the enclosing scope's variable when
there is one. The branches of a conditional are analysed apart and merged: a name assigned in
some branch is then bound on entry, from the enclosing scope or as unbound, so that a branch
that does not assign it still sees a value.

An expression whose operands are constants is replaced by its value when that value prints
back as a literal. An operation that fails leaves the expression to rendering, except where
the template language evaluates without a guard (joining with `~`, the truth of the operands
of `and`, `or` and the inline `if`), where the failure is the compiler's. Printed constants
become text here, escaped when escaping is on.

The compiler refuses unknown filters and tests (except under a conditional, where they fail
only when run), an `extends` below the top of a template, two blocks of one name,
assignments to the loop variable, and a `caller` parameter without a default.
-/

namespace NodeImage.Template

/-! ## Constants -/

mutual
/-- The value of a constant; lists and mappings are made anew each time. -/
def Lit.toDatum : Lit → HeapM Datum
  | .none => return .none
  | .bool b => return .bool b
  | .int i => return .int i
  | .float x => return .float x
  | .str s => return .str s
  | .markup s => return .markup s
  | .tuple items => return .tuple (← Lit.toData items)
  | .list items => do Datum.newList (← Lit.toData items).toArray
  | .dict entries => do Datum.newDict (← Lit.toEntries entries).toArray
  | .range a b s => return .range a b s

/-- The values of constants. -/
def Lit.toData : List Lit → HeapM (List Datum)
  | [] => return []
  | x :: xs => return (← x.toDatum) :: (← Lit.toData xs)

/-- The entries of a constant mapping. -/
def Lit.toEntries : List (Lit × Lit) → HeapM (List (Datum × Datum))
  | [] => return []
  | p :: rest => return (← p.1.toDatum, ← p.2.toDatum) :: (← Lit.toEntries rest)
end

mutual
/-- The name a constant's printed form uses for a float that is not finite, if it holds
one: such a constant does not read back, and evaluating it fails on that name. -/
def Lit.nonFinite? : Lit → Option String
  | .float x => if x.isNaN then some "nan" else if x.isInf then some "inf" else Option.none
  | .tuple items => Lit.nonFiniteIn? items
  | .list items => Lit.nonFiniteIn? items
  | .dict entries => Lit.nonFiniteEntries? entries
  | _ => Option.none

/-- The first name of a non-finite float among constants. -/
def Lit.nonFiniteIn? : List Lit → Option String
  | [] => Option.none
  | x :: xs => x.nonFinite? <|> Lit.nonFiniteIn? xs

/-- The first name of a non-finite float among the entries of a constant mapping. -/
def Lit.nonFiniteEntries? : List (Lit × Lit) → Option String
  | [] => Option.none
  | p :: rest => p.1.nonFinite? <|> p.2.nonFinite? <|> Lit.nonFiniteEntries? rest
end

/-- How deep a value may nest to be turned into a constant. -/
def litDepth : Nat := 200

/-- The constant of a value whose printed form reads back as the same value: none, numbers,
texts, ranges, and tuples, lists and mappings of such. -/
def Datum.toLit? : Nat → Datum → HeapM (Option Lit)
  | 0, _ => return Option.none
  | fuel + 1, d => do
    match d with
    | .none => return some .none
    | .bool b => return some (.bool b)
    | .int i => return some (.int i)
    | .float x => return some (.float x)
    | .str s => return some (.str s)
    | .markup s => return some (.markup s)
    | .range a b s => return some (.range a b s)
    | .tuple items => return ((← items.mapM (Datum.toLit? fuel)).mapM id).map .tuple
    | .obj a =>
      match ← Heap.get a with
      | .list xs => return ((← xs.toList.mapM (Datum.toLit? fuel)).mapM id).map .list
      | .dict es =>
        let pairs ← es.toList.mapM fun (k, v) => do
          match ← Datum.toLit? fuel k, ← Datum.toLit? fuel v with
          | some k, some v => pure (some (k, v))
          | _, _ => pure Option.none
        return (pairs.mapM id).map .dict
      | _ => return Option.none
    | _ => return Option.none

/-- Whether a comparison holds between two values. -/
def Datum.compareWith (op : CmpOp) (a b : Datum) : HeapM Bool := do
  match op with
  | .eq => equal a b
  | .ne => return !(← equal a b)
  | .isIn => contains b a
  | .notIn => return !(← contains b a)
  | _ => order op a b

/-! ## Scopes -/

/-- What the compiler knows of one scope: its level, the names it refers to, how each is
bound on entry, and the names it assigns. -/
structure SymFrame where
  level : Nat
  refs : List String := []
  loads : List (String × Load) := []
  stores : List String := []
deriving Inhabited

/-- Sets how a name is bound on entry, keeping the order names were first seen in. -/
def setLoad (loads : List (String × Load)) (n : String) (l : Load) : List (String × Load) :=
  if loads.any (·.1 == n) then loads.map fun (k, v) => if k == n then (k, l) else (k, v)
  else loads ++ [(n, l)]

/-- Makes a scope refer to a name, bound on entry as given. -/
def SymFrame.define (f : SymFrame) (n : String) (l : Load) : SymFrame :=
  { f with
    refs := if f.refs.contains n then f.refs else f.refs ++ [n]
    loads := setLoad f.loads n l }

/-- Records that a scope assigns a name. -/
def SymFrame.addStore (f : SymFrame) (n : String) : SymFrame :=
  if f.stores.contains n then f else { f with stores := f.stores ++ [n] }

/-- The scopes around a point, innermost first. -/
abbrev Symbols := List SymFrame

namespace Symbols

/-- The level of the innermost scope. -/
def level : Symbols → Nat
  | [] => 0
  | f :: _ => f.level

/-- A scope one level deeper. -/
def inner (s : Symbols) : Symbols := { level := s.level + 1 } :: s

/-- The level of the nearest scope that refers to a name. -/
def findRef : Symbols → String → Option Nat
  | [], _ => none
  | f :: rest, n => if f.refs.contains n then some f.level else findRef rest n

/-- An assignment to a name in the innermost scope. -/
def store : Symbols → String → Symbols
  | [], _ => []
  | f :: rest, n =>
    let f := f.addStore n
    if f.refs.contains n then f :: rest
    else match findRef rest n with
      | some l => f.define n (.copyOf l) :: rest
      | none => f.define n .undefined :: rest

/-- A parameter of the innermost scope. -/
def declareParam : Symbols → String → Symbols
  | [], _ => []
  | f :: rest, n => (f.addStore n).define n .param :: rest

/-- A read of a name in the innermost scope. -/
def load (s : Symbols) (n : String) : Symbols :=
  match s with
  | [] => []
  | f :: rest => if (findRef s n).isSome then s else f.define n .resolve :: rest

/-- Merges the innermost scopes of the branches of a conditional into the scope they were
analysed from. -/
def branchUpdate : Symbols → List SymFrame → Symbols
  | [], _ => []
  | f :: rest, branches =>
    let stores := (branches.flatMap (·.stores)).eraseDups.filter fun n => !f.stores.contains n
    let f := branches.foldl (fun f b =>
      { f with
        refs := f.refs ++ b.refs.filter (fun n => !f.refs.contains n)
        loads := b.loads.foldl (fun ls (k, v) => setLoad ls k v) f.loads
        stores := f.stores ++ b.stores.filter (fun n => !f.stores.contains n) }) f
    let f := stores.foldl (fun f n =>
      match findRef rest n with
      | some l => { f with loads := setLoad f.loads n (.copyOf l) }
      | none => { f with loads := setLoad f.loads n .undefined }) f
    f :: rest

/-- The names assigned in the scopes around a point, each with the level that holds it, as
a template included or a scoped block sees them. -/
def dumpStores (s : Symbols) : List (String × Nat) :=
  s.foldl (fun acc f =>
    (f.stores.toArray.qsort (· < ·)).toList.foldl (fun acc n =>
      if acc.any (·.1 == n) then acc
      else match findRef s n with
        | some l => acc ++ [(n, l)]
        | none => acc) acc) []

/-- The entry of the innermost scope. -/
def entry (s : Symbols) : Entry :=
  match s with
  | [] => {}
  | f :: _ => ⟨f.level, f.loads⟩

end Symbols

/-! ## Analysing a scope -/

/-- Bounds the nesting of statements and expressions the compiler walks. -/
def nestingFuel : Nat := 100000

/-- Records the names an expression reads. -/
def symExpr : Nat → Expr → StateM Symbols Unit
  | 0, _ => pure ()
  | fuel + 1, e => do
    let opt := fun (x : Option Expr) => match x with
      | some x => symExpr fuel x
      | none => pure ()
    match e with
    | .lit _ => pure ()
    | .name n _ => modify (·.load n)
    | .tuple items | .list items | .concat items => items.forM (symExpr fuel)
    | .dict pairs => pairs.forM fun (k, v) => do symExpr fuel k; symExpr fuel v
    | .getAttr o _ => symExpr fuel o
    | .getItem o k => do symExpr fuel o; symExpr fuel k
    | .slice a b c => do opt a; opt b; opt c
    | .call f args kwargs star starStar =>
      symExpr fuel f; args.forM (symExpr fuel); kwargs.forM (symExpr fuel ·.2); opt star; opt starStar
    | .filter v _ args kwargs star starStar =>
      opt v; args.forM (symExpr fuel); kwargs.forM (symExpr fuel ·.2); opt star; opt starStar
    | .test v _ args kwargs star starStar =>
      symExpr fuel v; args.forM (symExpr fuel); kwargs.forM (symExpr fuel ·.2); opt star; opt starStar
    | .binary _ a b | .and a b | .or a b => do symExpr fuel a; symExpr fuel b
    | .unary _ a => symExpr fuel a
    | .compare first rest => do symExpr fuel first; rest.forM (symExpr fuel ·.2)
    | .cond t y n _ => do symExpr fuel t; symExpr fuel y; opt n
    | .nsRef ns _ _ => modify (·.load ns)

/-- Records the names an assignment target binds: as assignments, or as parameters. -/
def symTarget (param : Bool) : Nat → Expr → StateM Symbols Unit
  | 0, _ => pure ()
  | fuel + 1, e =>
    match e with
    | .name n _ => modify fun s => if param then s.declareParam n else s.store n
    | .tuple items => items.forM (symTarget param fuel)
    | .nsRef ns _ _ => modify (·.load ns)
    | e => symExpr fuel e

mutual
/-- Records what a statement reads and assigns in the scope it stands in; the statements of
a scope it opens are analysed with that scope. -/
def symStmt : Nat → Stmt → StateM Symbols Unit
  | 0, _ => pure ()
  | fuel + 1, st =>
    match st with
    | .output pieces _ => pieces.forM fun p => match p with
      | .text _ => pure ()
      | .expr e => symExpr fuel e
    | .forLoop _ iter .. => symExpr fuel iter
    | .ifThen test body elifs orElse => symIf fuel test body elifs orElse
    | .assign target value _ => do symExpr fuel value; symTarget false fuel target
    | .assignBlock target .. => symTarget false fuel target
    | .block .. | .stop _ | .scope .. => pure ()
    | .extend t _ => symExpr fuel t
    | .include t .. => symExpr fuel t
    | .importAs t target .. => do symExpr fuel t; modify (·.store target)
    | .fromImport t names .. => do
      symExpr fuel t
      names.forM fun (_, asName) => modify (·.store asName)
    | .define cname .. => modify (·.store cname)
    | .callBlock _ _ call .. => symExpr fuel call
    | .filterBlock filter .. => symExpr fuel filter
    | .withBlock _ values .. => values.forM (symExpr fuel)
    | .autoescape value body _ => do symExpr fuel value; symStmts fuel body

/-- Records what statements read and assign. -/
def symStmts : Nat → List Stmt → StateM Symbols Unit
  | 0, _ => pure ()
  | fuel + 1, stmts => stmts.forM (symStmt fuel)

/-- Records a conditional: its test, then each branch apart, merged. -/
def symIf : Nat → Expr → List Stmt → List (Expr × List Stmt) → List Stmt → StateM Symbols Unit
  | 0, _, _, _, _ => pure ()
  | fuel + 1, test, body, elifs, orElse => do
    symExpr fuel test
    let orig ← get
    let branch := fun (act : StateM Symbols Unit) => ((act.run orig).2.head?).getD { level := 0 }
    let bodyS := branch (symStmts fuel body)
    let elifS := branch (symElifs fuel elifs)
    let elseS := branch (symStmts fuel orElse)
    set (orig.branchUpdate [bodyS, elifS, elseS])

/-- Records the `elif` parts of a conditional, each a conditional of its own. -/
def symElifs : Nat → List (Expr × List Stmt) → StateM Symbols Unit
  | 0, _ => pure ()
  | fuel + 1, elifs => elifs.forM fun (t, b) => symIf fuel t b [] []
end

/-- The scope a template, block or section body opens. -/
def analyzeBody (s : Symbols) (body : List Stmt) : Symbols :=
  ((symStmts nestingFuel body).run s).2

/-! ## Names a body uses before assigning -/

/-- Names watched for a read before any assignment, and those found so. -/
structure Watch where
  names : List String
  found : List String := []

/-- Sees a name: read, or bound. -/
def Watch.see (w : Watch) (n : String) (isLoad : Bool) : Watch :=
  if isLoad && w.names.contains n then
    if w.found.contains n then w else { w with found := w.found ++ [n] }
  else { w with names := w.names.erase n }

/-- Sees the names of an expression. -/
def watchExpr : Nat → Expr → StateM Watch Unit
  | 0, _ => pure ()
  | fuel + 1, e => do
    let opt := fun (x : Option Expr) => match x with
      | some x => watchExpr fuel x
      | none => pure ()
    match e with
    | .lit _ | .nsRef .. => pure ()
    | .name n _ => modify (·.see n true)
    | .tuple items | .list items | .concat items => items.forM (watchExpr fuel)
    | .dict pairs => pairs.forM fun (k, v) => do watchExpr fuel k; watchExpr fuel v
    | .getAttr o _ => watchExpr fuel o
    | .getItem o k => do watchExpr fuel o; watchExpr fuel k
    | .slice a b c => do opt a; opt b; opt c
    | .call f args kwargs star starStar =>
      watchExpr fuel f; args.forM (watchExpr fuel); kwargs.forM (watchExpr fuel ·.2)
      opt star; opt starStar
    | .filter v _ args kwargs star starStar =>
      opt v; args.forM (watchExpr fuel); kwargs.forM (watchExpr fuel ·.2); opt star; opt starStar
    | .test v _ args kwargs star starStar =>
      watchExpr fuel v; args.forM (watchExpr fuel); kwargs.forM (watchExpr fuel ·.2)
      opt star; opt starStar
    | .binary _ a b | .and a b | .or a b => do watchExpr fuel a; watchExpr fuel b
    | .unary _ a => watchExpr fuel a
    | .compare first rest => do watchExpr fuel first; rest.forM (watchExpr fuel ·.2)
    | .cond t y n _ => do watchExpr fuel t; watchExpr fuel y; opt n

/-- Sees the names an assignment target binds. -/
def watchTarget : Nat → Expr → StateM Watch Unit
  | 0, _ => pure ()
  | fuel + 1, e =>
    match e with
    | .name n _ => modify (·.see n false)
    | .tuple items => items.forM (watchTarget fuel)
    | .nsRef .. => pure ()
    | e => watchExpr fuel e

mutual
/-- Sees the names of a statement, in the order its parts are written; a block is not
entered. -/
def watchStmt : Nat → Stmt → StateM Watch Unit
  | 0, _ => pure ()
  | fuel + 1, st =>
    match st with
    | .output pieces _ => pieces.forM fun p => match p with
      | .text _ => pure ()
      | .expr e => watchExpr fuel e
    | .forLoop target iter body orElse test .. => do
      watchTarget fuel target; watchExpr fuel iter; watchStmts fuel body; watchStmts fuel orElse
      match test with
      | some t => watchExpr fuel t
      | none => pure ()
    | .ifThen test body elifs orElse => do
      watchExpr fuel test; watchStmts fuel body
      watchElifs fuel elifs
      watchStmts fuel orElse
    | .assign target value _ => do watchTarget fuel target; watchExpr fuel value
    | .assignBlock target filter body .. => do
      watchTarget fuel target
      match filter with
      | some f => watchExpr fuel f
      | none => pure ()
      watchStmts fuel body
    | .block .. | .stop _ => pure ()
    | .extend t _ | .include t .. | .importAs t .. | .fromImport t .. => watchExpr fuel t
    | .define _ params defaults body .. => do
      params.forM fun p => modify (·.see p false)
      defaults.forM (watchExpr fuel); watchStmts fuel body
    | .callBlock params defaults call body .. => do
      watchExpr fuel call
      params.forM fun p => modify (·.see p false)
      defaults.forM (watchExpr fuel); watchStmts fuel body
    | .filterBlock filter body _ => do watchStmts fuel body; watchExpr fuel filter
    | .withBlock targets values body _ => do
      targets.forM (watchTarget fuel); values.forM (watchExpr fuel); watchStmts fuel body
    | .scope body _ => watchStmts fuel body
    | .autoescape value body _ => do watchExpr fuel value; watchStmts fuel body

/-- Sees the names of statements. -/
def watchStmts : Nat → List Stmt → StateM Watch Unit
  | 0, _ => pure ()
  | fuel + 1, stmts => stmts.forM (watchStmt fuel)

/-- Sees the names of the `elif` parts of a conditional. -/
def watchElifs : Nat → List (Expr × List Stmt) → StateM Watch Unit
  | 0, _ => pure ()
  | fuel + 1, elifs => elifs.forM fun (t, b) => do watchExpr fuel t; watchStmts fuel b
end

/-- Which of some names statements read before assigning them. -/
def findUndeclared (body : List Stmt) (names : List String) : List String :=
  (((watchStmts nestingFuel body).run { names }).2).found

/-! ## Blocks and loops in a body -/

mutual
/-- The blocks among statements, each before the blocks inside it. -/
def stmtBlocks : Nat → Stmt → List (String × Bool × List Stmt)
  | 0, _ => []
  | fuel + 1, st =>
    match st with
    | .block name isScoped _ body .. => (name, isScoped, body) :: bodyBlocks fuel body
    | .forLoop _ _ body orElse .. => bodyBlocks fuel body ++ bodyBlocks fuel orElse
    | .ifThen _ body elifs orElse =>
      bodyBlocks fuel body ++ elifBlocks fuel elifs ++ bodyBlocks fuel orElse
    | .assignBlock _ _ body .. | .define _ _ _ body .. | .callBlock _ _ _ body ..
    | .filterBlock _ body _ | .withBlock _ _ body _ | .scope body _ | .autoescape _ body _ =>
      bodyBlocks fuel body
    | _ => []

/-- The blocks among statements. -/
def bodyBlocks : Nat → List Stmt → List (String × Bool × List Stmt)
  | 0, _ => []
  | fuel + 1, stmts => stmts.flatMap (stmtBlocks fuel)

/-- The blocks in the `elif` parts of a conditional. -/
def elifBlocks : Nat → List (Expr × List Stmt) → List (String × Bool × List Stmt)
  | 0, _ => []
  | fuel + 1, elifs => elifs.flatMap fun (_, b) => bodyBlocks fuel b
end

/-- Whether an assignment target binds a name. -/
def targetBinds (n : String) : Nat → Expr → Bool
  | 0, _ => false
  | fuel + 1, e =>
    match e with
    | .name m _ => m == n
    | .tuple items => items.any (targetBinds n fuel)
    | _ => false

mutual
/-- Whether a statement, or one inside it, assigns a name. -/
def stmtAssigns (n : String) : Nat → Stmt → Bool
  | 0, _ => false
  | fuel + 1, st =>
    match st with
    | .forLoop target _ body orElse .. =>
      targetBinds n fuel target || bodyAssigns n fuel body || bodyAssigns n fuel orElse
    | .assign target _ _ => targetBinds n fuel target
    | .assignBlock target _ body .. => targetBinds n fuel target || bodyAssigns n fuel body
    | .ifThen _ body elifs orElse =>
      bodyAssigns n fuel body || elifAssigns n fuel elifs || bodyAssigns n fuel orElse
    | .block _ _ _ body .. | .define _ _ _ body .. | .callBlock _ _ _ body ..
    | .filterBlock _ body _ | .withBlock _ _ body _ | .scope body _ | .autoescape _ body _ =>
      bodyAssigns n fuel body
    | _ => false

/-- Whether statements assign a name. -/
def bodyAssigns (n : String) : Nat → List Stmt → Bool
  | 0, _ => false
  | fuel + 1, stmts => stmts.any (stmtAssigns n fuel)

/-- Whether the `elif` parts of a conditional assign a name. -/
def elifAssigns (n : String) : Nat → List (Expr × List Stmt) → Bool
  | 0, _ => false
  | fuel + 1, elifs => elifs.any fun (_, b) => bodyAssigns n fuel b
end

mutual
/-- Whether a statement is or holds an `extends`. -/
def stmtExtends : Nat → Stmt → Bool
  | 0, _ => false
  | fuel + 1, st =>
    match st with
    | .extend .. => true
    | .forLoop _ _ body orElse .. => bodyExtends fuel body || bodyExtends fuel orElse
    | .ifThen _ body elifs orElse =>
      bodyExtends fuel body || elifExtends fuel elifs || bodyExtends fuel orElse
    | .block _ _ _ body .. | .assignBlock _ _ body .. | .define _ _ _ body ..
    | .callBlock _ _ _ body .. | .filterBlock _ body _ | .withBlock _ _ body _ | .scope body _
    | .autoescape _ body _ => bodyExtends fuel body
    | _ => false

/-- Whether statements hold an `extends`. -/
def bodyExtends : Nat → List Stmt → Bool
  | 0, _ => false
  | fuel + 1, stmts => stmts.any (stmtExtends fuel)

/-- Whether the `elif` parts of a conditional hold an `extends`. -/
def elifExtends : Nat → List (Expr × List Stmt) → Bool
  | 0, _ => false
  | fuel + 1, elifs => elifs.any fun (_, b) => bodyExtends fuel b
end

/-! ## Folding constants -/

/-- What the compiler knows where it stands: the scopes, whether this is the top of the
template (and not under a conditional), whether the scope is a loop body or a block, whether
it is under a conditional, whether output waits on the template not having extended
another, and escaping. -/
structure Frame where
  syms : Symbols
  toplevel : Bool := false
  rootlevel : Bool := false
  loopFrame : Bool := false
  blockFrame : Bool := false
  soft : Bool := false
  outputCheck : Bool := false
  escaping : Escaping := {}
deriving Inhabited

/-- The frame of a scope one level deeper. -/
def Frame.inner (f : Frame) : Frame :=
  { syms := f.syms.inner, outputCheck := f.outputCheck, escaping := f.escaping }

/-- The frame under a conditional. -/
def Frame.soften (f : Frame) : Frame := { f with rootlevel := false, soft := true }

/-- The compiler's state: the heap of the values it folds, and what it knows of `extends`
so far. -/
structure CompileState where
  heap : Heap := {}
  hasKnownExtends : Bool := false
  extendsSoFar : Nat := 0

/-- Compilation, which may fail. -/
abbrev CompileM := ExceptT Failure (StateM CompileState)

/-- Runs a computation on the heap within compilation. -/
def liftHeap {α : Type} (act : HeapM α) : CompileM α := do
  let st ← get
  let (r, h) := Id.run ((act.run).run st.heap)
  set { st with heap := h }
  match r with
  | .ok a => pure a
  | .error e => throw e

/-- The mark of an expression that is not constant. -/
def notConstant : Failure := .host "Impossible" ""

/-- Whether a failure is the mark of an expression that is not constant. -/
def isNotConstant : Failure → Bool
  | .host "Impossible" _ => true
  | _ => false

/-- Runs a step whose failure only makes the expression not constant. -/
def guarded {α : Type} (act : CompileM α) : CompileM α :=
  tryCatch act fun _ => throw notConstant

/-- The filters that need the template's context, which are never folded. -/
def contextFilters : List String := ["map", "select", "reject", "selectattr", "rejectattr", "random"]

/-- How deep filters may apply filters while folding. -/
def filterFuel : Nat := 64

/-- The keyword arguments a `**` argument gives: those of a mapping whose keys are texts. -/
def starStarArgs (d : Datum) : HeapM (List (String × Datum)) := do
  let es ← Datum.entriesFrom d
  es.mapM fun (k, v) => match k with
    | .str s | .markup s => pure (s, v)
    | _ => throw (.typeError "keywords must be strings")

/-- Merges keyword arguments, a later one replacing an earlier of the same name. -/
def mergeKwargs (kwargs more : List (String × Datum)) : List (String × Datum) :=
  more.foldl (fun acc (k, v) =>
    if acc.any (·.1 == k) then acc.map fun (k', v') => if k' == k then (k', v) else (k', v')
    else acc ++ [(k, v)]) kwargs

/-- The value of an expression whose operands are constants; fails with `notConstant` when
it is not constant, or with the failure of an unguarded step. -/
def constValue (esc : Escaping) : Nat → Expr → CompileM Datum
  | 0, _ => throw notConstant
  | fuel + 1, e => do
    let cv := constValue esc fuel
    let constArgs := fun (args : List Expr) (kwargs : List (String × Expr)) (star starStar : Option Expr) => do
      let mut argv ← args.mapM cv
      let mut kwv ← kwargs.mapM fun (k, v) => do return (k, ← cv v)
      if let some s := star then
        let more ← guarded do liftHeap (Datum.items (← cv s))
        argv := argv ++ more
      if let some s := starStar then
        let more ← guarded do liftHeap (starStarArgs (← cv s))
        kwv := mergeKwargs kwv more
      return (argv, kwv)
    match e with
    | .lit v => liftHeap v.toDatum
    | .tuple items => return .tuple (← items.mapM cv)
    | .list items => do
      let xs ← items.mapM cv
      liftHeap (Datum.newList xs.toArray)
    | .dict pairs => do
      let mut es : Array (Datum × Datum) := #[]
      for (k, v) in pairs do
        let kd ← cv k
        let vd ← cv v
        es ← liftHeap (Datum.insertKey es kd vd)
      liftHeap (Datum.newDict es)
    | .getAttr o a => guarded do liftHeap (Datum.getAttr (← cv o) a)
    | .getItem o k => guarded do liftHeap (Datum.getItem (← cv o) (← cv k))
    | .slice a b c => do
      let part := fun (x : Option Expr) => match x with
        | some x => cv x
        | none => pure Datum.none
      return .slice (← part a) (← part b) (← part c)
    | .filter (some v) name args kwargs star starStar =>
      if esc.volatile || !filterNames.contains name || contextFilters.contains name then
        throw notConstant
      let (argv, kwv) ← constArgs args kwargs star starStar
      let value ← cv v
      guarded (liftHeap (Datum.applyFilter { autoescape := esc.autoescape } filterFuel name value argv kwv))
    | .test v name args kwargs star starStar =>
      if esc.volatile || !testNames.contains name then throw notConstant
      let (argv, kwv) ← constArgs args kwargs star starStar
      let value ← cv v
      guarded do return .bool (← liftHeap (Datum.applyTest name value argv kwv))
    | .binary op a b => guarded do liftHeap (Datum.binary op (← cv a) (← cv b))
    | .unary op a => guarded do liftHeap (Datum.negate op (← cv a))
    | .and a b => do
      let l ← cv a
      if ← liftHeap (Datum.truthy l) then cv b else return l
    | .or a b => do
      let l ← cv a
      if ← liftHeap (Datum.truthy l) then return l else cv b
    | .concat parts => do
      let mut out := ""
      for p in parts do
        out := out ++ (← liftHeap (Datum.toText (← cv p)))
      return .str out
    | .compare first rest => do
      let value ← cv first
      guarded do
        let mut value := value
        for (op, x) in rest do
          let next ← cv x
          if !(← liftHeap (Datum.compareWith op value next)) then return .bool false
          value := next
        return .bool true
    | .cond t y n _ => do
      if ← liftHeap (Datum.truthy (← cv t)) then cv y
      else match n with
        | some n => cv n
        | none => throw notConstant
    | _ => throw notConstant

/-- An expression replaced by its value when that is constant and prints back; the
failure of an unguarded step is the compiler's. -/
def tryFold (esc : Escaping) (e : Expr) : CompileM Expr := do
  match e with
  | .lit _ | .name _ _ | .nsRef _ _ _ => return e
  | _ =>
    tryCatch (do
      let v ← constValue esc nestingFuel e
      match ← liftHeap (v.toLit? litDepth) with
      | some l => return .lit l
      | none => return e)
      fun err => if isNotConstant err then return e else throw err

/-- Folds the constant parts of an expression, innermost first. -/
def foldExpr (esc : Escaping) : Nat → Expr → CompileM Expr
  | 0, e => return e
  | fuel + 1, e => do
    let f := foldExpr esc fuel
    let fo := fun (x : Option Expr) => match x with
      | some x => some <$> f x
      | none => pure none
    let fk := fun (kwargs : List (String × Expr)) => kwargs.mapM fun (k, v) => do return (k, ← f v)
    let e' ← match e with
      | .tuple items => do pure (.tuple (← items.mapM f))
      | .list items => do pure (.list (← items.mapM f))
      | .dict pairs => do pure (.dict (← pairs.mapM fun (k, v) => do pure (← f k, ← f v)))
      | .getAttr o a => do pure (.getAttr (← f o) a)
      | .getItem o k => do pure (.getItem (← f o) (← f k))
      | .slice a b c => do pure (.slice (← fo a) (← fo b) (← fo c))
      | .call c args kwargs s ss => do
        pure (.call (← f c) (← args.mapM f) (← fk kwargs) (← fo s) (← fo ss))
      | .filter v n args kwargs s ss => do
        pure (.filter (← fo v) n (← args.mapM f) (← fk kwargs) (← fo s) (← fo ss))
      | .test v n args kwargs s ss => do
        pure (.test (← f v) n (← args.mapM f) (← fk kwargs) (← fo s) (← fo ss))
      | .binary op a b => do pure (.binary op (← f a) (← f b))
      | .unary op a => do pure (.unary op (← f a))
      | .and a b => do pure (.and (← f a) (← f b))
      | .or a b => do pure (.or (← f a) (← f b))
      | .concat parts => do pure (.concat (← parts.mapM f))
      | .compare first rest => do
        pure (.compare (← f first) (← rest.mapM fun (op, x) => do return (op, ← f x)))
      | .cond t y n l => do pure (.cond (← f t) (← f y) (← fo n) l)
      | e => pure e
    tryFold esc e'

/-- Folds an expression where the compiler writes it: tuples, lists, mappings and slices
are built from their folded parts; other expressions are folded whole. -/
def foldAt (esc : Escaping) : Nat → Expr → CompileM Expr
  | 0, e => return e
  | fuel + 1, e => do
    let fo := fun (x : Option Expr) => match x with
      | some x => some <$> foldAt esc fuel x
      | none => pure none
    match e with
    | .tuple items => return .tuple (← items.mapM (foldAt esc fuel))
    | .list items => return .list (← items.mapM (foldAt esc fuel))
    | .dict pairs => return .dict (← pairs.mapM fun (k, v) => do return (← foldAt esc fuel k, ← foldAt esc fuel v))
    | .slice a b c => return .slice (← fo a) (← fo b) (← fo c)
    | .lit _ | .name _ _ | .nsRef _ _ _ => return e
    | e => foldExpr esc nestingFuel e

/-! ## Resolving names -/

/-- The failure of a name no scope refers to. -/
def unknownReference (n : String) : Failure :=
  .host "AssertionError"
    ("Tried to resolve a name to a reference that was unknown to the frame (" ++ quoteText n ++ ")")

/-- The level of the scope holding a name. -/
def refLevel (syms : Symbols) (n : String) : Except Failure Nat :=
  match syms.findRef n with
  | some l => .ok l
  | none => .error (unknownReference n)

/-- An expression with its names resolved to levels, checking that its filters and tests
exist unless it stands under a conditional. -/
def resolveExpr (syms : Symbols) : Nat → Bool → Expr → Except Failure Expr
  | 0, _, e => .ok e
  | fuel + 1, soft, e => do
    let r := resolveExpr syms fuel soft
    let ro := fun (x : Option Expr) => match x with
      | some x => some <$> r x
      | none => pure none
    let rk := fun (kwargs : List (String × Expr)) => kwargs.mapM fun (k, v) => do return (k, ← r v)
    match e with
    | .lit _ => return e
    | .name n _ => return .name n (← refLevel syms n)
    | .nsRef ns attr _ => return .nsRef ns attr (← refLevel syms ns)
    | .tuple items => return .tuple (← items.mapM r)
    | .list items => return .list (← items.mapM r)
    | .dict pairs => return .dict (← pairs.mapM fun (k, v) => do return (← r k, ← r v))
    | .getAttr o a => return .getAttr (← r o) a
    | .getItem o k => return .getItem (← r o) (← r k)
    | .slice a b c => return .slice (← ro a) (← ro b) (← ro c)
    | .call c args kwargs s ss =>
      let c ← r c
      let args ← args.mapM r
      let kwargs ← rk kwargs
      return .call c args kwargs (← ro s) (← ro ss)
    | .filter v n args kwargs s ss =>
      if !soft && !filterNames.contains n then
        throw (.assertion ("No filter named " ++ quoteText n ++ "."))
      let v ← ro v
      let args ← args.mapM r
      let kwargs ← rk kwargs
      return .filter v n args kwargs (← ro s) (← ro ss)
    | .test v n args kwargs s ss =>
      if !soft && !testNames.contains n then
        throw (.assertion ("No test named " ++ quoteText n ++ "."))
      let v ← r v
      let args ← args.mapM r
      let kwargs ← rk kwargs
      return .test v n args kwargs (← ro s) (← ro ss)
    | .binary op a b => return .binary op (← r a) (← r b)
    | .unary op a => return .unary op (← r a)
    | .and a b => return .and (← r a) (← r b)
    | .or a b => return .or (← r a) (← r b)
    | .concat parts => return .concat (← parts.mapM r)
    | .compare first rest =>
      return .compare (← r first) (← rest.mapM fun (op, x) => do return (op, ← r x))
    | .cond t y n l =>
      let rs := resolveExpr syms fuel true
      let y ← rs y
      let t ← rs t
      let n ← match n with
        | some n => some <$> rs n
        | none => pure none
      return .cond t y n l

/-- Compiles an expression where it stands: folded, with its names resolved. -/
def compileExpr (f : Frame) (e : Expr) : CompileM Expr := do
  let e ← foldAt f.escaping nestingFuel e
  match resolveExpr f.syms nestingFuel f.soft e with
  | .ok e => return e
  | .error err => throw err

/-- An assignment target with its names resolved. -/
def compileTarget (f : Frame) (e : Expr) : CompileM Expr :=
  match resolveExpr f.syms nestingFuel true e with
  | .ok e => return e
  | .error err => throw err

/-- The text of a printed expression when it is constant: its value, escaped when escaping
is on; none when it must be printed when rendering. -/
def outputConst (esc : Escaping) (e : Expr) : CompileM (Option String) :=
  tryCatch (do
    let v ← constValue esc nestingFuel e
    let s ← liftHeap (if esc.autoescape then Datum.escape v else Datum.toText v)
    return some s)
    fun _ => return none

/-- Appends a constant text to compiled output, joining it to the constant text before it. -/
def pushConst (out : Array Piece) (joinable : Bool) (s : String) : Array Piece :=
  match out.back?, joinable with
  | some (.text t), true => out.pop.push (.text (t ++ s))
  | _, _ => out.push (.text s)

/-- The failure of a callable whose `caller` parameter has no default. -/
def callerWithoutDefault : Failure :=
  .assertion ("When defining macros or call blocks the special \"caller\" argument must be " ++
    "omitted or be given a default.")

/-- The frame of a callable's body, with the special names it uses declared: whether it
reads `caller`, `kwargs` and `varargs`. -/
def callableFrame (f : Frame) (params : List String) (defaults : List Expr) (body : List Stmt) :
    CompileM (Frame × Bool × Bool × Bool) := do
  let syms0 := f.syms.inner
  let syms := ((do
      params.forM fun p => modify (·.declareParam p)
      defaults.forM (symExpr nestingFuel)
      symStmts nestingFuel body : StateM Symbols Unit).run syms0).2
  let undeclared := findUndeclared body ["caller", "kwargs", "varargs"]
  let mut syms := syms
  let usesCaller := undeclared.contains "caller"
  if usesCaller then
    match params.idxOf? "caller" with
    | some i => if params.length - i > defaults.length then throw callerWithoutDefault
    | none => syms := syms.declareParam "caller"
  let usesKwargs := undeclared.contains "kwargs" && !params.contains "kwargs"
  if usesKwargs then syms := syms.declareParam "kwargs"
  let usesVarargs := undeclared.contains "varargs" && !params.contains "varargs"
  if usesVarargs then syms := syms.declareParam "varargs"
  return ({ syms, escaping := f.escaping }, usesCaller, usesKwargs, usesVarargs)

/-- Compiles statements one by one with `step`, stopping after one whose flag says the rest
are not compiled. -/
def compileSequence (step : Stmt → CompileM (List Stmt × Bool)) : List Stmt → CompileM (List Stmt)
  | [] => return []
  | s :: rest => do
    let (out, exit) ← step s
    if exit then return out
    return out ++ (← compileSequence step rest)

mutual
/-- Compiles a statement where it stands; the flag says that the rest of the statements
around it are not compiled, after a second `extends` the compiler knows runs. -/
def compileStmt : Nat → Frame → Stmt → CompileM (List Stmt × Bool)
  | 0, _, _ => throw (.host "RecursionError" "maximum recursion depth exceeded")
  | fuel + 1, f, st => do
    match st with
    | .output pieces _ =>
      if f.outputCheck && (← get).hasKnownExtends then return ([], false)
      let mut out : Array Piece := #[]
      let mut joinable := false
      for p in pieces do
        match p with
        | .text t =>
          if t.isEmpty then continue
          if f.escaping.volatile then
            out := out.push (.text t)
            joinable := false
          else
            out := pushConst out joinable t
            joinable := true
        | .expr e =>
          match ← outputConst f.escaping e with
          | some s =>
            out := pushConst out joinable s
            joinable := true
          | none =>
            out := out.push (.expr (← compileExpr f e))
            joinable := false
      return ([.output out.toList f.outputCheck], false)
    | .forLoop target iter body orElse test recursive _ _ _ _ =>
      let extended := recursive || (findUndeclared body ["loop"]).contains "loop" ||
        (bodyBlocks nestingFuel (body ++ orElse)).any (·.2.1)
      let loopSyms0 := if extended then f.syms.inner.declareParam "loop" else f.syms.inner
      let loopSyms := ((do symTarget true nestingFuel target; symStmts nestingFuel body :
        StateM Symbols Unit).run loopSyms0).2
      let elseSyms := analyzeBody f.syms.inner orElse
      let testSyms := match test with
        | some t => ((do symTarget true nestingFuel target; symExpr nestingFuel t :
            StateM Symbols Unit).run f.syms.inner).2
        | none => f.syms.inner
      let loopF : Frame :=
        { syms := loopSyms, loopFrame := true, outputCheck := f.outputCheck, escaping := f.escaping }
      let elseF : Frame := { syms := elseSyms, outputCheck := f.outputCheck, escaping := f.escaping }
      let testF : Frame := { syms := testSyms, outputCheck := f.outputCheck, escaping := f.escaping }
      let test' ← match test with
        | some t => do
          let _ ← compileTarget loopF target
          some <$> compileExpr testF t
        | none => pure none
      if targetBinds "loop" nestingFuel target || bodyAssigns "loop" nestingFuel body ||
          bodyAssigns "loop" nestingFuel orElse then
        throw (.assertion "Can't assign to special loop variable in for-loop target")
      let target' ← compileTarget loopF target
      let iter' ← if recursive then pure iter else compileExpr f iter
      let body' ← compileStmts fuel loopF body
      let orElse' ← compileStmts fuel elseF orElse
      let iter' ← if recursive then compileExpr f iter' else pure iter'
      return ([.forLoop target' iter' body' orElse' test' recursive loopSyms.entry elseSyms.entry
        testSyms.entry extended], false)
    | .ifThen test body elifs orElse =>
      let sf := f.soften
      let test' ← compileExpr sf test
      let body' ← compileStmts fuel sf body
      let elifs' ← elifs.mapM fun (t, b) => do
        let t' ← compileExpr sf t
        return (t', ← compileStmts fuel sf b)
      let orElse' ← compileStmts fuel sf orElse
      return ([.ifThen test' body' elifs' orElse'], false)
    | .assign target value _ =>
      let target' ← compileTarget f target
      let value' ← compileExpr f value
      return ([.assign target' value' f.toplevel], false)
    | .assignBlock target filter body _ _ =>
      let bsyms := analyzeBody f.syms.inner body
      let bf : Frame := { syms := bsyms, escaping := f.escaping }
      let body' ← compileStmts fuel bf body
      let target' ← compileTarget f target
      let filter' ← match filter with
        | some fl => some <$> compileExpr bf fl
        | none => pure none
      return ([.assignBlock target' filter' body' f.toplevel bsyms.entry], false)
    | .block bname isScoped required _ _ _ =>
      if f.toplevel && (← get).hasKnownExtends then return ([], false)
      let guardedBlock := f.toplevel && (← get).extendsSoFar > 0
      let locals := if isScoped then f.syms.dumpStores else []
      return ([.block bname isScoped required [] guardedBlock locals], false)
    | .extend template _ =>
      if !f.toplevel then throw (.assertion "cannot use extend from a non top-level scope")
      let st ← get
      let checkTwice := st.extendsSoFar > 0
      if checkTwice && st.hasKnownExtends then
        return ([.stop "extended multiple times"], true)
      let template' ← compileExpr f template
      if f.rootlevel then modify fun s => { s with hasKnownExtends := true }
      modify fun s => { s with extendsSoFar := s.extendsSoFar + 1 }
      return ([.extend template' checkTwice], false)
    | .stop m => return ([.stop m], false)
    | Stmt.include template ignoreMissing withContext _ =>
      let template' ← compileExpr f template
      let locals := if withContext then f.syms.dumpStores else []
      return ([.include template' ignoreMissing withContext locals], false)
    | .importAs template target withContext _ _ _ =>
      let level ← match refLevel f.syms target with
        | .ok l => pure l
        | .error e => throw e
      let template' ← compileExpr f template
      let locals := if withContext then f.syms.dumpStores else []
      return ([.importAs template' target withContext level f.toplevel locals], false)
    | .fromImport template names withContext line _ _ _ =>
      let template' ← compileExpr f template
      let levels ← names.mapM fun (_, asName) => match refLevel f.syms asName with
        | .ok l => pure l
        | .error e => throw e
      let locals := if withContext then f.syms.dumpStores else []
      return ([.fromImport template' names withContext line levels f.toplevel locals], false)
    | .define cname params defaults body _ _ _ _ _ _ =>
      let (mf, usesCaller, usesKwargs, usesVarargs) ← callableFrame f params defaults body
      let defaults' ← defaults.mapM (compileExpr mf)
      let body' ← compileStmts fuel mf body
      let level ← match refLevel f.syms cname with
        | .ok l => pure l
        | .error e => throw e
      return ([.define cname params defaults' body' level f.toplevel mf.syms.entry usesCaller
        usesKwargs usesVarargs], false)
    | .callBlock params defaults call body _ _ _ _ =>
      let (mf, usesCaller, usesKwargs, usesVarargs) ← callableFrame f params defaults body
      let defaults' ← defaults.mapM (compileExpr mf)
      let body' ← compileStmts fuel mf body
      let call' ← compileExpr f call
      return ([.callBlock params defaults' call' body' mf.syms.entry usesCaller usesKwargs
        usesVarargs], false)
    | .filterBlock filter body _ =>
      let fsyms := ((do symStmts nestingFuel body; symExpr nestingFuel filter :
        StateM Symbols Unit).run f.syms.inner).2
      let ff : Frame := { syms := fsyms, outputCheck := f.outputCheck, escaping := f.escaping }
      let body' ← compileStmts fuel ff body
      let filter' ← compileExpr ff filter
      return ([.filterBlock filter' body' fsyms.entry], false)
    | .withBlock targets values body _ =>
      let wsyms := ((do targets.forM (symTarget true nestingFuel); symStmts nestingFuel body :
        StateM Symbols Unit).run f.syms.inner).2
      let wf : Frame := { syms := wsyms, outputCheck := f.outputCheck, escaping := f.escaping }
      let mut targets' := []
      let mut values' := []
      for (t, v) in targets.zip values do
        targets' := targets' ++ [← compileTarget wf t]
        values' := values' ++ [← compileExpr f v]
      let body' ← compileStmts fuel wf body
      return ([.withBlock targets' values' body' wsyms.entry], false)
    | .scope body _ =>
      let ssyms := analyzeBody f.syms.inner body
      let sf : Frame := { syms := ssyms, outputCheck := f.outputCheck, escaping := f.escaping }
      let body' ← compileStmts fuel sf body
      return ([.scope body' ssyms.entry], false)
    | .autoescape value body _ =>
      let value' ← compileExpr f value
      let esc ← tryCatch (do
          let v ← constValue f.escaping nestingFuel value
          let on ← liftHeap (Datum.truthy v)
          pure { f.escaping with autoescape := on })
        fun err => if isNotConstant err then pure { f.escaping with volatile := true } else throw err
      let body' ← compileStmts fuel { f with escaping := esc } body
      return ([.autoescape value' body' esc], false)

/-- Compiles statements, up to a second `extends` the compiler knows runs. -/
def compileStmts : Nat → Frame → List Stmt → CompileM (List Stmt)
  | 0, _, _ => throw (.host "RecursionError" "maximum recursion depth exceeded")
  | fuel + 1, f, stmts => compileSequence (compileStmt fuel f) stmts
end

/-- The failure of two blocks of one name. -/
def blockTwice (name : String) : Failure :=
  .assertion ("block " ++ quoteText name ++ " defined twice")

/-- Compiles a template's statements: the checks on blocks first, then its top level, then
each block in a scope of its own. -/
def compileProgram (name : String) (src : Source) : Except Failure Program :=
  let run : CompileM Program := do
    let body := src.body
    let haveExtends := bodyExtends nestingFuel body
    let found := bodyBlocks nestingFuel body
    let mut seen : List String := []
    for (b, _, _) in found do
      if seen.contains b then throw (blockTwice b)
      seen := seen ++ [b]
    let usesSelf := (findUndeclared body ["self"]).contains "self"
    let rootSyms0 : Symbols := [{ level := 0 }]
    let rootSyms0 := if usesSelf then rootSyms0.declareParam "self" else rootSyms0
    let rootSyms := analyzeBody rootSyms0 body
    let rootF : Frame :=
      { syms := rootSyms, toplevel := true, rootlevel := true, outputCheck := haveExtends }
    let body' ← compileStmts nestingFuel rootF body
    let mut blocks : List BlockDef := []
    for (b, _, bbody) in found do
      let undeclared := findUndeclared bbody ["self", "super"]
      let bsyms0 : Symbols := [{ level := 0 }]
      let bsyms0 := if undeclared.contains "self" then bsyms0.declareParam "self" else bsyms0
      let bsyms0 := if undeclared.contains "super" then bsyms0.declareParam "super" else bsyms0
      let bsyms := analyzeBody bsyms0 bbody
      let bf : Frame := { syms := bsyms, blockFrame := true }
      let bbody' ← compileStmts nestingFuel bf bbody
      let block : BlockDef :=
        { template := name, name := b, body := bbody', entry := bsyms.entry,
          usesSelf := undeclared.contains "self", usesSuper := undeclared.contains "super" }
      blocks := blocks ++ [block]
    let prog : Program :=
      { name, body := body', entry := rootSyms.entry, blocks, hasExtends := haveExtends,
        usesSelf }
    return prog
  (Id.run ((run.run).run {})).1

end NodeImage.Template
