import NodeImage.Template.Compile

/-!
# Rendering templates

A compiled template renders to a list of output chunks, which are joined at the end. Most
chunks are text; a filter section and a call with a body give the value they compute,
whatever it is, and joining then fails on a chunk that is not text.

The code of a template runs in activations: the top level of a template, each block, each
call of a callable the template defines, each run of a recursive loop, and the test of a
filtered loop. An activation holds the variables of the scope levels from its own level
on; a lower level is read from the activation it is nested in, as it is when read, so a
callable sees the variables around its definition as they are when it is called. A scope
binds its names on entry as the compiler decided, and unbinds them on exit.

Every rendered template has a context: the variables it was given and those its top level
exported, its blocks, and whether output is escaped now. Loops, inclusion, import and
inheritance work as the template language defines them: a loop reads its items as it goes
(and a filtered loop tests them as it reads them), a template included with its context
sees the variables around the inclusion, a template imported without context is rendered
once, and a template that extends another renders the other after its own top level, with
its own blocks first in line.
-/

namespace NodeImage.Template

/-- The renderer's state: the heap, where the text of templates comes from, the templates
compiled so far, and the modules of templates imported without context. -/
structure Machine where
  heap : Heap := {}
  source : String → Except Failure String
  programs : List (String × Program) := []
  modules : List (String × Datum) := []

/-- Rendering, which may fail. -/
abbrev RenderM := ExceptT Failure (StateM Machine)

/-- Runs a computation on the heap within rendering. -/
def onHeap {α : Type} (act : HeapM α) : RenderM α := do
  let m ← get
  let (r, h) := Id.run ((act.run).run m.heap)
  set { m with heap := h }
  match r with
  | .ok a => pure a
  | .error e => throw e

/-- Where code runs: its activation and context, what the compiler knew of escaping there,
the template the code belongs to, and the output of a section being filtered. -/
structure Place where
  act : Nat
  ctx : Nat
  esc : Escaping := {}
  template : String
  /-- The output of the section whose filter is being applied, which the first filter of
  its chain filters. -/
  buffer : Datum := .none

/-- Bounds how far the activations around one may be followed. -/
def chainFuel : Nat := 100000

/-- Bounds how deeply rendering may nest: calls, loops, sections and expressions. -/
def renderFuel : Nat := 4000

/-- The failure of rendering that nests too deeply. -/
def tooDeep : Failure := .host "RecursionError" "maximum recursion depth exceeded"

/-- The globals every template sees. -/
def globalNames : List (String × Datum) :=
  [("range", .builtin .range), ("dict", .builtin .dict), ("lipsum", .builtin .lipsum),
    ("cycler", .builtin .cycler), ("joiner", .builtin .joiner),
    ("namespace", .builtin .namespace)]

/-! ## Activations and contexts -/

/-- The activation at an address. -/
def getActivation (a : Nat) : RenderM Activation := do
  match ← onHeap (Heap.get a) with
  | .activation x => pure x
  | _ => throw (.host "RuntimeError" "not an activation")

/-- A new activation holding the levels from `base` on. -/
def newActivation (base : Nat) (parent : Option Nat) (ctx : Nat) : RenderM Nat :=
  onHeap (Heap.alloc (.activation { base, parent, context := ctx }))

/-- Reads a variable from the activation that holds its level; none when it is unbound. -/
def readVar : Nat → Nat → Nat → String → RenderM (Option Datum)
  | 0, _, _, _ => pure none
  | fuel + 1, a, level, n => do
    let x ← getActivation a
    if level ≥ x.base then return x.vars.lookup (level, n)
    match x.parent with
    | some p => readVar fuel p level n
    | none => return none

/-- Binds a variable of an activation. -/
def writeVar (a : Nat) (level : Nat) (n : String) (v : Datum) : RenderM Unit := do
  let x ← getActivation a
  let key := (level, n)
  let vars := if x.vars.any (·.1 == key) then x.vars.map fun (k, w) => if k == key then (k, v) else (k, w)
    else x.vars ++ [(key, v)]
  onHeap (Heap.set a (.activation { x with vars }))

/-- Unbinds a variable of an activation. -/
def clearVar (a : Nat) (level : Nat) (n : String) : RenderM Unit := do
  let x ← getActivation a
  onHeap (Heap.set a (.activation { x with vars := x.vars.filter (·.1 != (level, n)) }))

/-- The template the top level around an activation has extended, if it has. -/
def extendedFrom : Nat → Nat → RenderM (Option String)
  | 0, _ => pure none
  | fuel + 1, a => do
    let x ← getActivation a
    if x.extended.isSome then return x.extended
    match x.parent with
    | some p => extendedFrom fuel p
    | none => return none

/-- The context at an address. -/
def getContext (c : Nat) : RenderM Context := do
  match ← onHeap (Heap.get c) with
  | .context x => pure x
  | _ => throw (.host "RuntimeError" "not a context")

/-- Replaces the context at an address. -/
def setContext (c : Nat) (x : Context) : RenderM Unit := onHeap (Heap.set c (.context x))

/-- Looks a name up in a context: its own variables first, then those it was given. -/
def resolveName (c : Nat) (n : String) : RenderM (Option Datum) := do
  let x ← getContext c
  match x.vars.lookup n with
  | some v => return some v
  | none => return x.parent.lookup n

/-- Whether output is escaped now in a context. -/
def contextEscapes (c : Nat) : RenderM Bool := return (← getContext c).autoescape

/-- All the variables of a context: those it was given, then its own. -/
def contextAll (c : Nat) : RenderM (List (String × Datum)) := do
  let x ← getContext c
  return mergeKwargs x.parent x.vars

/-- Sets a variable of a context, and whether the template exports it. -/
def contextSet (c : Nat) (n : String) (v : Datum) (exporting : Option Bool) : RenderM Unit := do
  let x ← getContext c
  let vars := mergeKwargs x.vars [(n, v)]
  let exported := match exporting with
    | some true => if x.exported.contains n then x.exported else x.exported ++ [n]
    | some false => x.exported.erase n
    | none => x.exported
  setContext c { x with vars, exported }

/-- Binds the names of a scope on entry. -/
def enterScope (p : Place) (entry : Entry) : RenderM Unit := do
  for (n, l) in entry.loads do
    match l with
    | .param => pure ()
    | .resolve =>
      match ← resolveName p.ctx n with
      | some v => writeVar p.act entry.level n v
      | none => clearVar p.act entry.level n
    | .copyOf lv =>
      match ← readVar chainFuel p.act lv n with
      | some v => writeVar p.act entry.level n v
      | none => clearVar p.act entry.level n
    | .undefined => clearVar p.act entry.level n

/-- Unbinds the names of a scope on exit. -/
def leaveScope (p : Place) (entry : Entry) : RenderM Unit := do
  for (n, _) in entry.loads do
    clearVar p.act entry.level n

/-- The variables a scoped block or an included template sees: those assigned around it
that are bound. -/
def localValues (p : Place) (locals : List (String × Nat)) : RenderM (List (String × Datum)) := do
  let mut out := []
  for (n, level) in locals do
    if let some v ← readVar chainFuel p.act level n then out := out ++ [(n, v)]
  return out

/-- A new context for a template, with the variables it is given: with the globals first
unless shared, then the given ones, then the locals around. -/
def newContext (prog : Program) (vars : List (String × Datum)) (shared : Bool)
    (locals : List (String × Datum)) : RenderM Nat := do
  let parent := if shared then vars else mergeKwargs globalNames vars
  let parent := mergeKwargs parent locals
  let blocks := prog.blocks.map fun b => (b.name, [b])
  onHeap (Heap.alloc (.context { name := prog.name, parent, blocks }))

/-- A context derived from another for a scoped block: it sees all the other's variables and
the locals, and shares its blocks and escaping. -/
def derivedContext (c : Nat) (locals : List (String × Datum)) : RenderM Nat := do
  let x ← getContext c
  let all ← contextAll c
  let derived : Context :=
    { name := x.name, parent := mergeKwargs all locals, blocks := x.blocks,
      autoescape := x.autoescape }
  onHeap (Heap.alloc (.context derived))

/-! ## Loops -/

/-- The state of the loop at an address. -/
def getLoop (a : Nat) : RenderM LoopState := do
  match ← onHeap (Heap.get a) with
  | .loop st => pure st
  | _ => throw (.host "RuntimeError" "not a loop")

/-- Replaces the state of the loop at an address. -/
def setLoop (a : Nat) (st : LoopState) : RenderM Unit := onHeap (Heap.set a (.loop st))

/-- The items an unpacking assignment takes from a value, which must have as many as there
are targets. -/
def unpack (v : Datum) (n : Nat) : HeapM (List Datum) := do
  if !(← Datum.isIterable v) then
    throw (.typeError ("cannot unpack non-iterable " ++ (← v.typeName) ++ " object"))
  let xs ← Datum.items v
  if xs.length < n then
    throw (.valueError ("not enough values to unpack (expected " ++ toString n ++ ", got " ++
      toString xs.length ++ ")"))
  if xs.length > n then
    throw (.valueError ("too many values to unpack (expected " ++ toString n ++ ")"))
  return xs

/-- The failure of assigning to a member of what is not a namespace. -/
def notNamespace : Failure := .runtime "cannot assign attribute on non-namespace object"

/-- Checks that the namespaces an assignment target writes to are namespaces. -/
def checkNamespaces (p : Place) : Nat → Expr → RenderM Unit
  | 0, _ => pure ()
  | fuel + 1, e => do
    match e with
    | .nsRef ns _ level =>
      match ← readVar chainFuel p.act level ns with
      | some (.obj a) =>
        match ← onHeap (Heap.get a) with
        | .namespace _ => pure ()
        | _ => throw notNamespace
      | _ => throw notNamespace
    | .tuple items => items.forM (checkNamespaces p fuel)
    | _ => pure ()

/-- Assigns a value to a target: a name, a namespace member, or a tuple unpacked. -/
def bindTarget (p : Place) : Nat → Expr → Datum → RenderM Unit
  | 0, _, _ => throw tooDeep
  | fuel + 1, target, v => do
    match target with
    | .name n level => writeVar p.act level n v
    | .tuple items =>
      let xs ← onHeap (unpack v items.length)
      for (t, x) in items.zip xs do
        bindTarget p fuel t x
    | .nsRef ns attr level =>
      match ← readVar chainFuel p.act level ns with
      | some (.obj a) =>
        match ← onHeap (Heap.get a) with
        | .namespace es =>
          let es ← onHeap (Datum.insertKey es (.str attr) v)
          onHeap (Heap.set a (.namespace es))
        | _ => throw notNamespace
      | _ => throw notNamespace
    | _ => pure ()

/-- The names an assignment target binds, in order. -/
def targetNames : Nat → Expr → List String
  | 0, _ => []
  | fuel + 1, e =>
    match e with
    | .name n _ => [n]
    | .tuple items => items.flatMap (targetNames fuel)
    | _ => []

/-- Exports the names an assignment at the top of a template bound. -/
def exportTarget (p : Place) (target : Expr) : RenderM Unit := do
  let rec levels : Nat → Expr → List (String × Nat)
    | 0, _ => []
    | fuel + 1, e =>
      match e with
      | .name n level => [(n, level)]
      | .tuple items => items.flatMap (levels fuel)
      | _ => []
  for (n, level) in levels nestingFuel target do
    if let some v ← readVar chainFuel p.act level n then
      contextSet p.ctx n v (if n.startsWith "_" then none else some true)

/-! ## Loading templates -/

/-- A template by name, compiled once. -/
def loadProgram (name : String) : RenderM Program := do
  let m ← get
  match m.programs.lookup name with
  | some prog => return prog
  | none =>
    let text ← match m.source name with
      | .ok t => pure t
      | .error e => throw e
    let src ← match parse text with
      | .ok s => pure s
      | .error e => throw e
    let prog ← match compileProgram name src with
      | .ok prog => pure prog
      | .error e => throw e
    modify fun m => { m with programs := (name, prog) :: m.programs }
    return prog

/-- A template named by a value, as `extends` and `import` ask for it. -/
def loadNamed (v : Datum) : RenderM Program := do
  match v with
  | .str s | .markup s => loadProgram s
  | .undefined u => throw (Datum.undefinedFailure u)
  | _ =>
    onHeap (Datum.hashable v)
    throw (.host "AttributeError" (quoteText (← onHeap v.typeName) ++ " object has no attribute 'split'"))

/-- Whether a failure is a template that cannot be found. -/
def isNotFound : Failure → Bool
  | .notFound _ _ => true
  | _ => false

/-- The first of several templates that can be found. -/
def selectTemplate (v : Datum) : RenderM Program := do
  if let .undefined u := v then throw (Datum.undefinedFailure u)
  if !(← onHeap (Datum.truthy v)) then
    throw (.notFound "Tried to select from an empty list of templates." true)
  let names ← onHeap (Datum.items v)
  for n in names do
    let r ← tryCatch (some <$> loadNamed n) fun e =>
      match e with
      | .notFound _ _ | .undefined _ => pure none
      | _ => throw e
    if let some prog := r then return prog
  let mut parts : List String := []
  for n in names do
    match n with
    | .undefined u => parts := parts ++ [u.message]
    | _ => parts := parts ++ [← onHeap (Datum.toText n)]
  throw (.notFound ("none of the templates given were found: " ++ ", ".intercalate parts) true)

/-- The template an `include` names: a name, or a list of names to try in turn. -/
def includeTemplate (v : Datum) : RenderM Program := do
  match v with
  | .str _ | .markup _ | .undefined _ => loadNamed v
  | _ => selectTemplate v

/-! ## Rendering -/

/-- The text of a printed value: escaped when escaping is on. -/
def printValue (p : Place) (v : Datum) : RenderM Datum := do
  let escapes ← if p.esc.volatile then contextEscapes p.ctx else pure p.esc.autoescape
  if escapes then return .markup (← onHeap (Datum.escape v))
  return .str (← onHeap (Datum.toText v))

/-- Output joined as a value: safe text when escaping is on where it was written. -/
def joinedOutput (p : Place) (chunks : Array Datum) : RenderM Datum := do
  let text ← onHeap (Datum.joinChunks chunks.toList)
  let escapes ← if p.esc.volatile then contextEscapes p.ctx else pure p.esc.autoescape
  return if escapes then .markup text else .str text

/-- A value marked safe. -/
def markSafe (v : Datum) : RenderM Datum := do
  match v with
  | .markup _ => return v
  | _ => return .markup (← onHeap (Datum.toText v))

/-- The arguments of a `*` argument: the items of an iterable. -/
def starArgs (callee : String) (v : Datum) : HeapM (List Datum) := do
  if !(← Datum.isIterable v) then
    throw (.typeError (callee ++ " argument after * must be an iterable, not " ++ (← v.typeName)))
  Datum.items v

/-- The keyword arguments of a `**` argument: the entries of a mapping with text keys. -/
def mappingArgs (callee : String) (v : Datum) : HeapM (List (String × Datum)) := do
  match v with
  | .obj a =>
    match ← Heap.get a with
    | .dict es => es.toList.mapM fun (k, x) => match k with
      | .str s | .markup s => pure (s, x)
      | _ => throw (.typeError "keywords must be strings")
    | _ => throw (.typeError (callee ++ " argument after ** must be a mapping, not " ++ (← v.typeName)))
  | _ => throw (.typeError (callee ++ " argument after ** must be a mapping, not " ++ (← v.typeName)))

/-- How a call names the function in its messages. -/
def callName : String := "jinja2.runtime.Context.call()"

/-- The failure of a value that cannot be called. -/
def notCallable (v : Datum) : HeapM Failure :=
  return .typeError (quoteText (← v.typeName) ++ " object is not callable")

mutual
/-- Evaluates an expression. -/
def evalExpr : Nat → Place → Expr → RenderM Datum
  | 0, _, _ => throw tooDeep
  | fuel + 1, p, e => do
    match e with
    | .lit l =>
      if let some n := l.nonFinite? then
        throw (.host "NameError" ("name " ++ quoteText n ++ " is not defined"))
      onHeap l.toDatum
    | .name n level =>
      match ← readVar chainFuel p.act level n with
      | some v => return v
      | none => return Datum.undefinedName n
    | .tuple items => return .tuple (← evalList fuel p items)
    | .list items => onHeap (Datum.newList (← evalList fuel p items).toArray)
    | .dict pairs =>
      let mut vals : Array (Datum × Datum) := #[]
      for (k, v) in pairs do
        let kd ← evalExpr fuel p k
        let vd ← evalExpr fuel p v
        vals := vals.push (kd, vd)
      let mut es : Array (Datum × Datum) := #[]
      for (k, v) in vals do
        es ← onHeap (Datum.insertKey es k v)
      onHeap (Datum.newDict es)
    | .getAttr o a =>
      let v ← evalExpr fuel p o
      prepareLoopAttr fuel v a
      onHeap (Datum.getAttr v a)
    | .getItem o (.slice a b c) =>
      let v ← evalExpr fuel p o
      let s ← evalSlice fuel p a b c
      onHeap (Datum.rawItem v s)
    | .getItem o k =>
      let v ← evalExpr fuel p o
      let kd ← evalExpr fuel p k
      onHeap (Datum.getItem v kd)
    | .slice a b c => evalSlice fuel p a b c
    | .call callee args kwargs star starStar =>
      let f ← evalExpr fuel p callee
      let (argv, kwv) ← evalArgs fuel p callName args kwargs star starStar []
      callValue fuel p f argv kwv
    | .filter v name args kwargs star starStar =>
      let value ← match v with
        | some v => evalExpr fuel p v
        | none => pure p.buffer
      filterValue fuel p value name args kwargs star starStar
    | .test v name args kwargs star starStar =>
      let value ← evalExpr fuel p v
      let (argv, kwv) ← evalArgs fuel p ("jinja2.tests.test_" ++ name ++ "()") args kwargs star starStar []
      if !testNames.contains name then
        throw (.runtime ("No test named " ++ quoteText name ++ " found."))
      return .bool (← onHeap (Datum.applyTest name value argv kwv))
    | .binary op a b =>
      let x ← evalExpr fuel p a
      let y ← evalExpr fuel p b
      onHeap (Datum.binary op x y)
    | .unary op a => do
      let x ← evalExpr fuel p a
      onHeap (Datum.negate op x)
    | .and a b =>
      let x ← evalExpr fuel p a
      if ← onHeap (Datum.truthy x) then evalExpr fuel p b else return x
    | .or a b =>
      let x ← evalExpr fuel p a
      if ← onHeap (Datum.truthy x) then return x else evalExpr fuel p b
    | .concat parts =>
      let vs ← evalList fuel p parts
      if !p.esc.volatile && p.esc.autoescape then onHeap (Datum.joinMarkup vs)
      else return .str (← onHeap (Datum.joinText vs))
    | .compare first rest =>
      let mut value ← evalExpr fuel p first
      for (op, x) in rest do
        let next ← evalExpr fuel p x
        if !(← onHeap (Datum.compareWith op value next)) then return .bool false
        value := next
      return .bool true
    | .cond t y n line =>
      let test ← evalExpr fuel p t
      if ← onHeap (Datum.truthy test) then evalExpr fuel p y
      else match n with
        | some n => evalExpr fuel p n
        | none => return .undefined ⟨false, "the inline if-expression on line " ++ toString line ++
            " in " ++ quoteText p.template ++ " evaluated to false and no else section was defined."⟩
    | .nsRef ns _ _ => return Datum.undefinedName ns

/-- Evaluates expressions in order. -/
def evalList : Nat → Place → List Expr → RenderM (List Datum)
  | 0, _, _ => throw tooDeep
  | fuel + 1, p, xs => do
    let mut out : Array Datum := #[]
    for x in xs do
      out := out.push (← evalExpr fuel p x)
    return out.toList

/-- Evaluates the parts of a slice. -/
def evalSlice : Nat → Place → Option Expr → Option Expr → Option Expr → RenderM Datum
  | 0, _, _, _, _ => throw tooDeep
  | fuel + 1, p, a, b, c => do
    let a ← match a with
      | some x => evalExpr fuel p x
      | none => pure Datum.none
    let b ← match b with
      | some x => evalExpr fuel p x
      | none => pure Datum.none
    let c ← match c with
      | some x => evalExpr fuel p x
      | none => pure Datum.none
    return .slice a b c

/-- Evaluates the arguments of a call: the positional ones and those of `*`, then the
keyword ones, the extra ones given, and those of `**`. -/
def evalArgs : Nat → Place → String → List Expr → List (String × Expr) → Option Expr →
    Option Expr → List (String × Datum) → RenderM (List Datum × List (String × Datum))
  | 0, _, _, _, _, _, _, _ => throw tooDeep
  | fuel + 1, p, callee, args, kwargs, star, starStar, extra => do
    let mut argv ← evalList fuel p args
    if let some s := star then
      let sv ← evalExpr fuel p s
      argv := argv ++ (← onHeap (starArgs callee sv))
    let mut kwv : List (String × Datum) := []
    for (k, x) in kwargs do
      kwv := kwv ++ [(k, ← evalExpr fuel p x)]
    kwv := kwv ++ extra
    if let some s := starStar then
      let sv ← evalExpr fuel p s
      for (k, x) in ← onHeap (mappingArgs callee sv) do
        if kwv.any (·.1 == k) then
          throw (.typeError (callee ++ " got multiple values for keyword argument " ++ quoteText k))
        kwv := kwv ++ [(k, x)]
    return (argv, kwv)

/-- Applies a filter to a value, evaluating its arguments. -/
def filterValue : Nat → Place → Datum → String → List Expr → List (String × Expr) →
    Option Expr → Option Expr → RenderM Datum
  | 0, _, _, _, _, _, _, _ => throw tooDeep
  | fuel + 1, p, value, name, args, kwargs, star, starStar => do
    let (argv, kwv) ← evalArgs fuel p ("jinja2.filters.do_" ++ name ++ "()") args kwargs star starStar []
    if !filterNames.contains name then
      throw (.runtime ("No filter named " ++ quoteText name ++ " found."))
    let escapes ← contextEscapes p.ctx
    onHeap (Datum.applyFilter { autoescape := escapes } filterFuel name value argv kwv)

/-- Reads ahead in a filtered loop before a property that needs it: the next item for
`last` and `nextitem`, all the rest for the length. -/
def prepareLoopAttr : Nat → Datum → String → RenderM Unit
  | 0, _, _ => throw tooDeep
  | fuel + 1, v, name => do
    match v with
    | .obj a =>
      match ← onHeap (Heap.get a) with
      | .loop st =>
        if st.filter.isNone then return
        if name == "last" || name == "nextitem" then
          if st.after.isNone then
            if let some x ← pullLoop fuel a then
              let st ← getLoop a
              setLoop a { st with after := some x }
        else if name == "length" || name == "revindex" || name == "revindex0" then
          if st.length.isNone then
            let mut rest : Array Datum := #[]
            for _ in [0:Datum.streamLimit] do
              match ← pullLoop fuel a with
              | some x => rest := rest.push x
              | none => break
            let st ← getLoop a
            setLoop a { st with source := .items rest.toList, filter := none }
      | _ => pure ()
    | _ => pure ()

/-- The next item a loop's source gives: the next of its items, or, in a filtered loop, the
next that passes the test. -/
def pullLoop : Nat → Nat → RenderM (Option Datum)
  | 0, _ => throw tooDeep
  | fuel + 1, a => do
    let st ← getLoop a
    match st.filter with
    | none =>
      match ← onHeap st.source.next with
      | some (x, s) =>
        setLoop a { st with source := s }
        return some x
      | none => return none
    | some flt =>
      let tctx := (← getActivation flt.activation).context
      let tp : Place :=
        { act := flt.activation, ctx := tctx, esc := flt.escaping, template := flt.template }
      for _ in [0:Datum.streamLimit] do
        let st ← getLoop a
        match ← onHeap st.source.next with
        | none => return none
        | some (x, s) =>
          setLoop a { st with source := s }
          bindTarget tp nestingFuel flt.target x
          let ok ← evalExpr fuel tp flt.test
          if ← onHeap (Datum.truthy ok) then return some x
      return none

/-- Moves a loop to its next item. -/
def nextLoopItem : Nat → Nat → RenderM (Option Datum)
  | 0, _ => throw tooDeep
  | fuel + 1, a => do
    let st ← getLoop a
    let item ← match st.after with
      | some x => do
        setLoop a { st with after := none }
        pure (some x)
      | none => pullLoop fuel a
    match item with
    | some x =>
      let st ← getLoop a
      setLoop a { st with index0 := st.index0 + 1, before := st.current, current := some x }
      return some x
    | none => return none

/-- Calls a value. -/
def callValue : Nat → Place → Datum → List Datum → List (String × Datum) → RenderM Datum
  | 0, _, _, _, _ => throw tooDeep
  | fuel + 1, p, f, argv, kwv => do
    match f with
    | .undefined u => throw (Datum.undefinedFailure u)
    | .builtin b => onHeap (Datum.callBuiltin b argv kwv)
    | .method recv name => onHeap (Datum.callMethod recv name argv kwv)
    | .obj a =>
      match ← onHeap (Heap.get a) with
      | .callable m => invokeMacro fuel m argv kwv (← contextEscapes p.ctx)
      | .loop st =>
        let sig : Signature :=
          { name := "LoopContext.__call__", params := ["self", "iterable"], required := 2 }
        let b ← onHeap (sig.bind (f :: argv) kwv)
        match st.recursion with
        | none => throw (.typeError "The loop must be marked as recursive to be used as a function.")
        | some r =>
          let octx := (← getActivation r.activation).context
          let outer : Place :=
            { act := r.activation, ctx := octx, esc := r.escaping, template := r.template }
          runRecursive fuel outer r.stmt (b.get 1 .none) (st.depth0 + 1)
      | .blockRef _ c stack depth =>
        let sig : Signature := { name := "BlockReference.__call__", params := ["self"], required := 1 }
        let _ ← onHeap (sig.bind (f :: argv) kwv)
        match stack[depth]? with
        | some blk =>
          let chunks ← renderBlock fuel blk c
          let text ← onHeap (Datum.joinChunks chunks.toList)
          return if ← contextEscapes c then .markup text else .str text
        | none => throw (.host "IndexError" "list index out of range")
      | .joiner sep used =>
        let sig : Signature := { name := "Joiner.__call__", params := ["self"], required := 1 }
        let _ ← onHeap (sig.bind (f :: argv) kwv)
        if used then return sep
        onHeap (Heap.set a (.joiner sep true))
        return .str ""
      | _ => throw (← onHeap (notCallable f))
    | _ => throw (← onHeap (notCallable f))

/-- Calls a callable the template defines: binds its arguments as it declares them, then
renders its body; the result is safe text when output is escaped where it is called. -/
def invokeMacro : Nat → MacroDef → List Datum → List (String × Datum) → Bool → RenderM Datum
  | 0, _, _, _, _ => throw tooDeep
  | fuel + 1, m, argv, kwv, escapes => do
    let shown := (m.name.map quoteText).getD "None"
    let count := m.params.length
    let mut arguments : List (Option Datum) := (argv.take count).map some
    let mut kw := kwv
    let mut foundCaller := false
    if arguments.length != count then
      for name in m.params.drop arguments.length do
        match kw.lookup name with
        | some v =>
          arguments := arguments ++ [some v]
          kw := kw.filter (·.1 != name)
        | none => arguments := arguments ++ [none]
        if name == "caller" then foundCaller := true
    else
      foundCaller := m.params.contains "caller"
    let mut callerArg : Option Datum := none
    if m.usesCaller && !foundCaller then
      let given := kw.lookup "caller"
      kw := kw.filter (·.1 != "caller")
      callerArg := match given with
        | some .none | none => some (Datum.strictUndefined "No caller defined")
        | some v => some v
    let mut kwargsArg : Option Datum := none
    if m.usesKwargs then
      kwargsArg := some (← onHeap (Datum.newDict (kw.map fun (k, v) => (Datum.str k, v)).toArray))
    else if let (k, _) :: _ := kw then
      if kw.any (·.1 == "caller") then
        throw (.typeError ("macro " ++ shown ++ " was invoked with two values for the special " ++
          "caller argument. This is most likely a bug."))
      throw (.typeError ("macro " ++ shown ++ " takes no keyword argument " ++ quoteText k))
    let mut varargsArg : Option Datum := none
    if m.usesVarargs then
      varargsArg := some (.tuple (argv.drop count))
    else if argv.length > count then
      throw (.typeError ("macro " ++ shown ++ " takes not more than " ++ toString count ++
        " argument(s)"))
    let act ← newActivation m.entry.level (some m.closure) m.context
    let level := m.entry.level
    for (name, arg) in m.params.zip arguments do
      if let some v := arg then writeVar act level name v
    if let some v := callerArg then writeVar act level "caller" v
    if let some v := kwargsArg then writeVar act level "kwargs" v
    if let some v := varargsArg then writeVar act level "varargs" v
    let p : Place := { act, ctx := m.context, esc := m.escaping, template := m.template }
    enterScope p m.entry
    let mut idx := 0
    for (name, arg) in m.params.zip arguments do
      if arg.isNone then
        let back := count - idx
        if back ≤ m.defaults.length then
          let d := m.defaults[m.defaults.length - back]!
          writeVar act level name (← evalExpr fuel p d)
        else
          writeVar act level name
            (Datum.strictUndefined ("parameter " ++ quoteText name ++ " was not provided"))
      idx := idx + 1
    let chunks ← execStmts fuel p m.body
    let text ← onHeap (Datum.joinChunks chunks.toList)
    return if escapes then .markup text else .str text

/-- Runs a recursive loop over an iterable at a depth: its own activation, nested in the one
the loop stands in, renders the loop, and the output is its value. -/
def runRecursive : Nat → Place → Stmt → Datum → Nat → RenderM Datum
  | 0, _, _, _, _ => throw tooDeep
  | fuel + 1, outer, stmt, iterValue, depth => do
    match stmt with
    | .forLoop _ _ _ _ _ _ bodyEntry _ _ _ =>
      let act ← newActivation bodyEntry.level (some outer.act) outer.ctx
      let inner := { outer with act }
      let rec_ : Recursion :=
        { stmt, activation := outer.act, escaping := outer.esc, template := outer.template }
      let chunks ← runLoop fuel inner stmt iterValue depth (some rec_)
      joinedOutput outer chunks
    | _ => return .str ""

/-- Runs a loop over an iterable. -/
def runLoop : Nat → Place → Stmt → Datum → Nat → Option Recursion → RenderM (Array Datum)
  | 0, _, _, _, _, _ => throw tooDeep
  | fuel + 1, p, stmt, iterValue, depth, rec_ => do
    match stmt with
    | .forLoop target _ body orElse test _ bodyEntry elseEntry testEntry withState =>
      let level := bodyEntry.level
      let source ← onHeap (Datum.toStream iterValue)
      let filter ← match test with
        | some t => do
          let ta ← newActivation testEntry.level (some p.act) p.ctx
          enterScope { p with act := ta } testEntry
          let flt : LoopFilter :=
            { target, test := t, activation := ta, escaping := p.esc, template := p.template }
          pure (some flt)
        | none => pure none
      let st : LoopState :=
        { iterable := if test.isSome then none else some iterValue, source,
          recursion := rec_, depth0 := depth, filter }
      let addr ← onHeap (Heap.alloc (.loop st))
      if withState then clearVar p.act level "loop"
      let mut out : Array Datum := #[]
      let mut iterated := false
      for _ in [0:Datum.streamLimit] do
        match ← nextLoopItem fuel addr with
        | none => break
        | some x =>
          iterated := true
          bindTarget p nestingFuel target x
          if withState then writeVar p.act level "loop" (.obj addr)
          enterScope p bodyEntry
          out := out ++ (← execStmts fuel p body)
      leaveScope p bodyEntry
      if !iterated && !orElse.isEmpty then
        enterScope p elseEntry
        out := out ++ (← execStmts fuel p orElse)
        leaveScope p elseEntry
      return out
    | _ => return #[]

/-- Renders statements. -/
def execStmts : Nat → Place → List Stmt → RenderM (Array Datum)
  | 0, _, _ => throw tooDeep
  | fuel + 1, p, stmts => do
    let mut out : Array Datum := #[]
    for s in stmts do
      out := out ++ (← execStmt fuel p s)
    return out

/-- Renders a statement: the chunks of output it gives. -/
def execStmt : Nat → Place → Stmt → RenderM (Array Datum)
  | 0, _, _ => throw tooDeep
  | fuel + 1, p, st => do
    match st with
    | .output pieces guarded =>
      if guarded && (← extendedFrom chainFuel p.act).isSome then return #[]
      let mut out : Array Datum := #[]
      for piece in pieces do
        match piece with
        | .text t => out := out.push (.str t)
        | .expr e => out := out.push (← printValue p (← evalExpr fuel p e))
      return out
    | .forLoop _ iter _ _ _ recursive _ _ _ _ =>
      let iterValue ← evalExpr fuel p iter
      if recursive then return #[← runRecursive fuel p st iterValue 0]
      runLoop fuel p st iterValue 0 none
    | .ifThen test body elifs orElse =>
      if ← onHeap (Datum.truthy (← evalExpr fuel p test)) then return ← execStmts fuel p body
      for (t, b) in elifs do
        if ← onHeap (Datum.truthy (← evalExpr fuel p t)) then return ← execStmts fuel p b
      execStmts fuel p orElse
    | .assign target value exported =>
      checkNamespaces p nestingFuel target
      let v ← evalExpr fuel p value
      bindTarget p nestingFuel target v
      if exported then exportTarget p target
      return #[]
    | .assignBlock target filter body exported entry =>
      enterScope p entry
      let chunks ← execStmts fuel p body
      checkNamespaces p nestingFuel target
      let v ← match filter with
        | some f => do
          let buffered ← joinedOutput p chunks
          evalExpr fuel { p with buffer := buffered } f
        | none => pure (.str (← onHeap (Datum.joinChunks chunks.toList)))
      let v ← if ← contextEscapes p.ctx then markSafe v else pure v
      bindTarget p nestingFuel target v
      if exported then exportTarget p target
      leaveScope p entry
      return #[]
    | .block bname isScoped required _ guarded locals =>
      if guarded && (← extendedFrom chainFuel p.act).isSome then return #[]
      let c ← if isScoped then derivedContext p.ctx (← localValues p locals) else pure p.ctx
      let x ← getContext c
      let stack := (x.blocks.lookup bname).getD []
      if required && stack.length ≤ 1 then
        throw (.runtime ("Required block " ++ quoteText bname ++ " not found"))
      match stack with
      | blk :: _ => renderBlock fuel blk c
      | [] => throw (.host "KeyError" (quoteText bname))
    | .extend template checkTwice =>
      if checkTwice && (← extendedFrom chainFuel p.act).isSome then
        throw (.runtime "extended multiple times")
      let prog ← loadNamed (← evalExpr fuel p template)
      let x ← getContext p.ctx
      let blocks := prog.blocks.foldl (fun bs b =>
        if bs.any (·.1 == b.name) then bs.map fun (n, stack) => if n == b.name then (n, stack ++ [b]) else (n, stack)
        else bs ++ [(b.name, [b])]) x.blocks
      setContext p.ctx { x with blocks }
      let a ← getActivation p.act
      onHeap (Heap.set p.act (.activation { a with extended := some prog.name }))
      return #[]
    | .stop message => throw (.runtime message)
    | .include template ignoreMissing withContext locals =>
      let v ← evalExpr fuel p template
      let prog ← tryCatch (some <$> includeTemplate v) fun e =>
        if ignoreMissing && isNotFound e then pure none else throw e
      match prog with
      | none => return #[]
      | some prog =>
        if withContext then
          let c ← newContext prog (← contextAll p.ctx) true (← localValues p locals)
          renderRoot fuel prog c
        else
          match ← defaultModule fuel prog with
          | .obj a =>
            match ← onHeap (Heap.get a) with
            | .module _ _ body => return body.toArray
            | _ => return #[]
          | _ => return #[]
    | .importAs template target withContext level exported locals =>
      let prog ← loadNamed (← evalExpr fuel p template)
      let module ← if withContext then
          makeModule fuel prog (← contextAll p.ctx) true (← localValues p locals)
        else defaultModule fuel prog
      writeVar p.act level target module
      if exported then
        contextSet p.ctx target module (if target.startsWith "_" then none else some false)
      return #[]
    | .fromImport template names withContext line levels exported locals =>
      let prog ← loadNamed (← evalExpr fuel p template)
      let module ← if withContext then
          makeModule fuel prog (← contextAll p.ctx) true (← localValues p locals)
        else defaultModule fuel prog
      let exports ← match module with
        | .obj a => do
          match ← onHeap (Heap.get a) with
          | .module _ es _ => pure es
          | _ => pure []
        | _ => pure []
      for ((name, asName), level) in names.zip levels do
        let v := (exports.lookup name).getD (Datum.strictUndefined ("the template " ++
          quoteText prog.name ++ " (imported on line " ++ toString line ++ " in " ++
          quoteText p.template ++ ") does not export the requested name " ++ quoteText name))
        writeVar p.act level asName v
      if exported then
        for ((_, asName), level) in names.zip levels do
          if let some v ← readVar chainFuel p.act level asName then
            contextSet p.ctx asName v (if asName.startsWith "_" then none else some false)
      return #[]
    | .define cname params defaults body level exported entry usesCaller usesKwargs usesVarargs =>
      let m : MacroDef :=
        { name := some cname, params, defaults, body, entry, usesCaller, usesKwargs,
          usesVarargs, escaping := p.esc, closure := p.act, context := p.ctx,
          template := p.template }
      let v := Datum.obj (← onHeap (Heap.alloc (.callable m)))
      if exported then
        contextSet p.ctx cname v (if cname.startsWith "_" then none else some true)
      writeVar p.act level cname v
      return #[]
    | .callBlock params defaults call body entry usesCaller usesKwargs usesVarargs =>
      let m : MacroDef :=
        { name := none, params, defaults, body, entry, usesCaller, usesKwargs, usesVarargs,
          escaping := p.esc, closure := p.act, context := p.ctx, template := p.template }
      let caller := Datum.obj (← onHeap (Heap.alloc (.callable m)))
      match call with
      | .call callee args kwargs star starStar =>
        let f ← evalExpr fuel p callee
        let (argv, kwv) ← evalArgs fuel p callName args kwargs star starStar [("caller", caller)]
        return #[← callValue fuel p f argv kwv]
      | _ => return #[]
    | .filterBlock filter body entry =>
      enterScope p entry
      let chunks ← execStmts fuel p body
      let buffered ← joinedOutput p chunks
      let v ← evalExpr fuel { p with buffer := buffered } filter
      leaveScope p entry
      return #[v]
    | .withBlock targets values body entry =>
      enterScope p entry
      for (t, v) in targets.zip values do
        let x ← evalExpr fuel p v
        bindTarget p nestingFuel t x
      let out ← execStmts fuel p body
      leaveScope p entry
      return out
    | .scope body entry =>
      enterScope p entry
      let out ← execStmts fuel p body
      leaveScope p entry
      return out
    | .autoescape value body escaping =>
      let x ← getContext p.ctx
      let saved := x.autoescape
      let on ← onHeap (Datum.truthy (← evalExpr fuel p value))
      setContext p.ctx { (← getContext p.ctx) with autoescape := on }
      let out ← execStmts fuel { p with esc := escaping } body
      setContext p.ctx { (← getContext p.ctx) with autoescape := saved }
      return out

/-- Renders a block in a context. -/
def renderBlock : Nat → BlockDef → Nat → RenderM (Array Datum)
  | 0, _, _ => throw tooDeep
  | fuel + 1, blk, c => do
    let act ← newActivation 0 none c
    let p : Place := { act, ctx := c, template := blk.template }
    if blk.usesSelf then writeVar act 0 "self" (.obj (← onHeap (Heap.alloc (.templateRef c))))
    if blk.usesSuper then
      let x ← getContext c
      let stack := (x.blocks.lookup blk.name).getD []
      let here := (stack.findIdx? fun b => b.template == blk.template).getD stack.length
      let sup ← if here + 1 < stack.length then
          pure (Datum.obj (← onHeap (Heap.alloc (.blockRef blk.name c stack (here + 1)))))
        else pure (Datum.strictUndefined ("there is no parent block called " ++ quoteText blk.name ++ "."))
      writeVar act 0 "super" sup
    enterScope p blk.entry
    execStmts fuel p blk.body

/-- Renders the top level of a template in a context, then the template it extended. -/
def renderRoot : Nat → Program → Nat → RenderM (Array Datum)
  | 0, _, _ => throw tooDeep
  | fuel + 1, prog, c => do
    let act ← newActivation 0 none c
    let p : Place := { act, ctx := c, template := prog.name }
    if prog.usesSelf then writeVar act 0 "self" (.obj (← onHeap (Heap.alloc (.templateRef c))))
    enterScope p prog.entry
    let out ← execStmts fuel p prog.body
    if !prog.hasExtends then return out
    match (← getActivation act).extended with
    | some parent => return out ++ (← renderRoot fuel (← loadProgram parent) c)
    | none => return out

/-- Renders a template as a module: its output and the names it exports. -/
def makeModule : Nat → Program → List (String × Datum) → Bool → List (String × Datum) →
    RenderM Datum
  | 0, _, _, _, _ => throw tooDeep
  | fuel + 1, prog, vars, shared, locals => do
    let c ← newContext prog vars shared locals
    let chunks ← renderRoot fuel prog c
    let x ← getContext c
    let exports := x.exported.filterMap fun n => (x.vars.lookup n).map fun v => (n, v)
    return .obj (← onHeap (Heap.alloc (.module prog.name exports chunks.toList)))

/-- The module of a template imported without context, rendered once. -/
def defaultModule : Nat → Program → RenderM Datum
  | 0, _ => throw tooDeep
  | fuel + 1, prog => do
    match (← get).modules.lookup prog.name with
    | some m => return m
    | none =>
      let m ← makeModule fuel prog [] false []
      modify fun s => { s with modules := (prog.name, m) :: s.modules }
      return m
end

/-- Renders a compiled template with the variables it is given: its output. -/
def renderProgram (prog : Program) (vars : List (String × Datum)) : RenderM String := do
  let c ← newContext prog vars false []
  let chunks ← renderRoot renderFuel prog c
  onHeap (Datum.joinChunks chunks.toList)

end NodeImage.Template
