import NodeImage.Template.Lexer
import NodeImage.Template.Syntax

/-!
# Parsing templates

The parser reads the tokens of a template into statements. Expressions are parsed by
precedence, loosest first: the inline `if`, `or`, `and`, `not`, comparisons (with `in` and
`not in`), `+` and `-`, `~`, `*`, `/`, `//` and `%`, `**`, the unary signs, and last the
primaries with their member access, items, calls, filters and tests. Expressions separated
by commas form a tuple where a tuple is allowed.

Statements are `for`, `if`, `set`, `block`, `extends`, `include`, `import`, `from`,
`macro`, `call`, `filter`, `with`, `autoescape` and `print`. The parser keeps the end tags
it is looking for and the statements still open, so that a misplaced or missing end tag is
reported with both.

Tokens are consumed one at a time, and an error of the reader is met only when the parser
moves onto the token that failed. Every parsing function takes a fuel argument bounding its
recursion; the fuel given grows with the number of tokens, and a level of nesting consumes
at least one token, so a template that parses never exhausts it.
-/

namespace NodeImage.Template

/-- The parser's state: the tokens with the position reached and the error that ends them,
the statements open and the end tags looked for, innermost first. -/
structure ParserState where
  tokens : Array Token
  lines : Array Nat
  stop : Option Failure
  pos : Nat := 0
  tags : List String := []
  ends : List (List String) := []

/-- Parsing, which fails with a template error. -/
abbrev ParseM := StateT ParserState (Except Failure)

namespace Parser

/-- The current token. -/
def current : ParseM Token := do
  let s ← get
  return s.tokens.getD s.pos .eof

/-- Moves to the next token; at the end it stays, and a token the reader failed on raises
its error. -/
def advance : ParseM Unit := do
  let s ← get
  match s.tokens[s.pos]? with
  | some .eof => pure ()
  | _ =>
    if s.pos + 1 < s.tokens.size then set { s with pos := s.pos + 1 }
    else throw (s.stop.getD (.malformed "unexpected end of tokens" none))

/-- The line of the current token. -/
def line : ParseM Nat := do
  let s ← get
  return s.lines.getD s.pos (s.lines.back?.getD 1)

/-- The current token, moving past it. -/
def next : ParseM Token := do
  let t ← current
  advance
  return t

/-- The token after the current one. -/
def look : ParseM Token := do
  let s ← get
  match s.tokens[s.pos]? with
  | some .eof => return .eof
  | _ =>
    match s.tokens[s.pos + 1]? with
    | some t => return t
    | none => throw (s.stop.getD (.malformed "unexpected end of tokens" none))

/-- Fails with a syntax error. -/
def fail {α : Type} (message : String) : ParseM α := throw (.malformed message none)

/-- Moves past the current token when it passes a test. -/
def skipIf (e : String) : ParseM Bool := do
  if (← current).test e then advance; return true
  return false

/-- Moves past the current token, which must pass a test. -/
def expect (e : String) : ParseM Token := do
  let t ← current
  if t.test e then next
  else
    let want := describeExpectation e
    match t with
    | .eof => fail ("unexpected end of template, expected " ++ quoteText want ++ ".")
    | _ => fail ("expected token " ++ quoteText want ++ ", got " ++ quoteText t.describe)

/-- The name a name token holds. -/
def nameOf : Token → String
  | .name n => n
  | _ => ""

/-- Fails for an unknown tag (`some name`) or the end of the template (`none`), naming
the end tags looked for and the innermost open statement. -/
def failUnknownOrEnd {α : Type} (name : Option String) (stack : List (List String)) : ParseM α := do
  let expected := stack.flatMap fun es => es.map describeExpectation
  let looking := match stack with
    | innermost :: _ => some (" or ".intercalate (innermost.map fun e => quoteText (describeExpectation e)))
    | [] => none
  let first := match name with
    | none => "Unexpected end of template."
    | some n => "Encountered unknown tag " ++ quoteText n ++ "."
  let middle := match looking with
    | some l =>
      if l.isEmpty then []
      else match name with
        | some n =>
          if expected.contains n then
            ["You probably made a nesting mistake. Jinja is expecting this tag, but currently looking for " ++ l ++ "."]
          else ["Jinja was looking for the following tags: " ++ l ++ "."]
        | none => ["Jinja was looking for the following tags: " ++ l ++ "."]
    | none => []
  let tags := (← get).tags
  let last := match tags with
    | t :: _ => ["The innermost block that needs to be closed is " ++ quoteText t ++ "."]
    | [] => []
  fail (" ".intercalate (first :: middle ++ last))

/-- Whether the current token ends a tuple. -/
def isTupleEnd (extra : List String) : ParseM Bool := do
  let t ← current
  return t.testAny ["variable_end", "block_end", "rparen"] || t.testAny extra

/-- Checks that an expression can be assigned to. -/
def checkTarget (e : Expr) : ParseM Expr :=
  if e.canAssign then pure e else fail ("can't assign to " ++ quoteText e.kindName)

/-- Whether the current token is `with` or `without` followed by `context`. -/
def atContextClause : ParseM Bool := do
  let t ← current
  let word := match t with
    | .name n => n
    | .str s => s
    | _ => ""
  if word == "with" || word == "without" then
    return (← look).isName "context"
  return false

/-- Reads an optional `with context` or `without context`. -/
def contextClause (default : Bool) : ParseM Bool := do
  let t ← current
  if t.isName "with" || t.isName "without" then
    if (← look).isName "context" then
      let w ← next
      advance
      return w.isName "with"
  return default

/-- The comparison operator of a token. -/
def compareOp? : Token → Option CmpOp
  | .op .eq => some .eq
  | .op .ne => some .ne
  | .op .lt => some .lt
  | .op .lteq => some .lteq
  | .op .gt => some .gt
  | .op .gteq => some .gteq
  | _ => none

/-- The failure of running out of fuel, which a template never reaches. -/
def outOfFuel {α : Type} : ParseM α := fail "template nested too deeply"

/-- Arguments of a call, filter or test: positional, keyword, `*` and `**`. -/
structure CallArgs where
  args : List Expr := []
  kwargs : List (String × Expr) := []
  star : Option Expr := none
  starStar : Option Expr := none

mutual

/-- `expression`: an inline conditional unless `withCond` is false. -/
def expression : Nat → Bool → ParseM Expr
  | 0, _ => outOfFuel
  | n + 1, withCond => if withCond then condExpr n else orExpr n

/-- `a if b else c`, nesting to the right. -/
def condExpr : Nat → ParseM Expr
  | 0 => outOfFuel
  | n + 1 => do
    let start ← line
    let first ← orExpr n
    condTail n first start

/-- The `if … else …` parts after an expression; `start` is the line the next conditional
is reported on. -/
def condTail : Nat → Expr → Nat → ParseM Expr
  | 0, _, _ => outOfFuel
  | n + 1, yes, start => do
    if ← skipIf "name:if" then
      let test ← orExpr n
      let no ← if ← skipIf "name:else" then some <$> condExpr n else pure none
      condTail n (.cond test yes no start) (← line)
    else return yes

/-- `a or b`. -/
def orExpr : Nat → ParseM Expr
  | 0 => outOfFuel
  | n + 1 => do orTail n (← andExpr n)

/-- The `or` parts after an operand. -/
def orTail : Nat → Expr → ParseM Expr
  | 0, _ => outOfFuel
  | n + 1, left => do
    if ← skipIf "name:or" then orTail n (.or left (← andExpr n)) else return left

/-- `a and b`. -/
def andExpr : Nat → ParseM Expr
  | 0 => outOfFuel
  | n + 1 => do andTail n (← notExpr n)

/-- The `and` parts after an operand. -/
def andTail : Nat → Expr → ParseM Expr
  | 0, _ => outOfFuel
  | n + 1, left => do
    if ← skipIf "name:and" then andTail n (.and left (← notExpr n)) else return left

/-- `not a`, or a comparison. -/
def notExpr : Nat → ParseM Expr
  | 0 => outOfFuel
  | n + 1 => do
    if (← current).isName "not" then
      advance
      return .unary .not (← notExpr n)
    compareExpr n

/-- A chain of comparisons. -/
def compareExpr : Nat → ParseM Expr
  | 0 => outOfFuel
  | n + 1 => do
    let first ← math1 n
    let ops ← compareOps n []
    return if ops.isEmpty then first else .compare first ops

/-- The comparison operators and operands after the first operand. -/
def compareOps : Nat → List (CmpOp × Expr) → ParseM (List (CmpOp × Expr))
  | 0, _ => outOfFuel
  | n + 1, acc => do
    let t ← current
    match compareOp? t with
    | some op =>
      advance
      compareOps n (acc ++ [(op, ← math1 n)])
    | none =>
      if ← skipIf "name:in" then compareOps n (acc ++ [(.isIn, ← math1 n)])
      else if t.isName "not" && (← look).isName "in" then
        advance; advance
        compareOps n (acc ++ [(.notIn, ← math1 n)])
      else return acc

/-- `a + b` and `a - b`. -/
def math1 : Nat → ParseM Expr
  | 0 => outOfFuel
  | n + 1 => do math1Tail n (← concatExpr n)

/-- The `+` and `-` parts after an operand. -/
def math1Tail : Nat → Expr → ParseM Expr
  | 0, _ => outOfFuel
  | n + 1, left => do
    match ← current with
    | .op .add => advance; math1Tail n (.binary .add left (← concatExpr n))
    | .op .sub => advance; math1Tail n (.binary .sub left (← concatExpr n))
    | _ => return left

/-- `a ~ b ~ c`. -/
def concatExpr : Nat → ParseM Expr
  | 0 => outOfFuel
  | n + 1 => do
    let first ← math2 n
    let rest ← concatParts n []
    return if rest.isEmpty then first else .concat (first :: rest)

/-- The operands after `~`s. -/
def concatParts : Nat → List Expr → ParseM (List Expr)
  | 0, _ => outOfFuel
  | n + 1, acc => do
    match ← current with
    | .op .tilde => advance; concatParts n (acc ++ [← math2 n])
    | _ => return acc

/-- `*`, `/`, `//` and `%`. -/
def math2 : Nat → ParseM Expr
  | 0 => outOfFuel
  | n + 1 => do math2Tail n (← powExpr n)

/-- The `*`, `/`, `//` and `%` parts after an operand. -/
def math2Tail : Nat → Expr → ParseM Expr
  | 0, _ => outOfFuel
  | n + 1, left => do
    let op? : Option BinOp := match ← current with
      | .op .mul => some .mul
      | .op .div => some .div
      | .op .floordiv => some .floorDiv
      | .op .mod => some .mod
      | _ => none
    match op? with
    | some op => advance; math2Tail n (.binary op left (← powExpr n))
    | none => return left

/-- `a ** b`, grouping to the left. -/
def powExpr : Nat → ParseM Expr
  | 0 => outOfFuel
  | n + 1 => do powTail n (← unary n true)

/-- The `**` parts after an operand. -/
def powTail : Nat → Expr → ParseM Expr
  | 0, _ => outOfFuel
  | n + 1, left => do
    match ← current with
    | .op .pow => advance; powTail n (.binary .pow left (← unary n true))
    | _ => return left

/-- A unary sign, a primary, its member access, items and calls, and its filters and tests if `withFilter`. -/
def unary : Nat → Bool → ParseM Expr
  | 0, _ => outOfFuel
  | n + 1, withFilter => do
    let node ← match ← current with
      | .op .sub => do advance; pure (Expr.unary .neg (← unary n false))
      | .op .add => do advance; pure (Expr.unary .pos (← unary n false))
      | _ => primary n false
    let node ← trailers n node
    if withFilter then filterExpr n node else return node

/-- A primary: a constant, a name, a text, a number, a parenthesized tuple, a list or a
mapping. -/
def primary : Nat → Bool → ParseM Expr
  | 0, _ => outOfFuel
  | n + 1, withNamespace => do
    let t ← current
    match t with
    | .name w =>
      if w == "true" || w == "True" then advance; return .lit (.bool true)
      else if w == "false" || w == "False" then advance; return .lit (.bool false)
      else if w == "none" || w == "None" then advance; return .lit .none
      else if withNamespace && (match ← look with | .op .dot => true | _ => false) then
        advance
        advance
        let attr ← expect "name"
        return .nsRef w (nameOf attr) 0
      else advance; return .name w 0
    | .str s => do
      advance
      let rest ← strings n []
      return .lit (.str (String.join (s :: rest)))
    | .int i => advance; return .lit (.int i)
    | .float x => advance; return .lit (.float x)
    | .op .lparen =>
      advance
      let e ← tuple n false true [] true false
      let _ ← expect "rparen"
      return e
    | .op .lbracket => listExpr n
    | .op .lbrace => dictExpr n
    | _ => fail ("unexpected " ++ quoteText t.describe)

/-- Adjacent texts, joined. -/
def strings : Nat → List String → ParseM (List String)
  | 0, _ => outOfFuel
  | n + 1, acc => do
    match ← current with
    | .str s => advance; strings n (acc ++ [s])
    | _ => return acc

/-- A tuple or a single expression: of primaries if `simplified`, with the inline `if` if
`withCond`; `extra` are further tokens that end it, and `explicit` allows `()`. -/
def tuple : Nat → Bool → Bool → List String → Bool → Bool → ParseM Expr
  | 0, _, _, _, _, _ => outOfFuel
  | n + 1, simplified, withCond, extra, explicit, withNamespace => do
    let (items, isTuple) ← tupleItems n simplified withCond extra withNamespace [] false
    if !isTuple then
      match items with
      | [e] => return e
      | _ =>
        if !explicit then
          fail ("Expected an expression, got " ++ quoteText (← current).describe)
        return .tuple items
    return .tuple items

/-- The items of a tuple, and whether a comma made it one. -/
def tupleItems : Nat → Bool → Bool → List String → Bool → List Expr → Bool →
    ParseM (List Expr × Bool)
  | 0, _, _, _, _, _, _ => outOfFuel
  | n + 1, simplified, withCond, extra, withNamespace, acc, isTuple => do
    if !acc.isEmpty then let _ ← expect "comma"
    if ← isTupleEnd extra then return (acc, isTuple)
    let item ← if simplified then primary n withNamespace else expression n withCond
    let acc := acc ++ [item]
    match ← current with
    | .op .comma => tupleItems n simplified withCond extra withNamespace acc true
    | _ => return (acc, isTuple)

/-- A list `[a, b]`, with an optional trailing comma. -/
def listExpr : Nat → ParseM Expr
  | 0 => outOfFuel
  | n + 1 => do
    let _ ← expect "lbracket"
    let items ← listItems n []
    let _ ← expect "rbracket"
    return .list items

/-- The items of a list. -/
def listItems : Nat → List Expr → ParseM (List Expr)
  | 0, _ => outOfFuel
  | n + 1, acc => do
    if (← current).test "rbracket" then return acc
    if !acc.isEmpty then let _ ← expect "comma"
    if (← current).test "rbracket" then return acc
    listItems n (acc ++ [← expression n true])

/-- A mapping `{k: v}`, with an optional trailing comma. -/
def dictExpr : Nat → ParseM Expr
  | 0 => outOfFuel
  | n + 1 => do
    let _ ← expect "lbrace"
    let pairs ← dictItems n []
    let _ ← expect "rbrace"
    return .dict pairs

/-- The entries of a mapping. -/
def dictItems : Nat → List (Expr × Expr) → ParseM (List (Expr × Expr))
  | 0, _ => outOfFuel
  | n + 1, acc => do
    if (← current).test "rbrace" then return acc
    if !acc.isEmpty then let _ ← expect "comma"
    if (← current).test "rbrace" then return acc
    let k ← expression n true
    let _ ← expect "colon"
    let v ← expression n true
    dictItems n (acc ++ [(k, v)])

/-- Member access, items and calls after a primary. -/
def trailers : Nat → Expr → ParseM Expr
  | 0, _ => outOfFuel
  | n + 1, node => do
    match ← current with
    | .op .dot | .op .lbracket => trailers n (← subscript n node)
    | .op .lparen => trailers n (← call n node)
    | _ => return node

/-- Filters, tests and calls after an operand. -/
def filterExpr : Nat → Expr → ParseM Expr
  | 0, _ => outOfFuel
  | n + 1, node => do
    let t ← current
    match t with
    | .op .pipe => filterExpr n (← filterChain n (some node) false)
    | .op .lparen => filterExpr n (← call n node)
    | _ =>
      if t.isName "is" then filterExpr n (← testExpr n node) else return node

/-- `.name`, `.0` or `[…]` after an expression. -/
def subscript : Nat → Expr → ParseM Expr
  | 0, _ => outOfFuel
  | n + 1, node => do
    let t ← next
    match t with
    | .op .dot =>
      let a ← next
      match a with
      | .name m => return .getAttr node m
      | .int i => return .getItem node (.lit (.int i))
      | _ => fail "expected name or number"
    | _ =>
      let args ← subscribedItems n []
      let _ ← expect "rbracket"
      match args with
      | [a] => return .getItem node a
      | _ => return .getItem node (.tuple args)

/-- The subscripts inside brackets, separated by commas. -/
def subscribedItems : Nat → List Expr → ParseM (List Expr)
  | 0, _ => outOfFuel
  | n + 1, acc => do
    if (← current).test "rbracket" then return acc
    if !acc.isEmpty then let _ ← expect "comma"
    subscribedItems n (acc ++ [← subscribed n])

/-- One subscript: an expression or a slice `a:b:c` with any part left out. -/
def subscribed : Nat → ParseM Expr
  | 0 => outOfFuel
  | n + 1 => do
    let start ← if (← current).test "colon" then advance; pure none
      else
        let e ← expression n true
        if !(← current).test "colon" then return e
        advance
        pure (some e)
    let t ← current
    let stop ← if t.test "colon" then pure none
      else if t.testAny ["rbracket", "comma"] then pure none
      else some <$> expression n true
    let step ← if (← current).test "colon" then do
        advance
        if (← current).testAny ["rbracket", "comma"] then pure none
        else some <$> expression n true
      else pure none
    return .slice start stop step

/-- The arguments of a call in parentheses. -/
def callArgs : Nat → ParseM CallArgs
  | 0 => outOfFuel
  | n + 1 => do
    let _ ← expect "lparen"
    let a ← callArgItems n {} false
    let _ ← expect "rparen"
    return a

/-- Arguments until the closing parenthesis. -/
def callArgItems : Nat → CallArgs → Bool → ParseM CallArgs
  | 0, _, _ => outOfFuel
  | n + 1, acc, requireComma => do
    if (← current).test "rparen" then return acc
    let ensure := fun (ok : Bool) =>
      if ok then pure () else fail "invalid syntax for function call expression"
    if requireComma then
      let _ ← expect "comma"
      if (← current).test "rparen" then return acc
    let t ← current
    match t with
    | .op .mul =>
      ensure (acc.star.isNone && acc.starStar.isNone)
      advance
      callArgItems n { acc with star := some (← expression n true) } true
    | .op .pow =>
      ensure acc.starStar.isNone
      advance
      callArgItems n { acc with starStar := some (← expression n true) } true
    | .name key =>
      if (← look).test "assign" then
        ensure acc.starStar.isNone
        advance; advance
        let v ← expression n true
        callArgItems n { acc with kwargs := acc.kwargs ++ [(key, v)] } true
      else
        ensure (acc.star.isNone && acc.starStar.isNone && acc.kwargs.isEmpty)
        callArgItems n { acc with args := acc.args ++ [← expression n true] } true
    | _ =>
      ensure (acc.star.isNone && acc.starStar.isNone && acc.kwargs.isEmpty)
      callArgItems n { acc with args := acc.args ++ [← expression n true] } true

/-- A call of an expression. -/
def call : Nat → Expr → ParseM Expr
  | 0, _ => outOfFuel
  | n + 1, node => do
    let a ← callArgs n
    return .call node a.args a.kwargs a.star a.starStar

/-- A dotted filter or test name. -/
def dottedName : Nat → String → ParseM String
  | 0, _ => outOfFuel
  | n + 1, acc => do
    match ← current with
    | .op .dot =>
      advance
      let t ← expect "name"
      dottedName n (acc ++ "." ++ nameOf t)
    | _ => return acc

/-- Filters after `|`, or right away when `inline`. -/
def filterChain : Nat → Option Expr → Bool → ParseM Expr
  | 0, _, _ => outOfFuel
  | n + 1, node, inline => do
    if !inline then advance
    let t ← expect "name"
    let fname ← dottedName n (nameOf t)
    let a ← if (← current).test "lparen" then callArgs n else pure {}
    let node := Expr.filter node fname a.args a.kwargs a.star a.starStar
    if (← current).test "pipe" then filterChain n (some node) false else return node

/-- A test after `is`, with an optional `not`. -/
def testExpr : Nat → Expr → ParseM Expr
  | 0, _ => outOfFuel
  | n + 1, node => do
    advance
    let negated ← if (← current).isName "not" then advance; pure true else pure false
    let t ← expect "name"
    let tname ← dottedName n (nameOf t)
    let cur ← current
    let a : CallArgs ← if cur.test "lparen" then callArgs n
      else if cur.testAny ["name", "string", "integer", "float", "lparen", "lbracket", "lbrace"] &&
          !cur.testAny ["name:else", "name:or", "name:and"] then do
        if cur.isName "is" then fail "You cannot chain multiple tests with is"
        let arg ← primary n false
        let arg ← trailers n arg
        pure { args := [arg] }
      else pure {}
    let node := Expr.test node tname a.args a.kwargs a.star a.starStar
    return if negated then .unary .not node else node

end

/-- An assignment target: a name if `nameOnly`, else a tuple of primaries (or one
primary if not `withTuple`), with `ns.attr` allowed if `withNamespace`. -/
def assignTarget (n : Nat) (withTuple nameOnly : Bool) (extra : List String)
    (withNamespace : Bool) : ParseM Expr := do
  let target ← if nameOnly then do
      let t ← expect "name"
      pure (Expr.name (nameOf t) 0)
    else if withTuple then tuple n true true extra false withNamespace
    else primary n withNamespace
  checkTarget target

/-- The parameters and defaults of a callable definition in parentheses. -/
def signature (n : Nat) : ParseM (List String × List Expr) := do
  let _ ← expect "lparen"
  let rec params : Nat → List String → List Expr → ParseM (List String × List Expr)
    | 0, _, _ => outOfFuel
    | k + 1, ps, ds => do
      if (← current).test "rparen" then return (ps, ds)
      if !ps.isEmpty then let _ ← expect "comma"
      let arg ← assignTarget n true true [] false
      let name := match arg with
        | .name m _ => m
        | _ => ""
      if ← skipIf "assign" then
        let d ← expression n true
        params k (ps ++ [name]) (ds ++ [d])
      else if !ds.isEmpty then fail "non-default argument follows default argument"
      else params k (ps ++ [name]) ds
  let result ← params n [] []
  let _ ← expect "rparen"
  return result

/-- Whether statements are only text of white space. -/
def onlyBlankText (body : List Stmt) : Bool :=
  body.all fun s => match s with
    | .output pieces _ => pieces.all fun p => match p with
      | .text t => !t.isEmpty && t.all fun c => Lexer.isSpace c
      | .expr _ => false
    | _ => false

/-- The pieces of output gathered since the last statement, as an output statement. -/
def flush (body : List Stmt) (pieces : List Piece) : List Stmt :=
  if pieces.isEmpty then body else body ++ [.output pieces false]

/-- The fuel of statement parsing. -/
def statementKeywords : List String :=
  ["for", "if", "block", "extends", "print", "macro", "include", "from", "import", "set",
    "with", "autoescape"]

mutual

/-- Statements up to one of the end tags (or the end of the template), which is left
current. -/
def subparse : Nat → Option (List String) → ParseM (List Stmt)
  | 0, _ => outOfFuel
  | n + 1, endTokens => do
    if let some es := endTokens then modify fun s => { s with ends := es :: s.ends }
    let body ← subparseLoop n endTokens [] []
    if endTokens.isSome then modify fun s => { s with ends := s.ends.drop 1 }
    return body

/-- The loop of `subparse`: statements so far and output pieces not yet gathered. -/
def subparseLoop : Nat → Option (List String) → List Stmt → List Piece → ParseM (List Stmt)
  | 0, _, _, _ => outOfFuel
  | n + 1, endTokens, body, pieces => do
    let t ← current
    match t with
    | .eof => return flush body pieces
    | .data text =>
      advance
      let pieces := if text.isEmpty then pieces else pieces ++ [.text text]
      subparseLoop n endTokens body pieces
    | .variableBegin =>
      advance
      let e ← tuple n false true [] false false
      let _ ← expect "variable_end"
      subparseLoop n endTokens body (pieces ++ [.expr e])
    | .blockBegin =>
      let body := flush body pieces
      advance
      if let some es := endTokens then
        if (← current).testAny es then return body
      let stmts ← statement n
      let _ ← expect "block_end"
      subparseLoop n endTokens (body ++ stmts) []
    | _ => fail "internal parsing error"

/-- Statements up to end tags, after the rest of the opening tag; the end tag is left
current, or consumed if `dropNeedle`. -/
def statements : Nat → List String → Bool → ParseM (List Stmt)
  | 0, _, _ => outOfFuel
  | n + 1, endTokens, dropNeedle => do
    let _ ← skipIf "colon"
    let _ ← expect "block_end"
    let body ← subparse n (some endTokens)
    if (← current).test "eof" then
      let stack := (← get).ends
      failUnknownOrEnd none (endTokens :: stack)
    if dropNeedle then advance
    return body

/-- One statement after `{%`. -/
def statement : Nat → ParseM (List Stmt)
  | 0 => outOfFuel
  | n + 1 => do
    let t ← current
    let word ← match t with
      | .name w => pure w
      | _ => fail "tag name expected"
    if statementKeywords.contains word || word == "call" || word == "filter" then
      modify fun s => { s with tags := word :: s.tags }
      let result ← statementOf n word
      modify fun s => { s with tags := s.tags.drop 1 }
      return result
    else failUnknownOrEnd (some word) (← get).ends

/-- The statement a keyword starts. -/
def statementOf : Nat → String → ParseM (List Stmt)
  | 0, _ => outOfFuel
  | n + 1, word => do
    if word == "for" then
      advance
      let target ← assignTarget n true false ["name:in"] false
      let _ ← expect "name:in"
      let iter ← tuple n false false ["name:recursive"] false false
      let test ← if ← skipIf "name:if" then some <$> expression n true else pure none
      let recursive ← skipIf "name:recursive"
      let body ← statements n ["name:endfor", "name:else"] false
      let closing ← next
      let orElse ← if closing.isName "endfor" then pure []
        else statements n ["name:endfor"] true
      return [.forLoop target iter body orElse test recursive {} {} {} false]
    else if word == "if" then
      advance
      let test ← tuple n false false [] false false
      let body ← statements n ["name:elif", "name:else", "name:endif"] false
      let (elifs, orElse) ← ifRest n []
      return [.ifThen test body elifs orElse]
    else if word == "set" then
      advance
      let target ← assignTarget n true false [] true
      if ← skipIf "assign" then
        let value ← tuple n false true [] false false
        return [.assign target value false]
      let filter ← if (← current).test "pipe" then some <$> filterChain n none false else pure none
      let body ← statements n ["name:endset"] true
      return [.assignBlock target filter body false {}]
    else if word == "block" then
      advance
      let nameTok ← expect "name"
      let bname := nameOf nameTok
      let isScoped ← skipIf "name:scoped"
      let required ← skipIf "name:required"
      if (← current).test "sub" then
        fail ("Block names in Jinja have to be valid Python identifiers and may not contain " ++
          "hyphens, use an underscore instead.")
      let body ← statements n ["name:endblock"] true
      if required && !onlyBlankText body then
        fail "Required blocks can only contain comments or whitespace"
      let _ ← skipIf ("name:" ++ bname)
      return [.block bname isScoped required body false []]
    else if word == "extends" then
      advance
      return [.extend (← expression n true) false]
    else if word == "print" then
      advance
      let items ← printItems n []
      return [.output (items.map .expr) false]
    else if word == "macro" then
      advance
      let target ← assignTarget n true true [] false
      let cname := match target with
        | .name m _ => m
        | _ => ""
      let (params, defaults) ← signature n
      let body ← statements n ["name:endmacro"] true
      return [.define cname params defaults body 0 false {} false false false]
    else if word == "include" then
      advance
      let template ← expression n true
      let ignoreMissing ← if (← current).isName "ignore" then
          if (← look).isName "missing" then advance; advance; pure true else pure false
        else pure false
      let withContext ← contextClause true
      return [.include template ignoreMissing withContext []]
    else if word == "import" then
      advance
      let template ← expression n true
      let _ ← expect "name:as"
      let target ← assignTarget n true true [] false
      let tname := match target with
        | .name m _ => m
        | _ => ""
      let withContext ← contextClause false
      return [.importAs template tname withContext 0 false []]
    else if word == "from" then
      let start ← line
      advance
      let template ← expression n true
      let _ ← expect "name:import"
      let (names, withContext) ← importNames n []
      return [.fromImport template names (withContext.getD false) start [] false []]
    else if word == "with" then
      advance
      let (targets, values) ← withItems n [] []
      let body ← statements n ["name:endwith"] true
      return [.withBlock targets values body {}]
    else if word == "autoescape" then
      advance
      let value ← expression n true
      let body ← statements n ["name:endautoescape"] true
      return [.scope [.autoescape value body {}] {}]
    else if word == "call" then
      advance
      let (params, defaults) ← if (← current).test "lparen" then signature n else pure ([], [])
      let callExpr ← expression n true
      match callExpr with
      | .call _ _ _ _ _ =>
        let body ← statements n ["name:endcall"] true
        return [.callBlock params defaults callExpr body {} false false false]
      | _ => fail "expected call"
    else
      advance
      let filter ← filterChain n none true
      let body ← statements n ["name:endfilter"] true
      return [.filterBlock filter body {}]

/-- The `elif` and `else` parts of a conditional, after its first body. -/
def ifRest : Nat → List (Expr × List Stmt) → ParseM (List (Expr × List Stmt) × List Stmt)
  | 0, _ => outOfFuel
  | n + 1, elifs => do
    let t ← next
    if t.isName "elif" then
      let test ← tuple n false false [] false false
      let body ← statements n ["name:elif", "name:else", "name:endif"] false
      ifRest n (elifs ++ [(test, body)])
    else if t.isName "else" then
      let orElse ← statements n ["name:endif"] true
      return (elifs, orElse)
    else return (elifs, [])

/-- The expressions of a `print` statement. -/
def printItems : Nat → List Expr → ParseM (List Expr)
  | 0, _ => outOfFuel
  | n + 1, acc => do
    if (← current).test "block_end" then return acc
    if !acc.isEmpty then let _ ← expect "comma"
    printItems n (acc ++ [← expression n true])

/-- The names of a `from … import` statement, and its context clause. -/
def importNames : Nat → List (String × String) → ParseM (List (String × String) × Option Bool)
  | 0, _ => outOfFuel
  | n + 1, acc => do
    if !acc.isEmpty then let _ ← expect "comma"
    if (← current).test "name" then
      if ← atContextClause then
        let w ← next
        advance
        return (acc, some (w.isName "with"))
      let target ← assignTarget n true true [] false
      let tname := match target with
        | .name m _ => m
        | _ => ""
      if tname.startsWith "_" then
        throw (.assertion "names starting with an underline can not be imported")
      let entry ← if ← skipIf "name:as" then do
          let asName ← assignTarget n true true [] false
          pure (tname, match asName with
            | .name m _ => m
            | _ => "")
        else pure (tname, tname)
      let acc := acc ++ [entry]
      if ← atContextClause then
        let w ← next
        advance
        return (acc, some (w.isName "with"))
      if !(← current).test "comma" then return (acc, none)
      importNames n acc
    else
      let _ ← expect "name"
      return (acc, none)

/-- The targets and values of a `with` statement. -/
def withItems : Nat → List Expr → List Expr → ParseM (List Expr × List Expr)
  | 0, _, _ => outOfFuel
  | n + 1, targets, values => do
    if (← current).test "block_end" then return (targets, values)
    if !targets.isEmpty then let _ ← expect "comma"
    let target ← assignTarget n true false [] false
    let _ ← expect "assign"
    let value ← expression n true
    withItems n (targets ++ [target]) (values ++ [value])

end

end Parser

/-- Parses a template source into its statements. -/
def parse (source : String) : Except Failure Source :=
  let t := tokenize source
  match t.tokens[0]? with
  | none => .error (t.stop.getD (.malformed "empty template" none))
  | some _ =>
    let fuel := 64 * t.tokens.size + 64
    match (Parser.subparse fuel none).run { tokens := t.tokens, lines := t.lines, stop := t.stop } with
    | .ok (body, _) => .ok ⟨body⟩
    | .error f => .error f

end NodeImage.Template
