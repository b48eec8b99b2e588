/-!
# Tokens of templates

The tokens a template reads into: text between tags, the openings and closings of print
and statement tags, and inside tags names, quoted texts, integers, floats and operators.

Each token has a type name, and the parser's messages describe a token by it: an operator
by its symbol, a name by itself, the other kinds by words ("end of print statement",
"template data / text", "end of template"). The parser asks whether a token is of a type,
or for a name, whether it is a given word (`name:in`).
-/

namespace NodeImage.Template

/-- The operators. -/
inductive Operator where
  | add
  | sub
  | div
  | floordiv
  | mul
  | mod
  | pow
  | tilde
  | lbracket
  | rbracket
  | lparen
  | rparen
  | lbrace
  | rbrace
  | eq
  | ne
  | gt
  | gteq
  | lt
  | lteq
  | assign
  | dot
  | colon
  | pipe
  | comma
  | semicolon
deriving DecidableEq, Repr, Inhabited

namespace Operator

/-- The symbol of an operator. -/
def symbol : Operator → String
  | add => "+" | sub => "-" | div => "/" | floordiv => "//" | mul => "*" | mod => "%"
  | pow => "**" | tilde => "~" | lbracket => "[" | rbracket => "]" | lparen => "("
  | rparen => ")" | lbrace => "\x7b" | rbrace => "\x7d" | eq => "==" | ne => "!="
  | gt => ">" | gteq => ">=" | lt => "<" | lteq => "<=" | assign => "=" | dot => "."
  | colon => ":" | pipe => "|" | comma => "," | semicolon => ";"

/-- The type name of an operator token. -/
def typeName : Operator → String
  | add => "add" | sub => "sub" | div => "div" | floordiv => "floordiv" | mul => "mul"
  | mod => "mod" | pow => "pow" | tilde => "tilde" | lbracket => "lbracket"
  | rbracket => "rbracket" | lparen => "lparen" | rparen => "rparen" | lbrace => "lbrace"
  | rbrace => "rbrace" | eq => "eq" | ne => "ne" | gt => "gt" | gteq => "gteq" | lt => "lt"
  | lteq => "lteq" | assign => "assign" | dot => "dot" | colon => "colon" | pipe => "pipe"
  | comma => "comma" | semicolon => "semicolon"

/-- Every operator, the two-character ones first, so that the first whose symbol starts
some text is the longest. -/
def all : List Operator :=
  [floordiv, pow, eq, ne, gteq, lteq, add, sub, div, mul, mod, tilde, lbracket, rbracket,
    lparen, rparen, lbrace, rbrace, gt, lt, assign, dot, colon, pipe, comma, semicolon]

end Operator

/-- A token. -/
inductive Token where
  | data (text : String)
  | variableBegin
  | variableEnd
  | blockBegin
  | blockEnd
  | name (n : String)
  | str (s : String)
  | int (i : Int)
  | float (x : Float)
  | op (o : Operator)
  | eof
deriving Inhabited

/-- The description of a token type in messages: the symbol of an operator, words for the
tags, text and the end, the type name otherwise. -/
def describeType (t : String) : String :=
  match Operator.all.find? (·.typeName == t) with
  | some o => o.symbol
  | none =>
    if t == "comment_begin" then "begin of comment"
    else if t == "comment_end" then "end of comment"
    else if t == "comment" || t == "linecomment" then "comment"
    else if t == "block_begin" then "begin of statement block"
    else if t == "block_end" then "end of statement block"
    else if t == "variable_begin" then "begin of print statement"
    else if t == "variable_end" then "end of print statement"
    else if t == "linestatement_begin" then "begin of line statement"
    else if t == "linestatement_end" then "end of line statement"
    else if t == "data" then "template data / text"
    else if t == "eof" then "end of template"
    else t

/-- The parts of an expectation between its colons. -/
def expectationParts (e : String) : List String := (e.toList.splitOn ':').map String.ofList

/-- The description of what a parser expects, `type` or `name:word`: the word for a name,
the type's description otherwise. -/
def describeExpectation (e : String) : String :=
  match expectationParts e with
  | [t] => describeType t
  | t :: rest => if t == "name" then ":".intercalate rest else describeType t
  | [] => describeType e

namespace Token

/-- The type name of a token. -/
def typeName : Token → String
  | data _ => "data"
  | variableBegin => "variable_begin"
  | variableEnd => "variable_end"
  | blockBegin => "block_begin"
  | blockEnd => "block_end"
  | name _ => "name"
  | str _ => "string"
  | int _ => "integer"
  | float _ => "float"
  | op o => o.typeName
  | eof => "eof"

/-- The description of a token in messages: a name is itself. -/
def describe : Token → String
  | name n => n
  | t => describeType t.typeName

/-- Whether a token is of a type, or, for `name:word`, whether it is that name. -/
def test (t : Token) (e : String) : Bool :=
  if t.typeName == e then true
  else match expectationParts e, t with
    | [ty, w], name n => ty == "name" && w == n
    | _, _ => false

/-- Whether a token passes any of the tests. -/
def testAny (t : Token) (es : List String) : Bool := es.any t.test

/-- Whether a token is the given name. -/
def isName (t : Token) (n : String) : Bool := t.test ("name:" ++ n)

end Token

end NodeImage.Template
