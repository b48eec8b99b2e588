import NodeImage.Template.Token
import NodeImage.Template.Failure
import NodeImage.Text.Numeral
import NodeImage.Unicode.Naming

/-!
# Reading a template into tokens

A template is text with three kinds of tags: `{{ … }}` prints an expression, `{% … %}`
holds a statement and `{# … #}` is a comment. Line breaks of any convention are read as
line feeds first. A `-` right inside a tag's opening strips the white space before the
tag, and `-` right inside a closing strips the white space after it; `+` keeps it.
`{% raw %}…{% endraw %}` keeps its content as text. A comment or raw section that never
ends is an error unless the template ends right after its opening.

Inside a tag the tokens are, tried in this order: white space (skipped), floats, integers,
names, quoted texts and operators. Digits are the decimal digits of any script, and a
name is a run of word characters that must form an identifier. Brackets must balance: a
closing bracket that does not match is an error, and while a bracket is open the closing
of the tag reads as operators. A character that starts no token is an error that gives its
position.

A quoted text understands the backslash escapes of the host language (`\n`, `\xhh`,
`\uhhhh`, `\N{name}`, octal escapes…); other backslashes stay. An integer is read with its
base prefix; a float with characters beyond ASCII does not read.

Reading stops at the first error, and the tokens before it are kept: the parser meets the
error only when it asks for the token that failed, so an earlier syntax error wins.
-/

namespace NodeImage.Template

namespace Lexer

/-- Whether a character is white space. -/
def isSpace (c : Char) : Bool := Unicode.isSpace c.toNat

/-- Whether a character is a decimal digit of any script. -/
def isDigit (c : Char) : Bool := Unicode.isDecimal c.toNat

/-- Whether a character can be part of a name token: a word character, or a character
that may continue an identifier. -/
def isNameChar (c : Char) : Bool := Unicode.isWord c.toNat || Unicode.isIdentifierPart c.toNat

/-- Whether characters form an identifier. -/
def isIdentifier : List Char → Bool
  | c :: rest => (c == '_' || Unicode.isIdentifierStart c.toNat) &&
      rest.all fun d => Unicode.isIdentifierPart d.toNat
  | [] => false

/-- Text with its line breaks (`\r\n`, `\r`) made line feeds. -/
def normalizeNewlines : List Char → List Char
  | '\r' :: '\n' :: rest => '\n' :: normalizeNewlines rest
  | '\r' :: rest => '\n' :: normalizeNewlines rest
  | c :: rest => c :: normalizeNewlines rest
  | [] => []

/-- Text with its trailing white space removed. -/
def stripEnd (cs : List Char) : List Char := (cs.reverse.dropWhile isSpace).reverse

/-- The characters of a source from one position to another. -/
def slice (src : Array Char) (i j : Nat) : List Char := ((src.toList.drop i).take (j - i))

/-- The first position from `i` where a character fails the test. -/
def spanWhile (src : Array Char) (p : Char → Bool) (i : Nat) : Nat :=
  if h : i < src.size then
    if p src[i] then spanWhile src p (i + 1) else i
  else i
termination_by src.size - i

/-- Whether the source has the given characters at a position. -/
def startsAt (src : Array Char) (i : Nat) (lit : List Char) : Bool :=
  lit.zipIdx.all fun (c, k) => src[i + k]? == some c

/-- The end of digits and underscore-joined digits after a digit: more digits, or `_`
followed by a digit, as long as they come. -/
def groupsFrom (src : Array Char) (d : Char → Bool) (i : Nat) : Nat :=
  if h : i < src.size then
    if d src[i] then groupsFrom src d (i + 1)
    else if src[i] == '_' && (src[i + 1]?.map d).getD false then groupsFrom src d (i + 2)
    else i
  else i
termination_by src.size - i

/-- The end of digits in groups joined by single underscores (`D(_D)*`) from a position;
none without a first digit. -/
def digitGroups (src : Array Char) (d : Char → Bool) (i : Nat) : Option Nat :=
  match src[i]? with
  | some c => if d c then some (groupsFrom src d (i + 1)) else none
  | none => none

/-- The end of digits each optionally after an underscore (`(_?D)+`) from a position. -/
def underscoredDigits (src : Array Char) (d : Char → Bool) (i : Nat) : Option Nat :=
  if h : i < src.size then
    if d src[i] then some ((underscoredDigits src d (i + 1)).getD (i + 1))
    else if src[i] == '_' && (src[i + 1]?.map d).getD false then
      some ((underscoredDigits src d (i + 2)).getD (i + 2))
    else none
  else none
termination_by src.size - i

/-- The end of an exponent `e[+-]?D(_D)*` at a position. -/
def exponentEnd (src : Array Char) (i : Nat) : Option Nat :=
  match src[i]? with
  | some 'e' | some 'E' =>
    let j := if src[i + 1]? == some '+' || src[i + 1]? == some '-' then i + 2 else i + 1
    digitGroups src isDigit j
  | _ => none

/-- The end of a float at a position: digits, then a fraction with an exponent, an
exponent, or a fraction. -/
def floatEnd (src : Array Char) (i : Nat) : Option Nat := do
  let j ← digitGroups src isDigit i
  let fraction := if src[j]? == some '.' then digitGroups src isDigit (j + 1) else none
  let withExponent := match fraction with
    | some k => exponentEnd src k
    | none => none
  withExponent <|> exponentEnd src j <|> fraction

/-- Whether a character is a hexadecimal digit (decimal digits of any script). -/
def isHexDigit (c : Char) : Bool :=
  isDigit c || ('a' ≤ c && c ≤ 'f') || ('A' ≤ c && c ≤ 'F')

/-- The end of an integer at a position: a binary, octal or hexadecimal number with its
prefix, a decimal number not starting with zero, or zeros. -/
def integerEnd (src : Array Char) (i : Nat) : Option Nat :=
  let radix := fun (letters : List Char) (d : Char → Bool) =>
    if src[i]? == some '0' && (src[i + 1]?.map letters.contains).getD false then
      underscoredDigits src d (i + 2)
    else none
  radix ['b', 'B'] (fun c => c == '0' || c == '1') <|>
  radix ['o', 'O'] (fun c => '0' ≤ c && c ≤ '7') <|>
  radix ['x', 'X'] isHexDigit <|>
  (match src[i]? with
    | some c =>
      if '1' ≤ c && c ≤ '9' then some ((underscoredDigits src isDigit (i + 1)).getD (i + 1))
      else if c == '0' then some ((underscoredDigits src (· == '0') (i + 1)).getD (i + 1))
      else none
    | none => none)

/-- The end of a quoted text at a position, after its closing quote. -/
def quotedEnd (src : Array Char) (quote : Char) (i : Nat) : Option Nat :=
  if h : i < src.size then
    if src[i] == quote then some (i + 1)
    else if src[i] == '\\' then
      if i + 1 < src.size then quotedEnd src quote (i + 2) else none
    else quotedEnd src quote (i + 1)
  else none
termination_by src.size - i

/-! ## Values of tokens -/

/-- Upper-case hexadecimal digits of a number, at least four. -/
def upperHex4 (n : Nat) : String :=
  let ds := (Nat.toDigits 16 n).map Char.toUpper
  String.ofList (List.replicate (4 - ds.length) '0' ++ ds)

/-- Characters beyond ASCII written as their escapes `\xhh`, `\uhhhh` or `\Uhhhhhhhh`. -/
def escapeBeyondAscii (cs : List Char) : List Char :=
  cs.flatMap fun c =>
    let n := Unicode.codeOfChar c
    if n < 0x80 then [c]
    else if n < 0x100 then '\\' :: 'x' :: (hexPadded 2 n).toList
    else if n < 0x10000 then '\\' :: 'u' :: (hexPadded 4 n).toList
    else '\\' :: 'U' :: (hexPadded 8 n).toList

/-- The value of a hexadecimal digit. -/
def hexValue? (c : Char) : Option Nat :=
  if '0' ≤ c && c ≤ '9' then some (c.toNat - 48)
  else if 'a' ≤ c && c ≤ 'f' then some (c.toNat - 87)
  else if 'A' ≤ c && c ≤ 'F' then some (c.toNat - 55)
  else none

/-- The number written by exactly `count` hexadecimal digits at the front. -/
def hexNumber? (count : Nat) (cs : List Char) : Option Nat :=
  if cs.length < count then none
  else (cs.take count).foldlM (fun acc c => (hexValue? c).map (acc * 16 + ·)) 0

/-- Decodes backslash escapes of ASCII text; the error is the reason escape decoding
gives. `fuel` bounds the steps. -/
def decodeEscapes : Nat → List Char → Except String (List Char)
  | 0, _ => .ok []
  | _ + 1, [] => .ok []
  | fuel + 1, '\\' :: rest =>
    match rest with
    | [] => .error "\\ at end of string"
    | c :: more =>
      let keep := fun (out : Char) => (out :: ·) <$> decodeEscapes fuel more
      match c with
      | '\n' => decodeEscapes fuel more
      | '\\' => keep '\\' | '\'' => keep '\'' | '"' => keep '"'
      | 'b' => keep '\x08' | 'f' => keep '\x0c' | 't' => keep '\t' | 'n' => keep '\n'
      | 'r' => keep '\r' | 'v' => keep '\x0b' | 'a' => keep '\x07'
      | 'x' | 'u' | 'U' =>
        let (count, label) :=
          if c == 'x' then (2, "truncated \\xXX escape")
          else if c == 'u' then (4, "truncated \\uXXXX escape")
          else (8, "truncated \\UXXXXXXXX escape")
        match hexNumber? count more with
        | none => .error label
        | some n =>
          if n > 0x10FFFF then .error "illegal Unicode character"
          else (Unicode.charOfCode n :: ·) <$> decodeEscapes fuel (more.drop count)
      | 'N' =>
        match more with
        | '{' :: body =>
          let name := body.takeWhile (· != '}')
          if name.length == body.length || name.isEmpty then .error "malformed \\N character escape"
          else match Unicode.codePointNamed? (String.ofList name) with
            | some n => (Unicode.charOfCode n :: ·) <$> decodeEscapes fuel (body.drop (name.length + 1))
            | none => .error "unknown Unicode character name"
        | _ => .error "malformed \\N character escape"
      | _ =>
        if '0' ≤ c && c ≤ '7' then
          let ds := (c :: more).take 3 |>.takeWhile fun d => '0' ≤ d && d ≤ '7'
          let n := ds.foldl (fun acc d => acc * 8 + (d.toNat - 48)) 0
          (Char.ofNat n :: ·) <$> decodeEscapes fuel ((c :: more).drop ds.length)
        else ('\\' :: c :: ·) <$> decodeEscapes fuel more
  | fuel + 1, c :: rest => (c :: ·) <$> decodeEscapes fuel rest

/-- The value of a quoted text's content. -/
def stringValue (content : List Char) : Except Failure String :=
  let ascii := escapeBeyondAscii content
  match decodeEscapes (ascii.length + 1) ascii with
  | .ok cs => .ok (String.ofList cs)
  | .error reason => .error (.malformed reason (some "UnicodeDecodeError"))

/-- The value of an integer token: underscores dropped, read with its base prefix. -/
def integerValue (text : List Char) : Int :=
  match Text.readInt (String.ofList (text.filter (· != '_'))) 0 with
  | .ok i => i
  | .error _ => 0

/-- The error reading float text with characters beyond ASCII fails with: the first such
character is an invalid character, unless it stands where an exponent's first digit must. -/
def floatRefusal (cs : List Char) : Option String :=
  let bad := fun (c : Char) =>
    "invalid character '" ++ String.singleton c ++ "' (U+" ++ upperHex4 c.toNat ++ ")"
  let rec scan : List Char → Bool → Option String
    | [], _ => none
    | c :: rest, afterE =>
      if c.toNat ≥ 0x80 then
        some (if afterE then "invalid decimal literal" else bad c)
      else if c == 'e' || c == 'E' then scan rest true
      else if afterE && (c == '+' || c == '-') then scan rest true
      else scan rest false
  (scan cs false).map (· ++ " (<unknown>, line 1)")

/-- The value of a float token, or the error reading it. -/
def floatValue (text : List Char) : Except Failure Float :=
  let cs := text.filter (· != '_')
  match floatRefusal cs with
  | some m => .error (.host "SyntaxError" m)
  | none => .ok ((Text.readDecimal? (String.ofList cs)).getD 0)

/-! ## The reader -/

/-- What the reader is inside of. -/
inductive Mode where
  | root
  | variable
  | block
  | comment
  | raw
deriving DecidableEq, Inhabited

/-- A tag opening in text: its kind, its end and its strip sign. -/
structure Opening where
  mode : Mode
  stop : Nat
  sign : Option Char

/-- The strip sign right after a position, and the position after it. -/
def signAt (src : Array Char) (i : Nat) : Option Char × Nat :=
  match src[i]? with
  | some '-' => (some '-', i + 1)
  | some '+' => (some '+', i + 1)
  | _ => (none, i)

/-- The end of a statement tag's closing at a position: `+%}`, `-%}` with the white space
after it, or `%}`. -/
def blockClosing (src : Array Char) (i : Nat) : Option Nat :=
  if startsAt src i ['+', '%', '}'] then some (i + 3)
  else if startsAt src i ['-', '%', '}'] then some (spanWhile src isSpace (i + 3))
  else if startsAt src i ['%', '}'] then some (i + 2)
  else none

/-- A tag `{% word %}` with an optional strip sign at a position, closed as `closing`
reads closings: its sign and end. -/
def wordTag (src : Array Char) (closing : Array Char → Nat → Option Nat) (word : List Char)
    (i : Nat) : Option (Option Char × Nat) :=
  if startsAt src i ['{', '%'] then
    let (sign, j) := signAt src (i + 2)
    let j := spanWhile src isSpace j
    if startsAt src j word then
      let k := spanWhile src isSpace (j + word.length)
      (closing src k).map fun e => (sign, e)
    else none
  else none

/-- The end of a raw section's opening tag at a position: `-%}` with the white space after
it, or `%}`. -/
def rawOpeningClosing (src : Array Char) (i : Nat) : Option Nat :=
  if startsAt src i ['-', '%', '}'] then some (spanWhile src isSpace (i + 3))
  else if startsAt src i ['%', '}'] then some (i + 2)
  else none

/-- The tag opening at a position: a raw section, a print tag, a comment or a statement. -/
def openingAt (src : Array Char) (i : Nat) : Option Opening :=
  let raw := (wordTag src rawOpeningClosing ['r', 'a', 'w'] i).map fun (sign, stop) =>
    (⟨.raw, stop, sign⟩ : Opening)
  let simple := fun (second : Char) (mode : Mode) =>
    if startsAt src i ['{', second] then
      let (sign, j) := signAt src (i + 2)
      some (⟨mode, j, sign⟩ : Opening)
    else none
  raw <|> simple '{' .variable <|> simple '#' .comment <|> simple '%' .block

/-- The first tag opening from a position, with where it starts. -/
def nextOpening (src : Array Char) (i : Nat) : Option (Nat × Opening) :=
  if _h : i < src.size then
    match openingAt src i with
    | some o => some (i, o)
    | none => nextOpening src (i + 1)
  else none
termination_by src.size - i

/-- The first comment closing from a position: where the comment ends and reading goes on. -/
def commentEnd (src : Array Char) (i : Nat) : Option Nat :=
  if h : i < src.size then
    if startsAt src i ['+', '#', '}'] then some (i + 3)
    else if startsAt src i ['-', '#', '}'] then some (spanWhile src isSpace (i + 3))
    else if startsAt src i ['#', '}'] then some (i + 2)
    else commentEnd src (i + 1)
  else none
termination_by src.size - i

/-- The first `{% endraw %}` from a position: where it starts, its sign and its end. -/
def rawEnd (src : Array Char) (i : Nat) : Option (Nat × Option Char × Nat) :=
  if _h : i < src.size then
    match wordTag src blockClosing ['e', 'n', 'd', 'r', 'a', 'w'] i with
    | some (sign, stop) => some (i, sign, stop)
    | none => rawEnd src (i + 1)
  else none
termination_by src.size - i

/-- The state of reading: position, modes (innermost first), open brackets (the closers
expected, innermost first) and the tokens so far with where each starts, newest first. -/
structure Reading where
  pos : Nat
  modes : List Mode
  brackets : List Char
  tokens : List (Token × Nat)

/-- The tokens read with the line each starts on, and the error reading stopped at, if any. -/
structure Tokens where
  tokens : Array Token
  lines : Array Nat
  stop : Option Failure

/-- Adds data starting at a position to the tokens unless it is empty. -/
def addData (tokens : List (Token × Nat)) (text : List Char) (pos : Nat) : List (Token × Nat) :=
  if text.isEmpty then tokens else (.data (String.ofList text), pos) :: tokens

/-- The line of each position of a source, counting from one, and of the position after it. -/
def lineTable (src : Array Char) : Array Nat :=
  let (table, last) := src.foldl (fun (acc : Array Nat × Nat) c =>
    (acc.1.push acc.2, if c == '\n' then acc.2 + 1 else acc.2)) (#[], 1)
  table.push last

/-- Finishes reading: the tokens, then either the end or the error. The end is on the
line of the last token. -/
def finish (src : Array Char) (r : Reading) (stop : Option Failure) : Tokens :=
  let read := r.tokens.reverse.toArray
  let table := lineTable src
  let lines := read.map fun (_, p) => table.getD p 1
  let tokens := read.map (·.1)
  match stop with
  | none => ⟨tokens.push .eof, lines.push (lines.back?.getD 1), none⟩
  | some f => ⟨tokens, lines, some f⟩

/-- The operator whose symbol starts at a position. -/
def operatorAt (src : Array Char) (i : Nat) : Option Operator :=
  Operator.all.find? fun o => startsAt src i o.symbol.toList

/-- The closer of an opening bracket. -/
def closerOf : Operator → Option Char
  | .lbrace => some '}'
  | .lparen => some ')'
  | .lbracket => some ']'
  | _ => none

/-- Reads one token inside a tag at the position, which is within the source. -/
def tagToken (src : Array Char) (r : Reading) : Except Failure Reading :=
  let i := r.pos
  let c := src[i]?.getD ' '
  if isSpace c then .ok { r with pos := spanWhile src isSpace i }
  else
    let afterDot := i > 0 && src[i - 1]? == some '.'
    match (if afterDot then none else floatEnd src i) with
    | some e => do
      let x ← floatValue (slice src i e)
      .ok { r with pos := e, tokens := (.float x, i) :: r.tokens }
    | none =>
    match integerEnd src i with
    | some e => .ok { r with pos := e, tokens := (.int (integerValue (slice src i e)), i) :: r.tokens }
    | none =>
    if isNameChar c then
      let e := spanWhile src isNameChar i
      let text := slice src i e
      if isIdentifier text then .ok { r with pos := e, tokens := (.name (String.ofList text), i) :: r.tokens }
      else .error (.malformed "Invalid character in identifier" none)
    else
    match (if c == '\'' || c == '"' then quotedEnd src c (i + 1) else none) with
    | some e => do
      let s ← stringValue (slice src (i + 1) (e - 1))
      .ok { r with pos := e, tokens := (.str s, i) :: r.tokens }
    | none =>
    match operatorAt src i with
    | some o =>
      let next := { r with pos := i + o.symbol.length, tokens := (.op o, i) :: r.tokens }
      match closerOf o with
      | some closer => .ok { next with brackets := closer :: r.brackets }
      | none =>
        if o == .rbrace || o == .rparen || o == .rbracket then
          let sym := o.symbol
          match r.brackets with
          | [] => .error (.malformed ("unexpected '" ++ sym ++ "'") none)
          | expected :: rest =>
            if String.singleton expected == sym then .ok { next with brackets := rest }
            else .error (.malformed ("unexpected '" ++ sym ++ "', expected '" ++
              String.singleton expected ++ "'") none)
        else .ok next
    | none => .error (.malformed ("unexpected char " ++ quoteText (String.singleton c) ++
        " at " ++ toString i) none)

/-- Reads tokens from the state on; `fuel` bounds the steps, each of which moves on. -/
def readFrom (src : Array Char) : Nat → Reading → Tokens
  | 0, r => finish src r none
  | fuel + 1, r =>
    let i := r.pos
    match r.modes with
    | [] | .root :: _ =>
      match nextOpening src i with
      | some (start, o) =>
        let text := slice src i start
        let text := if o.sign == some '-' then stripEnd text else text
        let tokens := addData r.tokens text i
        let tokens := match o.mode with
          | .variable => (.variableBegin, start) :: tokens
          | .block => (.blockBegin, start) :: tokens
          | _ => tokens
        readFrom src fuel { r with pos := o.stop, modes := o.mode :: r.modes, tokens := tokens }
      | none =>
        if i < src.size then
          readFrom src fuel { r with pos := src.size, tokens := addData r.tokens (slice src i src.size) i }
        else finish src r none
    | .comment :: outer =>
      match commentEnd src i with
      | some e => readFrom src fuel { r with pos := e, modes := outer }
      | none =>
        if i < src.size then finish src r (some (.malformed "Missing end of comment tag" none))
        else finish src r none
    | .raw :: outer =>
      match rawEnd src i with
      | some (start, sign, e) =>
        let text := slice src i start
        let text := if sign == some '-' then stripEnd text else text
        readFrom src fuel { r with pos := e, modes := outer, tokens := addData r.tokens text i }
      | none =>
        if i < src.size then finish src r (some (.malformed "Missing end of raw directive" none))
        else finish src r none
    | mode :: outer =>
      let closing := if !r.brackets.isEmpty then none
        else if mode == .variable then
          if startsAt src i ['-', '}', '}'] then some (spanWhile src isSpace (i + 3))
          else if startsAt src i ['}', '}'] then some (i + 2)
          else none
        else blockClosing src i
      match closing with
      | some e =>
        let token := if mode == .variable then Token.variableEnd else Token.blockEnd
        readFrom src fuel { r with pos := e, modes := outer, tokens := (token, i) :: r.tokens }
      | none =>
        if i < src.size then
          match tagToken src r with
          | .ok r' => readFrom src fuel r'
          | .error f => finish src r (some f)
        else finish src r none

end Lexer

/-- The tokens of a template source, and the error reading stopped at, if any. -/
def tokenize (source : String) : Lexer.Tokens :=
  let src := (Lexer.normalizeNewlines source.toList).toArray
  Lexer.readFrom src (2 * src.size + 2) ⟨0, [.root], [], []⟩

end NodeImage.Template
