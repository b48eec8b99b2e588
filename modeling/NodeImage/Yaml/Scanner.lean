import NodeImage.Yaml.Token
import NodeImage.Unicode.Surrogate

/-!
# Scanning YAML text into tokens

The scanner reads a YAML text character by character and cuts it into tokens. Block
structure comes from indentation: a line indented deeper than the current block opens a
collection (`blockSequenceStart`, `blockMappingStart`), and a line indented less closes
collections (`blockEnd`). Flow collections (`[...]`, `{...}`) ignore indentation.

A mapping key needs no indicator: a scalar, alias or flow collection followed on the same
line by `:` and a blank is a key. Since the `:` comes after the key, the scanner records
where each key could have started (`SimpleKey`) and, on meeting the `:`, inserts the key
token, and the mapping start when the key opens a block mapping, at that earlier place. A
key that has to be a key (it starts a line of a block mapping) and is not followed by `:`
on its line is an error.

Tabs may not indent and may not separate tokens; only spaces do. A byte order mark at the
very start is skipped, and does not count as a column anywhere.
-/

namespace NodeImage.Yaml

/-- A place where a simple key may have started: the number of the token it would come
before, whether it must be a key, and where it is in the text. -/
structure SimpleKey where
  tokenNumber : Nat
  required : Bool
  index : Nat
  line : Nat
  column : Nat

/-- The state of the scanner. -/
structure Scanner where
  text : Array Char
  pos : Nat := 0
  line : Nat := 0
  column : Nat := 0
  flowLevel : Nat := 0
  tokens : Array Token := #[]
  indent : Int := -1
  indents : List Int := []
  allowSimpleKey : Bool := true
  possibleKeys : List (Nat × SimpleKey) := []
  done : Bool := false

/-- Why scanning stopped: the text stopped making sense at a position, or an escape named
a code point beyond the last one. -/
inductive ScanStop where
  | stuck (pos : Nat)
  | codePointTooLarge
deriving Repr, DecidableEq

/-- Scanning steps. -/
abbrev ScanM := StateT Scanner (Except ScanStop)

namespace Scan

/-- Stops with the current position. -/
def fail {α : Type} : ScanM α := do throw (.stuck (← get).pos)

/-- The character `k` places ahead; NUL past the end. -/
def peekAt (k : Nat) : ScanM Char := do
  let s ← get
  pure (s.text.getD (s.pos + k) '\x00')

/-- The current character. -/
def peek : ScanM Char := peekAt 0

/-- The next `n` characters as text. -/
def prefixText (n : Nat) : ScanM String := do
  let s ← get
  pure (String.ofList (s.text.extract s.pos (s.pos + n)).toList)

/-- Line breaks. -/
def isBreak (c : Char) : Bool :=
  c == '\r' || c == '\n' || c == '\x85' || c == '\u2028' || c == '\u2029'

/-- Line breaks and the end of the text. -/
def isBreakZ (c : Char) : Bool := c == '\x00' || isBreak c

/-- Spaces, tabs, line breaks and the end of the text. -/
def isBlankZ (c : Char) : Bool := c == ' ' || c == '\t' || isBreakZ c

/-- Letters, digits, `-` and `_`: the characters of anchor names and tag handles. -/
def isWordChar (c : Char) : Bool :=
  ('0' ≤ c && c ≤ '9') || ('A' ≤ c && c ≤ 'Z') || ('a' ≤ c && c ≤ 'z') || c == '-' || c == '_'

/-- Moves one character ahead, keeping line and column. -/
def forwardOne : ScanM Unit := modify fun s =>
  if s.pos ≥ s.text.size then s
  else
    let c := s.text.getD s.pos '\x00'
    let next := s.text.getD (s.pos + 1) '\x00'
    if c == '\n' || c == '\x85' || c == '\u2028' || c == '\u2029' || (c == '\r' && next != '\n') then
      { s with pos := s.pos + 1, line := s.line + 1, column := 0 }
    else if c != '\uFEFF' then { s with pos := s.pos + 1, column := s.column + 1 }
    else { s with pos := s.pos + 1 }

/-- Moves `n` characters ahead. -/
def forward : Nat → ScanM Unit
  | 0 => pure ()
  | n + 1 => do forwardOne; forward n

/-- A bound on the number of steps of any loop over the text. -/
def fuel : ScanM Nat := do pure ((← get).text.size + 2)

/-- Moves ahead over characters that satisfy `p`. -/
def skipWhile (p : Char → Bool) : Nat → ScanM Unit
  | 0 => pure ()
  | n + 1 => do if p (← peek) then do forwardOne; skipWhile p n else pure ()

/-- The number of characters from here that satisfy `p`. -/
def countWhile (p : Char → Bool) (from_ : Nat) : Nat → ScanM Nat
  | 0 => pure from_
  | n + 1 => do if p (← peekAt from_) then countWhile p (from_ + 1) n else pure from_

/-- Adds a token at the end. -/
def emit (t : Token) : ScanM Unit := modify fun s => { s with tokens := s.tokens.push t }

/-- Reads a line break, normalising `\r\n`, `\r` and NEL to `\n`; empty when there is none. -/
def lineBreak : ScanM String := do
  let c ← peek
  if c == '\r' || c == '\n' || c == '\x85' then
    if c == '\r' && (← peekAt 1) == '\n' then forward 2 else forwardOne
    pure "\n"
  else if c == '\u2028' || c == '\u2029' then
    forwardOne
    pure (String.singleton c)
  else pure ""

/-! ## Simple keys and indentation -/

/-- Forgets possible keys that can no longer be keys: they are on an earlier line or too far
back. Such a key that had to be a key is an error. -/
def staleKeys : ScanM Unit := do
  let s ← get
  let stale := s.possibleKeys.filter fun e => e.2.line != s.line || s.pos - e.2.index > 1024
  if stale.any (·.2.required) then fail
  set { s with possibleKeys := s.possibleKeys.filter fun e =>
    !(e.2.line != s.line || s.pos - e.2.index > 1024) }

/-- Forgets the possible key of the current flow level; an error if it had to be a key. -/
def removeSimpleKey : ScanM Unit := do
  let s ← get
  match s.possibleKeys.lookup s.flowLevel with
  | some k =>
    if k.required then fail
    set { s with possibleKeys := s.possibleKeys.filter (·.1 != s.flowLevel) }
  | none => pure ()

/-- Records that a key may start here. -/
def saveSimpleKey : ScanM Unit := do
  let s ← get
  if s.allowSimpleKey then
    removeSimpleKey
    let s ← get
    let required := s.flowLevel == 0 && s.indent == (s.column : Int)
    let key : SimpleKey := ⟨s.tokens.size, required, s.pos, s.line, s.column⟩
    let others := s.possibleKeys.filter fun (e : Nat × SimpleKey) => e.1 != s.flowLevel
    set { s with possibleKeys := others ++ [(s.flowLevel, key)] }

/-- Closes the block collections indented deeper than `column`. -/
def unwindIndent (column : Int) : ScanM Unit := do
  let s ← get
  if s.flowLevel == 0 then
    let rec go : Nat → ScanM Unit
      | 0 => pure ()
      | n + 1 => do
        let s ← get
        if s.indent > column then
          match s.indents with
          | i :: rest =>
            set { s with indent := i, indents := rest, tokens := s.tokens.push .blockEnd }
            go n
          | [] => pure ()
        else pure ()
    go (s.indents.length + 1)

/-- Opens a deeper block level at `column`, if it is deeper. -/
def addIndent (column : Int) : ScanM Bool := do
  let s ← get
  if s.indent < column then
    set { s with indents := s.indent :: s.indents, indent := column }
    pure true
  else pure false

/-- Inserts a token before the token with the given number. -/
def insertAt (n : Nat) (t : Token) : ScanM Unit := modify fun s =>
  { s with tokens := (s.tokens.toList.take n ++ [t] ++ s.tokens.toList.drop n).toArray }

/-! ## Between tokens -/

/-- Skips spaces, comments and line breaks up to the next token. A line break allows a
simple key again in block context. -/
def toNextToken : ScanM Unit := do
  let s ← get
  if s.pos == 0 && (← peek) == '\uFEFF' then forwardOne
  let rec go : Nat → ScanM Unit
    | 0 => pure ()
    | n + 1 => do
      skipWhile (· == ' ') (← fuel)
      if (← peek) == '#' then skipWhile (fun c => !isBreakZ c) (← fuel)
      if (← lineBreak) != "" then
        if (← get).flowLevel == 0 then modify fun s => { s with allowSimpleKey := true }
        go n
      else pure ()
  go (← fuel)

/-! ## Anchors, aliases and tags -/

/-- An anchor or alias name after its indicator. -/
def anchorName : ScanM String := do
  forwardOne
  let n ← countWhile isWordChar 0 (← fuel)
  if n == 0 then fail
  let name ← prefixText n
  forward n
  let c ← peek
  if !(isBlankZ c || c == '?' || c == ':' || c == ',' || c == ']' || c == '}' || c == '%' ||
      c == '@' || c == '\x60') then fail
  pure name

/-- Characters allowed in a tag's URI. -/
def isUriChar (c : Char) : Bool :=
  isWordChar c || ";/?:@&=+$,.!~*'()[]%".toList.contains c

/-- Decodes UTF-8 bytes to characters; `none` if they are not valid UTF-8. -/
def utf8Chars : List Nat → Option (List Char)
  | [] => some []
  | b :: rest =>
    if b < 0x80 then (utf8Chars rest).map (Char.ofNat b :: ·)
    else
      let (count, init) :=
        if b / 32 == 6 then (1, b % 32) else if b / 16 == 14 then (2, b % 16)
        else if b / 8 == 30 then (3, b % 8) else (0, 0)
      if count == 0 || rest.length < count then none
      else
        let cont := rest.take count
        if cont.all (fun x => x / 64 == 2) then
          let v := cont.foldl (fun acc x => acc * 64 + x % 64) init
          (utf8Chars (rest.drop count)).map (Char.ofNat v :: ·)
        else none
termination_by bs => bs.length
decreasing_by
  all_goals
    simp only [List.length_drop, List.length_cons]
    omega

/-- Hexadecimal digit values. -/
def hexValue (c : Char) : Option Nat :=
  if '0' ≤ c && c ≤ '9' then some (c.toNat - '0'.toNat)
  else if 'a' ≤ c && c ≤ 'f' then some (c.toNat - 'a'.toNat + 10)
  else if 'A' ≤ c && c ≤ 'F' then some (c.toNat - 'A'.toNat + 10)
  else none

/-- `%XX` escapes in a URI, decoded as UTF-8. -/
def uriEscapes : ScanM String := do
  let rec go : Nat → List Nat → ScanM (List Nat)
    | 0, acc => pure acc
    | n + 1, acc => do
      if (← peek) == '%' then
        forwardOne
        match hexValue (← peekAt 0), hexValue (← peekAt 1) with
        | some a, some b => forward 2; go n (acc ++ [a * 16 + b])
        | _, _ => fail
      else pure acc
  let bytes ← go (← fuel) []
  match utf8Chars bytes with
  | some cs => pure (String.ofList cs)
  | none => fail

/-- The URI part of a tag. -/
def tagUri : ScanM String := do
  let rec go : Nat → String → ScanM String
    | 0, acc => pure acc
    | n + 1, acc => do
      let c ← peek
      if c == '%' then go n (acc ++ (← uriEscapes))
      else if isUriChar c then forwardOne; go n (acc.push c)
      else pure acc
  let uri ← go (← fuel) ""
  if uri.isEmpty then fail
  pure uri

/-- A tag handle `!`, `!!` or `!name!`. -/
def tagHandle : ScanM String := do
  if (← peek) != '!' then fail
  let c ← peekAt 1
  if c == ' ' then
    forwardOne
    pure "!"
  else
    let n ← countWhile isWordChar 1 (← fuel)
    if (← peekAt n) != '!' then fail
    let h ← prefixText (n + 1)
    forward (n + 1)
    pure h

/-- A tag: `!<uri>`, a lone `!`, or a handle and a suffix. -/
def tagToken : ScanM Token := do
  let c ← peekAt 1
  let tok ← if c == '<' then do
      forward 2
      let suffix ← tagUri
      if (← peek) != '>' then fail
      forwardOne
      pure (Token.tag none suffix)
    else if isBlankZ c then do
      forwardOne
      pure (Token.tag none "!")
    else do
      let n ← countWhile (fun c => !(c == '\x00' || c == ' ' || isBreak c) && c != '!') 1 (← fuel)
      let useHandle := (← peekAt n) == '!'
      let handle ← if useHandle then tagHandle else do forwardOne; pure "!"
      let suffix ← tagUri
      pure (Token.tag (some handle) suffix)
  let c ← peek
  if !(c == '\x00' || c == ' ' || isBreak c) then fail
  pure tok

/-! ## Quoted scalars -/

/-- The character that an escape in a double-quoted scalar stands for. -/
def escapeReplacement (c : Char) : Option Char :=
  if c == '0' then some '\x00' else if c == 'a' then some '\x07'
  else if c == 'b' then some '\x08' else if c == 't' || c == '\t' then some '\t'
  else if c == 'n' then some '\n' else if c == 'v' then some '\x0b'
  else if c == 'f' then some '\x0c' else if c == 'r' then some '\r'
  else if c == 'e' then some '\x1b' else if c == ' ' then some ' '
  else if c == '"' then some '"' else if c == '/' then some '/'
  else if c == '\\' then some '\\' else if c == 'N' then some '\x85'
  else if c == '_' then some '\xa0' else if c == 'L' then some '\u2028'
  else if c == 'P' then some '\u2029' else none

/-- Whether the text here is a document marker `---` or `...` followed by a blank. -/
def atDocumentMarker : ScanM Bool := do
  let p ← prefixText 3
  pure ((p == "---" || p == "...") && isBlankZ (← peekAt 3))

/-- Line breaks inside a quoted scalar, with the spaces and tabs around them. -/
def quotedBreaks : ScanM String := do
  let rec go : Nat → String → ScanM String
    | 0, acc => pure acc
    | n + 1, acc => do
      if (← atDocumentMarker) then fail
      skipWhile (fun c => c == ' ' || c == '\t') (← fuel)
      if isBreak (← peek) then
        let b ← lineBreak
        go n (acc ++ b)
      else pure acc
  go (← fuel) ""

/-- A run of a quoted scalar without blanks, escapes resolved. -/
def quotedNonSpaces (double : Bool) : ScanM String := do
  let rec go : Nat → String → ScanM String
    | 0, acc => pure acc
    | n + 1, acc => do
      let len ← countWhile (fun c => !(c == '\'' || c == '"' || c == '\\' || isBlankZ c)) 0 (← fuel)
      let acc := acc ++ (← prefixText len)
      forward len
      let c ← peek
      if !double && c == '\'' && (← peekAt 1) == '\'' then
        forward 2
        go n (acc.push '\'')
      else if (double && c == '\'') || (!double && (c == '"' || c == '\\')) then
        forwardOne
        go n (acc.push c)
      else if double && c == '\\' then
        forwardOne
        let e ← peek
        match escapeReplacement e with
        | some r => forwardOne; go n (acc.push r)
        | none =>
          let width := if e == 'x' then 2 else if e == 'u' then 4 else if e == 'U' then 8 else 0
          if width > 0 then
            forwardOne
            let digits ← prefixText width
            if digits.length != width || !(digits.all fun d => (hexValue d).isSome) then fail
            let code := digits.foldl (fun acc d => acc * 16 + (hexValue d).getD 0) 0
            forward width
            if code > 0x10FFFF then throw .codePointTooLarge
            let ch := Unicode.charOfCode code
            go n (acc.push ch)
          else if isBreak e then
            let _ ← lineBreak
            let bs ← quotedBreaks
            go n (acc ++ bs)
          else fail
      else pure acc
  go (← fuel) ""

/-- Blanks inside a quoted scalar: spaces kept as they are, a line break folded. -/
def quotedSpaces : ScanM String := do
  let len ← countWhile (fun c => c == ' ' || c == '\t') 0 (← fuel)
  let ws ← prefixText len
  forward len
  let c ← peek
  if c == '\x00' then fail
  if isBreak c then
    let lb ← lineBreak
    let bs ← quotedBreaks
    pure ((if lb != "\n" then lb else if bs.isEmpty then " " else "") ++ bs)
  else pure ws

/-- A single- or double-quoted scalar. -/
def quotedScalar (double : Bool) : ScanM Token := do
  let quote ← peek
  forwardOne
  let first ← quotedNonSpaces double
  let rec go : Nat → String → ScanM String
    | 0, acc => pure acc
    | n + 1, acc => do
      if (← peek) == quote then pure acc
      else
        let sp ← quotedSpaces
        let ns ← quotedNonSpaces double
        go n (acc ++ sp ++ ns)
  let body ← go (← fuel) first
  if (← peek) != quote then fail
  forwardOne
  pure (Token.scalar body false)

/-! ## Plain scalars -/

/-- Blanks after a run of a plain scalar: the text they stand for, or `none` when the
scalar ends here (a document marker follows a line break). -/
def plainSpaces : ScanM (Option String) := do
  let len ← countWhile (· == ' ') 0 (← fuel)
  let ws ← prefixText len
  forward len
  let c ← peek
  if isBreak c then
    let lb ← lineBreak
    modify fun s => { s with allowSimpleKey := true }
    if (← atDocumentMarker) then return none
    let rec go : Nat → String → ScanM (Option String)
      | 0, acc => pure (some acc)
      | n + 1, acc => do
        let c ← peek
        if c == ' ' then forwardOne; go n acc
        else if isBreak c then
          let b ← lineBreak
          if (← atDocumentMarker) then return none
          go n (acc ++ b)
        else pure (some acc)
    match ← go (← fuel) "" with
    | none => pure none
    | some breaks =>
      pure (some ((if lb != "\n" then lb else if breaks.isEmpty then " " else "") ++ breaks))
  else pure (some ws)

/-- A plain scalar: runs of non-blank characters joined by the blanks between them, ending
at `: `, at ` #`, at a flow indicator in flow context, or at a line indented too little. -/
def plainScalar : ScanM Token := do
  let indent := (← get).indent + 1
  let rec go : Nat → String → String → ScanM String
    | 0, acc, _ => pure acc
    | n + 1, acc, spaces => do
      if (← peek) == '#' then return acc
      let flow := (← get).flowLevel != 0
      let rec run : Nat → Nat → ScanM Nat
        | 0, k => pure k
        | m + 1, k => do
          let c ← peekAt k
          let c1 ← peekAt (k + 1)
          if isBlankZ c || (c == ':' && (isBlankZ c1 || (flow && ",[]\x7b\x7d".toList.contains c1)))
              || (flow && ",?[]\x7b\x7d".toList.contains c) then pure k
          else run m (k + 1)
      let len ← run (← fuel) 0
      if len == 0 then return acc
      modify fun s => { s with allowSimpleKey := false }
      let acc := acc ++ spaces ++ (← prefixText len)
      forward len
      match ← plainSpaces with
      | none => pure acc
      | some sp =>
        let s ← get
        if sp.isEmpty || (← peek) == '#' || (s.flowLevel == 0 && (s.column : Int) < indent) then
          pure acc
        else go n acc sp
  let text ← go (← fuel) "" ""
  pure (Token.scalar text true)

/-! ## Block scalars -/

/-- The chomping and indentation indicators after `|` or `>`. -/
def blockIndicators : ScanM (Option Bool × Option Nat) := do
  let c ← peek
  let result ← if c == '+' || c == '-' then do
      forwardOne
      let d ← peek
      if '0' ≤ d && d ≤ '9' then
        if d == '0' then fail
        forwardOne
        pure (some (c == '+'), some (d.toNat - '0'.toNat))
      else pure (some (c == '+'), none)
    else if '0' ≤ c && c ≤ '9' then do
      if c == '0' then fail
      forwardOne
      let d ← peek
      if d == '+' || d == '-' then
        forwardOne
        pure (some (d == '+'), some (c.toNat - '0'.toNat))
      else pure (none, some (c.toNat - '0'.toNat))
    else pure (none, none)
  let c ← peek
  if !(c == '\x00' || c == ' ' || isBreak c) then fail
  pure result

/-- Line breaks and indentation before a block scalar's first line, and the deepest
indentation seen. -/
def blockIndentation : ScanM (String × Nat) := do
  let rec go : Nat → String → Nat → ScanM (String × Nat)
    | 0, acc, m => pure (acc, m)
    | n + 1, acc, m => do
      let c ← peek
      if c == ' ' then
        forwardOne
        let col := (← get).column
        go n acc (max m col)
      else if isBreak c then
        let b ← lineBreak
        go n (acc ++ b) m
      else pure (acc, m)
  go (← fuel) "" 0

/-- Line breaks inside a block scalar, skipping indentation up to `indent`. -/
def blockBreaks (indent : Nat) : ScanM String := do
  let rec skipIndent : Nat → ScanM Unit
    | 0 => pure ()
    | n + 1 => do
      if (← get).column < indent && (← peek) == ' ' then forwardOne; skipIndent n
      else pure ()
  skipIndent (← fuel)
  let rec go : Nat → String → ScanM String
    | 0, acc => pure acc
    | n + 1, acc => do
      if isBreak (← peek) then
        let b ← lineBreak
        skipIndent (← fuel)
        go n (acc ++ b)
      else pure acc
  go (← fuel) ""

/-- A literal (`|`) or folded (`>`) block scalar. -/
def blockScalar (folded : Bool) : ScanM Token := do
  forwardOne
  let (chomping, increment) ← blockIndicators
  skipWhile (· == ' ') (← fuel)
  if (← peek) == '#' then skipWhile (fun c => !isBreakZ c) (← fuel)
  if !isBreakZ (← peek) then fail
  let _ ← lineBreak
  let minIndent : Nat := max ((← get).indent + 1) 1 |>.toNat
  let (breaks, indent) ← match increment with
    | none => do
      let (bs, maxIndent) ← blockIndentation
      pure (bs, max minIndent maxIndent)
    | some inc => do
      let ind := minIndent + inc - 1
      let bs ← blockBreaks ind
      pure (bs, ind)
  let rec go : Nat → String → String → String → ScanM (String × String × String)
    | 0, acc, breaks, lb => pure (acc, breaks, lb)
    | n + 1, acc, breaks, lb => do
      if (← get).column == indent && (← peek) != '\x00' then
        let acc := acc ++ breaks
        let leadingNonSpace := !((← peek) == ' ' || (← peek) == '\t')
        let len ← countWhile (fun c => !isBreakZ c) 0 (← fuel)
        let acc := acc ++ (← prefixText len)
        forward len
        let lb ← lineBreak
        let breaks ← blockBreaks indent
        if (← get).column == indent && (← peek) != '\x00' then
          let c ← peek
          let acc := if folded && lb == "\n" && leadingNonSpace && !(c == ' ' || c == '\t') then
              (if breaks.isEmpty then acc ++ " " else acc)
            else acc ++ lb
          go n acc breaks lb
        else pure (acc, breaks, lb)
      else pure (acc, breaks, lb)
  let (body, breaks, lb) ← go (← fuel) "" breaks ""
  let body := if chomping != some false then body ++ lb else body
  let body := if chomping == some true then body ++ breaks else body
  pure (Token.scalar body false)

/-! ## Directives -/

/-- The rest of a directive's line: spaces and a comment. -/
def directiveLineEnd : ScanM Unit := do
  skipWhile (· == ' ') (← fuel)
  if (← peek) == '#' then skipWhile (fun c => !isBreakZ c) (← fuel)
  if !isBreakZ (← peek) then fail
  let _ ← lineBreak

/-- A decimal number of a version directive. -/
def versionNumber : ScanM Nat := do
  let n ← countWhile (fun c => '0' ≤ c && c ≤ '9') 0 (← fuel)
  if n == 0 then fail
  let t ← prefixText n
  forward n
  pure (t.foldl (fun acc c => acc * 10 + (c.toNat - '0'.toNat)) 0)

/-- A directive line `%NAME value`. -/
def directive : ScanM Token := do
  forwardOne
  let n ← countWhile isWordChar 0 (← fuel)
  if n == 0 then fail
  let name ← prefixText n
  forward n
  let c ← peek
  if !(c == '\x00' || c == ' ' || isBreak c) then fail
  let value ← if name == "YAML" then do
      skipWhile (· == ' ') (← fuel)
      let major ← versionNumber
      if (← peek) != '.' then fail
      forwardOne
      let minor ← versionNumber
      let c ← peek
      if !(c == '\x00' || c == ' ' || isBreak c) then fail
      pure (DirectiveValue.version major minor)
    else if name == "TAG" then do
      skipWhile (· == ' ') (← fuel)
      let handle ← tagHandle
      if (← peek) != ' ' then fail
      skipWhile (· == ' ') (← fuel)
      let pfx ← tagUri
      let c ← peek
      if !(c == '\x00' || c == ' ' || isBreak c) then fail
      pure (DirectiveValue.tagHandle handle pfx)
    else do
      skipWhile (fun c => !isBreakZ c) (← fuel)
      pure DirectiveValue.ignored
  directiveLineEnd
  pure (Token.directive name value)

/-! ## The next token -/

/-- Whether the current character may start a plain scalar. -/
def startsPlain : ScanM Bool := do
  let c ← peek
  let c1 ← peekAt 1
  let flow := (← get).flowLevel != 0
  pure (!(isBlankZ c || "-?:,[]\x7b\x7d#&*!|>'\"%@\x60".toList.contains c) ||
    (!isBlankZ c1 && (c == '-' || (!flow && (c == '?' || c == ':')))))

/-- Reads the next token or tokens. -/
def fetchMore : ScanM Unit := do
  toNextToken
  staleKeys
  unwindIndent (← get).column
  let c ← peek
  let s ← get
  let flow := s.flowLevel != 0
  let col0 := s.column == 0
  if c == '\x00' then
    unwindIndent (-1)
    removeSimpleKey
    modify fun s => { s with allowSimpleKey := false, possibleKeys := [], done := true }
    emit .streamEnd
  else if c == '%' && col0 then
    unwindIndent (-1)
    removeSimpleKey
    modify fun s => { s with allowSimpleKey := false }
    emit (← directive)
  else if (c == '-' || c == '.') && col0 && (← prefixText 3) == String.ofList [c, c, c] &&
      isBlankZ (← peekAt 3) then
    unwindIndent (-1)
    removeSimpleKey
    modify fun s => { s with allowSimpleKey := false }
    forward 3
    emit (if c == '-' then .documentStart else .documentEnd)
  else if c == '[' || c == '{' then
    saveSimpleKey
    modify fun s => { s with flowLevel := s.flowLevel + 1, allowSimpleKey := true }
    forwardOne
    emit (if c == '[' then .flowSequenceStart else .flowMappingStart)
  else if c == ']' || c == '}' then
    removeSimpleKey
    modify fun s => { s with flowLevel := s.flowLevel - 1, allowSimpleKey := false }
    forwardOne
    emit (if c == ']' then .flowSequenceEnd else .flowMappingEnd)
  else if c == ',' then
    modify fun s => { s with allowSimpleKey := true }
    removeSimpleKey
    forwardOne
    emit .flowEntry
  else if c == '-' && isBlankZ (← peekAt 1) then
    if !flow then
      if !s.allowSimpleKey then fail
      if (← addIndent s.column) then emit .blockSequenceStart
    modify fun s => { s with allowSimpleKey := true }
    removeSimpleKey
    forwardOne
    emit .blockEntry
  else if c == '?' && (flow || isBlankZ (← peekAt 1)) then
    if !flow then
      if !s.allowSimpleKey then fail
      if (← addIndent s.column) then emit .blockMappingStart
    modify fun s => { s with allowSimpleKey := !flow }
    removeSimpleKey
    forwardOne
    emit .key
  else if c == ':' && (flow || isBlankZ (← peekAt 1)) then
    match s.possibleKeys.lookup s.flowLevel with
    | some key =>
      modify fun s => { s with possibleKeys := s.possibleKeys.filter (·.1 != s.flowLevel) }
      insertAt key.tokenNumber .key
      if !flow then
        if (← addIndent key.column) then insertAt key.tokenNumber .blockMappingStart
      modify fun s => { s with allowSimpleKey := false }
    | none =>
      if !flow then
        if !s.allowSimpleKey then fail
        if (← addIndent s.column) then emit .blockMappingStart
      modify fun s => { s with allowSimpleKey := !flow }
      removeSimpleKey
    forwardOne
    emit .value
  else if c == '*' || c == '&' then
    saveSimpleKey
    modify fun s => { s with allowSimpleKey := false }
    let name ← anchorName
    emit (if c == '*' then .aliasOf name else .anchor name)
  else if c == '!' then
    saveSimpleKey
    modify fun s => { s with allowSimpleKey := false }
    emit (← tagToken)
  else if (c == '|' || c == '>') && !flow then
    modify fun s => { s with allowSimpleKey := true }
    removeSimpleKey
    emit (← blockScalar (c == '>'))
  else if c == '\'' || c == '"' then
    saveSimpleKey
    modify fun s => { s with allowSimpleKey := false }
    emit (← quotedScalar (c == '"'))
  else if (← startsPlain) then
    saveSimpleKey
    modify fun s => { s with allowSimpleKey := false }
    emit (← plainScalar)
  else fail

end Scan

/-- Whether a character may appear in a YAML text: tab, line feed, carriage return, the
printable ASCII characters, NEL, and the rest of Unicode except surrogates, U+FFFE and
U+FFFF. -/
def printableChar (c : Char) : Bool :=
  let n := c.toNat
  n == 0x09 || n == 0x0A || n == 0x0D || (0x20 ≤ n && n ≤ 0x7E) || n == 0x85 ||
    (0xA0 ≤ n && n ≤ 0xD7FF) || (0xE000 ≤ n && n ≤ 0xFFFD) || 0x10000 ≤ n

/-- The tokens of a YAML text, from stream start to stream end, or why the text is not
YAML. -/
def tokenize (text : String) : Except ScanStop (List Token) :=
  if !text.toList.all printableChar then .error (.stuck 0)
  else
    let chars := text.toList.toArray
    let rec loop : Nat → ScanM Unit
      | 0 => Scan.fail
      | n + 1 => do
        if (← get).done then pure ()
        else
          Scan.fetchMore
          loop n
    let start : Scanner := { text := chars, tokens := #[.streamStart] }
    match (loop (2 * chars.size + 10)).run start with
    | .ok (_, s) => .ok s.tokens.toList
    | .error e => .error e

end NodeImage.Yaml
