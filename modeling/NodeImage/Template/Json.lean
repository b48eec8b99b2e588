import NodeImage.Template.Sorting

/-!
# Values as JSON and as pretty text

`jsonText` writes a value as JSON: `null`, `true`, `false`, integers, floats in their
shortest form (`Infinity`, `-Infinity` and `NaN` for the special ones), texts quoted with
every character beyond printable ASCII escaped as `\uXXXX` (a pair of surrogates for
those beyond the basic plane), lists and tuples as arrays, and mappings as objects whose
entries are sorted. Keys may be texts, numbers, booleans or none, and become texts. Other
values cannot be written, and neither can a collection that contains itself. With an
indent, every item goes on a line of its own, indented by its depth.

`prettyText` writes a value as its printed form with the entries of mappings sorted by
key (keys that cannot be compared are ordered by their type's name); a form longer than
the width of 80 columns is broken over lines: one item of a list, tuple or mapping per
line, aligned after the opening bracket, and long texts cut between words into adjacent
quoted pieces.
-/

namespace NodeImage.Template

namespace Datum

/-- A text as a JSON string with every character beyond printable ASCII escaped. -/
def jsonQuote (s : String) : String :=
  let esc := fun (n : Nat) => "\\u" ++ hexPadded 4 n
  "\"" ++ String.join (s.toList.map fun c =>
    match c with
    | '"' => "\\\""
    | '\\' => "\\\\"
    | '\n' => "\\n"
    | '\r' => "\\r"
    | '\t' => "\\t"
    | '\x08' => "\\b"
    | '\x0c' => "\\f"
    | c =>
      let n := c.toNat
      match Unicode.surrogateOf? c with
      | some v => esc v
      | Option.none =>
        if 0x20 ≤ n && n ≤ 0x7E then String.singleton c
        else if n < 0x10000 then esc n
        else
          let v := n - 0x10000
          esc (0xD800 + v / 0x400) ++ esc (0xDC00 + v % 0x400)) ++ "\""

/-- A float as JSON writes it. -/
def jsonFloat (x : Float) : String :=
  if x.isNaN then "NaN"
  else if x.isInf then (if x > 0 then "Infinity" else "-Infinity")
  else Text.floatText x

/-- The failure of a value JSON cannot hold. -/
def notSerializable (d : Datum) : HeapM Failure :=
  return .typeError ("Object of type " ++ (← d.typeName) ++ " is not JSON serializable")

/-- A mapping key as a JSON object key. -/
def jsonKey (k : Datum) : HeapM String := do
  match k with
  | .str s | .markup s => return jsonQuote s
  | .float x => return jsonQuote (jsonFloat x)
  | .bool b => return jsonQuote (if b then "true" else "false")
  | .none => return jsonQuote "null"
  | .int i => return jsonQuote (← liftExcept (intText i))
  | _ => throw (.typeError ("keys must be str, int, float, bool or None, not " ++ (← k.typeName)))

/-- Items as a JSON array or object body, compact or one per line. -/
def jsonBlock (openBr closeBr : String) (indent : Option String) (level : Nat)
    (parts : List String) : String :=
  if parts.isEmpty then openBr ++ closeBr
  else match indent with
    | Option.none => openBr ++ ", ".intercalate parts ++ closeBr
    | some ind =>
      let inner := "\n" ++ String.join (List.replicate (level + 1) ind)
      openBr ++ inner ++ ("," ++ inner).intercalate parts ++ "\n" ++
        String.join (List.replicate level ind) ++ closeBr

/-- The entries of a mapping sorted as pairs. -/
def sortedEntries (es : List (Datum × Datum)) : HeapM (List (Datum × Datum)) := do
  let pairs := es.map fun (k, v) => (Datum.tuple [k, v], Datum.tuple [k, v])
  let sorted ← sortPairs (order .lt) pairs
  return sorted.map fun (_, p) => match p with
    | .tuple [k, v] => (k, v)
    | _ => (Datum.none, Datum.none)

mutual

/-- A value as JSON, at a nesting level; `seen` are the collections being written. -/
def jsonIn : Nat → Option String → Nat → List Nat → Datum → HeapM String
  | 0, _, _, _, _ => throw (recursionFailure " while encoding a JSON object")
  | fuel + 1, indent, level, seen, d => do
    match d with
    | .none => return "null"
    | .bool b => return if b then "true" else "false"
    | .int i => liftExcept (intText i)
    | .float x => return jsonFloat x
    | .str s | .markup s => return jsonQuote s
    | .tuple xs => return jsonBlock "[" "]" indent level (← jsonAll fuel indent (level + 1) seen xs)
    | .group k v => return jsonBlock "[" "]" indent level (← jsonAll fuel indent (level + 1) seen [k, v])
    | .obj addr =>
      match ← Heap.get addr with
      | .list xs =>
        if seen.contains addr then throw (.valueError "Circular reference detected")
        return jsonBlock "[" "]" indent level
          (← jsonAll fuel indent (level + 1) (addr :: seen) xs.toList)
      | .dict es =>
        if seen.contains addr then throw (.valueError "Circular reference detected")
        let sorted ← sortedEntries es.toList
        return jsonBlock "\x7b" "\x7d" indent level
          (← jsonEntries fuel indent (level + 1) (addr :: seen) sorted)
      | _ => throw (← notSerializable d)
    | _ => throw (← notSerializable d)

/-- Values as JSON. -/
def jsonAll : Nat → Option String → Nat → List Nat → List Datum → HeapM (List String)
  | 0, _, _, _, _ => throw (recursionFailure " while encoding a JSON object")
  | _ + 1, _, _, _, [] => return []
  | fuel + 1, indent, level, seen, x :: xs =>
    return (← jsonIn fuel indent level seen x) :: (← jsonAll fuel indent level seen xs)

/-- Mapping entries as JSON object members. -/
def jsonEntries : Nat → Option String → Nat → List Nat → List (Datum × Datum) → HeapM (List String)
  | 0, _, _, _, _ => throw (recursionFailure " while encoding a JSON object")
  | _ + 1, _, _, _, [] => return []
  | fuel + 1, indent, level, seen, (k, v) :: es => do
    let key ← jsonKey k
    let value ← jsonIn fuel indent level seen v
    return (key ++ ": " ++ value) :: (← jsonEntries fuel indent level seen es)

end

/-- A value as JSON with an optional indent, safe to put into HTML: `<`, `>`, `&` and `'`
are escaped as JSON escapes. -/
def jsonText (d : Datum) (indent : Option String) : HeapM String := do
  let text ← jsonIn nestingLimit indent 0 [] d
  return (((text.replace "<" "\\u003c").replace ">" "\\u003e").replace "&" "\\u0026").replace "'" "\\u0027"

/-- Orders two keys for pretty printing: by `<` when they can be compared, else by the
names of their types. -/
def prettyKeyLess (a b : Datum) : HeapM Bool := do
  tryCatch (order .lt a b) fun f => do
    if f.kind == "TypeError" then
      return decide ((← a.typeName) < (← b.typeName))
    throw f

mutual

/-- The printed form of a value, with the entries of mappings sorted. -/
def prettyRepr : Nat → Datum → HeapM String
  | 0, _ => throw (recursionFailure " while getting the repr of an object")
  | fuel + 1, d => do
    match d with
    | .tuple [x] => return "(" ++ (← prettyRepr fuel x) ++ ",)"
    | .tuple xs => return "(" ++ ", ".intercalate (← prettyAll fuel xs) ++ ")"
    | .obj addr =>
      match ← Heap.get addr with
      | .list xs => return "[" ++ ", ".intercalate (← prettyAll fuel xs.toList) ++ "]"
      | .dict es =>
        let sorted ← prettySorted es.toList
        let parts ← prettyEntries fuel sorted
        return "\x7b" ++ ", ".intercalate parts ++ "\x7d"
      | _ => repr d
    | _ => repr d

/-- The printed forms of values. -/
def prettyAll : Nat → List Datum → HeapM (List String)
  | 0, _ => throw (recursionFailure " while getting the repr of an object")
  | _ + 1, [] => return []
  | fuel + 1, x :: xs => return (← prettyRepr fuel x) :: (← prettyAll fuel xs)

/-- The printed forms of mapping entries. -/
def prettyEntries : Nat → List (Datum × Datum) → HeapM (List String)
  | 0, _ => throw (recursionFailure " while getting the repr of an object")
  | _ + 1, [] => return []
  | fuel + 1, (k, v) :: es =>
    return ((← prettyRepr fuel k) ++ ": " ++ (← prettyRepr fuel v)) :: (← prettyEntries fuel es)

/-- Mapping entries sorted by key for pretty printing. -/
def prettySorted (es : List (Datum × Datum)) : HeapM (List (Datum × Datum)) := do
  let pairs := es.map fun (k, v) => (k, Datum.tuple [k, v])
  let sorted ← sortPairs prettyKeyLess pairs
  return sorted.map fun (_, p) => match p with
    | .tuple [k, v] => (k, v)
    | _ => (Datum.none, Datum.none)

end

/-- The width pretty printing fits lines into. -/
def prettyWidth : Nat := 80

/-- The pieces long text is cut into: runs of non-blanks followed by their blanks. -/
def wordPieces (s : String) : List String :=
  let rec go : Nat → List Char → List String
    | 0, _ => []
    | _ + 1, [] => []
    | fuel + 1, cs =>
      let word := cs.takeWhile fun c => !Unicode.isSpace c.toNat
      let rest := cs.drop word.length
      let blank := rest.takeWhile fun c => Unicode.isSpace c.toNat
      String.ofList (word ++ blank) :: go fuel (rest.drop blank.length)
  go (s.length + 1) s.toList

/-- Long text printed as adjacent quoted pieces, one per line. -/
def prettyText' (s : String) (indent allowance level : Nat) : String :=
  let (indent, allowance) := if level == 1 then (indent + 1, allowance + 1) else (indent, allowance)
  let maxWidth := prettyWidth - indent
  let lines := Text.splitLines s true
  let count := lines.length
  let chunks := (lines.zipIdx).flatMap fun (line, i) =>
    let last := i + 1 == count
    let maxWidth1 := if last then maxWidth - allowance else maxWidth
    let rep := quoteText line
    if rep.length ≤ maxWidth1 then [rep]
    else
      let parts := wordPieces line
      let n := parts.length
      let (acc, current) := (parts.zipIdx).foldl (fun (acc, current) (part, j) =>
        let candidate := current ++ part
        let maxWidth2 := if j + 1 == n && last then maxWidth - allowance else maxWidth
        if (quoteText candidate).length > maxWidth2 then
          ((if current.isEmpty then acc else acc ++ [quoteText current]), part)
        else (acc, candidate)) ([], "")
      if current.isEmpty then acc else acc ++ [quoteText current]
  match chunks with
  | [one] => one
  | _ =>
    let body := ("\n" ++ String.ofList (List.replicate indent ' ')).intercalate chunks
    if level == 1 then "(" ++ body ++ ")" else body

mutual

/-- A value pretty printed at a column, leaving room for what follows it. -/
def prettyAt : Nat → Datum → Nat → Nat → Nat → HeapM String
  | 0, _, _, _, _ => throw (recursionFailure " while getting the repr of an object")
  | fuel + 1, d, indent, allowance, level => do
    let rep ← prettyRepr nestingLimit d
    if rep.length + indent + allowance ≤ prettyWidth then return rep
    match d with
    | .str s => return if s.isEmpty then rep else prettyText' s indent allowance (level + 1)
    | .tuple xs =>
      let closing := if xs.length == 1 then ",)" else ")"
      return "(" ++ (← prettyItems fuel xs (indent + 1) (allowance + closing.length) (level + 1)) ++ closing
    | .obj addr =>
      match ← Heap.get addr with
      | .list xs =>
        return "[" ++ (← prettyItems fuel xs.toList (indent + 1) (allowance + 1) (level + 1)) ++ "]"
      | .dict es =>
        if es.isEmpty then return rep
        let sorted ← prettySorted es.toList
        return "\x7b" ++ (← prettyMembers fuel sorted (indent + 1) (allowance + 1) (level + 1)) ++ "\x7d"
      | _ => return rep
    | _ => return rep

/-- Items one per line, aligned at a column. -/
def prettyItems : Nat → List Datum → Nat → Nat → Nat → HeapM String
  | 0, _, _, _, _ => throw (recursionFailure " while getting the repr of an object")
  | _ + 1, [], _, _, _ => return ""
  | fuel + 1, [x], indent, allowance, level => prettyAt fuel x indent allowance level
  | fuel + 1, x :: xs, indent, allowance, level => do
    let first ← prettyAt fuel x indent 1 level
    return first ++ ",\n" ++ String.ofList (List.replicate indent ' ') ++
      (← prettyItems fuel xs indent allowance level)

/-- Mapping members one per line, aligned at a column. -/
def prettyMembers : Nat → List (Datum × Datum) → Nat → Nat → Nat → HeapM String
  | 0, _, _, _, _ => throw (recursionFailure " while getting the repr of an object")
  | _ + 1, [], _, _, _ => return ""
  | fuel + 1, (k, v) :: es, indent, allowance, level => do
    let key ← prettyRepr nestingLimit k
    let last := es.isEmpty
    let value ← prettyAt fuel v (indent + key.length + 2) (if last then allowance else 1) level
    let head := key ++ ": " ++ value
    if last then return head
    return head ++ ",\n" ++ String.ofList (List.replicate indent ' ') ++
      (← prettyMembers fuel es indent allowance level)

end

/-- A value pretty printed. -/
def prettyPrint (d : Datum) : HeapM String := prettyAt nestingLimit d 0 0 0

end Datum

end NodeImage.Template
