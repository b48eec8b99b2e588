import NodeImage.Yaml.Compose
import NodeImage.Data.Value
import NodeImage.Text.Base64
import NodeImage.Text.Case
import NodeImage.Text.Numeral

/-!
# From a document tree to a value

Each node becomes a `Value` according to its tag: null, booleans, integers (binary, octal,
decimal, hexadecimal and sexagesimal), floats (with `.inf` and `.nan`), base64 binary data,
dates and timestamps, text, sequences, mappings, sets and ordered pairs.

A scalar becomes its value at once. A collection first becomes an empty object, and is
filled later: the fills wait in a queue and run in the order the collections were met, each
fill meeting its children, so a document is built level by level. Building a node twice
gives the object built the first time; an alias to an enclosing collection therefore gives
that collection itself, and the value contains itself. Which failure a document with two bad
scalars reports follows from this order.

A mapping may hold merge keys `<<` whose value is a mapping or a sequence of mappings: their
pairs come first, those of earlier mappings in the sequence winning over later ones, and the
mapping's own pairs win over all of them. A key `=` is read as text from then on, wherever
its node appears later. A later pair with a key equal to an earlier one replaces its value.
A key must be hashable: a sequence, mapping or set cannot be a key.

Three kinds of failure are told apart. A document that cannot be built (an unknown tag, a
tag that does not fit its node, an unhashable key, a bad merge, bad base64 data) is
`malformed`. A scalar whose text has the right shape but names no value (a date with month
13, a number with bad digits) fails with the reason that value's constructor gives. A
sexagesimal float with a place value beyond the doubles overflows.

Finally the objects become one value. A value that contains itself is unfolded a fixed
number of levels deep, deeper than any answer may be written.
-/

namespace NodeImage.Yaml

/-- Why a YAML text gave no value. -/
inductive LoadFault where
  /-- The text is not one YAML document, or the document cannot be built. -/
  | malformed
  /-- A number or timestamp whose text names no value, with the reason. -/
  | badValue (message : String)
  /-- A boolean written as a word that is not one. -/
  | unknownBoolean (word : String)
  /-- A number with no characters at all. -/
  | emptyNumber
  /-- A timestamp whose text is not of the timestamp form. -/
  | unmatchedTimestamp
  /-- A sexagesimal float whose place value is too large for a double. -/
  | placeTooLarge
  /-- An escape naming a code point beyond the last one. -/
  | codePointTooLarge
deriving Repr, Inhabited

namespace Construct

/-- The text with every `_` removed. -/
def dropUnderscores (s : String) : String := String.ofList (s.toList.filter (· != '_'))

/-- Converts text to an integer in a base as the host language's integer conversion does. -/
def integerIn (text : String) (base : Nat) : Except LoadFault Int :=
  match Text.readInt text base with
  | .ok i => .ok i
  | .error m => .error (.badValue m)

/-- Converts text to a double as the host language's float conversion does. -/
def floatIn (text : String) : Except LoadFault Float :=
  match Text.readDouble text with
  | .ok x => .ok x
  | .error m => .error (.badValue m)

/-- The sign and the rest of a number's text: a leading `-` makes it negative, and a
leading `-` or `+` is dropped. -/
def splitSign (cs : List Char) : Except LoadFault (Bool × List Char) :=
  match cs with
  | [] => .error .emptyNumber
  | c :: rest =>
    if c == '-' || c == '+' then .ok (c == '-', rest) else .ok (false, cs)

/-- The value of sexagesimal parts, most significant first. -/
def sexagesimal (parts : List Int) : Int := parts.foldl (fun acc p => acc * 60 + p) 0

/-- An integer scalar, `_` removed: an optional sign, then `0` alone, `0b` binary, `0x`
hexadecimal, a leading `0` for octal, `:`-separated sexagesimal parts, or decimal. The
digits after the prefix are converted as integer conversion reads text, which allows
blanks around them and a sign of their own. -/
def intValue (text : String) : Except LoadFault Value := do
  let (negative, body) ← splitSign (dropUnderscores text).toList
  let signed := fun (n : Int) => Value.int (if negative then -n else n)
  let bodyText := String.ofList body
  if bodyText == "0" then return .int 0
  match body with
  | '0' :: 'b' :: rest => return signed (← integerIn (String.ofList rest) 2)
  | '0' :: 'x' :: rest => return signed (← integerIn (String.ofList rest) 16)
  | '0' :: _ => return signed (← integerIn bodyText 8)
  | [] => throw .emptyNumber
  | _ =>
    if body.contains ':' then
      let parts ← (bodyText.splitOn ":").mapM (integerIn · 10)
      return signed (sexagesimal parts)
    return signed (← integerIn bodyText 10)

/-- The value of sexagesimal float parts, least significant first: each part times its
place value, a power of 60 made a double, added up from the last part. -/
def sexagesimalFloat (parts : List Float) : Except LoadFault Float :=
  let rec go : List Float → Nat → Float → Except LoadFault Float
    | [], _, acc => .ok acc
    | d :: ds, place, acc =>
      match Number.ofInt? place with
      | some p => go ds (place * 60) (acc + d * p)
      | none => .error .placeTooLarge
  go parts 1 0.0

/-- A float scalar: `_` removed and letters lowered, an optional sign, then `.inf`, `.nan`,
`:`-separated sexagesimal parts, or text that float conversion reads. -/
def floatValue (text : String) : Except LoadFault Value := do
  let (negative, body) ← splitSign (Text.lower (dropUnderscores text)).toList
  let sign := fun (x : Float) => if negative then -x else x
  let bodyText := String.ofList body
  if bodyText == ".inf" then return .float (sign Number.infinity)
  if bodyText == ".nan" then return .float Number.notANumber
  if body.contains ':' then
    let parts ← (bodyText.splitOn ":").mapM floatIn
    return .float (sign (← sexagesimalFloat parts.reverse))
  return .float (sign (← floatIn bodyText))

/-- A boolean scalar: `yes`, `true` and `on` are true, `no`, `false` and `off` are false, in
any case. -/
def boolValue (text : String) : Except LoadFault Value :=
  let word := Text.lower text
  if word == "yes" || word == "true" || word == "on" then .ok (.bool true)
  else if word == "no" || word == "false" || word == "off" then .ok (.bool false)
  else .error (.unknownBoolean word)

/-- A binary scalar: base64 text, of ASCII characters only. -/
def binaryValue (text : String) : Except LoadFault Value :=
  if !text.toList.all (fun c : Char => c.toNat < 128) then .error .malformed
  else match Text.Base64.decode? text with
    | some bytes => .ok (.bytes bytes)
    | none => .error .malformed

/-! ## Timestamps -/

/-- The digits at the front, at most `k` of them. -/
def frontDigits : Nat → List Char → List Char × List Char
  | 0, cs => ([], cs)
  | k + 1, c :: cs =>
    if c.isDigit then let (d, r) := frontDigits k cs; (c :: d, r) else ([], c :: cs)
  | _, [] => ([], [])

/-- Between `lo` and `hi` digits at the front, as a number. -/
def numberOf (lo hi : Nat) (cs : List Char) : Option (Nat × List Char) :=
  let (d, r) := frontDigits hi cs
  if d.length < lo then none else some (Text.digitsValue d, r)

/-- Whether only an optional final line feed is left. -/
def atEnd (cs : List Char) : Bool := cs.isEmpty || cs == ['\n']

/-- The parts of a timestamp text. -/
structure Stamp where
  year : Nat
  month : Nat
  day : Nat
  time : Option (Nat × Nat × Nat × Nat)
  zone : Option Int
  utc : Bool

/-- The zone after the time: `Z`, or a sign, hours and optional minutes, after optional
blanks; the offset in minutes. -/
def zoneOf (cs : List Char) : Option (Option Int × Bool) :=
  if atEnd cs then some (none, false)
  else
    let cs := cs.dropWhile fun c => c == ' ' || c == '\t'
    match cs with
    | 'Z' :: rest => if atEnd rest then some (none, true) else none
    | s :: rest =>
      if s == '-' || s == '+' then do
        let (h, rest) ← numberOf 1 2 rest
        let (m, rest) ← match rest with
          | ':' :: r => numberOf 2 2 r
          | r => some (0, r)
        if !atEnd rest then none
        let minutes : Int := h * 60 + m
        some (some (if s == '-' then -minutes else minutes), false)
      else none
    | [] => none

/-- What follows the separator between date and time: `T`, `t`, or spaces and tabs. -/
def timeSeparator : List Char → Option (List Char)
  | c :: r =>
    if c == 'T' || c == 't' then some r
    else if c == ' ' || c == '\t' then some (r.dropWhile fun c => c == ' ' || c == '\t')
    else none
  | [] => none

/-- Splits a timestamp text into its parts. -/
def stampOf (text : String) : Option Stamp := do
  let cs := text.toList
  let (year, cs) ← numberOf 4 4 cs
  let cs ← match cs with | '-' :: r => some r | _ => none
  let (month, cs) ← numberOf 1 2 cs
  let cs ← match cs with | '-' :: r => some r | _ => none
  let (day, cs) ← numberOf 1 2 cs
  if atEnd cs then return ⟨year, month, day, none, none, false⟩
  let cs ← timeSeparator cs
  let (hour, cs) ← numberOf 1 2 cs
  let cs ← match cs with | ':' :: r => some r | _ => none
  let (minute, cs) ← numberOf 2 2 cs
  let cs ← match cs with | ':' :: r => some r | _ => none
  let (second, cs) ← numberOf 2 2 cs
  let (micro, cs) := match cs with
    | '.' :: r =>
      let (ds, rest) := (r.takeWhile Char.isDigit, r.dropWhile Char.isDigit)
      let six := (ds.take 6) ++ List.replicate (6 - min 6 ds.length) '0'
      (Text.digitsValue six, rest)
    | r => (0, r)
  let (zone, utc) ← zoneOf cs
  return ⟨year, month, day, some (hour, minute, second, micro), zone, utc⟩

/-- The printed form of a time difference in seconds, as days and seconds. -/
def differenceText (seconds : Int) : String :=
  let days := seconds / 86400
  let rest := seconds % 86400
  let parts := (if days != 0 then ["days=" ++ toString days] else []) ++
    (if rest != 0 then ["seconds=" ++ toString rest] else [])
  "datetime.timedelta(" ++ (if parts.isEmpty then "0" else ", ".intercalate parts) ++ ")"

/-- Checks a calendar date as the date constructor does. -/
def checkDate (year month day : Nat) : Except LoadFault Date := do
  if year < 1 || year > 9999 then throw (.badValue ("year " ++ toString year ++ " is out of range"))
  if month < 1 || month > 12 then throw (.badValue "month must be in 1..12")
  if day < 1 || day > Date.monthLength year month then
    throw (.badValue "day is out of range for month")
  return ⟨year, month, day⟩

/-- A timestamp scalar: a date, or a date and time with an optional zone. -/
def timestampValue (text : String) : Except LoadFault Value := do
  let some st := stampOf text | throw .unmatchedTimestamp
  match st.time with
  | none => return .date (← checkDate st.year st.month st.day)
  | some (hour, minute, second, micro) =>
    let offset ← match st.zone with
      | some minutes =>
        if minutes.natAbs ≥ 1440 then
          throw (.badValue ("offset must be a timedelta strictly between -timedelta(hours=24) and "
            ++ "timedelta(hours=24), not " ++ differenceText (minutes * 60) ++ "."))
        else pure (some minutes)
      | none => pure (if st.utc then some 0 else none)
    let date ← checkDate st.year st.month st.day
    if hour > 23 then throw (.badValue "hour must be in 0..23")
    if minute > 59 then throw (.badValue "minute must be in 0..59")
    if second > 59 then throw (.badValue "second must be in 0..59")
    return .dateTime ⟨date, hour, minute, second, micro, offset⟩

/-! ## Nodes -/

/-- The value of a scalar node with the given tag. -/
def scalarValue (tag text : String) : Except LoadFault Value :=
  if tag == coreTag "null" then .ok .null
  else if tag == coreTag "bool" then boolValue text
  else if tag == coreTag "int" then intValue text
  else if tag == coreTag "float" then floatValue text
  else if tag == coreTag "binary" then binaryValue text
  else if tag == coreTag "timestamp" then timestampValue text
  else if tag == coreTag "str" then .ok (.str text)
  else .error .malformed

/-- What building a node gave: a scalar's value, or the number of a collection object. -/
inductive Slot where
  | value (v : Value)
  | object (n : Nat)
deriving Inhabited

/-- A collection object as far as it is filled. Ordered pairs are a sequence of two-item
sequences. -/
inductive Shell where
  | seq (items : List Slot)
  | pairs (items : List (Slot × Slot))
  | map (entries : List (Value × Slot))
  | set (items : List Value)
deriving Inhabited

/-- The objects built so far, what each node gave, which key nodes now read as text, and
the fills still waiting. -/
structure Builder where
  shells : Array Shell := #[]
  made : Array (Option Slot)
  asText : Array Bool
  waiting : List (Nat × Node) := []

/-- Building a document: the builder as state, a failure ending it. -/
abbrev BuildM := StateT Builder (Except LoadFault)

/-- Records what a node gave. -/
def remember (id : Nat) (slot : Slot) : BuildM Unit :=
  modify fun b => { b with made := b.made.set! id (some slot) }

/-- Whether a tag names a collection, and the empty object it starts as. -/
def emptyShell? (tag : String) : Option Shell :=
  if tag == coreTag "seq" then some (.seq [])
  else if tag == coreTag "omap" || tag == coreTag "pairs" then some (.pairs [])
  else if tag == coreTag "map" then some (.map [])
  else if tag == coreTag "set" then some (.set [])
  else none

/-- Starts a collection object for a node and queues its fill. -/
def startObject (node : Node) (shell : Shell) : BuildM Slot := do
  let b ← get
  let n := b.shells.size
  set { b with shells := b.shells.push shell, waiting := b.waiting ++ [(n, node)] }
  remember node.id (.object n)
  pure (.object n)

/-- The tag a node is built by: a key `=` turned to text reads as text. -/
def effectiveTag (b : Builder) (id : Nat) (tag : String) : String :=
  if b.asText.getD id false then coreTag "str" else tag

/-- Builds a node: a scalar's value now, a collection's empty object with its fill queued;
a node built before gives what it gave then. -/
def build (node : Node) : BuildM Slot := do
  let b ← get
  match b.made.getD node.id none with
  | some slot => pure slot
  | none =>
    match node with
    | .backRef _ => throw .malformed
    | .scalar id tag text =>
      let tag := effectiveTag b id tag
      match emptyShell? tag with
      | some shell => startObject node shell
      | none =>
        let v ← StateT.lift (scalarValue tag text)
        remember id (.value v)
        pure (.value v)
    | .seq _ tag _ | .map _ tag _ =>
      match emptyShell? tag with
      | some shell => startObject node shell
      | none => throw .malformed

/-- Marks a key node to read as text. -/
def markText (id : Nat) : BuildM Unit :=
  modify fun b => { b with asText := b.asText.set! id true }

/-- The pairs of a mapping node with merge keys replaced by the pairs they bring in; key
nodes `=` are marked to read as text. -/
def flatten : Nat → List (Node × Node) → BuildM (List (Node × Node))
  | 0, _ => throw .malformed
  | n + 1, pairs => do
    let mut merged : List (Node × Node) := []
    let mut own : List (Node × Node) := []
    for (k, v) in pairs do
      match k with
      | .scalar id tag _ =>
        let b ← get
        let tag := effectiveTag b id tag
        if tag == coreTag "merge" then
          match v with
          | .map _ _ inner => merged := merged ++ (← flatten n inner)
          | .seq _ _ items =>
            let mut groups : List (List (Node × Node)) := []
            for item in items do
              match item with
              | .map _ _ inner => groups := groups ++ [← flatten n inner]
              | _ => throw .malformed
            merged := merged ++ groups.reverse.flatten
          | _ => throw .malformed
        else
          if tag == coreTag "value" then markText id
          own := own ++ [(k, v)]
      | _ => own := own ++ [(k, v)]
    return merged ++ own

/-- Adds an entry to a mapping object: an equal key keeps its place and takes the new
value, otherwise the entry goes last. -/
def insertEntry : List (Value × Slot) → Value × Slot → List (Value × Slot)
  | [], e => [e]
  | (k, v) :: rest, (k', v') =>
    if Value.sameKey k k' then (k, v') :: rest else (k, v) :: insertEntry rest (k', v')

/-- Builds the entries of a mapping node: keys must be hashable values. -/
def entriesOf (pairs : List (Node × Node)) : BuildM (List (Value × Slot)) :=
  pairs.foldlM (fun entries (k, v) => do
    let key ← match ← build k with
      | .value key => if key.hashable then pure key else throw .malformed
      | .object _ => throw .malformed
    let value ← build v
    return insertEntry entries (key, value)) []

/-- The items of an ordered-pairs node: one-pair mappings. -/
def pairsOf (items : List Node) : BuildM (List (Slot × Slot)) :=
  items.mapM fun item => match item with
    | .map _ _ [(k, v)] => do return (← build k, ← build v)
    | _ => throw .malformed

/-- Fills a collection object from its node. -/
def fill (n : Nat) (node : Node) (depth : Nat) : BuildM Unit := do
  let b ← get
  let shell := b.shells.getD n default
  let filled ← match shell, node with
    | .seq _, .seq _ _ items => Shell.seq <$> items.mapM build
    | .pairs _, .seq _ _ items => Shell.pairs <$> pairsOf items
    | .map _, .map _ _ pairs => Shell.map <$> (entriesOf (← flatten depth pairs))
    | .set _, .map _ _ pairs => (fun es => Shell.set (es.map (·.1))) <$> (entriesOf (← flatten depth pairs))
    | _, _ => throw .malformed
  modify fun b => { b with shells := b.shells.set! n filled }

/-- Runs the waiting fills in order, those they queue after them; at most `fuel` fills. -/
def fillAll (depth : Nat) : Nat → BuildM Unit
  | 0 => pure ()
  | fuel + 1 => do
    match (← get).waiting with
    | [] => pure ()
    | (n, node) :: rest =>
      modify fun b => { b with waiting := rest }
      fill n node depth
      fillAll depth fuel

/-- The objects a slot refers to. -/
def Slot.objects : Slot → List Nat
  | .value _ => []
  | .object n => [n]

/-- The objects a collection object refers to. -/
def Shell.objects : Shell → List Nat
  | .seq items => items.flatMap Slot.objects
  | .pairs items => items.flatMap fun (k, v) => k.objects ++ v.objects
  | .map entries => entries.flatMap fun e => e.2.objects
  | .set _ => []

/-- Whether the objects refer to one another in a cycle: objects no other remaining object
refers to are taken away until none is left (no cycle) or every remaining one is referred
to (a cycle). -/
def hasCycle (shells : Array Shell) : Bool :=
  let rec go : Nat → List Nat → Bool
    | 0, remaining => !remaining.isEmpty
    | fuel + 1, remaining =>
      let referred := remaining.flatMap fun n => (shells.getD n default).objects
      let free := remaining.filter fun n => !referred.contains n
      if free.isEmpty then !remaining.isEmpty
      else go fuel (remaining.filter fun n => !free.contains n)
  go (shells.size + 1) (List.range shells.size)

/-- A collection object as a value, its objects given by `inner`. -/
def Shell.toValue (inner : Slot → Value) : Shell → Value
  | .seq items => .seq (items.map inner)
  | .pairs items => .seq (items.map fun (k, v) => .seq [inner k, inner v])
  | .map entries => .map (entries.map fun (k, v) => (k, inner v))
  | .set items => .set items

/-- A slot as a value, following objects at most `fuel` levels deep; deeper objects are
null. -/
def unfold (shells : Array Shell) : Nat → Slot → Value
  | _, .value v => v
  | 0, .object _ => .null
  | fuel + 1, .object n => (shells.getD n default).toValue (unfold shells fuel)

/-- How deep a value that contains itself is unfolded. -/
def cycleDepth : Nat := 1100

/-- A slot as a value when the objects form cycles: every object is unfolded level by level,
each level built from the one below, so objects met again share their values. -/
def unfoldCyclic (shells : Array Shell) (slot : Slot) : Value :=
  let step := fun (below : Array Value) =>
    shells.map (·.toValue fun s => match s with
      | .value v => v
      | .object n => below.getD n .null)
  let top := (List.range cycleDepth).foldl (fun below _ => step below) (shells.map fun _ => Value.null)
  match slot with
  | .value v => v
  | .object n => top.getD n .null

/-- Builds the value of a document root whose nodes are numbered below `count`. -/
def document (root : Node) (count : Nat) (depth : Nat) : Except LoadFault Value := do
  let start : Builder := { made := Array.replicate count none, asText := Array.replicate count false }
  let (slot, b) ← (do let s ← build root; fillAll depth (count + 1); pure s).run start
  if hasCycle b.shells then return unfoldCyclic b.shells slot
  return unfold b.shells (b.shells.size + 1) slot

end Construct

/-- The value of a YAML text holding at most one document; null when it holds none. -/
def load (text : String) : Except LoadFault Value :=
  match compose text with
  | .error .malformed => .error .malformed
  | .error .codePointTooLarge => .error .codePointTooLarge
  | .ok none => .ok .null
  | .ok (some (root, count)) => Construct.document root count (text.length + 10)

end NodeImage.Yaml
