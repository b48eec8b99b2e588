import NodeImage.Template.Json
import NodeImage.Text.Html
import NodeImage.Text.Url
import NodeImage.Text.Urlize
import NodeImage.Text.Numeral

/-!
# Filters

The filters a template applies with `|`: conversions (`int`, `float`, `string`, `list`,
`safe`, `escape`, `tojson`, …), text operations (`upper`, `replace`, `indent`,
`truncate`, `wordwrap`, `striptags`, `urlize`, …), operations on collections (`sort`,
`dictsort`, `unique`, `groupby`, `map`, `select`, `sum`, `min`, `batch`, `slice`, …) and
`default`.

A filter is a function: it takes the value and its own parameters, by position or by
name, and an argument that does not fit fails as a call does; some take the renderer's
environment or context first, which counts in those messages. Most filters work on the
value's text; safe text stays safe where the text operation keeps it so.

Filters that produce their items lazily (`map`, `select`, `reject`, `unique`, `batch`,
`slice`, `items`) yield a generator: the items are computed when the filter is applied,
but a failure met on the way is raised only when the generator is read that far. Filters
that look up an attribute of each item take a dotted path, whose parts that are digits
index by position.
-/

namespace NodeImage.Template

/-- What filters need to know of where they run: whether output is escaped. -/
structure FilterEnv where
  autoescape : Bool := false

namespace Datum

/-- The text of a value, kept safe when it is safe. -/
def softText (d : Datum) : HeapM Datum := do
  match d with
  | .str _ | .markup _ => return d
  | _ => return .str (← toText d)

/-- Calls a text method on a value's text. -/
def textCall (d : Datum) (name : String) (args : List Datum) : HeapM Datum := do
  match ← softText d with
  | .markup s => callTextMethod s true name args []
  | .str s => callTextMethod s false name args []
  | _ => callTextMethod "" false name args []

/-- A key in lower case, when it is text. -/
def ignoreCase : Datum → Datum
  | .str s => .str (Text.lower s)
  | .markup s => .markup (Text.lower s)
  | d => d

/-- The parts of an attribute path: the dotted parts of text (digits as positions), or the
value itself. -/
def attributeParts (attr : Datum) : HeapM (List Datum) := do
  match attr with
  | .none => return []
  | .str s | .markup s =>
    (s.splitOn ".").mapM fun part => do
      if !part.isEmpty && part.toList.all (fun c => Unicode.isDigit c.toNat) then
        match Text.readInt part 10 with
        | .ok i => pure (Datum.int i)
        | .error m => throw (.valueError m)
      else pure (Datum.str part)
  | d => return [d]

/-- Follows an attribute path from an item; a default replaces undefined steps. -/
def attrPath (item : Datum) (parts : List Datum) (default : Option Datum) : HeapM Datum :=
  parts.foldlM (fun it part => do
    let v ← getItem it part
    match default, v with
    | some d, .undefined _ => pure d
    | _, _ => pure v) item

/-- A default given as a value: none when it is `none`. -/
def optionalDefault : Datum → Option Datum
  | .none => Option.none
  | d => some d

/-- All items of a stream, and the failure that stopped reading it, if any. -/
def drain (s : Stream) : HeapM (List Datum × Option Failure) := do
  let mut out : Array Datum := #[]
  let mut cur := s
  for _ in [0:streamLimit] do
    match ← tryCatch (Except.ok <$> cur.next) (fun e => pure (Except.error e)) with
    | .ok (some (x, rest)) =>
      out := out.push x
      cur := rest
    | .ok Option.none => return (out.toList, Option.none)
    | .error e => return (out.toList, some e)
  return (out.toList, Option.none)

/-- The items of a value for a generator, and the failure reading them, if any. -/
def drainValue (d : Datum) : HeapM (List Datum × Option Failure) := do
  match ← tryCatch (Except.ok <$> toStream d) (fun e => pure (Except.error e)) with
  | .ok s => drain s
  | .error e => return ([], some e)

/-- Runs a step for each item, collecting what the steps give until one fails. -/
def collectEach (xs : List Datum) (step : Datum → HeapM (List Datum)) :
    HeapM (List Datum × Option Failure) := do
  let mut out : Array Datum := #[]
  for x in xs do
    match ← tryCatch (Except.ok <$> step x) (fun e => pure (Except.error e)) with
    | .ok ys => out := out ++ ys.toArray
    | .error e => return (out.toList, some e)
  return (out.toList, Option.none)

/-- A generator of the items a computation gives, with the failure it met, if any. -/
def generatorOf (fname : String) (body : HeapM (List Datum × Option Failure)) : HeapM Datum := do
  let (xs, f) ← tryCatch body fun e => pure ([], some e)
  return .obj (← Heap.alloc (.generator fname xs f))

/-- The items a generator filter gives for each item of a source, in order: those of the
items read before a failure of the source or of a step, and that failure. -/
def mapSource (source : Datum) (step : Datum → HeapM (List Datum)) :
    HeapM (List Datum × Option Failure) := do
  let (xs, sourceFailure) ← drainValue source
  let (ys, stepFailure) ← collectEach xs step
  return (ys, stepFailure.orElse fun _ => sourceFailure)

/-- The float a value converts to, as the float conversion does. -/
def toFloatValue (d : Datum) : HeapM Float := do
  match d with
  | .float x => return x
  | .int i => liftExcept (intToFloat i)
  | .bool b => return if b then 1 else 0
  | .str s | .markup s =>
    match Text.readDouble s with
    | .ok x => return x
    | .error m => throw (.valueError m)
  | .bytes bs =>
    match Text.readDouble? (String.ofList (bs.map fun b => Char.ofNat b.toNat)) with
    | some x => return x
    | Option.none => throw (.valueError ("could not convert string to float: " ++ quoteBytes bs))
  | .undefined u => throw (undefinedFailure u)
  | _ => throw (.typeError ("float() argument must be a string or a real number, not " ++
      quoteText (← d.typeName)))

/-- Whether a failure is a type or value error, which conversions fall back from. -/
def isConversionFailure (f : Failure) : Bool := f.kind == "TypeError" || f.kind == "ValueError"

/-- Reads an integer in a base given as a value. -/
def intInBase (s : String) (base : Datum) : HeapM Int := do
  let b ← needIndex base
  if !(b == 0 || (2 ≤ b && b ≤ 36)) then throw (.valueError "int() base must be >= 2 and <= 36, or 0")
  match Text.readInt s b.toNat with
  | .ok i => return i
  | .error m => throw (.valueError m)

/-- The integer a value converts to, as the integer conversion does. -/
def toIntValue (d : Datum) (base : Datum) : HeapM Int := do
  match d with
  | .str s | .markup s => intInBase s base
  | .int i => return i
  | .bool b => return if b then 1 else 0
  | .float x => liftExcept (floatToInt x)
  | .bytes bs =>
    match Text.readInt (String.ofList (bs.map fun b => Char.ofNat b.toNat)) 10 with
    | .ok i => return i
    | .error m => throw (.valueError m)
  | .undefined u => throw (undefinedFailure u)
  | _ => throw (.typeError ("int() argument must be a string, a bytes-like object or a real number, not " ++
      quoteText (← d.typeName)))

/-- The `int` filter's conversion: the integer, else the integer part of the float, else
the default. -/
def intOrDefault (d default base : Datum) : HeapM Datum := do
  match ← tryCatch (Except.ok <$> toIntValue d base)
      (fun e => if isConversionFailure e then pure (Except.error e) else throw e) with
  | .ok i => return .int i
  | .error _ =>
    let second : HeapM Int := do
      let x ← toFloatValue d
      liftExcept (floatToInt x)
    tryCatch (Datum.int <$> second) fun e =>
      if isConversionFailure e || e.kind == "OverflowError" then pure default else throw e

/-- Rounds an integer to a negative number of digits, halves to even. -/
def roundIntDigits (i : Int) (digits : Int) : Int :=
  if digits ≥ 0 then i
  else
    let unit : Int := Int.pow 10 (-digits).toNat
    let q := Int.fdiv i unit
    let r := i - q * unit
    let q := if 2 * r > unit || (2 * r == unit && q % 2 != 0) then q + 1 else q
    q * unit

/-- Rounds a float to a number of decimal digits, halves to even on its exact value. -/
def roundFloatDigits (x : Float) (digits : Int) : HeapM Float := do
  if x.isNaN || x.isInf then return x
  if digits > 323 then return x
  if digits < -308 then return 0.0 * x
  match Number.exactValue? x with
  | Option.none => return x
  | some e =>
    let scale := Nat.pow 2 1074
    let (num, den) : Nat × Nat := if digits ≥ 0 then (e.scaled * Nat.pow 10 digits.toNat, scale)
      else (e.scaled, scale * Nat.pow 10 (-digits).toNat)
    let q := num / den
    let r := num % den
    let q := if 2 * r > den || (2 * r == den && q % 2 == 1) then q + 1 else q
    if q == 0 then return Number.copySign 0 x
    let y := if digits ≥ 0 then Number.ofRatio e.negative q (Nat.pow 10 digits.toNat)
      else Number.ofRatio e.negative (q * Nat.pow 10 (-digits).toNat) 1
    if y.isInf then throw (.host "OverflowError" "rounded value too large to represent")
    return y

/-- Rounds a number to a number of digits, as the rounding builtin does. -/
def roundNumber (d precision : Datum) : HeapM Datum := do
  match d with
  | .int _ | .bool _ =>
    let p ← needIndex precision
    return .int (roundIntDigits ((d.index?).getD 0) p)
  | .float x =>
    let p ← needIndex precision
    return .float (← roundFloatDigits x p)
  | _ => throw (.typeError ("type " ++ (← d.typeName) ++ " doesn't define __round__ method"))

/-- The ceiling or floor of a number, as an integer. -/
def ceilFloor (up : Bool) (d : Datum) : HeapM Datum := do
  match d with
  | .int _ | .bool _ => return .int ((d.index?).getD 0)
  | .float x =>
    if x.isNaN then throw (.valueError "cannot convert float NaN to integer")
    match Number.exactValue? x with
    | some e => return .int (if up then e.ceil else e.floor)
    | Option.none => throw (.host "OverflowError" "cannot convert float infinity to integer")
  | .undefined u => throw (undefinedFailure u)
  | _ => throw (.typeError ("must be real number, not " ++ (← d.typeName)))

/-- The text of a file size in bytes, in decimal or binary units. -/
def fileSize (x : Float) (binary : Bool) : HeapM String := do
  let base : Nat := if binary then 1024 else 1000
  let prefixes := if binary then ["KiB", "MiB", "GiB", "TiB", "PiB", "EiB", "ZiB", "YiB"]
    else ["kB", "MB", "GB", "TB", "PB", "EB", "ZB", "YB"]
  if x == 1 then return "1 Byte"
  if Number.compareIntFloat base x == some .gt then
    return (← liftExcept (intText (← liftExcept (floatToInt x)))) ++ " Bytes"
  let baseF := Number.ofRatio false base 1
  let mut last := ""
  for (pre, i) in prefixes.zipIdx do
    let unit := Nat.pow base (i + 2)
    let unitF := Number.ofRatio false unit 1
    let text ← formatWith (.float (baseF * x / unitF)) ".1f"
    last := text ++ " " ++ pre
    if Number.compareIntFloat unit x == some .gt then return last
  return last

/-- The words of text that title case starts anew after: runs of dashes, blanks and
opening brackets, and the runs between them. -/
def titlePieces (s : String) : List String :=
  let sep := fun (c : Char) => c == '-' || Unicode.isSpace c.toNat || c == '(' || c == '\x7b' ||
    c == '[' || c == '<'
  let rec go : Nat → List Char → List String
    | 0, _ => []
    | _ + 1, [] => []
    | fuel + 1, cs@(c :: _) =>
      let kind := sep c
      let run := cs.takeWhile fun ch => sep ch == kind
      String.ofList run :: go fuel (cs.drop run.length)
  go (s.length + 1) s.toList

/-- Text in title case: every piece with its first character upper case and the rest
lower case. -/
def titleText (s : String) : String :=
  String.join ((titlePieces s).map fun piece =>
    match piece.toList with
    | [] => ""
    | c :: rest => Text.upper (String.singleton c) ++ Text.lower (String.ofList rest))

/-- Text without comments and tags, its white space collapsed and its character
references replaced. -/
def stripTags (s : String) : String :=
  let rec dropBetween : Nat → String → String → String → String
    | 0, t, _, _ => t
    | fuel + 1, t, openS, closeS =>
      match t.splitOn openS with
      | before :: after@(_ :: _) =>
        let rest := openS.intercalate after
        match rest.splitOn closeS with
        | _ :: tail@(_ :: _) => dropBetween fuel (before ++ closeS.intercalate tail) openS closeS
        | _ => t
      | _ => t
  let t := dropBetween (s.length + 1) s "<!--" "-->"
  let t := dropBetween (t.length + 1) t "<" ">"
  let t := " ".intercalate (Text.splitWhite t (-1))
  Text.unescapeHtml t

/-- The number of words of text. -/
def wordCount (s : String) : Nat :=
  let rec go : Nat → List Char → Nat
    | 0, _ => 0
    | _ + 1, [] => 0
    | fuel + 1, cs@(c :: _) =>
      if Text.isWordChar c then 1 + go fuel (cs.dropWhile Text.isWordChar)
      else go fuel (cs.dropWhile fun ch => !Text.isWordChar ch)
  go (s.length + 1) s.toList

/-- Whether an attribute name holds a character it may not. -/
def badAttributeName (s : String) : Bool :=
  s.toList.any fun c => c == ' ' || c == '\t' || c == '\n' || c == '\r' || c == '\x0b' ||
    c == '\x0c' || c == '/' || c == '>' || c == '='

/-- The entries of a mapping for filters that read them, failing as reading `items` of
anything else does. -/
def mappingEntries (d : Datum) : HeapM (List (Datum × Datum)) := do
  match d with
  | .undefined u => throw (undefinedFailure u)
  | .obj addr =>
    match ← Heap.get addr with
    | .dict es => return es.toList
    | .namespace _ => throw (.host "AttributeError" "items")
    | _ => throw (.host "AttributeError" (quoteText (← d.typeName) ++ " object has no attribute 'items'"))
  | _ => throw (.host "AttributeError" (quoteText (← d.typeName) ++ " object has no attribute 'items'"))

/-- The name of a filter or test given as a value, or the failure of naming none. -/
def callableName (kind : String) (names : List String) (name : Datum) : HeapM String := do
  hashable name
  let missing := fun (extra : String) => do
    throw (.runtime ("No " ++ kind ++ " named " ++ (← repr name) ++ "." ++ extra))
  match name with
  | .str s | .markup s => if names.contains s then return s else missing ""
  | .undefined u => missing (" (" ++ u.message ++ "; did you forget to quote the callable name?)")
  | _ => missing ""

/-- Quotes a value for a URL query. -/
def urlQuoteValue (d : Datum) : HeapM String := do
  match d with
  | .bytes bs => return (Text.quoteBytesForUrl [] bs).replace "%20" "+"
  | .str s | .markup s => return Text.urlQuote s true
  | _ => return Text.urlQuote (← toText d) true

/-- The reversed iterator of a value, as `reversed` gives it. -/
def reversedOf (d : Datum) : HeapM (Option Datum) := do
  let iter := fun (name : String) (xs : List Datum) => do
    return some (Datum.obj (← Heap.alloc (.generator name xs.reverse Option.none)))
  match d with
  | .tuple xs => iter "reversed" xs
  | .group k v => iter "reversed" [k, v]
  | .bytes _ => iter "reversed" (← items d)
  | .range _ _ _ => iter "range_iterator" (← items d)
  | .undefined u => if u.strict then throw (undefinedFailure u) else iter "reversed" []
  | .view k _ =>
    iter (match k with
      | .keys => "dict_reversekeyiterator"
      | .values => "dict_reversevalueiterator"
      | .items => "dict_reverseitemiterator") (← items d)
  | .obj addr =>
    match ← Heap.get addr with
    | .list xs => iter "list_reverseiterator" xs.toList
    | .dict _ => iter "dict_reversekeyiterator" (← items d)
    | _ => return Option.none
  | _ => return Option.none

/-- Applies a filter to a value; `fuel` bounds filters applying filters. -/
def applyFilter (env : FilterEnv) : Nat → String → Datum → List Datum → List (String × Datum) → HeapM Datum
  | 0, _, _, _, _ => throw (recursionFailure " while applying a filter")
  | fuel + 1, name, value, args, kwargs => do
  let plain := fun (fname : String) (params : List String) (required : Nat) =>
    (Signature.mk fname ("value" :: params) (required + 1) 0 false false).bind (value :: args) kwargs
  let injected := fun (fname : String) (params : List String) (required : Nat) => do
    let b ← (Signature.mk fname ("env" :: "value" :: params) (required + 2) 0 false false).bind
      (Datum.none :: value :: args) kwargs
    pure { b with slots := b.slots.extract 1 b.slots.size }
  let collecting := fun (fname : String) => do
    let b ← (Signature.mk fname ["context", "value"] 2 0 true true).bind (Datum.none :: value :: args) kwargs
    pure { b with slots := b.slots.extract 1 b.slots.size }
  let truth := fun (d : Datum) => truthy d
  match name with
  | "abs" =>
    let v ← checkOneArgument "abs" (value :: args) kwargs
    match v with
    | .int i => return .int i.natAbs
    | .bool b => return .int (if b then 1 else 0)
    | .float x => return .float x.abs
    | _ => throw (.typeError ("bad operand type for abs(): " ++ quoteText (← v.typeName)))
  | "attr" =>
    let b ← injected "do_attr" ["name"] 1
    let obj := b.get 0 .none
    let attr ← toText (b.get 1 .none)
    match ← rawAttr obj attr with
    | some v => return v
    | Option.none => missingAttribute obj attr
  | "batch" =>
    let b ← plain "do_batch" ["linecount", "fill_with"] 1
    let linecount := b.get 1 .none
    let fill := b.get 2 .none
    generatorOf "do_batch" do
      let (xs, sourceFailure) ← drainValue (b.get 0 .none)
      let mut out : Array Datum := #[]
      let mut tmp : Array Datum := #[]
      for x in xs do
        if ← equal (.int tmp.size) linecount then
          out := out.push (← newList tmp)
          tmp := #[]
        tmp := tmp.push x
      if let some f := sourceFailure then return (out.toList, some f)
      if !tmp.isEmpty then
        if !(fill matches .none) then
          if ← order .lt (.int tmp.size) linecount then
            let more ← binary .sub linecount (.int tmp.size)
            let padded ← binary .mul (← newList #[fill]) more
            tmp := tmp ++ (← items padded).toArray
        out := out.push (← newList tmp)
      return (out.toList, Option.none)
  | "capitalize" =>
    let b ← plain "do_capitalize" [] 0
    textCall (b.get 0 .none) "capitalize" []
  | "center" =>
    let b ← plain "do_center" ["width"] 0
    textCall (b.get 0 .none) "center" [b.get 1 (.int 80)]
  | "count" | "length" =>
    let v ← checkOneArgument "len" (value :: args) kwargs
    return .int (← length v)
  | "d" | "default" =>
    let b ← plain "do_default" ["default_value", "boolean"] 0
    let v := b.get 0 .none
    let fallback := b.get 1 (.str "")
    if v matches .undefined _ then return fallback
    if ← truth (b.get 2 (.bool false)) then
      if !(← truth v) then return fallback
    return v
  | "dictsort" =>
    let b ← plain "do_dictsort" ["case_sensitive", "by", "reverse"] 0
    let byWhat := b.get 2 (.str "key")
    let pos ← if ← equal byWhat (.str "key") then pure 0
      else if ← equal byWhat (.str "value") then pure 1
      else throw (.filterArgument "You can only sort by either \"key\" or \"value\"")
    let entries ← mappingEntries (b.get 0 .none)
    let caseSensitive := b.get 1 (.bool false)
    let reverse ← sortFlag (b.get 3 (.bool false))
    let pairs := entries.map fun (k, v) => Datum.tuple [k, v]
    let key := fun (item : Datum) => do
      let part := match item with
        | .tuple [k, v] => if pos == 0 then k else v
        | other => other
      if ← truth caseSensitive then pure part else pure (ignoreCase part)
    newList (← sortedBy pairs key reverse).toArray
  | "e" | "escape" =>
    let b ← (Signature.mk "escape" ["s"] 1 1 false false).bind (value :: args) kwargs
    return .markup (← escape (b.get 0 .none))
  | "filesizeformat" =>
    let b ← plain "do_filesizeformat" ["binary"] 0
    let x ← toFloatValue (b.get 0 .none)
    return .str (← fileSize x (← truth (b.get 1 (.bool false))))
  | "first" =>
    let b ← injected "sync_do_first" [] 0
    let s ← toStream (b.get 0 .none)
    match ← s.next with
    | some (x, _) => return x
    | Option.none => return strictUndefined "No first item, sequence was empty."
  | "float" =>
    let b ← plain "do_float" ["default"] 0
    tryCatch (Datum.float <$> toFloatValue (b.get 0 .none)) fun e =>
      if isConversionFailure e then pure (b.get 1 (.float 0)) else throw e
  | "forceescape" =>
    let b ← plain "do_forceescape" [] 0
    let v := b.get 0 .none
    let text ← if ← hasSafeForm v then escape v else toText v
    return .markup (escapeText text)
  | "format" =>
    let b ← (Signature.mk "do_format" ["value"] 1 0 true true).bind (value :: args) kwargs
    if !b.extra.isEmpty && !b.extraKw.isEmpty then
      throw (.filterArgument "can't handle positional and keyword arguments at the same time")
    let fmtArgs ← if !b.extraKw.isEmpty then
        newDict (b.extraKw.map fun (k, v) => (Datum.str k, v)).toArray
      else pure (.tuple b.extra)
    binary .mod (← softText (b.get 0 .none)) fmtArgs
  | "groupby" =>
    let b ← injected "sync_do_groupby" ["attribute", "default", "case_sensitive"] 1
    let parts ← attributeParts (b.get 1 .none)
    let default := optionalDefault (b.get 2 .none)
    let caseSensitive ← truth (b.get 3 (.bool false))
    let keyOf := fun (post : Bool) (item : Datum) => do
      let v ← attrPath item parts default
      pure (if post then ignoreCase v else v)
    let xs ← items (b.get 0 .none)
    let sorted ← sortedBy xs (keyOf (!caseSensitive)) false
    let mut groups : Array (Datum × Array Datum) := #[]
    for x in sorted do
      let k ← keyOf (!caseSensitive) x
      match groups.back? with
      | some (gk, members) =>
        if ← equal gk k then
          groups := groups.pop.push (gk, members.push x)
        else groups := groups.push (k, #[x])
      | Option.none => groups := groups.push (k, #[x])
    let mut out : Array Datum := #[]
    for (k, members) in groups do
      let key ← if caseSensitive then pure k else keyOf false (members[0]!)
      out := out.push (.group key (← newList members))
    newList out
  | "indent" =>
    let b ← plain "do_indent" ["width", "first", "blank"] 0
    let width := b.get 1 (.int 4)
    let indention ← match width with
      | .str w | .markup w => pure w
      | _ => toText (← binary .mul (.str " ") width)
    let s := b.get 0 .none
    let (text, safe) ← match s with
      | .str t => pure (t, false)
      | .markup t => pure (t, true)
      | .undefined u => throw (undefinedFailure u)
      | .tuple _ => throw (.typeError "can only concatenate tuple (not \"str\") to tuple")
      | _ =>
        match s with
        | .obj addr =>
          match ← Heap.get addr with
          | .list _ => throw (.host "AttributeError" "'list' object has no attribute 'splitlines'")
          | _ => throw (.typeError ("unsupported operand type(s) for +=: " ++ quoteText (← s.typeName) ++ " and 'str'"))
        | _ => throw (.typeError ("unsupported operand type(s) for +=: " ++ quoteText (← s.typeName) ++ " and 'str'"))
    let ind := if safe then escapeText indention else indention
    let lines := Text.splitLines (text ++ "\n") false
    let rv ← if ← truth (b.get 3 (.bool false)) then pure (("\n" ++ ind).intercalate lines)
      else pure (match lines with
        | [] => ""
        | l :: rest =>
          if rest.isEmpty then l
          else l ++ "\n" ++ "\n".intercalate (rest.map fun line => if line.isEmpty then line else ind ++ line))
    let rv := if ← truth (b.get 2 (.bool false)) then ind ++ rv else rv
    return if safe then .markup rv else .str rv
  | "int" =>
    let b ← plain "do_int" ["default", "base"] 0
    intOrDefault (b.get 0 .none) (b.get 1 (.int 0)) (b.get 2 (.int 10))
  | "join" =>
    let b ← injected "sync_do_join" ["d", "attribute"] 0
    let sep := b.get 1 (.str "")
    let attr := b.get 2 .none
    let parts ← attributeParts attr
    let xs ← items (b.get 0 .none)
    let xs ← if attr matches .none then pure xs else xs.mapM fun x => attrPath x parts Option.none
    if !env.autoescape then
      let texts ← xs.mapM toText
      return .str ((← toText sep).intercalate texts)
    if ← hasSafeForm sep then
      let texts ← xs.mapM fun x => do
        if ← hasSafeForm x then escape x else pure (escapeText (← toText x))
      return .markup ((← escape sep).intercalate texts)
    let mut anySafe := false
    for x in xs do
      if ← hasSafeForm x then anySafe := true
    if anySafe then
      let texts ← xs.mapM fun x => do
        if ← hasSafeForm x then escape x else pure (escapeText (← toText x))
      return .markup ((← escape sep).intercalate texts)
    let texts ← xs.mapM toText
    return .str ((← toText sep).intercalate texts)
  | "last" =>
    let b ← injected "do_last" [] 0
    let seq := b.get 0 .none
    match ← reversedOf seq with
    | some it =>
      match ← (← toStream it).next with
      | some (x, _) => return x
      | Option.none => return strictUndefined "No last item, sequence was empty."
    | Option.none =>
      match seq with
      | .str s | .markup s =>
        match s.toList.getLast? with
        | some c => return (if seq matches .markup _ then .markup (String.singleton c) else .str (String.singleton c))
        | Option.none => return strictUndefined "No last item, sequence was empty."
      | _ => throw (.typeError (quoteText (← seq.typeName) ++ " object is not reversible"))
  | "list" =>
    let b ← plain "sync_do_list" [] 0
    newList (← items (b.get 0 .none)).toArray
  | "lower" =>
    let b ← plain "do_lower" [] 0
    textCall (b.get 0 .none) "lower" []
  | "upper" =>
    let b ← plain "do_upper" [] 0
    textCall (b.get 0 .none) "upper" []
  | "items" =>
    let b ← plain "do_items" [] 0
    let v := b.get 0 .none
    generatorOf "do_items" do
      match v with
      | .undefined _ => return ([], Option.none)
      | .obj addr =>
        match ← Heap.get addr with
        | .dict es => return (es.toList.map fun (k, x) => Datum.tuple [k, x], Option.none)
        | _ => return ([], some (.typeError "Can only get item pairs from a mapping."))
      | _ => return ([], some (.typeError "Can only get item pairs from a mapping."))
  | "map" =>
    let b ← collecting "sync_do_map"
    let seq := b.get 0 .none
    generatorOf "sync_do_map" do
      if !(← truth seq) then return ([], Option.none)
      let step ← if b.extra.isEmpty && (b.extraKw.lookup "attribute").isSome then
          let attr := (b.extraKw.lookup "attribute").getD .none
          let default := optionalDefault ((b.extraKw.lookup "default").getD .none)
          match b.extraKw.filter fun (k, _) => k != "attribute" && k != "default" with
          | (k, _) :: _ => throw (.filterArgument ("Unexpected keyword argument " ++ quoteText k))
          | [] => pure ()
          let parts ← attributeParts attr
          pure fun (x : Datum) => do return [← attrPath x parts default]
        else
          match b.extra with
          | [] => throw (.filterArgument "map requires a filter argument")
          | fname :: fargs =>
            pure fun (x : Datum) => do
              let f ← callableName "filter" filterNames fname
              return [← applyFilter env fuel f x fargs b.extraKw]
      mapSource seq step
  | "min" | "max" =>
    let b ← injected ("do_" ++ name) ["case_sensitive", "attribute"] 0
    let s ← toStream (b.get 0 .none)
    match ← s.next with
    | Option.none => return strictUndefined "No aggregated item, sequence was empty."
    | some (first, rest) =>
      let caseSensitive ← truth (b.get 1 (.bool false))
      let parts ← attributeParts (b.get 2 .none)
      let key := fun (x : Datum) => do
        let v ← attrPath x parts Option.none
        pure (if caseSensitive then v else ignoreCase v)
      let (more, failure) ← drain rest
      if let some f := failure then throw f
      extremum first more key (if name == "min" then .lt else .gt)
  | "pprint" =>
    let b ← plain "do_pprint" [] 0
    return .str (← prettyPrint (b.get 0 .none))
  | "random" =>
    let b ← injected "do_random" [] 0
    let seq := b.get 0 .none
    let n ← length seq
    if n == 0 then return strictUndefined "No random item, sequence was empty."
    rawItem seq (.int 0)
  | "reject" | "rejectattr" | "select" | "selectattr" =>
    let b ← collecting ("sync_do_" ++ name)
    let seq := b.get 0 .none
    let lookupAttr := name.endsWith "attr"
    let keep := name.startsWith "select"
    generatorOf ("sync_do_" ++ name) do
      if !(← truth seq) then return ([], Option.none)
      let (parts, rest) ← if lookupAttr then
          match b.extra with
          | attr :: more => pure (← attributeParts attr, more)
          | [] => throw (.filterArgument "Missing parameter for attribute name")
        else pure ([], b.extra)
      let test := fun (x : Datum) => do
        let v ← if lookupAttr then attrPath x parts Option.none else pure x
        match rest with
        | [] => truth v
        | tname :: targs =>
          let t ← callableName "test" testNames tname
          applyTest t v targs b.extraKw
      mapSource seq fun x => do
        let r ← test x
        return if r == keep then [x] else []
  | "replace" =>
    let b ← injected "do_replace" ["old", "new", "count"] 2
    let count := b.get 3 (.int (-1))
    let count := if count matches .none then Datum.int (-1) else count
    let s := b.get 0 .none
    let old := b.get 1 .none
    let new := b.get 2 .none
    if !env.autoescape then
      let st ← toText s
      let ot ← toText old
      let nt ← toText new
      return ← callTextMethod st false "replace" [.str ot, .str nt, count] []
    let s ← if (← hasSafeForm old) || ((← hasSafeForm new) && !(← hasSafeForm s)) then
        pure (Datum.markup (← escape s))
      else softText s
    textCall s "replace" [← softText old, ← softText new, count]
  | "reverse" =>
    let b ← plain "do_reverse" [] 0
    let v := b.get 0 .none
    match v with
    | .str s => return .str (String.ofList s.toList.reverse)
    | .markup s => return .markup (String.ofList s.toList.reverse)
    | _ =>
      match ← reversedOf v with
      | some it => return it
      | Option.none =>
        let xs ← tryCatch (items v) fun e =>
          if e.kind == "TypeError" then throw (.filterArgument "argument must be iterable") else throw e
        newList xs.reverse.toArray
  | "round" =>
    let b ← plain "do_round" ["precision", "method"] 0
    let method := b.get 2 (.str "common")
    hashable method
    let precision := b.get 1 (.int 0)
    if ← equal method (.str "common") then return ← roundNumber (b.get 0 .none) precision
    let up ← if ← equal method (.str "ceil") then pure true
      else if ← equal method (.str "floor") then pure false
      else throw (.filterArgument "method must be common, ceil or floor")
    let factor ← binary .pow (.int 10) precision
    let scaled ← binary .mul (b.get 0 .none) factor
    binary .div (← ceilFloor up scaled) factor
  | "safe" =>
    let b ← plain "do_mark_safe" [] 0
    let v := b.get 0 .none
    if ← hasSafeForm v then return .markup (← escape v)
    return .markup (← toText v)
  | "slice" =>
    let b ← plain "sync_do_slice" ["slices", "fill_with"] 1
    let slices := b.get 1 .none
    let fill := b.get 2 .none
    generatorOf "sync_do_slice" do
      let seq ← items (b.get 0 .none)
      let len := seq.length
      let per ← binary .floorDiv (.int len) slices
      let extra ← binary .mod (.int len) slices
      let n ← needIndex slices
      let per := (per.index?).getD 0
      let extra := (extra.index?).getD 0
      let arr := seq.toArray
      let mut offset : Int := 0
      let mut out : Array Datum := #[]
      for k in [0:n.toNat] do
        let start := offset + k * per
        if (k : Int) < extra then offset := offset + 1
        let stop := offset + (k + 1) * per
        let mut tmp := (arr.toList.drop start.toNat).take (stop - start).toNat
        if !(fill matches .none) && (k : Int) ≥ extra then tmp := tmp ++ [fill]
        out := out.push (← newList tmp.toArray)
      return (out.toList, Option.none)
  | "sort" =>
    let b ← injected "do_sort" ["reverse", "case_sensitive", "attribute"] 0
    let caseSensitive ← truth (b.get 2 (.bool false))
    let attr := b.get 3 .none
    let paths ← match attr with
      | .str s | .markup s => (s.splitOn ",").mapM fun p => attributeParts (.str p)
      | _ => do pure [← attributeParts attr]
    let xs ← items (b.get 0 .none)
    let reverse ← sortFlag (b.get 1 (.bool false))
    let key := fun (x : Datum) => do
      let ks ← paths.mapM fun parts => do
        let v ← attrPath x parts Option.none
        pure (if caseSensitive then v else ignoreCase v)
      pure (Datum.tuple ks)
    newList (← sortedBy xs key reverse).toArray
  | "string" =>
    let b ← (Signature.mk "soft_str" ["s"] 1 1 false false).bind (value :: args) kwargs
    softText (b.get 0 .none)
  | "striptags" =>
    let b ← plain "do_striptags" [] 0
    let v := b.get 0 .none
    let text ← if ← hasSafeForm v then escape v else toText v
    return .str (stripTags text)
  | "sum" =>
    let b ← injected "sync_do_sum" ["attribute", "start"] 0
    let attr := b.get 1 .none
    let parts ← attributeParts attr
    let xs ← items (b.get 0 .none)
    let xs ← if attr matches .none then pure xs else xs.mapM fun x => attrPath x parts Option.none
    sumItems xs (b.get 2 (.int 0))
  | "title" =>
    let b ← plain "do_title" [] 0
    match ← softText (b.get 0 .none) with
    | .str s | .markup s => return .str (titleText s)
    | _ => return .str ""
  | "trim" =>
    let b ← plain "do_trim" ["chars"] 0
    textCall (b.get 0 .none) "strip" [b.get 1 .none]
  | "truncate" =>
    let b ← injected "do_truncate" ["length", "killwords", "end", "leeway"] 0
    let s := b.get 0 .none
    let len := b.get 1 (.int 255)
    let ending := b.get 3 (.str "...")
    let leeway := b.get 4 .none
    let leeway := if leeway matches .none then Datum.int 5 else leeway
    let endLen ← length ending
    if !(← order .gteq len (.int endLen)) then
      throw (.host "AssertionError" ("expected length >= " ++ toString endLen ++ ", got " ++ (← toText len)))
    if !(← order .gteq leeway (.int 0)) then
      throw (.host "AssertionError" ("expected leeway >= 0, got " ++ (← toText leeway)))
    if ← order .lteq (.int (← length s)) (← binary .add len leeway) then return s
    let cut ← rawItem s (.slice .none (← binary .sub len (.int endLen)) .none)
    if ← truth (b.get 2 (.bool false)) then return ← binary .add cut ending
    let parts ← callMethod cut "rsplit" [.str " ", .int 1] []
    binary .add (← rawItem parts (.int 0)) ending
  | "unique" =>
    let b ← injected "do_unique" ["case_sensitive", "attribute"] 0
    generatorOf "do_unique" do
      let caseSensitive ← truth (b.get 1 (.bool false))
      let parts ← attributeParts (b.get 2 .none)
      let (xs, sourceFailure) ← drainValue (b.get 0 .none)
      let mut seen : Array Datum := #[]
      let mut out : Array Datum := #[]
      for x in xs do
        let step : HeapM (Option Datum) := do
          let v ← attrPath x parts Option.none
          let k := if caseSensitive then v else ignoreCase v
          hashable k
          for s in seen do
            if ← equal s k then return Option.none
          return some k
        match ← tryCatch (Except.ok <$> step) (fun e => pure (Except.error e)) with
        | .ok (some k) =>
          seen := seen.push k
          out := out.push x
        | .ok Option.none => pure ()
        | .error e => return (out.toList, some e)
      return (out.toList, sourceFailure)
  | "urlencode" =>
    let b ← plain "do_urlencode" [] 0
    let v := b.get 0 .none
    match v with
    | .str t | .markup t => return .str (Text.urlQuote t false)
    | .bytes bs => return .str (Text.quoteBytesForUrl [47] bs)
    | _ =>
      if !(← isIterable v) then return .str (Text.urlQuote (← toText v) false)
      let pairs ← match v with
        | .obj addr => do
          match ← Heap.get addr with
          | .dict es => pure (es.toList.map fun (k, x) => Datum.tuple [k, x])
          | _ => items v
        | _ => items v
      let parts ← pairs.mapM fun p => do
        let kv ← tryCatch (items p) fun e =>
          if e.kind == "TypeError" then do
            throw (.typeError ("cannot unpack non-iterable " ++ (← p.typeName) ++ " object"))
          else throw e
        match kv with
        | [k, x] => pure ((← urlQuoteValue k) ++ "=" ++ (← urlQuoteValue x))
        | _ =>
          if kv.length > 2 then throw (.valueError "too many values to unpack (expected 2)")
          else throw (.valueError ("not enough values to unpack (expected 2, got " ++ toString kv.length ++ ")"))
      return .str ("&".intercalate parts)
  | "urlize" =>
    let b ← injected "do_urlize" ["trim_url_limit", "nofollow", "target", "rel", "extra_schemes"] 0
    let relArg := b.get 4 .none
    let relText ← if ← truth relArg then toText relArg else pure ""
    let mut relParts := Text.splitWhite relText (-1)
    if ← truth (b.get 2 (.bool false)) then relParts := relParts ++ ["nofollow"]
    relParts := relParts ++ ["noopener"]
    let sortedRel := relParts.foldl (fun acc p => if acc.contains p then acc else acc ++ [p]) []
    let sortedRel := (sortedRel.toArray.qsort (· < ·)).toList
    let rel := " ".intercalate sortedRel
    let target := b.get 3 .none
    let schemes ← match b.get 5 .none with
      | .none => pure []
      | d => do (← items d).mapM toText
    for scheme in schemes do
      if !Text.isSchemePrefix scheme then
        throw (.filterArgument (quoteText scheme ++ " is not a valid URI scheme prefix."))
    let limit ← match b.get 1 .none with
      | .none => pure Option.none
      | d => some <$> needIndex d
    let targetAttr ← if ← truth target then
        pure (" target=\"" ++ (← escape target) ++ "\"") else pure ""
    let options : Text.LinkOptions := {
      trimLimit := limit
      relAttr := if rel.isEmpty then "" else " rel=\"" ++ escapeText rel ++ "\""
      targetAttr := targetAttr
      extraSchemes := schemes }
    let text := Text.urlize (← escape (b.get 0 .none)) options
    return if env.autoescape then .markup text else .str text
  | "wordcount" =>
    let b ← plain "do_wordcount" [] 0
    match ← softText (b.get 0 .none) with
    | .str s | .markup s => return .int (wordCount s)
    | _ => return .int 0
  | "wordwrap" =>
    let b ← injected "do_wordwrap" ["width", "break_long_words", "wrapstring", "break_on_hyphens"] 0
    let s := b.get 0 .none
    let text ← match s with
      | .str t | .markup t => pure t
      | .undefined u => throw (undefinedFailure u)
      | _ => throw (.host "AttributeError" (quoteText (← s.typeName) ++ " object has no attribute 'splitlines'"))
    let width ← needIndex (b.get 1 (.int 79))
    let breakLong ← truth (b.get 2 (.bool true))
    let wrapArg := b.get 3 .none
    let wrapstring ← match wrapArg with
      | .none => pure "\n"
      | .str w | .markup w => pure w
      | _ => throw (.host "AttributeError" (quoteText (← wrapArg.typeName) ++ " object has no attribute 'join'"))
    let hyphens ← truth (b.get 4 (.bool true))
    let lines := Text.splitLines text false
    if width ≤ 0 && !lines.isEmpty then
      throw (.valueError ("invalid width " ++ toString width ++ " (must be > 0)"))
    let wrapped := lines.map fun line =>
      wrapstring.intercalate (Text.wrapLine line width.toNat breakLong hyphens)
    return .str (wrapstring.intercalate wrapped)
  | "xmlattr" =>
    let b ← injected "do_xmlattr" ["autospace"] 0
    let entries ← mappingEntries (b.get 0 .none)
    let mut parts : List String := []
    for (k, v) in entries do
      match v with
      | .none | .undefined _ => pure ()
      | _ =>
        match k with
        | .str key | .markup key =>
          if badAttributeName key then
            throw (.valueError ("Invalid character in attribute name: " ++ (← repr k)))
          parts := parts ++ [(← escape k) ++ "=\"" ++ (← escape v) ++ "\""]
        | _ =>
          throw (.typeError ("expected string or bytes-like object, got " ++ quoteText (← k.typeName)))
    let rv := " ".intercalate parts
    let rv := if (← truth (b.get 1 (.bool true))) && !rv.isEmpty then " " ++ rv else rv
    return if env.autoescape then .markup rv else .str rv
  | "tojson" =>
    let b ← injected "do_tojson" ["indent"] 0
    let indent ← match b.get 1 .none with
      | .none => pure Option.none
      | .str s | .markup s => pure (some s)
      | d => do pure (some (← toText (← binary .mul (.str " ") d)))
    return .markup (← jsonText (b.get 0 .none) indent)
  | _ => throw (.runtime ("No filter named " ++ quoteText name ++ "."))

end Datum

end NodeImage.Template
