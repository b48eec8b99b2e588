import NodeImage.Template.Arith
import NodeImage.Text.Search
import NodeImage.Text.Case
import NodeImage.Text.Utf8

/-!
# Methods of values and the global callables

Calling a method bound to a value, and calling the callables every template sees: `range`,
`dict`, `namespace`, `cycler`, `joiner` and `lipsum`.

Each method takes its arguments as the type defines it: some take none, some exactly one,
some a range of positional ones, some accept keywords; a call that does not fit fails with
the message that kind of method gives. The methods of texts work by code point; on safe
text the ones that build new text escape their text arguments and return safe text. The
methods of lists and mappings change them in place. A loop's `cycle` picks among its
arguments by the position, and `changed` tells whether its arguments differ from the last
call's.
-/

namespace NodeImage.Template

/-- How a method takes its arguments. -/
inductive Arity where
  /-- No arguments. -/
  | nothing
  /-- Exactly one positional argument. -/
  | exactlyOne
  /-- Between `min` and `max` positional arguments, counted as `expected at least`. -/
  | span (min max : Nat)
  /-- Between `min` and `max` positional arguments, counted as `takes at least`. -/
  | older (min max : Nat)
  /-- Up to the named parameters, by position or by keyword. -/
  | named (params : List String)
  /-- Only the named parameters, by keyword. -/
  | keywordsOnly (params : List String)

/-- `argument` or `arguments`. -/
def plural (n : Nat) : String := if n == 1 then "argument" else "arguments"

/-- Binds the arguments of a call to a method's parameters; for `named`, keywords fill the
positions after the positional ones. -/
def Arity.bind (a : Arity) (owner name : String) (args : List Datum)
    (kwargs : List (String × Datum)) : HeapM (List (Option Datum)) := do
  let qual := owner ++ "." ++ name ++ "()"
  let n := args.length
  match a with
  | .nothing =>
    if !kwargs.isEmpty then throw (.typeError (qual ++ " takes no keyword arguments"))
    if n != 0 then throw (.typeError (qual ++ " takes no arguments (" ++ toString n ++ " given)"))
    return []
  | .exactlyOne =>
    if !kwargs.isEmpty then throw (.typeError (qual ++ " takes no keyword arguments"))
    if n != 1 then throw (.typeError (qual ++ " takes exactly one argument (" ++ toString n ++ " given)"))
    return args.map some
  | .span lo hi =>
    if !kwargs.isEmpty then throw (.typeError (qual ++ " takes no keyword arguments"))
    if n < lo then
      throw (.typeError (name ++ " expected " ++ (if lo == hi then "" else "at least ") ++
        toString lo ++ " " ++ plural lo ++ ", got " ++ toString n))
    if n > hi then
      throw (.typeError (name ++ " expected " ++ (if lo == hi then "" else "at most ") ++
        toString hi ++ " " ++ plural hi ++ ", got " ++ toString n))
    return args.map some ++ List.replicate (hi - n) Option.none
  | .older lo hi =>
    if !kwargs.isEmpty then throw (.typeError (name ++ "() takes no keyword arguments"))
    if n < lo then
      throw (.typeError (name ++ "() takes at least " ++ toString lo ++ " " ++ plural lo ++
        " (" ++ toString n ++ " given)"))
    if n > hi then
      throw (.typeError (name ++ "() takes at most " ++ toString hi ++ " " ++ plural hi ++
        " (" ++ toString n ++ " given)"))
    return args.map some ++ List.replicate (hi - n) Option.none
  | .named params =>
    if n > params.length then
      throw (.typeError (name ++ "() takes at most " ++ toString params.length ++ " " ++
        plural params.length ++ " (" ++ toString n ++ " given)"))
    for (k, _) in kwargs do
      match params.idxOf? k with
      | Option.none => throw (.typeError (quoteText k ++ " is an invalid keyword argument for " ++ name ++ "()"))
      | some i =>
        if i < n then
          throw (.typeError ("argument for " ++ name ++ "() given by name (" ++ quoteText k ++
            ") and position (" ++ toString (i + 1) ++ ")"))
    return (List.range params.length).map fun i =>
      if i < n then args[i]? else kwargs.lookup (params[i]!)
  | .keywordsOnly params =>
    if n > 0 then throw (.typeError (name ++ "() takes no positional arguments"))
    for (k, _) in kwargs do
      if !params.contains k then
        throw (.typeError (quoteText k ++ " is an invalid keyword argument for " ++ name ++ "()"))
    return params.map fun p => kwargs.lookup p

namespace Datum

/-- The arity of a method of texts. -/
def textArity (name : String) : Arity :=
  if ["capitalize", "casefold", "isalnum", "isalpha", "isascii", "isdecimal", "isdigit",
      "isidentifier", "islower", "isnumeric", "isprintable", "isspace", "istitle", "isupper",
      "lower", "swapcase", "title", "upper", "unescape", "striptags"].contains name then .nothing
  else if ["format_map", "join", "partition", "removeprefix", "removesuffix", "rpartition",
      "translate", "zfill"].contains name then .exactlyOne
  else if ["center", "ljust", "rjust"].contains name then .span 1 2
  else if ["lstrip", "rstrip", "strip"].contains name then .span 0 1
  else if name == "replace" then .span 2 3
  else if ["count", "endswith", "find", "index", "rfind", "rindex", "startswith"].contains name then
    .older 1 3
  else if name == "encode" then .named ["encoding", "errors"]
  else if name == "expandtabs" then .named ["tabsize"]
  else if name == "split" || name == "rsplit" then .named ["sep", "maxsplit"]
  else if name == "splitlines" then .named ["keepends"]
  else .nothing

/-- The integer an argument must be, as a width or count. -/
def needIndex (d : Datum) : HeapM Int := do
  match d.index? with
  | some i => return i
  | Option.none =>
    throw (.typeError (quoteText (← d.typeName) ++ " object cannot be interpreted as an integer"))

/-- The text an argument must be, with the message refusing anything else. -/
def needText (message : String) (d : Datum) : HeapM String := do
  match d with
  | .str s | .markup s => return s
  | _ => throw (.typeError (message ++ (← d.typeName)))

/-- An optional slice bound argument of a search method. -/
def boundArg : Option Datum → HeapM (Option Int)
  | Option.none => return Option.none
  | some d => sliceBound d

/-- The fill character argument of the padding methods. -/
def fillArg : Option Datum → HeapM Char
  | Option.none => return ' '
  | some (.str s) | some (.markup s) =>
    match s.toList with
    | [c] => return c
    | _ => throw (.typeError "The fill character must be exactly one character long")
  | some d => do
    throw (.typeError ("The fill character must be a unicode character, not " ++ (← d.typeName)))

/-- Encodes text by a named encoding. -/
def encodeText (s : String) (encoding errors : String) : HeapM (List UInt8) := do
  let enc := (encoding.toLower.replace "-" "_").replace " " "_"
  let codeName := if enc == "utf_8" || enc == "utf8" then "utf-8"
    else if enc == "ascii" || enc == "us_ascii" then "ascii"
    else if enc == "latin_1" || enc == "latin1" || enc == "iso_8859_1" || enc == "l1" then "latin-1"
    else ""
  if codeName.isEmpty then throw (.host "LookupError" ("unknown encoding: " ++ encoding))
  let limit := if codeName == "ascii" then 128 else if codeName == "latin-1" then 256 else 0x110000
  let reason := if codeName == "utf-8" then "surrogates not allowed"
    else "ordinal not in range(" ++ toString limit ++ ")"
  let cs := s.toList
  let mut out : List UInt8 := []
  let mut i := 0
  for c in cs do
    let bad := c.toNat ≥ limit || (Unicode.surrogateOf? c).isSome
    if bad then
      if errors == "ignore" then pure ()
      else if errors == "replace" then out := out ++ [63]
      else
        let shown := match Unicode.surrogateOf? c with
          | some v => "\\u" ++ hexPadded 4 v
          | Option.none => (quoteChar '\'' c)
        throw (.host "UnicodeEncodeError" (quoteText codeName ++ " codec can't encode character '" ++
          shown ++ "' in position " ++ toString i ++ ": " ++ reason))
    else if codeName == "utf-8" then out := out ++ Text.Utf8.encode (String.singleton c)
    else out := out ++ [c.toNat.toUInt8]
    i := i + 1
  return out

/-- Calls a method of texts; `safe` for safe text, whose text-building methods escape their
text arguments and return safe text. -/
def callTextMethod (s : String) (safe : Bool) (name : String) (args : List Datum)
    (kwargs : List (String × Datum)) : HeapM Datum := do
  let owner := if safe then "Markup" else "str"
  let args ← if safe && ["capitalize", "title", "lower", "upper", "replace", "ljust", "rjust",
      "lstrip", "rstrip", "center", "strip", "translate", "expandtabs", "swapcase", "zfill",
      "casefold", "removeprefix", "removesuffix", "partition", "rpartition"].contains name then
      args.mapM fun a => do
        match a with
        | .str t => pure (Datum.markup (escapeText t))
        | _ => pure a
    else pure args
  let wrap := fun (t : String) => if safe then Datum.markup t else Datum.str t
  let ps ← if name == "format" then pure [] else (textArity name).bind owner name args kwargs
  let arg := fun (i : Nat) => (ps[i]?).getD Option.none
  let need := fun (i : Nat) => (arg i).getD .none
  match name with
  | "capitalize" => return wrap (Text.capitalize s)
  | "casefold" => return wrap (Text.casefold s)
  | "lower" => return wrap (Text.lower s)
  | "upper" => return wrap (Text.upper s)
  | "swapcase" => return wrap (Text.swapcase s)
  | "title" => return wrap (Text.title s)
  | "isalnum" => return .bool (Text.allChars Unicode.isAlnum s)
  | "isalpha" => return .bool (Text.allChars Unicode.isAlpha s)
  | "isascii" => return .bool (s.toList.all fun c => c.toNat < 128)
  | "isdecimal" => return .bool (Text.allChars Unicode.isDecimal s)
  | "isdigit" => return .bool (Text.allChars Unicode.isDigit s)
  | "isnumeric" => return .bool (Text.allChars Unicode.isNumeric s)
  | "isspace" => return .bool (Text.allChars Unicode.isSpace s)
  | "isidentifier" => return .bool (Text.isIdentifier s)
  | "islower" => return .bool (Text.isLowerCase s)
  | "isupper" => return .bool (Text.isUpperCase s)
  | "istitle" => return .bool (Text.isTitleCase s)
  | "isprintable" => return .bool (s.toList.all fun c => Unicode.isPrintable c.toNat)
  | "center" | "ljust" | "rjust" =>
    let width ← needIndex (need 0)
    let fill ← fillArg (arg 1)
    let t := if name == "center" then Text.centerText s width fill
      else if name == "ljust" then Text.ljustText s width fill else Text.rjustText s width fill
    return wrap t
  | "zfill" => return wrap (Text.zfillText s (← needIndex (need 0)))
  | "lstrip" | "rstrip" | "strip" =>
    let chars ← match arg 0 with
      | Option.none | some .none => pure Option.none
      | some (.str t) | some (.markup t) => pure (some t)
      | some _ => throw (.typeError (name ++ " arg must be None or str"))
    return wrap (Text.stripChars s chars (name != "rstrip") (name != "lstrip"))
  | "replace" =>
    let old ← needText "replace() argument 1 must be str, not " (need 0)
    let new ← needText "replace() argument 2 must be str, not " (need 1)
    let count ← match arg 2 with
      | Option.none => pure (-1)
      | some c => needIndex c
    return wrap (Text.replaceText s old new count)
  | "count" | "find" | "rfind" | "index" | "rindex" =>
    let sub ← needText "must be str, not " (need 0)
    let start ← boundArg (arg 1)
    let stop ← boundArg (arg 2)
    match name with
    | "count" => return .int (Text.countIn s sub start stop)
    | "find" => return .int (Text.findIn s sub start stop)
    | "rfind" => return .int (Text.rfindIn s sub start stop)
    | _ =>
      let r := if name == "index" then Text.findIn s sub start stop else Text.rfindIn s sub start stop
      if r < 0 then throw (.valueError "substring not found")
      return .int r
  | "startswith" | "endswith" =>
    let subs ← match need 0 with
      | .str t | .markup t => pure [t]
      | .tuple xs => xs.mapM fun x => match x with
        | .str t | .markup t => pure t
        | _ => do throw (.typeError ("tuple for " ++ name ++ " must only contain str, not " ++ (← x.typeName)))
      | d => throw (.typeError (name ++ " first arg must be str or a tuple of str, not " ++ (← d.typeName)))
    let (a, b) := Text.clampBounds s.length (← boundArg (arg 1)) (← boundArg (arg 2))
    let window := if a > b then Option.none
      else some (String.ofList ((s.toList.drop a.toNat).take (b - a).toNat))
    match window with
    | Option.none => return .bool false
    | some w =>
      if a > s.length then return .bool false
      return .bool (subs.any fun t => if name == "startswith" then w.startsWith t else w.endsWith t)
  | "removeprefix" =>
    let p ← needText "removeprefix() argument must be str, not " (need 0)
    return wrap (if s.startsWith p then String.ofList (s.toList.drop p.length) else s)
  | "removesuffix" =>
    let p ← needText "removesuffix() argument must be str, not " (need 0)
    return wrap (if s.endsWith p && !p.isEmpty then String.ofList (s.toList.take (s.length - p.length)) else s)
  | "partition" | "rpartition" =>
    let sep ← needText "must be str, not " (need 0)
    if sep.isEmpty then throw (.valueError "empty separator")
    let (a, b, c) := if name == "partition" then Text.partitionText s sep else Text.rpartitionText s sep
    return .tuple [wrap a, wrap b, wrap c]
  | "split" | "rsplit" =>
    let maxsplit ← match arg 1 with
      | Option.none => pure (-1)
      | some m => needIndex m
    let parts ← match arg 0 with
      | Option.none | some .none =>
        pure (if name == "split" then Text.splitWhite s maxsplit else Text.rsplitWhite s maxsplit)
      | some (.str t) | some (.markup t) =>
        if t.isEmpty then throw (.valueError "empty separator")
        pure (if name == "split" then Text.splitAt s t maxsplit else Text.rsplitAt s t maxsplit)
      | some d => throw (.typeError ("must be str or None, not " ++ (← d.typeName)))
    newList (parts.map wrap).toArray
  | "splitlines" =>
    let keep ← match arg 0 with
      | Option.none => pure false
      | some d => truthy d
    newList ((Text.splitLines s keep).map wrap).toArray
  | "expandtabs" =>
    let size ← match arg 0 with
      | Option.none => pure 8
      | some d => needIndex d
    return wrap (Text.expandTabs s size)
  | "join" =>
    let items ← tryCatch (items (need 0)) fun f =>
      if f.kind == "TypeError" then throw (.typeError "can only join an iterable") else throw f
    let mut parts : List String := []
    let mut i := 0
    for x in items do
      match x with
      | .str t => parts := parts ++ [if safe then escapeText t else t]
      | .markup t => parts := parts ++ [t]
      | _ =>
        throw (.typeError ("sequence item " ++ toString i ++ ": expected str instance, " ++
          (← x.typeName) ++ " found"))
      i := i + 1
    return wrap (s.intercalate parts)
  | "encode" =>
    let encoding ← match arg 0 with
      | Option.none => pure "utf-8"
      | some d => needText "encode() argument 'encoding' must be str, not " d
    let errors ← match arg 1 with
      | Option.none => pure "strict"
      | some d => needText "encode() argument 'errors' must be str, not " d
    return .bytes (← encodeText s encoding errors)
  | "format" =>
    let fieldText := fun (d : Datum) => match d with
      | .str t => if safe then Datum.markup (escapeText t) else d
      | _ => d
    let out ← braceFormat s (args.map fieldText) (kwargs.map fun (k, v) => (k, fieldText v))
    return wrap out
  | "format_map" =>
    let m := need 0
    let pairs ← match m with
      | .obj addr => do
        match ← Heap.get addr with
        | .dict es => es.toList.filterMapM fun (k, v) => match k with
          | .str t | .markup t => pure (some (t, v))
          | _ => pure Option.none
        | _ => pure []
      | _ => pure []
    return wrap (← braceFormat s [] pairs)
  | "translate" =>
    let table := need 0
    let mut out := ""
    for c in s.toList do
      let r ← tryCatch (some <$> rawItem table (.int c.toNat)) fun f =>
        if f.kind == "KeyError" || f.kind == "IndexError" then pure Option.none else throw f
      match r with
      | Option.none => out := out.push c
      | some .none => pure ()
      | some (.str t) | some (.markup t) => out := out ++ t
      | some v =>
        match v.index? with
        | some i => out := out.push (Char.ofNat i.toNat)
        | Option.none => throw (.typeError "character mapping must return integer, None or str")
    return wrap out
  | "unescape" =>
    let t := ((((s.replace "&lt;" "<").replace "&gt;" ">").replace "&#34;" "\"").replace "&#39;" "'").replace "&amp;" "&"
    return .str t
  | _ => throw (.host "AttributeError" (quoteText owner ++ " object has no attribute " ++ quoteText name))

/-- Sorts values stably by a comparison that may fail. -/
def sortBy {α : Type} (lt : α → α → HeapM Bool) : List α → HeapM (List α)
  | [] => return []
  | x :: xs => do
    let sorted ← sortBy lt xs
    let rec insert : List α → HeapM (List α)
      | [] => return [x]
      | y :: ys => do
        if ← lt y x then return y :: (← insert ys) else return x :: y :: ys
    insert sorted

/-- Calls a method of lists. -/
def callListMethod (self : Datum) (addr : Nat) (name : String) (args : List Datum)
    (kwargs : List (String × Datum)) : HeapM Datum := do
  let arity : Arity := match name with
    | "clear" | "copy" | "reverse" => .nothing
    | "append" | "count" | "extend" | "remove" => .exactlyOne
    | "index" => .span 1 3
    | "insert" => .span 2 2
    | "pop" => .span 0 1
    | _ => .keywordsOnly ["key", "reverse"]
  let ps ← arity.bind "list" name args kwargs
  let arg := fun (i : Nat) => (ps[i]?).getD Option.none
  let need := fun (i : Nat) => (arg i).getD .none
  let items ← match ← Heap.get addr with
    | .list xs => pure xs
    | _ => pure #[]
  let store := fun (xs : Array Datum) => Heap.set addr (.list xs)
  match name with
  | "append" => store (items.push (need 0)); return .none
  | "clear" => store #[]; return .none
  | "copy" => newList items
  | "count" =>
    let mut n := 0
    for x in items do
      if ← equal x (need 0) then n := n + 1
    return .int n
  | "extend" =>
    let more ← Datum.items (need 0)
    let now ← match ← Heap.get addr with
      | .list xs => pure xs
      | _ => pure items
    store (now ++ more.toArray); return .none
  | "index" =>
    let (a, b) := Text.clampBounds items.size (← boundArg (arg 1)) (← boundArg (arg 2))
    let mut i : Int := a
    for x in (items.toList.drop a.toNat).take (b - a).toNat do
      if ← equal x (need 0) then return .int i
      i := i + 1
    throw (.valueError ((← repr (need 0)) ++ " is not in list"))
  | "insert" =>
    let i ← needIndex (need 0)
    let n : Int := items.size
    let j := if i < 0 then max 0 (i + n) else min i n
    let xs := items.toList
    store ((xs.take j.toNat ++ [need 1] ++ xs.drop j.toNat).toArray); return .none
  | "pop" =>
    if items.isEmpty then throw (.host "IndexError" "pop from empty list")
    let i ← match arg 0 with
      | Option.none => pure (-1)
      | some d => needIndex d
    match position? items.size i with
    | some p =>
      let v := items[p]!
      store (items.eraseIdx! p)
      return v
    | Option.none => throw (.host "IndexError" "pop index out of range")
  | "remove" =>
    let mut p : Option Nat := Option.none
    let mut i := 0
    for x in items do
      if p.isNone then
        if ← equal x (need 0) then p := some i
      i := i + 1
    match p with
    | some k => store (items.eraseIdx! k); return .none
    | Option.none => throw (.valueError "list.remove(x): x not in list")
  | "reverse" => store items.reverse; return .none
  | "sort" =>
    if let some k := arg 0 then
      if !(k matches .none) then throw (.typeError "sort key functions are not supported")
    let desc ← match arg 1 with
      | Option.none => pure false
      | some d => truthy d
    let sorted ← if desc then
        (·.reverse) <$> sortBy (fun a b => order .lt b a) items.toList.reverse
      else sortBy (fun a b => order .lt a b) items.toList
    let _ := self
    store sorted.toArray; return .none
  | _ => throw (.host "AttributeError" ("'list' object has no attribute " ++ quoteText name))

/-- The entries a mapping is updated from: a mapping's, or those of an iterable of pairs. -/
def entriesFrom (src : Datum) : HeapM (List (Datum × Datum)) := do
  if let .obj addr := src then
    match ← Heap.get addr with
    | .dict es => return es.toList
    | .namespace es => return es.toList
    | _ => pure ()
  let xs ← items src
  let mut out := []
  let mut i := 0
  for x in xs do
    let parts ← tryCatch (Datum.items x) fun f =>
      if f.kind == "TypeError" then
        throw (.typeError ("cannot convert dictionary update sequence element #" ++ toString i ++
          " to a sequence"))
      else throw f
    match parts with
    | [k, v] => out := out ++ [(k, v)]
    | _ => throw (.valueError ("dictionary update sequence element #" ++ toString i ++
        " has length " ++ toString parts.length ++ "; 2 is required"))
    i := i + 1
  return out

/-- Adds entries to a mapping's entries, later ones replacing earlier values. -/
def addEntries (es : Array (Datum × Datum)) : List (Datum × Datum) → HeapM (Array (Datum × Datum))
  | [] => return es
  | (k, v) :: rest => do addEntries (← insertKey es k v) rest

/-- Calls a method of mappings. -/
def callDictMethod (self : Datum) (addr : Nat) (name : String) (args : List Datum)
    (kwargs : List (String × Datum)) : HeapM Datum := do
  let arity : Arity := match name with
    | "clear" | "copy" | "items" | "keys" | "values" | "popitem" => .nothing
    | "fromkeys" | "get" | "pop" | "setdefault" => .span 1 2
    | _ => .span 0 1
  let ps ← if name == "update" then
      if args.length > 1 then
        throw (.typeError ("update expected at most 1 argument, got " ++ toString args.length))
      pure (args.map some ++ [Option.none])
    else arity.bind "dict" name args kwargs
  let arg := fun (i : Nat) => (ps[i]?).getD Option.none
  let need := fun (i : Nat) => (arg i).getD .none
  let entries ← match ← Heap.get addr with
    | .dict es => pure es
    | _ => pure #[]
  let store := fun (es : Array (Datum × Datum)) => Heap.set addr (.dict es)
  match name with
  | "clear" => store #[]; return .none
  | "copy" => newDict entries
  | "items" => return .view .items addr
  | "keys" => return .view .keys addr
  | "values" => return .view .values addr
  | "get" =>
    match ← lookup entries (need 0) with
    | some v => return v
    | Option.none => return (arg 1).getD .none
  | "setdefault" =>
    match ← lookup entries (need 0) with
    | some v => return v
    | Option.none =>
      let v := (arg 1).getD .none
      store (entries.push (need 0, v)); return v
  | "pop" =>
    match ← keyIndex entries (need 0) with
    | some i =>
      let v := entries[i]!.2
      store (entries.eraseIdx! i); return v
    | Option.none =>
      match arg 1 with
      | some d => return d
      | Option.none => throw (← missingKey (need 0))
  | "popitem" =>
    match entries.back? with
    | some (k, v) => store entries.pop; return .tuple [k, v]
    | Option.none => throw (.host "KeyError" "'popitem(): dictionary is empty'")
  | "fromkeys" =>
    let keys ← items (need 0)
    let es ← addEntries #[] (keys.map fun k => (k, (arg 1).getD .none))
    newDict es
  | "update" =>
    let fromArg ← match arg 0 with
      | Option.none => pure []
      | some src => entriesFrom src
    let es ← addEntries entries (fromArg ++ kwargs.map fun (k, v) => (.str k, v))
    store es; return .none
  | _ =>
    let _ := self
    throw (.host "AttributeError" ("'dict' object has no attribute " ++ quoteText name))

/-- The exact ratio of a finite float, in lowest terms. -/
def floatRatio (x : Float) : HeapM (Int × Nat) := do
  match Number.exactValue? x with
  | some e =>
    let d := Nat.pow 2 1074
    let g := Nat.gcd e.scaled d
    let num : Int := (e.scaled / g : Nat)
    return (if e.negative then -num else num, d / g)
  | Option.none =>
    if x.isNaN then throw (.valueError "cannot convert NaN to integer ratio")
    throw (.host "OverflowError" "cannot convert Infinity to integer ratio")

/-- The hexadecimal form of a float, as `float.hex` writes it. -/
def floatHex (x : Float) : String :=
  if x.isNaN then "nan"
  else if x.isInf then (if x < 0 then "-inf" else "inf")
  else
    let bits := x.toBits.toNat
    let negative := bits ≥ Nat.pow 2 63
    let field := (bits / Nat.pow 2 52) % 2048
    let fraction := bits % Nat.pow 2 52
    let sign := if negative then "-" else ""
    if field == 0 && fraction == 0 then sign ++ "0x0.0p+0"
    else
      let (lead, e) : Nat × Int := if field == 0 then (0, -1022) else (1, (field : Int) - 1023)
      let digits := hexPadded 13 fraction
      sign ++ "0x" ++ toString lead ++ "." ++ digits ++ "p" ++ (if e < 0 then "-" else "+") ++
        toString e.natAbs

/-- Calls a method of numbers. -/
def callNumberMethod (recv : Datum) (name : String) (args : List Datum)
    (kwargs : List (String × Datum)) : HeapM Datum := do
  match recv with
  | .float x =>
    let _ ← Arity.nothing.bind "float" name args kwargs
    match name with
    | "is_integer" => return .bool (!x.isNaN && !x.isInf && x.floor == x)
    | "conjugate" => return .float x
    | "hex" => return .str (floatHex x)
    | "as_integer_ratio" =>
      let (n, d) ← floatRatio x
      return .tuple [.int n, .int d]
    | _ => throw (.host "AttributeError" ("'float' object has no attribute " ++ quoteText name))
  | _ =>
    let i := (recv.index?).getD 0
    let owner := if recv matches .bool _ then "bool" else "int"
    let _ ← Arity.nothing.bind (if name == "to_bytes" then owner else "int") name args kwargs
    match name with
    | "bit_length" => return .int (Number.bitLength i.natAbs)
    | "bit_count" => return .int ((Nat.toDigits 2 i.natAbs).filter (· == '1')).length
    | "conjugate" => return .int i
    | "is_integer" => return .bool true
    | "as_integer_ratio" => return .tuple [.int i, .int 1]
    | _ => throw (.host "AttributeError" (quoteText owner ++ " object has no attribute " ++ quoteText name))

/-- Calls a method of a value's type. Methods that need the renderer (a loop calling
itself) are not handled here. -/
def callMethod (recv : Datum) (name : String) (args : List Datum)
    (kwargs : List (String × Datum)) : HeapM Datum := do
  match recv with
  | .str s => callTextMethod s false name args kwargs
  | .markup s =>
    if name == "striptags" then
      let _ ← Arity.nothing.bind "Markup" name args kwargs
      return .str s
    callTextMethod s true name args kwargs
  | .bool _ | .int _ | .float _ => callNumberMethod recv name args kwargs
  | .tuple xs =>
    match name with
    | "count" =>
      let ps ← Arity.exactlyOne.bind "tuple" name args kwargs
      let x := (ps[0]?).getD Option.none |>.getD .none
      let mut n := 0
      for y in xs do
        if ← equal y x then n := n + 1
      return .int n
    | _ =>
      let ps ← (Arity.span 1 3).bind "tuple" name args kwargs
      let x := (ps[0]?).getD Option.none |>.getD .none
      let mut i := 0
      for y in xs do
        if ← equal y x then return .int i
        i := i + 1
      throw (.valueError "tuple.index(x): x not in tuple")
  | .range a _ s =>
    let ps ← Arity.exactlyOne.bind "range" name args kwargs
    let x := (ps[0]?).getD Option.none |>.getD .none
    let found ← contains recv x
    if name == "count" then return .int (if found then 1 else 0)
    if !found then throw (.valueError ((← repr x) ++ " is not in range"))
    match x.index? with
    | some i => return .int ((i - a) / s)
    | Option.none => return .int 0
  | .bytes bs =>
    match name with
    | "hex" => return .str (String.join (bs.map fun b => hex2 b.toNat))
    | _ =>
      match Text.Utf8.decode bs with
      | .ok t => return .str t
      | .error e => throw (.host "UnicodeDecodeError" e.message)
  | .slice a b c =>
    let ps ← Arity.exactlyOne.bind "slice" name args kwargs
    let n ← needIndex ((ps[0]?).getD Option.none |>.getD .none)
    let (x, y, z) ← sliceIndices a b c n.toNat
    return .tuple [.int x, .int y, .int z]
  | .obj addr =>
    match ← Heap.get addr with
    | .list _ => callListMethod recv addr name args kwargs
    | .dict _ => callDictMethod recv addr name args kwargs
    | .cycler xs pos =>
      if name == "reset" then
        Heap.set addr (.cycler xs 0); return .none
      match xs[pos]? with
      | some v =>
        Heap.set addr (.cycler xs ((pos + 1) % xs.length))
        return v
      | Option.none => throw (.host "IndexError" "tuple index out of range")
    | .loop st =>
      if name == "cycle" then
        if args.isEmpty then throw (.typeError "no items for cycling given")
        let i := (st.index0 % args.length).toNat
        return args[i]!
      let value := args
      let same ← match st.lastChanged with
        | some prev => equal (.tuple prev) (.tuple value)
        | Option.none => pure false
      if same then return .bool false
      Heap.set addr (.loop { st with lastChanged := some value })
      return .bool true
    | _ => throw (.typeError (quoteText (← recv.typeName) ++ " object is not callable"))
  | _ => throw (.typeError (quoteText (← recv.typeName) ++ " object is not callable"))

/-- The numbers of a `range` call. -/
def rangeOf (args : List Datum) (kwargs : List (String × Datum)) : HeapM Datum := do
  if !kwargs.isEmpty then throw (.typeError "range() takes no keyword arguments")
  let ints ← args.mapM needIndex
  match ints with
  | [] => throw (.typeError "range expected at least 1 argument, got 0")
  | [b] => return .range 0 b 1
  | [a, b] => return .range a b 1
  | [a, b, s] =>
    if s == 0 then throw (.valueError "range() arg 3 must not be zero")
    return .range a b s
  | _ => throw (.typeError ("range expected at most 3 arguments, got " ++ toString args.length))

/-- The entries of a `dict` or `namespace` call: from a mapping or pairs, then keywords. -/
def dictEntries (owner : String) (args : List Datum) (kwargs : List (String × Datum)) :
    HeapM (Array (Datum × Datum)) := do
  let base ← match args with
    | [] => pure []
    | [src] => entriesFrom src
    | _ => throw (.typeError (owner ++ " expected at most 1 argument, got " ++ toString args.length))
  addEntries #[] (base ++ kwargs.map fun (k, v) => (.str k, v))

/-- Some placeholder text of `n` paragraphs, as `lipsum` gives. -/
def loremText (n : Nat) (html : Bool) : String :=
  let para := "Lorem ipsum dolor sit amet, consectetur adipiscing elit."
  let paras := List.replicate n para
  if html then "\n".intercalate (paras.map fun p => "<p>" ++ p ++ "</p>")
  else "\n\n".intercalate paras

/-- Calls one of the global callables. -/
def callBuiltin (b : Builtin) (args : List Datum) (kwargs : List (String × Datum)) : HeapM Datum := do
  match b with
  | .range => rangeOf args kwargs
  | .dict => newDict (← dictEntries "dict" args kwargs)
  | .namespace =>
    let es ← dictEntries "dict" args kwargs
    return .obj (← Heap.alloc (.namespace es))
  | .cycler =>
    if let (k, _) :: _ := kwargs then
      throw (.typeError ("Cycler.__init__() got an unexpected keyword argument " ++ quoteText k))
    if args.isEmpty then throw (.host "RuntimeError" "at least one item has to be provided")
    return .obj (← Heap.alloc (.cycler args 0))
  | .joiner =>
    let ps ← (Arity.named ["sep"]).bind "Joiner" "Joiner.__init__" args kwargs
    let sep := (ps[0]?).getD Option.none |>.getD (.str ", ")
    return .obj (← Heap.alloc (.joiner sep false))
  | .lipsum =>
    let ps ← (Arity.named ["n", "html", "min", "max"]).bind "" "generate_lorem_ipsum" args kwargs
    let n ← match (ps[0]?).getD Option.none with
      | some d => needIndex d
      | Option.none => pure 5
    let html ← match (ps[1]?).getD Option.none with
      | some d => truthy d
      | Option.none => pure true
    let text := loremText n.toNat html
    return if html then .markup text else .str text

end Datum

end NodeImage.Template
