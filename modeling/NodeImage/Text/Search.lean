import NodeImage.Unicode.Character

/-!
# Searching, splitting and padding text

Text operations by code point: finding and counting a substring within bounds, replacing
it, splitting at a separator or at runs of white space (from the left or from the right,
at most a number of times), splitting into lines at any line boundary, stripping
characters from the ends, and padding to a width.

Bounds behave as slice bounds: negative ones count from the end and both are clamped to
the text. White space is what the character database calls so; line boundaries are the
line feed, carriage return (alone or before a line feed), line and paragraph separators,
the vertical tab, form feed, the file, group and record separators and the next-line
character.
-/

namespace NodeImage.Text

/-- Whether a character is white space. -/
def isWhite (c : Char) : Bool := Unicode.isSpace c.toNat

/-- Clamps search bounds to a length, as slice bounds. -/
def clampBounds (len : Nat) (start stop : Option Int) : Int × Int :=
  let adjust := fun (i : Int) => if i < 0 then (if i + len < 0 then 0 else i + len) else i
  let s := adjust (start.getD 0)
  let e := match stop with
    | some e => let e := adjust e; if e > len then (len : Int) else e
    | none => len
  (s, e)

/-- Whether a list starts with another. -/
def startsWithList (xs ys : List Char) : Bool := xs.take ys.length == ys

/-- The positions where a pattern occurs in a list, without overlaps, from the left. -/
def occurrences (xs pat : List Char) : List Nat :=
  let n := xs.length
  let m := pat.length
  let rec go : Nat → Nat → List Char → List Nat
    | 0, _, _ => []
    | fuel + 1, i, rest =>
      if i + m > n then []
      else if startsWithList rest pat then
        i :: go fuel (i + max m 1) (rest.drop (max m 1))
      else go fuel (i + 1) (rest.drop 1)
  if m == 0 then List.range (n + 1) else go (n + 1) 0 xs

/-- The first position of a substring within bounds, or -1. -/
def findIn (s sub : String) (start stop : Option Int) : Int :=
  let cs := s.toList
  let (a, b) := clampBounds cs.length start stop
  if a > b || a > cs.length then -1
  else
    let window := (cs.drop a.toNat).take (b - a).toNat
    match occurrences window sub.toList |>.head? with
    | some p => a + p
    | none => -1

/-- The last position of a substring within bounds, or -1. -/
def rfindIn (s sub : String) (start stop : Option Int) : Int :=
  let cs := s.toList
  let (a, b) := clampBounds cs.length start stop
  if a > b || a > cs.length then -1
  else
    let window := (cs.drop a.toNat).take (b - a).toNat
    let pat := sub.toList
    let hits := (List.range (window.length + 1)).filter fun i =>
      i + pat.length ≤ window.length && startsWithList (window.drop i) pat
    match hits.getLast? with
    | some p => a + p
    | none => -1

/-- The number of non-overlapping occurrences of a substring within bounds. -/
def countIn (s sub : String) (start stop : Option Int) : Nat :=
  let cs := s.toList
  let (a, b) := clampBounds cs.length start stop
  if a > b || a > cs.length then 0
  else
    let window := (cs.drop a.toNat).take (b - a).toNat
    (occurrences window sub.toList).length

/-- Replaces occurrences of `old` by `new`, at most `count` of them when it is not
negative. -/
def replaceText (s old new : String) (count : Int) : String :=
  let cs := s.toList
  let pat := old.toList
  let limit := if count < 0 then cs.length + 1 else count.toNat
  if pat.isEmpty then
    let rec interleave : Nat → List Char → List Char
      | 0, rest => rest
      | _ + 1, [] => new.toList
      | k + 1, c :: rest => new.toList ++ c :: interleave k rest
    String.ofList (interleave limit cs)
  else
    let rec go : Nat → Nat → List Char → List Char
      | 0, _, rest => rest
      | _ + 1, 0, rest => rest
      | fuel + 1, k + 1, rest =>
        match rest with
        | [] => []
        | c :: more =>
          if startsWithList rest pat then new.toList ++ go fuel k (rest.drop pat.length)
          else c :: go fuel (k + 1) more
    String.ofList (go (cs.length + 1) limit cs)

/-- Splits at a non-empty separator, at most `maxsplit` times when it is not negative. -/
def splitAt (s sep : String) (maxsplit : Int) : List String :=
  let pat := sep.toList
  let rec go : Nat → Int → List Char → List Char → List String
    | 0, _, acc, rest => [String.ofList (acc.reverse ++ rest)]
    | fuel + 1, left, acc, rest =>
      match rest with
      | [] => [String.ofList acc.reverse]
      | c :: more =>
        if left != 0 && startsWithList rest pat then
          String.ofList acc.reverse :: go fuel (left - 1) [] (rest.drop pat.length)
        else go fuel left (c :: acc) more
  go (s.length + 1) maxsplit [] s.toList

/-- Splits at a non-empty separator from the right, at most `maxsplit` times. -/
def rsplitAt (s sep : String) (maxsplit : Int) : List String :=
  let rev := fun (t : String) => String.ofList t.toList.reverse
  ((splitAt (rev s) (rev sep) maxsplit).map rev).reverse

/-- Splits at runs of white space, ignoring it at the ends, at most `maxsplit` times when
it is not negative; the rest after the last split keeps its trailing white space. -/
def splitWhite (s : String) (maxsplit : Int) : List String :=
  let rec go : Nat → Int → List Char → List String
    | 0, _, _ => []
    | fuel + 1, left, rest =>
      let rest := rest.dropWhile isWhite
      if rest.isEmpty then []
      else if left == 0 then [String.ofList rest]
      else
        let word := rest.takeWhile (fun c => !isWhite c)
        String.ofList word :: go fuel (left - 1) (rest.drop word.length)
  go (s.length + 1) maxsplit s.toList

/-- Splits at runs of white space from the right, at most `maxsplit` times. -/
def rsplitWhite (s : String) (maxsplit : Int) : List String :=
  let rev := fun (t : String) => String.ofList t.toList.reverse
  ((splitWhite (rev s) maxsplit).map rev).reverse

/-- Whether a character ends a line. -/
def isLineBreak (c : Char) : Bool :=
  ['\n', '\r', '\x0b', '\x0c', '\x1c', '\x1d', '\x1e', '\x85', '\u2028', '\u2029'].contains c

/-- Splits into lines, keeping the line ends when asked. -/
def splitLines (s : String) (keepEnds : Bool) : List String :=
  let rec go : Nat → List Char → List Char → List String
    | 0, acc, _ => if acc.isEmpty then [] else [String.ofList acc.reverse]
    | fuel + 1, acc, rest =>
      match rest with
      | [] => if acc.isEmpty then [] else [String.ofList acc.reverse]
      | '\r' :: '\n' :: more =>
        String.ofList (acc.reverse ++ (if keepEnds then ['\r', '\n'] else [])) :: go fuel [] more
      | c :: more =>
        if isLineBreak c then
          String.ofList (acc.reverse ++ (if keepEnds then [c] else [])) :: go fuel [] more
        else go fuel (c :: acc) more
  go (s.length + 1) [] s.toList

/-- Strips characters from the start and end: white space, or the characters given. -/
def stripChars (s : String) (chars : Option String) (leading trailing : Bool) : String :=
  let strip := fun (c : Char) => match chars with
    | some cs => cs.toList.contains c
    | none => isWhite c
  let cs := s.toList
  let cs := if leading then cs.dropWhile strip else cs
  let cs := if trailing then (cs.reverse.dropWhile strip).reverse else cs
  String.ofList cs

/-- Centers text in a width with a fill character, an odd margin putting the extra fill on
the right unless the width is odd. -/
def centerText (s : String) (width : Int) (fill : Char) : String :=
  let len := s.length
  if width ≤ len then s
  else
    let marg := width.toNat - len
    let left := marg / 2 + (if marg % 2 == 1 && width.toNat % 2 == 1 then 1 else 0)
    String.ofList (List.replicate left fill) ++ s ++ String.ofList (List.replicate (marg - left) fill)

/-- Pads text on the right to a width. -/
def ljustText (s : String) (width : Int) (fill : Char) : String :=
  s ++ String.ofList (List.replicate (width.toNat - s.length) fill)

/-- Pads text on the left to a width. -/
def rjustText (s : String) (width : Int) (fill : Char) : String :=
  String.ofList (List.replicate (width.toNat - s.length) fill) ++ s

/-- Pads text with zeros on the left to a width, after a leading sign. -/
def zfillText (s : String) (width : Int) : String :=
  let cs := s.toList
  let pad := List.replicate (width.toNat - cs.length) '0'
  match cs with
  | c :: rest => if c == '+' || c == '-' then String.ofList (c :: pad ++ rest) else String.ofList (pad ++ cs)
  | [] => String.ofList pad

/-- Replaces tabs by spaces up to the next multiple of a tab size, columns restarting after
each line break. -/
def expandTabs (s : String) (size : Int) : String :=
  let step := fun (acc : List Char × Nat) (c : Char) =>
    let (out, col) := acc
    if c == '\t' then
      if size > 0 then
        let n := size.toNat - col % size.toNat
        (out ++ List.replicate n ' ', col + n)
      else (out, col)
    else if c == '\n' || c == '\r' then (out ++ [c], 0)
    else (out ++ [c], col + 1)
  String.ofList (s.toList.foldl step ([], 0)).1

/-- Splits at the first occurrence of a separator: before, separator, after. -/
def partitionText (s sep : String) : String × String × String :=
  match (s.splitOn sep) with
  | first :: rest@(_ :: _) => (first, sep, sep.intercalate rest)
  | _ => (s, "", "")

/-- Splits at the last occurrence of a separator: before, separator, after. -/
def rpartitionText (s sep : String) : String × String × String :=
  let parts := s.splitOn sep
  match parts.reverse with
  | last :: rest@(_ :: _) => (sep.intercalate rest.reverse, sep, last)
  | _ => ("", "", s)

end NodeImage.Text
