import NodeImage.Unicode.Character

/-!
# Wrapping text into lines

Text is cut into chunks: runs of blanks and words. A word may be cut after a hyphen
between letters, and before and after a run of two or more dashes between words. The
chunks are then put on lines of at most the width, greedily; a line does not start with
blanks (except the first) nor end with them. A chunk longer than a whole line is broken
at the width (after the last hyphen that fits, when cutting at hyphens), or, when long
words are not to be broken, put on a line of its own.

Blanks here are the ASCII ones: tab, line feed, vertical tab, form feed, carriage return
and space. A letter is a word character that is not a decimal digit.
-/

namespace NodeImage.Text

/-- Whether a character separates words when wrapping. -/
def isWrapBlank (c : Char) : Bool :=
  c == ' ' || c == '\t' || c == '\n' || c == '\x0b' || c == '\x0c' || c == '\r'

/-- Whether a character is a word character. -/
def isWordChar (c : Char) : Bool := Unicode.isAlnum c.toNat || c == '_'

/-- Whether a character is a letter, for cutting at hyphens. -/
def isWrapLetter (c : Char) : Bool := isWordChar c && !Unicode.isDecimal c.toNat

/-- Whether a character is a word character or punctuation that may precede a dash. -/
def isWordPunct (c : Char) : Bool := isWordChar c || "!\"'&.,?".toList.contains c

/-- The character at a position, if there is one. -/
def charAt (cs : Array Char) (i : Int) : Option Char :=
  if i < 0 then none else cs[i.toNat]?

/-- Whether a position holds a character with a property. -/
def holdsAt (cs : Array Char) (i : Int) (p : Char → Bool) : Bool :=
  match charAt cs i with
  | some c => p c
  | none => false

/-- The number of dashes from a position on. -/
def dashRun (cs : Array Char) (i : Nat) : Nat :=
  ((cs.toList.drop i).takeWhile (· == '-')).length

/-- Whether two or more dashes start at a position and a word character follows them. -/
def dashesBeforeWord (cs : Array Char) (i : Nat) : Bool :=
  let k := dashRun cs i
  k ≥ 2 && holdsAt cs (i + k) isWordChar

/-- Whether a word may be cut after the hyphen at a position. -/
def hyphenBreak (cs : Array Char) (j : Nat) : Bool :=
  let j : Int := j
  holdsAt cs j (· == '-') &&
    ((holdsAt cs (j - 2) isWrapLetter && holdsAt cs (j - 1) isWrapLetter) ||
      (holdsAt cs (j - 3) isWrapLetter && holdsAt cs (j - 2) (· == '-') &&
        holdsAt cs (j - 1) isWrapLetter)) &&
    holdsAt cs (j + 1) isWrapLetter &&
    (holdsAt cs (j + 2) isWrapLetter || (holdsAt cs (j + 2) (· == '-') && holdsAt cs (j + 3) isWrapLetter))

/-- The end of the chunk that starts at a position, cutting words at hyphens when asked. -/
def chunkEnd (cs : Array Char) (hyphens : Bool) (i : Nat) : Nat :=
  let n := cs.size
  if holdsAt cs i isWrapBlank then
    i + ((cs.toList.drop i).takeWhile isWrapBlank).length
  else if !hyphens then
    i + ((cs.toList.drop i).takeWhile (fun c => !isWrapBlank c)).length
  else if i > 0 && holdsAt cs (i - 1) isWordPunct && dashesBeforeWord cs i then
    i + dashRun cs i
  else
    let ends := (List.range (n - i)).filterMap fun k =>
      let j := i + k + 1
      if hyphenBreak cs j then some (j + 1)
      else if j == n || holdsAt cs j isWrapBlank then some j
      else if holdsAt cs (j - 1) isWordPunct && dashesBeforeWord cs j then some j
      else none
    ends.head?.getD n

/-- The chunks of a text, for wrapping. -/
def wrapChunks (s : String) (hyphens : Bool) : List (List Char) :=
  let cs := s.toList.toArray
  let rec go : Nat → Nat → List (List Char)
    | 0, _ => []
    | fuel + 1, i =>
      if i ≥ cs.size then []
      else
        let e := chunkEnd cs hyphens i
        let e := if e ≤ i then i + 1 else e
        (cs.toList.drop i).take (e - i) :: go fuel e
  go (cs.size + 1) 0

/-- Whether a chunk is only white space. -/
def blankChunk (c : List Char) : Bool := c.all fun ch => Unicode.isSpace ch.toNat

/-- The lines of chunks wrapped to a width. -/
def fillLines (width : Nat) (breakLong hyphens : Bool) :
    Nat → List (List Char) → List String → List String
  | 0, _, lines => lines.reverse
  | _ + 1, [], lines => lines.reverse
  | fuel + 1, chunks, lines =>
    let chunks := match chunks with
      | c :: rest => if blankChunk c && !lines.isEmpty then rest else chunks
      | [] => []
    let rec take : Nat → List (List Char) → List (List Char) → Nat → List (List Char) × List (List Char) × Nat
      | 0, acc, rest, len => (acc, rest, len)
      | _ + 1, acc, [], len => (acc, [], len)
      | k + 1, acc, c :: rest, len =>
        if len + c.length ≤ width then take k (acc ++ [c]) rest (len + c.length)
        else (acc, c :: rest, len)
    let (line, rest, len) := take (chunks.length + 1) [] chunks 0
    let (line, rest) := match rest with
      | c :: more =>
        if c.length > width then
          let spaceLeft := if width < 1 then 1 else width - len
          if breakLong then
            let cut :=
              if hyphens && c.length > spaceLeft then
                let hy := ((List.range spaceLeft).filter fun p => c.getD p ' ' == '-').getLast?
                match hy with
                | some h => if h > 0 && (c.take h).any (· != '-') then h + 1 else spaceLeft
                | none => spaceLeft
              else spaceLeft
            (line ++ [c.take cut], c.drop cut :: more)
          else if line.isEmpty then (line ++ [c], more)
          else (line, rest)
        else (line, rest)
      | [] => (line, rest)
    let line := match line.getLast? with
      | some c => if blankChunk c then line.dropLast else line
      | none => line
    let lines := if line.isEmpty then lines else String.ofList line.flatten :: lines
    fillLines width breakLong hyphens fuel rest lines

/-- Wraps one line of text to a width: the lines it becomes. -/
def wrapLine (s : String) (width : Nat) (breakLong hyphens : Bool) : List String :=
  let chunks := wrapChunks s hyphens
  fillLines width breakLong hyphens (2 * s.length + chunks.length + 2) chunks []

end NodeImage.Text
