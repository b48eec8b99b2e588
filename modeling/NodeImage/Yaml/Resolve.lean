/-!
# Implicit types of plain scalars

YAML 1.1 gives a plain scalar a type by its text: `yes`, `on` and `true` are booleans, `~`,
`null` and the empty text are null, `0x1F`, `017`, `0b101` and `1:30` are integers,
`1.5`, `1e+3` written `1.e+3`, `.inf` and `1:30.5` are floats, `2024-01-02` is a date,
`<<` is a merge key and `=` is a value key. Anything else is a string.

Each type is a small pattern, written here with a list-of-successes matcher: a pattern maps
the characters still to read to every way it could leave them. A text matches when some way
leaves nothing, or only a final line feed. Patterns are tried in a fixed order and the first
match gives the type.
-/

namespace NodeImage.Yaml

/-- The full name of a tag of the YAML type repository. -/
def coreTag (name : String) : String := "tag:yaml.org,2002:" ++ name

/-- A pattern: every way it can leave the characters that follow what it read. -/
def Pattern := List Char → List (List Char)

namespace Pattern

/-- One character satisfying `p`. -/
def char (p : Char → Bool) : Pattern
  | c :: cs => if p c then [cs] else []
  | [] => []

/-- Exactly the character `c`. -/
def lit (c : Char) : Pattern := char (· == c)

/-- Exactly the characters of `s`, in order. -/
def word (s : String) : Pattern := fun cs =>
  if s.toList.isPrefixOf cs then [cs.drop s.length] else []

/-- Nothing at all. -/
def empty : Pattern := fun cs => [cs]

/-- `a` followed by `b`. -/
def seq (a b : Pattern) : Pattern := fun cs => (a cs).flatMap b

/-- `a` or `b`. -/
def alt (a b : Pattern) : Pattern := fun cs => a cs ++ b cs

/-- `a` or nothing. -/
def opt (a : Pattern) : Pattern := alt a empty

/-- Any number of repetitions of `a`, each reading at least one character. -/
def star (a : Pattern) : Pattern := fun cs =>
  let rec go : Nat → List Char → List (List Char)
    | 0, cs => [cs]
    | n + 1, cs => cs :: ((a cs).filter (·.length < cs.length)).flatMap (go n)
  go (cs.length + 1) cs

/-- One or more repetitions of `a`. -/
def plus (a : Pattern) : Pattern := seq a (star a)

/-- The first of a list of patterns, then the rest. -/
def all : List Pattern → Pattern
  | [] => empty
  | p :: ps => seq p (all ps)

/-- Any of a list of patterns. -/
def any : List Pattern → Pattern
  | [] => fun _ => []
  | p :: ps => alt p (any ps)

/-- Whether the whole text matches, allowing one final line feed after the match. -/
def accepts (p : Pattern) (s : String) : Bool :=
  (p s.toList).any fun rest => rest.isEmpty || rest == ['\n']

end Pattern

open Pattern

/-- A decimal digit. -/
def digitP : Pattern := char Char.isDigit

/-- A decimal digit or `_`. -/
def digitOrUnderscore : Pattern := char fun c => c.isDigit || c == '_'

/-- An optional sign. -/
def signP : Pattern := opt (char fun c => c == '-' || c == '+')

/-- A sexagesimal part `:[0-5]?[0-9]`. -/
def sexagesimalPart : Pattern :=
  all [lit ':', opt (char fun c => '0' ≤ c && c ≤ '5'), digitP]

/-- An exponent `[eE][-+][0-9]+`. -/
def exponentP : Pattern :=
  all [char (fun c => c == 'e' || c == 'E'), char (fun c => c == '-' || c == '+'), plus digitP]

/-- Booleans: `yes`, `no`, `true`, `false`, `on`, `off`, each in three spellings. -/
def boolPattern : Pattern :=
  any (["yes", "Yes", "YES", "no", "No", "NO", "true", "True", "TRUE", "false", "False",
    "FALSE", "on", "On", "ON", "off", "Off", "OFF"].map word)

/-- Floats: a fraction with digits before the dot, a fraction without them, a sexagesimal
number with a fraction, infinities and not-a-number. -/
def floatPattern : Pattern :=
  any [
    all [signP, digitP, star digitOrUnderscore, lit '.', star digitOrUnderscore, opt exponentP],
    all [lit '.', digitP, star digitOrUnderscore, opt exponentP],
    all [signP, digitP, star digitOrUnderscore, plus sexagesimalPart, lit '.',
      star digitOrUnderscore],
    all [signP, lit '.', any [word "inf", word "Inf", word "INF"]],
    all [lit '.', any [word "nan", word "NaN", word "NAN"]]]

/-- Integers: binary, octal, decimal, hexadecimal and sexagesimal. -/
def intPattern : Pattern :=
  any [
    all [signP, word "0b", plus (char fun c => c == '0' || c == '1' || c == '_')],
    all [signP, lit '0', plus (char fun c => ('0' ≤ c && c ≤ '7') || c == '_')],
    all [signP, any [lit '0', all [char (fun c => '1' ≤ c && c ≤ '9'), star digitOrUnderscore]]],
    all [signP, word "0x", plus (char fun c => c.isDigit || ('a' ≤ c && c ≤ 'f') ||
      ('A' ≤ c && c ≤ 'F') || c == '_')],
    all [signP, char (fun c => '1' ≤ c && c ≤ '9'), star digitOrUnderscore, plus sexagesimalPart]]

/-- The merge key `<<`. -/
def mergePattern : Pattern := word "<<"

/-- Null: `~`, `null` in three spellings, or nothing. -/
def nullPattern : Pattern := any [lit '~', word "null", word "Null", word "NULL", empty]

/-- One or two digits. -/
def oneOrTwoDigits : Pattern := seq digitP (opt digitP)

/-- Space or tab. -/
def blankP : Pattern := char fun c => c == ' ' || c == '\t'

/-- Timestamps: a date `YYYY-MM-DD`, or a date and a time with an optional fraction and an
optional zone. -/
def timestampPattern : Pattern :=
  any [
    all [digitP, digitP, digitP, digitP, lit '-', digitP, digitP, lit '-', digitP, digitP],
    all [digitP, digitP, digitP, digitP, lit '-', oneOrTwoDigits, lit '-', oneOrTwoDigits,
      any [char (fun c => c == 'T' || c == 't'), plus blankP],
      oneOrTwoDigits, lit ':', digitP, digitP, lit ':', digitP, digitP,
      opt (seq (lit '.') (star digitP)),
      opt (seq (star blankP) (any [lit 'Z',
        all [char (fun c => c == '-' || c == '+'), oneOrTwoDigits,
          opt (all [lit ':', digitP, digitP])]]))]]

/-- The value key `=`. -/
def valuePattern : Pattern := lit '='

/-- The type a plain scalar's text gives it, as a tag. -/
def implicitTag (text : String) : String :=
  if boolPattern.accepts text then coreTag "bool"
  else if floatPattern.accepts text then coreTag "float"
  else if intPattern.accepts text then coreTag "int"
  else if mergePattern.accepts text then coreTag "merge"
  else if nullPattern.accepts text then coreTag "null"
  else if timestampPattern.accepts text then coreTag "timestamp"
  else if valuePattern.accepts text then coreTag "value"
  else coreTag "str"

end NodeImage.Yaml
