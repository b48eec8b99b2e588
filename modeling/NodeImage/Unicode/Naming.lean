import NodeImage.Unicode.Names

/-!
# Finding characters by name

The code point a name stands for. Names are matched without regard to the case of ASCII
letters, except the names made by rule, whose prefixes and parts must be written in upper
case exactly. A unified ideograph's name ends in four or five upper-case hexadecimal digits
naming a code point of a unified ideograph block; a Hangul syllable's name ends in the
longest matching short names of its leading consonant, vowel and trailing consonant, which
must use up the name.
-/

namespace NodeImage.Unicode

/-- The listed names with their code points, in list order. -/
def namedCodePoints : List (Nat × String) :=
  let step := fun (acc : List (Nat × String) × Nat × List Char) (line : String) =>
    let (out, cp, prev) := acc
    let cs := line.toList
    let delta := cs.takeWhile fun c => (hexValue? c).isSome
    let rest := cs.drop delta.length
    match rest with
    | k :: suffix =>
      let cp' := cp + (if delta.isEmpty then 1 else readHex (String.ofList delta))
      let name := prev.take (k.toNat - 'g'.toNat) ++ suffix
      ((cp', String.ofList name) :: out, cp', name)
    | [] => acc
  let (out, _, _) := (nameList.splitOn "\n").foldl step ([], 0, [])
  out.reverse

/-- ASCII letters in upper case. -/
def asciiUpper (s : String) : String :=
  String.ofList (s.toList.map fun c => if 'a' ≤ c && c ≤ 'z' then Char.ofNat (c.toNat - 32) else c)

/-- The code point blocks of unified ideographs. -/
def unifiedIdeographs : List (Nat × Nat) :=
  [(0x3400, 0x4DBF), (0x4E00, 0x9FFF), (0x20000, 0x2A6DF), (0x2A700, 0x2B739),
    (0x2B740, 0x2B81D), (0x2B820, 0x2CEA1), (0x2CEB0, 0x2EBE0), (0x30000, 0x3134A),
    (0x31350, 0x323AF)]

/-- The value of an upper-case hexadecimal digit. -/
def upperHexValue? (c : Char) : Option Nat :=
  if '0' ≤ c && c ≤ '9' then some (c.toNat - '0'.toNat)
  else if 'A' ≤ c && c ≤ 'F' then some (c.toNat - 'A'.toNat + 10)
  else none

/-- The unified ideograph named by its hexadecimal digits. -/
def ideographNamed? (digits : List Char) : Option Nat := do
  if digits.length != 4 && digits.length != 5 then none
  let n ← digits.foldlM (fun acc c => (upperHexValue? c).map (acc * 16 + ·)) 0
  if unifiedIdeographs.any fun (a, b) => a ≤ n && n ≤ b then some n else none

/-- Short names of the leading consonants of Hangul syllables. -/
def leadingJamo : List String :=
  ["G", "GG", "N", "D", "DD", "R", "M", "B", "BB", "S", "SS", "", "J", "JJ", "C", "K", "T", "P", "H"]

/-- Short names of the vowels of Hangul syllables. -/
def vowelJamo : List String :=
  ["A", "AE", "YA", "YAE", "EO", "E", "YEO", "YE", "O", "WA", "WAE", "OE", "YO", "U", "WEO", "WE",
    "WI", "YU", "EU", "YI", "I"]

/-- Short names of the trailing consonants of Hangul syllables. -/
def trailingJamo : List String :=
  ["", "G", "GG", "GS", "N", "NJ", "NH", "D", "L", "LG", "LM", "LB", "LS", "LT", "LP", "LH", "M",
    "B", "BS", "S", "SS", "NG", "J", "C", "K", "T", "P", "H"]

/-- The position and length of the longest short name that starts the text, the first such
one when two are equally long. -/
def longestJamo (names : List String) (text : List Char) : Option (Nat × Nat) :=
  names.zipIdx.foldl (fun best (name, i) =>
    let len := name.length
    if name.toList.isPrefixOf text then
      match best with
      | some (_, l) => if len > l then some (i, len) else best
      | none => some (i, len)
    else best) none

/-- The Hangul syllable named by the parts of its name. -/
def syllableNamed? (parts : List Char) : Option Nat := do
  let (l, a) ← longestJamo leadingJamo parts
  let (v, b) ← longestJamo vowelJamo (parts.drop a)
  let (t, c) ← longestJamo trailingJamo (parts.drop (a + b))
  if a + b + c != parts.length then none
  some (0xAC00 + (l * 21 + v) * 28 + t)

/-- The code point a name stands for. -/
def codePointNamed? (name : String) : Option Nat :=
  let cs := name.toList
  let ideograph := "CJK UNIFIED IDEOGRAPH-".toList
  let syllable := "HANGUL SYLLABLE ".toList
  if ideograph.isPrefixOf cs then ideographNamed? (cs.drop ideograph.length)
  else if syllable.isPrefixOf cs then syllableNamed? (cs.drop syllable.length)
  else
    let wanted := asciiUpper name
    (namedCodePoints.find? fun (_, n) => n == wanted).map (·.1)

end NodeImage.Unicode
