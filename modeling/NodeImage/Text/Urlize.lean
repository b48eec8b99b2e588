import NodeImage.Text.Wrap
import NodeImage.Text.Case

/-!
# Turning addresses in text into links

The words of (already escaped) text that look like web addresses or e-mail addresses
become links; the white space between words is kept.

Before a word is looked at, opening brackets at its start and closing brackets and
punctuation at its end are set aside, except that closing brackets are taken back into
the word as far as they balance opening ones inside it. What is left is a web address
when it is `http://`, `https://` or `www.` followed by a host name with a top-level
domain of letters, or a host name of two or more labels ending in a well-known top-level
domain, or a scheme followed by an IPv4 address or a bracketed IPv6 address; then an
optional port and an optional path. An address without a scheme links to its `https://`
form. A word is an e-mail address when it has the form `name@domain.tld` (or starts with
`mailto:` followed by one). Words that start with one of the extra schemes also become
links. A link's text may be cut to a length, ending in `...`.
-/

namespace NodeImage.Text

/-- Whether a character is a word character or one of `%` and `-`. -/
def isLabelChar (c : Char) : Bool := isWordChar c || c == '%' || c == '-'

/-- Whether a character is an ASCII letter. -/
def isAsciiLetter (c : Char) : Bool := ('a' ≤ c && c ≤ 'z') || ('A' ≤ c && c ≤ 'Z')

/-- Whether a character is a decimal digit of any script. -/
def isAnyDecimal (c : Char) : Bool := Unicode.isDecimal c.toNat

/-- Whether a character is a hexadecimal digit, the decimal ones of any script included. -/
def isHexish (c : Char) : Bool :=
  isAnyDecimal c || ('a' ≤ c && c ≤ 'f') || ('A' ≤ c && c ≤ 'F')

/-- Text in lower case, ASCII letters only. -/
def asciiLower (s : String) : String := String.ofList (s.toList.map Char.toLower)

/-- Whether text is a top-level domain of letters, or an internationalized one. -/
def isLetterDomain (s : String) : Bool :=
  let cs := s.toList
  (2 ≤ cs.length && cs.length ≤ 63 && cs.all isAsciiLetter) ||
    (asciiLower (String.ofList (cs.take 4)) == "xn--" &&
      let rest := cs.drop 4
      2 ≤ rest.length && rest.length ≤ 59 && rest.all fun c => isWordChar c || c == '%')

/-- Whether text is a scheme and host name with a top-level domain of letters. -/
def isSchemeHost (s : String) : Bool :=
  let low := asciiLower s
  let start :=
    if low.startsWith "https://" then some 8
    else if low.startsWith "http://" then some 7
    else if low.startsWith "www." then some 4
    else none
  match start with
  | none => false
  | some k =>
    let parts := (String.ofList (s.toList.drop k)).splitOn "."
    match parts.reverse with
    | [] => false
    | tld :: labels =>
      isLetterDomain tld && labels.all fun l => !l.isEmpty && l.toList.all isLabelChar

/-- Whether text is a host name ending in a well-known top-level domain. -/
def isKnownDomainHost (s : String) : Bool :=
  match (s.splitOn ".").reverse with
  | tld :: labels@(_ :: _) =>
    ["com", "net", "int", "edu", "gov", "org", "info", "mil"].contains (asciiLower tld) &&
      labels.all fun l => 2 ≤ l.length && l.length ≤ 63 && l.toList.all isLabelChar
  | _ => false

/-- Whether text is an IPv4 address: four groups of one to three digits. -/
def isIpv4 (s : String) : Bool :=
  let parts := s.splitOn "."
  parts.length == 4 && parts.all fun p => 1 ≤ p.length && p.length ≤ 3 && p.toList.all isAnyDecimal

/-- How many groups of up to four hexadecimal digits, each with an optional colon, the
text needs at least; none when it has other characters. -/
def hexGroups (cs : List Char) : Option Nat :=
  if !(cs.all fun c => c == ':' || isHexish c) then none
  else
    let segments := (String.ofList cs).splitOn ":"
    let count := segments.length
    some ((segments.zipIdx).foldl (fun acc (seg, i) =>
      let n := seg.length
      let needed := (n + 3) / 4
      if i + 1 < count then acc + max needed 1 else acc + needed) 0)

/-- Whether text is a bracketed IPv6 address, as loosely as the pattern allows. -/
def isIpv6 (s : String) : Bool :=
  match s.toList with
  | '[' :: rest =>
    match rest.reverse with
    | ']' :: inner =>
      let inner := inner.reverse
      let first := inner.takeWhile (· != ':')
      let afterFirst := inner.drop first.length
      match afterFirst with
      | ':' :: more =>
        let second := more.takeWhile (· != ':')
        match more.drop second.length with
        | ':' :: tail =>
          first.length ≤ 4 && first.all isHexish && second.length ≤ 4 && second.all isHexish &&
            match hexGroups tail with
            | some g => g ≤ 6
            | none => false
        | _ => false
      | _ => false
    | _ => false
  | _ => false

/-- Whether text is a scheme followed by an IP address. -/
def isSchemeAddress (s : String) : Bool :=
  let low := asciiLower s
  let k := if low.startsWith "https://" then 8 else if low.startsWith "http://" then 7 else 0
  k > 0 &&
    let host := String.ofList (s.toList.drop k)
    isIpv4 host || isIpv6 host

/-- Whether the rest of an address after its host is an optional port and path. -/
def isPortAndPath (cs : List Char) : Bool :=
  let pathOk := fun (r : List Char) => match r with
    | [] => true
    | c :: more => (c == '/' || c == '?' || c == '#') && more.all fun ch => !Unicode.isSpace ch.toNat
  match cs with
  | ':' :: rest =>
    let digits := rest.takeWhile isAnyDecimal
    1 ≤ digits.length && digits.length ≤ 5 && pathOk (rest.drop digits.length)
  | r => pathOk r

/-- Whether text is a web address. -/
def isWebAddress (s : String) : Bool :=
  let cs := s.toList
  (List.range cs.length).any fun k =>
    let h := k + 1
    let host := String.ofList (cs.take h)
    isPortAndPath (cs.drop h) && (isSchemeHost host || isKnownDomainHost host || isSchemeAddress host)

/-- Whether text is an e-mail address. -/
def isEmail (s : String) : Bool :=
  let cs := s.toList
  (List.range cs.length).any fun at_ =>
    cs[at_]? == some '@' && at_ > 0 &&
      (cs.take at_).all (fun c => !Unicode.isSpace c.toNat) &&
      let domain := cs.drop (at_ + 1)
      match domain with
      | [] => false
      | d :: _ =>
        isWordChar d &&
          (List.range domain.length).any fun dot =>
            let tail := domain.drop (dot + 1)
            dot ≥ 1 && domain[dot]? == some '.' &&
              ((domain.take dot).drop 1).all (fun c => isWordChar c || c == '.' || c == '-') &&
              !tail.isEmpty && tail.all isWordChar

/-- The opening brackets at the start of a word, and the rest. -/
def splitHead (cs : List Char) : List Char × List Char :=
  let rec go : Nat → List Char → List Char → List Char × List Char
    | 0, acc, rest => (acc, rest)
    | fuel + 1, acc, rest =>
      match rest with
      | '(' :: r => go fuel (acc ++ ['(']) r
      | '<' :: r => go fuel (acc ++ ['<']) r
      | '&' :: 'l' :: 't' :: ';' :: r => go fuel (acc ++ "&lt;".toList) r
      | _ => (acc, rest)
  go (cs.length + 1) [] cs

/-- Whether text is made only of closing brackets and punctuation that end a word. -/
def allTailTokens : Nat → List Char → Bool
  | 0, _ => false
  | _ + 1, [] => true
  | fuel + 1, '&' :: 'g' :: 't' :: ';' :: r => allTailTokens fuel r
  | fuel + 1, c :: r => (c == ')' || c == '>' || c == '.' || c == ',' || c == '\n') && allTailTokens fuel r

/-- The word without its trailing brackets and punctuation, and those. -/
def splitTail (cs : List Char) : List Char × List Char :=
  let s := String.ofList cs
  if !(s.endsWith ")" || s.endsWith ">" || s.endsWith "." || s.endsWith "," || s.endsWith "\n" ||
      s.endsWith "&gt;") then (cs, [])
  else
    match (List.range (cs.length + 1)).find? fun p => p < cs.length && allTailTokens (cs.length + 1) (cs.drop p) with
    | some p => (cs.take p, cs.drop p)
    | none => (cs, [])

/-- Moves closing brackets from the tail into the word as far as they balance it. -/
def balance (middle tail : String) (openS closeS : String) : String × String :=
  let starts := (middle.splitOn openS).length - 1
  if starts ≤ (middle.splitOn closeS).length - 1 then (middle, tail)
  else
    let moves := min starts ((tail.splitOn closeS).length - 1)
    (List.range moves).foldl (fun (m, t) _ =>
      match t.splitOn closeS with
      | before :: _ :: _ =>
        let endIndex := before.length + closeS.length
        (m ++ String.ofList (t.toList.take endIndex), String.ofList (t.toList.drop endIndex))
      | _ => (m, t)) (middle, tail)

/-- The options of turning addresses into links. -/
structure LinkOptions where
  trimLimit : Option Int := none
  relAttr : String := ""
  targetAttr : String := ""
  extraSchemes : List String := []

/-- A link's text, cut to the limit. -/
def LinkOptions.trim (o : LinkOptions) (x : String) : String :=
  match o.trimLimit with
  | some k => if (x.length : Int) > k then String.ofList (x.toList.take k.toNat) ++ "..." else x
  | none => x

/-- One word with its address turned into a link. -/
def linkWord (o : LinkOptions) (word : String) : String :=
  let (head, middle) := splitHead word.toList
  let (middle, tail) := splitTail middle
  let (m, t) := (String.ofList middle, String.ofList tail)
  let (m, t) := balance m t "(" ")"
  let (m, t) := balance m t "<" ">"
  let (m, t) := balance m t "&lt;" "&gt;"
  let m :=
    if isWebAddress m then
      if m.startsWith "https://" || m.startsWith "http://" then
        "<a href=\"" ++ m ++ "\"" ++ o.relAttr ++ o.targetAttr ++ ">" ++ o.trim m ++ "</a>"
      else
        "<a href=\"https://" ++ m ++ "\"" ++ o.relAttr ++ o.targetAttr ++ ">" ++ o.trim m ++ "</a>"
    else if m.startsWith "mailto:" && isEmail (String.ofList (m.toList.drop 7)) then
      "<a href=\"" ++ m ++ "\">" ++ String.ofList (m.toList.drop 7) ++ "</a>"
    else if m.contains '@' && !m.startsWith "www." && !m.startsWith "@" && !m.contains ':' && isEmail m then
      "<a href=\"mailto:" ++ m ++ "\">" ++ m ++ "</a>"
    else
      o.extraSchemes.foldl (fun m scheme =>
        if m != scheme && m.startsWith scheme then
          "<a href=\"" ++ m ++ "\"" ++ o.relAttr ++ o.targetAttr ++ ">" ++ m ++ "</a>"
        else m) m
  String.ofList head ++ m ++ t

/-- The words of text and the runs of white space between them, in order. -/
def wordsAndSpaces (s : String) : List String :=
  let rec go : Nat → List Char → List String
    | 0, _ => []
    | _ + 1, [] => []
    | fuel + 1, cs@(c :: _) =>
      let blank := Unicode.isSpace c.toNat
      let run := cs.takeWhile fun ch => Unicode.isSpace ch.toNat == blank
      String.ofList run :: go fuel (cs.drop run.length)
  go (s.length + 1) s.toList

/-- Turns the addresses in escaped text into links. -/
def urlize (escaped : String) (o : LinkOptions) : String :=
  String.join ((wordsAndSpaces escaped).map fun w =>
    if w.toList.all fun c => Unicode.isSpace c.toNat then w else linkWord o w)

/-- Whether text is a scheme prefix: two or more word characters, dots, pluses or
dashes, a colon, and up to two slashes. -/
def isSchemePrefix (s : String) : Bool :=
  let cs := s.toList
  let name := cs.takeWhile fun c => isWordChar c || c == '.' || c == '+' || c == '-'
  let rest := cs.drop name.length
  name.length ≥ 2 &&
    match rest with
    | ':' :: slashes => slashes.length ≤ 2 && slashes.all (· == '/')
    | _ => false

end NodeImage.Text
