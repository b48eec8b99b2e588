import NodeImage.Unicode.Character

/-!
# Case of text

Case conversions and case tests of text, by the full mappings of the character database.

* `lower` maps every character to its lower case. A capital sigma becomes the final small
  sigma when a cased character comes before it and none after it, case-ignorable characters
  skipped on both sides.
* `upper` and `casefold` map every character on its own.
* `title` puts the first character of every run of cased characters in title case and the
  rest in lower case; `capitalize` does so for the first character of the text only.
* `swapcase` lowers upper-case characters and raises lower-case ones.

A text is lower case when it holds a lower-case character and no upper- or title-case one;
upper case likewise. It is title case when every upper- or title-case character starts a
run of cased characters, every lower-case one continues one, and there is at least one.
-/

namespace NodeImage.Text

/-- The code points of a text. -/
def codes (s : String) : List Nat := s.toList.map Char.toNat

/-- The text of code points. -/
def ofCodes (ns : List Nat) : String := String.ofList (ns.map Char.ofNat)

/-- The capital sigma. -/
def capitalSigma : Nat := 0x3A3

/-- Whether a capital sigma ends a word: `before` holds what precedes it, nearest first. -/
def endsWord (before after : List Nat) : Bool :=
  match before.dropWhile Unicode.isCaseIgnorable with
  | b :: _ =>
    Unicode.isCased b && match after.dropWhile Unicode.isCaseIgnorable with
      | a :: _ => !Unicode.isCased a
      | [] => true
  | [] => false

/-- The lower case of one code point in its context. -/
def lowerAt (before : List Nat) (c : Nat) (after : List Nat) : List Nat :=
  if c == capitalSigma then [if endsWord before after then 0x3C2 else 0x3C3]
  else Unicode.lowerOf c

/-- Maps every code point with the context around it: `before` holds what precedes,
nearest first. -/
def mapInContext (f : List Nat → Nat → List Nat → List Nat) : List Nat → List Nat → List Nat
  | _, [] => []
  | before, c :: after => f before c after ++ mapInContext f (c :: before) after

/-- The lower case of a text. -/
def lower (s : String) : String := ofCodes (mapInContext lowerAt [] (codes s))

/-- The upper case of a text. -/
def upper (s : String) : String := ofCodes ((codes s).flatMap Unicode.upperOf)

/-- The case-folded form of a text. -/
def casefold (s : String) : String := ofCodes ((codes s).flatMap Unicode.foldOf)

/-- Title case: the first cased character of every run in title case, the others in lower
case. -/
def title (s : String) : String :=
  ofCodes (mapInContext (fun before c after =>
    match before with
    | b :: _ => if Unicode.isCased b then lowerAt before c after else Unicode.titleOf c
    | [] => Unicode.titleOf c) [] (codes s))

/-- The first character in title case and the rest in lower case. -/
def capitalize (s : String) : String :=
  ofCodes (mapInContext (fun before c after =>
    if before.isEmpty then Unicode.titleOf c else lowerAt before c after) [] (codes s))

/-- Upper-case characters lowered and lower-case ones raised. -/
def swapcase (s : String) : String :=
  ofCodes (mapInContext (fun before c after =>
    if Unicode.isUpper c then lowerAt before c after
    else if Unicode.isLower c then Unicode.upperOf c
    else [c]) [] (codes s))

/-- Whether a text is lower case. -/
def isLowerCase (s : String) : Bool :=
  let cs := codes s
  !(cs.any fun c => Unicode.isUpper c || Unicode.isTitle c) && cs.any Unicode.isLower

/-- Whether a text is upper case. -/
def isUpperCase (s : String) : Bool :=
  let cs := codes s
  !(cs.any fun c => Unicode.isLower c || Unicode.isTitle c) && cs.any Unicode.isUpper

/-- Whether a text is title case, given whether the character before was cased and whether a
cased character was met. -/
def titleCaseFrom : Bool → Bool → List Nat → Bool
  | _, cased, [] => cased
  | previous, cased, c :: cs =>
    if Unicode.isUpper c || Unicode.isTitle c then !previous && titleCaseFrom true true cs
    else if Unicode.isLower c then previous && titleCaseFrom true true cs
    else titleCaseFrom false cased cs

/-- Whether a text is title case. -/
def isTitleCase (s : String) : Bool := titleCaseFrom false false (codes s)

/-- Whether a text is not empty and all its characters pass a test. -/
def allChars (p : Nat → Bool) (s : String) : Bool := !s.isEmpty && (codes s).all p

/-- Whether a text is an identifier: a character that may start one, then characters that
may continue one. -/
def isIdentifier (s : String) : Bool :=
  match codes s with
  | c :: cs => (c == 0x5F || Unicode.isIdentifierStart c) && cs.all Unicode.isIdentifierPart
  | [] => false

end NodeImage.Text
