import NodeImage.Unicode.Properties
import NodeImage.Unicode.Casing
import NodeImage.Unicode.Surrogate

/-!
# Characters

What the character database says about one code point: its classes and its case
mappings.
-/

namespace NodeImage.Unicode

/-- Whether a code point is printed as itself in quoted text. -/
def isPrintable (n : Nat) : Bool := printableTable.contains n

/-- Whether a code point is white space. -/
def isSpace (n : Nat) : Bool := spaceTable.contains n

/-- Whether a code point is a letter. -/
def isAlpha (n : Nat) : Bool := alphaTable.contains n

/-- Whether a code point is a decimal digit. -/
def isDecimal (n : Nat) : Bool := decimalTable.contains n

/-- Whether a code point is a digit. -/
def isDigit (n : Nat) : Bool := digitTable.contains n

/-- Whether a code point has a numeric value. -/
def isNumeric (n : Nat) : Bool := numericTable.contains n

/-- Whether a code point is a letter, a digit or numeric. -/
def isAlnum (n : Nat) : Bool := isAlpha n || isDecimal n || isDigit n || isNumeric n

/-- Whether a code point is upper case. -/
def isUpper (n : Nat) : Bool := uppercaseTable.contains n

/-- Whether a code point is lower case. -/
def isLower (n : Nat) : Bool := lowercaseTable.contains n

/-- Whether a code point is a title-case letter. -/
def isTitle (n : Nat) : Bool := titlecaseTable.contains n

/-- Whether a code point is cased. -/
def isCased (n : Nat) : Bool := casedTable.contains n

/-- Whether a code point is ignored when looking for the cased letters around another. -/
def isCaseIgnorable (n : Nat) : Bool := caseIgnorableTable.contains n

/-- Whether a code point may start an identifier. -/
def isIdentifierStart (n : Nat) : Bool := identifierStartTable.contains n

/-- Whether a code point may continue an identifier. -/
def isIdentifierPart (n : Nat) : Bool := identifierPartTable.contains n

/-- Whether a code point is a word character. -/
def isWord (n : Nat) : Bool := wordTable.contains n

/-- The upper-case form of a code point. -/
def upperOf (n : Nat) : List Nat := (upperMap.find? n).getD [n]

/-- The lower-case form of a code point, capital sigma giving small sigma. -/
def lowerOf (n : Nat) : List Nat := (lowerMap.find? n).getD [n]

/-- The title-case form of a code point. -/
def titleOf (n : Nat) : List Nat := (titleMap.find? n).getD (upperOf n)

/-- The case-folded form of a code point. -/
def foldOf (n : Nat) : List Nat := (foldMap.find? n).getD (lowerOf n)

end NodeImage.Unicode
