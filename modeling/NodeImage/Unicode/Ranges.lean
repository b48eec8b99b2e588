/-!
# Tables of code points

Character data is kept in two shapes. A range table is a sorted array of disjoint closed
intervals of code points. A case map sends code points to lists of code points, as an
array of entries sorted by code point.

Both are searched by halving, so a lookup takes a number of steps logarithmic in the size
of the table; the search is bounded by a step count that exceeds that logarithm.
-/

namespace NodeImage.Unicode

/-- The value of a lower-case hexadecimal digit. -/
def hexValue? (c : Char) : Option Nat :=
  if '0' ≤ c && c ≤ '9' then some (c.toNat - '0'.toNat)
  else if 'a' ≤ c && c ≤ 'f' then some (c.toNat - 'a'.toNat + 10)
  else none

/-- The number written by hexadecimal digits; digits that are not hexadecimal are skipped. -/
def readHex (s : String) : Nat :=
  s.toList.foldl (fun acc c => match hexValue? c with
    | some d => acc * 16 + d
    | none => acc) 0

/-- Sorted disjoint closed intervals of code points. -/
structure RangeTable where
  ranges : Array (Nat × Nat)

/-- Searches sorted intervals between two positions for the one holding `n`. -/
def searchRanges (ranges : Array (Nat × Nat)) (n : Nat) : Nat → Nat → Nat → Option (Nat × Nat)
  | 0, _, _ => none
  | steps + 1, lo, hi =>
    if lo ≥ hi then none
    else
      let mid := (lo + hi) / 2
      let (a, b) := ranges.getD mid (0, 0)
      if n < a then searchRanges ranges n steps lo mid
      else if b < n then searchRanges ranges n steps (mid + 1) hi
      else some (a, b)

namespace RangeTable

/-- The interval holding a code point, if any. -/
def find? (t : RangeTable) (n : Nat) : Option (Nat × Nat) :=
  searchRanges t.ranges n 64 0 t.ranges.size

/-- Whether a code point lies in the table. -/
def contains (t : RangeTable) (n : Nat) : Bool := (t.find? n).isSome

end RangeTable

/-- Code points mapped to lists of code points, sorted by code point. -/
structure CaseMap where
  entries : Array (Nat × List Nat)

/-- Searches sorted entries between two positions for the one of `n`. -/
def searchEntries (entries : Array (Nat × List Nat)) (n : Nat) : Nat → Nat → Nat → Option (List Nat)
  | 0, _, _ => none
  | steps + 1, lo, hi =>
    if lo ≥ hi then none
    else
      let mid := (lo + hi) / 2
      let (k, v) := entries.getD mid (0, [])
      if n < k then searchEntries entries n steps lo mid
      else if k < n then searchEntries entries n steps (mid + 1) hi
      else some v

namespace CaseMap

/-- The mapping of a code point, if the map has one. -/
def find? (m : CaseMap) (n : Nat) : Option (List Nat) :=
  searchEntries m.entries n 64 0 m.entries.size

end CaseMap

end NodeImage.Unicode
