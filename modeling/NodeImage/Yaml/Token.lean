/-!
# YAML tokens

The tokens a YAML text is cut into: stream and document markers, the starts and ends of
block and flow collections, entry, key and value indicators, anchors, aliases, tags and
scalars. A scalar token remembers whether it was written plain, because only plain scalars
are given a type by their text.
-/

namespace NodeImage.Yaml

/-- What a directive says: a version, a tag handle with its prefix, or something ignored. -/
inductive DirectiveValue where
  | version (major minor : Nat)
  | tagHandle (handle pfx : String)
  | ignored
deriving Repr, Inhabited

/-- A token of a YAML text. -/
inductive Token where
  | streamStart
  | streamEnd
  | directive (name : String) (value : DirectiveValue)
  | documentStart
  | documentEnd
  | blockSequenceStart
  | blockMappingStart
  | blockEnd
  | flowSequenceStart
  | flowSequenceEnd
  | flowMappingStart
  | flowMappingEnd
  | blockEntry
  | flowEntry
  | key
  | value
  | aliasOf (name : String)
  | anchor (name : String)
  | tag (handle : Option String) (suffix : String)
  | scalar (text : String) (plain : Bool)
deriving Repr, Inhabited

namespace Token

/-- Which kind of token this is, as a number, so that kinds can be compared. -/
def kindIndex : Token → Nat
  | streamStart => 0
  | streamEnd => 1
  | directive _ _ => 2
  | documentStart => 3
  | documentEnd => 4
  | blockSequenceStart => 5
  | blockMappingStart => 6
  | blockEnd => 7
  | flowSequenceStart => 8
  | flowSequenceEnd => 9
  | flowMappingStart => 10
  | flowMappingEnd => 11
  | blockEntry => 12
  | flowEntry => 13
  | key => 14
  | value => 15
  | aliasOf _ => 16
  | anchor _ => 17
  | tag _ _ => 18
  | scalar _ _ => 19

/-- Whether two tokens are of the same kind. -/
def sameKind (a b : Token) : Bool := a.kindIndex == b.kindIndex

end Token

end NodeImage.Yaml
