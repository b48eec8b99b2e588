import NodeImage.Data.Value
import NodeImage.Text.Utf8

/-!
# Checking documents against a schema

A configuration document is checked field by field against the shape it must have, and
every problem is reported, not only the first: an `Issue` names the place in the document
(a path of field names, keys and list positions) and the kind of problem.

The checks are lenient in the usual way for configuration models: text must be text,
booleans may also be written `yes`, `off`, `1`, `0` and the like, mappings and lists must be
mappings and lists, a name from a fixed set must be one of its members. Fields the model
does not know are ignored; a missing field with a default takes the default.

Issues come in the order a reader meets them: fields in the model's order, mapping entries
in document order with a key's issues before its value's, list items in order.
-/

namespace NodeImage.Schema

/-- A step of the place of an issue: a field name or mapping key, or a list position. -/
inductive Step where
  | name (s : String)
  | index (i : Int)
deriving DecidableEq, Repr

/-- The kinds of problem a check reports. -/
inductive IssueKind where
  | missing
  | stringType
  | stringUnicode
  | dictType
  | listType
  | modelType
  | enum
  | literalError
  | boolParsing
  | boolType
  | pathType
  | valueError
deriving DecidableEq, Repr

/-- The code of a kind of problem. -/
def IssueKind.code : IssueKind → String
  | .missing => "missing"
  | .stringType => "string_type"
  | .stringUnicode => "string_unicode"
  | .dictType => "dict_type"
  | .listType => "list_type"
  | .modelType => "model_type"
  | .enum => "enum"
  | .literalError => "literal_error"
  | .boolParsing => "bool_parsing"
  | .boolType => "bool_type"
  | .pathType => "path_type"
  | .valueError => "value_error"

/-- A problem found in a document, and where. -/
structure Issue where
  loc : List Step
  kind : IssueKind
deriving DecidableEq, Repr

/-- The outcome of a check: the checked meaning, or every issue found. -/
abbrev Checked (α : Type) := Except (List Issue) α

/-- A check of a document value. -/
abbrev Check (α : Type) := Value → Checked α

namespace Checked

/-- A single issue at the place being checked. -/
def fail {α : Type} (kind : IssueKind) : Checked α := .error [⟨[], kind⟩]

/-- The outcome with its issues placed under `step`. -/
def under {α : Type} (step : Step) : Checked α → Checked α
  | .ok a => .ok a
  | .error issues => .error (issues.map fun i => { i with loc := step :: i.loc })

/-- Both outcomes, with the issues of both when either fails. -/
def both {α β : Type} : Checked α → Checked β → Checked (α × β)
  | .ok a, .ok b => .ok (a, b)
  | .ok _, .error e => .error e
  | .error e, .ok _ => .error e
  | .error e, .error f => .error (e ++ f)

/-- Every outcome of a list, with all their issues when any fails. -/
def all {α : Type} : List (Checked α) → Checked (List α)
  | [] => .ok []
  | c :: cs => (both c (all cs)).map fun p => p.1 :: p.2

end Checked

/-- The step a mapping key is shown as: text as it is, a whole number (or boolean) that fits
in 64 bits as a position, anything else as its printed form. -/
def Step.ofKey : Value → Step
  | .str s => .name s
  | .int i => if -(Int.pow 2 63) ≤ i && i < Int.pow 2 63 then .index i else .name (Value.int i).repr
  | .bool b => .index (if b then 1 else 0)
  | v => .name v.repr

/-- Text: only text, or bytes that are UTF-8. -/
def text : Check String
  | .str s => .ok s
  | .bytes b => match Text.Utf8.decode b with
    | .ok s => .ok s
    | .error _ => Checked.fail .stringUnicode
  | _ => Checked.fail .stringType

/-- The boolean a text stands for: `0`, `off`, `f`, `false`, `n`, `no` and `1`, `on`, `t`,
`true`, `y`, `yes`, letters in any case. -/
def booleanWord (s : String) : Option Bool :=
  let lower := String.ofList (s.toList.map Char.toLower)
  if s == "0" || ["off", "f", "false", "n", "no"].contains lower then some false
  else if s == "1" || ["on", "t", "true", "y", "yes"].contains lower then some true
  else none

/-- A boolean: a boolean, a boolean word, or the number 0 or 1. Other whole numbers are
unreadable booleans; fractions, infinities and other values are not booleans at all. -/
def boolean : Check Bool
  | .bool b => .ok b
  | .str s => match booleanWord s with
    | some b => .ok b
    | none => Checked.fail .boolParsing
  | .bytes b => match Text.Utf8.decode b with
    | .ok s => match booleanWord s with
      | some v => .ok v
      | none => Checked.fail .boolParsing
    | .error _ => Checked.fail .boolParsing
  | .int i =>
    if i == 0 then .ok false else if i == 1 then .ok true
    else if i.natAbs ≥ Nat.pow 2 1024 - Nat.pow 2 970 then Checked.fail .boolType
    else Checked.fail .boolParsing
  | .float x =>
    if x == 0 then .ok false else if x == 1 then .ok true
    else match Float.exactParts? x with
      | some (n, shift) =>
        if n % Int.pow 2 shift == 0 then Checked.fail .boolParsing else Checked.fail .boolType
      | none => Checked.fail .boolType
  | _ => Checked.fail .boolType

/-- The text a value names a member of a fixed set by: text, or bytes that are UTF-8. -/
def memberName? : Value → Option String
  | .str s => some s
  | .bytes b => match Text.Utf8.decode b with
    | .ok s => some s
    | .error _ => none
  | _ => none

/-- A member of a fixed set, named by its text. -/
def member {α : Type} (ofName : String → Option α) : Check α := fun v =>
  match memberName? v >>= ofName with
  | some a => .ok a
  | none => Checked.fail .enum

/-- One of a fixed list of texts. -/
def literal (allowed : List String) : Check String := fun v =>
  match memberName? v with
  | some s => if allowed.contains s then .ok s else Checked.fail .literalError
  | none => Checked.fail .literalError

/-- Null, or a value that passes the check. -/
def optional {α : Type} (check : Check α) : Check (Option α)
  | .null => .ok none
  | v => (check v).map some

/-- A list whose items all pass the check. -/
def listOf {α : Type} (check : Check α) : Check (List α)
  | .seq items => Checked.all (items.zipIdx.map fun (v, i) => (check v).under (.index i))
  | .set items => Checked.all (items.zipIdx.map fun (v, i) => (check v).under (.index i))
  | _ => Checked.fail .listType

/-- A mapping whose keys and values pass their checks; a key's issues are placed under the
key and `[key]`, a value's under the key. -/
def dictOf {κ α : Type} (key : Check κ) (value : Check α) : Check (List (κ × α))
  | .map entries => Checked.all (entries.map fun (k, v) =>
      let place := Step.ofKey k
      Checked.both (((key k).under (.name "[key]")).under place) ((value v).under place))
  | _ => Checked.fail .dictType

/-- The entries of a model's document, which must be a mapping. -/
def model {α : Type} (fields : List (Value × Value) → Checked α) : Check α
  | .map entries => fields entries
  | _ => Checked.fail .modelType

/-- A required field of a model. -/
def required {α : Type} (entries : List (Value × Value)) (name : String) (check : Check α) :
    Checked α :=
  match Value.lookup entries (.str name) with
  | some v => (check v).under (.name name)
  | none => .error [⟨[.name name], .missing⟩]

/-- A field of a model with a default for when it is absent. -/
def withDefault {α : Type} (entries : List (Value × Value)) (name : String) (default : α)
    (check : Check α) : Checked α :=
  match Value.lookup entries (.str name) with
  | some v => (check v).under (.name name)
  | none => .ok default

end NodeImage.Schema
