import NodeImage.Service.Request
import NodeImage.Toggle.Load

/-!
# Toggle operations

The toggles a request asks for, the entity it describes, and the `toggles` operation, which
evaluates one toggle for that entity.
-/

namespace NodeImage.Service

/-- The toggles a request asks for: with `toggles`, the file it describes written to
`toggles.yaml` and loaded; without it, no toggles. -/
def requestToggles (h : NodeImage.Host) (req : Value) : Except Fault Toggles :=
  match req.field? "toggles" with
  | none => .ok Toggles.none
  | some spec => do
    let h ← Host.writeSpec h "toggles.yaml" spec
    loadToggles h (workPath "toggles.yaml")

/-- The entity a request describes: an environment under `environment`, or else a node
configuration under `configuration`. -/
def requestEntity (req : Value) : Except Fault Entity :=
  let described := field req "entity"
  match described.field? "environment" with
  | some v => Entity.ofEnvironment <$> checked EnvironmentInfo.check v
  | none => Entity.ofConfig <$> checked NodeConfig.check (field described "configuration")

/-- A table of texts as an object. -/
def tableValue (table : List (String × String)) : Value :=
  obj (table.map fun (k, v) => (k, .str v))

/-- Texts in code point order. -/
def sortedTexts (names : List String) : List String :=
  names.mergeSort fun a b => decide (a ≤ b)

/-- `toggles`: the table one toggle (by default the image version toggle) gives the entity
of the request, with the entity's fields and the names of all toggles. -/
def togglesOp (h : NodeImage.Host) (req : Value) : Except Fault Value := do
  let entity ← requestEntity req
  let toggles ← requestToggles h req
  let name ← match req.field? "name" with
    | some (.str n) => pure n
    | some _ => throw (.badRequest "toggle names must be text")
    | none => pure Toggles.imageVersionName
  return obj [("kind", .str entity.kind.name), ("fields", tableValue entity.fields),
    ("values", tableValue (toggles.getMap name entity)),
    ("names", .seq ((sortedTexts toggles.names).map Value.str))]

end NodeImage.Service
