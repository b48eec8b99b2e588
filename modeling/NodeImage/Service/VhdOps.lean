import NodeImage.Service.Request
import NodeImage.Vhd.Inventory

/-!
# Inventory operations

The `vhd` operation runs steps on one set of inventories, empty at first. Each step is
answered by its result or its failure, together with whether the inventories are filled
and the files they were loaded from.
-/

namespace NodeImage.Service

open InventoryM

/-- The three inventories as an answer. -/
def snapshotValue : Value × Value × Value → Value
  | (m, images, files) => obj [("from_manifest", m), ("from_component_container_images", images),
    ("from_component_downloaded_files", files)]

/-- The files inventories were loaded from, as an answer. -/
def sourcesValue : Option (String × String) → Value
  | some (a, b) => .seq [.str a, .str b]
  | none => .null

/-- A path of the working directory named by a step's field. -/
def stepPath (step : Value) (name : String) : Except Fault Files.PathName :=
  match field step name with
  | .str rel => .ok (workPath rel)
  | _ => .error (.badRequest "paths must be text")

/-- Runs one inventory step. -/
def inventoryStep (h : NodeImage.Host) (step : Value) : InventoryM Value :=
  match field step "do" with
  | .str "initialize" => do
    fill (field step "manifest") (field step "container_images") (field step "downloaded_files")
    return .bool true
  | .str "ensure_loaded" => do
    ensureLoaded h (← lift (stepPath step "manifest")) (← lift (stepPath step "components"))
    return .bool true
  | .str "load_inventories" => do
    let m ← lift (stepPath step "manifest")
    let c ← lift (stepPath step "components")
    if (field step "into").truthy then
      loadInventories h m c
      return .bool true
    else
      let (r, fresh) := (loadInventories h m c).runOn Inventories.empty
      lift r
      return snapshotValue (← lift fresh.snapshot)
  | .str "snapshot" => do return snapshotValue (← lift (← get).snapshot)
  | .str "clear" => do
    match field step "attr" with
    | .str "from_manifest" => modify fun inv => { inv with manifest := .null }
    | .str "from_component_container_images" => modify fun inv => { inv with containerImages := .null }
    | .str "from_component_downloaded_files" => modify fun inv => { inv with downloadedFiles := .null }
    | .str "sources" => modify fun inv => { inv with sources := none }
    | _ => pure ()
    return .bool true
  | .str "state" => return .bool true
  | _ => throw (.badRequest "unknown step")

/-- The answer to a step, with the state of the inventories after it. -/
def inventoryStepAnswer (result : Except Fault Value) (inv : Inventories) : Value :=
  let fields := match result with
    | .ok v => [("result", v)]
    | .error f => faultFields f
  obj (fields ++ [("initialized", .bool inv.initialized), ("sources", sourcesValue inv.sources)])

/-- `vhd`: runs the steps of a request on fresh inventories. -/
def vhdOp (h : NodeImage.Host) (req : Value) : Value :=
  let steps := match field req "steps" with
    | .seq s => s
    | _ => []
  let (answers, _) := steps.foldl (fun (acc : List Value × Inventories) step =>
    let (answers, inv) := acc
    let (r, inv') := (inventoryStep h step).runOn inv
    (answers ++ [inventoryStepAnswer r inv'], inv')) ([], Inventories.empty)
  obj [("steps", .seq answers)]

end NodeImage.Service
