import NodeImage.Service.BakeOps
import NodeImage.Service.VhdOps
import NodeImage.Service.SettingsOps
import NodeImage.Bake.Setup

/-!
# Baker sessions

The `baker` operation runs steps on a session: the workshop every baker of the request
shares, and the current baker, if any, with whether its events are recorded.

* `new` sets up a baker from the settings file a step names (the defaults when it names
  none) and makes it the current one. What the setup did to the workshop stays even when
  it fails, and then the current baker stays too.
* `with_toggles` gives the current baker the toggles of a file, or none.
* `bootstrap`, `latest_image` and `distro_catalog` read their models as the operations do,
  then ask the current baker, and answer with the events it recorded.
* `cached_vhd` gives the shared inventories.

A step without a current baker fails as a call on nothing does. A failing step other than
`new` is answered with the events recorded, none unless it ran the baker.
-/

namespace NodeImage.Service

/-- The bakers of a request: what they share, and the current baker with whether its
events are recorded. -/
structure BakerSession where
  workshop : Workshop
  current : Option (Baker × Bool)

/-- The session a request starts with: its machine, empty inventories and no baker. -/
def BakerSession.start (h : NodeImage.Host) : BakerSession := ⟨⟨h, Inventories.empty⟩, none⟩

/-- A call on the absent baker. -/
def noBaker (method : String) : Fault := .noAttribute "NoneType" method

/-- A step's result. -/
def resultAnswer (v : Value) : Value := obj [("result", v)]

/-- A step's failure, with no events recorded. -/
def failureAnswer (f : Fault) : Value := withEvents (faultFields f) []

/-- `new`: sets up a baker from the settings a step names. -/
def newBakerStep (s : BakerSession) (step : Value) : Value × BakerSession :=
  let records := match step.field? "events" with
    | some v => v.truthy
    | none => true
  let settings := match field step "settings" with
    | .str rel => loadSettings s.workshop.host (some (workPath rel))
    | _ => .ok Settings.default
  match settings with
  | .error f => (obj (faultFields f), s)
  | .ok settings =>
    match (Baker.setup settings).runOn s.workshop with
    | (.ok baker, w) => (resultAnswer (.bool true), ⟨w, some (baker, records)⟩)
    | (.error f, w) => (obj (faultFields f), { s with workshop := w })

/-- `with_toggles`: gives the current baker the toggles of the file a step names, or none. -/
def withTogglesStep (s : BakerSession) (step : Value) : Value × BakerSession :=
  match s.current with
  | none => (failureAnswer (noBaker "with_toggles"), s)
  | some (baker, records) =>
    let toggles := match field step "toggles" with
      | .str rel => loadToggles s.workshop.host (workPath rel)
      | _ => .ok Toggles.none
    match toggles with
    | .ok t => (resultAnswer (.bool true), { s with current := some ({ baker with toggles := t }, records) })
    | .error f => (failureAnswer f, s)

/-- A step that asks the current baker, under the name the baker's method has. -/
def resolutionStep (s : BakerSession) (method : String) (prepared : Except Fault Resolution) : Value :=
  match s.current with
  | some (baker, records) => bakeAnswerWith (fun fields => [("result", obj fields)]) records
      (prepared.map fun run => run baker)
  | none => failureAnswer (match prepared with
    | .error f => f
    | .ok _ => noBaker method)

/-- `cached_vhd`: the shared inventories. -/
def cachedVhdStep (s : BakerSession) : Value :=
  match s.current with
  | none => failureAnswer (noBaker "get_cached_versions_on_vhd")
  | some _ =>
    match s.workshop.inventories.snapshot with
    | .ok snap => resultAnswer (snapshotValue snap)
    | .error f => failureAnswer f

/-- Runs one step of a session. -/
def bakerStep (s : BakerSession) (step : Value) : Value × BakerSession :=
  let h := s.workshop.host
  match field step "do" with
  | .str "new" => newBakerStep s step
  | .str "with_toggles" => withTogglesStep s step
  | .str "bootstrap" => (resolutionStep s "get_node_bootstrapping" (bootstrapResolution h step), s)
  | .str "latest_image" => (resolutionStep s "get_latest_sig_image_config" (latestImageResolution step), s)
  | .str "distro_catalog" =>
    (resolutionStep s "get_distro_sig_image_config" (distroCatalogResolution step), s)
  | .str "cached_vhd" => (cachedVhdStep s, s)
  | _ => (failureAnswer (.badRequest "unknown step"), s)

/-- `baker`: runs the steps of a request on a fresh session. -/
def bakerOp (h : NodeImage.Host) (req : Value) : Value :=
  let steps := match field req "steps" with
    | .seq s => s
    | _ => []
  let (answers, _) := steps.foldl (fun (acc : List Value × BakerSession) step =>
    let (answer, s) := bakerStep acc.2 step
    (acc.1 ++ [answer], s)) ([], BakerSession.start h)
  obj [("steps", .seq answers)]

end NodeImage.Service
