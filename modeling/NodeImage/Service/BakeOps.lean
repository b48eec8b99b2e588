import NodeImage.Service.ToggleOps
import NodeImage.Service.RenderOps
import NodeImage.Bake.Baker

/-!
# Baking operations

`bootstrap`, `latest_image` and `distro_catalog` first read what the baker resolves from:
the catalogs, then the toggles, then the template library. Next they read the request's
models, and only then run the baker. Their answers carry the events the baker recorded.
A failure before the baker runs is answered with no events.
-/

namespace NodeImage.Service

/-- The value of an event: its kind, its operation and its fields. -/
def eventValue (e : Event) : Value :=
  let fields : List (String × Value) := match e.detail with
    | .versionOverridden d c v =>
      [("distro", .str d), ("catalog_version", .str c), ("version", .str v)]
    | .imageResolved d r i => [("distro", .str d), ("region", .str r), ("image", textOrNull i)]
    | .catalogResolved r n => [("region", .str r), ("distros", .int n)]
    | .bootstrapResolved d c => [("distro", .str d), ("customized", .bool c)]
    | .failed error => [("error", .str error)]
  obj ([("kind", .str e.detail.kind), ("operation", .str e.operation.name)] ++ fields)

/-- An answer with the events recorded. -/
def withEvents (fields : List (String × Value)) (events : List Event) : Value :=
  obj (fields ++ [("events", .seq (events.map eventValue))])

/-- The answer to a baking operation: a failure before the baker runs, or the baker's
result or failure. A result's fields are placed by `shape`; the events come with each
answer, and are dropped unless `records`. -/
def bakeAnswerWith (shape : List (String × Value) → List (String × Value)) (records : Bool)
    (prepared : Except Fault (BakeM (List (String × Value)))) : Value :=
  match prepared with
  | .error f => withEvents (faultFields f) []
  | .ok resolution =>
    let (result, events) := resolution.run
    let events := if records then events else []
    match result with
    | .ok fields => withEvents (shape fields) events
    | .error f => withEvents (faultFields f) events

/-- The answer to a baking operation, with the result's fields at the top and every event. -/
def bakeAnswer (prepared : Except Fault (BakeM (List (String × Value)))) : Value :=
  bakeAnswerWith id true prepared

/-- The baker a request sets up, on the machine with its templates written. -/
def requestBaker (h : NodeImage.Host) (req : Value) : Except Fault (NodeImage.Host × Baker) := do
  let store ← requestStore h req
  let toggles ← requestToggles h req
  let (h, lib) ← requestTemplates h req
  return (h, ⟨store, toggles, lib⟩)

/-- The answer fields of a bootstrap. -/
def bootstrapFields (b : Bootstrap) : List (String × Value) :=
  let text := match Text.Base64.decode? b.customData with
    | some bytes => match Text.Utf8.decode bytes with
      | .ok s => s
      | .error _ => ""
    | none => ""
  [("custom_data", .str b.customData), ("custom_data_text", .str text), ("cse", .str b.command),
    ("os_image_config", optionValue legacyImageValue b.legacyImage),
    ("sig_image_config", optionValue sigImageValue b.sigImage)]

/-- What a baker is asked for: the fields of its answer, once the request's models are read. -/
abbrev Resolution := Baker → BakeM (List (String × Value))

/-- A bootstrap of the node a request configures. -/
def bootstrapResolution (h : NodeImage.Host) (req : Value) : Except Fault Resolution := do
  let config ← checked NodeConfig.check (field req "config")
  return fun baker => bootstrapFields <$> baker.bootstrap h config

/-- The gallery image of the distribution a request names, in its environment's region. -/
def latestImageResolution (req : Value) : Except Fault Resolution := do
  let sel ← checked SigConfig.check (field req "sig_config")
  let distro ← distroOf (field req "distro")
  let env ← checked EnvironmentInfo.check (field req "env_info")
  return fun baker => (fun image => [("image", sigImageValue image)]) <$> baker.latestImage sel distro env

/-- Every distribution's gallery image in the region of a request's environment. -/
def distroCatalogResolution (req : Value) : Except Fault Resolution := do
  let sel ← checked SigConfig.check (field req "sig_config")
  let env ← checked EnvironmentInfo.check (field req "env_info")
  return fun baker => (fun images => [("images", byDistro sigImageValue images)]) <$>
    baker.distroCatalog sel env

/-- `bootstrap`: a node's bootstrap. -/
def bootstrapOp (h : NodeImage.Host) (req : Value) : Value :=
  bakeAnswer do
    let (h, baker) ← requestBaker h req
    return (← bootstrapResolution h req) baker

/-- `latest_image`: a distribution's gallery image in a region. -/
def latestImageOp (h : NodeImage.Host) (req : Value) : Value :=
  bakeAnswer do
    let (_, baker) ← requestBaker h req
    return (← latestImageResolution req) baker

/-- `distro_catalog`: every distribution's gallery image in a region. -/
def distroCatalogOp (h : NodeImage.Host) (req : Value) : Value :=
  bakeAnswer do
    let (_, baker) ← requestBaker h req
    return (← distroCatalogResolution req) baker

end NodeImage.Service
