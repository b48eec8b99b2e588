import NodeImage.Service.CatalogOps
import NodeImage.Service.ToggleOps
import NodeImage.Service.RenderOps
import NodeImage.Service.BakeOps
import NodeImage.Service.VhdOps
import NodeImage.Service.SettingsOps
import NodeImage.Service.BakerOps
import NodeImage.Cloud

/-!
# Requests

A request is a JSON object naming an operation under `op`; the answer is one JSON object.
`respond` reads a request, builds the request's machine, runs the operation it names, and
writes the answer with the working directory shown as `<tmp>`.
-/

namespace NodeImage.Service

/-- The lists of distributions and families. -/
def enumsAnswer : Value :=
  obj [("distros", .seq (Distro.all.map fun d => .str d.value)),
    ("families", .seq (OsFamily.all.map fun f => .str f.name)),
    ("customized", .seq (Distro.customized.map fun d => .str d.value))]

/-- What a distribution is. -/
def distroAnswer (d : Distro) : Value :=
  obj [("value", .str d.value), ("str", .str d.value), ("family", .str d.family.name),
    ("is_windows", .bool d.isWindows), ("is_customized", .bool d.isCustomized)]

/-- The answer to an operation that either fails or answers. -/
def answerOf : Except Fault Value → Value
  | .ok v => v
  | .error f => faultAnswer f

/-- `cloud_name_for_region`: the cloud a region belongs to. -/
def cloudNameOp (req : Value) : Except Fault Value :=
  match field req "region" with
  | .str r => .ok (obj [("cloud_name", .str (Cloud.ofRegion r).name)])
  | v => .error (.noAttribute v.typeName "lower")

/-- Runs one operation on the request's machine. -/
def runOp (h : NodeImage.Host) (req : Value) : Except Fault Value :=
  match field req "op" with
  | .str "enums" => .ok enumsAnswer
  | .str "distro" => distroAnswer <$> distroOf (field req "distro")
  | .str "cloud_name_for_region" => cloudNameOp req
  | .str "load_catalog" => loadCatalogOp h req
  | .str "legacy_lookup" => legacyLookupOp h req
  | .str "sig_env" => sigEnvOp h req
  | .str "find_sig_image" => findSigImageOp req
  | .str "override_version" => overrideVersionOp req
  | .str "toggles" => togglesOp h req
  | .str "render" => renderOp h req
  | .str "bootstrap" => .ok (bootstrapOp h req)
  | .str "latest_image" => .ok (latestImageOp h req)
  | .str "distro_catalog" => .ok (distroCatalogOp h req)
  | .str "vhd" => .ok (vhdOp h req)
  | .str "settings" => settingsOp h req
  | .str "baker" => .ok (bakerOp h req)
  | _ => .error (.badRequest "unknown operation")

/-- Whether a value nests collections more than `limit` levels deep. -/
def nestedBeyond : Nat → Value → Bool
  | 0, .seq _ | 0, .set _ | 0, .map _ => true
  | limit + 1, .seq items | limit + 1, .set items => items.any (nestedBeyond limit)
  | limit + 1, .map entries => entries.any fun e => nestedBeyond limit e.2
  | _, _ => false

/-- The deepest nesting an answer can be written with; a value that contains itself is
always deeper. -/
def answerDepthLimit : Nat := 990

/-- Runs one request. An answer nested too deeply to be written is a recursion error. -/
def run (req : Value) : Value :=
  let answer := answerOf (requestHost req >>= fun h => runOp h req)
  if nestedBeyond answerDepthLimit answer then
    faultAnswer (.uncaught "RecursionError" "maximum recursion depth exceeded in __instancecheck__")
  else hideWorkDir answer

/-- Reads a request line and writes its answer line. -/
def respond (line : String) : String :=
  match Json.read? line with
  | some req => render (run req)
  | none => render (faultAnswer (.badRequest "unreadable request"))

end NodeImage.Service
