import NodeImage.Toggle.Rules
import NodeImage.Host
import NodeImage.Catalog.Store

/-!
# Loading toggles

A toggles file is read as UTF-8 text, its environment references are replaced, and the
result is parsed as YAML; an empty or otherwise false document counts as an empty mapping.
A file that cannot be read, a text that is not YAML and a document that is not a toggles
document are each a fault naming the file, with the failure as its cause. Bytes that are
not UTF-8 and YAML scalars that name no value fail as they are.
-/

namespace NodeImage

/-- Reads the toggles of a file. -/
def loadToggles (host : Host) (path : Files.PathName) : Except Fault Toggles := do
  let text ← match host.readText path with
    | .error (.file e) => throw (.togglesUnloadable path.text (.file e))
    | .error (.bytes e) => throw (.undecodable e)
    | .ok text => pure text
  let doc ← match Yaml.load (expandVars host.getEnv text) with
    | .ok v => pure (if v.truthy then v else .map [])
    | .error e => throw (yamlFault (.togglesUnloadable path.text .yaml) e)
  match Toggles.check doc with
  | .ok t => return t
  | .error issues => throw (.togglesUnloadable path.text (.issues issues))

end NodeImage
