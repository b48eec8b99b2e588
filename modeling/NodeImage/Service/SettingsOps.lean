import NodeImage.Service.Request
import NodeImage.Settings.Load

/-!
# Settings operations

The `settings` operation reads the settings a request names and answers every field, paths
as their text and unset fields as null.
-/

namespace NodeImage.Service

/-- Settings as an object of their fields. -/
def settingsValue (s : Settings) : Value :=
  let path := optionValue fun (p : Files.PathName) => .str p.text
  obj [("legacy_catalog_file", path s.legacyCatalogFile), ("sig_catalog_file", path s.sigCatalogFile),
    ("toggles_file", path s.togglesFile), ("vhd_manifest_file", path s.vhdManifestFile),
    ("vhd_components_file", path s.vhdComponentsFile), ("templates_dir", path s.templatesDir),
    ("log_dir", path s.logDir), ("log_level", optionValue (fun l => .str (LogLevel.name l)) s.logLevel),
    ("log_events", .bool s.logEvents)]

/-- The settings file a request names: `path` relative to the working directory, by default
`nodebaker.yaml`; a null `path` names none. -/
def requestSettingsPath (req : Value) : Except Fault (Option Files.PathName) :=
  match req.field? "path" with
  | none => .ok (some (workPath "nodebaker.yaml"))
  | some .null => .ok none
  | some (.str rel) => .ok (some (workPath rel))
  | some _ => .error (.badRequest "path must be text")

/-- `settings`: the settings of the file a request names. -/
def settingsOp (h : NodeImage.Host) (req : Value) : Except Fault Value := do
  return settingsValue (← loadSettings h (← requestSettingsPath req))

end NodeImage.Service
