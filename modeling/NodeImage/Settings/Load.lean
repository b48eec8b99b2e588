import NodeImage.Settings.Model
import NodeImage.Host
import NodeImage.Catalog.Store

/-!
# Loading settings

Settings come from the file given, else from the file the `NODEBAKER_CONFIG` variable
names; with neither they are the defaults. The file is read as UTF-8 text, its environment
references are replaced, and the text is parsed as YAML, a false document counting as an
empty mapping. Any other document must be a mapping.

Paths in a settings file are relative to the file itself: a text value under a key ending
in `_file` or `_dir` has its leading `~` expanded and, unless it is then absolute, is taken
from the file's directory. This happens for every such key, known or not, before the
settings are checked. Failures here are not wrapped: a file that cannot be read, a text
that is not YAML, a document that is not a mapping and a key that is not text each fail
as they are.
-/

namespace NodeImage

/-- The variable naming a settings file. -/
def settingsVariable : String := "NODEBAKER_CONFIG"

/-- Whether a settings key names a path. -/
def isPathKey (key : String) : Bool := key.endsWith "_file" || key.endsWith "_dir"

/-- A path value of a settings file, taken from the file's directory `base`. -/
def resolveSettingsPath (host : Host) (base : Files.PathName) (value : String) :
    Except Fault Files.PathName :=
  match Files.PathName.expandHome ((host.getEnv "HOME").getD "") (Files.PathName.parse value) with
  | some p => .ok (base.join p)
  | none => .error (.uncaught "RuntimeError" "Could not determine home directory.")

/-- One entry of a settings document with its path resolved. A key is only asked whether it
names a path when its value is text. -/
def resolveSettingsEntry (host : Host) (base : Files.PathName) (entry : Value × Value) :
    Except Fault (Value × Value) :=
  match entry with
  | (.str key, .str value) =>
    if isPathKey key then return (.str key, .str (← resolveSettingsPath host base value).text)
    else .ok entry
  | (.bytes _, .str _) =>
    .error (.uncaught "TypeError" "endswith first arg must be bytes or a tuple of bytes, not str")
  | (key, .str _) => .error (.noAttribute key.typeName "endswith")
  | _ => .ok entry

/-- Reads the settings of a file. -/
def loadSettingsFile (host : Host) (path : Files.PathName) : Except Fault Settings := do
  let text ← match host.readText path with
    | .error (.file e) => throw (.fileError e)
    | .error (.bytes e) => throw (.undecodable e)
    | .ok text => pure text
  let doc ← match Yaml.load (expandVars host.getEnv text) with
    | .ok v => pure (if v.truthy then v else .map [])
    | .error e => throw (yamlFault .yamlMalformed e)
  let entries ← match doc with
    | .map entries => pure entries
    | v => throw (.noAttribute v.typeName "items")
  let resolved ← entries.mapM (resolveSettingsEntry host path.parent)
  match Settings.check (.map resolved) with
  | .ok s => return s
  | .error issues => throw (.invalid issues)

/-- Reads the settings of a file, or, without one, of the file the settings variable names;
with neither, the defaults. -/
def loadSettings (host : Host) (path : Option Files.PathName) : Except Fault Settings :=
  match path, host.getEnv settingsVariable with
  | some p, _ => loadSettingsFile host p
  | none, some name => if name.isEmpty then .ok Settings.default else loadSettingsFile host (Files.PathName.parse name)
  | none, none => .ok Settings.default

end NodeImage
