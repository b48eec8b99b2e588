import NodeImage.Schema.Check
import NodeImage.Files.Path

/-!
# Baker settings

Where the baker reads its catalogs, version overrides, VHD inventories and templates from,
and how it logs. Every field is optional: an unset catalog means the shipped one, unset
toggles mean no overrides, and unset inventories mean none are loaded. The two VHD
inventory files are set together or not at all.

A settings document is checked field by field, all issues reported together; unknown keys
are ignored. A path field holds text or nothing; the log level is one of four fixed words,
and event logging is a boolean as a loose reading of booleans allows.
-/

namespace NodeImage

/-- How much the baker logs. -/
inductive LogLevel
  | debug
  | info
  | warning
  | error
deriving DecidableEq, Repr

namespace LogLevel

/-- The name of a level, as settings write it. -/
def name : LogLevel → String
  | .debug => "DEBUG"
  | .info => "INFO"
  | .warning => "WARNING"
  | .error => "ERROR"

/-- Every level. -/
def all : List LogLevel := [.debug, .info, .warning, .error]

/-- The level a name stands for. -/
def ofName? (s : String) : Option LogLevel := all.find? (·.name == s)

end LogLevel

/-- The settings of a baker. -/
structure Settings where
  legacyCatalogFile : Option Files.PathName := none
  sigCatalogFile : Option Files.PathName := none
  togglesFile : Option Files.PathName := none
  vhdManifestFile : Option Files.PathName := none
  vhdComponentsFile : Option Files.PathName := none
  templatesDir : Option Files.PathName := none
  logDir : Option Files.PathName := none
  logLevel : Option LogLevel := none
  logEvents : Bool := false
deriving Repr

namespace Settings

/-- Settings with every field unset. -/
def default : Settings := {}

/-- Whether the two VHD inventory files are set together or both unset. -/
def inventoriesPaired (s : Settings) : Bool :=
  s.vhdManifestFile.isSome == s.vhdComponentsFile.isSome

open Schema

/-- A path: any text. -/
def pathCheck : Check Files.PathName
  | .str s => .ok (Files.PathName.parse s)
  | _ => Checked.fail .pathType

/-- A log level: one of its names exactly. -/
def levelCheck : Check LogLevel := fun v =>
  (literal (LogLevel.all.map LogLevel.name) v).bind fun s =>
    match LogLevel.ofName? s with
    | some l => .ok l
    | none => Checked.fail .literalError

/-- An optional path field. -/
def pathField (entries : List (Value × Value)) (name : String) : Checked (Option Files.PathName) :=
  withDefault entries name none (optional pathCheck)

/-- Reads settings from a document: the fields first, then the pairing of the inventory
files. -/
def check : Check Settings := model fun entries => do
  let ((legacy, sig, toggles, manifest, components), (templates, logs, level, events)) ←
    Checked.both
      (Checked.both (pathField entries "legacy_catalog_file") (Checked.both (pathField entries "sig_catalog_file")
        (Checked.both (pathField entries "toggles_file") (Checked.both (pathField entries "vhd_manifest_file")
          (pathField entries "vhd_components_file")))))
      (Checked.both (pathField entries "templates_dir") (Checked.both (pathField entries "log_dir")
        (Checked.both (withDefault entries "log_level" none (optional levelCheck))
          (withDefault entries "log_events" false boolean))))
  let s : Settings := ⟨legacy, sig, toggles, manifest, components, templates, logs, level, events⟩
  if s.inventoriesPaired then return s else Checked.fail .valueError

end Settings

end NodeImage
