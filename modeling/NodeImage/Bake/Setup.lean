import NodeImage.Bake.Baker
import NodeImage.Settings.Model
import NodeImage.Toggle.Load
import NodeImage.Vhd.Inventory

/-!
# Setting up a baker

A baker is set up from settings, on a workshop: the machine's files and the VHD
inventories that every baker of a process shares. The steps, in order:

1. With a log directory set, it is created with the directories above it; an existing
   directory is kept.
2. With either catalog file set, both catalogs are read, an unset one meaning the shipped
   catalog; otherwise the shipped catalogs are used as they are.
3. With a toggles file set, the toggles are loaded from it; otherwise there are none.
4. With the VHD inventory files set, the shared inventories are filled from them unless they
   already hold exactly those files.
5. The templates come from the templates directory, by default the shipped one.

A failing step ends the setup, and what the steps before it did to the workshop stays: a
created directory stays, and inventories stored before a failure stay stored.
-/

namespace NodeImage

/-- What the bakers of a process share: the machine's files and the VHD inventories. -/
structure Workshop where
  host : Host
  inventories : Inventories

/-- A step on a workshop that may fail, keeping what it changed before the failure. -/
abbrev SetupM := ExceptT Fault (StateM Workshop)

namespace SetupM

/-- A result that may be a fault, in a setup step. -/
def lift {α : Type} (x : Except Fault α) : SetupM α :=
  match x with
  | .ok a => pure a
  | .error f => throw f

/-- Runs an inventory step on the shared inventories. -/
def onInventories {α : Type} (step : InventoryM α) : SetupM α := do
  let w ← get
  let (result, inv) := step.runOn w.inventories
  set { w with inventories := inv }
  lift result

/-- Creates a directory and the missing directories above it. -/
def makeDirs (dir : Files.PathName) : SetupM Unit := do
  let w ← get
  let files ← lift (w.host.files.makeDirs dir |>.mapError Fault.fileError)
  set { w with host := { w.host with files := files } }

/-- Runs a setup step on a workshop: the result, and the workshop after it. -/
def runOn {α : Type} (x : SetupM α) (w : Workshop) : Except Fault α × Workshop :=
  (ExceptT.run x).run w

end SetupM

open SetupM

/-- Sets up a baker from settings. -/
def Baker.setup (s : Settings) : SetupM Baker := do
  if let some dir := s.logDir then makeDirs dir
  let host := (← get).host
  let catalogs ← if s.legacyCatalogFile.isSome || s.sigCatalogFile.isSome then
      lift (CatalogStore.load host s.legacyCatalogFile s.sigCatalogFile)
    else pure CatalogStore.shipped
  let toggles ← match s.togglesFile with
    | some path => lift (loadToggles host path)
    | none => pure Toggles.none
  match s.vhdManifestFile, s.vhdComponentsFile with
  | some manifest, some components => onInventories (ensureLoaded host manifest components)
  | some _, none =>
    throw (.uncaught "TypeError" "expected str, bytes or os.PathLike object, not NoneType")
  | none, _ => pure ()
  let templates := match s.templatesDir with
    | some dir => ⟨dir⟩
    | none => TemplateLibrary.shipped
  return ⟨catalogs, toggles, templates⟩

end NodeImage
