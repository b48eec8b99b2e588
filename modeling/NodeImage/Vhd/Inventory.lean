import NodeImage.Catalog.Store

/-!
# VHD inventories

What a node image (VHD) has baked in is described by two build outputs: a manifest, any
mapping, and a components file listing container images (`ContainerImages`) and
downloaded files (`DownloadFiles`), each entry a mapping with a `name`. The inventories
hold the manifest and the two lists indexed by name.

The inventories are filled once. `fill` stores three values as given. It refuses to
run when the inventories are already filled, and it fails after storing when a list has
no length. `ensureLoaded` fills them from two files unless they already hold exactly those
files, and it refuses other files once filled. A snapshot requires all three parts, and
reports the first one missing.

Reading a file: a file that cannot be read or is not YAML is an error naming the file. The
manifest must be a mapping. A false components document counts as an empty mapping and
must otherwise be a mapping. Each section must be a list whose entries have a true `name`,
and a later entry with an equal name replaces an earlier one.
-/

namespace NodeImage

/-- The three inventories, `null` where unset, and the two files they were loaded from. -/
structure Inventories where
  manifest : Value
  containerImages : Value
  downloadedFiles : Value
  sources : Option (String × String)
deriving Inhabited

/-- Inventories, filling them or failing, where a failure keeps what was stored before it. -/
abbrev InventoryM := ExceptT Fault (StateM Inventories)

/-- The name of the manifest inventory. -/
def manifestInventory : String := "manifest"

/-- The name of the container images inventory. -/
def containerImagesInventory : String := "component container images"

/-- The name of the downloaded files inventory. -/
def downloadedFilesInventory : String := "component downloaded files"

namespace Inventories

/-- Inventories with nothing in them. -/
def empty : Inventories := ⟨.null, .null, .null, none⟩

/-- Whether all three inventories are set. -/
def initialized (inv : Inventories) : Bool :=
  !(inv.manifest matches .null) && !(inv.containerImages matches .null) &&
    !(inv.downloadedFiles matches .null)

/-- The three inventories, or the first one that is unset. -/
def snapshot (inv : Inventories) : Except Fault (Value × Value × Value) :=
  if inv.manifest matches .null then .error (.cacheNotInitialized manifestInventory)
  else if inv.containerImages matches .null then .error (.cacheNotInitialized containerImagesInventory)
  else if inv.downloadedFiles matches .null then .error (.cacheNotInitialized downloadedFilesInventory)
  else .ok (inv.manifest, inv.containerImages, inv.downloadedFiles)

end Inventories

/-- Fails unless a value has a length: texts, bytes and collections do. -/
def requireLength (v : Value) : Except Fault Unit :=
  match v with
  | .str _ | .bytes _ | .seq _ | .set _ | .map _ => .ok ()
  | _ => .error (.noLength v.typeName)

/-- A result that may be a fault, in `InventoryM`. -/
def InventoryM.lift {α : Type} (x : Except Fault α) : InventoryM α :=
  match x with
  | .ok a => pure a
  | .error f => throw f

open InventoryM

/-- Stores the three inventories as given, unless they are already filled; fails afterwards
when either list has no length. -/
def fill (manifest containerImages downloadedFiles : Value) : InventoryM Unit := do
  if (← get).initialized then
    throw (.cacheAlreadyInitialized "VHD inventories are already initialized")
  modify fun inv =>
    { inv with manifest := manifest, containerImages := containerImages, downloadedFiles := downloadedFiles }
  lift (requireLength containerImages)
  lift (requireLength downloadedFiles)

/-- The YAML document of an inventory file. -/
def readInventoryDocument (host : Host) (path : Files.PathName) : Except Fault Value :=
  match host.readText path with
  | .error (.file e) => .error (.inventoryUnreadable path.text (.file e))
  | .error (.bytes e) => .error (.undecodable e)
  | .ok text => match Yaml.load text with
    | .ok v => .ok v
    | .error e => .error (yamlFault (.inventoryUnreadable path.text .yaml) e)

/-- The name an inventory entry is indexed by: the `name` of a mapping, null otherwise. -/
def entryName : Value → Value
  | .map fields => (Value.lookup fields (.str "name")).getD .null
  | _ => .null

/-- Adds an entry of a section to the index under its name, which must be true. -/
def indexEntry (path : String) (heading : String) (indexed : List (Value × Value)) (item : Value) :
    Except Fault (List (Value × Value)) := do
  let name := entryName item
  if !name.truthy then
    throw (.inventoryMalformed (heading ++ " entry without a name in " ++ path) path)
  if !name.hashable then throw (.unhashable name.typeName)
  return Value.insertEntry indexed (name, item)

/-- The entries of a section indexed by their names. -/
def indexByName (items : Value) (path : String) (heading : String) :
    Except Fault (List (Value × Value)) :=
  match items with
  | .seq entries => entries.foldlM (indexEntry path heading) []
  | _ => .error (.inventoryMalformed (heading ++ " in " ++ path ++ " must be a list") path)

/-- A section of the components, a missing section being an empty list. -/
def componentSection (entries : List (Value × Value)) (heading : String) : Value :=
  (Value.lookup entries (.str heading)).getD (.seq [])

/-- The entries of a components document; a false document counts as an empty mapping. -/
def componentsEntries? : Value → Option (List (Value × Value))
  | .map es => some es
  | v => if v.truthy then none else some []

/-- The container images and the downloaded files of the components, each indexed by name. -/
def indexSections (path : String) (entries : List (Value × Value)) : Except Fault (Value × Value) := do
  let images ← indexByName (componentSection entries "ContainerImages") path "ContainerImages"
  let files ← indexByName (componentSection entries "DownloadFiles") path "DownloadFiles"
  return (.map images, .map files)

/-- Reads and checks the two inventory files: the manifest, and the container images and
downloaded files of the components, each indexed by name. -/
def readInventories (host : Host) (manifestPath componentsPath : Files.PathName) :
    Except Fault (Value × Value × Value) := do
  let manifest ← readInventoryDocument host manifestPath
  if !(manifest matches .map _) then
    throw (.inventoryMalformed ("manifest " ++ manifestPath.text ++ " must be a mapping") manifestPath.text)
  let components ← readInventoryDocument host componentsPath
  match componentsEntries? components with
  | some entries =>
    let (images, files) ← indexSections componentsPath.text entries
    return (manifest, images, files)
  | none =>
    throw (.inventoryMalformed ("components " ++ componentsPath.text ++ " must be a mapping")
      componentsPath.text)

/-- Fills the inventories from two files, read and checked first. -/
def loadInventories (host : Host) (manifestPath componentsPath : Files.PathName) : InventoryM Unit := do
  let (manifest, images, files) ← lift (readInventories host manifestPath componentsPath)
  fill manifest images files

/-- Fills the inventories from two files, unless they were filled from exactly these files;
the paths are first made absolute with their links followed. -/
def ensureLoaded (host : Host) (manifestPath componentsPath : Files.PathName) : InventoryM Unit := do
  let m ← lift ((host.files.resolve manifestPath).mapError Fault.fileError)
  let c ← lift ((host.files.resolve componentsPath).mapError Fault.fileError)
  let inv ← get
  if inv.initialized then
    if inv.sources == some (m.text, c.text) then return
    let origin := match inv.sources with
      | some (a, b) => a ++ " and " ++ b
      | none => "in-memory data"
    throw (.cacheAlreadyInitialized ("VHD inventories are already initialized from " ++ origin))
  loadInventories host m c
  modify fun inv => { inv with sources := some (m.text, c.text) }

/-- Runs an inventory step on inventories: the result, and the inventories after it. -/
def InventoryM.runOn {α : Type} (x : InventoryM α) (inv : Inventories) : Except Fault α × Inventories :=
  (ExceptT.run x).run inv

end NodeImage
