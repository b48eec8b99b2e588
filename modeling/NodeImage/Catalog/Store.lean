import NodeImage.Catalog.Model
import NodeImage.Bundle
import NodeImage.Host
import NodeImage.Cloud
import NodeImage.Yaml.Construct

/-!
# The catalog store

The two catalogs, read from YAML files or taken from the shipped ones, and the two lookups
the image service makes in them.

A catalog file is read as UTF-8 text and parsed as YAML; an empty or otherwise false
document counts as an empty mapping. A file that cannot be read, a text that is not YAML
and a document that is not a catalog are each a `CatalogError` naming the file. The legacy
catalog is read before the SIG catalog.

The legacy lookup finds a cloud's images by its exact name. Binding the SIG catalog to a
selector and a region (`CatalogStore.sigEnvironment`) first requires a region and a
subscription, then goes through the families in catalog order: a family that names its
regions and does not name this one (compared in lower case) is skipped, and every image of
the other families is completed with its gallery from the selector. The first image whose
gallery the selector lacks is an error.
-/

namespace NodeImage

/-- The legacy and SIG catalogs. -/
structure CatalogStore where
  legacy : LegacyCatalog
  sig : SigCatalog
deriving Repr

/-- How the YAML reading of a file failed, for the caller to report. -/
def yamlFault (malformed : Fault) : Yaml.LoadFault → Fault
  | .malformed => malformed
  | e => .yamlValue e

/-- The YAML document of a catalog file, with a false document read as an empty mapping. -/
def readCatalogDocument (host : Host) (path : Files.PathName) : Except Fault Value :=
  match host.readText path with
  | .error (.file e) => .error (.catalogUnreadable path.text e)
  | .error (.bytes e) => .error (.undecodable e)
  | .ok text => match Yaml.load text with
    | .ok v => .ok (if v.truthy then v else .map [])
    | .error e => .error (yamlFault (.catalogNotYaml path.text) e)

/-- The shipped legacy catalog. -/
def LegacyCatalog.shipped : LegacyCatalog :=
  match Yaml.load Bundle.legacyCatalogText with
  | .ok v => match LegacyCatalog.check v with
    | .ok c => c
    | .error _ => ⟨[]⟩
  | .error _ => ⟨[]⟩

/-- The shipped SIG catalog. -/
def SigCatalog.shipped : SigCatalog :=
  match Yaml.load Bundle.sigCatalogText with
  | .ok v => match SigCatalog.check v with
    | .ok c => c
    | .error _ => ⟨[]⟩
  | .error _ => ⟨[]⟩

/-- Reads a legacy catalog file, or takes the shipped catalog. -/
def loadLegacyCatalog (host : Host) : Option Files.PathName → Except Fault LegacyCatalog
  | none => .ok LegacyCatalog.shipped
  | some path => do
    let doc ← readCatalogDocument host path
    match LegacyCatalog.check doc with
    | .ok c => .ok c
    | .error issues => .error (.catalogInvalid true path.text issues)

/-- Reads a SIG catalog file, or takes the shipped catalog. -/
def loadSigCatalog (host : Host) : Option Files.PathName → Except Fault SigCatalog
  | none => .ok SigCatalog.shipped
  | some path => do
    let doc ← readCatalogDocument host path
    match SigCatalog.check doc with
    | .ok c => .ok c
    | .error issues => .error (.catalogInvalid false path.text issues)

namespace CatalogStore

/-- The shipped catalogs. -/
def shipped : CatalogStore := ⟨LegacyCatalog.shipped, SigCatalog.shipped⟩

/-- Reads both catalogs, the legacy one first; a missing path means the shipped catalog. -/
def load (host : Host) (legacyPath sigPath : Option Files.PathName) : Except Fault CatalogStore := do
  let legacy ← loadLegacyCatalog host legacyPath
  let sig ← loadSigCatalog host sigPath
  return ⟨legacy, sig⟩

/-- The marketplace images of a cloud, by its exact name. -/
def cloudImages (s : CatalogStore) (cloud : String) : Except Fault (List (Distro × LegacyImage)) :=
  match s.legacy.clouds.lookup cloud with
  | some images => .ok images
  | none => .error (.unknownCloud cloud)

/-- Whether a family is offered in a region: always when it names no regions, otherwise
when one of its regions equals the region in lower case. Only text can be put in lower
case. -/
def offeredIn (family : SigFamily) (region : Value) : Except Fault Bool :=
  match family.regions, region with
  | none, _ => .ok true
  | some regions, .str r => .ok (regions.any fun x => Text.lower x == Text.lower r)
  | some _, v => .error (.noAttribute v.typeName "lower")

/-- The SIG image a definition becomes with a selector's gallery. -/
def complete (sel : SigConfig) (g : Gallery) (d : SigDefinition) : SigImage :=
  ⟨g.resourceGroup, g.galleryName, d.definition, d.version, sel.subscriptionId⟩

/-- The images of one family bound to a selector, or the first missing gallery's error. -/
def bindFamily (sel : SigConfig) (region : Value) (images : List (Distro × SigDefinition)) :
    Except Fault (List (Distro × SigImage)) :=
  images.mapM fun (distro, d) =>
    match sel.galleries.lookup d.gallery with
    | some g => .ok (distro, complete sel g d)
    | none => .error (.sigResolution ("SIG config for region " ++ region.shown ++ " is missing gallery "
        ++ d.gallery ++ " (needed by " ++ distro.value ++ ")") region)

/-- Sets the images of one family in an environment. -/
def withFamily (env : SigEnvironment) (family : OsFamily)
    (images : List (Distro × SigImage)) : SigEnvironment :=
  match family with
  | .ubuntu => { env with ubuntu := images }
  | .cblMariner => { env with cblMariner := images }
  | .azureLinux => { env with azureLinux := images }
  | .windows => { env with windows := images }
  | .ubuntuEdgeZone => { env with ubuntuEdgeZone := images }

/-- The SIG images of a region, given as any value, under a selector. A false region and a
selector without a subscription are refused first. The families are bound in order; the
cloud is named from the region last, so a region that is not text fails there unless a
family failed before. -/
def sigEnvironmentAt (s : CatalogStore) (sel : SigConfig) (region : Value) :
    Except Fault SigEnvironment := do
  if !region.truthy then
    throw (.sigResolution "region is required to resolve SIG images" region)
  if sel.subscriptionId.isEmpty then
    throw (.sigResolution ("SIG config for region " ++ region.shown ++ " has no subscription id")
      region)
  let empty : SigEnvironment := ⟨"", [], [], [], [], []⟩
  let env ← s.sig.families.foldlM (fun env (family, entry) => do
    if ← offeredIn entry region then
      return withFamily env family (← bindFamily sel region entry.images)
    else return env) empty
  match region with
  | .str r => return { env with cloudName := (Cloud.ofRegion r).name }
  | v => throw (.noAttribute v.typeName "lower")

/-- The SIG images of a region under a selector. -/
def sigEnvironment (s : CatalogStore) (sel : SigConfig) (region : String) :
    Except Fault SigEnvironment :=
  s.sigEnvironmentAt sel (.str region)

end CatalogStore

end NodeImage
