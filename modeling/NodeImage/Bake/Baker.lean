import NodeImage.Bake.Events
import NodeImage.Catalog.Store
import NodeImage.Toggle.Rules
import NodeImage.Bootstrap.Scripts

/-!
# The baker

The baker resolves the image a node boots from and assembles its bootstrap.

* `Baker.bootstrap` renders the custom data and the bootstrap command first, so a template
  error comes before anything else. A customized distribution is done at that point. For
  the others, the marketplace image comes from the legacy catalog of the node's cloud (an
  unknown cloud is an error) and the gallery image from the region's SIG environment. It
  is an error only when both are missing. The gallery image of a Linux node whose
  distribution is not a Windows one takes the version the toggles pin for it.
* `Baker.latestImage` resolves a distribution's gallery image in a region, taking the
  pinned version unless the distribution is a Windows one.
* `Baker.distroCatalog` gives every distribution of a region's SIG environment, merging the
  families in family order, so a later family replaces an earlier one for the same
  distribution. Every image not from the Windows family takes its pinned version.

Taking a pinned version records an event even when it equals the catalog's version.
-/

namespace NodeImage

open BakeM

/-- What the baker resolves from: the catalogs, the toggles and the templates. -/
structure Baker where
  catalogs : CatalogStore
  toggles : Toggles
  templates : TemplateLibrary

/-- A node's bootstrap: its custom data (base64), its command, and the images it boots
from, when resolved. -/
structure Bootstrap where
  customData : String
  command : String
  legacyImage : Option LegacyImage
  sigImage : Option SigImage

/-- An image at the version the overrides pin for its distribution, recording the override
when there is one. -/
def overrideImage (op : Operation) (image : SigImage) (distro : Distro)
    (overrides : List (String × String)) : BakeM SigImage :=
  match overrides.lookup distro.value with
  | some version => do
    emit ⟨op, .versionOverridden distro.value image.version version⟩
    return image.withVersion version
  | none => return image

/-- Sets a distribution's image in a catalog: in place when it is there, at the end
otherwise. -/
def setImage : List (Distro × SigImage) → Distro → SigImage → List (Distro × SigImage)
  | [], d, i => [(d, i)]
  | (d', i') :: rest, d, i => if d' == d then (d, i) :: rest else (d', i') :: setImage rest d i

namespace Baker

/-- Assembles a node's bootstrap. -/
def bootstrap (b : Baker) (host : Host) (c : NodeConfig) : BakeM Bootstrap :=
  reportingFailure .bootstrap do
    let data ← lift (customData host b.templates c)
    let command ← lift (bootstrapCommand host b.templates c)
    let distro := c.agentPool.distro
    if distro.isCustomized then
      emit ⟨.bootstrap, .bootstrapResolved distro.value true⟩
      return ⟨data, command, none, none⟩
    let region := c.service.location
    let legacy := (← lift (b.catalogs.cloudImages c.cloudName)).lookup distro
    let env ← lift (b.catalogs.sigEnvironment c.sig region)
    let found := env.find distro
    if found.isNone && legacy.isNone then throw (.imageNotFound distro.value region)
    let sig ← match found with
      | some image =>
        if !c.isWindows && !distro.isWindows then
          some <$> overrideImage .bootstrap image distro (b.toggles.imageVersions (Entity.ofConfig c))
        else pure (some image)
      | none => pure none
    emit ⟨.bootstrap, .imageResolved distro.value region (sig.map (·.resourceId))⟩
    emit ⟨.bootstrap, .bootstrapResolved distro.value false⟩
    return ⟨data, command, legacy, sig⟩

/-- Resolves a distribution's gallery image in a region. -/
def latestImage (b : Baker) (sel : SigConfig) (distro : Distro) (env : EnvironmentInfo) :
    BakeM SigImage :=
  reportingFailure .latestImage do
    let sigEnv ← lift (b.catalogs.sigEnvironment sel env.region)
    let image ← match sigEnv.find distro with
      | some image => pure image
      | none => throw (.imageNotFound distro.value env.region)
    let image ← if distro.isWindows then pure image
      else overrideImage .latestImage image distro (b.toggles.imageVersions (Entity.ofEnvironment env))
    emit ⟨.latestImage, .imageResolved distro.value env.region (some image.resourceId)⟩
    return image

/-- Every distribution's gallery image in a region. -/
def distroCatalog (b : Baker) (sel : SigConfig) (env : EnvironmentInfo) :
    BakeM (List (Distro × SigImage)) :=
  reportingFailure .distroCatalog do
    let sigEnv ← lift (b.catalogs.sigEnvironment sel env.region)
    let overrides := b.toggles.imageVersions (Entity.ofEnvironment env)
    let all ← OsFamily.all.foldlM (fun all family =>
      (sigEnv.catalog family).foldlM (fun all (distro, image) => do
        let image ← if family == .windows then pure image
          else overrideImage .distroCatalog image distro overrides
        return setImage all distro image) all) []
    emit ⟨.distroCatalog, .catalogResolved env.region all.length⟩
    return all

end Baker

end NodeImage
