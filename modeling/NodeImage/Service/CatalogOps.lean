import NodeImage.Service.Request

/-!
# Catalog operations

Reading a catalog file, looking up a cloud's marketplace image, binding the SIG catalog to a
selector and region, finding a distribution's image in an environment, and overriding an
image's version.
-/

namespace NodeImage.Service

/-- `load_catalog`: the catalog of a file written to `catalog.yaml`. -/
def loadCatalogOp (h : NodeImage.Host) (req : Value) : Except Fault Value := do
  let h ← Host.writeSpec h "catalog.yaml" (field req "file")
  let path := workPath "catalog.yaml"
  match field req "kind" with
  | .str "legacy" => return legacyCatalogValue (← loadLegacyCatalog h (some path))
  | .str "sig" => return sigCatalogValue (← loadSigCatalog h (some path))
  | _ => throw (.badRequest "unknown catalog kind")

/-- The name of the type of a value, as error texts show it. -/
def typeNameOf (v : Value) : String := v.typeName

/-- `legacy_lookup`: the marketplace image of a distribution in a cloud. The cloud is looked
up first, by its exact name. -/
def legacyLookupOp (h : NodeImage.Host) (req : Value) : Except Fault Value := do
  let store ← requestStore h req
  let cloud := field req "cloud_name"
  let images ← match cloud with
    | .str name => store.cloudImages name
    | v => if v.hashable then throw (.unknownCloud (Value.shown v)) else throw (.unhashable v.typeName)
  let distro ← distroOf (field req "distro")
  return obj [("image", optionValue legacyImageValue (images.lookup distro))]

/-- `sig_env`: the SIG images of a region under a selector. -/
def sigEnvOp (h : NodeImage.Host) (req : Value) : Except Fault Value := do
  let store ← requestStore h req
  let sel ← checked SigConfig.check (field req "sig_config")
  return sigEnvironmentValue (← store.sigEnvironmentAt sel (field req "region"))

/-- `find_sig_image`: the image of a distribution in the first family that has it. -/
def findSigImageOp (req : Value) : Except Fault Value := do
  let env ← checked SigEnvironment.check (field req "env")
  let distro ← distroOf (field req "distro")
  return obj [("image", optionValue sigImageValue (env.find distro))]

/-- A SIG image whose version is an arbitrary value, as an override may give it. -/
def sigImageWithVersion (i : SigImage) (version : Value) : Value :=
  obj [("resource_group", .str i.resourceGroup), ("gallery", .str i.gallery),
    ("definition", .str i.definition), ("version", version),
    ("subscription_id", .str i.subscriptionId),
    ("resource_id", .str (i.withVersion (Value.shown version)).resourceId)]

/-- `override_version`: an image at the version the overrides give its distribution, or
the very same image when they give none (a null override is none). -/
def overrideVersionOp (req : Value) : Except Fault Value := do
  let image ← checked SigImage.check (field req "image")
  let distro ← distroOf (field req "distro")
  let overrides ← match field req "overrides" with
    | .map entries => pure entries
    | v => throw (.noAttribute v.typeName "get")
  let original := sigImageValue image
  match Value.lookup overrides (.str distro.value) with
  | none | some .null =>
    return obj [("image", original), ("original", original), ("same", .bool true)]
  | some version =>
    return obj [("image", sigImageWithVersion image version), ("original", original),
      ("same", .bool false)]

end NodeImage.Service
