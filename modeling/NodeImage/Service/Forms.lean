import NodeImage.Service.Answer
import NodeImage.Catalog.Store

/-!
# Answer forms

How the objects of the image service are written in answers: images as objects of their
fields (a SIG image also with its resource id), catalogs and environments as objects keyed
by cloud, family and distribution names.
-/

namespace NodeImage.Service

/-- A marketplace image. -/
def legacyImageValue (i : LegacyImage) : Value :=
  obj [("image_offer", .str i.offer), ("image_sku", .str i.sku),
    ("image_publisher", .str i.publisher), ("image_version", .str i.version)]

/-- A SIG image with its resource id. -/
def sigImageValue (i : SigImage) : Value :=
  obj [("resource_group", .str i.resourceGroup), ("gallery", .str i.gallery),
    ("definition", .str i.definition), ("version", .str i.version),
    ("subscription_id", .str i.subscriptionId), ("resource_id", .str i.resourceId)]

/-- An optional value, null when absent. -/
def optionValue {α : Type} (form : α → Value) : Option α → Value
  | some a => form a
  | none => .null

/-- Images keyed by distribution. -/
def byDistro {α : Type} (form : α → Value) (images : List (Distro × α)) : Value :=
  obj (images.map fun (d, a) => (d.value, form a))

/-- A legacy catalog. -/
def legacyCatalogValue (c : LegacyCatalog) : Value :=
  obj [("clouds", obj (c.clouds.map fun (cloud, images) => (cloud, byDistro legacyImageValue images)))]

/-- A gallery image definition. -/
def sigDefinitionValue (d : SigDefinition) : Value :=
  obj [("gallery", .str d.gallery), ("definition", .str d.definition), ("version", .str d.version)]

/-- A SIG catalog. -/
def sigCatalogValue (c : SigCatalog) : Value :=
  obj [("families", obj (c.families.map fun (family, entry) =>
    (family.name, obj [("regions", optionValue (fun rs => .seq (rs.map Value.str)) entry.regions),
      ("images", byDistro sigDefinitionValue entry.images)])))]

/-- The name of an environment's field for a family's images. -/
def familyField : OsFamily → String
  | .ubuntu => "sig_ubuntu_image_config"
  | .cblMariner => "sig_cbl_mariner_image_config"
  | .azureLinux => "sig_azure_linux_image_config"
  | .windows => "sig_windows_image_config"
  | .ubuntuEdgeZone => "sig_ubuntu_edge_zone_image_config"

/-- A SIG environment. -/
def sigEnvironmentValue (env : SigEnvironment) : Value :=
  obj ([("cloud_name", .str env.cloudName)] ++
    OsFamily.all.map fun f => (familyField f, byDistro sigImageValue (env.catalog f)))

end NodeImage.Service
