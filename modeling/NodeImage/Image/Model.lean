import NodeImage.Image.Distro
import NodeImage.Schema.Check

/-!
# Image references and node configurations

The two kinds of image a node can boot from: a marketplace image (`LegacyImage`), named by
offer, SKU, publisher and version, and a shared-gallery image (`SigImage`), named by
resource group, gallery, definition, version and subscription, whose resource id is the
path `/subscriptions/…/versions/…` built from them.

A SIG selector (`SigConfig`) says which subscription and which galleries a region's images
resolve against; a SIG environment (`SigEnvironment`) holds, for one region, the images of
each OS family. A node configuration (`NodeConfig`) describes the node to bootstrap: its
pool, cloud, selector, cluster and the values its templates use.

Each model comes with the check that reads it from a document, field by field in the
model's order.
-/

namespace NodeImage

open Schema

/-- A marketplace image. -/
structure LegacyImage where
  offer : String
  sku : String
  publisher : String
  version : String
deriving DecidableEq, Repr

/-- A shared-gallery image. -/
structure SigImage where
  resourceGroup : String
  gallery : String
  definition : String
  version : String
  subscriptionId : String
deriving DecidableEq, Repr

namespace SigImage

/-- The resource id of a gallery image version. -/
def resourceId (i : SigImage) : String :=
  "/subscriptions/" ++ i.subscriptionId ++ "/resourceGroups/" ++ i.resourceGroup ++
    "/providers/Microsoft.Compute/galleries/" ++ i.gallery ++ "/images/" ++ i.definition ++
    "/versions/" ++ i.version

/-- The same image at another version. -/
def withVersion (i : SigImage) (version : String) : SigImage := { i with version := version }

end SigImage

/-- A gallery a selector names: its real name and resource group. -/
structure Gallery where
  galleryName : String
  resourceGroup : String
deriving DecidableEq, Repr

/-- A SIG selector: tenant, subscription and galleries by key. -/
structure SigConfig where
  tenantId : String
  subscriptionId : String
  galleries : List (String × Gallery)
deriving Repr

/-- Where a node lands: its region, and its subscription and tenant when known. -/
structure EnvironmentInfo where
  region : String
  subscriptionId : Option String
  tenantId : Option String
deriving Repr

/-- The SIG images of one region, by OS family. -/
structure SigEnvironment where
  cloudName : String
  ubuntu : List (Distro × SigImage)
  cblMariner : List (Distro × SigImage)
  azureLinux : List (Distro × SigImage)
  windows : List (Distro × SigImage)
  ubuntuEdgeZone : List (Distro × SigImage)
deriving Repr

/-- The images of one family in an environment. -/
def SigEnvironment.catalog (env : SigEnvironment) : OsFamily → List (Distro × SigImage)
  | .ubuntu => env.ubuntu
  | .cblMariner => env.cblMariner
  | .azureLinux => env.azureLinux
  | .windows => env.windows
  | .ubuntuEdgeZone => env.ubuntuEdgeZone

/-- The image of a distribution in the first family, in family order, that has one. -/
def SigEnvironment.find (env : SigEnvironment) (d : Distro) : Option SigImage :=
  OsFamily.all.findSome? fun f => (env.catalog f).lookup d

/-- The operating system of a node pool. -/
inductive OsType where
  | linux
  | windows
deriving DecidableEq, Repr

/-- The name of an operating system. -/
def OsType.name : OsType → String
  | .linux => "Linux"
  | .windows => "Windows"

/-- A node pool. -/
structure AgentPool where
  name : String
  distro : Distro
  osType : OsType
  vmSize : String
deriving Repr

/-- The cluster a node joins. -/
structure ContainerService where
  name : String
  location : String
  kubernetesVersion : String
  fqdn : Option String
deriving Repr

/-- Everything needed to bootstrap a node. -/
structure NodeConfig where
  agentPool : AgentPool
  cloudName : String
  sig : SigConfig
  service : ContainerService
  tenantId : String
  subscriptionId : String
  resourceGroupName : String
  identityClientId : String
  kubeletConfig : List (String × String)
  enableGpu : Bool
  fipsEnabled : Bool
deriving Repr

/-- Whether a node runs Windows. -/
def NodeConfig.isWindows (c : NodeConfig) : Bool := c.agentPool.osType == .windows

/-! ## Checks -/

/-- The name of the public cloud, the default cloud. -/
def publicCloudName : String := "AzurePublicCloud"

/-- Reads a marketplace image. -/
def LegacyImage.check : Check LegacyImage := model fun e =>
  (Checked.both (required e "image_offer" text) <| Checked.both (required e "image_sku" text) <|
    Checked.both (required e "image_publisher" text) (required e "image_version" text)).map
    fun (offer, sku, publisher, version) => ⟨offer, sku, publisher, version⟩

/-- Reads a shared-gallery image. -/
def SigImage.check : Check SigImage := model fun e =>
  (Checked.both (required e "resource_group" text) <| Checked.both (required e "gallery" text) <|
    Checked.both (required e "definition" text) <| Checked.both (required e "version" text)
      (required e "subscription_id" text)).map
    fun (group, gallery, definition, version, subscription) =>
      ⟨group, gallery, definition, version, subscription⟩

/-- Reads a gallery of a selector. -/
def Gallery.check : Check Gallery := model fun e =>
  (Checked.both (required e "gallery_name" text) (required e "resource_group" text)).map
    fun (name, group) => ⟨name, group⟩

/-- Reads a SIG selector. -/
def SigConfig.check : Check SigConfig := model fun e =>
  (Checked.both (withDefault e "tenant_id" "" text) <|
    Checked.both (withDefault e "subscription_id" "" text)
      (withDefault e "galleries" [] (dictOf text Gallery.check))).map
    fun (tenant, subscription, galleries) => ⟨tenant, subscription, galleries⟩

/-- Reads where a node lands. -/
def EnvironmentInfo.check : Check EnvironmentInfo := model fun e =>
  (Checked.both (required e "region" text) <|
    Checked.both (withDefault e "subscription_id" none (optional text))
      (withDefault e "tenant_id" none (optional text))).map
    fun (region, subscription, tenant) => ⟨region, subscription, tenant⟩

/-- Reads the images of one family by distribution. -/
def familyImages : Check (List (Distro × SigImage)) := dictOf (member Distro.ofValue?) SigImage.check

/-- Reads a SIG environment. -/
def SigEnvironment.check : Check SigEnvironment := model fun e =>
  (Checked.both (withDefault e "cloud_name" publicCloudName text) <|
    Checked.both (withDefault e "sig_ubuntu_image_config" [] familyImages) <|
    Checked.both (withDefault e "sig_cbl_mariner_image_config" [] familyImages) <|
    Checked.both (withDefault e "sig_azure_linux_image_config" [] familyImages) <|
    Checked.both (withDefault e "sig_windows_image_config" [] familyImages)
      (withDefault e "sig_ubuntu_edge_zone_image_config" [] familyImages)).map
    fun (cloud, ubuntu, mariner, azureLinux, windows, edgeZone) =>
      ⟨cloud, ubuntu, mariner, azureLinux, windows, edgeZone⟩

/-- Reads an operating system name. -/
def OsType.check : Check OsType := fun v =>
  (literal ["Linux", "Windows"] v).map fun s => if s == "Windows" then .windows else .linux

/-- Reads a node pool. -/
def AgentPool.check : Check AgentPool := model fun e =>
  (Checked.both (required e "name" text) <| Checked.both (required e "distro" (member Distro.ofValue?)) <|
    Checked.both (withDefault e "os_type" .linux OsType.check)
      (withDefault e "vm_size" "Standard_DS2_v2" text)).map
    fun (name, distro, os, size) => ⟨name, distro, os, size⟩

/-- Reads the cluster a node joins. -/
def ContainerService.check : Check ContainerService := model fun e =>
  (Checked.both (withDefault e "name" "" text) <| Checked.both (required e "location" text) <|
    Checked.both (withDefault e "kubernetes_version" "1.29.7" text)
      (withDefault e "fqdn" none (optional text))).map
    fun (name, location, version, fqdn) => ⟨name, location, version, fqdn⟩

/-- Reads the cloud of a node. -/
def cloudSpecCheck : Check String := model fun e => withDefault e "cloud_name" publicCloudName text

/-- The selector of a configuration that names none. -/
def SigConfig.empty : SigConfig := ⟨"", "", []⟩

/-- Reads a node configuration. -/
def NodeConfig.check : Check NodeConfig := model fun e =>
  (Checked.both (required e "agent_pool_profile" AgentPool.check) <|
    Checked.both (withDefault e "cloud_spec_config" publicCloudName cloudSpecCheck) <|
    Checked.both (withDefault e "sig_config" SigConfig.empty SigConfig.check) <|
    Checked.both (required e "container_service" ContainerService.check) <|
    Checked.both (withDefault e "tenant_id" "" text) <|
    Checked.both (withDefault e "subscription_id" "" text) <|
    Checked.both (withDefault e "resource_group_name" "" text) <|
    Checked.both (withDefault e "user_assigned_identity_client_id" "" text) <|
    Checked.both (withDefault e "kubelet_config" [] (dictOf text text)) <|
    Checked.both (withDefault e "enable_gpu" false boolean)
      (withDefault e "fips_enabled" false boolean)).map
    fun (pool, cloud, sig, service, tenant, subscription, group, identity, kubelet, gpu, fips) =>
      ⟨pool, cloud, sig, service, tenant, subscription, group, identity, kubelet, gpu, fips⟩

end NodeImage
