import NodeImage.Template.Library
import NodeImage.Image.Model
import NodeImage.Text.Base64

/-!
# Node bootstrap scripts

A node boots from two texts rendered from templates: its custom data, which the node
receives as UTF-8 bytes, base64-encoded, and the command that runs the custom data. Windows nodes and Linux
nodes have their own pair of templates.

The templates see the cluster's name, location, Kubernetes version and API server name
(empty when unknown), the pool's name and VM size, the cloud, tenant, subscription,
resource group and identity, the kubelet flags as a mapping, and the GPU and FIPS switches.
-/

namespace NodeImage

/-- The template of a Linux node's custom data. -/
def linuxCustomDataTemplate : String := "linux_custom_data.yml.j2"

/-- The template of a Linux node's bootstrap command. -/
def linuxCommandTemplate : String := "linux_cse_cmd.sh.j2"

/-- The template of a Windows node's custom data. -/
def windowsCustomDataTemplate : String := "windows_custom_data.ps1.j2"

/-- The template of a Windows node's bootstrap command. -/
def windowsCommandTemplate : String := "windows_cse_cmd.j2"

/-- The values the bootstrap templates see. -/
def templateScope (c : NodeConfig) : Template.HeapM (List (String × Template.Datum)) := do
  let kubelet ← Template.Datum.newDict
    (c.kubeletConfig.map fun (k, v) => (Template.Datum.str k, Template.Datum.str v)).toArray
  return [("cluster_name", .str c.service.name), ("location", .str c.service.location),
    ("kubernetes_version", .str c.service.kubernetesVersion),
    ("fqdn", .str (c.service.fqdn.getD "")), ("agent_pool_name", .str c.agentPool.name),
    ("vm_size", .str c.agentPool.vmSize), ("cloud_name", .str c.cloudName),
    ("tenant_id", .str c.tenantId), ("subscription_id", .str c.subscriptionId),
    ("resource_group_name", .str c.resourceGroupName),
    ("user_assigned_identity_client_id", .str c.identityClientId),
    ("kubelet_config", kubelet), ("enable_gpu", .bool c.enableGpu),
    ("fips_enabled", .bool c.fipsEnabled)]

/-- The text of a node's custom data, before encoding. -/
def customDataText (host : Host) (lib : TemplateLibrary) (c : NodeConfig) : Except Fault String :=
  lib.render host (if c.isWindows then windowsCustomDataTemplate else linuxCustomDataTemplate)
    (templateScope c)

/-- The form custom data is sent in: the text's UTF-8 bytes, base64-encoded. A text holding
a lone surrogate has no UTF-8 form, and encoding it fails as nothing handles. -/
def encodeCustomData (text : String) : Except Fault String :=
  match Text.Utf8.encodeStrict text with
  | .ok bytes => .ok (Text.Base64.encode bytes)
  | .error e => .error (.uncaught "UnicodeEncodeError" e.message)

/-- A node's custom data: its text, encoded. -/
def customData (host : Host) (lib : TemplateLibrary) (c : NodeConfig) : Except Fault String := do
  encodeCustomData (← customDataText host lib c)

/-- A node's bootstrap command. -/
def bootstrapCommand (host : Host) (lib : TemplateLibrary) (c : NodeConfig) : Except Fault String :=
  lib.render host (if c.isWindows then windowsCommandTemplate else linuxCommandTemplate)
    (templateScope c)

end NodeImage
