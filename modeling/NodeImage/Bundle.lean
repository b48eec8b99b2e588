/-!
# Shipped files

The catalogs and templates that ship with the service, as text. The catalogs are used when a
request names no catalog file, the templates when it names no template directory.
-/

namespace NodeImage.Bundle

/-- The shipped marketplace image catalog. -/
def legacyCatalogText : String :=
    "# Marketplace image references per cloud, keyed by distro.\n" ++
    "_ubuntu_images: &ubuntu_images\n" ++
    "  ubuntu:\n" ++
    "    image_offer: UbuntuServer\n" ++
    "    image_sku: 16.04-LTS\n" ++
    "    image_publisher: Canonical\n" ++
    "    image_version: latest\n" ++
    "  ubuntu-18.04:\n" ++
    "    image_offer: UbuntuServer\n" ++
    "    image_sku: 18.04-LTS\n" ++
    "    image_publisher: Canonical\n" ++
    "    image_version: latest\n" ++
    "  ubuntu-18.04-gen2:\n" ++
    "    image_offer: UbuntuServer\n" ++
    "    image_sku: 18_04-lts-gen2\n" ++
    "    image_publisher: Canonical\n" ++
    "    image_version: latest\n" ++
    "  ubuntu-22.04:\n" ++
    "    image_offer: 0001-com-ubuntu-server-jammy\n" ++
    "    image_sku: 22_04-lts-gen2\n" ++
    "    image_publisher: Canonical\n" ++
    "    image_version: latest\n" ++
    "  aks-ubuntu-16.04:\n" ++
    "    image_offer: aks\n" ++
    "    image_sku: aks-ubuntu-1604-2021-q3\n" ++
    "    image_publisher: microsoft-aks\n" ++
    "    image_version: 2021.09.22\n" ++
    "  aks-ubuntu-18.04:\n" ++
    "    image_offer: aks\n" ++
    "    image_sku: aks-ubuntu-1804-2021-q3\n" ++
    "    image_publisher: microsoft-aks\n" ++
    "    image_version: 2021.09.22\n" ++
    "\n" ++
    "clouds:\n" ++
    "  AzurePublicCloud: *ubuntu_images\n" ++
    "  AzureChinaCloud: *ubuntu_images\n" ++
    "  AzureUSGovernmentCloud: *ubuntu_images\n" ++
    "  AzureGermanCloud:\n" ++
    "    ubuntu:\n" ++
    "      image_offer: UbuntuServer\n" ++
    "      image_sku: 16.04-LTS\n" ++
    "      image_publisher: Canonical\n" ++
    "      image_version: 16.04.201801050\n"

/-- The shipped SIG image catalog. -/
def sigCatalogText : String :=
    "# SIG image definitions per OS family. \"gallery\" refers to a key of the\n" ++
    "# galleries in the SIG selector; the selector supplies the concrete gallery\n" ++
    "# name, resource group and subscription.\n" ++
    "families:\n" ++
    "  ubuntu:\n" ++
    "    images:\n" ++
    "      aks-ubuntu-containerd-18.04:\n" ++
    "        gallery: AKSUbuntu\n" ++
    "        definition: 1804containerd\n" ++
    "        version: 2022.10.03\n" ++
    "      aks-ubuntu-containerd-18.04-gen2:\n" ++
    "        gallery: AKSUbuntu\n" ++
    "        definition: 1804gen2containerd\n" ++
    "        version: 2022.10.03\n" ++
    "      aks-ubuntu-gpu-containerd-18.04-gen2:\n" ++
    "        gallery: AKSUbuntu\n" ++
    "        definition: 1804gen2gpucontainerd\n" ++
    "        version: 2022.10.03\n" ++
    "      aks-ubuntu-containerd-22.04:\n" ++
    "        gallery: AKSUbuntu\n" ++
    "        definition: 2204containerd\n" ++
    "        version: 202410.09.0\n" ++
    "      aks-ubuntu-containerd-22.04-gen2:\n" ++
    "        gallery: AKSUbuntu\n" ++
    "        definition: 2204gen2containerd\n" ++
    "        version: 202410.09.0\n" ++
    "      aks-ubuntu-arm64-containerd-22.04-gen2:\n" ++
    "        gallery: AKSUbuntu\n" ++
    "        definition: 2204gen2arm64containerd\n" ++
    "        version: 202410.09.0\n" ++
    "      aks-ubuntu-containerd-24.04:\n" ++
    "        gallery: AKSUbuntu\n" ++
    "        definition: 2404containerd\n" ++
    "        version: 202410.09.0\n" ++
    "      aks-ubuntu-containerd-24.04-gen2:\n" ++
    "        gallery: AKSUbuntu\n" ++
    "        definition: 2404gen2containerd\n" ++
    "        version: 202410.09.0\n" ++
    "  cblmariner:\n" ++
    "    images:\n" ++
    "      aks-cblmariner-v2:\n" ++
    "        gallery: AKSCBLMariner\n" ++
    "        definition: V2\n" ++
    "        version: 202410.09.0\n" ++
    "      aks-cblmariner-v2-gen2:\n" ++
    "        gallery: AKSCBLMariner\n" ++
    "        definition: V2gen2\n" ++
    "        version: 202410.09.0\n" ++
    "      aks-cblmariner-v2-arm64-gen2:\n" ++
    "        gallery: AKSCBLMariner\n" ++
    "        definition: V2gen2arm64\n" ++
    "        version: 202410.09.0\n" ++
    "  azurelinux:\n" ++
    "    images:\n" ++
    "      aks-azurelinux-v2:\n" ++
    "        gallery: AKSAzureLinux\n" ++
    "        definition: V2\n" ++
    "        version: 202410.09.0\n" ++
    "      aks-azurelinux-v2-gen2:\n" ++
    "        gallery: AKSAzureLinux\n" ++
    "        definition: V2gen2\n" ++
    "        version: 202410.09.0\n" ++
    "      aks-azurelinux-v3-gen2:\n" ++
    "        gallery: AKSAzureLinux\n" ++
    "        definition: V3gen2\n" ++
    "        version: 202410.09.0\n" ++
    "  windows:\n" ++
    "    images:\n" ++
    "      aks-windows-2019-containerd:\n" ++
    "        gallery: AKSWindows\n" ++
    "        definition: windows-2019-containerd\n" ++
    "        version: 17763.6293.240916\n" ++
    "      aks-windows-2022-containerd:\n" ++
    "        gallery: AKSWindows\n" ++
    "        definition: windows-2022-containerd\n" ++
    "        version: 20348.2700.240916\n" ++
    "      aks-windows-2022-containerd-gen2:\n" ++
    "        gallery: AKSWindows\n" ++
    "        definition: windows-2022-containerd-gen2\n" ++
    "        version: 20348.2700.240916\n" ++
    "      aks-windows-23H2:\n" ++
    "        gallery: AKSWindows\n" ++
    "        definition: windows-23H2\n" ++
    "        version: 25398.1128.240916\n" ++
    "      aks-windows-23H2-gen2:\n" ++
    "        gallery: AKSWindows\n" ++
    "        definition: windows-23H2-gen2\n" ++
    "        version: 25398.1128.240916\n" ++
    "  ubuntu-edgezone:\n" ++
    "    regions:\n" ++
    "      - eastus\n" ++
    "      - westus\n" ++
    "      - southcentralus\n" ++
    "      - westus2\n" ++
    "    images:\n" ++
    "      aks-ubuntu-edgezone-containerd-18.04:\n" ++
    "        gallery: AKSUbuntuEdgeZone\n" ++
    "        definition: 1804containerd\n" ++
    "        version: 2022.10.03\n" ++
    "      aks-ubuntu-edgezone-containerd-18.04-gen2:\n" ++
    "        gallery: AKSUbuntuEdgeZone\n" ++
    "        definition: 1804gen2containerd\n" ++
    "        version: 2022.10.03\n" ++
    "      aks-ubuntu-edgezone-containerd-22.04:\n" ++
    "        gallery: AKSUbuntuEdgeZone\n" ++
    "        definition: 2204containerd\n" ++
    "        version: 202410.09.0\n" ++
    "      aks-ubuntu-edgezone-containerd-22.04-gen2:\n" ++
    "        gallery: AKSUbuntuEdgeZone\n" ++
    "        definition: 2204gen2containerd\n" ++
    "        version: 202410.09.0\n"

/-- The shipped template of a Linux node's custom data. -/
def linuxCustomDataTemplate : String :=
    "#cloud-config\n" ++
    "\n" ++
    "write_files:\n" ++
    "- path: /opt/azure/containers/provision_source.sh\n" ++
    "  permissions: \"0744\"\n" ++
    "  owner: root\n" ++
    "  content: |\n" ++
    "    #!/bin/bash\n" ++
    "    # provisioning helpers are delivered by the extension, this file marks the node\n" ++
    "    echo \"\x7b\x7b cluster_name \x7d\x7d/\x7b\x7b agent_pool_name \x7d\x7d\" > /opt/azure/containers/node-identity\n" ++
    "\n" ++
    "- path: /etc/kubernetes/azure.json\n" ++
    "  permissions: \"0600\"\n" ++
    "  owner: root\n" ++
    "  content: |\n" ++
    "    \x7b\n" ++
    "      \"cloud\": \"\x7b\x7b cloud_name \x7d\x7d\",\n" ++
    "      \"tenantId\": \"\x7b\x7b tenant_id \x7d\x7d\",\n" ++
    "      \"subscriptionId\": \"\x7b\x7b subscription_id \x7d\x7d\",\n" ++
    "      \"resourceGroup\": \"\x7b\x7b resource_group_name \x7d\x7d\",\n" ++
    "      \"location\": \"\x7b\x7b location \x7d\x7d\",\n" ++
    "      \"userAssignedIdentityID\": \"\x7b\x7b user_assigned_identity_client_id \x7d\x7d\"\n" ++
    "    \x7d\n" ++
    "\n" ++
    "- path: /etc/default/kubelet\n" ++
    "  permissions: \"0644\"\n" ++
    "  owner: root\n" ++
    "  content: |\n" ++
    "    KUBELET_FLAGS=\x7b% for key, value in kubelet_config | dictsort %\x7d\x7b\x7b key \x7d\x7d=\x7b\x7b value \x7d\x7d \x7b% endfor %\x7d\n" ++
    "\x7b% if enable_gpu %\x7d\n" ++
    "- path: /etc/systemd/system/mig-partition.service\n" ++
    "  permissions: \"0644\"\n" ++
    "  owner: root\n" ++
    "  content: |\n" ++
    "    [Unit]\n" ++
    "    Description=Apply MIG configuration on Nvidia A100 GPU\n" ++
    "    After=kubelet.service\n" ++
    "\n" ++
    "    [Service]\n" ++
    "    Restart=on-failure\n" ++
    "    ExecStart=/bin/bash /opt/azure/containers/mig-partition.sh\n" ++
    "\n" ++
    "    [Install]\n" ++
    "    WantedBy=multi-user.target\n" ++
    "\x7b% endif %\x7d\n"

/-- The shipped template of a Linux node's provisioning command. -/
def linuxCseTemplate : String :=
    "PROVISION_OUTPUT=\"/var/log/azure/cluster-provision-cse-output.log\";\n" ++
    "echo $(date),$(hostname) > $\x7bPROVISION_OUTPUT\x7d;\n" ++
    "KUBERNETES_VERSION=\x7b\x7b kubernetes_version \x7d\x7d \\\n" ++
    "API_SERVER_NAME=\x7b\x7b fqdn \x7d\x7d \\\n" ++
    "LOCATION=\x7b\x7b location \x7d\x7d \\\n" ++
    "TENANT_ID=\x7b\x7b tenant_id \x7d\x7d \\\n" ++
    "SUBSCRIPTION_ID=\x7b\x7b subscription_id \x7d\x7d \\\n" ++
    "RESOURCE_GROUP=\x7b\x7b resource_group_name \x7d\x7d \\\n" ++
    "VM_SIZE=\x7b\x7b vm_size \x7d\x7d \\\n" ++
    "GPU_NODE=\x7b\x7b \"true\" if enable_gpu else \"false\" \x7d\x7d \\\n" ++
    "FIPS_ENABLED=\x7b\x7b \"true\" if fips_enabled else \"false\" \x7d\x7d \\\n" ++
    "/usr/bin/nohup /bin/bash -c \"/bin/bash /opt/azure/containers/provision_start.sh\"\n"

/-- The shipped template of a Windows node's custom data. -/
def windowsCustomDataTemplate : String :=
    "<powershell>\n" ++
    "$global:KubernetesVersion = \"\x7b\x7b kubernetes_version \x7d\x7d\"\n" ++
    "$global:MasterFQDN = \"\x7b\x7b fqdn \x7d\x7d\"\n" ++
    "$global:Location = \"\x7b\x7b location \x7d\x7d\"\n" ++
    "$global:TenantId = \"\x7b\x7b tenant_id \x7d\x7d\"\n" ++
    "$global:SubscriptionId = \"\x7b\x7b subscription_id \x7d\x7d\"\n" ++
    "$global:ResourceGroup = \"\x7b\x7b resource_group_name \x7d\x7d\"\n" ++
    "$global:UserAssignedClientID = \"\x7b\x7b user_assigned_identity_client_id \x7d\x7d\"\n" ++
    "$global:KubeletConfigArgs = @(\x7b% for key, value in kubelet_config | dictsort %\x7d\"\x7b\x7b key \x7d\x7d=\x7b\x7b value \x7d\x7d\"\x7b% if not loop.last %\x7d, \x7b% endif %\x7d\x7b% endfor %\x7d)\n" ++
    "</powershell>\n"

/-- The shipped template of a Windows node's provisioning command. -/
def windowsCseTemplate : String :=
    "powershell.exe -ExecutionPolicy Unrestricted -command \"$arguments = '-MasterIP \x7b\x7b fqdn \x7d\x7d -AgentKey \x7b\x7b agent_pool_name \x7d\x7d -AADClientId \x7b\x7b user_assigned_identity_client_id \x7d\x7d'; $inputFile = '%SYSTEMDRIVE%\\AzureData\\CustomData.bin'; $outputFile = '%SYSTEMDRIVE%\\AzureData\\CustomDataSetupScript.ps1'; Copy-Item $inputFile $outputFile; Invoke-Expression('\x7b0\x7d \x7b1\x7d' -f $outputFile, $arguments);\" >> %SYSTEMDRIVE%\\AzureData\\CustomDataSetupScript.log 2>&1; exit $LASTEXITCODE\n"

/-- The shipped templates by file name. -/
def templates : List (String × String) :=
  [("linux_custom_data.yml.j2", linuxCustomDataTemplate), ("linux_cse_cmd.sh.j2", linuxCseTemplate),
    ("windows_custom_data.ps1.j2", windowsCustomDataTemplate),
    ("windows_cse_cmd.j2", windowsCseTemplate)]

end NodeImage.Bundle
