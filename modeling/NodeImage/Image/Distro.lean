/-!
# Distributions and OS families

A node runs one of a fixed list of distributions (`Distro`), each named by a text value.
Every distribution belongs to one OS family (`OsFamily`), decided by the prefix of its
name: `aks-ubuntu-edgezone` names the edge-zone Ubuntu family, `aks-cblmariner` CBL-Mariner,
`aks-azurelinux` Azure Linux, `aks-windows` and `CustomizedWindows` Windows, and every other
name Ubuntu. Three distributions are customized images, which bypass the image catalogs.

Main statements: `Distro.ofValue?` inverts `Distro.value` (`ofValue?_value`), and the family
given case by case agrees with the prefix rule (`family_eq_familyOfName`).
-/

namespace NodeImage

/-- The OS families, in the order in which catalogs are searched. -/
inductive OsFamily where
  | ubuntu
  | cblMariner
  | azureLinux
  | windows
  | ubuntuEdgeZone
deriving DecidableEq, Repr, Inhabited

namespace OsFamily

/-- Every family, in search order. -/
def all : List OsFamily := [ubuntu, cblMariner, azureLinux, windows, ubuntuEdgeZone]

/-- The name of a family. -/
def name : OsFamily → String
  | ubuntu => "ubuntu"
  | cblMariner => "cblmariner"
  | azureLinux => "azurelinux"
  | windows => "windows"
  | ubuntuEdgeZone => "ubuntu-edgezone"

/-- The family of a name. -/
def ofName? (s : String) : Option OsFamily := all.find? (·.name == s)

theorem ofName?_name (f : OsFamily) : ofName? f.name = some f := by
  cases f <;> rfl

theorem mem_all (f : OsFamily) : f ∈ all := by
  cases f <;> simp [all]

end OsFamily

/-- The distributions a node can run, in declaration order. -/
inductive Distro where
  | ubuntu
  | ubuntu1804
  | ubuntu1804Gen2
  | ubuntu2204
  | aksUbuntu1604
  | aksUbuntu1804
  | aksUbuntuContainerd1804
  | aksUbuntuContainerd1804Gen2
  | aksUbuntuGpuContainerd1804Gen2
  | aksUbuntuContainerd2204
  | aksUbuntuContainerd2204Gen2
  | aksUbuntuArm64Containerd2204Gen2
  | aksUbuntuContainerd2404
  | aksUbuntuContainerd2404Gen2
  | aksCblMarinerV2
  | aksCblMarinerV2Gen2
  | aksCblMarinerV2Arm64Gen2
  | aksAzureLinuxV2
  | aksAzureLinuxV2Gen2
  | aksAzureLinuxV3Gen2
  | aksWindows2019Containerd
  | aksWindows2022Containerd
  | aksWindows2022ContainerdGen2
  | aksWindows23H2
  | aksWindows23H2Gen2
  | aksUbuntuEdgeZoneContainerd1804
  | aksUbuntuEdgeZoneContainerd1804Gen2
  | aksUbuntuEdgeZoneContainerd2204
  | aksUbuntuEdgeZoneContainerd2204Gen2
  | customizedImage
  | customizedImageKata
  | customizedWindowsOsImage
deriving DecidableEq, Repr, Inhabited

namespace Distro

/-- Every distribution, in declaration order. -/
def all : List Distro :=
  [ubuntu, ubuntu1804, ubuntu1804Gen2, ubuntu2204, aksUbuntu1604, aksUbuntu1804,
    aksUbuntuContainerd1804, aksUbuntuContainerd1804Gen2, aksUbuntuGpuContainerd1804Gen2,
    aksUbuntuContainerd2204, aksUbuntuContainerd2204Gen2, aksUbuntuArm64Containerd2204Gen2,
    aksUbuntuContainerd2404, aksUbuntuContainerd2404Gen2, aksCblMarinerV2, aksCblMarinerV2Gen2,
    aksCblMarinerV2Arm64Gen2, aksAzureLinuxV2, aksAzureLinuxV2Gen2, aksAzureLinuxV3Gen2,
    aksWindows2019Containerd, aksWindows2022Containerd, aksWindows2022ContainerdGen2,
    aksWindows23H2, aksWindows23H2Gen2, aksUbuntuEdgeZoneContainerd1804,
    aksUbuntuEdgeZoneContainerd1804Gen2, aksUbuntuEdgeZoneContainerd2204,
    aksUbuntuEdgeZoneContainerd2204Gen2, customizedImage, customizedImageKata,
    customizedWindowsOsImage]

/-- The name of a distribution. -/
def value : Distro → String
  | ubuntu => "ubuntu"
  | ubuntu1804 => "ubuntu-18.04"
  | ubuntu1804Gen2 => "ubuntu-18.04-gen2"
  | ubuntu2204 => "ubuntu-22.04"
  | aksUbuntu1604 => "aks-ubuntu-16.04"
  | aksUbuntu1804 => "aks-ubuntu-18.04"
  | aksUbuntuContainerd1804 => "aks-ubuntu-containerd-18.04"
  | aksUbuntuContainerd1804Gen2 => "aks-ubuntu-containerd-18.04-gen2"
  | aksUbuntuGpuContainerd1804Gen2 => "aks-ubuntu-gpu-containerd-18.04-gen2"
  | aksUbuntuContainerd2204 => "aks-ubuntu-containerd-22.04"
  | aksUbuntuContainerd2204Gen2 => "aks-ubuntu-containerd-22.04-gen2"
  | aksUbuntuArm64Containerd2204Gen2 => "aks-ubuntu-arm64-containerd-22.04-gen2"
  | aksUbuntuContainerd2404 => "aks-ubuntu-containerd-24.04"
  | aksUbuntuContainerd2404Gen2 => "aks-ubuntu-containerd-24.04-gen2"
  | aksCblMarinerV2 => "aks-cblmariner-v2"
  | aksCblMarinerV2Gen2 => "aks-cblmariner-v2-gen2"
  | aksCblMarinerV2Arm64Gen2 => "aks-cblmariner-v2-arm64-gen2"
  | aksAzureLinuxV2 => "aks-azurelinux-v2"
  | aksAzureLinuxV2Gen2 => "aks-azurelinux-v2-gen2"
  | aksAzureLinuxV3Gen2 => "aks-azurelinux-v3-gen2"
  | aksWindows2019Containerd => "aks-windows-2019-containerd"
  | aksWindows2022Containerd => "aks-windows-2022-containerd"
  | aksWindows2022ContainerdGen2 => "aks-windows-2022-containerd-gen2"
  | aksWindows23H2 => "aks-windows-23H2"
  | aksWindows23H2Gen2 => "aks-windows-23H2-gen2"
  | aksUbuntuEdgeZoneContainerd1804 => "aks-ubuntu-edgezone-containerd-18.04"
  | aksUbuntuEdgeZoneContainerd1804Gen2 => "aks-ubuntu-edgezone-containerd-18.04-gen2"
  | aksUbuntuEdgeZoneContainerd2204 => "aks-ubuntu-edgezone-containerd-22.04"
  | aksUbuntuEdgeZoneContainerd2204Gen2 => "aks-ubuntu-edgezone-containerd-22.04-gen2"
  | customizedImage => "CustomizedImage"
  | customizedImageKata => "CustomizedImageKata"
  | customizedWindowsOsImage => "CustomizedWindowsOSImage"

/-- The distribution of a name. -/
def ofValue? (s : String) : Option Distro := all.find? (·.value == s)

theorem ofValue?_value (d : Distro) : ofValue? d.value = some d := by
  cases d <;> rfl

theorem mem_all (d : Distro) : d ∈ all := by
  cases d <;> simp [all]

/-- The family a name belongs to, by its prefix. -/
def familyOfName (s : String) : OsFamily :=
  if s.startsWith "aks-ubuntu-edgezone" then .ubuntuEdgeZone
  else if s.startsWith "aks-cblmariner" then .cblMariner
  else if s.startsWith "aks-azurelinux" then .azureLinux
  else if s.startsWith "aks-windows" || s.startsWith "CustomizedWindows" then .windows
  else .ubuntu

/-- The family of a distribution. -/
def family : Distro → OsFamily
  | aksCblMarinerV2 | aksCblMarinerV2Gen2 | aksCblMarinerV2Arm64Gen2 => .cblMariner
  | aksAzureLinuxV2 | aksAzureLinuxV2Gen2 | aksAzureLinuxV3Gen2 => .azureLinux
  | aksWindows2019Containerd | aksWindows2022Containerd | aksWindows2022ContainerdGen2
  | aksWindows23H2 | aksWindows23H2Gen2 | customizedWindowsOsImage => .windows
  | aksUbuntuEdgeZoneContainerd1804 | aksUbuntuEdgeZoneContainerd1804Gen2
  | aksUbuntuEdgeZoneContainerd2204 | aksUbuntuEdgeZoneContainerd2204Gen2 => .ubuntuEdgeZone
  | _ => .ubuntu

theorem family_eq_familyOfName (d : Distro) : d.family = familyOfName d.value := by
  cases d <;> decide +kernel

/-- Whether a distribution runs Windows. -/
def isWindows (d : Distro) : Bool := d.family == .windows

/-- Whether a distribution is a customized image, which no catalog describes. -/
def isCustomized : Distro → Bool
  | customizedImage | customizedImageKata | customizedWindowsOsImage => true
  | _ => false

/-- The customized distributions. -/
def customized : List Distro := all.filter isCustomized

end Distro

end NodeImage
