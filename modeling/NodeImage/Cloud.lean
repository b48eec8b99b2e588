import NodeImage.Text.Case

/-!
# Clouds and regions

The cloud a region belongs to follows from the region's name alone: a name that starts with
`china` after lower-casing is in the China cloud, one that starts with `usgov` or `usdod`
in the US Government cloud, and every other name in the public cloud.
-/

namespace NodeImage

/-- The clouds that regions belong to. -/
inductive Cloud where
  | azurePublic
  | azureChina
  | azureUSGovernment
deriving DecidableEq, Repr

namespace Cloud

/-- The name of a cloud, as configurations and catalogs spell it. -/
def name : Cloud → String
  | azurePublic => "AzurePublicCloud"
  | azureChina => "AzureChinaCloud"
  | azureUSGovernment => "AzureUSGovernmentCloud"

/-- The cloud a region belongs to. -/
def ofRegion (region : String) : Cloud :=
  let r := Text.lower region
  if r.startsWith "china" then azureChina
  else if r.startsWith "usgov" || r.startsWith "usdod" then azureUSGovernment
  else azurePublic

end Cloud

end NodeImage
