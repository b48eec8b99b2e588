import NodeImage.Image.Model

/-!
# Image catalogs

Two catalogs describe the images a node can boot from.

The legacy catalog maps each cloud, by name, to the marketplace image of each distribution
it offers.

The SIG catalog lists, for each OS family, the regions where the family is offered (all
regions when it names none) and, for each distribution, a gallery image definition: the key
of the gallery in a SIG selector, the image definition and its version. A definition only
becomes a `SigImage` once a selector supplies the gallery's real name, resource group and
subscription.
-/

namespace NodeImage

open Schema

/-- The marketplace images of every cloud. -/
structure LegacyCatalog where
  clouds : List (String × List (Distro × LegacyImage))
deriving Repr

/-- A gallery image definition: the selector's key for the gallery, the definition and its
version. -/
structure SigDefinition where
  gallery : String
  definition : String
  version : String
deriving DecidableEq, Repr

/-- The images of one OS family, and the regions that offer them (all when `none`). -/
structure SigFamily where
  regions : Option (List String)
  images : List (Distro × SigDefinition)
deriving Repr

/-- The SIG images of every family, in the catalog's order. -/
structure SigCatalog where
  families : List (OsFamily × SigFamily)
deriving Repr

/-- Reads a legacy catalog. -/
def LegacyCatalog.check : Check LegacyCatalog := model fun e =>
  (withDefault e "clouds" [] (dictOf text (dictOf (member Distro.ofValue?) LegacyImage.check))).map
    LegacyCatalog.mk

/-- Reads a gallery image definition. -/
def SigDefinition.check : Check SigDefinition := model fun e =>
  (Checked.both (required e "gallery" text) <| Checked.both (required e "definition" text)
    (required e "version" text)).map fun (gallery, definition, version) =>
      ⟨gallery, definition, version⟩

/-- Reads the images of one family. -/
def SigFamily.check : Check SigFamily := model fun e =>
  (Checked.both (withDefault e "regions" none (optional (listOf text)))
    (withDefault e "images" [] (dictOf (member Distro.ofValue?) SigDefinition.check))).map
    fun (regions, images) => ⟨regions, images⟩

/-- Reads a SIG catalog. -/
def SigCatalog.check : Check SigCatalog := model fun e =>
  (withDefault e "families" [] (dictOf (member OsFamily.ofName?) SigFamily.check)).map
    SigCatalog.mk

end NodeImage
