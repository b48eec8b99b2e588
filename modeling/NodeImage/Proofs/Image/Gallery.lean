import Mathlib.Logic.Function.Defs
import NodeImage.Proofs.Catalog.Environment

/-!
# Gallery images and the environments that hold them

Two facts about the shared-gallery model on its own, before any catalog is bound.

* A SIG environment is its cloud name and one image list per OS family: `catalog` sends the
  five families to the five image fields, one field each, so the pair of cloud name and
  catalogs determines an environment and every such pair is one (`catalog_bijective`).
  `SigEnvironment.find` scans the families in declaration order and answers from the first
  whose images name the distribution (`find_eq_some_iff`), and nothing when none does.
* A resource id names its image. Split at its slashes, the id of an image whose five fields
  hold no slash gives the fields back (`ofResourceId?_resourceId`), so two such images have
  the same id only when they are equal. Moving an image to another version changes only the
  last name of its id.
-/

namespace NodeImage

/-! ## Finding the first family that holds a distribution -/

/-- In a list ranked in strictly increasing order, `findSome?` answers from the element of
least rank that has an answer. -/
theorem findSome?_eq_some_iff_first {α β : Type} {rank : α → Nat} {f : α → Option β} {b : β} :
    ∀ {l : List α}, l.Pairwise (rank · < rank ·) →
      (l.findSome? f = some b ↔ ∃ a ∈ l, f a = some b ∧ ∀ x ∈ l, rank x < rank a → f x = none)
  | [], _ => by simp
  | c :: rest, ranked => by
    obtain ⟨above, restRanked⟩ := List.pairwise_cons.mp ranked
    cases found : f c with
    | some b' =>
      -- the head answers, and every other element ranks above it
      rw [List.findSome?_cons_of_isSome (by simp [found]), found]
      constructor
      · rintro ⟨⟩
        refine ⟨c, List.mem_cons_self, found, fun x member earlier => ?_⟩
        rcases List.mem_cons.mp member with rfl | later
        · exact absurd earlier (Nat.lt_irrefl _)
        · exact absurd (above x later) (Nat.lt_asymm earlier)
      · rintro ⟨a, member, image, first⟩
        rcases List.mem_cons.mp member with rfl | later
        · rw [found] at image
          exact image
        · rw [first c List.mem_cons_self (above a later)] at found
          cases found
    | none =>
      -- the head has no answer, so the answer and its rank come from the rest
      rw [List.findSome?_cons_of_isNone (by simp [found]), findSome?_eq_some_iff_first restRanked]
      constructor
      · rintro ⟨a, member, image, first⟩
        refine ⟨a, List.mem_cons_of_mem c member, image, fun x xMember earlier => ?_⟩
        rcases List.mem_cons.mp xMember with rfl | later
        · exact found
        · exact first x later earlier
      · rintro ⟨a, member, image, first⟩
        rcases List.mem_cons.mp member with rfl | later
        · rw [found] at image
          cases image
        · exact ⟨a, later, image, fun x xLater => first x (List.mem_cons_of_mem c xLater)⟩

/-- The search order of the families is their declaration order. -/
theorem OsFamily.all_ranked : OsFamily.all.Pairwise (·.ctorIdx < ·.ctorIdx) := by decide

namespace SigEnvironment

/-- An environment is its cloud name and the images of each family, and any cloud name with
any images per family is an environment: no two families share a field, and no field is left
out. -/
theorem catalog_bijective :
    Function.Bijective fun env : SigEnvironment => (env.cloudName, env.catalog) := by
  constructor
  · rintro ⟨name, u, m, a, w, e⟩ ⟨name', u', m', a', w', e'⟩ same
    simp only [Prod.mk.injEq] at same
    obtain ⟨rfl, catalogs⟩ := same
    -- each family's catalog is one field, so equal catalogs are equal fields
    obtain rfl : u = u' := congrFun catalogs .ubuntu
    obtain rfl : m = m' := congrFun catalogs .cblMariner
    obtain rfl : a = a' := congrFun catalogs .azureLinux
    obtain rfl : w = w' := congrFun catalogs .windows
    obtain rfl : e = e' := congrFun catalogs .ubuntuEdgeZone
    rfl
  · rintro ⟨name, catalogs⟩
    refine ⟨⟨name, catalogs .ubuntu, catalogs .cblMariner, catalogs .azureLinux, catalogs .windows,
      catalogs .ubuntuEdgeZone⟩, ?_⟩
    simp only [Prod.mk.injEq, true_and]
    funext family
    cases family <;> rfl

/-- `find` answers with a family's image of the distribution exactly when no family declared
before it holds the distribution. -/
theorem find_eq_some_iff {env : SigEnvironment} {d : Distro} {image : SigImage} :
    env.find d = some image ↔ ∃ family, (env.catalog family).lookup d = some image ∧
      ∀ earlier : OsFamily, earlier.ctorIdx < family.ctorIdx → d ∉ (env.catalog earlier).map Prod.fst := by
  unfold find
  rw [findSome?_eq_some_iff_first OsFamily.all_ranked]
  simp only [OsFamily.mem_all, true_and, forall_const, lookup_eq_none_iff_not_mem]

/-- The family catalogs are the environment's five image fields, one family each, and `find`
reads the first family in declaration order that holds the distribution, or gives nothing
when no family does. -/
theorem find_first_holding_family :
    Function.Bijective (fun env : SigEnvironment => (env.cloudName, env.catalog)) ∧
    ∀ (env : SigEnvironment) (d : Distro),
      (∀ image, env.find d = some image ↔ ∃ family, (env.catalog family).lookup d = some image ∧
        ∀ earlier : OsFamily, earlier.ctorIdx < family.ctorIdx →
          d ∉ (env.catalog earlier).map Prod.fst) ∧
      (env.find d = none ↔ ∀ family, d ∉ (env.catalog family).map Prod.fst) :=
  ⟨catalog_bijective, fun _ _ => ⟨fun _ => find_eq_some_iff, find_eq_none_iff⟩⟩

end SigEnvironment

/-! ## Resource ids -/

namespace SigImage

/-- The names of an image's resource id, in order, as its slashes separate them. -/
def idSegments (i : SigImage) : List String :=
  ["", "subscriptions", i.subscriptionId, "resourceGroups", i.resourceGroup, "providers",
    "Microsoft.Compute", "galleries", i.gallery, "images", i.definition, "versions", i.version]

/-- Reads an image back from a resource id: split at its slashes, the id must be the fixed
names of a gallery image version with the five fields between them. -/
def ofResourceId? (id : String) : Option SigImage :=
  match (id.toList.splitOn '/').map String.ofList with
  | ["", "subscriptions", subscription, "resourceGroups", group, "providers", "Microsoft.Compute",
      "galleries", gallery, "images", definition, "versions", version] =>
    some ⟨group, gallery, definition, version, subscription⟩
  | _ => none

/-- No field of the image holds a slash. -/
def SlashFree (i : SigImage) : Prop :=
  ∀ field ∈ [i.subscriptionId, i.resourceGroup, i.gallery, i.definition, i.version], '/' ∉ field.toList

instance (i : SigImage) : Decidable i.SlashFree :=
  inferInstanceAs (Decidable (∀ field ∈ _, _))

theorem toList_resourceId (i : SigImage) :
    i.resourceId.toList = ['/'].intercalate (i.idSegments.map String.toList) := by
  unfold resourceId
  simp only [String.toList_append, idSegments, List.map_cons, List.map_nil, List.intercalate_cons_cons,
    List.intercalate_singleton, List.append_assoc]
  simp

/-- Splitting an id at its slashes gives its names back when no field holds a slash. -/
theorem splitOn_resourceId {i : SigImage} (free : i.SlashFree) :
    i.resourceId.toList.splitOn '/' = i.idSegments.map String.toList := by
  rw [toList_resourceId]
  apply List.splitOn_intercalate
  · simp only [SlashFree, List.mem_cons, List.not_mem_nil, or_false, forall_eq_or_imp, forall_eq] at free
    simp [idSegments, free]
  · simp [idSegments]

theorem ofResourceId?_resourceId {i : SigImage} (free : i.SlashFree) :
    ofResourceId? i.resourceId = some i := by
  rw [ofResourceId?, splitOn_resourceId free, List.map_map]
  simp [idSegments]

/-- Two images whose fields hold no slash have the same id only when they are equal. -/
theorem resourceId_eq_iff {a b : SigImage} (freeA : a.SlashFree) (freeB : b.SlashFree) :
    a.resourceId = b.resourceId ↔ a = b := by
  constructor
  · intro same
    have readBack : some a = some b := by
      rw [← ofResourceId?_resourceId freeA, same, ofResourceId?_resourceId freeB]
    exact Option.some.inj readBack
  · rintro rfl
    rfl

/-- Another version of an image has the same id up to the last name, which is the version. -/
theorem resourceId_withVersion (a : SigImage) (version : String) :
    ∃ stem, a.resourceId = stem ++ "/versions/" ++ a.version ∧
      (a.withVersion version).resourceId = stem ++ "/versions/" ++ version :=
  ⟨"/subscriptions/" ++ a.subscriptionId ++ "/resourceGroups/" ++ a.resourceGroup ++
    "/providers/Microsoft.Compute/galleries/" ++ a.gallery ++ "/images/" ++ a.definition, rfl, rfl⟩

/-- Moving an image to another version keeps every other field: moving it back gives it again. -/
theorem withVersion_withVersion (a : SigImage) (version : String) :
    (a.withVersion version).withVersion a.version = a := rfl

/-- A resource id identifies an image whose fields hold no slash and reads back into its
fields; another version of an image differs from it in the last name of the id alone. -/
theorem resourceId_identifies_image :
    (∀ a b : SigImage, a.SlashFree → b.SlashFree → (a.resourceId = b.resourceId ↔ a = b)) ∧
    (∀ a : SigImage, a.SlashFree → ofResourceId? a.resourceId = some a) ∧
    ∀ (a : SigImage) (version : String),
      (∃ stem, a.resourceId = stem ++ "/versions/" ++ a.version ∧
        (a.withVersion version).resourceId = stem ++ "/versions/" ++ version) ∧
      (a.withVersion version).withVersion a.version = a :=
  ⟨fun _ _ => resourceId_eq_iff, fun _ => ofResourceId?_resourceId,
    fun a version => ⟨resourceId_withVersion a version, withVersion_withVersion a version⟩⟩

/-- Two versions of one image have different ids. -/
theorem resourceId_tells_versions_apart :
    SigImage.SlashFree ⟨"rg", "AKSUbuntuGallery", "2204containerd", "202408.01.0", "sub"⟩ ∧
      SigImage.SlashFree ⟨"rg", "AKSUbuntuGallery", "2204containerd", "202409.01.0", "sub"⟩ ∧
      resourceId ⟨"rg", "AKSUbuntuGallery", "2204containerd", "202408.01.0", "sub"⟩ ≠
        resourceId ⟨"rg", "AKSUbuntuGallery", "2204containerd", "202409.01.0", "sub"⟩ := by
  have free : SigImage.SlashFree ⟨"rg", "AKSUbuntuGallery", "2204containerd", "202408.01.0", "sub"⟩ := by
    decide
  have free' : SigImage.SlashFree ⟨"rg", "AKSUbuntuGallery", "2204containerd", "202409.01.0", "sub"⟩ := by
    decide
  refine ⟨free, free', fun same => ?_⟩
  have equal := (resourceId_identifies_image.1 _ _ free free').mp same
  exact absurd (congrArg version equal) (by decide)

end SigImage

end NodeImage
