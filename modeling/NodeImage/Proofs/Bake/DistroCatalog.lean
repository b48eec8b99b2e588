import NodeImage.Proofs.Bake.Resolution

/-!
# The distribution catalog of a region

`Baker.distroCatalog` merges the five families of a region's SIG environment in family order,
each family's images one by one, so that a later entry for a distribution replaces an earlier
one. This module states the merge on its own terms.

* The merge sets one image per distribution: its keys stay distinct
  (`nodup_keys_mergedCatalog`), and they are the distributions some family holds.
* A distribution gets the image of the last family holding it (`SigEnvironment.lastFamily`),
  from that family's last entry for it, at its pinned version unless that family is the
  Windows one (`lookup_mergedCatalog_of_lastFamily`). This holds of any environment, even one
  whose families name a distribution twice.

Main statement: `distroCatalog_merges_families`.
-/

namespace NodeImage

/-! ## Setting images -/

theorem mem_keys_setImage (catalog : List (Distro × SigImage)) (d key : Distro) (image : SigImage) :
    key ∈ (setImage catalog d image).map Prod.fst ↔ key = d ∨ key ∈ catalog.map Prod.fst := by
  rw [← lookup_isSome_iff_mem, ← lookup_isSome_iff_mem, lookup_setImage]
  by_cases hit : key = d <;> simp [hit]

/-- Setting an image keeps the distributions of a catalog distinct: a distribution already
there is replaced in place, any other is added once. -/
theorem nodup_keys_setImage {catalog : List (Distro × SigImage)}
    (distinct : (catalog.map Prod.fst).Nodup) (d : Distro) (image : SigImage) :
    ((setImage catalog d image).map Prod.fst).Nodup := by
  induction catalog with
  | nil => simp [setImage]
  | cons entry rest ih =>
    obtain ⟨d', image'⟩ := entry
    rw [List.map_cons, List.nodup_cons] at distinct
    by_cases same : d' = d
    · subst same
      simp only [setImage, beq_self_eq_true, if_true, List.map_cons, List.nodup_cons]
      exact distinct
    · have differs : (d' == d) = false := beq_eq_false_iff_ne.mpr same
      simp only [setImage, differs, Bool.false_eq_true, if_false, List.map_cons, List.nodup_cons]
      refine ⟨fun present => ?_, ih distinct.2⟩
      rcases (mem_keys_setImage rest d d' image).mp present with isNew | old
      · exact same isNew
      · exact distinct.1 old

/-- The merged catalog names each distribution once. -/
theorem nodup_keys_mergedCatalog (env : SigEnvironment) (overrides : List (String × String)) :
    ((mergedCatalog env overrides).map Prod.fst).Nodup := by
  unfold mergedCatalog
  -- each family's fold, and then each setting of an image, keeps the keys distinct
  refine List.foldlRecOn (motive := fun all : List (Distro × SigImage) => (all.map Prod.fst).Nodup) OsFamily.all _ List.nodup_nil
    fun all distinct family _ => ?_
  exact List.foldlRecOn (motive := fun all : List (Distro × SigImage) => (all.map Prod.fst).Nodup) (env.catalog family) _ distinct
    fun all distinct entry _ => nodup_keys_setImage distinct _ _

/-! ## The last family holding a distribution -/

theorem isSome_lookup_reverse (catalog : List (Distro × SigImage)) (d : Distro) :
    (catalog.reverse.lookup d).isSome = (catalog.lookup d).isSome := by
  rw [Bool.eq_iff_iff, lookup_isSome_iff_mem, lookup_isSome_iff_mem, List.map_reverse, List.mem_reverse]

/-- The last family, in family order, whose images hold a distribution. -/
def SigEnvironment.lastFamily (env : SigEnvironment) (d : Distro) : Option OsFamily :=
  OsFamily.all.reverse.find? fun family => ((env.catalog family).lookup d).isSome

/-- The first value a search along a list finds is the one of the first element where it
finds any. -/
theorem findSome?_map_of_find? {α β γ : Type} {g : α → Option β} {k : α → β → γ} {x : α} :
    ∀ {l : List α}, l.find? (fun y => (g y).isSome) = some x →
      l.findSome? (fun y => (g y).map (k y)) = (g x).map (k x)
  | y :: l, found => by
    rw [List.find?_cons] at found
    cases holds : (g y).isSome
    · rw [holds] at found
      have nothing : g y = none := Option.not_isSome_iff_eq_none.mp (by simp [holds])
      rw [List.findSome?_cons, nothing, Option.map_none]
      exact findSome?_map_of_find? found
    · rw [holds] at found
      cases found
      obtain ⟨b, gives⟩ := Option.isSome_iff_exists.mp holds
      simp [gives]

/-- The merged catalog gives a distribution the pinned image of an entry of the last family
holding it. -/
theorem lookup_mergedCatalog_of_lastFamily {env : SigEnvironment} {d : Distro} {family : OsFamily}
    (last : env.lastFamily d = some family) (overrides : List (String × String)) :
    ∃ image, (d, image) ∈ env.catalog family ∧
      (mergedCatalog env overrides).lookup d = some (pinnedIn overrides family (d, image)) := by
  have found : OsFamily.all.reverse.find? (fun family => ((env.catalog family).reverse.lookup d).isSome) =
      some family := by
    simp only [isSome_lookup_reverse]
    exact last
  have holds := List.find?_some found
  obtain ⟨image, lastEntry⟩ := Option.isSome_iff_exists.mp holds
  refine ⟨image, List.mem_reverse.mp (mem_of_lookup_eq_some lastEntry), ?_⟩
  rw [lookup_mergedCatalog_reverse, findSome?_map_of_find? found, lastEntry, Option.map_some]

/-- A distribution no family holds has no last family. -/
theorem SigEnvironment.lastFamily_eq_none_iff {env : SigEnvironment} {d : Distro} :
    env.lastFamily d = none ↔ ∀ family, d ∉ (env.catalog family).map Prod.fst := by
  unfold SigEnvironment.lastFamily
  rw [List.find?_eq_none]
  simp only [List.mem_reverse, lookup_isSome_iff_mem]
  exact ⟨fun absent family => absent family (OsFamily.mem_all family), fun absent family _ => absent family⟩

/-! ## The catalog a region resolves to -/

/-- Resolving every distribution of a region. When the region's SIG environment binds, the
catalog names each distribution of its five families once, and nothing else. A distribution
gets the image of the last family, in family order, that holds it, with the version the
environment's toggles pin for it, unless that family is the Windows one; every other field is
the catalog's. -/
theorem distroCatalog_merges_families (b : Baker) (sel : SigConfig) (env : EnvironmentInfo)
    {sigEnv : SigEnvironment} (bound : b.catalogs.sigEnvironment sel env.region = .ok sigEnv)
    (distinct : ∀ family, ((sigEnv.catalog family).map Prod.fst).Nodup) :
    ∃ catalog, (b.distroCatalog sel env).run.1 = .ok catalog ∧
      (catalog.map Prod.fst).Nodup ∧
      (∀ d, d ∈ catalog.map Prod.fst ↔ ∃ family, d ∈ (sigEnv.catalog family).map Prod.fst) ∧
      ∀ d family image, sigEnv.lastFamily d = some family → (sigEnv.catalog family).lookup d = some image →
        catalog.lookup d =
          some (match (b.toggles.imageVersions (Entity.ofEnvironment env)).lookup d.value with
            | some version => if family = .windows then image else { image with version := version }
            | none => image) := by
  refine ⟨_, by rw [(Baker.distroCatalog_of_bound bound).run], nodup_keys_mergedCatalog _ _,
    fun d => ?_, fun d family image last own => ?_⟩
  · rw [← lookup_isSome_iff_mem, Option.isSome_iff_ne_none, Ne, lookup_mergedCatalog_eq_none_iff]
    simp only [Classical.not_forall, Decidable.not_not]
  · obtain ⟨image', member, merged⟩ := lookup_mergedCatalog_of_lastFamily last (Baker.environmentOverrides b env)
    -- the family names the distribution once, so its last entry is its only one
    have same : image' = image :=
      Option.some.inj (((lookup_eq_some_iff_mem (distinct family)).mpr member).symm.trans own)
    subst same
    rw [merged, pinnedIn, overrideVersion]
    by_cases windows : family = .windows
    · subst windows
      cases (Baker.environmentOverrides b env).lookup d.value <;> rfl
    · have notWindows : (family == .windows) = false := beq_eq_false_iff_ne.mpr windows
      cases (Baker.environmentOverrides b env).lookup d.value <;> simp [notWindows, windows, SigImage.withVersion]

/-- A baker whose SIG catalog lists the same Ubuntu distribution under the Ubuntu and the
Windows families, and whose toggles pin its version everywhere. -/
def ubuntuThenWindowsBaker : Baker :=
  ⟨⟨⟨[]⟩, ⟨[(.ubuntu, ⟨none, [(.aksUbuntuContainerd2204, ⟨"AKSUbuntu", "2204containerd", "1.0"⟩)]⟩),
    (.windows, ⟨none, [(.aksUbuntuContainerd2204, ⟨"AKSUbuntu", "2204windows", "3.0"⟩)]⟩)]⟩⟩,
    ⟨[(Toggles.imageVersionName, [⟨[], [("aks-ubuntu-containerd-22.04", "2.0")]⟩])]⟩,
    TemplateLibrary.shipped⟩

/-- The Windows family comes after the Ubuntu one, so its image wins, unpinned. -/
theorem distroCatalog_windows_entry_wins :
    ∃ sigEnv, ubuntuThenWindowsBaker.catalogs.sigEnvironment ubuntuSelector westus.region = .ok sigEnv ∧
      (∀ family, ((sigEnv.catalog family).map Prod.fst).Nodup) ∧
      ∃ catalog, (ubuntuThenWindowsBaker.distroCatalog ubuntuSelector westus).run.1 = .ok catalog ∧
        catalog.lookup .aksUbuntuContainerd2204 = some ⟨"rg", "AKSUbuntuGallery", "2204windows", "3.0", "sub"⟩ := by
  have bound : ubuntuThenWindowsBaker.catalogs.sigEnvironment ubuntuSelector westus.region =
      .ok ⟨(Cloud.ofRegion westus.region).name,
        [(.aksUbuntuContainerd2204, ⟨"rg", "AKSUbuntuGallery", "2204containerd", "1.0", "sub"⟩)], [], [],
        [(.aksUbuntuContainerd2204, ⟨"rg", "AKSUbuntuGallery", "2204windows", "3.0", "sub"⟩)], []⟩ := rfl
  have distinct : ∀ family, ((SigEnvironment.catalog ⟨(Cloud.ofRegion westus.region).name,
      [(.aksUbuntuContainerd2204, ⟨"rg", "AKSUbuntuGallery", "2204containerd", "1.0", "sub"⟩)], [], [],
      [(.aksUbuntuContainerd2204, ⟨"rg", "AKSUbuntuGallery", "2204windows", "3.0", "sub"⟩)], []⟩ family).map
        Prod.fst).Nodup := by
    intro family
    cases family <;> decide
  obtain ⟨catalog, resolved, -, -, images⟩ :=
    distroCatalog_merges_families ubuntuThenWindowsBaker ubuntuSelector westus bound distinct
  exact ⟨_, bound, distinct, catalog, resolved, images .aksUbuntuContainerd2204 .windows _ rfl rfl⟩

end NodeImage
