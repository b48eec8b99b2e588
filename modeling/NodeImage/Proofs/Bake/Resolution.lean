import NodeImage.Proofs.Bake.Yields
import NodeImage.Proofs.Catalog.Environment

/-!
# Resolving gallery images

What `Baker.latestImage` and `Baker.distroCatalog` resolve, and how the two agree.

`latestImage` takes the image of the first family, in family order, that holds the
distribution, and pins its version unless the distribution is a Windows one.
`distroCatalog` merges the families in family order, so the last family holding a
distribution gives its image (`lookup_mergedCatalog`), and pins every image that does not
come from the Windows family. Both fail, first of all, exactly when the region's SIG
environment cannot be bound, and then with the same fault.

The two therefore agree on the distributions they find in any catalog, and on the image
they give a distribution when the catalog files it under its own family at most once
(`latestImage_agrees_with_distroCatalog`). A catalog that lists a distribution under two
families makes them disagree (`latestImage_ne_distroCatalog_of_two_families`).
-/

namespace NodeImage

/-! ## Setting images in a catalog -/

theorem lookup_setImage (catalog : List (Distro × SigImage)) (d key : Distro) (image : SigImage) :
    (setImage catalog d image).lookup key = if key = d then some image else catalog.lookup key := by
  induction catalog with
  | nil => simp [setImage, lookup_cons_ite]
  | cons entry rest ih =>
    obtain ⟨d', image'⟩ := entry
    by_cases same : d' = d
    · subst same
      by_cases hit : key = d' <;> simp [setImage, lookup_cons_ite, hit]
    · by_cases hit : key = d
      · subst hit
        have other : key ≠ d' := Ne.symm same
        simp [setImage, lookup_cons_ite, same, other, ih]
      · simp [setImage, lookup_cons_ite, same, hit, ih]

section Merge

variable (pin : Distro × SigImage → SigImage) (d : Distro)

/-- Setting the images of a list of entries gives a distribution the image of its last entry,
and leaves the others as the catalog has them. -/
theorem lookup_foldl_setImage_reverse :
    ∀ (entries catalog : List (Distro × SigImage)),
      (entries.foldl (fun all entry => setImage all entry.1 (pin entry)) catalog).lookup d =
        ((entries.reverse.lookup d).map fun image => pin (d, image)).or (catalog.lookup d)
  | [], catalog => by simp
  | (d', image) :: entries, catalog => by
    rw [List.foldl_cons, lookup_foldl_setImage_reverse entries, lookup_setImage, List.reverse_cons,
      List.lookup_append, Option.map_or, Option.or_assoc]
    by_cases hit : d = d'
    · subst hit
      simp
    · simp [lookup_cons_ite, hit]

end Merge

/-! ## The merged catalog -/

/-- The image a family gives a distribution in the merged catalog: the family's own image,
at its pinned version unless the family is the Windows one. -/
def pinnedIn (overrides : List (String × String)) (family : OsFamily) (entry : Distro × SigImage) :
    SigImage :=
  if family == .windows then entry.2 else overrideVersion entry.2 entry.1 overrides

/-- Every family's images merged in family order, a later family replacing an earlier one on
the same distribution. -/
def mergedCatalog (env : SigEnvironment) (overrides : List (String × String)) :
    List (Distro × SigImage) :=
  OsFamily.all.foldl (fun all family => (env.catalog family).foldl
    (fun all entry => setImage all entry.1 (pinnedIn overrides family entry)) all) []

/-- The merged catalog gives a distribution the pinned image of its last entry in the last
family, in family order, that holds it. -/
theorem lookup_mergedCatalog_reverse (env : SigEnvironment) (overrides : List (String × String))
    (d : Distro) :
    (mergedCatalog env overrides).lookup d = OsFamily.all.reverse.findSome? fun family =>
      (((env.catalog family).reverse.lookup d).map fun image => pinnedIn overrides family (d, image)) := by
  -- the run lemma over the families, each family's fold given by its step lemma
  have merged : ∀ (families : List OsFamily) (catalog : List (Distro × SigImage)),
      (families.foldl (fun all family => (env.catalog family).foldl
        (fun all entry => setImage all entry.1 (pinnedIn overrides family entry)) all) catalog).lookup d =
          (families.reverse.findSome? fun family =>
            ((env.catalog family).reverse.lookup d).map fun image => pinnedIn overrides family (d, image)).or
              (catalog.lookup d) := by
    intro families
    induction families with
    | nil => simp
    | cons family families ih =>
      intro catalog
      rw [List.foldl_cons, ih, lookup_foldl_setImage_reverse, List.reverse_cons, List.findSome?_append,
        Option.or_assoc]
      simp
  rw [mergedCatalog, merged]
  simp

/-- The merged catalog misses a distribution exactly when no family holds it. -/
theorem lookup_mergedCatalog_eq_none_iff {env : SigEnvironment} {overrides : List (String × String)}
    {d : Distro} :
    (mergedCatalog env overrides).lookup d = none ↔ ∀ family, d ∉ (env.catalog family).map Prod.fst := by
  rw [lookup_mergedCatalog_reverse, List.findSome?_eq_none_iff]
  simp only [List.mem_reverse, OsFamily.mem_all, true_implies, Option.map_eq_none_iff,
    lookup_eq_none_iff_not_mem, List.map_reverse]

/-- When every family names each distribution once, the merged catalog gives a distribution
the image of the last family, in family order, that holds it. -/
theorem lookup_mergedCatalog {env : SigEnvironment} {overrides : List (String × String)}
    (distinct : ∀ family, ((env.catalog family).map Prod.fst).Nodup) (d : Distro) :
    (mergedCatalog env overrides).lookup d = OsFamily.all.reverse.findSome? fun family =>
      ((env.catalog family).lookup d).map fun image => pinnedIn overrides family (d, image) := by
  -- a family that names the distribution once gives the same entry read from either end
  have sameEntry : ∀ family, (env.catalog family).reverse.lookup d = (env.catalog family).lookup d :=
    fun family => (lookup_eq_of_perm (List.reverse_perm _).symm (distinct family) d).symm
  simp only [lookup_mergedCatalog_reverse, sameEntry]

/-! ## What the two resolutions yield -/

namespace Baker

variable {b : Baker} {sel : SigConfig} {env : EnvironmentInfo}

/-- The version overrides the toggles give an environment. -/
abbrev environmentOverrides (b : Baker) (env : EnvironmentInfo) : List (String × String) :=
  b.toggles.imageVersions (Entity.ofEnvironment env)

/-- The image `latestImage` gives for a distribution it found: pinned unless the
distribution is a Windows one. -/
def pinnedFor (b : Baker) (env : EnvironmentInfo) (d : Distro) (image : SigImage) : SigImage :=
  if d.isWindows then image else overrideVersion image d (environmentOverrides b env)

theorem latestImage_of_unbound {d : Distro} {f : Fault}
    (unbound : b.catalogs.sigEnvironment sel env.region = .error f) :
    (b.latestImage sel d env).Yields (.error f) [⟨.latestImage, .failed f.message⟩] := by
  unfold latestImage
  apply BakeM.Yields.reportingFailure_error []
  rw [unbound]
  exact (BakeM.Yields.lift _).bind_error

theorem latestImage_of_missing {d : Distro} {sigEnv : SigEnvironment}
    (bound : b.catalogs.sigEnvironment sel env.region = .ok sigEnv) (missing : sigEnv.find d = none) :
    (b.latestImage sel d env).Yields (.error (.imageNotFound d.value env.region))
      [⟨.latestImage, .failed (Fault.imageNotFound d.value env.region).message⟩] := by
  unfold latestImage
  apply BakeM.Yields.reportingFailure_error []
  rw [bound]
  refine (BakeM.Yields.lift _).bind ?_
  simp only [missing]
  exact (BakeM.Yields.throw _).bind_error

/-- A found image comes back pinned unless the distribution is a Windows one, after the
override's event and before the resolution's. -/
theorem latestImage_of_found {d : Distro} {sigEnv : SigEnvironment} {image : SigImage}
    (bound : b.catalogs.sigEnvironment sel env.region = .ok sigEnv) (found : sigEnv.find d = some image) :
    (b.latestImage sel d env).Yields (.ok (pinnedFor b env d image))
      ((if d.isWindows then [] else overrideEvents .latestImage image d (environmentOverrides b env)) ++
        [⟨.latestImage, .imageResolved d.value env.region (some (pinnedFor b env d image).resourceId)⟩]) := by
  unfold latestImage
  apply BakeM.Yields.reportingFailure_ok
  rw [bound]
  refine (BakeM.Yields.lift _).bind ?_
  simp only [found]
  refine (BakeM.Yields.pure _).bind ?_
  by_cases windows : d.isWindows
  · simp only [pinnedFor, windows, if_true]
    exact (BakeM.Yields.pure _).bind ((BakeM.Yields.emit _).bind (BakeM.Yields.pure _))
  · simp only [pinnedFor, windows]
    exact (overrideImage_yields _ _ _ _).bind ((BakeM.Yields.emit _).bind (BakeM.Yields.pure _))

theorem distroCatalog_of_unbound {f : Fault}
    (unbound : b.catalogs.sigEnvironment sel env.region = .error f) :
    (b.distroCatalog sel env).Yields (.error f) [⟨.distroCatalog, .failed f.message⟩] := by
  unfold distroCatalog
  apply BakeM.Yields.reportingFailure_error []
  rw [unbound]
  exact (BakeM.Yields.lift _).bind_error

/-- The override events of a merged catalog, family by family and image by image. -/
def catalogOverrideEvents (sigEnv : SigEnvironment) (overrides : List (String × String)) :
    List Event :=
  OsFamily.all.flatMap fun family => (sigEnv.catalog family).flatMap fun entry =>
    if family == .windows then [] else overrideEvents .distroCatalog entry.2 entry.1 overrides

/-- A bound environment gives the merged catalog, with the override events of its images
and then the size of the catalog. -/
theorem distroCatalog_of_bound {sigEnv : SigEnvironment}
    (bound : b.catalogs.sigEnvironment sel env.region = .ok sigEnv) :
    (b.distroCatalog sel env).Yields (.ok (mergedCatalog sigEnv (environmentOverrides b env)))
      (catalogOverrideEvents sigEnv (environmentOverrides b env) ++
        [⟨.distroCatalog, .catalogResolved env.region
          (mergedCatalog sigEnv (environmentOverrides b env)).length⟩]) := by
  unfold distroCatalog
  apply BakeM.Yields.reportingFailure_ok
  rw [bound]
  refine (BakeM.Yields.lift _).bind ?_
  refine (BakeM.Yields.foldlM (fun all family => ?_) OsFamily.all []).bind
    ((BakeM.Yields.emit _).bind (BakeM.Yields.pure _))
  refine BakeM.Yields.foldlM (fun all entry => ?_) (sigEnv.catalog family) all
  obtain ⟨distro, image⟩ := entry
  by_cases windows : family = .windows
  · subst windows
    exact (BakeM.Yields.pure _).bind (BakeM.Yields.pure _)
  · have notWindows : (family == .windows) = false := beq_eq_false_iff_ne.mpr windows
    simp only [notWindows, Bool.false_eq_true, if_false, pinnedIn]
    exact (overrideImage_yields _ _ _ _).bind_pure

end Baker

/-! ## Agreement -/

/-- The merged catalog misses a distribution exactly when `find` does. -/
theorem lookup_mergedCatalog_eq_none_iff_find {sigEnv : SigEnvironment}
    {overrides : List (String × String)} {d : Distro} :
    (mergedCatalog sigEnv overrides).lookup d = none ↔ sigEnv.find d = none := by
  rw [lookup_mergedCatalog_eq_none_iff, SigEnvironment.find_eq_none_iff]

/-- In an environment filed by family, the merged catalog gives a found distribution the
image `latestImage` pins for it: the family that holds it is its own, and that family is the
Windows one exactly when the distribution is. -/
theorem lookup_mergedCatalog_of_find {sigEnv : SigEnvironment} (filed : sigEnv.FiledByFamily)
    (overrides : List (String × String)) {d : Distro} {image : SigImage}
    (found : sigEnv.find d = some image) :
    (mergedCatalog sigEnv overrides).lookup d =
      some (if d.isWindows then image else overrideVersion image d overrides) := by
  have own : (sigEnv.catalog d.family).lookup d = some image := by
    rw [← SigEnvironment.find_of_filedByFamily filed d, found]
  rw [lookup_mergedCatalog (fun family => (filed family).1) d,
    findSome?_eq_of_others (List.mem_reverse.mpr (OsFamily.mem_all d.family))]
  · simp [own, pinnedIn, Distro.isWindows]
  · intro family _ other
    have missing : (sigEnv.catalog family).lookup d = none := by
      rw [lookup_eq_none_iff_not_mem]
      intro present
      exact other ((filed family).2 d present).symm
    simp [missing]

/-- The single-distribution and whole-catalog resolutions agree. Both fail with the same
`sigResolution` fault when the region's environment cannot be bound; otherwise a distribution
is missing from the catalog exactly when `latestImage` finds no image for it; and when the
catalog files every distribution under its own family at most once, `latestImage` gives the
image the catalog maps the distribution to. -/
theorem latestImage_agrees_with_distroCatalog (b : Baker) (sel : SigConfig) (env : EnvironmentInfo)
    (d : Distro) :
    (b.catalogs.sig.FiledByFamily → ∀ image,
      (b.latestImage sel d env).run.1 = .ok image ↔
        ∃ catalog, (b.distroCatalog sel env).run.1 = .ok catalog ∧ catalog.lookup d = some image) ∧
    ((b.latestImage sel d env).run.1 = .error (.imageNotFound d.value env.region) ↔
      ∃ catalog, (b.distroCatalog sel env).run.1 = .ok catalog ∧ catalog.lookup d = none) ∧
    ∀ f, b.catalogs.sigEnvironment sel env.region = .error f →
      (∃ message, f = .sigResolution message (.str env.region)) ∧
      (b.latestImage sel d env).run.1 = .error f ∧ (b.distroCatalog sel env).run.1 = .error f := by
  refine ⟨fun filed image => ?_, ?_, fun f unbound => ?_⟩
  · cases binding : b.catalogs.sigEnvironment sel env.region with
    | error f =>
      rw [(Baker.latestImage_of_unbound binding).run, (Baker.distroCatalog_of_unbound binding).run]
      simp
    | ok sigEnv =>
      have envFiled := CatalogStore.filedByFamily_of_sigEnvironment filed binding
      rw [(Baker.distroCatalog_of_bound binding).run]
      cases found : sigEnv.find d with
      | none =>
        have missing : (mergedCatalog sigEnv (Baker.environmentOverrides b env)).lookup d = none :=
          lookup_mergedCatalog_eq_none_iff_find.mpr found
        rw [(Baker.latestImage_of_missing binding found).run]
        simp [missing]
      | some foundImage =>
        rw [(Baker.latestImage_of_found binding found).run]
        simp [lookup_mergedCatalog_of_find envFiled (Baker.environmentOverrides b env) found,
          Baker.pinnedFor]
  · cases binding : b.catalogs.sigEnvironment sel env.region with
    | error f =>
      obtain ⟨message, rfl⟩ := CatalogStore.sigEnvironment_error binding
      rw [(Baker.latestImage_of_unbound binding).run, (Baker.distroCatalog_of_unbound binding).run]
      simp
    | ok sigEnv =>
      rw [(Baker.distroCatalog_of_bound binding).run]
      cases found : sigEnv.find d with
      | none =>
        have missing : (mergedCatalog sigEnv (Baker.environmentOverrides b env)).lookup d = none :=
          lookup_mergedCatalog_eq_none_iff_find.mpr found
        rw [(Baker.latestImage_of_missing binding found).run]
        exact ⟨fun _ => ⟨_, rfl, missing⟩, fun _ => rfl⟩
      | some foundImage =>
        have present : (mergedCatalog sigEnv (Baker.environmentOverrides b env)).lookup d ≠ none := by
          rw [Ne, lookup_mergedCatalog_eq_none_iff_find, found]
          simp
        rw [(Baker.latestImage_of_found binding found).run]
        constructor
        · intro impossible
          cases impossible
        · rintro ⟨catalog, same, missing⟩
          cases same
          exact absurd missing present
  · exact ⟨CatalogStore.sigEnvironment_error unbound,
      by rw [(Baker.latestImage_of_unbound unbound).run],
      by rw [(Baker.distroCatalog_of_unbound unbound).run]⟩

/-- A selector with one gallery, for the catalogs below. -/
def ubuntuSelector : SigConfig := ⟨"", "sub", [("AKSUbuntu", ⟨"AKSUbuntuGallery", "rg"⟩)]⟩

/-- A region with no subscription or tenant named. -/
def westus : EnvironmentInfo := ⟨"westus", none, none⟩

/-- A baker whose SIG catalog has one Ubuntu image, and nothing else. -/
def ubuntuOnlyBaker : Baker :=
  ⟨⟨⟨[]⟩, ⟨[(.ubuntu, ⟨none, [(.aksUbuntuContainerd2204, ⟨"AKSUbuntu", "2204containerd", "1.0"⟩)]⟩)]⟩⟩,
    Toggles.none, TemplateLibrary.shipped⟩

theorem latestImage_agrees_on_ubuntuOnly :
    ubuntuOnlyBaker.catalogs.sig.FiledByFamily ∧
      ((ubuntuOnlyBaker.latestImage ubuntuSelector .aksUbuntuContainerd2204 westus).run.1 =
          .ok ⟨"rg", "AKSUbuntuGallery", "2204containerd", "1.0", "sub"⟩ ↔
        ∃ catalog, (ubuntuOnlyBaker.distroCatalog ubuntuSelector westus).run.1 = .ok catalog ∧
          catalog.lookup .aksUbuntuContainerd2204 =
            some ⟨"rg", "AKSUbuntuGallery", "2204containerd", "1.0", "sub"⟩) :=
  ⟨by decide, (latestImage_agrees_with_distroCatalog ubuntuOnlyBaker ubuntuSelector westus
    .aksUbuntuContainerd2204).1 (by decide) _⟩

/-- A baker whose SIG catalog lists the same Ubuntu distribution under the Ubuntu and the
CBL-Mariner families, with different definitions. -/
def twoFamilyBaker : Baker :=
  ⟨⟨⟨[]⟩, ⟨[(.ubuntu, ⟨none, [(.aksUbuntuContainerd2204, ⟨"AKSUbuntu", "2204containerd", "1.0"⟩)]⟩),
    (.cblMariner, ⟨none, [(.aksUbuntuContainerd2204, ⟨"AKSUbuntu", "2204other", "2.0"⟩)]⟩)]⟩⟩,
    Toggles.none, TemplateLibrary.shipped⟩

/-- With a distribution under two families, `latestImage` takes the first family's image
and the catalog the last one's. -/
theorem latestImage_ne_distroCatalog_of_two_families :
    (twoFamilyBaker.latestImage ubuntuSelector .aksUbuntuContainerd2204 westus).run.1 =
        .ok ⟨"rg", "AKSUbuntuGallery", "2204containerd", "1.0", "sub"⟩ ∧
      (twoFamilyBaker.distroCatalog ubuntuSelector westus).run.1 =
        .ok [(.aksUbuntuContainerd2204, ⟨"rg", "AKSUbuntuGallery", "2204other", "2.0", "sub"⟩)] ∧
      (⟨"rg", "AKSUbuntuGallery", "2204containerd", "1.0", "sub"⟩ : SigImage) ≠
        ⟨"rg", "AKSUbuntuGallery", "2204other", "2.0", "sub"⟩ :=
  ⟨rfl, rfl, by decide⟩

end NodeImage
