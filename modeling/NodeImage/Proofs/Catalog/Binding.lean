import NodeImage.Proofs.Catalog.Environment

/-!
# What binding the SIG catalog gives

`CatalogStore.sigEnvironment` binds the SIG catalog to a selector and a region. It fails
exactly when the region is empty, the selector names no subscription, or a family offered in
the region has an image whose gallery the selector lacks (`sigEnvironment_eq_error_iff`): the
images of a family the region is not offered are never looked at. Otherwise each family's
images in the bound environment are the catalog's definitions of that family, when it is
offered, each completed with its gallery (`lookup_sigEnvironment`).

A catalog read from a file is a mapping of mappings: each family once, each distribution once
within a family (`SigCatalog.Keyed`). The bound environment is then a function of that
mapping, whatever the order of the families and of their images
(`sigEnvironment_of_sameUpToOrder`).

Main statement: `sigEnvironment_binds_offered_families`.
-/

namespace NodeImage

/-! ## The catalog as a mapping -/

/-- A family is offered in a region when the regions it names, if it names any, hold one that
equals the region in lower case. -/
def SigFamily.OfferedIn (family : SigFamily) (region : String) : Prop :=
  ∀ regions ∈ family.regions, ∃ x ∈ regions, Text.lower x = Text.lower region

instance (family : SigFamily) (region : String) : Decidable (family.OfferedIn region) :=
  inferInstanceAs (Decidable (∀ regions ∈ family.regions, ∃ x ∈ regions, Text.lower x = Text.lower region))

/-- The image a definition becomes under a selector, when the selector has its gallery. -/
def SigConfig.bindDefinition (sel : SigConfig) (definition : SigDefinition) : Option SigImage :=
  (sel.galleries.lookup definition.gallery).map fun g => CatalogStore.complete sel g definition

/-- The image a SIG catalog gives a distribution of a family, bound to a selector in a region:
the family's definition of it completed with its gallery, when the family is offered in the
region. -/
def SigCatalog.imageAt (S : SigCatalog) (sel : SigConfig) (region : String) (family : OsFamily)
    (d : Distro) : Option SigImage :=
  (S.families.lookup family).bind fun entry =>
    if entry.OfferedIn region then (entry.images.lookup d).bind sel.bindDefinition else none

/-- Each family once, and each family's images naming each distribution once. -/
def SigCatalog.Keyed (S : SigCatalog) : Prop :=
  (S.families.map Prod.fst).Nodup ∧ ∀ entry ∈ S.families, (entry.2.images.map Prod.fst).Nodup

instance (S : SigCatalog) : Decidable S.Keyed :=
  inferInstanceAs (Decidable ((S.families.map Prod.fst).Nodup ∧
    ∀ entry ∈ S.families, (entry.2.images.map Prod.fst).Nodup))

/-- Two catalogs that file the same families, each with the same regions and the same images,
in any order. -/
def SigCatalog.SameUpToOrder (S S' : SigCatalog) : Prop :=
  ∀ family, Option.Rel (fun entry entry' => entry.regions = entry'.regions ∧ entry.images.Perm entry'.images)
    (S.families.lookup family) (S'.families.lookup family)

/-- Some family offered in the region has an image whose gallery the selector lacks. -/
def SigCatalog.MissesGallery (S : SigCatalog) (sel : SigConfig) (region : String) : Prop :=
  ∃ entry ∈ S.families, entry.2.OfferedIn region ∧
    ∃ image ∈ entry.2.images, sel.galleries.lookup image.2.gallery = none

theorem SigFamily.offeredIn_congr {entry entry' : SigFamily} (same : entry.regions = entry'.regions)
    (region : String) : entry.OfferedIn region ↔ entry'.OfferedIn region := by
  unfold SigFamily.OfferedIn
  rw [same]

namespace SigCatalog.SameUpToOrder

variable {S S' : SigCatalog} (same : S.SameUpToOrder S') {family : OsFamily}
include same

theorem lookup_some {entry : SigFamily} (found : S.families.lookup family = some entry) :
    ∃ entry', S'.families.lookup family = some entry' ∧
      entry.regions = entry'.regions ∧ entry.images.Perm entry'.images := by
  have related := same family
  rw [found] at related
  cases found' : S'.families.lookup family with
  | none =>
    rw [found'] at related
    cases related
  | some entry' =>
    rw [found'] at related
    cases related with
    | some holds => exact ⟨entry', rfl, holds⟩

theorem lookup_none (missing : S.families.lookup family = none) : S'.families.lookup family = none := by
  have related := same family
  rw [missing] at related
  cases found' : S'.families.lookup family with
  | none => rfl
  | some entry' =>
    rw [found'] at related
    cases related

theorem symm : S'.SameUpToOrder S := by
  intro family
  cases found : S.families.lookup family with
  | none =>
    rw [same.lookup_none found]
    exact .none
  | some entry =>
    obtain ⟨entry', found', regions, images⟩ := same.lookup_some found
    rw [found']
    exact .some ⟨regions.symm, images.symm⟩

end SigCatalog.SameUpToOrder

/-- Catalogs with the same families, regions and images give every distribution the same
image, whatever their order. -/
theorem SigCatalog.imageAt_eq_of_sameUpToOrder {S S' : SigCatalog} (keyed : S.Keyed)
    (same : S.SameUpToOrder S') (sel : SigConfig) (region : String) (family : OsFamily) (d : Distro) :
    S.imageAt sel region family d = S'.imageAt sel region family d := by
  unfold SigCatalog.imageAt
  cases found : S.families.lookup family with
  | none => rw [same.lookup_none found]
  | some entry =>
    obtain ⟨entry', found', regions, images⟩ := same.lookup_some found
    have distinct := keyed.2 (family, entry) (mem_of_lookup_eq_some found)
    simp only [found', Option.bind_some, SigFamily.offeredIn_congr regions region,
      lookup_eq_of_perm images distinct d]

/-- Catalogs with the same families, regions and images miss the same galleries. -/
theorem SigCatalog.missesGallery_of_sameUpToOrder {S S' : SigCatalog} (keyed : S.Keyed)
    (same : S.SameUpToOrder S') {sel : SigConfig} {region : String} :
    S.MissesGallery sel region → S'.MissesGallery sel region := by
  rintro ⟨⟨family, entry⟩, member, offered, image, inFamily, missing⟩
  obtain ⟨entry', found', regions, images⟩ := same.lookup_some ((lookup_eq_some_iff_mem keyed.1).mpr member)
  exact ⟨(family, entry'), mem_of_lookup_eq_some found', (SigFamily.offeredIn_congr regions region).mp offered,
    image, images.mem_iff.mp inFamily, missing⟩

namespace CatalogStore

/-! ## One family -/

theorem offeredIn_str_eq (family : SigFamily) (region : String) :
    offeredIn family (.str region) = .ok (decide (family.OfferedIn region)) := by
  obtain ⟨regions, images⟩ := family
  unfold offeredIn SigFamily.OfferedIn
  cases regions with
  | none => simp
  | some regions =>
    rw [Except.ok.injEq, Bool.eq_iff_iff]
    simp [List.any_eq_true]

/-- Binding a family's images succeeds when the selector has the gallery of every one. -/
theorem bindFamily_ok_of_galleries {sel : SigConfig} {region : Value} :
    ∀ {images : List (Distro × SigDefinition)},
      (∀ image ∈ images, (sel.galleries.lookup image.2.gallery).isSome) →
        ∃ bound, bindFamily sel region images = .ok bound
  | [], _ => ⟨[], rfl⟩
  | (d, definition) :: images, galleries => by
    obtain ⟨g, found⟩ := Option.isSome_iff_exists.mp (galleries (d, definition) List.mem_cons_self)
    obtain ⟨bound, rest⟩ := bindFamily_ok_of_galleries fun image member =>
      galleries image (List.mem_cons_of_mem _ member)
    refine ⟨(d, complete sel g definition) :: bound, ?_⟩
    rw [bindFamily_cons_of_gallery found, rest]
    rfl

/-- Binding a family's images fails when the selector lacks the gallery of one of them. -/
theorem bindFamily_error_of_missing {sel : SigConfig} {region : Value} {image : Distro × SigDefinition}
    (missing : sel.galleries.lookup image.2.gallery = none) :
    ∀ {images : List (Distro × SigDefinition)}, image ∈ images → ∃ f, bindFamily sel region images = .error f
  | (d, definition) :: images, member => by
    cases gallery : sel.galleries.lookup definition.gallery with
    | none => exact ⟨_, bindFamily_cons_of_missing gallery⟩
    | some g =>
      rcases List.mem_cons.mp member with rfl | later
      · cases missing.symm.trans gallery
      · obtain ⟨f, rest⟩ := bindFamily_error_of_missing missing later
        rw [bindFamily_cons_of_gallery gallery, rest]
        exact ⟨f, rfl⟩

/-- A bound family gives each distribution its definition completed with its gallery. -/
theorem lookup_bindFamily {sel : SigConfig} {region : Value} (d : Distro) :
    ∀ {images : List (Distro × SigDefinition)} {bound : List (Distro × SigImage)},
      bindFamily sel region images = .ok bound → bound.lookup d = (images.lookup d).bind sel.bindDefinition
  | [], bound, done => by
    cases done
    rfl
  | (d', definition) :: images, bound, done => by
    cases gallery : sel.galleries.lookup definition.gallery with
    | none =>
      rw [bindFamily_cons_of_missing gallery] at done
      cases done
    | some g =>
      rw [bindFamily_cons_of_gallery gallery] at done
      cases rest : bindFamily sel region images with
      | error f =>
        rw [rest] at done
        cases done
      | ok boundRest =>
        rw [rest] at done
        cases done
        by_cases hit : d = d'
        · subst hit
          simp [SigConfig.bindDefinition, gallery]
        · simp [lookup_cons_ite, hit, lookup_bindFamily d rest]

/-! ## One step and the whole fold -/

theorem bindEntry_of_offered {sel : SigConfig} {region : String} {env : SigEnvironment}
    {family : OsFamily} {entry : SigFamily} (offered : entry.OfferedIn region) :
    bindEntry sel (.str region) env (family, entry) =
      withFamily env family <$> bindFamily sel (.str region) entry.images := by
  unfold bindEntry
  rw [offeredIn_str_eq]
  simp only [decide_eq_true offered]
  cases bindFamily sel (.str region) entry.images <;> rfl

theorem bindEntry_of_not_offered {sel : SigConfig} {region : String} {env : SigEnvironment}
    {family : OsFamily} {entry : SigFamily} (skipped : ¬ entry.OfferedIn region) :
    bindEntry sel (.str region) env (family, entry) = .ok env := by
  unfold bindEntry
  rw [offeredIn_str_eq]
  simp only [decide_eq_false skipped]
  rfl

/-- What one family does to an environment: an offered family's images replace that family's
images, each bound with its gallery; any other family leaves the environment as it is. -/
theorem lookup_bindEntry {sel : SigConfig} {region : String} {start next : SigEnvironment}
    {family : OsFamily} {entry : SigFamily}
    (step : bindEntry sel (.str region) start (family, entry) = .ok next) (other : OsFamily) (d : Distro) :
    (next.catalog other).lookup d =
      if other = family ∧ entry.OfferedIn region then (entry.images.lookup d).bind sel.bindDefinition
      else (start.catalog other).lookup d := by
  by_cases offered : entry.OfferedIn region
  · rw [bindEntry_of_offered offered] at step
    cases binding : bindFamily sel (.str region) entry.images with
    | error f =>
      rw [binding] at step
      cases step
    | ok bound =>
      rw [binding] at step
      cases step
      by_cases same : other = family
      · simp [same, offered, lookup_bindFamily d binding]
      · simp [same]
  · rw [bindEntry_of_not_offered offered] at step
    cases step
    simp [offered]

/-- Folding a list of families, each named once, into an environment: a family of the list
that is offered holds its bound images, and every other family keeps the images it had. -/
theorem lookup_foldlM_bindEntry {sel : SigConfig} {region : String} :
    ∀ {families : List (OsFamily × SigFamily)} {start env : SigEnvironment},
      (families.map Prod.fst).Nodup → families.foldlM (bindEntry sel (.str region)) start = .ok env →
      ∀ family d, (env.catalog family).lookup d =
        match families.lookup family with
        | some entry =>
          if entry.OfferedIn region then (entry.images.lookup d).bind sel.bindDefinition
          else (start.catalog family).lookup d
        | none => (start.catalog family).lookup d
  | [], start, env, _, done, family, d => by
    cases done
    rfl
  | (family', entry') :: families, start, env, distinct, done, family, d => by
    rw [List.foldlM_cons] at done
    obtain ⟨next, first, rest⟩ := bind_eq_ok_iff.mp done
    have fresh : family' ∉ families.map Prod.fst := (List.nodup_cons.mp distinct).1
    rw [lookup_foldlM_bindEntry (List.nodup_cons.mp distinct).2 rest family d]
    -- the later families do not name `family'`, so its images are the ones the first step left
    by_cases same : family = family'
    · subst same
      have later : families.lookup family = none := lookup_eq_none_iff_not_mem.mpr fresh
      by_cases offered : entry'.OfferedIn region <;>
        simp [later, lookup_bindEntry first, offered]
    · rw [lookup_cons_ite, if_neg same]
      cases families.lookup family <;> simp [same, lookup_bindEntry first]

@[simp] theorem catalog_empty (family : OsFamily) : SigEnvironment.empty.catalog family = [] := by
  cases family <;> rfl

/-! ## The bound environment -/

/-- A bound environment names the cloud of its region. -/
theorem sigEnvironment_cloudName {s : CatalogStore} {sel : SigConfig} {region : String}
    {env : SigEnvironment} (bound : s.sigEnvironment sel region = .ok env) :
    env.cloudName = (Cloud.ofRegion region).name := by
  rw [sigEnvironment_eq] at bound
  split at bound
  · cases bound
  split at bound
  · cases bound
  obtain ⟨folded, -, named⟩ := bind_eq_ok_iff.mp bound
  obtain rfl := Except.ok.inj named
  rfl

/-- In a catalog that names each family once, a bound environment holds exactly the images
the catalog gives its distributions in the region. -/
theorem lookup_sigEnvironment {s : CatalogStore} {sel : SigConfig} {region : String}
    {env : SigEnvironment} (distinct : (s.sig.families.map Prod.fst).Nodup)
    (bound : s.sigEnvironment sel region = .ok env) (family : OsFamily) (d : Distro) :
    (env.catalog family).lookup d = s.sig.imageAt sel region family d := by
  rw [sigEnvironment_eq] at bound
  split at bound
  · cases bound
  split at bound
  · cases bound
  obtain ⟨folded, binding, named⟩ := bind_eq_ok_iff.mp bound
  obtain rfl := Except.ok.inj named
  rw [catalog_withCloudName, lookup_foldlM_bindEntry distinct binding family d, SigCatalog.imageAt]
  cases s.sig.families.lookup family with
  | none => simp
  | some entry => by_cases offered : entry.OfferedIn region <;> simp [offered]

/-- Binding fails exactly for an empty region, a selector without a subscription, or a gallery
missing for an image of an offered family. -/
theorem sigEnvironment_eq_error_iff {s : CatalogStore} {sel : SigConfig} {region : String} :
    (∃ f, s.sigEnvironment sel region = .error f) ↔
      region = "" ∨ sel.subscriptionId = "" ∨ s.sig.MissesGallery sel region := by
  rw [sigEnvironment_eq]
  by_cases noRegion : region = ""
  · simp [noRegion]
  by_cases noSubscription : sel.subscriptionId = ""
  · simp [noRegion, noSubscription]
  simp only [noRegion, noSubscription, if_false, false_or]
  constructor
  · -- when no offered family misses a gallery, every step of the fold succeeds
    intro failed
    refine Classical.byContradiction fun complete => ?_
    have steps : ∀ acc entry, entry ∈ s.sig.families →
        ∃ next, bindEntry sel (.str region) acc entry = .ok next := by
      rintro acc ⟨family, entry⟩ member
      by_cases offered : entry.OfferedIn region
      · have galleries : ∀ image ∈ entry.images, (sel.galleries.lookup image.2.gallery).isSome := by
          intro image inFamily
          rw [Option.isSome_iff_ne_none]
          exact fun missing => complete ⟨(family, entry), member, offered, image, inFamily, missing⟩
        have bound : ∃ bound, bindFamily sel (.str region) entry.images = .ok bound :=
          bindFamily_ok_of_galleries galleries
        obtain ⟨bound, binding⟩ := bound
        rw [bindEntry_of_offered offered, binding]
        exact ⟨_, rfl⟩
      · exact ⟨acc, bindEntry_of_not_offered offered⟩
    obtain ⟨folded, binding⟩ := foldlM_ok_of_steps s.sig.families steps SigEnvironment.empty
    obtain ⟨f, mapped⟩ := failed
    rw [binding] at mapped
    cases mapped
  · rintro ⟨⟨family, entry⟩, member, offered, image, inFamily, missing⟩
    have failing : ∀ acc, ∃ f, bindEntry sel (.str region) acc (family, entry) = .error f := by
      intro acc
      have failed : ∃ f, bindFamily sel (.str region) entry.images = .error f :=
        bindFamily_error_of_missing missing inFamily
      obtain ⟨f, binding⟩ := failed
      rw [bindEntry_of_offered offered, binding]
      exact ⟨f, rfl⟩
    obtain ⟨f, failed⟩ := foldlM_error_of_mem failing s.sig.families member SigEnvironment.empty
    rw [failed]
    exact ⟨f, rfl⟩

/-- A bound environment misses no gallery of an offered family. -/
theorem not_missesGallery_of_sigEnvironment {s : CatalogStore} {sel : SigConfig} {region : String}
    {env : SigEnvironment} (bound : s.sigEnvironment sel region = .ok env) :
    ¬ s.sig.MissesGallery sel region := by
  intro misses
  obtain ⟨f, failed⟩ := sigEnvironment_eq_error_iff.mpr (.inr (.inr misses))
  rw [bound] at failed
  cases failed

/-- In a catalog that names each family once, a bound environment holds a distribution under
a family exactly when the family is offered in the region and defines it. -/
theorem mem_keys_sigEnvironment {s : CatalogStore} {sel : SigConfig} {region : String}
    {env : SigEnvironment} (distinct : (s.sig.families.map Prod.fst).Nodup)
    (bound : s.sigEnvironment sel region = .ok env) (family : OsFamily) (d : Distro) :
    d ∈ (env.catalog family).map Prod.fst ↔
      ∃ entry, s.sig.families.lookup family = some entry ∧ entry.OfferedIn region ∧
        d ∈ entry.images.map Prod.fst := by
  rw [← lookup_isSome_iff_mem, lookup_sigEnvironment distinct bound, SigCatalog.imageAt]
  cases found : s.sig.families.lookup family with
  | none => simp
  | some entry =>
    by_cases offered : entry.OfferedIn region
    · have present : ((entry.images.lookup d).bind sel.bindDefinition).isSome = true ↔
          d ∈ entry.images.map Prod.fst := by
        cases defined : entry.images.lookup d with
        | none =>
          simp only [Option.bind_none, Option.isSome_none, Bool.false_eq_true, false_iff]
          exact lookup_eq_none_iff_not_mem.mp defined
        | some definition =>
          -- the selector has the gallery, or binding would have failed
          have member : (d, definition) ∈ entry.images := mem_of_lookup_eq_some defined
          have gallery : (sel.galleries.lookup definition.gallery).isSome := by
            rw [Option.isSome_iff_ne_none]
            exact fun missing => not_missesGallery_of_sigEnvironment bound
              ⟨(family, entry), mem_of_lookup_eq_some found, offered, (d, definition), member, missing⟩
          have named : d ∈ entry.images.map Prod.fst := List.mem_map.mpr ⟨(d, definition), member, rfl⟩
          simp [SigConfig.bindDefinition, gallery, named]
      rw [Option.bind_some, if_pos offered, present]
      exact ⟨fun named => ⟨entry, rfl, offered, named⟩, fun ⟨_, same, _, named⟩ => by
        cases same
        exact named⟩
    · simp [offered]

/-- In a catalog that names each family once, a bound environment gives a distribution of an
offered family its definition completed with the gallery and the selector's subscription. -/
theorem lookup_sigEnvironment_eq_some_iff {s : CatalogStore} {sel : SigConfig} {region : String}
    {env : SigEnvironment} (distinct : (s.sig.families.map Prod.fst).Nodup)
    (bound : s.sigEnvironment sel region = .ok env) (family : OsFamily) (d : Distro) (image : SigImage) :
    (env.catalog family).lookup d = some image ↔
      ∃ entry definition g, s.sig.families.lookup family = some entry ∧ entry.OfferedIn region ∧
        entry.images.lookup d = some definition ∧ sel.galleries.lookup definition.gallery = some g ∧
        image = ⟨g.resourceGroup, g.galleryName, definition.definition, definition.version,
          sel.subscriptionId⟩ := by
  rw [lookup_sigEnvironment distinct bound, SigCatalog.imageAt]
  cases found : s.sig.families.lookup family with
  | none => simp
  | some entry =>
    by_cases offered : entry.OfferedIn region
    · rw [Option.bind_some, if_pos offered, Option.bind_eq_some_iff]
      constructor
      · rintro ⟨definition, defined, completed⟩
        unfold SigConfig.bindDefinition at completed
        obtain ⟨g, gallery, rfl⟩ := Option.map_eq_some_iff.mp completed
        exact ⟨entry, definition, g, rfl, offered, defined, gallery, rfl⟩
      · rintro ⟨_, definition, g, same, -, defined, gallery, rfl⟩
        cases same
        refine ⟨definition, defined, ?_⟩
        simp [SigConfig.bindDefinition, gallery, complete]
    · simp [offered]

/-- Binding two catalogs that differ only in the order of their families and images succeeds
for both or for neither, with environments that give every distribution the same image. -/
theorem sigEnvironment_of_sameUpToOrder {s s' : CatalogStore} (keyed : s.sig.Keyed) (keyed' : s'.sig.Keyed)
    (same : s.sig.SameUpToOrder s'.sig) (sel : SigConfig) (region : String) :
    ((∃ env, s.sigEnvironment sel region = .ok env) ↔ ∃ env', s'.sigEnvironment sel region = .ok env') ∧
    ∀ env env', s.sigEnvironment sel region = .ok env → s'.sigEnvironment sel region = .ok env' →
      env.cloudName = env'.cloudName ∧ ∀ family d, (env.catalog family).lookup d = (env'.catalog family).lookup d := by
  have succeeds : ∀ t : CatalogStore,
      (∃ env, t.sigEnvironment sel region = .ok env) ↔ ¬ ∃ f, t.sigEnvironment sel region = .error f := by
    intro t
    cases t.sigEnvironment sel region <;> simp
  refine ⟨?_, fun env env' bound bound' => ⟨?_, fun family d => ?_⟩⟩
  · rw [succeeds, succeeds, sigEnvironment_eq_error_iff, sigEnvironment_eq_error_iff]
    have misses : s.sig.MissesGallery sel region → s'.sig.MissesGallery sel region :=
      SigCatalog.missesGallery_of_sameUpToOrder keyed same
    have misses' : s'.sig.MissesGallery sel region → s.sig.MissesGallery sel region :=
      SigCatalog.missesGallery_of_sameUpToOrder keyed' same.symm
    exact not_congr (or_congr_right (or_congr_right ⟨misses, misses'⟩))
  · rw [sigEnvironment_cloudName bound, sigEnvironment_cloudName bound']
  · rw [lookup_sigEnvironment keyed.1 bound, lookup_sigEnvironment keyed'.1 bound',
      SigCatalog.imageAt_eq_of_sameUpToOrder keyed same]

end CatalogStore

/-- Binding the SIG catalog to a selector and a region. It fails exactly when the region is
empty, the selector names no subscription, or a family offered in the region has an image whose
gallery the selector lacks; a family not offered there is never looked at. It then fails with a
SIG resolution error naming the region. Otherwise the environment names the region's cloud.
When the catalog names each family once, a family's images hold a distribution exactly when
the family is offered in the region and defines the distribution, and then hold the definition
completed with its gallery and the selector's subscription. For catalogs that are mappings of
mappings, the result does not depend on the order of the families or of their images. -/
theorem sigEnvironment_binds_offered_families (s : CatalogStore) (sel : SigConfig) (region : String) :
    ((∃ f, s.sigEnvironment sel region = .error f) ↔
      region = "" ∨ sel.subscriptionId = "" ∨
        ∃ entry ∈ s.sig.families, entry.2.OfferedIn region ∧
          ∃ image ∈ entry.2.images, sel.galleries.lookup image.2.gallery = none) ∧
    (∀ f, s.sigEnvironment sel region = .error f → ∃ message, f = .sigResolution message (.str region)) ∧
    (∀ env, s.sigEnvironment sel region = .ok env → env.cloudName = (Cloud.ofRegion region).name) ∧
    ((s.sig.families.map Prod.fst).Nodup → ∀ env, s.sigEnvironment sel region = .ok env →
      (∀ family d, d ∈ (env.catalog family).map Prod.fst ↔
        ∃ entry, s.sig.families.lookup family = some entry ∧ entry.OfferedIn region ∧
          d ∈ entry.images.map Prod.fst) ∧
      ∀ family d image, (env.catalog family).lookup d = some image ↔
        ∃ entry definition g, s.sig.families.lookup family = some entry ∧ entry.OfferedIn region ∧
          entry.images.lookup d = some definition ∧ sel.galleries.lookup definition.gallery = some g ∧
          image = ⟨g.resourceGroup, g.galleryName, definition.definition, definition.version,
            sel.subscriptionId⟩) ∧
    (∀ s' : CatalogStore, s.sig.Keyed → s'.sig.Keyed → s.sig.SameUpToOrder s'.sig →
      ((∃ env, s.sigEnvironment sel region = .ok env) ↔ ∃ env', s'.sigEnvironment sel region = .ok env') ∧
      ∀ env env', s.sigEnvironment sel region = .ok env → s'.sigEnvironment sel region = .ok env' →
        env.cloudName = env'.cloudName ∧
        ∀ family d, (env.catalog family).lookup d = (env'.catalog family).lookup d) :=
  ⟨CatalogStore.sigEnvironment_eq_error_iff,
    fun _ failed => CatalogStore.sigEnvironment_error failed,
    fun _ bound => CatalogStore.sigEnvironment_cloudName bound,
    fun distinct _ bound => ⟨CatalogStore.mem_keys_sigEnvironment distinct bound,
      CatalogStore.lookup_sigEnvironment_eq_some_iff distinct bound⟩,
    fun _ keyed keyed' same => CatalogStore.sigEnvironment_of_sameUpToOrder keyed keyed' same sel region⟩

/-- Shipped-like catalogs with an Ubuntu image offered everywhere and a Windows image offered
in no region, whose gallery no selector below has. -/
def ubuntuEverywhereCatalogs : CatalogStore :=
  ⟨⟨[]⟩, ⟨[(.ubuntu, ⟨none, [(.aksUbuntuContainerd2204, ⟨"AKSUbuntu", "2204containerd", "1.0"⟩)]⟩),
    (.windows, ⟨some [], [(.aksWindows2022Containerd, ⟨"AKSWindows", "2022containerd", "2.0"⟩)]⟩)]⟩⟩

/-- A selector with the Ubuntu gallery only. -/
def ubuntuGallerySelector : SigConfig := ⟨"", "sub", [("AKSUbuntu", ⟨"AKSUbuntuGallery", "rg"⟩)]⟩

/-- Binding in `westus` gives the Ubuntu image its gallery and leaves out the Windows family,
whose gallery the selector lacks. -/
theorem sigEnvironment_skips_unoffered_gallery :
    (ubuntuEverywhereCatalogs.sig.families.map Prod.fst).Nodup ∧
      ∃ env, ubuntuEverywhereCatalogs.sigEnvironment ubuntuGallerySelector "westus" = .ok env ∧
        (env.catalog .ubuntu).lookup .aksUbuntuContainerd2204 =
          some ⟨"rg", "AKSUbuntuGallery", "2204containerd", "1.0", "sub"⟩ ∧
        .aksWindows2022Containerd ∉ (env.catalog .windows).map Prod.fst := by
  have distinct : (ubuntuEverywhereCatalogs.sig.families.map Prod.fst).Nodup := by decide
  have bound : ubuntuEverywhereCatalogs.sigEnvironment ubuntuGallerySelector "westus" =
      .ok ⟨(Cloud.ofRegion "westus").name,
        [(.aksUbuntuContainerd2204, ⟨"rg", "AKSUbuntuGallery", "2204containerd", "1.0", "sub"⟩)],
        [], [], [], []⟩ := rfl
  obtain ⟨keys, images⟩ :=
    (sigEnvironment_binds_offered_families ubuntuEverywhereCatalogs ubuntuGallerySelector "westus").2.2.2.1
      distinct _ bound
  refine ⟨distinct, _, bound, (images _ _ _).mpr ?_, ?_⟩
  · -- the Ubuntu family names no regions, so it is offered everywhere
    exact ⟨_, _, _, rfl, fun _ named => (by cases named), rfl, rfl, rfl⟩
  · rw [keys]
    rintro ⟨entry, found, offered, -⟩
    cases found
    obtain ⟨x, listed, -⟩ := offered [] rfl
    cases listed

end NodeImage
