import NodeImage.Proofs.Bake.Resolution

/-! # Assembling a node's bootstrap

`Baker.bootstrap` checks, in this order: the custom data renders, the command renders, the
distribution is a customized one (and then nothing else is looked at), the cloud has legacy
images, the region's gallery environment can be bound, and the distribution is found among
the legacy images or the gallery images. One lemma per outcome gives what the bootstrap
returns and records (`bootstrap_of_*`). `BootstrapOutcome` states the outcomes as rules in the
words of the catalogs, and `bootstrap_outcome_iff` shows that the bootstrap returns exactly
what the rules allow.

The gallery image of a bootstrap is then compared with `latestImage` for the environment the
configuration describes: they agree whenever the toggles look only at the subscription, the
tenant and the region, on a Linux node (`bootstrap_sigImage_of_latestImage`).
-/

namespace NodeImage

namespace Baker

/-- The gallery image a bootstrap boots from: pinned by the overrides of the configuration
unless the node or its distribution is a Windows one. -/
def bootImage (b : Baker) (c : NodeConfig) (image : SigImage) : SigImage :=
  if !c.isWindows && !c.agentPool.distro.isWindows then
    overrideVersion image c.agentPool.distro (b.toggles.imageVersions (Entity.ofConfig c))
  else image

/-- The override a bootstrap records for the gallery image it found, if any. -/
def bootOverrideEvents (b : Baker) (c : NodeConfig) : Option SigImage → List Event
  | some image =>
    if !c.isWindows && !c.agentPool.distro.isWindows then
      overrideEvents .bootstrap image c.agentPool.distro (b.toggles.imageVersions (Entity.ofConfig c))
    else []
  | none => []

variable {b : Baker} {host : Host} {c : NodeConfig} {data command : String}

/-! ## One lemma per outcome -/

theorem bootstrap_of_data_error {f : Fault} (failed : customData host b.templates c = .error f) :
    (b.bootstrap host c).Yields (.error f) [⟨.bootstrap, .failed f.message⟩] := by
  unfold bootstrap
  apply BakeM.Yields.reportingFailure_error []
  rw [failed]
  exact (BakeM.Yields.lift _).bind_error

section Rendered

variable (rendered : customData host b.templates c = .ok data)
include rendered

theorem bootstrap_of_command_error {f : Fault}
    (failed : bootstrapCommand host b.templates c = .error f) :
    (b.bootstrap host c).Yields (.error f) [⟨.bootstrap, .failed f.message⟩] := by
  unfold bootstrap
  apply BakeM.Yields.reportingFailure_error []
  rw [rendered, failed]
  exact (BakeM.Yields.lift _).bind (BakeM.Yields.lift _).bind_error

variable (commanded : bootstrapCommand host b.templates c = .ok command)
include commanded

/-- A customized distribution is booted as it is: nothing but the two renders is looked at. -/
theorem bootstrap_of_customized (customized : c.agentPool.distro.isCustomized = true) :
    (b.bootstrap host c).Yields (.ok ⟨data, command, none, none⟩)
      [⟨.bootstrap, .bootstrapResolved c.agentPool.distro.value true⟩] := by
  unfold bootstrap
  apply BakeM.Yields.reportingFailure_ok
  rw [rendered, commanded]
  refine (BakeM.Yields.lift _).bind ((BakeM.Yields.lift _).bind ?_)
  simp only [customized, if_true]
  exact (BakeM.Yields.emit _).bind (BakeM.Yields.pure _)

variable (plain : c.agentPool.distro.isCustomized = false)
include plain

theorem bootstrap_of_unknown_cloud {f : Fault} (unknown : b.catalogs.cloudImages c.cloudName = .error f) :
    (b.bootstrap host c).Yields (.error f) [⟨.bootstrap, .failed f.message⟩] := by
  unfold bootstrap
  apply BakeM.Yields.reportingFailure_error []
  rw [rendered, commanded]
  refine (BakeM.Yields.lift _).bind ((BakeM.Yields.lift _).bind ?_)
  simp only [plain, Bool.false_eq_true, if_false, unknown]
  exact (BakeM.Yields.lift _).bind_error

variable {images : List (Distro × LegacyImage)} (known : b.catalogs.cloudImages c.cloudName = .ok images)
include known

theorem bootstrap_of_unbound {f : Fault}
    (unbound : b.catalogs.sigEnvironment c.sig c.service.location = .error f) :
    (b.bootstrap host c).Yields (.error f) [⟨.bootstrap, .failed f.message⟩] := by
  unfold bootstrap
  apply BakeM.Yields.reportingFailure_error []
  rw [rendered, commanded]
  refine (BakeM.Yields.lift _).bind ((BakeM.Yields.lift _).bind ?_)
  simp only [plain, Bool.false_eq_true, if_false, known, unbound]
  exact (BakeM.Yields.lift _).bind (BakeM.Yields.lift _).bind_error

variable {env : SigEnvironment} (bound : b.catalogs.sigEnvironment c.sig c.service.location = .ok env)
include bound

theorem bootstrap_of_missing (legacyMissing : images.lookup c.agentPool.distro = none)
    (sigMissing : env.find c.agentPool.distro = none) :
    (b.bootstrap host c).Yields (.error (.imageNotFound c.agentPool.distro.value c.service.location))
      [⟨.bootstrap, .failed (Fault.imageNotFound c.agentPool.distro.value c.service.location).message⟩] := by
  unfold bootstrap
  apply BakeM.Yields.reportingFailure_error []
  rw [rendered, commanded]
  refine (BakeM.Yields.lift _).bind ((BakeM.Yields.lift _).bind ?_)
  simp only [plain, Bool.false_eq_true, if_false, known, bound]
  refine (BakeM.Yields.lift _).bind ((BakeM.Yields.lift _).bind ?_)
  simp only [legacyMissing, sigMissing, Option.isNone_none, Bool.and_self, if_true]
  exact (BakeM.Yields.throw _).bind_error

/-- A distribution found among the legacy images or the gallery images boots from both
lookups, the gallery image pinned by `bootImage`. -/
theorem bootstrap_of_resolved
    (present : (images.lookup c.agentPool.distro).isSome ∨ (env.find c.agentPool.distro).isSome) :
    (b.bootstrap host c).Yields
      (.ok ⟨data, command, images.lookup c.agentPool.distro,
        (env.find c.agentPool.distro).map (bootImage b c)⟩)
      (bootOverrideEvents b c (env.find c.agentPool.distro) ++
        [⟨.bootstrap, .imageResolved c.agentPool.distro.value c.service.location
            (((env.find c.agentPool.distro).map (bootImage b c)).map (·.resourceId))⟩,
          ⟨.bootstrap, .bootstrapResolved c.agentPool.distro.value false⟩]) := by
  have kept : ((env.find c.agentPool.distro).isNone && (images.lookup c.agentPool.distro).isNone) = false := by
    rcases present with legacy | sig
    · simp [← Option.not_isSome, legacy]
    · simp [← Option.not_isSome, sig]
  unfold bootstrap
  apply BakeM.Yields.reportingFailure_ok
  rw [rendered, commanded]
  refine (BakeM.Yields.lift _).bind ((BakeM.Yields.lift _).bind ?_)
  simp only [plain, Bool.false_eq_true, if_false, known, bound]
  refine (BakeM.Yields.lift _).bind ((BakeM.Yields.lift _).bind ?_)
  simp only [kept, Bool.false_eq_true, if_false]
  -- the gallery image, pinned or not, then the two events
  have finish : ∀ sig : Option SigImage, BakeM.Yields
      (do
        BakeM.emit ⟨.bootstrap, .imageResolved c.agentPool.distro.value c.service.location
          (sig.map (·.resourceId))⟩
        BakeM.emit ⟨.bootstrap, .bootstrapResolved c.agentPool.distro.value false⟩
        pure (⟨data, command, images.lookup c.agentPool.distro, sig⟩ : Bootstrap) : BakeM Bootstrap)
      (.ok ⟨data, command, images.lookup c.agentPool.distro, sig⟩)
      [⟨.bootstrap, .imageResolved c.agentPool.distro.value c.service.location
          (sig.map (·.resourceId))⟩,
        ⟨.bootstrap, .bootstrapResolved c.agentPool.distro.value false⟩] :=
    fun sig => (BakeM.Yields.emit _).bind ((BakeM.Yields.emit _).bind
      (BakeM.Yields.pure (⟨data, command, images.lookup c.agentPool.distro, sig⟩ : Bootstrap)))
  cases found : env.find c.agentPool.distro with
  | none => exact (BakeM.Yields.pure _).bind (finish none)
  | some image =>
    by_cases pinned : (!c.isWindows && !c.agentPool.distro.isWindows) = true
    · simp only [bootOverrideEvents, bootImage, pinned, if_true, Option.map_some]
      exact (overrideImage_yields _ _ _ _).map.bind (finish _)
    · simp only [bootOverrideEvents, bootImage, pinned, Bool.false_eq_true, if_false, Option.map_some]
      exact (BakeM.Yields.pure _).bind (finish _)

end Rendered

/-- A customized distribution is booted alike by every baker with the same templates, whatever
its catalogs and toggles hold. -/
theorem bootstrap_customized_of_templates {b' : Baker}
    (customized : c.agentPool.distro.isCustomized = true) (same : b'.templates = b.templates) :
    (b'.bootstrap host c).run = (b.bootstrap host c).run := by
  cases rendered : customData host b.templates c with
  | error f =>
    have rendered' : customData host b'.templates c = .error f := by rw [same, rendered]
    rw [(bootstrap_of_data_error rendered).run, (bootstrap_of_data_error rendered').run]
  | ok data =>
    have rendered' : customData host b'.templates c = .ok data := by rw [same, rendered]
    cases commanded : bootstrapCommand host b.templates c with
    | error f =>
      have commanded' : bootstrapCommand host b'.templates c = .error f := by rw [same, commanded]
      rw [(bootstrap_of_command_error rendered commanded).run,
        (bootstrap_of_command_error rendered' commanded').run]
    | ok command =>
      have commanded' : bootstrapCommand host b'.templates c = .ok command := by rw [same, commanded]
      rw [(bootstrap_of_customized rendered commanded customized).run,
        (bootstrap_of_customized rendered' commanded' customized).run]

end Baker

/-! ## Rendering failures -/

/-- How a render fails: as a missing template or a template error while rendering, both
reported as such, or with the error the loader or the renderer met, unchanged. -/
theorem TemplateLibrary.render_error {host : Host} {lib : TemplateLibrary} {name : String}
    {setup : Template.HeapM (List (String × Template.Datum))} {f : Fault}
    (failed : lib.render host name setup = .error f) :
    (f = .templateMissing name ∨ ∃ kind message, f = .templateFailed name kind message) ∨
      (∃ kind message cause, f = .templateUnloadable kind message cause) ∨
      ∃ kind message, f = .uncaught kind message := by
  unfold TemplateLibrary.render at failed
  dsimp only at failed
  split at failed
  · exact .inl (.inl (Except.error.inj failed).symm)
  · exact .inr (.inl ⟨_, _, _, (Except.error.inj failed).symm⟩)
  · split at failed
    · cases failed
    · split at failed
      · exact .inl (.inr ⟨_, _, (Except.error.inj failed).symm⟩)
      · exact .inr (.inr ⟨_, _, (Except.error.inj failed).symm⟩)

/-! ## The outcomes as rules -/

theorem SigEnvironment.find_isSome_iff {env : SigEnvironment} {d : Distro} :
    (env.find d).isSome ↔ ∃ family, d ∈ (env.catalog family).map Prod.fst := by
  rw [Option.isSome_iff_ne_none, Ne, SigEnvironment.find_eq_none_iff, Classical.not_forall]
  simp only [Decidable.not_not]

/-- What assembling a node's bootstrap gives, one rule per outcome, in the order of the
checks: a render that fails, a customized distribution, a cloud without legacy images, a
region whose gallery environment cannot be bound, a distribution found nowhere, and a
distribution found among the legacy or the gallery images. -/
inductive BootstrapOutcome (b : Baker) (host : Host) (c : NodeConfig) :
    Except Fault Bootstrap → Prop
  | dataFailed {f : Fault} :
    customData host b.templates c = .error f → BootstrapOutcome b host c (.error f)
  | commandFailed {data : String} {f : Fault} :
    customData host b.templates c = .ok data → bootstrapCommand host b.templates c = .error f →
    BootstrapOutcome b host c (.error f)
  | customized {data command : String} :
    customData host b.templates c = .ok data → bootstrapCommand host b.templates c = .ok command →
    c.agentPool.distro.isCustomized = true →
    BootstrapOutcome b host c (.ok ⟨data, command, none, none⟩)
  | unknownCloud {data command : String} :
    customData host b.templates c = .ok data → bootstrapCommand host b.templates c = .ok command →
    c.agentPool.distro.isCustomized = false →
    c.cloudName ∉ b.catalogs.legacy.clouds.map Prod.fst →
    BootstrapOutcome b host c (.error (.unknownCloud c.cloudName))
  | unbound {data command : String} {images : List (Distro × LegacyImage)} {f : Fault} :
    customData host b.templates c = .ok data → bootstrapCommand host b.templates c = .ok command →
    c.agentPool.distro.isCustomized = false →
    b.catalogs.legacy.clouds.lookup c.cloudName = some images →
    b.catalogs.sigEnvironment c.sig c.service.location = .error f →
    BootstrapOutcome b host c (.error f)
  | notFound {data command : String} {images : List (Distro × LegacyImage)} {env : SigEnvironment} :
    customData host b.templates c = .ok data → bootstrapCommand host b.templates c = .ok command →
    c.agentPool.distro.isCustomized = false →
    b.catalogs.legacy.clouds.lookup c.cloudName = some images →
    b.catalogs.sigEnvironment c.sig c.service.location = .ok env →
    c.agentPool.distro ∉ images.map Prod.fst →
    (∀ family, c.agentPool.distro ∉ (env.catalog family).map Prod.fst) →
    BootstrapOutcome b host c (.error (.imageNotFound c.agentPool.distro.value c.service.location))
  | resolved {data command : String} {images : List (Distro × LegacyImage)} {env : SigEnvironment} :
    customData host b.templates c = .ok data → bootstrapCommand host b.templates c = .ok command →
    c.agentPool.distro.isCustomized = false →
    b.catalogs.legacy.clouds.lookup c.cloudName = some images →
    b.catalogs.sigEnvironment c.sig c.service.location = .ok env →
    c.agentPool.distro ∈ images.map Prod.fst ∨
      (∃ family, c.agentPool.distro ∈ (env.catalog family).map Prod.fst) →
    BootstrapOutcome b host c (.ok ⟨data, command, images.lookup c.agentPool.distro,
      (env.find c.agentPool.distro).map (Baker.bootImage b c)⟩)

namespace BootstrapOutcome

variable {b : Baker} {host : Host} {c : NodeConfig}

/-- The bootstrap's result follows one of the rules. -/
theorem of_bootstrap (b : Baker) (host : Host) (c : NodeConfig) :
    BootstrapOutcome b host c (b.bootstrap host c).run.1 := by
  cases rendered : customData host b.templates c with
  | error f =>
    rw [(Baker.bootstrap_of_data_error rendered).run]
    exact .dataFailed rendered
  | ok data =>
  cases commanded : bootstrapCommand host b.templates c with
  | error f =>
    rw [(Baker.bootstrap_of_command_error rendered commanded).run]
    exact .commandFailed rendered commanded
  | ok command =>
  cases customized : c.agentPool.distro.isCustomized
  case true =>
    rw [(Baker.bootstrap_of_customized rendered commanded customized).run]
    exact .customized rendered commanded customized
  case false =>
  cases known : b.catalogs.cloudImages c.cloudName with
  | error f =>
    obtain ⟨unknown, rfl⟩ := CatalogStore.cloudImages_eq_error_iff.mp known
    rw [(Baker.bootstrap_of_unknown_cloud rendered commanded customized known).run]
    exact .unknownCloud rendered commanded customized unknown
  | ok images =>
  have legacy := CatalogStore.cloudImages_eq_ok_iff.mp known
  cases bound : b.catalogs.sigEnvironment c.sig c.service.location with
  | error f =>
    rw [(Baker.bootstrap_of_unbound rendered commanded customized known bound).run]
    exact .unbound rendered commanded customized legacy bound
  | ok env =>
  by_cases present : (images.lookup c.agentPool.distro).isSome ∨ (env.find c.agentPool.distro).isSome
  · rw [(Baker.bootstrap_of_resolved rendered commanded customized known bound present).run]
    rw [lookup_isSome_iff_mem, SigEnvironment.find_isSome_iff] at present
    exact .resolved rendered commanded customized legacy bound present
  · have legacyMissing : images.lookup c.agentPool.distro = none :=
      Option.not_isSome_iff_eq_none.mp (not_or.mp present).1
    have sigMissing : env.find c.agentPool.distro = none :=
      Option.not_isSome_iff_eq_none.mp (not_or.mp present).2
    rw [(Baker.bootstrap_of_missing rendered commanded customized known bound legacyMissing
      sigMissing).run]
    exact .notFound rendered commanded customized legacy bound
      (lookup_eq_none_iff_not_mem.mp legacyMissing) (SigEnvironment.find_eq_none_iff.mp sigMissing)

/-- The rules allow one outcome only: the bootstrap's. -/
theorem bootstrap_eq {r : Except Fault Bootstrap} (outcome : BootstrapOutcome b host c r) :
    (b.bootstrap host c).run.1 = r := by
  cases outcome with
  | dataFailed rendered => rw [(Baker.bootstrap_of_data_error rendered).run]
  | commandFailed rendered failed => rw [(Baker.bootstrap_of_command_error rendered failed).run]
  | customized rendered commanded customized =>
    rw [(Baker.bootstrap_of_customized rendered commanded customized).run]
  | unknownCloud rendered commanded plain unknown =>
    have failed := CatalogStore.cloudImages_eq_error_iff.mpr ⟨unknown, rfl⟩
    rw [(Baker.bootstrap_of_unknown_cloud rendered commanded plain failed).run]
  | unbound rendered commanded plain legacy unbound =>
    rw [(Baker.bootstrap_of_unbound rendered commanded plain
      (CatalogStore.cloudImages_eq_ok_iff.mpr legacy) unbound).run]
  | notFound rendered commanded plain legacy bound legacyMissing sigMissing =>
    rw [(Baker.bootstrap_of_missing rendered commanded plain
      (CatalogStore.cloudImages_eq_ok_iff.mpr legacy) bound
      (lookup_eq_none_iff_not_mem.mpr legacyMissing)
      (SigEnvironment.find_eq_none_iff.mpr sigMissing)).run]
  | resolved rendered commanded plain legacy bound present =>
    rw [← lookup_isSome_iff_mem, ← SigEnvironment.find_isSome_iff] at present
    rw [(Baker.bootstrap_of_resolved rendered commanded plain
      (CatalogStore.cloudImages_eq_ok_iff.mpr legacy) bound present).run]

end BootstrapOutcome

/-! ## The bootstrap's outcomes -/

/-- The bootstrap returns exactly the outcome the rules of `BootstrapOutcome` allow. A render
that fails is raised as it is: a missing template or a template error while rendering as a
failed template, and an error met while loading the template, or a non-template error while
rendering, unchanged. A gallery environment that cannot be bound is a SIG resolution error
naming the region. A customized distribution is booted alike whatever the catalogs and the
toggles hold. -/
theorem bootstrap_outcome_iff (b : Baker) (host : Host) (c : NodeConfig) :
    (∀ r, (b.bootstrap host c).run.1 = r ↔ BootstrapOutcome b host c r) ∧
    (∀ name setup f, b.templates.render host name setup = .error f →
      (f = .templateMissing name ∨ ∃ kind message, f = .templateFailed name kind message) ∨
      (∃ kind message cause, f = .templateUnloadable kind message cause) ∨
      ∃ kind message, f = .uncaught kind message) ∧
    (∀ f, b.catalogs.sigEnvironment c.sig c.service.location = .error f →
      ∃ message, f = .sigResolution message (.str c.service.location)) ∧
    (c.agentPool.distro.isCustomized = true → ∀ b' : Baker, b'.templates = b.templates →
      (b'.bootstrap host c).run = (b.bootstrap host c).run) :=
  ⟨fun _ => ⟨fun ran => ran ▸ BootstrapOutcome.of_bootstrap b host c,
      BootstrapOutcome.bootstrap_eq⟩,
    fun _ _ _ failed => TemplateLibrary.render_error failed,
    fun _ unbound => CatalogStore.sigEnvironment_error unbound,
    fun customized _ same => Baker.bootstrap_customized_of_templates customized same⟩

/-- A node with the customized Kata image, on Linux. -/
def kataNode : NodeConfig :=
  ⟨⟨"nodepool1", .customizedImageKata, .linux, ""⟩, "AzurePublicCloud", ⟨"", "", []⟩,
    ⟨"aks-cluster", "westus", "1.29.7", none⟩, "tenant", "sub", "rg", "", [], false, false⟩

/-- Templates in `/tpl`, whose custom data template holds a byte that is not UTF-8. -/
def undecodableTemplateHost : Host :=
  ⟨⟨[(["tpl"], .dir), (["tpl", linuxCustomDataTemplate], .file [0xff]),
    (["tpl", linuxCommandTemplate], .file [99, 115, 101])], []⟩, []⟩

/-- A baker with the shipped catalogs, no toggles and the templates of `/tpl`. -/
def localTemplateBaker : Baker := ⟨CatalogStore.shipped, Toggles.none, ⟨⟨"/", ["tpl"]⟩⟩⟩

/-- A custom data template that is not UTF-8 makes the bootstrap fail with the decoding error
itself, not as a failed template. -/
theorem bootstrap_raises_undecodable_template :
    ∃ f, (localTemplateBaker.bootstrap undecodableTemplateHost kataNode).run.1 = .error f ∧
      f.kind = "UnicodeDecodeError" ∧
      f.message = "'utf-8' codec can't decode byte 0xff in position 0: invalid start byte" := by
  have undecodable : (match customData undecodableTemplateHost localTemplateBaker.templates kataNode with
      | .error f => f.kind == "UnicodeDecodeError" &&
          f.message == "'utf-8' codec can't decode byte 0xff in position 0: invalid start byte"
      | .ok _ => false) = true := by
    decide +kernel
  cases rendered : customData undecodableTemplateHost localTemplateBaker.templates kataNode with
  | ok data =>
    rw [rendered] at undecodable
    cases undecodable
  | error f =>
    rw [rendered, Bool.and_eq_true, beq_iff_eq, beq_iff_eq] at undecodable
    exact ⟨f, by rw [(Baker.bootstrap_of_data_error rendered).run], undecodable⟩

/-! ## Toggles that look at the environment only -/

/-- Every rule of every toggle looks only at the subscription, the tenant and the region. -/
def Toggles.LooksAtEnvironment (t : Toggles) : Prop :=
  ∀ entry ∈ t.maps, ∀ rule ∈ entry.2, ∀ condition ∈ rule.conditions,
    condition.1 ∈ ["subscription_id", "tenant_id", "region"]

instance (t : Toggles) : Decidable t.LooksAtEnvironment :=
  inferInstanceAs (Decidable (∀ entry ∈ t.maps, ∀ rule ∈ entry.2, ∀ condition ∈ rule.conditions,
    condition.1 ∈ ["subscription_id", "tenant_id", "region"]))

/-- The environment a configuration describes: its region, subscription and tenant. -/
def NodeConfig.environment (c : NodeConfig) : EnvironmentInfo :=
  ⟨c.service.location, some c.subscriptionId, some c.tenantId⟩

/-- A configuration and its environment show the same subscription, tenant and region. -/
theorem lookup_ofConfig_eq {c : NodeConfig} {key : String}
    (shared : key ∈ ["subscription_id", "tenant_id", "region"]) :
    (Entity.ofConfig c).fields.lookup key = (Entity.ofEnvironment c.environment).fields.lookup key := by
  simp only [List.mem_cons, List.mem_nil_iff, or_false] at shared
  rcases shared with rfl | rfl | rfl <;> rfl

theorem ToggleRule.holdsFor_congr {r : ToggleRule} {e e' : Entity}
    (same : ∀ condition ∈ r.conditions, e.fields.lookup condition.1 = e'.fields.lookup condition.1) :
    r.holdsFor e = r.holdsFor e' := by
  rw [Bool.eq_iff_iff, ToggleRule.holdsFor, ToggleRule.holdsFor, List.all_eq_true, List.all_eq_true]
  -- each condition reads the same field of both entities
  refine forall₂_congr fun ⟨key, value⟩ member => ?_
  simp only [same (key, value) member]

theorem evaluateRules_congr {e e' : Entity} :
    ∀ {rules : List ToggleRule}, (∀ r ∈ rules, r.holdsFor e = r.holdsFor e') →
      ∀ acc, rules.foldl (fun acc r => if r.holdsFor e then updateTable acc r.values else acc) acc =
        rules.foldl (fun acc r => if r.holdsFor e' then updateTable acc r.values else acc) acc
  | [], _, _ => rfl
  | r :: rules, same, acc => by
    rw [List.foldl_cons, List.foldl_cons, same r List.mem_cons_self]
    exact evaluateRules_congr (fun r' member => same r' (List.mem_cons_of_mem r member)) _

/-- Toggles that look at the environment only pin a configuration's images as they pin its
environment's. -/
theorem Toggles.imageVersions_ofConfig {t : Toggles} (environmental : t.LooksAtEnvironment)
    (c : NodeConfig) :
    t.imageVersions (Entity.ofConfig c) = t.imageVersions (Entity.ofEnvironment c.environment) := by
  unfold Toggles.imageVersions Toggles.getMap
  cases named : t.maps.lookup Toggles.imageVersionName with
  | none => rfl
  | some rules =>
    obtain ⟨before, after, split, -⟩ := List.lookup_eq_some_iff.mp named
    have member : (Toggles.imageVersionName, rules) ∈ t.maps := by
      rw [split]
      exact List.mem_append_right _ List.mem_cons_self
    exact evaluateRules_congr (fun r rule => ToggleRule.holdsFor_congr fun condition inRule =>
      lookup_ofConfig_eq (environmental _ member r rule condition inRule)) []

/-! ## The bootstrap's image and the latest image -/

/-- The custom data and the command of a node, rendered in this order. -/
def renderedScripts (host : Host) (lib : TemplateLibrary) (c : NodeConfig) :
    Except Fault (String × String) := do
  let data ← customData host lib c
  let command ← bootstrapCommand host lib c
  return (data, command)

/-- Whatever the bootstrap does once both texts render, it does after `renderedScripts`: a
render that fails ends it first. -/
theorem Baker.bootstrap_after_renders {b : Baker} {host : Host} {c : NodeConfig}
    {rest : String × String → Except Fault Bootstrap}
    (rendered : ∀ data command, customData host b.templates c = .ok data →
      bootstrapCommand host b.templates c = .ok command → (b.bootstrap host c).run.1 = rest (data, command)) :
    (b.bootstrap host c).run.1 = (renderedScripts host b.templates c).bind rest := by
  unfold renderedScripts
  cases data : customData host b.templates c with
  | error f => rw [(bootstrap_of_data_error data).run]; rfl
  | ok data' =>
    cases command : bootstrapCommand host b.templates c with
    | error f => rw [(bootstrap_of_command_error data command).run]; rfl
    | ok command' => exact rendered data' command' data command

/-- On a Linux node, with toggles that look at the environment only, the bootstrap pins a
gallery image as `latestImage` pins it for the node's environment. -/
theorem Baker.bootImage_eq_pinnedFor {b : Baker} {c : NodeConfig}
    (environmental : b.toggles.LooksAtEnvironment) (linux : c.agentPool.osType = .linux)
    (image : SigImage) :
    Baker.bootImage b c image = Baker.pinnedFor b c.environment c.agentPool.distro image := by
  have notWindows : c.isWindows = false := by simp [NodeConfig.isWindows, linux]
  unfold Baker.bootImage Baker.pinnedFor Baker.environmentOverrides
  rw [Toggles.imageVersions_ofConfig environmental c, notWindows]
  cases c.agentPool.distro.isWindows <;> rfl

/-- On a Linux node with a distribution that is not customized, a cloud with legacy images and
toggles that look at the environment only, the bootstrap's gallery image is the one
`latestImage` gives for the node's environment. Where `latestImage` finds no image, the
bootstrap boots from the legacy image if the cloud has one and otherwise fails the same way;
where it fails otherwise, it fails with the same SIG resolution error as the bootstrap. The
bootstrap's texts come first: a render that fails ends it before any of this. -/
theorem bootstrap_sigImage_of_latestImage (b : Baker) (host : Host) (c : NodeConfig)
    (images : List (Distro × LegacyImage)) (environmental : b.toggles.LooksAtEnvironment)
    (linux : c.agentPool.osType = .linux) (plain : c.agentPool.distro.isCustomized = false)
    (known : b.catalogs.legacy.clouds.lookup c.cloudName = some images) :
    (∀ image, (b.latestImage c.sig c.agentPool.distro c.environment).run.1 = .ok image →
      (b.bootstrap host c).run.1 = (renderedScripts host b.templates c).bind fun (data, command) =>
        .ok ⟨data, command, images.lookup c.agentPool.distro, some image⟩) ∧
    ((b.latestImage c.sig c.agentPool.distro c.environment).run.1 =
        .error (.imageNotFound c.agentPool.distro.value c.service.location) →
      (b.bootstrap host c).run.1 = (renderedScripts host b.templates c).bind fun (data, command) =>
        if (images.lookup c.agentPool.distro).isSome then
          .ok ⟨data, command, images.lookup c.agentPool.distro, none⟩
        else .error (.imageNotFound c.agentPool.distro.value c.service.location)) ∧
    (∀ f, (b.latestImage c.sig c.agentPool.distro c.environment).run.1 = .error f →
      f ≠ .imageNotFound c.agentPool.distro.value c.service.location →
      (∃ message, f = .sigResolution message (.str c.service.location)) ∧
      (b.bootstrap host c).run.1 = (renderedScripts host b.templates c).bind fun _ => .error f) := by
  have cloud := CatalogStore.cloudImages_eq_ok_iff.mpr known
  -- both resolutions bind the same gallery environment, then look the distribution up in it
  cases bound : b.catalogs.sigEnvironment c.sig c.service.location with
  | error f =>
    have bound' : b.catalogs.sigEnvironment c.sig c.environment.region = .error f := bound
    have latest : (b.latestImage c.sig c.agentPool.distro c.environment).run.1 = .error f := by
      rw [(Baker.latestImage_of_unbound bound').run]
    obtain ⟨message, rfl⟩ := CatalogStore.sigEnvironment_error bound
    refine ⟨fun image found => ?_, fun missing => ?_, fun f' failed _ => ?_⟩
    · rw [latest] at found
      cases found
    · rw [latest] at missing
      cases missing
    · rw [latest] at failed
      cases failed
      exact ⟨⟨message, rfl⟩, Baker.bootstrap_after_renders fun _ _ data command => by
        rw [(Baker.bootstrap_of_unbound data command plain cloud bound).run]⟩
  | ok sigEnv =>
    have bound' : b.catalogs.sigEnvironment c.sig c.environment.region = .ok sigEnv := bound
    cases found : sigEnv.find c.agentPool.distro with
    | none =>
      have latest : (b.latestImage c.sig c.agentPool.distro c.environment).run.1 =
          .error (.imageNotFound c.agentPool.distro.value c.service.location) := by
        rw [(Baker.latestImage_of_missing bound' found).run]
        rfl
      refine ⟨fun image resolved => ?_, fun _ => ?_, fun f failed other => ?_⟩
      · rw [latest] at resolved
        cases resolved
      · refine Baker.bootstrap_after_renders fun _ _ data command => ?_
        by_cases legacy : (images.lookup c.agentPool.distro).isSome
        · rw [(Baker.bootstrap_of_resolved data command plain cloud bound (.inl legacy)).run, found]
          simp [legacy]
        · have legacyMissing := Option.not_isSome_iff_eq_none.mp legacy
          rw [(Baker.bootstrap_of_missing data command plain cloud bound legacyMissing found).run]
          simp [legacyMissing]
      · rw [latest] at failed
        cases failed
        exact absurd rfl other
    | some image =>
      have latest : (b.latestImage c.sig c.agentPool.distro c.environment).run.1 =
          .ok (Baker.pinnedFor b c.environment c.agentPool.distro image) := by
        rw [(Baker.latestImage_of_found bound' found).run]
      refine ⟨fun image' resolved => ?_, fun missing => ?_, fun f failed _ => ?_⟩
      · rw [latest] at resolved
        cases resolved
        refine Baker.bootstrap_after_renders fun _ _ data command => ?_
        have present : (sigEnv.find c.agentPool.distro).isSome := by rw [found]; rfl
        rw [(Baker.bootstrap_of_resolved data command plain cloud bound (.inr present)).run, found,
          Option.map_some, Baker.bootImage_eq_pinnedFor environmental linux]
      · rw [latest] at missing
        cases missing
      · rw [latest] at failed
        cases failed

/-- A Linux node of an Ubuntu distribution in `westus`, with one gallery. -/
def ubuntuNode : NodeConfig :=
  ⟨⟨"nodepool1", .aksUbuntuContainerd2204, .linux, ""⟩, "AzurePublicCloud",
    ⟨"", "sub", [("AKSUbuntu", ⟨"AKSUbuntuGallery", "rg"⟩)]⟩,
    ⟨"aks-cluster", "westus", "1.29.7", none⟩, "tenant", "sub", "rg", "", [], false, false⟩

/-- A baker with one Ubuntu gallery image, no legacy images for the public cloud, and a toggle
that pins the image's version in `westus`. -/
def pinnedUbuntuBaker : Baker :=
  ⟨⟨⟨[("AzurePublicCloud", [])]⟩,
      ⟨[(.ubuntu, ⟨none, [(.aksUbuntuContainerd2204, ⟨"AKSUbuntu", "2204containerd", "1.0"⟩)]⟩)]⟩⟩,
    ⟨[(Toggles.imageVersionName, [⟨[("region", "westus")], [("aks-ubuntu-containerd-22.04", "2.0")]⟩])]⟩,
    TemplateLibrary.shipped⟩

theorem bootstrap_sigImage_on_pinnedUbuntu :
    pinnedUbuntuBaker.toggles.LooksAtEnvironment ∧ ubuntuNode.agentPool.osType = .linux ∧
      ubuntuNode.agentPool.distro.isCustomized = false ∧
      pinnedUbuntuBaker.catalogs.legacy.clouds.lookup ubuntuNode.cloudName = some [] ∧
      (pinnedUbuntuBaker.latestImage ubuntuNode.sig .aksUbuntuContainerd2204 ubuntuNode.environment).run.1 =
        .ok ⟨"rg", "AKSUbuntuGallery", "2204containerd", "2.0", "sub"⟩ ∧
      (pinnedUbuntuBaker.bootstrap default ubuntuNode).run.1 =
        (renderedScripts default pinnedUbuntuBaker.templates ubuntuNode).bind fun (data, command) =>
          .ok ⟨data, command, none, some ⟨"rg", "AKSUbuntuGallery", "2204containerd", "2.0", "sub"⟩⟩ :=
  ⟨by decide, rfl, rfl, rfl, rfl,
    (bootstrap_sigImage_of_latestImage pinnedUbuntuBaker default ubuntuNode [] (by decide) rfl rfl rfl).1
      _ rfl⟩

end NodeImage
