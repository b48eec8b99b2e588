import NodeImage.Proofs.Bake.Bootstrap
import NodeImage.Proofs.Bake.DistroCatalog

/-!
# What a resolution reports

Each of the baker's three operations reports its work as events. `Reported` states the rule
they share: a call that fails reports its failure alone, and a call that answers reports its
version overrides, then the events that close its answer. The closing events and what each
override says of the answer are the operation's own.

* A bootstrap closes with the image it resolved (the gallery image's resource id, or none) and
  its end, or with its end alone for a customized distribution. An override names the node's
  distribution; the bootstrap's gallery image is the found image at the overriding version.
* `latestImage` closes with the image it resolved; an override names the distribution, and the
  answer is the found image at the overriding version.
* `distroCatalog` closes with the size of the catalog. An override names an entry of a family
  other than the Windows one, which the merge may still replace by a later family's entry: the
  catalog gives the distribution the overriding version unless the last family holding it is
  the Windows one (`distroCatalog_reports_replaced_override`).

Main statement: `resolutions_report_their_answers`.
-/

namespace NodeImage

/-- What a call of an operation reports, given its result: when it fails, the failure's own
event alone; when it answers, version overrides, each of which `describes` the answer, then the
closing events of the answer. -/
inductive Reported {α : Type} (op : Operation) (closing : α → List Event)
    (describes : α → String → String → String → Prop) : Except Fault α → List Event → Prop
  | failed (f : Fault) : Reported op closing describes (.error f) [⟨op, .failed f.message⟩]
  | answered (a : α) (overrides : List Event)
      (overridden : ∀ e ∈ overrides, ∃ d catalogVersion version,
        e = ⟨op, .versionOverridden d catalogVersion version⟩ ∧ describes a d catalogVersion version) :
      Reported op closing describes (.ok a) (overrides ++ closing a)

namespace Reported

variable {α : Type} {op : Operation} {closing : α → List Event}
  {describes : α → String → String → String → Prop}

theorem of_answer {a : α} {events overrides : List Event} (split : events = overrides ++ closing a)
    (overridden : ∀ e ∈ overrides, ∃ d catalogVersion version,
      e = ⟨op, .versionOverridden d catalogVersion version⟩ ∧ describes a d catalogVersion version) :
    Reported op closing describes (.ok a) events := by
  rw [split]
  exact .answered a overrides overridden

/-- Every event a call reports carries its operation, when its closing events do. -/
theorem operation_eq (closes : ∀ a, ∀ e ∈ closing a, e.operation = op) {r : Except Fault α}
    {events : List Event} (reported : Reported op closing describes r events) :
    ∀ e ∈ events, e.operation = op := by
  cases reported with
  | failed f =>
    intro e member
    rw [List.mem_singleton.mp member]
  | answered a overrides overridden =>
    intro e member
    rcases List.mem_append.mp member with override | closed
    · obtain ⟨d, catalogVersion, version, rfl, -⟩ := overridden e override
      rfl
    · exact closes a e closed

end Reported

/-! ## Version overrides -/

theorem mem_overrideEvents {op : Operation} {image : SigImage} {distro : Distro}
    {overrides : List (String × String)} {e : Event} :
    e ∈ overrideEvents op image distro overrides ↔ ∃ version, overrides.lookup distro.value = some version ∧
      e = ⟨op, .versionOverridden distro.value image.version version⟩ := by
  unfold overrideEvents
  cases overrides.lookup distro.value <;> simp

theorem overrideVersion_of_lookup {image : SigImage} {distro : Distro} {overrides : List (String × String)}
    {version : String} (pinned : overrides.lookup distro.value = some version) :
    overrideVersion image distro overrides = image.withVersion version := by
  rw [overrideVersion, pinned]

namespace Baker

/-! ## What each operation reports -/

/-- The events that close a bootstrap: the image resolved for the node, as the gallery image's
resource id or none, and the end of the bootstrap; for a customized distribution, its end alone. -/
def bootstrapClosing (c : NodeConfig) (boot : Bootstrap) : List Event :=
  if c.agentPool.distro.isCustomized then [⟨.bootstrap, .bootstrapResolved c.agentPool.distro.value true⟩]
  else [⟨.bootstrap, .imageResolved c.agentPool.distro.value c.service.location (boot.sigImage.map (·.resourceId))⟩,
    ⟨.bootstrap, .bootstrapResolved c.agentPool.distro.value false⟩]

theorem bootstrapClosing_operation (c : NodeConfig) (boot : Bootstrap) :
    ∀ e ∈ bootstrapClosing c boot, e.operation = .bootstrap := by
  unfold bootstrapClosing
  split <;> simp

/-- A version override of a bootstrap: it names the node's distribution and the version the
configuration's toggles pin for it, and the bootstrap's gallery image is the image found in the
region's environment, at the catalog version, with that version. -/
def BootstrapOverride (b : Baker) (c : NodeConfig) (boot : Bootstrap) (name catalogVersion version : String) :
    Prop :=
  name = c.agentPool.distro.value ∧ (b.toggles.imageVersions (Entity.ofConfig c)).lookup name = some version ∧
    ∃ env image, b.catalogs.sigEnvironment c.sig c.service.location = .ok env ∧
      env.find c.agentPool.distro = some image ∧ image.version = catalogVersion ∧
      boot.sigImage = some (image.withVersion version)

/-- The event that closes `latestImage`: the image resolved, by its resource id. -/
def latestClosing (d : Distro) (env : EnvironmentInfo) (image : SigImage) : List Event :=
  [⟨.latestImage, .imageResolved d.value env.region (some image.resourceId)⟩]

theorem latestClosing_operation (d : Distro) (env : EnvironmentInfo) (image : SigImage) :
    ∀ e ∈ latestClosing d env image, e.operation = .latestImage := by
  simp [latestClosing]

/-- A version override of `latestImage`: it names the distribution and the version the
environment's toggles pin for it, and the answer is the image found in the region's
environment, at the catalog version, with that version. -/
def LatestOverride (b : Baker) (sel : SigConfig) (d : Distro) (env : EnvironmentInfo) (answer : SigImage)
    (name catalogVersion version : String) : Prop :=
  name = d.value ∧ (environmentOverrides b env).lookup name = some version ∧
    ∃ sigEnv image, b.catalogs.sigEnvironment sel env.region = .ok sigEnv ∧ sigEnv.find d = some image ∧
      image.version = catalogVersion ∧ answer = image.withVersion version

/-- The event that closes `distroCatalog`: the number of distributions of the catalog. -/
def catalogClosing (env : EnvironmentInfo) (catalog : List (Distro × SigImage)) : List Event :=
  [⟨.distroCatalog, .catalogResolved env.region catalog.length⟩]

theorem catalogClosing_operation (env : EnvironmentInfo) (catalog : List (Distro × SigImage)) :
    ∀ e ∈ catalogClosing env catalog, e.operation = .distroCatalog := by
  simp [catalogClosing]

/-- A version override of `distroCatalog`: it names an entry of a family other than the Windows
one, at the catalog version, and the version the environment's toggles pin for its
distribution. The catalog gives the distribution that version unless the last family holding it
is the Windows one. -/
def CatalogOverride (b : Baker) (sel : SigConfig) (env : EnvironmentInfo) (catalog : List (Distro × SigImage))
    (name catalogVersion version : String) : Prop :=
  (environmentOverrides b env).lookup name = some version ∧
    ∃ sigEnv family d image, b.catalogs.sigEnvironment sel env.region = .ok sigEnv ∧ family ≠ .windows ∧
      (d, image) ∈ sigEnv.catalog family ∧ d.value = name ∧ image.version = catalogVersion ∧
      (sigEnv.lastFamily d ≠ some .windows → (catalog.lookup d).map (·.version) = some version)

/-! ## One operation at a time -/

theorem latestImage_reported (b : Baker) (sel : SigConfig) (d : Distro) (env : EnvironmentInfo) :
    Reported .latestImage (latestClosing d env) (LatestOverride b sel d env)
      (b.latestImage sel d env).run.1 (b.latestImage sel d env).run.2 := by
  cases binding : b.catalogs.sigEnvironment sel env.region with
  | error f =>
    rw [(latestImage_of_unbound binding).run]
    exact .failed f
  | ok sigEnv =>
    cases found : sigEnv.find d with
    | none =>
      rw [(latestImage_of_missing binding found).run]
      exact .failed _
    | some image =>
      rw [(latestImage_of_found binding found).run]
      refine .of_answer rfl fun e override => ?_
      by_cases windows : d.isWindows
      · simp [windows] at override
      · simp only [windows, Bool.false_eq_true, if_false] at override
        obtain ⟨version, pinned, rfl⟩ := mem_overrideEvents.mp override
        refine ⟨_, _, _, rfl, rfl, pinned, sigEnv, image, binding, found, rfl, ?_⟩
        simp only [pinnedFor, windows, Bool.false_eq_true, if_false]
        exact overrideVersion_of_lookup pinned

/-- Every override the merge reports comes from an entry of a family other than the Windows
one, with the version the overrides pin for its distribution. -/
theorem mem_catalogOverrideEvents {sigEnv : SigEnvironment} {overrides : List (String × String)}
    {e : Event} (reported : e ∈ catalogOverrideEvents sigEnv overrides) :
    ∃ family d image version, family ≠ .windows ∧ (d, image) ∈ sigEnv.catalog family ∧
      overrides.lookup d.value = some version ∧
      e = ⟨.distroCatalog, .versionOverridden d.value image.version version⟩ := by
  obtain ⟨family, -, inFamily⟩ := List.mem_flatMap.mp reported
  obtain ⟨⟨d, image⟩, member, override⟩ := List.mem_flatMap.mp inFamily
  by_cases windows : family = .windows
  · subst windows
    simp at override
  · have notWindows : (family == .windows) = false := beq_eq_false_iff_ne.mpr windows
    simp only [notWindows, Bool.false_eq_true, if_false] at override
    obtain ⟨version, pinned, rfl⟩ := mem_overrideEvents.mp override
    exact ⟨family, d, image, version, windows, member, pinned, rfl⟩

/-- A distribution a family other than the Windows one pins gets the pinned version in the
merged catalog, unless the last family holding it is the Windows one. -/
theorem mergedCatalog_version_of_pinned {sigEnv : SigEnvironment} {overrides : List (String × String)}
    {family : OsFamily} {d : Distro} {image : SigImage} {version : String}
    (member : (d, image) ∈ sigEnv.catalog family) (pinned : overrides.lookup d.value = some version)
    (notWindows : sigEnv.lastFamily d ≠ some .windows) :
    ((mergedCatalog sigEnv overrides).lookup d).map (·.version) = some version := by
  cases last : sigEnv.lastFamily d with
  | none =>
    have held : d ∈ (sigEnv.catalog family).map Prod.fst := List.mem_map.mpr ⟨(d, image), member, rfl⟩
    exact absurd held (SigEnvironment.lastFamily_eq_none_iff.mp last family)
  | some lastFamily =>
    obtain ⟨image', -, merged⟩ := lookup_mergedCatalog_of_lastFamily last overrides
    have linux : (lastFamily == .windows) = false := by
      rw [beq_eq_false_iff_ne]
      rintro rfl
      exact notWindows last
    rw [merged, pinnedIn, linux]
    simp [overrideVersion_of_lookup pinned, SigImage.withVersion]

theorem distroCatalog_reported (b : Baker) (sel : SigConfig) (env : EnvironmentInfo) :
    Reported .distroCatalog (catalogClosing env) (CatalogOverride b sel env)
      (b.distroCatalog sel env).run.1 (b.distroCatalog sel env).run.2 := by
  cases binding : b.catalogs.sigEnvironment sel env.region with
  | error f =>
    rw [(distroCatalog_of_unbound binding).run]
    exact .failed f
  | ok sigEnv =>
    rw [(distroCatalog_of_bound binding).run]
    refine .of_answer rfl fun e override => ?_
    obtain ⟨family, d, image, version, windows, member, pinned, rfl⟩ := mem_catalogOverrideEvents override
    exact ⟨_, _, _, rfl, pinned, sigEnv, family, d, image, binding, windows, member, rfl, rfl,
      mergedCatalog_version_of_pinned member pinned⟩

/-- The overrides a bootstrap reports for the gallery image it found describe its answer. -/
theorem bootOverrideEvents_describe {b : Baker} {c : NodeConfig} {env : SigEnvironment}
    (bound : b.catalogs.sigEnvironment c.sig c.service.location = .ok env) (data command : String)
    (legacy : Option LegacyImage) :
    ∀ e ∈ bootOverrideEvents b c (env.find c.agentPool.distro), ∃ name catalogVersion version,
      e = ⟨.bootstrap, .versionOverridden name catalogVersion version⟩ ∧
      BootstrapOverride b c ⟨data, command, legacy, (env.find c.agentPool.distro).map (bootImage b c)⟩
        name catalogVersion version := by
  intro e override
  cases found : env.find c.agentPool.distro with
  | none =>
    rw [found] at override
    cases override
  | some image =>
    rw [found] at override
    by_cases pinnedHere : (!c.isWindows && !c.agentPool.distro.isWindows) = true
    · simp only [bootOverrideEvents, pinnedHere, if_true] at override
      obtain ⟨version, pinned, rfl⟩ := mem_overrideEvents.mp override
      refine ⟨_, _, _, rfl, rfl, pinned, env, image, bound, found, rfl, ?_⟩
      simp only [Option.map_some, bootImage, pinnedHere, if_true]
      rw [overrideVersion_of_lookup pinned]
    · simp [bootOverrideEvents, pinnedHere] at override

theorem bootstrap_reported (b : Baker) (host : Host) (c : NodeConfig) :
    Reported .bootstrap (bootstrapClosing c) (BootstrapOverride b c)
      (b.bootstrap host c).run.1 (b.bootstrap host c).run.2 := by
  have outcome := BootstrapOutcome.of_bootstrap b host c
  generalize (b.bootstrap host c).run.1 = r at outcome
  -- each rule of the outcome names the lemma that gives the bootstrap's events
  cases outcome with
  | dataFailed rendered =>
    rw [(bootstrap_of_data_error rendered).run]
    exact .failed _
  | commandFailed rendered failed =>
    rw [(bootstrap_of_command_error rendered failed).run]
    exact .failed _
  | customized rendered commanded customized =>
    rw [(bootstrap_of_customized rendered commanded customized).run]
    refine .of_answer ?_ fun _ none => absurd none List.not_mem_nil
    simp [bootstrapClosing, customized]
  | unknownCloud rendered commanded plain unknown =>
    have failed := CatalogStore.cloudImages_eq_error_iff.mpr ⟨unknown, rfl⟩
    rw [(bootstrap_of_unknown_cloud rendered commanded plain failed).run]
    exact .failed _
  | unbound rendered commanded plain legacy unbound =>
    rw [(bootstrap_of_unbound rendered commanded plain (CatalogStore.cloudImages_eq_ok_iff.mpr legacy)
      unbound).run]
    exact .failed _
  | notFound rendered commanded plain legacy bound legacyMissing sigMissing =>
    rw [(bootstrap_of_missing rendered commanded plain (CatalogStore.cloudImages_eq_ok_iff.mpr legacy) bound
      (lookup_eq_none_iff_not_mem.mpr legacyMissing) (SigEnvironment.find_eq_none_iff.mpr sigMissing)).run]
    exact .failed _
  | resolved rendered commanded plain legacy bound present =>
    rw [← lookup_isSome_iff_mem, ← SigEnvironment.find_isSome_iff] at present
    rw [(bootstrap_of_resolved rendered commanded plain (CatalogStore.cloudImages_eq_ok_iff.mpr legacy) bound
      present).run]
    exact .of_answer (by simp [bootstrapClosing, plain]) (bootOverrideEvents_describe bound _ _ _)

end Baker

/-! ## The three operations -/

/-- What the baker's operations report. Each reports its failure alone when it fails; when it
answers, it reports version overrides and then the events that close its answer, all of its
own operation. A bootstrap closes with the gallery image it resolved and its end, or its end
alone for a customized distribution; `latestImage` closes with the image it resolved; and
`distroCatalog` closes with its number of distributions. An override of a bootstrap or of
`latestImage` names the distribution, and the answer is the found image at the overriding
version. An override of `distroCatalog` names an entry of a family other than the Windows one,
and the catalog gives its distribution the overriding version unless the last family holding it
is the Windows one. -/
theorem resolutions_report_their_answers (b : Baker) (host : Host) (c : NodeConfig) (sel : SigConfig)
    (d : Distro) (env : EnvironmentInfo) :
    (Reported .bootstrap (Baker.bootstrapClosing c) (Baker.BootstrapOverride b c)
        (b.bootstrap host c).run.1 (b.bootstrap host c).run.2 ∧
      ∀ e ∈ (b.bootstrap host c).run.2, e.operation = .bootstrap) ∧
    (Reported .latestImage (Baker.latestClosing d env) (Baker.LatestOverride b sel d env)
        (b.latestImage sel d env).run.1 (b.latestImage sel d env).run.2 ∧
      ∀ e ∈ (b.latestImage sel d env).run.2, e.operation = .latestImage) ∧
    (Reported .distroCatalog (Baker.catalogClosing env) (Baker.CatalogOverride b sel env)
        (b.distroCatalog sel env).run.1 (b.distroCatalog sel env).run.2 ∧
      ∀ e ∈ (b.distroCatalog sel env).run.2, e.operation = .distroCatalog) := by
  have bootstrap := Baker.bootstrap_reported b host c
  have latest := Baker.latestImage_reported b sel d env
  have catalog := Baker.distroCatalog_reported b sel env
  exact ⟨⟨bootstrap, bootstrap.operation_eq (Baker.bootstrapClosing_operation c)⟩,
    ⟨latest, latest.operation_eq (Baker.latestClosing_operation d env)⟩,
    ⟨catalog, catalog.operation_eq (Baker.catalogClosing_operation env)⟩⟩

/-- The distribution catalog reports an override of the Ubuntu family's entry to version 2.0,
yet answers with the Windows family's entry, at version 3.0, which replaced it. -/
theorem distroCatalog_reports_replaced_override :
    (ubuntuThenWindowsBaker.distroCatalog ubuntuSelector westus).run =
      (.ok [(.aksUbuntuContainerd2204, ⟨"rg", "AKSUbuntuGallery", "2204windows", "3.0", "sub"⟩)],
        [⟨.distroCatalog, .versionOverridden "aks-ubuntu-containerd-22.04" "1.0" "2.0"⟩,
          ⟨.distroCatalog, .catalogResolved "westus" 1⟩]) ∧
      ("3.0" : String) ≠ "2.0" :=
  ⟨rfl, by decide⟩

end NodeImage
