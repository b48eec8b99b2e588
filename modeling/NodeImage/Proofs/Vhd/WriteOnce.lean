import NodeImage.Vhd.Inventory
import NodeImage.Proofs.Catalog.Environment

/-! # The inventories are filled once

A caller fills the inventories by a sequence of calls, each either `fill` with three values
or `ensureLoaded` with two files (`InventoryCall`), and may go on after a call that fails
(`runCalls`). The section on `InventoryM` gives the result and final state of each monadic
building block (`runOn`), so that each of the two calls gets one lemma per outcome. From
these:

* a failing call leaves the inventories as they were, provided the two lists given to
  `fill` have a length (`fill` stores before it measures them);
* a call that returns leaves the inventories filled, unless it was `fill` given no
  manifest, which stores what it was given and still returns;
* once filled, no call changes the inventories again: `fill` is refused and `ensureLoaded`
  returns only for the very files they were loaded from;
* the snapshot returns the three inventories exactly when they are filled, and otherwise
  names the first that is missing.
-/

namespace NodeImage

namespace InventoryM

variable {α β : Type} {inv : Inventories}

@[simp] theorem runOn_pure (a : α) : (pure a : InventoryM α).runOn inv = (.ok a, inv) := rfl

@[simp] theorem runOn_throw (f : Fault) : (throw f : InventoryM α).runOn inv = (.error f, inv) :=
  rfl

@[simp] theorem runOn_get : (get : InventoryM Inventories).runOn inv = (.ok inv, inv) := rfl

@[simp] theorem runOn_modify (g : Inventories → Inventories) :
    (modify g : InventoryM Unit).runOn inv = (.ok (), g inv) := rfl

@[simp] theorem runOn_lift (x : Except Fault α) : (lift x).runOn inv = (x, inv) := by
  cases x <;> rfl

/-- A step that fails ends the computation where it stopped; one that succeeds hands its value
and its state to the rest. -/
@[simp] theorem runOn_bind (x : InventoryM α) (f : α → InventoryM β) :
    (x >>= f).runOn inv = match x.runOn inv with
      | (.ok a, inv') => (f a).runOn inv'
      | (.error e, inv') => (.error e, inv') := by
  simp only [runOn, ExceptT.run_bind, StateT.run_bind]
  rcases (ExceptT.run x).run inv with ⟨_ | _, _⟩ <;> rfl

end InventoryM

open InventoryM

/-! ## Filled inventories -/

/-- Whether a value is `null`, the mark of an unset inventory. -/
def Value.unset (v : Value) : Bool := v matches .null

@[simp] theorem Value.unset_eq_true_iff {v : Value} : v.unset = true ↔ v = .null := by
  cases v <;> simp [Value.unset]

@[simp] theorem Value.unset_eq_false_iff {v : Value} : v.unset = false ↔ v ≠ .null := by
  cases v <;> simp [Value.unset]

theorem requireLength_ne_null {v : Value} (sized : requireLength v = .ok ()) : v ≠ .null := by
  rintro rfl
  cases sized

namespace Inventories

theorem initialized_eq (inv : Inventories) :
    inv.initialized =
      (!inv.manifest.unset && !inv.containerImages.unset && !inv.downloadedFiles.unset) := rfl

theorem snapshot_eq (inv : Inventories) :
    inv.snapshot =
      if inv.manifest.unset then .error (.cacheNotInitialized manifestInventory)
      else if inv.containerImages.unset then .error (.cacheNotInitialized containerImagesInventory)
      else if inv.downloadedFiles.unset then .error (.cacheNotInitialized downloadedFilesInventory)
      else .ok (inv.manifest, inv.containerImages, inv.downloadedFiles) := rfl

theorem initialized_iff (inv : Inventories) :
    inv.initialized = true ↔
      inv.manifest ≠ .null ∧ inv.containerImages ≠ .null ∧ inv.downloadedFiles ≠ .null := by
  simp [initialized_eq, and_assoc]

section Snapshot

variable {inv : Inventories}

theorem snapshot_of_initialized (filled : inv.initialized = true) :
    inv.snapshot = .ok (inv.manifest, inv.containerImages, inv.downloadedFiles) := by
  obtain ⟨m, ci, df⟩ := (initialized_iff inv).mp filled
  simp [snapshot_eq, m, ci, df]

/-! Unfilled inventories have no snapshot: it names the first inventory missing, in the order
manifest, container images, downloaded files. -/

theorem snapshot_of_manifest_unset (m : inv.manifest = .null) :
    inv.snapshot = .error (.cacheNotInitialized manifestInventory) := by
  simp [snapshot_eq, m]

theorem snapshot_of_images_unset (m : inv.manifest ≠ .null) (ci : inv.containerImages = .null) :
    inv.snapshot = .error (.cacheNotInitialized containerImagesInventory) := by
  simp [snapshot_eq, m, ci]

theorem snapshot_of_files_unset (m : inv.manifest ≠ .null) (ci : inv.containerImages ≠ .null)
    (df : inv.downloadedFiles = .null) :
    inv.snapshot = .error (.cacheNotInitialized downloadedFilesInventory) := by
  simp [snapshot_eq, m, ci, df]

theorem snapshot_eq_ok_iff :
    inv.snapshot = .ok (inv.manifest, inv.containerImages, inv.downloadedFiles) ↔
      inv.initialized = true := by
  -- both sides test the same three marks, in the same order
  rw [snapshot_eq, initialized_eq]
  cases inv.manifest.unset <;> cases inv.containerImages.unset <;>
    cases inv.downloadedFiles.unset <;> simp

end Snapshot

end Inventories

/-! ## Filling with given values -/

theorem fill_of_initialized {inv : Inventories} (filled : inv.initialized = true)
    (m ci df : Value) :
    (fill m ci df).runOn inv =
      (.error (.cacheAlreadyInitialized "VHD inventories are already initialized"), inv) := by
  simp [fill, filled]

/-- On unfilled inventories `fill` stores all three values, and only then checks that the two
lists have a length. -/
theorem fill_of_not_initialized {inv : Inventories} (unfilled : inv.initialized = false)
    (m ci df : Value) :
    (fill m ci df).runOn inv =
      ((requireLength ci).bind fun _ => requireLength df,
        { inv with manifest := m, containerImages := ci, downloadedFiles := df }) := by
  cases sized : requireLength ci <;> simp [fill, unfilled, sized, Except.bind]

theorem fill_error_keeps {inv inv' : Inventories} {m ci df : Value} {f : Fault}
    (imagesSized : requireLength ci = .ok ()) (filesSized : requireLength df = .ok ())
    (failed : (fill m ci df).runOn inv = (.error f, inv')) : inv' = inv := by
  cases filled : inv.initialized
  · rw [fill_of_not_initialized filled, imagesSized, filesSized] at failed
    cases failed
  · rw [fill_of_initialized filled] at failed
    exact (Prod.mk.inj failed).2.symm

/-! ## Loading from files -/

section MapError

variable {ε ε' α : Type} {f : ε → ε'}

@[simp] theorem mapError_ok (a : α) : (Except.ok a : Except ε α).mapError f = .ok a := rfl

@[simp] theorem mapError_error (e : ε) : (Except.error e : Except ε α).mapError f = .error (f e) :=
  rfl

end MapError

/-- Indexed sections are mappings. -/
theorem indexSections_maps {path : String} {entries : List (Value × Value)} {ci df : Value}
    (indexed : indexSections path entries = .ok (ci, df)) :
    (∃ images, ci = .map images) ∧ ∃ files, df = .map files := by
  simp only [indexSections, bind_eq_ok_iff] at indexed
  obtain ⟨images, -, files, -, same⟩ := indexed
  cases same
  exact ⟨⟨images, rfl⟩, ⟨files, rfl⟩⟩

/-- Loaded inventories are filled: the manifest is a mapping and both lists are indexed. -/
theorem readInventories_filled {host : Host} {mp cp : Files.PathName} {m ci df : Value}
    (read : readInventories host mp cp = .ok (m, ci, df)) :
    m ≠ .null ∧ (∃ images, ci = .map images) ∧ ∃ files, df = .map files := by
  simp only [readInventories, bind_eq_ok_iff] at read
  obtain ⟨manifest, -, checked⟩ := read
  -- only a mapping passes the manifest check
  cases manifest
  case map fields =>
    simp only [Bool.not_true, Bool.false_eq_true, if_false] at checked
    obtain ⟨components, -, checked⟩ := bind_eq_ok_iff.mp checked
    split at checked
    next =>
      obtain ⟨⟨images, files⟩, indexed, checked⟩ := bind_eq_ok_iff.mp checked
      cases checked
      exact ⟨nofun, indexSections_maps indexed⟩
    next => cases checked
  all_goals obtain ⟨_, ⟨⟩, -⟩ := checked

/-- Where either path cannot be resolved, `ensureLoaded` fails with that error and touches
nothing. -/
theorem ensureLoaded_of_unresolved {host : Host} {mp cp : Files.PathName} {inv : Inventories}
    {e : Files.FsError}
    (unresolved : host.files.resolve mp = .error e ∨
      (∃ m, host.files.resolve mp = .ok m) ∧ host.files.resolve cp = .error e) :
    (ensureLoaded host mp cp).runOn inv = (.error (.fileError e), inv) := by
  rcases unresolved with manifest | ⟨⟨m, manifest⟩, components⟩
  · simp [ensureLoaded, manifest]
  · simp [ensureLoaded, manifest, components]

/-- Where filled inventories came from, as the refusal to load others names it. -/
def origin : Option (String × String) → String
  | some (a, b) => a ++ " and " ++ b
  | none => "in-memory data"

section Resolved

variable {host : Host} {mp cp m c : Files.PathName} {inv : Inventories}

/-- On filled inventories `ensureLoaded` changes nothing: it returns for the files they were
loaded from and is refused otherwise, naming where they came from. -/
theorem ensureLoaded_of_initialized (manifest : host.files.resolve mp = .ok m)
    (components : host.files.resolve cp = .ok c) (filled : inv.initialized = true) :
    (ensureLoaded host mp cp).runOn inv =
      (if inv.sources = some (m.text, c.text) then .ok ()
        else .error (.cacheAlreadyInitialized
          ("VHD inventories are already initialized from " ++ origin inv.sources)), inv) := by
  by_cases same : inv.sources = some (m.text, c.text) <;>
    simp [ensureLoaded, manifest, components, filled, same]
  rfl

/-- On unfilled inventories `ensureLoaded` reads both files; it stores them and their paths
when they are well formed and otherwise fails with the reading's error. -/
theorem ensureLoaded_of_not_initialized (manifest : host.files.resolve mp = .ok m)
    (components : host.files.resolve cp = .ok c) (unfilled : inv.initialized = false) :
    (ensureLoaded host mp cp).runOn inv =
      match readInventories host m c with
      | .ok (mf, ci, df) =>
        (.ok (), ⟨mf, ci, df, some (m.text, c.text)⟩)
      | .error f => (.error f, inv) := by
  simp only [ensureLoaded, loadInventories, manifest, components, mapError_ok, runOn_bind,
    runOn_lift, runOn_get, unfilled]
  rcases read : readInventories host m c with f | ⟨mf, ci, df⟩
  · rfl
  · obtain ⟨-, ⟨images, rfl⟩, ⟨files, rfl⟩⟩ := readInventories_filled read
    simp [fill_of_not_initialized unfilled, requireLength, Except.bind]

end Resolved

/-- Every outcome of `ensureLoaded`: it either leaves the inventories as they were, returning
only if they were filled, or returns having filled them. -/
theorem ensureLoaded_cases {host : Host} {mp cp : Files.PathName} {inv inv' : Inventories}
    {r : Except Fault Unit} (ran : (ensureLoaded host mp cp).runOn inv = (r, inv')) :
    inv' = inv ∧ (r = .ok () → inv.initialized = true) ∨
      r = .ok () ∧ inv.initialized = false ∧ inv'.initialized = true := by
  cases manifest : host.files.resolve mp with
  | error e =>
    rw [ensureLoaded_of_unresolved (.inl manifest)] at ran
    cases ran
    exact .inl ⟨rfl, nofun⟩
  | ok m =>
    cases components : host.files.resolve cp with
    | error e =>
      rw [ensureLoaded_of_unresolved (.inr ⟨⟨m, manifest⟩, components⟩)] at ran
      cases ran
      exact .inl ⟨rfl, nofun⟩
    | ok c =>
      cases filled : inv.initialized
      case true =>
        rw [ensureLoaded_of_initialized manifest components filled] at ran
        cases ran
        exact .inl ⟨rfl, fun _ => rfl⟩
      case false =>
        rw [ensureLoaded_of_not_initialized manifest components filled] at ran
        split at ran
        next mf ci df read =>
          cases ran
          obtain ⟨m, ⟨images, rfl⟩, ⟨files, rfl⟩⟩ := readInventories_filled read
          exact .inr ⟨rfl, rfl, by simp [Inventories.initialized_iff, m]⟩
        next =>
          cases ran
          exact .inl ⟨rfl, nofun⟩

/-! ## Sequences of calls -/

/-- A call on the inventories: filling them with three values, or loading them from a
manifest and a components file. -/
inductive InventoryCall where
  | fill (manifest containerImages downloadedFiles : Value)
  | load (manifestPath componentsPath : Files.PathName)

namespace InventoryCall

/-- What a call does to the inventories. -/
def run (host : Host) : InventoryCall → InventoryM Unit
  | .fill m ci df => NodeImage.fill m ci df
  | .load mp cp => ensureLoaded host mp cp

/-- The two lists given to a filling call have a length, as mappings do. -/
def Sized : InventoryCall → Prop
  | .fill _ ci df => requireLength ci = .ok () ∧ requireLength df = .ok ()
  | .load _ _ => True

variable {host : Host} {call : InventoryCall} {inv inv' : Inventories}

/-- A failing call leaves the inventories as they were, provided the lists it was given have a
length. -/
theorem run_error_keeps {f : Fault} (sized : call.Sized)
    (failed : (call.run host).runOn inv = (.error f, inv')) : inv' = inv := by
  cases call with
  | fill m ci df => exact fill_error_keeps sized.1 sized.2 failed
  | load mp cp =>
    rcases ensureLoaded_cases failed with ⟨kept, -⟩ | ⟨⟨⟩, -⟩
    exact kept

/-- A call that returns leaves the inventories filled, unless it is a `fill` given no
manifest. -/
theorem run_ok_fills (returned : (call.run host).runOn inv = (.ok (), inv')) :
    inv'.initialized = true ∨ ∃ ci df, call = .fill .null ci df := by
  cases call with
  | fill m ci df =>
    cases filled : inv.initialized
    case true =>
      rw [run, fill_of_initialized filled] at returned
      cases returned
    case false =>
      rw [run, fill_of_not_initialized filled] at returned
      obtain ⟨measured, rfl⟩ := Prod.mk.inj returned
      obtain ⟨_, imagesSized, filesSized⟩ := bind_eq_ok_iff.mp measured
      by_cases m : m = .null
      · exact .inr ⟨ci, df, by rw [m]⟩
      · exact .inl ((Inventories.initialized_iff _).mpr
          ⟨m, requireLength_ne_null imagesSized, requireLength_ne_null filesSized⟩)
  | load mp cp =>
    rcases ensureLoaded_cases returned with ⟨rfl, filled⟩ | ⟨-, -, filled⟩
    · exact .inl (filled rfl)
    · exact .inl filled

/-- No call changes filled inventories. -/
theorem run_of_initialized (filled : inv.initialized = true) :
    ((call.run host).runOn inv).2 = inv := by
  cases call with
  | fill m ci df => rw [run, fill_of_initialized filled]
  | load mp cp =>
    rcases ran : (ensureLoaded host mp cp).runOn inv with ⟨r, inv'⟩
    rcases ensureLoaded_cases ran with ⟨rfl, -⟩ | ⟨-, unfilled, -⟩
    · rw [run, ran]
    · rw [filled] at unfilled
      cases unfilled

end InventoryCall

/-- Runs calls in order, going on after those that fail: the result of each, and the
inventories after them all. -/
def runCalls (host : Host) : List InventoryCall → Inventories →
    List (Except Fault Unit) × Inventories
  | [], inv => ([], inv)
  | call :: calls, inv =>
    let step := (call.run host).runOn inv
    let rest := runCalls host calls step.2
    (step.1 :: rest.1, rest.2)

/-- Once filled, the inventories stay as they are whatever is called, and each call is answered
as it would be on its own. -/
theorem runCalls_of_initialized {host : Host} {inv : Inventories} (filled : inv.initialized = true) :
    ∀ calls, runCalls host calls inv = (calls.map fun call => ((call.run host).runOn inv).1, inv)
  | [] => rfl
  | call :: calls => by
    have kept : ((call.run host).runOn inv).2 = inv := InventoryCall.run_of_initialized filled
    simp only [runCalls, kept, runCalls_of_initialized filled calls, List.map_cons]

/-! ## Runs from fresh inventories -/

/-- Files are recorded only on filled inventories: unfilled ones were never loaded. -/
def Inventories.SourcedOnlyFilled (inv : Inventories) : Prop :=
  inv.sources = none ∨ inv.initialized = true

theorem Inventories.SourcedOnlyFilled.sources_eq_none {inv : Inventories}
    (sourced : inv.SourcedOnlyFilled) (unfilled : inv.initialized = false) : inv.sources = none := by
  rcases sourced with none | filled
  · exact none
  · rw [unfilled] at filled
    cases filled

/-- Inventories that `fill` filled record no files. -/
theorem fill_ok_unsourced {inv inv' : Inventories} {m ci df : Value}
    (before : inv.SourcedOnlyFilled) (returned : (fill m ci df).runOn inv = (.ok (), inv')) :
    inv'.sources = none := by
  cases filled : inv.initialized
  case true =>
    rw [fill_of_initialized filled] at returned
    cases returned
  case false =>
    rw [fill_of_not_initialized filled] at returned
    obtain ⟨-, rfl⟩ := Prod.mk.inj returned
    exact before.sources_eq_none filled

theorem InventoryCall.run_sourcedOnlyFilled {host : Host} {inv : Inventories}
    (call : InventoryCall) (before : inv.SourcedOnlyFilled) :
    ((call.run host).runOn inv).2.SourcedOnlyFilled := by
  cases filled : inv.initialized
  case true =>
    rw [InventoryCall.run_of_initialized filled]
    exact .inr filled
  case false =>
    cases call with
    | fill m ci df =>
      -- `fill` keeps the recorded files, and there were none
      rw [run, fill_of_not_initialized filled]
      exact .inl (before.sources_eq_none filled)
    | load mp cp =>
      rcases ran : (ensureLoaded host mp cp).runOn inv with ⟨r, inv'⟩
      rcases ensureLoaded_cases ran with ⟨rfl, -⟩ | ⟨-, -, loaded⟩
      · rw [run, ran]
        exact before
      · rw [run, ran]
        exact .inr loaded

theorem runCalls_sourcedOnlyFilled {host : Host} :
    ∀ (calls : List InventoryCall) {inv : Inventories}, inv.SourcedOnlyFilled →
      (runCalls host calls inv).2.SourcedOnlyFilled
  | [], _, before => before
  | call :: calls, _, before =>
    runCalls_sourcedOnlyFilled calls (call.run_sourcedOnlyFilled before)

/-! ## Filled once -/

/-- The inventories are filled once. A failing call whose lists have a length changes nothing.
A call that returns leaves them filled, unless it was `fill` given no manifest. Once they are
filled, no sequence of calls changes them: `fill` is refused, and loading returns only for the
files they came from. On a run from fresh inventories, those filled by `fill` record no files,
so loading them is always refused. A path that cannot be resolved fails loading with its own
error. The snapshot gives the three inventories exactly when they are filled, and otherwise
names the first one missing. -/
theorem inventories_filled_once (host : Host) :
    (∀ (call : InventoryCall) (inv inv' : Inventories) (f : Fault), call.Sized →
      (call.run host).runOn inv = (.error f, inv') → inv' = inv) ∧
    (∀ (call : InventoryCall) (inv inv' : Inventories),
      (call.run host).runOn inv = (.ok (), inv') →
        inv'.initialized = true ∨ ∃ ci df, call = .fill .null ci df) ∧
    (∀ inv : Inventories, inv.initialized = true →
      (∀ calls, runCalls host calls inv =
        (calls.map fun call => ((call.run host).runOn inv).1, inv)) ∧
      (∀ m ci df, ((InventoryCall.fill m ci df).run host).runOn inv =
        (.error (.cacheAlreadyInitialized "VHD inventories are already initialized"), inv)) ∧
      ∀ mp cp m c, host.files.resolve mp = .ok m → host.files.resolve cp = .ok c →
        ((InventoryCall.load mp cp).run host).runOn inv =
          (if inv.sources = some (m.text, c.text) then .ok ()
            else .error (.cacheAlreadyInitialized
              ("VHD inventories are already initialized from " ++ origin inv.sources)), inv)) ∧
    (∀ calls m ci df (inv' : Inventories),
      ((InventoryCall.fill m ci df).run host).runOn (runCalls host calls Inventories.empty).2 =
        (.ok (), inv') → inv'.sources = none) ∧
    (∀ mp cp (inv : Inventories) e, (host.files.resolve mp = .error e ∨
        (∃ m, host.files.resolve mp = .ok m) ∧ host.files.resolve cp = .error e) →
      ((InventoryCall.load mp cp).run host).runOn inv = (.error (.fileError e), inv)) ∧
    ∀ inv : Inventories,
      (inv.snapshot = .ok (inv.manifest, inv.containerImages, inv.downloadedFiles) ↔
        inv.initialized = true) ∧
      (inv.manifest = .null → inv.snapshot = .error (.cacheNotInitialized manifestInventory)) ∧
      (inv.manifest ≠ .null → inv.containerImages = .null →
        inv.snapshot = .error (.cacheNotInitialized containerImagesInventory)) ∧
      (inv.manifest ≠ .null → inv.containerImages ≠ .null → inv.downloadedFiles = .null →
        inv.snapshot = .error (.cacheNotInitialized downloadedFilesInventory)) :=
  ⟨fun _ _ _ _ sized failed => InventoryCall.run_error_keeps sized failed,
    fun _ _ _ returned => InventoryCall.run_ok_fills returned,
    fun _ filled => ⟨runCalls_of_initialized filled, fill_of_initialized filled,
      fun _ _ _ _ manifest components => ensureLoaded_of_initialized manifest components filled⟩,
    fun calls _ _ _ _ returned =>
      fill_ok_unsourced (runCalls_sourcedOnlyFilled calls (.inl rfl)) returned,
    fun _ _ _ _ unresolved => ensureLoaded_of_unresolved unresolved,
    fun _ => ⟨Inventories.snapshot_eq_ok_iff, Inventories.snapshot_of_manifest_unset,
      Inventories.snapshot_of_images_unset, Inventories.snapshot_of_files_unset⟩⟩

/-- Inventories filled in memory: a refill is refused and leaves them as they are. -/
theorem refill_refused_in_memory :
    Inventories.initialized ⟨.map [], .map [], .map [], none⟩ = true ∧
      runCalls default [.fill .null (.map []) (.map [])] ⟨.map [], .map [], .map [], none⟩ =
        ([.error (.cacheAlreadyInitialized "VHD inventories are already initialized")],
          ⟨.map [], .map [], .map [], none⟩) :=
  ⟨rfl, ((inventories_filled_once default).2.2.1 _ rfl).1 _⟩

/-- `fill` given no manifest returns on fresh inventories, which are then still without a
snapshot; `fill` given a number for the container images fails after storing, which leaves
fresh inventories filled. -/
theorem fill_returns_unfilled_or_fails_filled :
    (fill .null (.map []) (.map [])).runOn Inventories.empty =
        (.ok (), ⟨.null, .map [], .map [], none⟩) ∧
      Inventories.snapshot ⟨.null, .map [], .map [], none⟩ =
        .error (.cacheNotInitialized manifestInventory) ∧
    (fill (.map []) (.int 5) (.map [])).runOn Inventories.empty =
        (.error (.noLength "int"), ⟨.map [], .int 5, .map [], none⟩) ∧
      Inventories.initialized ⟨.map [], .int 5, .map [], none⟩ = true :=
  ⟨rfl, rfl, rfl, rfl⟩

end NodeImage
