import NodeImage.Catalog.Store

/-!
# Binding the SIG catalog

What the two catalog lookups give, seen from the catalogs.

* The legacy lookup fails exactly for a cloud that the legacy catalog does not name, and
  then with `unknownCloud` of that name (`cloudImages_eq_error_iff`).
* Binding a region's SIG environment fails only with a `sigResolution` fault for that
  region (`sigEnvironment_error`).
* A catalog that files every distribution under its own family, at most once, binds to
  environments that do the same (`filedByFamily_of_sigEnvironment`), and in such an
  environment `SigEnvironment.find` reads the distribution's own family
  (`find_of_filedByFamily`). In any environment it finds nothing exactly when no family
  holds the distribution (`find_eq_none_iff`).
-/

namespace NodeImage

/-! ## Lookups and folds -/

theorem bind_eq_error_iff {ε α β : Type} {x : Except ε α} {g : α → Except ε β} {f : ε} :
    x >>= g = .error f ↔ x = .error f ∨ ∃ a, x = .ok a ∧ g a = .error f := by
  cases x <;> simp [bind, Except.bind]

theorem bind_eq_ok_iff {ε α β : Type} {x : Except ε α} {g : α → Except ε β} {b : β} :
    x >>= g = .ok b ↔ ∃ a, x = .ok a ∧ g a = .ok b := by
  cases x <;> simp [bind, Except.bind]

theorem lookup_eq_none_iff_not_mem {α β : Type} [DecidableEq α] {l : List (α × β)} {k : α} :
    l.lookup k = none ↔ k ∉ l.map Prod.fst := by
  rw [List.lookup_eq_none_iff]
  constructor
  · intro absent present
    obtain ⟨p, member, rfl⟩ := List.mem_map.mp present
    simpa using absent p member
  · intro absent p member
    rw [bne_iff_ne]
    rintro rfl
    exact absent (List.mem_map_of_mem member)

theorem lookup_isSome_iff_mem {α β : Type} [DecidableEq α] {l : List (α × β)} {k : α} :
    (l.lookup k).isSome ↔ k ∈ l.map Prod.fst := by
  rw [Option.isSome_iff_ne_none, Ne, lookup_eq_none_iff_not_mem, Decidable.not_not]

theorem lookup_cons_ite {α β : Type} [DecidableEq α] {key k : α} {v : β} {l : List (α × β)} :
    ((k, v) :: l).lookup key = if key = k then some v else l.lookup key := by
  by_cases hit : key = k
  · simp [hit]
  · have differs : (key == k) = false := beq_eq_false_iff_ne.mpr hit
    simp [List.lookup_cons, hit, differs]

theorem mem_of_lookup_eq_some {α β : Type} [DecidableEq α] {l : List (α × β)} {k : α} {v : β}
    (found : l.lookup k = some v) : (k, v) ∈ l := by
  obtain ⟨before, after, rfl, -⟩ := List.lookup_eq_some_iff.mp found
  simp

/-- In a list that names each key once, a key's value is the one its entry holds. -/
theorem lookup_eq_some_iff_mem {α β : Type} [DecidableEq α] {l : List (α × β)} {k : α} {v : β}
    (distinct : (l.map Prod.fst).Nodup) : l.lookup k = some v ↔ (k, v) ∈ l := by
  refine ⟨mem_of_lookup_eq_some, fun member => ?_⟩
  induction l with
  | nil => cases member
  | cons entry l ih =>
    obtain ⟨k', v'⟩ := entry
    rw [List.map_cons, List.nodup_cons] at distinct
    rcases List.mem_cons.mp member with same | later
    · cases same
      simp
    · have named : k ∈ l.map Prod.fst := List.mem_map.mpr ⟨(k, v), later, rfl⟩
      have differs : k ≠ k' := fun same => distinct.1 (same ▸ named)
      rw [lookup_cons_ite, if_neg differs]
      exact ih distinct.2 later

/-- Reordering a list that names each key once changes none of its lookups. -/
theorem lookup_eq_of_perm {α β : Type} [DecidableEq α] {l l' : List (α × β)} (perm : l.Perm l')
    (distinct : (l.map Prod.fst).Nodup) (k : α) : l.lookup k = l'.lookup k := by
  have distinct' : (l'.map Prod.fst).Nodup := (perm.map Prod.fst).nodup_iff.mp distinct
  cases found : l.lookup k with
  | some v =>
    have member : (k, v) ∈ l' := perm.mem_iff.mp ((lookup_eq_some_iff_mem distinct).mp found)
    exact ((lookup_eq_some_iff_mem distinct').mpr member).symm
  | none =>
    rw [lookup_eq_none_iff_not_mem] at found
    exact (lookup_eq_none_iff_not_mem.mpr fun named => found ((perm.map Prod.fst).mem_iff.mpr named)).symm

/-- The first value `f` gives along a list is its value at `a` when `a` is the only element
that can give one. -/
theorem findSome?_eq_of_others {α β : Type} {f : α → Option β} {a : α} :
    ∀ {l : List α}, a ∈ l → (∀ b ∈ l, b ≠ a → f b = none) → l.findSome? f = f a
  | b :: l, member, others => by
    by_cases same : b = a
    · subst same
      cases value : f b with
      | some v => simp [value]
      | none =>
        rw [List.findSome?_cons_of_isNone (by simp [value]), List.findSome?_eq_none_iff]
        intro c inTail
        by_cases also : c = b
        · rw [also, value]
        · exact others c (List.mem_cons_of_mem b inTail) also
    · rw [List.findSome?_cons_of_isNone (by simp [others b List.mem_cons_self same])]
      have inTail : a ∈ l := (List.mem_cons.mp member).resolve_left (Ne.symm same)
      exact findSome?_eq_of_others inTail fun c inL => others c (List.mem_cons_of_mem b inL)

/-- A fold in `Except` fails only with a failure of one of its steps. -/
theorem foldlM_error_of_step {β γ : Type} {f : β → γ → Except Fault β} (Q : Fault → Prop)
    (step : ∀ acc x e, f acc x = .error e → Q e) :
    ∀ (xs : List γ) (acc : β) (e : Fault), xs.foldlM f acc = .error e → Q e
  | [], _, _, failed => by cases failed
  | x :: xs, acc, e, failed => by
    rw [List.foldlM_cons] at failed
    cases first : f acc x with
    | error e' =>
      rw [first] at failed
      cases failed
      exact step acc x _ first
    | ok next =>
      rw [first] at failed
      exact foldlM_error_of_step Q step xs next e failed

/-- A fold in `Except` whose every step succeeds succeeds. -/
theorem foldlM_ok_of_steps {β γ : Type} {f : β → γ → Except Fault β} :
    ∀ (xs : List γ), (∀ acc x, x ∈ xs → ∃ next, f acc x = .ok next) →
      ∀ acc, ∃ result, xs.foldlM f acc = .ok result
  | [], _, acc => ⟨acc, rfl⟩
  | x :: xs, steps, acc => by
    obtain ⟨next, first⟩ := steps acc x List.mem_cons_self
    obtain ⟨result, rest⟩ :=
      foldlM_ok_of_steps xs (fun acc y member => steps acc y (List.mem_cons_of_mem x member)) next
    refine ⟨result, ?_⟩
    rw [List.foldlM_cons, first]
    exact rest

/-- A fold in `Except` over a list holding a step that fails from every accumulator fails. -/
theorem foldlM_error_of_mem {β γ : Type} {f : β → γ → Except Fault β} {x : γ}
    (failing : ∀ acc, ∃ e, f acc x = .error e) :
    ∀ (xs : List γ), x ∈ xs → ∀ acc, ∃ e, xs.foldlM f acc = .error e
  | y :: xs, member, acc => by
    rw [List.foldlM_cons]
    cases first : f acc y with
    | error e => exact ⟨e, rfl⟩
    | ok next =>
      rcases List.mem_cons.mp member with same | later
      · obtain ⟨e, failed⟩ := failing acc
        rw [same, first] at failed
        cases failed
      · exact foldlM_error_of_mem failing xs later next

/-- A property that every step of a fold in `Except` keeps holds of its result. -/
theorem foldlM_invariant {β γ : Type} {f : β → γ → Except Fault β} (P : β → Prop) :
    ∀ (xs : List γ), (∀ acc x next, x ∈ xs → P acc → f acc x = .ok next → P next) →
      ∀ (acc result : β), P acc → xs.foldlM f acc = .ok result → P result
  | [], _, acc, result, holds, done => by
    cases done
    exact holds
  | x :: xs, step, acc, result, holds, done => by
    rw [List.foldlM_cons] at done
    cases first : f acc x with
    | error e =>
      rw [first] at done
      cases done
    | ok next =>
      rw [first] at done
      have kept : P next := step acc x next List.mem_cons_self holds first
      exact foldlM_invariant P xs (fun acc y next member => step acc y next (List.mem_cons_of_mem x member))
        next result kept done

/-! ## Catalogs filed by family -/

/-- Every family of the catalog names each distribution at most once, and only
distributions of that family. -/
def SigCatalog.FiledByFamily (S : SigCatalog) : Prop :=
  ∀ entry ∈ S.families, (entry.2.images.map Prod.fst).Nodup ∧
    ∀ d ∈ entry.2.images.map Prod.fst, d.family = entry.1

instance (S : SigCatalog) : Decidable S.FiledByFamily :=
  inferInstanceAs (Decidable (∀ entry ∈ S.families, (entry.2.images.map Prod.fst).Nodup ∧
    ∀ d ∈ entry.2.images.map Prod.fst, d.family = entry.1))

/-- Every family's images name each distribution at most once, and only distributions of
that family. -/
def SigEnvironment.FiledByFamily (env : SigEnvironment) : Prop :=
  ∀ family, ((env.catalog family).map Prod.fst).Nodup ∧
    ∀ d ∈ (env.catalog family).map Prod.fst, d.family = family

/-! ## The legacy lookup -/

namespace CatalogStore

theorem cloudImages_eq_ok_iff {s : CatalogStore} {cloud : String}
    {images : List (Distro × LegacyImage)} :
    s.cloudImages cloud = .ok images ↔ s.legacy.clouds.lookup cloud = some images := by
  unfold cloudImages
  cases s.legacy.clouds.lookup cloud <;> simp

/-- The legacy lookup fails exactly for a cloud the catalog does not name, compared as
exact text, and then names that cloud. -/
theorem cloudImages_eq_error_iff {s : CatalogStore} {cloud : String} {f : Fault} :
    s.cloudImages cloud = .error f ↔
      cloud ∉ s.legacy.clouds.map Prod.fst ∧ f = .unknownCloud cloud := by
  rw [← lookup_eq_none_iff_not_mem]
  unfold cloudImages
  cases s.legacy.clouds.lookup cloud with
  | none => simp [eq_comm]
  | some images => simp

/-! ## Binding the SIG catalog -/

/-- A region given as text is either offered or not; asking never fails. -/
theorem offeredIn_str (family : SigFamily) (region : String) :
    ∃ offered, offeredIn family (.str region) = .ok offered := by
  unfold offeredIn
  cases family.regions <;> simp

theorem bindFamily_cons_of_gallery {sel : SigConfig} {region : Value} {d : Distro}
    {definition : SigDefinition} {images : List (Distro × SigDefinition)} {g : Gallery}
    (gallery : sel.galleries.lookup definition.gallery = some g) :
    bindFamily sel region ((d, definition) :: images) =
      (fun bound => (d, complete sel g definition) :: bound) <$> bindFamily sel region images := by
  cases rest : bindFamily sel region images <;>
  · unfold bindFamily at rest ⊢
    rw [List.mapM_cons]
    simp only [gallery, rest]
    rfl

/-- An image whose gallery the selector lacks stops the binding with a fault of the region
that names the gallery and the distribution. -/
theorem bindFamily_cons_of_missing {sel : SigConfig} {region : Value} {d : Distro}
    {definition : SigDefinition} {images : List (Distro × SigDefinition)}
    (missing : sel.galleries.lookup definition.gallery = none) :
    bindFamily sel region ((d, definition) :: images) =
      .error (.sigResolution ("SIG config for region " ++ region.shown ++ " is missing gallery "
        ++ definition.gallery ++ " (needed by " ++ d.value ++ ")") region) := by
  unfold bindFamily
  rw [List.mapM_cons]
  simp only [missing]
  rfl

/-- Binding a family's images fails only for a missing gallery, as a `sigResolution` fault
of the region. -/
theorem bindFamily_error {sel : SigConfig} {region : Value} :
    ∀ {images : List (Distro × SigDefinition)} {f : Fault},
      bindFamily sel region images = .error f → ∃ message, f = .sigResolution message region
  | [], _, failed => by cases failed
  | (distro, d) :: images, f, failed => by
    cases gallery : sel.galleries.lookup d.gallery with
    | none =>
      rw [bindFamily_cons_of_missing gallery] at failed
      cases failed
      exact ⟨_, rfl⟩
    | some g =>
      rw [bindFamily_cons_of_gallery gallery] at failed
      cases rest : bindFamily sel region images with
      | error f' =>
        rw [rest] at failed
        cases failed
        exact bindFamily_error rest
      | ok bound =>
        rw [rest] at failed
        cases failed

/-- Binding keeps the distributions of a family's images, in order. -/
theorem bindFamily_keys {sel : SigConfig} {region : Value} :
    ∀ {images : List (Distro × SigDefinition)} {bound : List (Distro × SigImage)},
      bindFamily sel region images = .ok bound → bound.map Prod.fst = images.map Prod.fst
  | [], bound, done => by
    cases done
    rfl
  | (distro, d) :: images, bound, done => by
    cases gallery : sel.galleries.lookup d.gallery with
    | none =>
      rw [bindFamily_cons_of_missing gallery] at done
      cases done
    | some g =>
      rw [bindFamily_cons_of_gallery gallery] at done
      cases rest : bindFamily sel region images with
      | error f =>
        rw [rest] at done
        cases done
      | ok boundRest =>
        rw [rest] at done
        cases done
        simp [bindFamily_keys rest]

@[simp] theorem catalog_withFamily (env : SigEnvironment) (family other : OsFamily)
    (images : List (Distro × SigImage)) :
    (withFamily env family images).catalog other = if other = family then images else env.catalog other := by
  cases family <;> cases other <;> rfl

@[simp] theorem catalog_withCloudName (env : SigEnvironment) (name : String) (family : OsFamily) :
    ({ env with cloudName := name } : SigEnvironment).catalog family = env.catalog family := by
  cases family <;> rfl

/-- One family of the catalog bound into an environment, as `sigEnvironmentAt` does it. -/
def bindEntry (sel : SigConfig) (region : Value) (env : SigEnvironment)
    (entry : OsFamily × SigFamily) : Except Fault SigEnvironment := do
  if ← offeredIn entry.2 region then
    return withFamily env entry.1 (← bindFamily sel region entry.2.images)
  else return env

/-- The environment with no images. -/
def SigEnvironment.empty : SigEnvironment := ⟨"", [], [], [], [], []⟩

/-- Binding a region given as text: the two checks, then the families in catalog order,
then the cloud named from the region. -/
theorem sigEnvironment_eq (s : CatalogStore) (sel : SigConfig) (region : String) :
    s.sigEnvironment sel region =
      if region = "" then .error (.sigResolution "region is required to resolve SIG images" (.str region))
      else if sel.subscriptionId = "" then
        .error (.sigResolution ("SIG config for region " ++ (Value.str region).shown ++
          " has no subscription id") (.str region))
      else (s.sig.families.foldlM (bindEntry sel (.str region)) SigEnvironment.empty).map
        fun env => { env with cloudName := (Cloud.ofRegion region).name } := by
  unfold sigEnvironment sigEnvironmentAt
  by_cases noRegion : region = "" <;> by_cases noSubscription : sel.subscriptionId = "" <;>
    simp [noRegion, noSubscription, Value.truthy, SigEnvironment.empty]
  all_goals rfl

/-- Binding a region given as text fails only with a `sigResolution` fault of that region. -/
theorem sigEnvironment_error {s : CatalogStore} {sel : SigConfig} {region : String} {f : Fault}
    (failed : s.sigEnvironment sel region = .error f) :
    ∃ message, f = .sigResolution message (.str region) := by
  rw [sigEnvironment_eq] at failed
  split at failed
  · exact ⟨_, (Except.error.inj failed).symm⟩
  split at failed
  · exact ⟨_, (Except.error.inj failed).symm⟩
  · have folded : s.sig.families.foldlM (bindEntry sel (.str region)) SigEnvironment.empty =
        .error f := by
      revert failed
      cases s.sig.families.foldlM (bindEntry sel (.str region)) SigEnvironment.empty <;>
        simp [Except.map]
    refine foldlM_error_of_step (fun e => ∃ message, e = .sigResolution message (.str region))
      (fun env entry e step => ?_) _ _ _ folded
    obtain ⟨offered, asked⟩ := offeredIn_str entry.2 region
    unfold bindEntry at step
    rcases bind_eq_error_iff.mp step with impossible | ⟨_, -, rest⟩
    · rw [asked] at impossible
      cases impossible
    split at rest
    · rcases bind_eq_error_iff.mp rest with failedBinding | ⟨bound, _, impossible⟩
      · exact bindFamily_error failedBinding
      · cases impossible
    · cases rest

/-- Binding one entry of a catalog filed by family into an environment filed by family
gives an environment filed by family. -/
theorem bindEntry_filedByFamily {sel : SigConfig} {region : Value} {env next : SigEnvironment}
    {entry : OsFamily × SigFamily}
    (filedEntry : (entry.2.images.map Prod.fst).Nodup ∧
      ∀ d ∈ entry.2.images.map Prod.fst, d.family = entry.1)
    (filed : env.FiledByFamily) (step : bindEntry sel region env entry = .ok next) :
    next.FiledByFamily := by
  unfold bindEntry at step
  obtain ⟨offered, asked, rest⟩ := bind_eq_ok_iff.mp step
  split at rest
  · obtain ⟨bound, binding, done⟩ := bind_eq_ok_iff.mp rest
    cases done
    have keys := bindFamily_keys binding
    intro family
    rw [catalog_withFamily]
    split
    · next same =>
      rw [keys, same]
      exact filedEntry
    · exact filed family
  · cases rest
    exact filed

/-- A catalog that files every distribution under its own family, at most once, binds to
environments that do the same. -/
theorem filedByFamily_of_sigEnvironment {s : CatalogStore} {sel : SigConfig} {region : String}
    {env : SigEnvironment} (filed : s.sig.FiledByFamily)
    (bound : s.sigEnvironment sel region = .ok env) : env.FiledByFamily := by
  rw [sigEnvironment_eq] at bound
  split at bound
  · cases bound
  split at bound
  · cases bound
  obtain ⟨folded, binding, named⟩ := bind_eq_ok_iff.mp bound
  obtain rfl := Except.ok.inj named
  have foldedFiled : folded.FiledByFamily := by
    refine foldlM_invariant SigEnvironment.FiledByFamily s.sig.families
      (fun env entry next member holds step => bindEntry_filedByFamily (filed entry member) holds step)
      SigEnvironment.empty folded ?_ binding
    intro family
    cases family <;> simp [SigEnvironment.empty, SigEnvironment.catalog]
  -- naming the cloud leaves every family's images as the fold bound them
  intro family
  rw [catalog_withCloudName]
  exact foldedFiled family

end CatalogStore

/-! ## Finding a distribution -/

namespace SigEnvironment

/-- No family of the environment holds the distribution exactly when `find` gives none. -/
theorem find_eq_none_iff {env : SigEnvironment} {d : Distro} :
    env.find d = none ↔ ∀ family, d ∉ (env.catalog family).map Prod.fst := by
  unfold find
  rw [List.findSome?_eq_none_iff]
  simp only [lookup_eq_none_iff_not_mem]
  exact ⟨fun absent family => absent family (OsFamily.mem_all family), fun absent family _ => absent family⟩

/-- In an environment filed by family, a distribution is found in its own family. -/
theorem find_of_filedByFamily {env : SigEnvironment} (filed : env.FiledByFamily) (d : Distro) :
    env.find d = (env.catalog d.family).lookup d := by
  unfold find
  refine findSome?_eq_of_others (OsFamily.mem_all d.family) fun family _ other => ?_
  rw [lookup_eq_none_iff_not_mem]
  intro present
  exact other ((filed family).2 d present).symm

end SigEnvironment

end NodeImage
