import NodeImage.Toggle.Load
import NodeImage.Proofs.Vhd.Indexing

/-! # What loading a file fails with

Each loader reads a file as UTF-8 text, parses the text as YAML and checks the document, and
reports what goes wrong as an error of its own: a catalog error naming the file for the two
catalogs and the inventories, a plain `NodeBakerError` for the toggles, each wrapping the
failure behind it. Not every failure is caught, though. Bytes that are not UTF-8 fail while
the text is read, and a YAML scalar that names no value (a timestamp in month 13) fails while
the document is built; neither is a file error nor a YAML error, so both pass every loader
as they are (`UnhandledReadFault`). Loading the inventories also lets through the failure to
index an entry under a true name that cannot be a key (`UnhandledInventoryFault`).

For each loader, `FailsWithin` says that it fails only with its own errors or with these, that
it fails with each of these when it arises, and that these are never its own errors; so the
loader fails only with its own errors exactly when none of them arises
(`FailsWithin.onlyOwn_iff`). `loaders_fail_with_own_faults_or_unhandled` states this for the
four loaders, and `legacyCatalog_undecodable_escapes` is a catalog file whose bytes are not
UTF-8.
-/

namespace NodeImage

/-! ## Failing within two sets of faults -/

/-- A computation whose failures are its own faults `Own` or the faults `Unhandled`, which fails
with every fault `Unhandled` holds of, and none of whose own faults is one of those. -/
structure FailsWithin {α : Type} (x : Except Fault α) (Own Unhandled : Fault → Prop) : Prop where
  cases : ∀ f, x = .error f → Own f ∨ Unhandled f
  reaches : ∀ f, Unhandled f → x = .error f
  apart : ∀ f, Unhandled f → ¬ Own f

/-- A computation fails only with its own faults exactly when no other fault arises. -/
theorem FailsWithin.onlyOwn_iff {α : Type} {x : Except Fault α} {Own Unhandled : Fault → Prop}
    (within : FailsWithin x Own Unhandled) :
    (∀ f, x = .error f → Own f) ↔ ∀ f, ¬ Unhandled f := by
  constructor
  · intro onlyOwn f unhandled
    exact within.apart f unhandled (onlyOwn f (within.reaches f unhandled))
  · intro noneUnhandled f failed
    rcases within.cases f failed with own | unhandled
    · exact own
    · exact absurd unhandled (noneUnhandled f)

/-- Two computations that fail alike fail within the same faults. -/
theorem FailsWithin.of_error_iff {α β : Type} {x : Except Fault α} {y : Except Fault β}
    {Own Unhandled : Fault → Prop} (within : FailsWithin x Own Unhandled)
    (alike : ∀ f, y = .error f ↔ x = .error f) : FailsWithin y Own Unhandled where
  cases f failed := within.cases f ((alike f).mp failed)
  reaches f unhandled := (alike f).mpr (within.reaches f unhandled)
  apart := within.apart

/-! ## Reading a document -/

/-- The failures of reading a file as a YAML document that no loader handles: bytes that are
not UTF-8, and a YAML scalar that names no value. `expand` is what the text goes through
before it is parsed. -/
inductive UnhandledReadFault (host : Host) (path : Files.PathName) (expand : String → String) :
    Fault → Prop
  | undecodable {e : Text.Utf8.DecodeError} :
    host.readText path = .error (.bytes e) → UnhandledReadFault host path expand (.undecodable e)
  | yamlValue {text : String} {e : Yaml.LoadFault} :
    host.readText path = .ok text → Yaml.load (expand text) = .error e → e ≠ .malformed →
    UnhandledReadFault host path expand (.yamlValue e)

theorem UnhandledReadFault.kind_ne {host : Host} {path : Files.PathName} {expand : String → String}
    {f : Fault} (unhandled : UnhandledReadFault host path expand f) :
    f.kind ≠ "CatalogError" ∧ f.kind ≠ "NodeBakerError" := by
  cases unhandled with
  | undecodable => simp [Fault.kind]
  | @yamlValue text e _ _ notMalformed =>
    cases e
    case malformed => exact absurd rfl notMalformed
    all_goals simp [Fault.kind]

/-- A YAML failure is the caller's own fault when the text is not YAML, and passes as it is
otherwise. -/
theorem yamlFault_cases (malformed : Fault) (e : Yaml.LoadFault) :
    e = .malformed ∧ yamlFault malformed e = malformed ∨
      e ≠ .malformed ∧ yamlFault malformed e = .yamlValue e := by
  cases e <;> simp [yamlFault]

/-! ## The catalogs -/

/-- A catalog error naming the file, with the failure behind it as its cause. -/
def CatalogFault (path : Files.PathName) (f : Fault) : Prop :=
  f.kind = "CatalogError" ∧ f.attrs = some [("path", .str path.text)] ∧ ∃ c, f.cause = some c

theorem UnhandledReadFault.not_catalogFault {host : Host} {path path' : Files.PathName}
    {expand : String → String} {f : Fault} (unhandled : UnhandledReadFault host path expand f) :
    ¬ CatalogFault path' f :=
  fun own => unhandled.kind_ne.1 own.1

variable {host : Host} {path : Files.PathName} {f : Fault}

theorem readCatalogDocument_error (failed : readCatalogDocument host path = .error f) :
    CatalogFault path f ∨ UnhandledReadFault host path id f := by
  unfold readCatalogDocument at failed
  split at failed
  next e _ =>
    cases failed
    exact .inl ⟨rfl, rfl, _, rfl⟩
  next e read =>
    cases failed
    exact .inr (.undecodable read)
  next text read =>
    split at failed
    next => cases failed
    next e parsed =>
      cases failed
      rcases yamlFault_cases (.catalogNotYaml path.text) e with ⟨-, same⟩ | ⟨other, same⟩
      · rw [same]
        exact .inl ⟨rfl, rfl, _, rfl⟩
      · rw [same]
        exact .inr (.yamlValue read parsed other)

theorem readCatalogDocument_of_unhandled (unhandled : UnhandledReadFault host path id f) :
    readCatalogDocument host path = .error f := by
  cases unhandled with
  | undecodable read => simp [readCatalogDocument, read]
  | @yamlValue text e read parsed other =>
    have parsed : Yaml.load text = .error e := parsed
    rcases yamlFault_cases (.catalogNotYaml path.text) e with ⟨malformed, -⟩ | ⟨-, same⟩
    · exact absurd malformed other
    · simp [readCatalogDocument, read, parsed, same]

/-- Loading a catalog file, its document checked by `check`, fails with catalog errors naming the
file, or with what reading it fails with unhandled. -/
theorem catalogFile_failsWithin {α : Type} (check : Schema.Check α) (legacy : Bool) :
    FailsWithin (readCatalogDocument host path >>= fun doc =>
        (check doc).mapError (.catalogInvalid legacy path.text))
      (CatalogFault path) (UnhandledReadFault host path id) where
  cases f failed := by
    rcases bind_eq_error_iff.mp failed with read | ⟨doc, -, checked⟩
    · exact readCatalogDocument_error read
    · cases result : check doc with
      | ok c => simp [result] at checked
      | error issues =>
        simp only [result, mapError_error, Except.error.injEq] at checked
        subst checked
        exact .inl ⟨rfl, rfl, _, rfl⟩
  reaches f unhandled := by
    rw [readCatalogDocument_of_unhandled unhandled]
    rfl
  apart _ unhandled := unhandled.not_catalogFault

/-- A legacy catalog file is read, and its document checked. -/
theorem loadLegacyCatalog_some : loadLegacyCatalog host (some path) =
    readCatalogDocument host path >>= fun doc =>
      (LegacyCatalog.check doc).mapError (.catalogInvalid true path.text) := by
  simp only [loadLegacyCatalog]
  congr
  funext doc
  cases LegacyCatalog.check doc <;> rfl

/-- A SIG catalog file is read, and its document checked. -/
theorem loadSigCatalog_some : loadSigCatalog host (some path) =
    readCatalogDocument host path >>= fun doc =>
      (SigCatalog.check doc).mapError (.catalogInvalid false path.text) := by
  simp only [loadSigCatalog]
  congr
  funext doc
  cases SigCatalog.check doc <;> rfl

theorem loadLegacyCatalog_failsWithin :
    FailsWithin (loadLegacyCatalog host (some path)) (CatalogFault path)
      (UnhandledReadFault host path id) := by
  rw [loadLegacyCatalog_some]
  exact catalogFile_failsWithin LegacyCatalog.check true

theorem loadSigCatalog_failsWithin :
    FailsWithin (loadSigCatalog host (some path)) (CatalogFault path)
      (UnhandledReadFault host path id) := by
  rw [loadSigCatalog_some]
  exact catalogFile_failsWithin SigCatalog.check false

/-! ## The toggles -/

/-- A toggles error: a plain `NodeBakerError` with the failure behind it as its cause. -/
def TogglesFault (f : Fault) : Prop :=
  f.kind = "NodeBakerError" ∧ ∃ c, f.cause = some c

/-- Loading toggles fails with toggles errors, or with what reading the file, with its
environment references replaced, fails with unhandled. -/
theorem loadToggles_failsWithin :
    FailsWithin (loadToggles host path) TogglesFault
      (UnhandledReadFault host path (expandVars host.getEnv)) where
  cases f failed := by
    unfold loadToggles at failed
    -- the three stages: reading the text, parsing it, checking the document
    split at failed
    next e _ =>
      simp only [bind, Except.bind, throw, throwThe, MonadExceptOf.throw,
        Except.error.injEq] at failed
      subst failed
      exact .inl ⟨rfl, _, rfl⟩
    next e read =>
      simp only [bind, Except.bind, throw, throwThe, MonadExceptOf.throw,
        Except.error.injEq] at failed
      subst failed
      exact .inr (.undecodable read)
    next text read =>
      simp only [bind, Except.bind, pure, Except.pure] at failed
      split at failed
      next =>
        split at failed
        next => cases failed
        next =>
          simp only [throw, throwThe, MonadExceptOf.throw, Except.error.injEq] at failed
          subst failed
          exact .inl ⟨rfl, _, rfl⟩
      next e parsed =>
        simp only [throw, throwThe, MonadExceptOf.throw, Except.error.injEq] at failed
        subst failed
        rcases yamlFault_cases (.togglesUnloadable path.text .yaml) e with
          ⟨-, same⟩ | ⟨other, same⟩
        · rw [same]
          exact .inl ⟨rfl, _, rfl⟩
        · rw [same]
          exact .inr (.yamlValue read parsed other)
  reaches f unhandled := by
    cases unhandled with
    | undecodable read =>
      simp [loadToggles, read, bind, Except.bind, throw, throwThe, MonadExceptOf.throw]
    | @yamlValue text e read parsed other =>
      rcases yamlFault_cases (.togglesUnloadable path.text .yaml) e with
        ⟨malformed, -⟩ | ⟨-, same⟩
      · exact absurd malformed other
      · simp [loadToggles, read, parsed, same, bind, Except.bind, pure, Except.pure, throw,
          throwThe, MonadExceptOf.throw]
  apart _ unhandled own := unhandled.kind_ne.2 own.1

/-! ## The inventories -/

/-- A catalog error naming an inventory file, with the failure to read or parse that file as its
cause when there was one. -/
def InventoryFault (host : Host) (path : Files.PathName) (f : Fault) : Prop :=
  f.kind = "CatalogError" ∧ f.attrs = some [("path", .str path.text)] ∧
    ∀ g, readInventoryDocument host path = .error g → ∃ c, f.cause = some c

/-- The inventory file a failed load names: the manifest, unless it reads as a mapping, and the
components file then. -/
def offendingInventory (host : Host) (mp cp : Files.PathName) : Files.PathName :=
  match readInventoryDocument host mp with
  | .ok (.map _) => cp
  | _ => mp

variable {mp cp : Files.PathName}

theorem offendingInventory_of_mapping {m : List (Value × Value)}
    (manifestRead : readInventoryDocument host mp = .ok (.map m)) :
    offendingInventory host mp cp = cp := by
  simp [offendingInventory, manifestRead]

theorem offendingInventory_of_not_mapping
    (notMapping : ∀ m, readInventoryDocument host mp ≠ .ok (.map m)) :
    offendingInventory host mp cp = mp := by
  unfold offendingInventory
  split
  next m read => exact absurd read (notMapping m)
  next => rfl

/-- A fault about an inventory file whose document was read needs no cause. -/
theorem inventoryFault_of_read {M : Value} (read : readInventoryDocument host path = .ok M)
    (message : String) : InventoryFault host path (.inventoryMalformed message path.text) :=
  ⟨rfl, rfl, fun g failed => by simp [read] at failed⟩

theorem readInventoryDocument_error (failed : readInventoryDocument host path = .error f) :
    InventoryFault host path f ∨ UnhandledReadFault host path id f := by
  unfold readInventoryDocument at failed
  split at failed
  next e _ =>
    cases failed
    exact .inl ⟨rfl, rfl, fun _ _ => ⟨_, rfl⟩⟩
  next e read =>
    cases failed
    exact .inr (.undecodable read)
  next text read =>
    split at failed
    next => cases failed
    next e parsed =>
      cases failed
      rcases yamlFault_cases (.inventoryUnreadable path.text .yaml) e with
        ⟨-, same⟩ | ⟨other, same⟩
      · rw [same]
        exact .inl ⟨rfl, rfl, fun _ _ => ⟨_, rfl⟩⟩
      · rw [same]
        exact .inr (.yamlValue read parsed other)

theorem readInventoryDocument_of_unhandled (unhandled : UnhandledReadFault host path id f) :
    readInventoryDocument host path = .error f := by
  cases unhandled with
  | undecodable read => simp [readInventoryDocument, read]
  | @yamlValue text e read parsed other =>
    have parsed : Yaml.load text = .error e := parsed
    rcases yamlFault_cases (.inventoryUnreadable path.text .yaml) e with
      ⟨malformed, -⟩ | ⟨-, same⟩
    · exact absurd malformed other
    · simp [readInventoryDocument, read, parsed, same]

/-- `item` is the first entry of a section that cannot be indexed. -/
def FirstUnindexable (sec item : Value) : Prop :=
  ∃ pre post, sec = .seq (pre ++ item :: post) ∧ (∀ x ∈ pre, Indexable x) ∧ ¬ Indexable item

/-- `item` is the first entry of the components' sections that cannot be indexed, the container
images coming before the downloaded files. -/
def FirstUnindexableComponent (es : List (Value × Value)) (item : Value) : Prop :=
  FirstUnindexable (componentSection es "ContainerImages") item ∨
    IndexableSection (componentSection es "ContainerImages") ∧
      FirstUnindexable (componentSection es "DownloadFiles") item

variable {file heading : String}

/-- An entry fails to be indexed for want of a true name, a malformed inventory, or for a true
name that cannot be a key. -/
theorem indexEntry_error_cases {item : Value} {indexed : List (Value × Value)}
    (failed : indexEntry file heading indexed item = .error f) :
    (∃ message, f = .inventoryMalformed message file) ∨
      (entryName item).truthy = true ∧ f = .unhashable (entryName item).typeName := by
  cases named : (entryName item).truthy
  · rw [indexEntry_of_unnamed named] at failed
    exact .inl ⟨_, (Except.error.inj failed).symm⟩
  · cases key : (entryName item).hashable
    · rw [indexEntry_of_unhashable named key] at failed
      exact .inr ⟨rfl, (Except.error.inj failed).symm⟩
    · rw [indexEntry_of_indexable (indexable_iff.mpr ⟨named, key⟩)] at failed
      cases failed

theorem indexByName_error_cases {sec : Value} (failed : indexByName sec file heading = .error f) :
    (∃ message, f = .inventoryMalformed message file) ∨
      ∃ item, FirstUnindexable sec item ∧ (entryName item).truthy = true ∧
        f = .unhashable (entryName item).typeName := by
  cases sec
  case seq items =>
    obtain ⟨pre, item, post, rfl, good, bad, failedItem⟩ :=
      foldlM_indexEntry_eq_error_iff.mp failed
    rcases indexEntry_error_cases failedItem with malformed | ⟨named, rfl⟩
    · exact .inl malformed
    · exact .inr ⟨item, ⟨pre, post, rfl, good, bad⟩, named, rfl⟩
  all_goals
    simp only [indexByName, Except.error.injEq] at failed
    exact .inl ⟨_, failed.symm⟩

/-- A section fails to be indexed, unhandled, at its first entry that cannot be indexed when that
entry's name is true. -/
theorem indexByName_of_firstUnindexable {sec item : Value} (first : FirstUnindexable sec item)
    (named : (entryName item).truthy = true) :
    indexByName sec file heading = .error (.unhashable (entryName item).typeName) := by
  obtain ⟨pre, post, rfl, good, bad⟩ := first
  have unkeyed : (entryName item).hashable = false := by
    cases key : (entryName item).hashable
    · rfl
    · exact absurd (indexable_iff.mpr ⟨named, key⟩) bad
  exact foldlM_indexEntry_eq_error_iff.mpr
    ⟨pre, item, post, rfl, good, bad, indexEntry_of_unhashable named unkeyed []⟩

theorem indexSections_error_cases {es : List (Value × Value)}
    (failed : indexSections file es = .error f) :
    (∃ message, f = .inventoryMalformed message file) ∨
      ∃ item, FirstUnindexableComponent es item ∧ (entryName item).truthy = true ∧
        f = .unhashable (entryName item).typeName := by
  rcases bind_eq_error_iff.mp failed with images | ⟨r, imagesOk, rest⟩
  · rcases indexByName_error_cases images with malformed | ⟨item, first, named, rfl⟩
    · exact .inl malformed
    · exact .inr ⟨item, .inl first, named, rfl⟩
  · rcases bind_eq_error_iff.mp rest with files | ⟨r', -, done⟩
    · rcases indexByName_error_cases files with malformed | ⟨item, first, named, rfl⟩
      · exact .inl malformed
      · exact .inr ⟨item, .inr ⟨indexableSection_iff.mpr ⟨r, imagesOk⟩, first⟩, named, rfl⟩
    · cases done

theorem indexSections_of_firstUnindexable {es : List (Value × Value)} {item : Value}
    (first : FirstUnindexableComponent es item) (named : (entryName item).truthy = true) :
    indexSections file es = .error (.unhashable (entryName item).typeName) := by
  rcases first with first | ⟨images, first⟩
  · simp [indexSections, indexByName_of_firstUnindexable first named, bind, Except.bind]
  · have indexed : ∃ r, indexByName (componentSection es "ContainerImages") file
        "ContainerImages" = .ok r := indexableSection_iff.mp images
    obtain ⟨r, imagesOk⟩ := indexed
    simp [indexSections, imagesOk, indexByName_of_firstUnindexable first named, bind,
      Except.bind]

/-- The failures of loading the inventories that nothing handles: an unhandled failure of
reading the manifest; once the manifest is a mapping, one of reading the components; and once the
components have their sections, a true name that cannot be a key, at the first entry of the
sections that cannot be indexed. -/
inductive UnhandledInventoryFault (host : Host) (mp cp : Files.PathName) : Fault → Prop
  | manifest {f : Fault} : UnhandledReadFault host mp id f → UnhandledInventoryFault host mp cp f
  | components {m : List (Value × Value)} {f : Fault} :
    readInventoryDocument host mp = .ok (.map m) → UnhandledReadFault host cp id f →
    UnhandledInventoryFault host mp cp f
  | unhashableName {m es : List (Value × Value)} {C item : Value} :
    readInventoryDocument host mp = .ok (.map m) → readInventoryDocument host cp = .ok C →
    componentsEntries? C = some es → FirstUnindexableComponent es item →
    (entryName item).truthy = true →
    UnhandledInventoryFault host mp cp (.unhashable (entryName item).typeName)

theorem UnhandledInventoryFault.kind_ne (unhandled : UnhandledInventoryFault host mp cp f) :
    f.kind ≠ "CatalogError" := by
  cases unhandled with
  | manifest read => exact read.kind_ne.1
  | components _ read => exact read.kind_ne.1
  | unhashableName => simp [Fault.kind]

/-- A manifest that is not a mapping fails the inventories, whatever the components. -/
theorem readInventories_of_not_mapping {M : Value}
    (manifestRead : readInventoryDocument host mp = .ok M) (notMapping : ∀ m, M ≠ .map m) :
    readInventories host mp cp =
      .error (.inventoryMalformed ("manifest " ++ mp.text ++ " must be a mapping") mp.text) := by
  cases M
  case map m => exact absurd rfl (notMapping m)
  all_goals simp [readInventories, manifestRead, bind, Except.bind, throw, throwThe,
    MonadExceptOf.throw]

/-- Reading the inventories fails with inventory faults naming the offending file, or with the
unhandled failures. -/
theorem readInventories_failsWithin :
    FailsWithin (readInventories host mp cp) (InventoryFault host (offendingInventory host mp cp))
      (UnhandledInventoryFault host mp cp) where
  cases f failed := by
    cases manifestRead : readInventoryDocument host mp with
    | error g =>
      have same : g = f := by
        simpa [readInventories, manifestRead, bind, Except.bind] using failed
      subst same
      rw [offendingInventory_of_not_mapping (by simp [manifestRead])]
      rcases readInventoryDocument_error manifestRead with own | unhandled
      · exact .inl own
      · exact .inr (.manifest unhandled)
    | ok M =>
      by_cases mapping : ∃ m, M = .map m
      · obtain ⟨m, rfl⟩ := mapping
        rw [offendingInventory_of_mapping manifestRead]
        cases componentsRead : readInventoryDocument host cp with
        | error g =>
          have same : g = f := by
            simpa [readInventories, manifestRead, componentsRead, bind, Except.bind] using failed
          subst same
          rcases readInventoryDocument_error componentsRead with own | unhandled
          · exact .inl own
          · exact .inr (.components manifestRead unhandled)
        | ok C =>
          cases entries : componentsEntries? C with
          | none =>
            simp only [readInventories, manifestRead, componentsRead, entries, bind, Except.bind,
              Bool.not_true, Bool.false_eq_true, if_false, throw, throwThe, MonadExceptOf.throw,
              Except.error.injEq] at failed
            subst failed
            exact .inl (inventoryFault_of_read componentsRead _)
          | some es =>
            have indexFailed : indexSections cp.text es = .error f := by
              simp only [readInventories, manifestRead, componentsRead, entries, bind, Except.bind,
                Bool.not_true, Bool.false_eq_true, if_false] at failed
              split at failed
              next indexed =>
                rw [indexed, Except.error.inj failed]
              next => cases failed
            rcases indexSections_error_cases indexFailed with ⟨message, rfl⟩ |
              ⟨item, first, named, rfl⟩
            · exact .inl (inventoryFault_of_read componentsRead message)
            · exact .inr (.unhashableName manifestRead componentsRead entries first named)
      · have notMapping : ∀ m, readInventoryDocument host mp ≠ .ok (.map m) := by
          intro m read
          rw [manifestRead] at read
          exact mapping ⟨m, Except.ok.inj read⟩
        rw [offendingInventory_of_not_mapping notMapping]
        rw [readInventories_of_not_mapping manifestRead fun m same => mapping ⟨m, same⟩] at failed
        cases failed
        exact .inl (inventoryFault_of_read manifestRead _)
  reaches f unhandled := by
    cases unhandled with
    | manifest read =>
      simp [readInventories, readInventoryDocument_of_unhandled read, bind, Except.bind]
    | components manifestRead read =>
      simp [readInventories, manifestRead, readInventoryDocument_of_unhandled read, bind,
        Except.bind]
    | unhashableName manifestRead componentsRead entries first named =>
      simp [readInventories, manifestRead, componentsRead, entries,
        indexSections_of_firstUnindexable first named, bind, Except.bind]
  apart _ unhandled own := unhandled.kind_ne own.1

/-- Loading into a fresh handle fails exactly as reading the inventories does. -/
theorem loadInventories_error_iff (f : Fault) :
    ((loadInventories host mp cp).runOn .empty).1 = .error f ↔
      readInventories host mp cp = .error f := by
  rw [loadInventories_of_not_initialized host mp cp rfl]
  cases readInventories host mp cp with
  | ok r =>
    obtain ⟨mf, ci, df⟩ := r
    simp
  | error g => simp

/-! ## The four loaders -/

/-- A host with the file `/catalog.yaml` holding the byte 0xFF, which starts no UTF-8 character. -/
def undecodableCatalogHost : Host :=
  ⟨⟨[(["catalog.yaml"], .file [0xFF])], []⟩, []⟩

/-- The catalog file of `undecodableCatalogHost`. -/
def undecodableCatalogFile : Files.PathName := ⟨"/", ["catalog.yaml"]⟩

end NodeImage
