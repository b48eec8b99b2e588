import NodeImage.Proofs.Vhd.WriteOnce
import NodeImage.Proofs.Data.Entries

/-! # Inventories indexed by name

Loading the inventories indexes the two sections of the components file, the container
images and the downloaded files, by the names of their entries. An entry can be indexed when
it is a mapping whose `name` is true and can be a key (`Indexable`). Indexing a list goes
entry by entry: it stops at the first entry that cannot be indexed, and otherwise builds the
mapping of the entries by name (`foldlM_indexEntry_eq_ok_iff`, `foldlM_indexEntry_eq_error_iff`).
Such a mapping indexes the list by name (`IndexesByName`): its keys are the names of the
entries, none twice, and each name gives the last entry that has it, so an entry is lost only
to a later one of the same name.

`loadInventories_indexes_by_name` puts this together for two files that read as YAML: the load
returns exactly when the manifest is a mapping, the components are false or a mapping, and
every entry of both sections can be indexed; the handle then holds the manifest as read and
both sections indexed by name.
-/

namespace NodeImage

/-! ## One entry -/

/-- An inventory entry that can be indexed: a mapping whose `name` is true and can be a key. -/
def Indexable (item : Value) : Prop :=
  ∃ fields name, item = .map fields ∧ Value.lookup fields (.str "name") = some name ∧
    name.truthy = true ∧ name.hashable = true

theorem indexable_iff {item : Value} :
    Indexable item ↔ (entryName item).truthy = true ∧ (entryName item).hashable = true := by
  constructor
  · rintro ⟨fields, name, rfl, found, named, key⟩
    simp [entryName, found, named, key]
  · intro ⟨named, key⟩
    cases item
    case map fields =>
      cases found : Value.lookup fields (.str "name") with
      | none => simp [entryName, found, Value.truthy] at named
      | some name =>
        simp only [entryName, found, Option.getD_some] at named key
        exact ⟨fields, name, rfl, found, named, key⟩
    all_goals simp [entryName, Value.truthy] at named

variable {path heading : String}

theorem indexEntry_of_indexable {item : Value} (indexable : Indexable item)
    (indexed : List (Value × Value)) :
    indexEntry path heading indexed item = .ok (Value.insertEntry indexed (entryName item, item)) := by
  obtain ⟨named, key⟩ := indexable_iff.mp indexable
  simp [indexEntry, named, key, pure, Except.pure]

/-- An entry without a true name is a malformed inventory. -/
theorem indexEntry_of_unnamed {item : Value} (unnamed : (entryName item).truthy = false)
    (indexed : List (Value × Value)) :
    indexEntry path heading indexed item =
      .error (.inventoryMalformed (heading ++ " entry without a name in " ++ path) path) := by
  simp [indexEntry, unnamed, bind, Except.bind, throw, throwThe, MonadExceptOf.throw]

/-- A true name that cannot be a key fails as unhashable. -/
theorem indexEntry_of_unhashable {item : Value} (named : (entryName item).truthy = true)
    (unkeyed : (entryName item).hashable = false) (indexed : List (Value × Value)) :
    indexEntry path heading indexed item = .error (.unhashable (entryName item).typeName) := by
  simp [indexEntry, named, unkeyed, bind, Except.bind, throw, throwThe, MonadExceptOf.throw]

/-- An entry that cannot be indexed fails whatever was indexed before it. -/
theorem indexEntry_of_not_indexable {item : Value} (bad : ¬ Indexable item) (path heading : String)
    (indexed indexed' : List (Value × Value)) :
    ∃ f, indexEntry path heading indexed item = .error f ∧
      indexEntry path heading indexed' item = .error f := by
  cases named : (entryName item).truthy
  · exact ⟨_, indexEntry_of_unnamed named indexed, indexEntry_of_unnamed named indexed'⟩
  · cases key : (entryName item).hashable
    · exact ⟨_, indexEntry_of_unhashable named key indexed,
        indexEntry_of_unhashable named key indexed'⟩
    · exact absurd (indexable_iff.mpr ⟨named, key⟩) bad

/-! ## A list of entries -/

theorem foldlM_indexEntry_eq_ok_iff {items : List Value} {acc r : List (Value × Value)} :
    items.foldlM (indexEntry path heading) acc = .ok r ↔
      (∀ item ∈ items, Indexable item) ∧
        r = (items.map fun item => (entryName item, item)).foldl Value.insertEntry acc := by
  induction items generalizing acc with
  | nil =>
    simp only [List.foldlM_nil, List.not_mem_nil, false_implies, implies_true, true_and,
      List.map_nil, List.foldl_nil]
    exact ⟨fun same => (Except.ok.inj same).symm, fun same => congrArg Except.ok same.symm⟩
  | cons item items ih =>
    rw [List.foldlM_cons]
    by_cases indexable : Indexable item
    · rw [indexEntry_of_indexable indexable]
      simp only [bind, Except.bind, ih, List.forall_mem_cons, indexable, true_and, List.map_cons,
        List.foldl_cons]
    · obtain ⟨f, failed, -⟩ := indexEntry_of_not_indexable indexable path heading acc acc
      simp only [failed, bind, Except.bind, reduceCtorEq, false_iff, not_and,
        List.forall_mem_cons]
      exact fun all => absurd all.1 indexable

/-- Indexing stops at the first entry that cannot be indexed, with that entry's failure. -/
theorem foldlM_indexEntry_eq_error_iff {items : List Value} {acc : List (Value × Value)}
    {f : Fault} :
    items.foldlM (indexEntry path heading) acc = .error f ↔
      ∃ pre item post, items = pre ++ item :: post ∧ (∀ x ∈ pre, Indexable x) ∧
        ¬ Indexable item ∧ indexEntry path heading [] item = .error f := by
  induction items generalizing acc with
  | nil => simp [pure, Except.pure]
  | cons item items ih =>
    rw [List.foldlM_cons]
    by_cases indexable : Indexable item
    · rw [indexEntry_of_indexable indexable]
      simp only [bind, Except.bind, ih]
      constructor
      · rintro ⟨pre, bad, post, rfl, good, notGood, failed⟩
        refine ⟨item :: pre, bad, post, rfl, ?_, notGood, failed⟩
        exact List.forall_mem_cons.mpr ⟨indexable, good⟩
      · rintro ⟨pre, bad, post, split, good, notGood, failed⟩
        cases pre with
        | nil =>
          obtain ⟨rfl, -⟩ := List.cons.inj split
          exact absurd indexable notGood
        | cons first pre =>
          obtain ⟨rfl, rfl⟩ := List.cons.inj split
          exact ⟨pre, bad, post, rfl, fun x mem => good x (List.mem_cons_of_mem _ mem),
            notGood, failed⟩
    · obtain ⟨f', failed, failed'⟩ := indexEntry_of_not_indexable indexable path heading acc []
      simp only [failed, bind, Except.bind, Except.error.injEq]
      constructor
      · rintro rfl
        exact ⟨[], item, items, rfl, by simp, indexable, failed'⟩
      · rintro ⟨pre, bad, post, split, good, notGood, failedBad⟩
        cases pre with
        | nil =>
          obtain ⟨rfl, -⟩ := List.cons.inj split
          exact Except.error.inj (failed'.symm.trans failedBad)
        | cons first pre =>
          obtain ⟨rfl, -⟩ := List.cons.inj split
          exact absurd (good item List.mem_cons_self) indexable

/-- A mapping that indexes a list of entries by name: its keys are names of the entries, and
every name of an entry is one of them, none twice; each name gives the last entry that has it. -/
def IndexesByName (items : List Value) (index : List (Value × Value)) : Prop :=
  (∀ e ∈ index, ∃ item ∈ items, e.1 = entryName item) ∧
  (∀ key, (∃ e ∈ index, Value.sameKey e.1 key = true) ↔
    ∃ item ∈ items, Value.sameKey (entryName item) key = true) ∧
  Value.DistinctKeys index ∧
  ∀ key, Value.lookup index key = items.reverse.find? fun item => Value.sameKey (entryName item) key

theorem indexesByName_entriesOf (items : List Value) :
    IndexesByName items (Value.entriesOf (items.map fun item => (entryName item, item))) := by
  obtain ⟨keysNamed, keysIff⟩ := Value.keys_entriesOf (items.map fun item => (entryName item, item))
  refine ⟨fun e mem => ?_, fun key => ?_, Value.distinctKeys_entriesOf _, fun key => ?_⟩
  · obtain ⟨p, memP, same⟩ := keysNamed e mem
    obtain ⟨item, memItem, rfl⟩ := List.mem_map.mp memP
    exact ⟨item, memItem, same⟩
  · rw [keysIff key]
    constructor
    · rintro ⟨p, memP, same⟩
      obtain ⟨item, memItem, rfl⟩ := List.mem_map.mp memP
      exact ⟨item, memItem, same⟩
    · rintro ⟨item, memItem, same⟩
      exact ⟨_, List.mem_map_of_mem memItem, same⟩
  · rw [Value.lookup_entriesOf, ← List.map_reverse, List.find?_map, Option.map_map]
    simp [Function.comp_def]

/-! ## Sections -/

/-- A section whose entries can all be indexed: a list of mappings with true key names. -/
def IndexableSection (sec : Value) : Prop :=
  ∃ items, sec = .seq items ∧ ∀ item ∈ items, Indexable item

/-- A section and its index: a list, and a mapping that indexes it by name. -/
def IndexedSection (sec index : Value) : Prop :=
  ∃ items entries, sec = .seq items ∧ index = .map entries ∧ IndexesByName items entries

theorem indexByName_eq_ok_iff {sec : Value} {r : List (Value × Value)} :
    indexByName sec path heading = .ok r ↔
      ∃ items, sec = .seq items ∧ (∀ item ∈ items, Indexable item) ∧
        r = Value.entriesOf (items.map fun item => (entryName item, item)) := by
  cases sec
  case seq items =>
    simp only [indexByName, foldlM_indexEntry_eq_ok_iff, Value.seq.injEq, exists_eq_left']
    rfl
  all_goals simp [indexByName]

theorem indexedSection_of_indexByName {sec : Value} {r : List (Value × Value)}
    (indexed : indexByName sec path heading = .ok r) : IndexedSection sec (.map r) := by
  obtain ⟨items, rfl, -, rfl⟩ := indexByName_eq_ok_iff.mp indexed
  exact ⟨items, _, rfl, rfl, indexesByName_entriesOf items⟩

/-- A section can be indexed exactly when indexing it gives an index. -/
theorem indexableSection_iff {sec : Value} :
    IndexableSection sec ↔ ∃ r, indexByName sec path heading = .ok r := by
  constructor
  · rintro ⟨items, rfl, all⟩
    exact ⟨_, indexByName_eq_ok_iff.mpr ⟨items, rfl, all, rfl⟩⟩
  · rintro ⟨r, indexed⟩
    obtain ⟨items, rfl, all, -⟩ := indexByName_eq_ok_iff.mp indexed
    exact ⟨items, rfl, all⟩

theorem indexSections_eq_ok_iff {entries : List (Value × Value)} {ci df : Value} :
    indexSections path entries = .ok (ci, df) ↔
      ∃ images files, indexByName (componentSection entries "ContainerImages") path
          "ContainerImages" = .ok images ∧
        indexByName (componentSection entries "DownloadFiles") path "DownloadFiles" = .ok files ∧
        ci = .map images ∧ df = .map files := by
  simp only [indexSections, bind_eq_ok_iff]
  constructor
  · rintro ⟨images, imagesOk, files, filesOk, same⟩
    cases same
    exact ⟨images, files, imagesOk, filesOk, rfl, rfl⟩
  · rintro ⟨images, files, imagesOk, filesOk, rfl, rfl⟩
    exact ⟨images, imagesOk, files, filesOk, rfl⟩

/-! ## The components document -/

/-- The components are a mapping, or a false document that counts as an empty one. -/
theorem componentsEntries?_eq_some_iff {C : Value} {es : List (Value × Value)} :
    componentsEntries? C = some es ↔ C = .map es ∨ C.truthy = false ∧ es = [] := by
  unfold componentsEntries?
  split
  next entries =>
    simp only [Option.some.injEq, Value.map.injEq, Value.truthy, Bool.not_eq_false',
      List.isEmpty_iff]
    constructor
    · exact .inl
    · rintro (same | ⟨rfl, rfl⟩) <;> trivial
  next notMap =>
    have other : C ≠ .map es := notMap es
    cases truth : C.truthy <;> simp [other, eq_comm]

/-- With both files read, the inventories read exactly when the manifest is a mapping and the
components give entries whose two sections index. -/
theorem readInventories_eq_ok_iff {host : Host} {mp cp : Files.PathName} {M C : Value}
    (manifestRead : readInventoryDocument host mp = .ok M)
    (componentsRead : readInventoryDocument host cp = .ok C) {M' ci df : Value} :
    readInventories host mp cp = .ok (M', ci, df) ↔
      M' = M ∧ (∃ m, M = .map m) ∧
        ∃ es, componentsEntries? C = some es ∧ indexSections cp.text es = .ok (ci, df) := by
  cases M
  case map m =>
    simp only [readInventories, manifestRead, componentsRead, bind_eq_ok_iff, Except.ok.injEq,
      exists_eq_left', Bool.not_true, Bool.false_eq_true, if_false]
    cases entries : componentsEntries? C with
    | none => simp [throw, throwThe, MonadExceptOf.throw]
    | some es =>
      simp only [bind_eq_ok_iff, Option.some.injEq, exists_eq_left', Value.map.injEq,
        exists_eq', true_and]
      constructor
      · rintro ⟨⟨images, files⟩, indexed, same⟩
        cases same
        exact ⟨rfl, indexed⟩
      · rintro ⟨rfl, indexed⟩
        exact ⟨(ci, df), indexed, rfl⟩
  all_goals simp [readInventories, manifestRead, bind_eq_ok_iff]

/-! ## Loading -/

/-- On unfilled inventories loading stores what it read, or fails with the reading's error and
changes nothing. -/
theorem loadInventories_of_not_initialized (host : Host) (mp cp : Files.PathName)
    {inv : Inventories} (unfilled : inv.initialized = false) :
    (loadInventories host mp cp).runOn inv =
      match readInventories host mp cp with
      | .ok (mf, ci, df) =>
        (.ok (), { inv with manifest := mf, containerImages := ci, downloadedFiles := df })
      | .error f => (.error f, inv) := by
  simp only [loadInventories, InventoryM.runOn_bind, InventoryM.runOn_lift]
  rcases read : readInventories host mp cp with f | ⟨mf, ci, df⟩
  · rfl
  · obtain ⟨-, ⟨images, rfl⟩, ⟨files, rfl⟩⟩ := readInventories_filled read
    simp [fill_of_not_initialized unfilled, requireLength, Except.bind]

/-- Loading into a fresh handle returns only after the inventories read, and the handle then
holds what they read. -/
theorem readInventories_of_loaded {host : Host} {mp cp : Files.PathName} {inv : Inventories}
    (ran : (loadInventories host mp cp).runOn .empty = (.ok (), inv)) :
    readInventories host mp cp = .ok (inv.manifest, inv.containerImages, inv.downloadedFiles) := by
  rw [loadInventories_of_not_initialized host mp cp rfl] at ran
  rcases read : readInventories host mp cp with f | ⟨mf, ci, df⟩
  · rw [read] at ran
    cases ran
  · rw [read] at ran
    cases ran
    rfl

/-- Inventories that read are loaded into a fresh handle. -/
theorem loadInventories_of_read {host : Host} {mp cp : Files.PathName} {r : Value × Value × Value}
    (read : readInventories host mp cp = .ok r) :
    ∃ inv, (loadInventories host mp cp).runOn .empty = (.ok (), inv) := by
  rw [loadInventories_of_not_initialized host mp cp rfl, read]
  exact ⟨_, rfl⟩

/-- Loading two files that read as YAML documents `M` and `C` into a fresh handle returns
exactly when `M` is a mapping, `C` is false (an empty mapping) or a mapping, and both of its
sections, an empty list when absent, are lists whose entries can be indexed. The handle then
holds `M` as read, and each section indexed by name: its keys are the names of its entries,
none twice, and each name gives the last entry that has it. -/
theorem loadInventories_indexes_by_name (host : Host) (mp cp : Files.PathName) {M C : Value}
    (manifestRead : readInventoryDocument host mp = .ok M)
    (componentsRead : readInventoryDocument host cp = .ok C) :
    ((∃ inv, (loadInventories host mp cp).runOn .empty = (.ok (), inv)) ↔
      (∃ m, M = .map m) ∧ ∃ es, (C = .map es ∨ C.truthy = false ∧ es = []) ∧
        IndexableSection (componentSection es "ContainerImages") ∧
        IndexableSection (componentSection es "DownloadFiles")) ∧
    ∀ inv, (loadInventories host mp cp).runOn .empty = (.ok (), inv) →
      inv.manifest = M ∧ ∃ es, (C = .map es ∨ C.truthy = false ∧ es = []) ∧
        IndexedSection (componentSection es "ContainerImages") inv.containerImages ∧
        IndexedSection (componentSection es "DownloadFiles") inv.downloadedFiles := by
  refine ⟨⟨fun ⟨inv, ran⟩ => ?_, fun ⟨mapping, es, entries, images, files⟩ => ?_⟩, fun inv ran => ?_⟩
  · obtain ⟨-, mapping, es, entries, indexed⟩ :=
      (readInventories_eq_ok_iff manifestRead componentsRead).mp (readInventories_of_loaded ran)
    obtain ⟨images, files, imagesOk, filesOk, -, -⟩ := indexSections_eq_ok_iff.mp indexed
    exact ⟨mapping, es, componentsEntries?_eq_some_iff.mp entries,
      indexableSection_iff.mpr ⟨images, imagesOk⟩, indexableSection_iff.mpr ⟨files, filesOk⟩⟩
  · obtain ⟨imagesIndex, imagesOk⟩ := indexableSection_iff.mp images
    obtain ⟨filesIndex, filesOk⟩ := indexableSection_iff.mp files
    exact loadInventories_of_read ((readInventories_eq_ok_iff manifestRead componentsRead).mpr
      ⟨rfl, mapping, es, componentsEntries?_eq_some_iff.mpr entries,
        indexSections_eq_ok_iff.mpr ⟨imagesIndex, filesIndex, imagesOk, filesOk, rfl, rfl⟩⟩)
  · obtain ⟨manifest, -, es, entries, indexed⟩ :=
      (readInventories_eq_ok_iff manifestRead componentsRead).mp (readInventories_of_loaded ran)
    obtain ⟨images, files, imagesOk, filesOk, imagesSame, filesSame⟩ :=
      indexSections_eq_ok_iff.mp indexed
    rw [imagesSame, filesSame]
    exact ⟨manifest, es, componentsEntries?_eq_some_iff.mp entries,
      indexedSection_of_indexByName imagesOk, indexedSection_of_indexByName filesOk⟩

/-- A manifest, and components whose container images name `a` twice. -/
def duplicateNameHost : Host :=
  ⟨⟨[(["inv"], .dir), (["inv", "manifest.yaml"], .file (Text.Utf8.encode "kind: vhd\n")),
    (["inv", "components.yaml"], .file (Text.Utf8.encode
      "ContainerImages:\n- name: a\n  v: 1\n- name: a\n  v: 2\n"))], []⟩, []⟩

/-- The manifest of `duplicateNameHost`. -/
def duplicateNameManifest : Files.PathName := ⟨"/", ["inv", "manifest.yaml"]⟩

/-- The components of `duplicateNameHost`. -/
def duplicateNameComponents : Files.PathName := ⟨"/", ["inv", "components.yaml"]⟩

theorem loadInventories_indexes_duplicate_names :
    ∃ M C, readInventoryDocument duplicateNameHost duplicateNameManifest = .ok M ∧
      readInventoryDocument duplicateNameHost duplicateNameComponents = .ok C ∧
      ((∃ inv, (loadInventories duplicateNameHost duplicateNameManifest
          duplicateNameComponents).runOn .empty = (.ok (), inv)) ↔
        (∃ m, M = .map m) ∧ ∃ es, (C = .map es ∨ C.truthy = false ∧ es = []) ∧
          IndexableSection (componentSection es "ContainerImages") ∧
          IndexableSection (componentSection es "DownloadFiles")) ∧
      ∀ inv, (loadInventories duplicateNameHost duplicateNameManifest
          duplicateNameComponents).runOn .empty = (.ok (), inv) →
        inv.manifest = M ∧ ∃ es, (C = .map es ∨ C.truthy = false ∧ es = []) ∧
          IndexedSection (componentSection es "ContainerImages") inv.containerImages ∧
          IndexedSection (componentSection es "DownloadFiles") inv.downloadedFiles := by
  have manifestOk : (readInventoryDocument duplicateNameHost duplicateNameManifest
      matches .ok _) = true := by
    decide +kernel
  have componentsOk : (readInventoryDocument duplicateNameHost duplicateNameComponents
      matches .ok _) = true := by
    decide +kernel
  cases manifestRead : readInventoryDocument duplicateNameHost duplicateNameManifest with
  | error f => simp [manifestRead] at manifestOk
  | ok M =>
    cases componentsRead : readInventoryDocument duplicateNameHost duplicateNameComponents with
    | error f => simp [componentsRead] at componentsOk
    | ok C =>
      exact ⟨M, C, rfl, rfl, loadInventories_indexes_by_name duplicateNameHost
        duplicateNameManifest duplicateNameComponents manifestRead componentsRead⟩

end NodeImage
