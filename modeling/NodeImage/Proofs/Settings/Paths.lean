import NodeImage.Settings.Load
import NodeImage.Proofs.Data.Entries
import NodeImage.Proofs.Catalog.Environment

/-!
# Paths in a settings file

A settings file names paths relative to itself. Before its document is checked, every text
value under a text key ending in `_file` or `_dir` is read as a path, a leading `~` is put for
the home directory, and the path is kept when it is then absolute and taken from the file's
directory otherwise (`settingsPath`). Every other entry reaches the check as it is.

Main statements:

* `loadSettingsFile_eq`: for a file whose document is a mapping, with `HOME` set, whose text
  values all sit under text keys and whose path values name no other user's home, loading
  is the check of the rewritten mapping, unless the home directory itself starts with `~`
  and some path value starts at it, which fails with `unknownHome`.
* `loadSettingsFile_paths_absolute`: whatever the file holds, settings read from a file at an
  absolute path hold absolute paths only.

A path is read the way the path object reads it: `./~/x` starts at the home directory as
`~/x` does, and a home directory of `~x` cannot be named (`loadSettings_refuses_tilde_home`).
-/

namespace NodeImage.Files.PathName

/-! ## Roots -/

/-- A root that a path text can give: none, one slash or two. -/
def RootForm (p : PathName) : Prop := p.root = "" ∨ p.root = "/" ∨ p.root = "//"

theorem parse_rootForm (s : String) : (parse s).RootForm := by
  unfold parse RootForm
  dsimp only
  split
  · exact .inl rfl
  · split
    · exact .inr (.inr rfl)
    · exact .inr (.inl rfl)

theorem join_rootForm {p q : PathName} (formP : p.RootForm) (formQ : q.RootForm) :
    (p.join q).RootForm := by
  unfold join
  split
  · exact formQ
  · exact formP

theorem join_isAbsolute {p q : PathName} (absolute : p.isAbsolute) : (p.join q).isAbsolute := by
  unfold join
  split
  · assumption
  · exact absolute

/-- Joining keeps an absolute path, so a join that is first asked for absoluteness is a join. -/
theorem if_isAbsolute_join (p q : PathName) : (if q.isAbsolute then q else p.join q) = p.join q := by
  unfold join
  split <;> rfl

/-- Expanding the home directory keeps a path or puts the home directory before its names. -/
theorem expandHome_cases {home : String} {p q : PathName} (expanded : expandHome home p = some q) :
    q = p ∨ ∃ rest, q = (homeOf home).join ⟨"", rest⟩ := by
  unfold expandHome at expanded
  split at expanded
  · split at expanded
    · split at expanded
      · simp at expanded
      · exact .inr ⟨_, (Option.some.inj expanded).symm⟩
    · split at expanded
      · simp at expanded
      · exact .inl (Option.some.inj expanded).symm
  · exact .inl (Option.some.inj expanded).symm

theorem expandHome_rootForm {home : String} {p q : PathName} (form : p.RootForm)
    (expanded : expandHome home p = some q) : q.RootForm := by
  rcases expandHome_cases expanded with rfl | ⟨rest, rfl⟩
  · exact form
  · exact join_rootForm (parse_rootForm _) (.inl rfl)

/-- The text of an absolute path reads back as an absolute path: it starts with a slash. -/
theorem isAbsolute_parse_text {p : PathName} (form : p.RootForm) (absolute : p.isAbsolute) :
    (parse p.text).isAbsolute := by
  have leading : ∃ rest, p.text.toList = '/' :: rest := by
    rcases form with root | root | root
    · simp [isAbsolute, root] at absolute
    · exact ⟨("/".intercalate p.names).toList, by simp [text, root]⟩
    · exact ⟨'/' :: ("/".intercalate p.names).toList, by simp [text, root]⟩
  obtain ⟨rest, chars⟩ := leading
  unfold parse isAbsolute
  simp only [chars, List.takeWhile_cons]
  simp
  split <;> decide

end NodeImage.Files.PathName

namespace NodeImage

open Files Schema

/-! ## Checking settings -/

theorem Checked.both_eq_ok {α β : Type} {a : Checked α} {b : Checked β} {x : α} {y : β} :
    Checked.both a b = .ok (x, y) ↔ a = .ok x ∧ b = .ok y := by
  cases a <;> cases b <;> simp [Checked.both]

theorem Checked.under_eq_ok {α : Type} {c : Checked α} {step : Step} {a : α} :
    c.under step = .ok a ↔ c = .ok a := by
  cases c <;> simp [Checked.under]

theorem Value.eq_str_of_sameKey {k : Value} {key : String} (same : Value.sameKey k (.str key) = true) :
    k = .str key := by
  obtain ⟨form, formK, formKey⟩ := Value.sameKey_iff.mp same
  cases formKey
  cases k <;> simp_all [Value.keyForm?]
  -- a timestamp's key form is never text
  split at formK <;> cases formK

theorem Value.mem_of_lookup_str {E : List (Value × Value)} {key : String} {v : Value}
    (found : Value.lookup E (.str key) = some v) : (.str key, v) ∈ E := by
  unfold Value.lookup at found
  obtain ⟨⟨k, v'⟩, first, same⟩ := Option.map_eq_some_iff.mp found
  have keyed := List.find?_some first
  obtain rfl : k = .str key := Value.eq_str_of_sameKey keyed
  obtain rfl : v' = v := same
  exact List.mem_of_find?_eq_some first

/-- The path settings that are set. -/
def Settings.paths (s : Settings) : List PathName :=
  [s.legacyCatalogFile, s.sigCatalogFile, s.togglesFile, s.vhdManifestFile, s.vhdComponentsFile,
    s.templatesDir, s.logDir].filterMap id

/-- A path field that is set holds the path of the text under its key. -/
theorem Settings.pathField_eq_some {E : List (Value × Value)} {name : String} {p : PathName}
    (read : Settings.pathField E name = .ok (some p)) :
    ∃ t, Value.lookup E (.str name) = some (.str t) ∧ p = PathName.parse t := by
  unfold Settings.pathField withDefault at read
  split at read
  · rename_i v found
    rw [Checked.under_eq_ok] at read
    cases v with
    | str t => exact ⟨t, found, (Option.some.inj (Except.ok.inj read)).symm⟩
    | _ => cases read
  · cases read

/-- Every path setting of checked settings is the path of a text under a path key. -/
theorem Settings.check_paths {E : List (Value × Value)} {s : Settings}
    (checked : Settings.check (.map E) = .ok s) :
    ∀ p ∈ s.paths, ∃ key t, isPathKey key ∧ Value.lookup E (.str key) = some (.str t) ∧
      p = PathName.parse t := by
  unfold Settings.check model at checked
  obtain ⟨⟨⟨legacy, sig, toggles, manifest, components⟩, templates, logs, level, events⟩, fields, paired⟩ :=
    bind_eq_ok_iff.mp checked
  simp only [Checked.both_eq_ok] at fields
  obtain ⟨⟨legacyOk, sigOk, togglesOk, manifestOk, componentsOk⟩, templatesOk, logsOk, -⟩ := fields
  dsimp only at paired
  split at paired
  · obtain rfl := Except.ok.inj paired
    intro p member
    simp only [Settings.paths, List.mem_filterMap, List.mem_cons, List.not_mem_nil, or_false, id] at member
    have fromField : ∀ key, isPathKey key = true → Settings.pathField E key = .ok (some p) →
        ∃ key t, isPathKey key = true ∧ Value.lookup E (.str key) = some (.str t) ∧ p = PathName.parse t := by
      intro key pathKey read
      obtain ⟨t, found, same⟩ := Settings.pathField_eq_some read
      exact ⟨key, t, pathKey, found, same⟩
    -- each path setting is read from the field of its own key
    obtain ⟨field, which, rfl⟩ := member
    rcases which with rfl | rfl | rfl | rfl | rfl | rfl | rfl
    · exact fromField _ (by decide +kernel) legacyOk
    · exact fromField _ (by decide +kernel) sigOk
    · exact fromField _ (by decide +kernel) togglesOk
    · exact fromField _ (by decide +kernel) manifestOk
    · exact fromField _ (by decide +kernel) componentsOk
    · exact fromField _ (by decide +kernel) templatesOk
    · exact fromField _ (by decide +kernel) logsOk
  · cases paired

/-! ## Resolving a path value -/

/-- Whether a path value starts at the home directory: read as a path, it has no root and its
first name is `~`. -/
def startsAtHome (value : String) : Bool :=
  match PathName.parse value with
  | ⟨"", "~" :: _⟩ => true
  | _ => false

/-- Whether a path value starts at another user's home directory: read as a path, it has no
root and its first name is `~name`. -/
def startsAtOtherHome (value : String) : Bool :=
  match PathName.parse value with
  | ⟨"", first :: _⟩ => first != "~" && first.startsWith "~"
  | _ => false

/-- The path a settings file names by a text value, from the file's directory `base`: the
value read as a path, its leading `~` standing for the home directory, kept when it is absolute
and taken from `base` when it is not. -/
def settingsPath (home : String) (base : PathName) (value : String) : PathName :=
  let path := PathName.parse value
  let expanded := if startsAtHome value then (PathName.homeOf home).join ⟨"", path.names.tail⟩ else path
  if expanded.isAbsolute then expanded else base.join expanded

/-- The failure of a path value whose home directory cannot be named. -/
def unknownHome : Fault := .uncaught "RuntimeError" "Could not determine home directory."

theorem expandHome_parse {home value : String} (own : startsAtOtherHome value = false) :
    PathName.expandHome home (PathName.parse value) =
      if startsAtHome value then
        if home.startsWith "~" then none
        else some ((PathName.homeOf home).join ⟨"", (PathName.parse value).names.tail⟩)
      else some (PathName.parse value) := by
  unfold startsAtHome
  unfold startsAtOtherHome at own
  generalize PathName.parse value = path at *
  obtain ⟨root, names⟩ := path
  -- only a path with no root whose first name starts with `~` is expanded
  by_cases rootless : root = ""
  · subst rootless
    cases names with
    | nil => rfl
    | cons first rest =>
      by_cases tilde : first = "~"
      · subst tilde
        rfl
      · have other : first.startsWith "~" = false := by simpa [tilde] using own
        simp [PathName.expandHome, tilde, other]
  · simp [PathName.expandHome, rootless]

/-- With `HOME` set, a value that names no other user's home resolves to the path it names,
unless it starts at a home directory that itself starts with `~`. -/
theorem resolveSettingsPath_eq {host : Host} {home : String} (homeSet : host.getEnv "HOME" = some home)
    (base : PathName) {value : String} (own : startsAtOtherHome value = false) :
    resolveSettingsPath host base value =
      if home.startsWith "~" && startsAtHome value then .error unknownHome
      else .ok (settingsPath home base value) := by
  unfold resolveSettingsPath settingsPath
  dsimp only
  rw [homeSet, Option.getD_some, PathName.if_isAbsolute_join, expandHome_parse own]
  cases startsAtHome value <;> cases home.startsWith "~" <;> rfl

/-- Taken from an absolute directory, a path value names an absolute path. -/
theorem resolveSettingsPath_absolute {host : Host} {base q : PathName} {value : String}
    (resolved : resolveSettingsPath host base value = .ok q) (form : base.RootForm)
    (absolute : base.isAbsolute) : q.RootForm ∧ q.isAbsolute := by
  unfold resolveSettingsPath at resolved
  split at resolved
  · rename_i p expanded
    cases resolved
    exact ⟨PathName.join_rootForm form (PathName.expandHome_rootForm (PathName.parse_rootForm value) expanded),
      PathName.join_isAbsolute absolute⟩
  · cases resolved

/-! ## Resolving the entries -/

/-- Whether an entry's key is text whenever its value is. -/
def keyedByText : Value × Value → Bool
  | (.str _, _) => true
  | (_, .str _) => false
  | _ => true

/-- Whether an entry names a path that starts at another user's home directory. -/
def atOtherHome : Value × Value → Bool
  | (.str key, .str value) => isPathKey key && startsAtOtherHome value
  | _ => false

/-- Whether an entry names a path that starts at the home directory. -/
def atHome : Value × Value → Bool
  | (.str key, .str value) => isPathKey key && startsAtHome value
  | _ => false

/-- A settings entry as it is checked: a text value under a key that names a path becomes the
text of the path it names; every other entry is kept. -/
def settingsEntry (home : String) (base : PathName) : Value × Value → Value × Value
  | (.str key, .str value) =>
    if isPathKey key then (.str key, .str (settingsPath home base value).text) else (.str key, .str value)
  | entry => entry

/-- An entry whose text value sits under a text key, and names no other user's home when it is a
path, resolves to its checked form, unless it starts at a home directory that starts with `~`. -/
theorem resolveSettingsEntry_eq {host : Host} {home : String} (homeSet : host.getEnv "HOME" = some home)
    (base : PathName) {entry : Value × Value} (keyed : keyedByText entry) (own : atOtherHome entry = false) :
    resolveSettingsEntry host base entry =
      if home.startsWith "~" && atHome entry then .error unknownHome
      else .ok (settingsEntry home base entry) := by
  unfold resolveSettingsEntry
  split
  · rename_i key value
    by_cases pathKey : isPathKey key
    · simp only [atOtherHome, pathKey, Bool.true_and] at own
      simp only [pathKey, if_true, atHome, settingsEntry, Bool.true_and]
      rw [resolveSettingsPath_eq homeSet base own]
      cases home.startsWith "~" && startsAtHome value <;> rfl
    · simp [pathKey, atHome, settingsEntry]
  -- a text value under a key that is not text contradicts `keyed`
  · simp [keyedByText] at keyed
  · rename_i key _ _ _
    cases key <;> simp_all [keyedByText]
  · obtain ⟨key, value⟩ := entry
    cases value <;> simp_all [atHome, settingsEntry]

/-- A resolved entry with a text value under a path key holds the text of a resolved path. -/
theorem resolveSettingsEntry_pathValue {host : Host} {base : PathName} {entry : Value × Value}
    {key t : String} (resolved : resolveSettingsEntry host base entry = .ok (.str key, .str t))
    (pathKey : isPathKey key) :
    ∃ value q, resolveSettingsPath host base value = .ok q ∧ t = q.text := by
  unfold resolveSettingsEntry at resolved
  split at resolved
  · rename_i key' value
    split at resolved
    · obtain ⟨q, found, done⟩ := bind_eq_ok_iff.mp resolved
      cases done
      exact ⟨value, q, found, rfl⟩
    · rename_i notPathKey
      cases resolved
      exact absurd pathKey notPathKey
  · cases resolved
  · cases resolved
  · rename_i notText
    cases resolved
    exact absurd rfl (notText _ _)

/-- A traversal whose every step fails with `e` or gives `g x` fails with `e` when some step
fails, and gives the images under `g` otherwise. -/
theorem mapM_eq_of_each {α β ε : Type} {f : α → Except ε β} {g : α → β} {bad : α → Bool} {e : ε} :
    ∀ {xs : List α}, (∀ x ∈ xs, f x = if bad x then .error e else .ok (g x)) →
      xs.mapM f = if xs.any bad then .error e else .ok (xs.map g)
  | [], _ => rfl
  | x :: rest, each => by
    rw [List.mapM_cons, each x List.mem_cons_self,
      mapM_eq_of_each fun y member => each y (List.mem_cons_of_mem x member), List.any_cons]
    cases bad x <;> cases rest.any bad <;> rfl

/-- Every result of a traversal that succeeds is the result of a step. -/
theorem mapM_ok_mem {α β ε : Type} {f : α → Except ε β} :
    ∀ {xs : List α} {ys : List β}, xs.mapM f = .ok ys → ∀ y ∈ ys, ∃ x ∈ xs, f x = .ok y
  | [], ys, mapped => by
    cases mapped
    simp
  | x :: rest, ys, mapped => by
    rw [List.mapM_cons] at mapped
    obtain ⟨y, first, later⟩ := bind_eq_ok_iff.mp mapped
    obtain ⟨ys', others, done⟩ := bind_eq_ok_iff.mp later
    cases done
    intro z member
    rcases List.mem_cons.mp member with rfl | inRest
    · exact ⟨x, List.mem_cons_self, first⟩
    · obtain ⟨w, wMem, wOk⟩ := mapM_ok_mem others z inRest
      exact ⟨w, List.mem_cons_of_mem x wMem, wOk⟩

/-! ## Loading a settings file -/

theorem loadSettings_some (host : Host) (path : PathName) :
    loadSettings host (some path) = loadSettingsFile host path := rfl

/-- Loading a file whose document is a mapping is the check of the mapping with its path values
resolved, or `unknownHome` when the home directory starts with `~` and a path value starts at
it. -/
theorem loadSettingsFile_eq {host : Host} {path : PathName} {text home : String}
    {D : List (Value × Value)} (read : host.readText path = .ok text)
    (document : Yaml.load (expandVars host.getEnv text) = .ok (.map D))
    (homeSet : host.getEnv "HOME" = some home)
    (keyed : ∀ e ∈ D, keyedByText e) (own : ∀ e ∈ D, atOtherHome e = false) :
    loadSettingsFile host path =
      if home.startsWith "~" && D.any atHome then .error unknownHome
      else (Settings.check (.map (D.map (settingsEntry home path.parent)))).mapError .invalid := by
  have resolved := mapM_eq_of_each fun e member =>
    resolveSettingsEntry_eq homeSet path.parent (keyed e member) (own e member)
  have failing : (D.any fun e => home.startsWith "~" && atHome e) = (home.startsWith "~" && D.any atHome) := by
    cases home.startsWith "~" <;> simp
  rw [failing] at resolved
  -- an empty mapping is false, and stands for itself
  have mapping : (if (Value.map D).truthy then Value.map D else .map []) = .map D := by
    cases D <;> rfl
  unfold loadSettingsFile
  simp only [read, pure_bind, document, mapping, resolved]
  by_cases failed : (home.startsWith "~" && D.any atHome) = true
  · rw [if_pos failed, if_pos failed]
    rfl
  · rw [if_neg failed, if_neg failed]
    have resolvedOk : ∀ {β : Type} (k : List (Value × Value) → Except Fault β),
        (Except.ok (D.map (settingsEntry home path.parent)) >>= k) = k (D.map (settingsEntry home path.parent)) :=
      fun _ => rfl
    rw [resolvedOk]
    cases Settings.check (Value.map (D.map (settingsEntry home path.parent))) <;> rfl

/-- Settings read from a file are the check of the file's entries, each resolved. -/
theorem loadSettingsFile_ok {host : Host} {path : PathName} {s : Settings}
    (loaded : loadSettingsFile host path = .ok s) :
    ∃ D R : List (Value × Value), D.mapM (resolveSettingsEntry host path.parent) = .ok R ∧
      Settings.check (.map R) = .ok s := by
  unfold loadSettingsFile at loaded
  dsimp only at loaded
  -- the text was read, the document parsed, and it is a mapping
  split at loaded
  · cases loaded
  · cases loaded
  rw [pure_bind] at loaded
  split at loaded
  · rw [pure_bind] at loaded
    split at loaded
    · rename_i D _
      rw [pure_bind] at loaded
      obtain ⟨R, resolvedOk, checked⟩ := bind_eq_ok_iff.mp loaded
      refine ⟨D, R, resolvedOk, ?_⟩
      split at checked
      · rename_i checkedOk
        cases checked
        exact checkedOk
      · cases checked
    · cases loaded
  · cases loaded

/-- Settings read from a file at an absolute path hold absolute paths only. -/
theorem loadSettingsFile_paths_absolute {host : Host} {path : PathName} {s : Settings}
    (loaded : loadSettingsFile host path = .ok s) (form : path.RootForm) (absolute : path.isAbsolute) :
    ∀ p ∈ s.paths, p.isAbsolute := by
  obtain ⟨D, R, resolved, checked⟩ := loadSettingsFile_ok loaded
  intro p member
  obtain ⟨key, t, pathKey, found, rfl⟩ := Settings.check_paths checked p member
  obtain ⟨entry, -, entryResolved⟩ := mapM_ok_mem resolved _ (Value.mem_of_lookup_str found)
  obtain ⟨value, q, pathResolved, rfl⟩ := resolveSettingsEntry_pathValue entryResolved pathKey
  -- the file's directory has the file's root
  obtain ⟨qForm, qAbsolute⟩ := resolveSettingsPath_absolute pathResolved form absolute
  exact PathName.isAbsolute_parse_text qForm qAbsolute

/-- A settings file whose document is a mapping is checked after its path values are resolved:
a text value under a text key ending in `_file` or `_dir` becomes the path it names, its leading
`~` standing for `HOME`, kept when absolute and taken from the file's directory otherwise, and
every other entry is kept. This needs `HOME` set, every text value under a text key, and no path
value at another user's home; a home directory that starts with `~` cannot be named, and a
path value that starts at it fails. Whatever the file holds, settings read from a file at an
absolute path hold absolute paths only. -/
theorem loadSettings_resolves_relative_paths :
    (∀ (host : Host) (P text home : String) (D : List (Value × Value)),
      host.readText (PathName.parse P) = .ok text →
      Yaml.load (expandVars host.getEnv text) = .ok (.map D) →
      host.getEnv "HOME" = some home →
      (∀ e ∈ D, keyedByText e) → (∀ e ∈ D, atOtherHome e = false) →
      loadSettings host (some (PathName.parse P)) =
        if home.startsWith "~" && D.any atHome then .error unknownHome
        else (Settings.check (.map (D.map (settingsEntry home (PathName.parse P).parent)))).mapError .invalid) ∧
    ∀ (host : Host) (P : String) (s : Settings),
      loadSettings host (some (PathName.parse P)) = .ok s → (PathName.parse P).isAbsolute →
        ∀ p ∈ s.paths, p.isAbsolute := by
  constructor
  · intro host P text home D read document homeSet keyed own
    rw [loadSettings_some]
    exact loadSettingsFile_eq read document homeSet keyed own
  · intro host P s loaded absolute
    rw [loadSettings_some] at loaded
    exact loadSettingsFile_paths_absolute loaded (PathName.parse_rootForm P) absolute

/-! ## Files that load -/

theorem eq_ok_of_toOption {ε α : Type} {x : Except ε α} {a : α} (found : x.toOption = some a) :
    x = .ok a := by
  cases x with
  | error e => cases found
  | ok a' =>
    cases found
    rfl

/-- A value that checks as a model is a mapping. -/
theorem eq_map_of_model_ok {v : Value} {D : List (Value × Value)}
    (checked : Schema.model Except.ok v = .ok D) : v = .map D := by
  cases v with
  | map entries =>
    cases checked
    rfl
  | _ => cases checked

/-- A file that reads, with its environment references replaced, as a mapping whose entries
pass `check`: the form in which a run of the loader's first stages is evaluated. -/
theorem settingsDocument_of_check {host : Host} {path : PathName} {check : List (Value × Value) → Bool}
    (checked : ((host.readText path).toOption.bind fun text =>
      ((Yaml.load (expandVars host.getEnv text)).toOption.bind fun doc =>
        (Schema.model Except.ok doc).toOption).map check) = some true) :
    ∃ text D, host.readText path = .ok text ∧ Yaml.load (expandVars host.getEnv text) = .ok (.map D) ∧
      check D = true := by
  obtain ⟨text, read, rest⟩ := Option.bind_eq_some_iff.mp checked
  obtain ⟨D, found, holds⟩ := Option.map_eq_some_iff.mp rest
  obtain ⟨doc, parsed, mapping⟩ := Option.bind_eq_some_iff.mp found
  obtain rfl := eq_map_of_model_ok (eq_ok_of_toOption mapping)
  exact ⟨text, D, eq_ok_of_toOption read, eq_ok_of_toOption parsed, holds⟩

/-- A settings file in `/w` naming a relative path, a path under the home directory and an
absolute path. -/
def threePathsHost : Host :=
  ⟨⟨[(["w"], .dir), (["w", "nodebaker.yaml"], .file (Text.Utf8.encode
    "toggles_file: t.yaml\nlog_dir: ~/logs\ntemplates_dir: /srv/tpl\n"))], []⟩, [("HOME", "/home/me")]⟩

theorem loadSettings_resolves_three_paths :
    ∃ text D s, threePathsHost.readText (PathName.parse "/w/nodebaker.yaml") = .ok text ∧
      Yaml.load (expandVars threePathsHost.getEnv text) = .ok (.map D) ∧
      threePathsHost.getEnv "HOME" = some "/home/me" ∧
      (∀ e ∈ D, keyedByText e) ∧ (∀ e ∈ D, atOtherHome e = false) ∧
      loadSettings threePathsHost (some (PathName.parse "/w/nodebaker.yaml")) =
        (if "/home/me".startsWith "~" && D.any atHome then .error unknownHome
        else (Settings.check (.map (D.map (settingsEntry "/home/me"
          (PathName.parse "/w/nodebaker.yaml").parent)))).mapError .invalid) ∧
      loadSettings threePathsHost (some (PathName.parse "/w/nodebaker.yaml")) = .ok s ∧
      (PathName.parse "/w/nodebaker.yaml").isAbsolute ∧ ∀ p ∈ s.paths, p.isAbsolute := by
  have readable : ((threePathsHost.readText (PathName.parse "/w/nodebaker.yaml")).toOption.bind fun text =>
      ((Yaml.load (expandVars threePathsHost.getEnv text)).toOption.bind fun doc =>
        (Schema.model Except.ok doc).toOption).map fun D =>
          D.all keyedByText && D.all fun e => !atOtherHome e) = some true := by
    decide +kernel
  have loads : (loadSettings threePathsHost (some (PathName.parse "/w/nodebaker.yaml"))).toOption.isSome = true := by
    decide +kernel
  have absolute : (PathName.parse "/w/nodebaker.yaml").isAbsolute = true := by decide +kernel
  have homeSet : threePathsHost.getEnv "HOME" = some "/home/me" := by decide +kernel
  obtain ⟨text, D, read, document, holds⟩ := settingsDocument_of_check readable
  simp only [Bool.and_eq_true, List.all_eq_true, Bool.not_eq_true'] at holds
  obtain ⟨keyed, own⟩ := holds
  obtain ⟨s, found⟩ := Option.isSome_iff_exists.mp loads
  have loaded := eq_ok_of_toOption found
  have resolves := loadSettings_resolves_relative_paths
  exact ⟨text, D, s, read, document, homeSet, keyed, own,
    resolves.1 _ _ _ _ _ read document homeSet keyed own, loaded, absolute,
    resolves.2 _ _ _ loaded absolute⟩

/-- A settings file in `/w` naming a path under the home directory, on a host whose home
directory is `~x`. -/
def tildeHomeHost : Host :=
  ⟨⟨[(["w"], .dir), (["w", "nodebaker.yaml"], .file (Text.Utf8.encode "toggles_file: ~/t.yaml\n"))], []⟩,
    [("HOME", "~x")]⟩

/-- The file is read and its document is a mapping, yet the settings are not checked: a home
directory that starts with `~` cannot be named. -/
theorem loadSettings_refuses_tilde_home :
    ∃ text D, tildeHomeHost.readText (PathName.parse "/w/nodebaker.yaml") = .ok text ∧
      Yaml.load (expandVars tildeHomeHost.getEnv text) = .ok (.map D) ∧
      loadSettings tildeHomeHost (some (PathName.parse "/w/nodebaker.yaml")) = .error unknownHome := by
  have readable : ((tildeHomeHost.readText (PathName.parse "/w/nodebaker.yaml")).toOption.bind fun text =>
      ((Yaml.load (expandVars tildeHomeHost.getEnv text)).toOption.bind fun doc =>
        (Schema.model Except.ok doc).toOption).map fun D =>
          (D.all keyedByText && D.all fun e => !atOtherHome e) && D.any atHome) = some true := by
    decide +kernel
  have homeSet : tildeHomeHost.getEnv "HOME" = some "~x" := by decide +kernel
  have tilde : "~x".startsWith "~" = true := by decide +kernel
  obtain ⟨text, D, read, document, holds⟩ := settingsDocument_of_check readable
  simp only [Bool.and_eq_true, List.all_eq_true, Bool.not_eq_true'] at holds
  obtain ⟨⟨keyed, own⟩, atHomeEntry⟩ := holds
  -- the file's path entry starts at the home directory, which cannot be named
  refine ⟨text, D, read, document, ?_⟩
  rw [loadSettings_some, loadSettingsFile_eq read document homeSet keyed own, tilde, atHomeEntry]
  rfl

end NodeImage
