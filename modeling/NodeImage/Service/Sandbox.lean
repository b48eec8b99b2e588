import NodeImage.Service.Answer
import NodeImage.Host
import NodeImage.Bundle
import NodeImage.Text.Base64
import NodeImage.Text.Utf8
import NodeImage.Template.Library

/-!
# The request's machine

Every request runs on a fresh machine: an empty working directory, the shipped templates in
their install directory, and exactly three environment variables (`HOME`, `PINNED_VERSION`
and an empty `EMPTY_VAR`) plus those the request sets. Paths in answers that lie in the
working directory are shown from `<tmp>`, and `<tmp>` in the request's environment values
stands for the working directory.

A request describes the files to create with file specs: `json` for the JSON text of a
value and a line feed, `text` for a text, `b64` for raw bytes in base64, and `missing` for
a file that is not there.
-/

namespace NodeImage.Service

/-- The working directory of a request. -/
def workDir : String := "/tmp/request-workdir"

/-- The working directory as names from the root. -/
def workNames : List String := (Files.PathName.parse workDir).names

/-- A path in the working directory. -/
def workPath (rel : String) : Files.PathName := (Files.PathName.parse workDir).join (Files.PathName.parse rel)

/-- The environment every request starts with. -/
def baseEnviron : List (String × String) :=
  [("HOME", "/home/oracle"), ("PINNED_VERSION", "202408.01.0"), ("EMPTY_VAR", "")]

/-- Every occurrence of `pattern` in `s` replaced by `replacement`. -/
def replaceAll (s pattern replacement : String) : String :=
  if pattern.isEmpty then s else replacement.intercalate (s.splitOn pattern)

mutual

/-- A value with the working directory shown as `<tmp>` in all its texts. -/
def hideWorkDir : Value → Value
  | .str s => .str (replaceAll s workDir "<tmp>")
  | .seq items => .seq (hideInItems items)
  | .set items => .set (hideInItems items)
  | .map entries => .map (hideInEntries entries)
  | v => v

/-- Items with the working directory hidden. -/
def hideInItems : List Value → List Value
  | [] => []
  | v :: vs => hideWorkDir v :: hideInItems vs

/-- Entries with the working directory hidden in keys and values. -/
def hideInEntries : List (Value × Value) → List (Value × Value)
  | [] => []
  | (k, v) :: es => (hideWorkDir k, hideWorkDir v) :: hideInEntries es

end

/-- The bytes a file spec describes, `none` for a missing file. -/
def specBytes (spec : Value) : Except Fault (Option (List UInt8)) :=
  match spec with
  | .map [(.str "json", v)] => .ok (some (Text.Utf8.encode (Json.write v ++ "\n")))
  | .map [(.str "text", .str s)] => .ok (some (Text.Utf8.encode s))
  | .map [(.str "b64", .str s)] => match Text.Base64.decode? s with
    | some bytes => .ok (some bytes)
    | none => .error (.badRequest "file spec with bad base64")
  | .map [(.str "missing", _)] => .ok none
  | _ => .error (.badRequest "unknown file spec")

/-- The machine of a request before any file is written. -/
def freshHost : Host :=
  let tree : Files.Tree := ⟨[], workNames⟩
  let tree := tree.put workNames .dir
  let templates := (Files.PathName.parse shippedTemplatesDir).names
  let tree := Bundle.templates.foldl (fun t (name, text) =>
    t.put (templates ++ [name]) (.file (Text.Utf8.encode text))) tree
  ⟨tree, baseEnviron⟩

namespace Host

/-- Writes a file spec at a path of the working directory; a missing file is not written. -/
def writeSpec (h : NodeImage.Host) (rel : String) (spec : Value) : Except Fault NodeImage.Host := do
  match ← specBytes spec with
  | some bytes => return { h with files := h.files.put (h.files.absolute (workPath rel)) (.file bytes) }
  | none => return h

/-- Writes a text file at a path of the working directory. -/
def writeText (h : NodeImage.Host) (rel : String) (text : String) : NodeImage.Host :=
  { h with files := h.files.put (h.files.absolute (workPath rel)) (.file (Text.Utf8.encode text)) }

/-- Makes a symbolic link at a path of the working directory. -/
def link (h : NodeImage.Host) (rel target : String) : NodeImage.Host :=
  { h with files := h.files.put (h.files.absolute (workPath rel)) (.link target) }

/-- Sets an environment variable. -/
def setEnv (h : NodeImage.Host) (name value : String) : NodeImage.Host :=
  { h with environ := (name, value) :: h.environ.filter (·.1 != name) }

end Host

/-- The entries of an object field of a request, none when absent. -/
def entriesOf (v : Value) : List (Value × Value) :=
  match v with
  | .map entries => entries
  | _ => []

/-- The machine of a request: its files, links and environment. -/
def requestHost (req : Value) : Except Fault NodeImage.Host := do
  let mut h := freshHost
  for (k, spec) in entriesOf ((req.field? "files").getD .null) do
    match k with
    | .str rel => h ← Host.writeSpec h rel spec
    | _ => throw (.badRequest "file names must be text")
  for (k, target) in entriesOf ((req.field? "symlinks").getD .null) do
    match k, target with
    | .str rel, .str t => h := Host.link h rel t
    | _, _ => throw (.badRequest "links must be text")
  for (k, value) in entriesOf ((req.field? "environ").getD .null) do
    match k, value with
    | .str name, .str v => h := Host.setEnv h name (replaceAll v "<tmp>" workDir)
    | _, _ => throw (.badRequest "environment values must be text")
  return h

end NodeImage.Service
