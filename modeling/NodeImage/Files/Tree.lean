import NodeImage.Files.Path
import NodeImage.Data.Value

/-!
# A tree of files

The files a request works on: regular files with their bytes, directories and symbolic
links, each at an absolute location (a list of names from the root). The root directory
always exists.

Reading a path walks it name by name from the root or from the working directory: `..`
goes to the parent of the directory reached so far, a directory is entered, a symbolic link
is replaced by its target (read from the directory holding the link), and a regular file
may only be the last name. A walk that meets more than forty links fails, as does a name
that does not exist or a file used as a directory.

Resolving a path (`Tree.resolve`) is the lenient, textual kind: names that do not exist are
kept as they are, links are followed where they exist, and a link that leads back to
itself is reported as a loop.
-/

namespace NodeImage.Files

/-- What is stored at a location. -/
inductive Entry where
  | file (bytes : List UInt8)
  | dir
  | link (target : String)
deriving Repr, Inhabited

/-- Why a file operation failed, with the path as it was given. -/
inductive FsError where
  | notFound (path : String)
  | isDirectory (path : String)
  | notDirectory (path : String) (asObject : Bool)
  | tooManyLinks (path : String) (asObject : Bool)
  | alreadyExists (path : String)
  | linkLoop (path : String)
deriving Repr, Inhabited

namespace FsError

/-- The class of error a failure is reported as. -/
def kind : FsError → String
  | notFound _ => "FileNotFoundError"
  | isDirectory _ => "IsADirectoryError"
  | notDirectory _ _ => "NotADirectoryError"
  | tooManyLinks _ _ => "OSError"
  | alreadyExists _ => "FileExistsError"
  | linkLoop _ => "RuntimeError"

/-- A path as an error shows it: quoted text, or a quoted path object when the failing
operation was given the path object itself. -/
def shownPath (p : String) (asObject : Bool) : String :=
  if asObject then "PosixPath(" ++ (Value.str p).repr ++ ")" else (Value.str p).repr

/-- The message of a failure, with the system error number and text. Directory creation
and link loops are reported on the path object; reads on its text. -/
def message : FsError → String
  | notFound p => "[Errno 2] No such file or directory: " ++ shownPath p false
  | isDirectory p => "[Errno 21] Is a directory: " ++ shownPath p false
  | notDirectory p o => "[Errno 20] Not a directory: " ++ shownPath p o
  | tooManyLinks p o => "[Errno 40] Too many levels of symbolic links: " ++ shownPath p o
  | alreadyExists p => "[Errno 17] File exists: " ++ shownPath p true
  | linkLoop p => "Symlink loop from " ++ shownPath p true

end FsError

/-- The files of a request and its working directory. -/
structure Tree where
  entries : List (List String × Entry)
  cwd : List String
deriving Inhabited

/-- The most links one walk may follow. -/
def linkLimit : Nat := 40

namespace Tree

/-- What is stored at a location; the root is a directory. -/
def entryAt (t : Tree) (loc : List String) : Option Entry :=
  if loc.isEmpty then some .dir else t.entries.lookup loc

/-- The location a path starts from. -/
def startOf (t : Tree) (p : PathName) : List String :=
  if p.isAbsolute then [] else t.cwd

/-- Where a walk ends. -/
inductive Reached where
  | at_ (loc : List String)
  | missing
  | fileInPath
  | loop

/-- Walks `names` from the directory `cur`. With `follow`, a link as the last name is
followed too. `links` counts the links that may still be followed and `fuel` bounds the
work. -/
def walk (t : Tree) (follow : Bool) : Nat → Nat → List String → List String → Reached × Nat
  | 0, links, _, _ => (.loop, links)
  | _ + 1, links, cur, [] => (.at_ cur, links)
  | fuel + 1, links, cur, name :: rest =>
    if name == ".." then walk t follow fuel links cur.dropLast rest
    else
      let next := cur ++ [name]
      match t.entryAt next with
      | none => (.missing, links)
      | some .dir => walk t follow fuel links next rest
      | some (.file _) => if rest.isEmpty then (.at_ next, links) else (.fileInPath, links)
      | some (.link target) =>
        if rest.isEmpty && !follow then (.at_ next, links)
        else if links == 0 then (.loop, 0)
        else
          let tp := PathName.parse target
          let base := if tp.isAbsolute then [] else cur
          match walk t true fuel (links - 1) base tp.names with
          | (.at_ loc, left) =>
            match t.entryAt loc with
            | some .dir => walk t follow fuel left loc rest
            | some (.file _) => if rest.isEmpty then (.at_ loc, left) else (.fileInPath, left)
            | _ => if rest.isEmpty then (.at_ loc, left) else (.missing, left)
          | other => other

/-- The location a path names, following every link. -/
def locate (t : Tree) (p : PathName) : Reached :=
  (walk t true (64 * (p.names.length + t.entries.length + 2)) linkLimit (t.startOf p) p.names).1

/-- The bytes of the regular file a path names. -/
def read (t : Tree) (p : PathName) : Except FsError (List UInt8) :=
  let shown := p.text
  match t.locate p with
  | .at_ loc =>
    match t.entryAt loc with
    | some (.file bytes) => .ok bytes
    | some .dir => .error (.isDirectory shown)
    | _ => .error (.notFound shown)
  | .missing => .error (.notFound shown)
  | .fileInPath => .error (.notDirectory shown false)
  | .loop => .error (.tooManyLinks shown false)

/-- Whether a path names something that exists, following links. -/
def exists? (t : Tree) (p : PathName) : Bool :=
  match t.locate p with
  | .at_ loc => (t.entryAt loc).isSome
  | _ => false

/-- Whether a path names a regular file, following links. -/
def isFile (t : Tree) (p : PathName) : Bool :=
  match t.locate p with
  | .at_ loc => (t.entryAt loc matches some (.file _))
  | _ => false

/-- Stores an entry at a location, replacing what was there, after creating the
directories above it. -/
def put (t : Tree) (loc : List String) (e : Entry) : Tree :=
  let parents := (List.range loc.length).filterMap fun i =>
    if i == 0 then none else some (loc.take i)
  let missing := parents.filter fun d => (t.entries.lookup d).isNone
  let kept := t.entries.filter fun entry => entry.1 != loc
  { t with entries := kept ++ missing.map (fun d => (d, Entry.dir)) ++ [(loc, e)] }

/-- The absolute location of a path, reading `..` textually. -/
def absolute (t : Tree) (p : PathName) : List String :=
  p.names.foldl (fun acc n => if n == ".." then acc.dropLast else acc ++ [n]) (t.startOf p)

/-- Whether a path names a directory, following links. -/
def isDir (t : Tree) (p : PathName) : Bool :=
  match t.locate p with
  | .at_ loc => (t.entryAt loc matches some .dir)
  | _ => false

/-- Creates one directory. The directory above it must exist (links followed), and nothing
may stand at its name, not even a dangling link; `..` as the last name always stands for an
existing directory. Failures show the path object. -/
def makeDir (t : Tree) (p : PathName) : Except FsError Tree :=
  let shown := p.text
  match p.names.getLast? with
  | none => .error (.alreadyExists shown)
  | some last =>
    match t.locate ⟨p.root, p.names.dropLast⟩ with
    | .at_ loc =>
      match t.entryAt loc with
      | some .dir =>
        if last == ".." || (t.entryAt (loc ++ [last])).isSome then .error (.alreadyExists shown)
        else .ok (t.put (loc ++ [last]) .dir)
      | some (.file _) => .error (.notDirectory shown true)
      | _ => .error (.notFound shown)
    | .missing => .error (.notFound shown)
    | .fileInPath => .error (.notDirectory shown true)
    | .loop => .error (.tooManyLinks shown true)

/-- Creates a directory with `fuel` levels of missing directories above it. Creation is
tried first. When the directory above is missing, it is created the same way and creation
is tried once more. Any other failure stands unless a directory is there after all. -/
def makeDirsFrom (t : Tree) : Nat → PathName → Except FsError Tree
  | 0, p => t.makeDir p
  | fuel + 1, p =>
    match t.makeDir p with
    | .ok t' => .ok t'
    | .error (.notFound shown) =>
      if p.parent == p then .error (.notFound shown)
      else match makeDirsFrom t fuel p.parent with
        | .error e => .error e
        | .ok t' => match t'.makeDir p with
          | .ok t'' => .ok t''
          | .error e => if t'.isDir p then .ok t' else .error e
    | .error e => if t.isDir p then .ok t else .error e

/-- Creates a directory and the missing directories above it, keeping an existing
directory. -/
def makeDirs (t : Tree) (p : PathName) : Except FsError Tree :=
  t.makeDirsFrom (p.names.length + 1) p

/-! ## Resolving -/

/-- Resolves `names` textually from `path`, following the links that exist; `seen` holds
the links met so far with their resolution, `none` while one is being resolved. The flag
is false when a loop was met. -/
def realFrom (t : Tree) : Nat → List String → List String → List (List String × Option (List String)) →
    List String × Bool × List (List String × Option (List String))
  | 0, path, rest, seen => (path ++ rest, false, seen)
  | _ + 1, path, [], seen => (path, true, seen)
  | fuel + 1, path, name :: rest, seen =>
    if name == ".." then realFrom t fuel path.dropLast rest seen
    else
      let next := path ++ [name]
      match t.entries.lookup next with
      | some (.link target) =>
        match seen.lookup next with
        | some (some done) => realFrom t fuel done rest seen
        | some none => (next ++ rest, false, seen)
        | none =>
          let tp := PathName.parse target
          let base := if tp.isAbsolute then [] else path
          match realFrom t fuel base tp.names ((next, none) :: seen) with
          | (resolved, true, seen') =>
            realFrom t fuel resolved rest ((next, some resolved) :: seen'.filter (·.1 != next))
          | (resolved, false, seen') => (resolved ++ rest, false, seen')
      | _ => realFrom t fuel next rest seen

/-- The absolute path a path stands for, with the links along it followed. A path that
leads into a link loop is an error. -/
def resolve (t : Tree) (p : PathName) : Except FsError PathName :=
  let fuel := 64 * (p.names.length + t.entries.length + 2)
  let (loc, _, _) := realFrom t fuel (t.startOf p) p.names []
  let result : PathName := ⟨"/", loc⟩
  match t.locate result with
  | .loop => .error (.linkLoop result.text)
  | _ => .ok result

end Tree

end NodeImage.Files
