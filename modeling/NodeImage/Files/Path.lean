/-!
# Paths

A path is read the way a path object reads a POSIX path: an optional root and a list of
names. Empty names and `.` are dropped, `..` is kept as a name (its meaning depends on
symbolic links, so it is left to lookup), exactly two leading slashes are a root of their
own and more than two are one slash. The empty path and `.` are the current directory, and
print as `.`.

Joining a path onto a directory keeps the directory unless the path has a root. The parent
of a path drops its last name. A leading `~` stands for the home directory.
-/

namespace NodeImage.Files

/-- A path: its root (`""`, `"/"` or `"//"`) and its names. -/
structure PathName where
  root : String
  names : List String
deriving DecidableEq, Repr, Inhabited

namespace PathName

/-- Reads a path text. -/
def parse (s : String) : PathName :=
  let chars := s.toList
  let slashes := (chars.takeWhile (· == '/')).length
  let root := if slashes == 0 then "" else if slashes == 2 then "//" else "/"
  let names := ((chars.splitOn '/').map String.ofList).filter fun n => !n.isEmpty && n != "."
  ⟨root, names⟩

/-- The text of a path. -/
def text (p : PathName) : String :=
  if p.root.isEmpty && p.names.isEmpty then "."
  else p.root ++ "/".intercalate p.names

/-- Whether a path starts at the root. -/
def isAbsolute (p : PathName) : Bool := !p.root.isEmpty

/-- The path `q` taken from the directory `p`. -/
def join (p q : PathName) : PathName :=
  if q.isAbsolute then q else ⟨p.root, p.names ++ q.names⟩

/-- The directory holding a path. -/
def parent (p : PathName) : PathName := ⟨p.root, p.names.dropLast⟩

/-- The home directory named by a `HOME` value: trailing slashes dropped, and the root when
nothing is left. -/
def homeOf (home : String) : PathName :=
  let trimmed := String.ofList (home.toList.reverse.dropWhile (· == '/')).reverse
  parse (if trimmed.isEmpty then "/" else trimmed)

/-- The path with a leading `~` name replaced by the home directory, or nothing when the home
directory cannot be named: a `~name` form (another user's home, which is not known here), or
a home directory text that itself starts with `~`. Other paths are kept. -/
def expandHome (home : String) (p : PathName) : Option PathName :=
  match p.root, p.names with
  | "", first :: rest =>
    if first == "~" then
      if home.startsWith "~" then none else some (join (homeOf home) ⟨"", rest⟩)
    else if first.startsWith "~" then none
    else some p
  | _, _ => some p

end PathName

end NodeImage.Files
