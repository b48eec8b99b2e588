import NodeImage.Files.Tree
import NodeImage.Text.Utf8
import NodeImage.Fault

/-!
# The host

What the service sees of the machine it runs on: a tree of files, with a working directory,
and the environment variables.

Text files are read as UTF-8 with line ends normalised: `\r\n` and a lone `\r` both become
`\n`. Environment references in a text (`$NAME` and `${NAME}`) are replaced by the
variable's value when it is set and left as they are otherwise; a bare name is made of
ASCII letters, digits and `_`, a braced name of anything up to the closing brace.
-/

namespace NodeImage

/-- The files and environment variables of the machine. -/
structure Host where
  files : Files.Tree
  environ : List (String × String)
deriving Inhabited

/-- Why a text file could not be read: the file itself, or its bytes. -/
inductive ReadFailure where
  | file (e : Files.FsError)
  | bytes (e : Text.Utf8.DecodeError)

/-- Line ends normalised to `\n`. -/
def normalizeLineEnds : List Char → List Char
  | '\r' :: '\n' :: rest => '\n' :: normalizeLineEnds rest
  | '\r' :: rest => '\n' :: normalizeLineEnds rest
  | c :: rest => c :: normalizeLineEnds rest
  | [] => []

namespace Host

/-- The text of a file. -/
def readText (h : Host) (p : Files.PathName) : Except ReadFailure String :=
  match h.files.read p with
  | .error e => .error (.file e)
  | .ok bytes => match Text.Utf8.decode bytes with
    | .error e => .error (.bytes e)
    | .ok s => .ok (String.ofList (normalizeLineEnds s.toList))

/-- The value of an environment variable. -/
def getEnv (h : Host) (name : String) : Option String := h.environ.lookup name

end Host

/-- Whether a character may be part of a bare variable name. -/
def isNameChar (c : Char) : Bool :=
  ('a' ≤ c && c ≤ 'z') || ('A' ≤ c && c ≤ 'Z') || ('0' ≤ c && c ≤ '9') || c == '_'

/-- Replaces the environment references in `cs`, adding the result to `acc` in reverse;
`fuel` bounds the steps, one per character read. -/
def expandFrom (env : String → Option String) : Nat → List Char → List Char → List Char
  | 0, acc, cs => acc.reverse ++ cs
  | _ + 1, acc, [] => acc.reverse
  | fuel + 1, acc, '$' :: rest =>
    match rest with
    | '{' :: inner =>
      match inner.span (· != '}') with
      | (name, '}' :: after) =>
        match env (String.ofList name) with
        | some value => expandFrom env fuel (value.toList.reverse ++ acc) after
        | none => expandFrom env fuel (('}' :: name.reverse) ++ ['{', '$'] ++ acc) after
      | _ => expandFrom env fuel ('$' :: acc) rest
    | _ =>
      let (name, after) := rest.span isNameChar
      if name.isEmpty then expandFrom env fuel ('$' :: acc) rest
      else match env (String.ofList name) with
        | some value => expandFrom env fuel (value.toList.reverse ++ acc) after
        | none => expandFrom env fuel (name.reverse ++ '$' :: acc) after
  | fuel + 1, acc, c :: rest => expandFrom env fuel (c :: acc) rest

/-- A text with its environment references replaced. -/
def expandVars (env : String → Option String) (s : String) : String :=
  String.ofList (expandFrom env (s.length + 1) [] s.toList)

end NodeImage
