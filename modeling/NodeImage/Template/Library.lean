import NodeImage.Template.Eval
import NodeImage.Host

/-!
# Template libraries

A template library is a directory of template files, looked up by name: the name's parts
between slashes, without empty parts and `.`, under the directory. A name with a `..` part,
or one that is not a regular file in the directory, is a missing template.

Asking for a template that is missing is reported as such; any other failure to load or
compile it escapes as it is. While rendering, a template error is reported as a failed
template, with that error as its cause, and any other error escapes as it is.
-/

namespace NodeImage

/-- A directory of templates. -/
structure TemplateLibrary where
  dir : Files.PathName

/-- Where the shipped templates are installed. -/
def shippedTemplatesDir : String := "/usr/share/node-image/templates"

/-- The library of the shipped templates. -/
def TemplateLibrary.shipped : TemplateLibrary := ⟨Files.PathName.parse shippedTemplatesDir⟩

/-- The parts of a template name, or none when a part climbs out of the directory. -/
def templatePieces (name : String) : Option (List String) :=
  let parts := (name.toList.splitOn '/').map String.ofList
  if parts.any (· == "..") then none else some (parts.filter fun p => !p.isEmpty && p != ".")

/-- The text of a template of a library, or why it cannot be had. -/
def TemplateLibrary.source (host : Host) (lib : TemplateLibrary) (name : String) :
    Except Template.Failure String :=
  match templatePieces name with
  | none => .error (.notFound name false)
  | some pieces =>
    let path := lib.dir.join ⟨"", pieces⟩
    if !host.files.isFile path then
      .error (.notFound (quoteText name ++ " not found in search path: " ++ quoteText lib.dir.text) false)
    else match host.readText path with
      | .ok text => .ok text
      | .error (.bytes e) => .error (.host "UnicodeDecodeError" e.message)
      | .error (.file e) => .error (.host e.kind e.message)

/-- Renders a template of a library with the variables `setup` makes. -/
def TemplateLibrary.render (host : Host) (lib : TemplateLibrary) (name : String)
    (setup : Template.HeapM (List (String × Template.Datum))) : Except Fault String :=
  let machine : Template.Machine := { source := lib.source host }
  let load : Template.RenderM Template.Program := Template.loadProgram name
  let (loaded, m) := Id.run ((load.run).run machine)
  match loaded with
  | .error (.notFound _ _) => .error (.templateMissing name)
  | .error e =>
    let cause := match e with
      | .malformed _ c => c
      | _ => none
    .error (.templateUnloadable e.kind e.message cause)
  | .ok prog =>
    let run : Template.RenderM String := do
      let vars ← Template.onHeap setup
      Template.renderProgram prog vars
    match (Id.run ((run.run).run m)).1 with
    | .ok text => .ok text
    | .error e =>
      if e.isTemplateError then .error (.templateFailed name e.kind e.message)
      else .error (.uncaught e.kind e.message)

end NodeImage
