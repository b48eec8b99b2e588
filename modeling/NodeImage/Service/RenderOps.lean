import NodeImage.Service.Request
import NodeImage.Bootstrap.Scripts

/-!
# Rendering operations

The template library a request asks for, and the `render` operation, which renders a
node's custom data, its bootstrap command, or both.
-/

namespace NodeImage.Service

/-- The template library a request asks for: with `templates`, a `templates` directory in
the working directory holding copies of the shipped templates it names under `packaged`
and the texts under `custom`; without it, the shipped templates. -/
def requestTemplates (h : NodeImage.Host) (req : Value) :
    Except Fault (NodeImage.Host × TemplateLibrary) :=
  match req.field? "templates" with
  | none => .ok (h, TemplateLibrary.shipped)
  | some spec => do
    let mut h := { h with files := h.files.put (h.files.absolute (workPath "templates")) .dir }
    let packaged := match spec.field? "packaged" with
      | some (.seq names) => names
      | _ => []
    for name in packaged do
      match name with
      | .str n => match Bundle.templates.lookup n with
        | some text => h := Host.writeText h ("templates/" ++ n) text
        | none => throw (.badRequest "unknown packaged template")
      | _ => throw (.badRequest "template names must be text")
    for (name, text) in entriesOf ((spec.field? "custom").getD .null) do
      match name, text with
      | .str n, .str t => h := Host.writeText h ("templates/" ++ n) t
      | _, _ => throw (.badRequest "custom templates must be text")
    return (h, ⟨workPath "templates"⟩)

/-- The custom data of a node as an answer: encoded and plain text. -/
def customDataFields (text : String) : Except Fault (List (String × Value)) := do
  return [("custom_data", .str (← encodeCustomData text)), ("custom_data_text", .str text)]

/-- `render`: a node's custom data (`payload`), bootstrap command (`cmd`), or both, custom
data first. -/
def renderOp (h : NodeImage.Host) (req : Value) : Except Fault Value := do
  let (h, lib) ← requestTemplates h req
  let config ← checked NodeConfig.check (field req "config")
  match field req "part" with
  | .str "payload" => return obj (← customDataFields (← customDataText h lib config))
  | .str "cmd" => return obj [("cse", .str (← bootstrapCommand h lib config))]
  | _ =>
    let data ← customDataFields (← customDataText h lib config)
    let cmd ← bootstrapCommand h lib config
    return obj (data ++ [("cse", .str cmd)])

end NodeImage.Service
