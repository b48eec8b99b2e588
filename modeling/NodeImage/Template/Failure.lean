/-!
# Why a template stops

Compiling or rendering a template stops with a `Failure`. Most failures are template
errors, which the renderer reports by kind as the cause of a failed template: a syntax
error, a failed assertion of the compiler, the use of an undefined value, a runtime error
of the engine, a bad filter argument, and a template that cannot be found. The rest are
errors of the host language, such as a type error in an operation, which escape with their
kind and message as they are.
-/

namespace NodeImage.Template

/-- Why compiling or rendering a template stopped. -/
inductive Failure where
  /-- A template that does not parse, with the kind of error that caused it, if any. -/
  | malformed (message : String) (cause : Option String)
  /-- A template the compiler refuses. -/
  | assertion (message : String)
  /-- A use of an undefined value. -/
  | undefined (message : String)
  | runtime (message : String)
  | filterArgument (message : String)
  /-- A template that cannot be found; `several` when it was one of a list. -/
  | notFound (name : String) (several : Bool)
  /-- An error of the host language, with its kind. -/
  | host (kind : String) (message : String)
deriving Inhabited, Repr

namespace Failure

/-- The kind of a failure, as it is reported. -/
def kind : Failure → String
  | malformed _ _ => "TemplateSyntaxError"
  | assertion _ => "TemplateAssertionError"
  | undefined _ => "UndefinedError"
  | runtime _ => "TemplateRuntimeError"
  | filterArgument _ => "FilterArgumentError"
  | notFound _ several => if several then "TemplatesNotFound" else "TemplateNotFound"
  | host kind _ => kind

/-- The message of a failure. -/
def message : Failure → String
  | malformed m _ | assertion m | undefined m | runtime m | filterArgument m => m
  | notFound name _ => name
  | host _ m => m

/-- Whether a failure is a template error, which the renderer reports as a failed template. -/
def isTemplateError : Failure → Bool
  | host _ _ => false
  | _ => true

/-- A type error. -/
def typeError (message : String) : Failure := host "TypeError" message

/-- A value error. -/
def valueError (message : String) : Failure := host "ValueError" message

end Failure

end NodeImage.Template
