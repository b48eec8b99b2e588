import NodeImage.Fault

/-!
# Resolution events

While the baker resolves an image or bootstraps a node, it reports what it does as events:
a version override taken from the toggles, the image a distribution resolved to, the size
of a region's distribution catalog, the end of a bootstrap, and the failure that stopped a
resolution. Every event names the operation it belongs to.

Resolutions run in `BakeM`, which records events and may fail. A failure keeps the events
recorded before it, and `reportingFailure` adds the failure's own event before passing it
on.
-/

namespace NodeImage

/-- The operations that report events. -/
inductive Operation where
  | bootstrap
  | latestImage
  | distroCatalog
deriving DecidableEq, Repr

/-- The name of an operation in its events. -/
def Operation.name : Operation → String
  | .bootstrap => "bootstrap"
  | .latestImage => "latest-image"
  | .distroCatalog => "distro-catalog"

/-- What an event reports. -/
inductive EventDetail where
  /-- A distribution's image version was taken from the toggles. -/
  | versionOverridden (distro catalogVersion version : String)
  /-- A distribution resolved to a gallery image, or to none when only a marketplace image
  was found. -/
  | imageResolved (distro region : String) (image : Option String)
  /-- A region's distribution catalog was built with this many distributions. -/
  | catalogResolved (region : String) (distros : Nat)
  /-- A node's bootstrap was assembled; `customized` when no image was resolved for it. -/
  | bootstrapResolved (distro : String) (customized : Bool)
  /-- The resolution failed with this text. -/
  | failed (error : String)
deriving Repr

/-- An event of an operation. -/
structure Event where
  operation : Operation
  detail : EventDetail
deriving Repr

/-- The name of an event's kind. -/
def EventDetail.kind : EventDetail → String
  | .versionOverridden _ _ _ => "ImageVersionOverridden"
  | .imageResolved _ _ _ => "ImageResolved"
  | .catalogResolved _ _ => "DistroCatalogResolved"
  | .bootstrapResolved _ _ => "BootstrapResolved"
  | .failed _ => "ResolutionFailed"

/-- A resolution: it records events and may fail, keeping the events recorded before. -/
abbrev BakeM := ExceptT Fault (StateM (List Event))

namespace BakeM

/-- Records an event. -/
def emit (e : Event) : BakeM Unit := modify fun events => events ++ [e]

/-- A result that may be a fault, in a resolution. -/
def lift {α : Type} (x : Except Fault α) : BakeM α :=
  match x with
  | .ok a => pure a
  | .error f => throw f

/-- Runs a resolution of an operation so that a failure also records its event. -/
def reportingFailure {α : Type} (op : Operation) (body : BakeM α) : BakeM α :=
  tryCatch body fun f => do
    emit ⟨op, .failed f.message⟩
    throw f

/-- The result of a resolution and the events it recorded. -/
def run {α : Type} (x : BakeM α) : Except Fault α × List Event :=
  (ExceptT.run x).run []

end BakeM

end NodeImage
