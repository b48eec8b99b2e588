import NodeImage.Service.Sandbox
import NodeImage.Service.Forms
import NodeImage.Catalog.Store

/-!
# Reading requests

The pieces most operations share: a field of the request, a distribution named by a value,
a model read from a value, and the catalogs a request asks for.
-/

namespace NodeImage.Service

/-- A field of a request, null when absent. -/
def field (req : Value) (name : String) : Value := (req.field? name).getD .null

/-- Whether a request has a field. -/
def hasField (req : Value) (name : String) : Bool := (req.field? name).isSome

/-- The distribution a value names; a value that names none is an error quoting it. -/
def distroOf (v : Value) : Except Fault Distro :=
  match v with
  | .str s => match Distro.ofValue? s with
    | some d => .ok d
    | none => .error (.notADistro v)
  | _ => .error (.notADistro v)

/-- A model read from a value, or the issues found. -/
def checked {α : Type} (check : Schema.Check α) (v : Value) : Except Fault α :=
  match check v with
  | .ok a => .ok a
  | .error issues => .error (.invalid issues)

/-- The catalogs a request asks for: with `catalogs`, its `legacy` and `sig` files are
written to `legacy.yaml` and `sig.yaml` and read, a missing entry meaning the shipped
catalog; without it, the shipped catalogs. -/
def requestStore (h : NodeImage.Host) (req : Value) : Except Fault CatalogStore := do
  if !hasField req "catalogs" then return CatalogStore.shipped
  let cats := field req "catalogs"
  let mut h := h
  let mut legacy := none
  let mut sig := none
  if let some spec := cats.field? "legacy" then
    h ← Host.writeSpec h "legacy.yaml" spec
    legacy := some (workPath "legacy.yaml")
  if let some spec := cats.field? "sig" then
    h ← Host.writeSpec h "sig.yaml" spec
    sig := some (workPath "sig.yaml")
  CatalogStore.load h legacy sig

end NodeImage.Service
