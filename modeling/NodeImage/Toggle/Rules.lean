import NodeImage.Image.Model

/-!
# Toggles

A toggle maps what a request is about (an `Entity`) to a table of texts. The image service
uses one, `linux-node-image-version`, to pin the image version of a distribution: the table
maps distribution names to versions.

An entity is either a whole node configuration or a bare environment; both show the same
kind of thing, a table of named fields (`subscription_id`, `tenant_id`, `region`, and for a
configuration also `cluster` and `distro`).

A toggle is a list of rules. A rule holds conditions, each a field name with the text the
entity's field must equal, and the values it contributes. Evaluating the toggle merges the
values of every rule whose conditions all hold, in the order of the rules, so a later rule
overrides an earlier one key by key. A condition on a field the entity does not have never
holds; a rule with no conditions always does.
-/

namespace NodeImage

/-- What an entity was built from. -/
inductive EntityKind where
  | configuration
  | environment
deriving DecidableEq, Repr

/-- The name of an entity kind. -/
def EntityKind.name : EntityKind → String
  | .configuration => "configuration"
  | .environment => "environment"

/-- What a toggle is evaluated against: its kind and its named fields. -/
structure Entity where
  kind : EntityKind
  fields : List (String × String)
deriving Repr

namespace Entity

/-- The entity of a node configuration. -/
def ofConfig (c : NodeConfig) : Entity :=
  ⟨.configuration, [("subscription_id", c.subscriptionId), ("tenant_id", c.tenantId),
    ("region", c.service.location), ("cluster", c.service.name),
    ("distro", c.agentPool.distro.value)]⟩

/-- The entity of an environment; an unknown subscription or tenant is the empty text. -/
def ofEnvironment (e : EnvironmentInfo) : Entity :=
  ⟨.environment, [("subscription_id", e.subscriptionId.getD ""),
    ("tenant_id", e.tenantId.getD ""), ("region", e.region)]⟩

end Entity

/-- Sets a key of a table: in place when the key is there, at the end otherwise. -/
def setEntry : List (String × String) → String × String → List (String × String)
  | [], e => [e]
  | (k, v) :: rest, (k', v') => if k == k' then (k, v') :: rest else (k, v) :: setEntry rest (k', v')

/-- A table with the entries of another set in it, one by one. -/
def updateTable (table extra : List (String × String)) : List (String × String) :=
  extra.foldl setEntry table

/-- A rule of a toggle: the field values it requires and the values it contributes. -/
structure ToggleRule where
  conditions : List (String × String)
  values : List (String × String)
deriving Repr

/-- Whether every condition of a rule holds for an entity. -/
def ToggleRule.holdsFor (r : ToggleRule) (e : Entity) : Bool :=
  r.conditions.all fun (k, v) => e.fields.lookup k == some v

/-- The merged values of the rules that hold for an entity, later rules winning. -/
def evaluateRules (rules : List ToggleRule) (e : Entity) : List (String × String) :=
  rules.foldl (fun acc r => if r.holdsFor e then updateTable acc r.values else acc) []

/-- Named toggles, each a list of rules. -/
structure Toggles where
  maps : List (String × List ToggleRule)
deriving Repr

namespace Toggles

/-- No toggles at all. -/
def none : Toggles := ⟨[]⟩

/-- The name of the toggle that pins image versions by distribution. -/
def imageVersionName : String := "linux-node-image-version"

/-- The table a named toggle gives an entity; an unknown toggle gives the empty table. -/
def getMap (t : Toggles) (name : String) (e : Entity) : List (String × String) :=
  match t.maps.lookup name with
  | some rules => evaluateRules rules e
  | Option.none => []

/-- The pinned image versions for an entity, by distribution name. -/
def imageVersions (t : Toggles) (e : Entity) : List (String × String) :=
  t.getMap imageVersionName e

/-- The names of the toggles. -/
def names (t : Toggles) : List String := t.maps.map (·.1)

end Toggles

/-- An image at the version the overrides give its distribution, or the image itself when
they give none. -/
def overrideVersion (image : SigImage) (d : Distro) (overrides : List (String × String)) : SigImage :=
  match overrides.lookup d.value with
  | some version => image.withVersion version
  | none => image

/-! ## Reading toggles -/

open Schema

/-- Reads a rule; both parts default to empty. -/
def ToggleRule.check : Check ToggleRule := model fun e =>
  (Checked.both (withDefault e "match" [] (dictOf text text))
    (withDefault e "values" [] (dictOf text text))).map
    fun (conditions, values) => ⟨conditions, values⟩

/-- Reads a toggles document: the rule lists under `toggles`, by name. -/
def Toggles.check : Check Toggles := model fun e =>
  (withDefault e "toggles" [] (dictOf text (listOf ToggleRule.check))).map Toggles.mk

end NodeImage
