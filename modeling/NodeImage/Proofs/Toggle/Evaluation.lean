import NodeImage.Toggle.Rules
import NodeImage.Proofs.Catalog.Environment

/-!
# Evaluating toggle rules

A toggle's table for an entity is a left fold over its rules: each rule whose conditions all
hold writes its values into the table, key by key, so a later rule overrides an earlier one on
the keys they share and leaves the others alone.

The table holds a key exactly when some rule that holds for the entity has it, and gives it
the value of the last such rule (`lookup_evaluateRules`). A rule holds when every field it
names is a field of the entity with the value it names (`ToggleRule.holdsFor_iff`): a rule
without conditions holds for every entity, and a rule on the cluster or the distribution never
holds for an environment, which shows neither field.

Main statement: `evaluateRules_last_rule_wins`.
-/

namespace NodeImage

/-! ## Writing a table -/

theorem lookup_setEntry (table : List (String × String)) (entry : String × String) (key : String) :
    (setEntry table entry).lookup key = if key = entry.1 then some entry.2 else table.lookup key := by
  obtain ⟨k', v'⟩ := entry
  induction table with
  | nil => simp [setEntry, lookup_cons_ite]
  | cons head rest ih =>
    obtain ⟨k, v⟩ := head
    by_cases same : k = k'
    · subst same
      by_cases hit : key = k <;> simp [setEntry, lookup_cons_ite, hit]
    · have differs : (k == k') = false := beq_eq_false_iff_ne.mpr same
      simp only [setEntry, differs, Bool.false_eq_true, if_false, lookup_cons_ite, ih]
      by_cases hit : key = k
      · subst hit
        simp [same]
      · simp [hit]

/-- Writing entries that name each key once gives a key the value of its entry and leaves
the other keys as they were. -/
theorem lookup_updateTable (key : String) :
    ∀ (table extra : List (String × String)), (extra.map Prod.fst).Nodup →
      (updateTable table extra).lookup key = (extra.lookup key).or (table.lookup key)
  | table, [], _ => by simp [updateTable]
  | table, entry :: extra, distinct => by
    have fresh : entry.1 ∉ extra.map Prod.fst := (List.nodup_cons.mp distinct).1
    rw [updateTable, List.foldl_cons, ← updateTable,
      lookup_updateTable key _ extra (List.nodup_cons.mp distinct).2, lookup_setEntry]
    obtain ⟨k, v⟩ := entry
    by_cases hit : key = k
    · subst hit
      have missing : extra.lookup key = none := lookup_eq_none_iff_not_mem.mpr fresh
      simp [missing]
    · simp [hit, lookup_cons_ite]

/-! ## Evaluating rules -/

/-- Folding rules into a table gives a key the value of the last rule that holds for the
entity and has the key, and otherwise the table's own. -/
theorem lookup_foldl_rules (e : Entity) (key : String) :
    ∀ (rules : List ToggleRule) (table : List (String × String)),
      (∀ r ∈ rules, (r.values.map Prod.fst).Nodup) →
      (rules.foldl (fun acc r => if r.holdsFor e then updateTable acc r.values else acc) table).lookup key =
        (rules.reverse.findSome? fun r => if r.holdsFor e then r.values.lookup key else none).or
          (table.lookup key)
  | [], table, _ => by simp
  | r :: rules, table, keyed => by
    rw [List.foldl_cons, lookup_foldl_rules e key rules _ fun r' member => keyed r' (List.mem_cons_of_mem r member),
      List.reverse_cons, List.findSome?_append, Option.or_assoc]
    -- the rule at the head is the last one the reversed search looks at
    congr 1
    by_cases holds : r.holdsFor e = true
    · simp [holds, lookup_updateTable key table r.values (keyed r List.mem_cons_self)]
    · simp [holds]

theorem lookup_evaluateRules {rules : List ToggleRule} (e : Entity)
    (keyed : ∀ r ∈ rules, (r.values.map Prod.fst).Nodup) (key : String) :
    (evaluateRules rules e).lookup key =
      rules.reverse.findSome? fun r => if r.holdsFor e then r.values.lookup key else none := by
  rw [evaluateRules, lookup_foldl_rules e key rules [] keyed]
  simp

theorem mem_keys_evaluateRules {rules : List ToggleRule} (e : Entity)
    (keyed : ∀ r ∈ rules, (r.values.map Prod.fst).Nodup) (key : String) :
    key ∈ (evaluateRules rules e).map Prod.fst ↔
      ∃ r ∈ rules, r.holdsFor e = true ∧ key ∈ r.values.map Prod.fst := by
  rw [← lookup_isSome_iff_mem, lookup_evaluateRules e keyed, List.findSome?_isSome_iff]
  simp only [List.mem_reverse]
  refine exists_congr fun r => and_congr_right fun _ => ?_
  by_cases holds : r.holdsFor e = true <;> simp [holds]

/-! ## When a rule holds -/

theorem ToggleRule.holdsFor_iff {r : ToggleRule} {e : Entity} :
    r.holdsFor e = true ↔ ∀ c ∈ r.conditions, e.fields.lookup c.1 = some c.2 := by
  simp [ToggleRule.holdsFor, List.all_eq_true]

/-- An environment shows only its subscription, its tenant and its region. -/
theorem lookup_ofEnvironment_eq_none {env : EnvironmentInfo} {field : String}
    (other : field ∉ ["subscription_id", "tenant_id", "region"]) :
    (Entity.ofEnvironment env).fields.lookup field = none := by
  simp only [List.mem_cons, List.mem_nil_iff, or_false, not_or] at other
  obtain ⟨notSubscription, notTenant, notRegion⟩ := other
  simp [Entity.ofEnvironment, lookup_cons_ite, notSubscription, notTenant, notRegion]

/-- A rule with a condition on a field an environment does not show never holds for it. -/
theorem ToggleRule.holdsFor_ofEnvironment_eq_false {r : ToggleRule} {env : EnvironmentInfo}
    {c : String × String} (condition : c ∈ r.conditions)
    (other : c.1 ∉ ["subscription_id", "tenant_id", "region"]) :
    r.holdsFor (Entity.ofEnvironment env) = false := by
  rw [← Bool.not_eq_true, ToggleRule.holdsFor_iff]
  intro holds
  have met := holds c condition
  rw [lookup_ofEnvironment_eq_none other] at met
  cases met

/-- The table a list of rules gives an entity. It holds a key exactly when some rule that
holds for the entity has it, and gives the key the value of the last such rule; each rule's
values name a key once. A rule holds when every field it names is a field of the entity with
the value it names: a rule with no conditions holds for every entity, one that names the
cluster or the distribution holds for no environment, and an environment with no subscription
or tenant shows the empty text for it. A toggle that does not exist gives the empty table. -/
theorem evaluateRules_last_rule_wins (rules : List ToggleRule) (e : Entity)
    (keyed : ∀ r ∈ rules, (r.values.map Prod.fst).Nodup) :
    (∀ key, key ∈ (evaluateRules rules e).map Prod.fst ↔
      ∃ r ∈ rules, r.holdsFor e = true ∧ key ∈ r.values.map Prod.fst) ∧
    (∀ key, (evaluateRules rules e).lookup key =
      rules.reverse.findSome? fun r => if r.holdsFor e then r.values.lookup key else none) ∧
    (∀ r : ToggleRule, r.holdsFor e = true ↔ ∀ c ∈ r.conditions, e.fields.lookup c.1 = some c.2) ∧
    (∀ r : ToggleRule, r.conditions = [] → r.holdsFor e = true) ∧
    (∀ (env : EnvironmentInfo) (r : ToggleRule),
      (∃ c ∈ r.conditions, c.1 = "cluster" ∨ c.1 = "distro") →
        r.holdsFor (Entity.ofEnvironment env) = false) ∧
    (∀ env : EnvironmentInfo,
      (env.subscriptionId = none → (Entity.ofEnvironment env).fields.lookup "subscription_id" = some "") ∧
      (env.tenantId = none → (Entity.ofEnvironment env).fields.lookup "tenant_id" = some "")) ∧
    (∀ (t : Toggles) (name : String), t.maps.lookup name = none → t.getMap name e = []) := by
  refine ⟨mem_keys_evaluateRules e keyed, lookup_evaluateRules e keyed,
    fun _ => ToggleRule.holdsFor_iff, fun r unconditional => ?_, fun env r named => ?_,
    fun env => ⟨fun none => ?_, fun none => ?_⟩, fun t name missing => ?_⟩
  · simp [ToggleRule.holdsFor, unconditional]
  · obtain ⟨c, condition, clusterOrDistro⟩ := named
    refine ToggleRule.holdsFor_ofEnvironment_eq_false condition ?_
    rcases clusterOrDistro with field | field <;> simp [field]
  · simp [Entity.ofEnvironment, none]
  · simp [Entity.ofEnvironment, none, lookup_cons_ite]
  · simp [Toggles.getMap, missing]

/-- Two rules: one for every entity and one for `westus` only. -/
def westusRules : List ToggleRule :=
  [⟨[], [("aks-ubuntu-containerd-22.04", "1.0"), ("aks-cblmariner-v2", "1.0")]⟩,
    ⟨[("region", "westus")], [("aks-ubuntu-containerd-22.04", "2.0")]⟩]

/-- In `westus` the later rule wins on the key both rules name. -/
theorem evaluateRules_westus_later_wins :
    (∀ r ∈ westusRules, (r.values.map Prod.fst).Nodup) ∧
      (evaluateRules westusRules (Entity.ofEnvironment ⟨"westus", none, none⟩)).lookup
        "aks-ubuntu-containerd-22.04" = some "2.0" :=
  ⟨by decide, by
    rw [(evaluateRules_last_rule_wins westusRules _ (by decide)).2.1]
    rfl⟩

end NodeImage
