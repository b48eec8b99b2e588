import NodeImage.Data.Value

/-! # Mapping entries

A mapping is a list of entries in insertion order, and `Value.sameKey` decides when two keys
are one. Two keys are one when they have one key form, so `sameKey` is symmetric and
transitive, and reflexive on every value that can be a key. From that, for a mapping built by
`entriesOf` from pairs in order:

* the value under a key is that of the last pair with that key (`lookup_entriesOf`);
* its keys are keys of the pairs, each key of a pair is one of them, and no two of them are
  one key (`keys_entriesOf`, `distinctKeys_entriesOf`).
-/

namespace NodeImage.Value

/-! ## One key -/

theorem sameKey_iff {a b : Value} :
    sameKey a b = true ↔ ∃ form, a.keyForm? = some form ∧ b.keyForm? = some form := by
  unfold sameKey
  cases a.keyForm? with
  | none => simp
  | some x =>
    cases b.keyForm? with
    | none => simp
    | some y =>
      show (x == y) = true ↔ _
      rw [beq_iff_eq]
      constructor
      · rintro rfl
        exact ⟨x, rfl, rfl⟩
      · rintro ⟨form, same, same'⟩
        exact (Option.some.inj same).trans (Option.some.inj same').symm

theorem sameKey_comm (a b : Value) : sameKey a b = sameKey b a := by
  cases ab : sameKey a b <;> cases ba : sameKey b a
  · rfl
  · obtain ⟨form, formB, formA⟩ := sameKey_iff.mp ba
    rw [sameKey_iff.mpr ⟨form, formA, formB⟩] at ab
    cases ab
  · obtain ⟨form, formA, formB⟩ := sameKey_iff.mp ab
    rw [sameKey_iff.mpr ⟨form, formB, formA⟩] at ba
    cases ba
  · rfl

theorem sameKey_trans {a b c : Value} (ab : sameKey a b = true) (bc : sameKey b c = true) :
    sameKey a c = true := by
  obtain ⟨form, formA, formB⟩ := sameKey_iff.mp ab
  obtain ⟨form', formB', formC⟩ := sameKey_iff.mp bc
  obtain rfl : form = form' := Option.some.inj (formB.symm.trans formB')
  exact sameKey_iff.mpr ⟨form, formA, formC⟩

/-- A key that is one with a second key and not with a third: the second and the third are
not one key either. -/
theorem sameKey_false_of_trans {a b c : Value} (ab : sameKey a b = true)
    (ac : sameKey a c = false) : sameKey b c = false := by
  cases bc : sameKey b c
  · rfl
  · rw [sameKey_trans ab bc] at ac
    cases ac

theorem keyForm?_isSome (v : Value) : v.keyForm?.isSome = v.hashable := by
  cases v <;> rfl

theorem sameKey_self {v : Value} (key : v.hashable = true) : sameKey v v = true := by
  rw [← keyForm?_isSome, Option.isSome_iff_exists] at key
  obtain ⟨form, formV⟩ := key
  exact sameKey_iff.mpr ⟨form, formV, formV⟩

/-! ## Looking up and inserting -/

/-- No two keys of the entries are one key. -/
def DistinctKeys (es : List (Value × Value)) : Prop :=
  (es.map Prod.fst).Pairwise fun a b => sameKey a b = false

theorem lookup_nil (key : Value) : lookup [] key = none := rfl

theorem lookup_cons (k v : Value) (es : List (Value × Value)) (key : Value) :
    lookup ((k, v) :: es) key = if sameKey k key then some v else lookup es key := by
  unfold lookup
  cases h : sameKey k key <;> simp [h]

theorem lookup_isSome_iff {es : List (Value × Value)} {key : Value} :
    (lookup es key).isSome ↔ ∃ e ∈ es, sameKey e.1 key = true := by
  simp [lookup, List.find?_isSome]

theorem insertEntry_of_fresh {es : List (Value × Value)} {k v : Value}
    (fresh : ∀ e ∈ es, sameKey e.1 k = false) : insertEntry es (k, v) = es ++ [(k, v)] := by
  induction es with
  | nil => rfl
  | cons e es ih =>
    obtain ⟨k₀, v₀⟩ := e
    have head : sameKey k₀ k = false := fresh (k₀, v₀) List.mem_cons_self
    simp only [insertEntry, head, Bool.false_eq_true, if_false, List.cons_append,
      ih fun e mem => fresh e (List.mem_cons_of_mem _ mem)]

/-- Inserting under a key that is already there keeps the keys as they are. -/
theorem keys_insertEntry_of_mem {es : List (Value × Value)} {k v : Value}
    (present : ∃ e ∈ es, sameKey e.1 k = true) :
    (insertEntry es (k, v)).map Prod.fst = es.map Prod.fst := by
  induction es with
  | nil => simp at present
  | cons e es ih =>
    obtain ⟨k₀, v₀⟩ := e
    by_cases head : sameKey k₀ k = true
    · simp [insertEntry, head]
    · have later : ∃ e ∈ es, sameKey e.1 k = true := by
        obtain ⟨e, mem, same⟩ := present
        rcases List.mem_cons.mp mem with rfl | mem
        · exact absurd same head
        · exact ⟨e, mem, same⟩
      simp [insertEntry, head, ih later]

theorem lookup_insertEntry (es : List (Value × Value)) (k v key : Value) :
    lookup (insertEntry es (k, v)) key = if sameKey k key then some v else lookup es key := by
  induction es with
  | nil => simp [insertEntry, lookup_cons, lookup_nil]
  | cons e es ih =>
    obtain ⟨k₀, v₀⟩ := e
    by_cases same : sameKey k₀ k = true
    · -- the entry of `k₀` takes the value: it answers `key` exactly when `k` does
      have agree : sameKey k₀ key = sameKey k key := by
        cases kKey : sameKey k key
        · exact sameKey_false_of_trans ((sameKey_comm k k₀).trans same) kKey
        · exact sameKey_trans same kKey
      simp only [insertEntry, same, if_true, lookup_cons, agree]
      cases sameKey k key <;> rfl
    · simp only [insertEntry, same, Bool.false_eq_true, if_false, lookup_cons, ih]
      cases k₀Key : sameKey k₀ key
      · rfl
      · -- `k₀` answers `key`, so `k` cannot
        have kKey : sameKey k key = false := by
          cases kKey : sameKey k key
          · rfl
          · exact absurd (sameKey_trans k₀Key ((sameKey_comm key k).trans kKey)) same
        simp [kKey]

theorem distinctKeys_insertEntry {es : List (Value × Value)} (distinct : DistinctKeys es)
    (k v : Value) : DistinctKeys (insertEntry es (k, v)) := by
  by_cases present : ∃ e ∈ es, sameKey e.1 k = true
  · unfold DistinctKeys
    rw [keys_insertEntry_of_mem present]
    exact distinct
  · have fresh : ∀ e ∈ es, sameKey e.1 k = false := fun e mem => by
      cases same : sameKey e.1 k
      · rfl
      · exact absurd ⟨e, mem, same⟩ present
    unfold DistinctKeys
    rw [insertEntry_of_fresh fresh, List.map_append, List.pairwise_append]
    refine ⟨distinct, List.pairwise_singleton _ _, ?_⟩
    intro a memA b memB
    obtain ⟨e, mem, rfl⟩ := List.mem_map.mp memA
    simp only [List.map_cons, List.map_nil, List.mem_singleton] at memB
    subst memB
    exact fresh e mem

theorem key_of_mem_insertEntry {es : List (Value × Value)} {k v : Value} {e : Value × Value}
    (mem : e ∈ insertEntry es (k, v)) : (∃ e' ∈ es, e.1 = e'.1) ∨ e.1 = k := by
  induction es with
  | nil =>
    simp only [insertEntry, List.mem_singleton] at mem
    exact .inr (by rw [mem])
  | cons e₀ es ih =>
    obtain ⟨k₀, v₀⟩ := e₀
    by_cases same : sameKey k₀ k = true
    · simp only [insertEntry, same, if_true, List.mem_cons] at mem
      rcases mem with rfl | mem
      · exact .inl ⟨(k₀, v₀), List.mem_cons_self, rfl⟩
      · exact .inl ⟨e, List.mem_cons_of_mem _ mem, rfl⟩
    · simp only [insertEntry, same, Bool.false_eq_true, if_false, List.mem_cons] at mem
      rcases mem with rfl | mem
      · exact .inl ⟨(k₀, v₀), List.mem_cons_self, rfl⟩
      · rcases ih mem with ⟨e', mem', same'⟩ | new
        · exact .inl ⟨e', List.mem_cons_of_mem _ mem', same'⟩
        · exact .inr new

/-! ## Building a mapping from pairs -/

theorem lookup_foldl_insertEntry (pairs es : List (Value × Value)) (key : Value) :
    lookup (pairs.foldl insertEntry es) key =
      ((pairs.reverse.find? fun p => sameKey p.1 key).map (·.2)).or (lookup es key) := by
  induction pairs generalizing es with
  | nil => rfl
  | cons p pairs ih =>
    obtain ⟨k, v⟩ := p
    rw [List.foldl_cons, ih, lookup_insertEntry, List.reverse_cons, List.find?_append,
      Option.map_or, Option.or_assoc, List.find?_singleton]
    cases sameKey k key <;> simp

/-- The value under a key is that of the last pair with that key. -/
theorem lookup_entriesOf (pairs : List (Value × Value)) (key : Value) :
    lookup (entriesOf pairs) key = (pairs.reverse.find? fun p => sameKey p.1 key).map (·.2) := by
  rw [entriesOf, lookup_foldl_insertEntry, lookup_nil, Option.or_none]

theorem key_of_mem_foldl_insertEntry {pairs es : List (Value × Value)} {e : Value × Value}
    (mem : e ∈ pairs.foldl insertEntry es) : (∃ e' ∈ es, e.1 = e'.1) ∨ ∃ p ∈ pairs, e.1 = p.1 := by
  induction pairs generalizing es with
  | nil => exact .inl ⟨e, mem, rfl⟩
  | cons p pairs ih =>
    rcases ih mem with ⟨e', mem', same⟩ | ⟨q, memQ, same⟩
    · rcases key_of_mem_insertEntry mem' with ⟨e'', mem'', same'⟩ | new
      · exact .inl ⟨e'', mem'', same.trans same'⟩
      · exact .inr ⟨p, List.mem_cons_self, same.trans new⟩
    · exact .inr ⟨q, List.mem_cons_of_mem _ memQ, same⟩

/-- The keys of a built mapping are keys of the pairs, and every key of a pair is one of them. -/
theorem keys_entriesOf (pairs : List (Value × Value)) :
    (∀ e ∈ entriesOf pairs, ∃ p ∈ pairs, e.1 = p.1) ∧
      ∀ key, (∃ e ∈ entriesOf pairs, sameKey e.1 key = true) ↔
        ∃ p ∈ pairs, sameKey p.1 key = true := by
  refine ⟨fun e mem => ?_, fun key => ?_⟩
  · rcases key_of_mem_foldl_insertEntry mem with ⟨_, absent, _⟩ | named
    · cases absent
    · exact named
  · rw [← lookup_isSome_iff, lookup_entriesOf, Option.isSome_map, List.find?_isSome]
    simp

theorem distinctKeys_foldl_insertEntry (pairs : List (Value × Value)) {es : List (Value × Value)}
    (distinct : DistinctKeys es) : DistinctKeys (pairs.foldl insertEntry es) := by
  induction pairs generalizing es with
  | nil => exact distinct
  | cons p pairs ih => exact ih (distinctKeys_insertEntry distinct p.1 p.2)

theorem distinctKeys_entriesOf (pairs : List (Value × Value)) : DistinctKeys (entriesOf pairs) :=
  distinctKeys_foldl_insertEntry pairs List.Pairwise.nil

end NodeImage.Value
