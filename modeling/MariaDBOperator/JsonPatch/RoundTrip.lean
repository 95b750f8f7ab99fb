import MariaDBOperator.JsonPatch.MergePatch

/-!
What `CreateMergePatch` and `MergePatch` guarantee together. Applying the patch `getDiff o m`
to `o` gives back `m` (`mergeDocs_getDiff_equiv`), up to the order of keys inside objects, which
Go's maps do not keep (`Json.Equiv`). The documents must have each key once (`WellFormed`), and
`m` must hold no `null` under a key: a merge patch writes `null` to delete a key, so it cannot
set one (RFC 7386).

Merging and diffing also keep documents well-formed (`mergeDocs_wellFormed`,
`getDiff_wellFormed`), so a store that only ever receives such patches holds well-formed
documents.
-/

namespace MariaDBOperator.JsonPatch

mutual

/-- The same JSON value, objects compared key by key in any order of their keys. -/
def Json.Equiv : Json → Json → Prop
  | .object a, .object b => a.EquivIn b ∧ ∀ key ∈ b.keys, key ∈ a.keys
  | .array a, .array b => a.Equiv b
  | a, b => a = b

def JsonArray.Equiv : JsonArray → JsonArray → Prop
  | .nil, .nil => True
  | .cons x xs, .cons y ys => x.Equiv y ∧ xs.Equiv ys
  | _, _ => False

/-- Every entry of the first object is under its key in the second, with an equivalent value. -/
def JsonObject.EquivIn : JsonObject → JsonObject → Prop
  | .nil, _ => True
  | .cons key value rest, other =>
      (∃ w, other.get key = some w ∧ value.Equiv w) ∧ rest.EquivIn other

end

mutual

/-- No key holds `null`, at any depth; an array may hold `null`, which `pruneNulls` keeps. -/
def Json.NullFree : Json → Prop
  | .array elems => elems.NullFree
  | .object fields => fields.NullFree
  | _ => True

def JsonArray.NullFree : JsonArray → Prop
  | .nil => True
  | .cons v rest => v.NullFree ∧ rest.NullFree

def JsonObject.NullFree : JsonObject → Prop
  | .nil => True
  | .cons _ v rest => v ≠ .null ∧ v.NullFree ∧ rest.NullFree

end

theorem pruneDocNulls_cons_of_ne_null {key : String} {v : Json} (hv : v ≠ .null)
    (rest : JsonObject) :
    pruneDocNulls (.cons key v rest) = .cons key (pruneNulls v) (pruneDocNulls rest) := by
  cases v <;> first | exact absurd rfl hv | rfl

theorem mergeDocs_cons_of_ne_null (doc : JsonObject) {key : String} {value : Json}
    (hv : value ≠ .null) (rest : JsonObject) :
    mergeDocs doc (.cons key value rest) =
      mergeDocs (match doc.get key with
        | none | some .null => doc.set key (pruneNulls value)
        | some current => doc.set key (merge current value)) rest := by
  cases value <;> first | exact absurd rfl hv | rfl

theorem diffEntry_some (o m : Json) : diffEntry (some o) (some m) = diffValue o m := rfl

theorem diffValue_object (o m : JsonObject) :
    diffValue (.object o) (.object m) =
      if getDiff o m = .nil then none else some (.object (getDiff o m)) := by
  simp only [diffValue, getDiff]
  split <;> simp_all

/-- Values that are not both objects are compared whole. -/
theorem diffValue_of_not_objects {a b : Json} (h : ∀ o m, a = .object o → b = .object m → False) :
    diffValue a b = if a = b then none else some b := by
  unfold diffValue
  split
  · exact (h _ _ rfl rfl).elim
  · rfl

/-- What `getDiff` can put under a key the two documents share: the diff of two objects, or
the modified value. -/
theorem diffValue_eq_some {old v d : Json} (h : diffValue old v = some d) :
    (∃ o m, old = .object o ∧ v = .object m ∧ d = .object (getDiff o m)) ∨ d = v := by
  by_cases hobj : ∃ o m, old = .object o ∧ v = .object m
  · obtain ⟨o, m, rfl, rfl⟩ := hobj
    rw [diffValue_object] at h
    split_ifs at h
    exact .inl ⟨o, m, rfl, rfl, (Option.some.inj h).symm⟩
  · rw [diffValue_of_not_objects fun o m ho hm => hobj ⟨o, m, ho, hm⟩] at h
    split_ifs at h
    exact .inr (Option.some.inj h).symm

/-- When `getDiff` leaves a shared key out of the patch: two objects with an empty diff, or
equal values. -/
theorem diffValue_eq_none {old v : Json} (h : diffValue old v = none) :
    (∃ o m, old = .object o ∧ v = .object m ∧ getDiff o m = .nil) ∨ old = v := by
  by_cases hobj : ∃ o m, old = .object o ∧ v = .object m
  · obtain ⟨o, m, rfl, rfl⟩ := hobj
    rw [diffValue_object] at h
    split_ifs at h with hnil
    exact .inl ⟨o, m, rfl, rfl, hnil⟩
  · rw [diffValue_of_not_objects fun o m ho hm => hobj ⟨o, m, ho, hm⟩] at h
    split_ifs at h with heq
    exact .inr heq

namespace JsonObject

theorem equivIn_of_forall (other : JsonObject) : ∀ o : JsonObject,
    (∀ p ∈ o.entries, ∃ w, other.get p.1 = some w ∧ p.2.Equiv w) → o.EquivIn other
  | .nil, _ => trivial
  | .cons k v rest, h =>
    ⟨h (k, v) (List.mem_cons_self _ _),
      equivIn_of_forall other rest fun p hp => h p (List.mem_cons_of_mem _ hp)⟩

theorem mem_entries_of_get : ∀ (o : JsonObject) (key : String) (v : Json),
    o.get key = some v → (key, v) ∈ o.entries
  | .nil, _, _, h => by simp [get] at h
  | .cons k w rest, key, v, h => by
    simp only [get] at h
    split_ifs at h with hk
    · cases h
      subst hk
      exact List.mem_cons_self _ _
    · exact List.mem_cons_of_mem _ (mem_entries_of_get rest key v h)

theorem mem_keys_of_get {o : JsonObject} {key : String} {v : Json} (h : o.get key = some v) :
    key ∈ o.keys :=
  mem_keys_of_mem_entries o _ (mem_entries_of_get o key v h)

/-- In an object with unique keys, `get` finds every entry. -/
theorem get_of_mem_entries_of_nodup : ∀ {o : JsonObject}, o.keys.Nodup →
    ∀ p ∈ o.entries, o.get p.1 = some p.2
  | .nil, _, _, hp => by simp [entries] at hp
  | .cons k v rest, h, p, hp => by
    simp only [keys, List.nodup_cons] at h
    simp only [entries, List.mem_cons] at hp
    rcases hp with rfl | hp
    · simp [get]
    · have hne : k ≠ p.1 := fun hk => h.1 (hk ▸ mem_keys_of_mem_entries rest p hp)
      simp [get, hne, get_of_mem_entries_of_nodup h.2 p hp]

theorem wellFormed_of_mem_entries : ∀ {o : JsonObject}, o.WellFormed →
    ∀ p ∈ o.entries, p.2.WellFormed
  | .nil, _ => by simp [entries]
  | .cons _ _ _, h => List.forall_mem_cons.mpr ⟨h.2.1, wellFormed_of_mem_entries h.2.2⟩

theorem wellFormed_of_get {o : JsonObject} (h : o.WellFormed) {key : String} {v : Json}
    (hget : o.get key = some v) : v.WellFormed :=
  wellFormed_of_mem_entries h _ (mem_entries_of_get o key v hget)

theorem wellFormed_iff : ∀ o : JsonObject,
    o.WellFormed ↔ o.keys.Nodup ∧ ∀ p ∈ o.entries, p.2.WellFormed
  | .nil => by simp [JsonObject.WellFormed, keys, entries]
  | .cons k v rest => by
    simp only [JsonObject.WellFormed, keys, entries, List.nodup_cons, List.mem_cons,
      forall_eq_or_imp, wellFormed_iff rest]
    tauto

theorem mem_keys_set : ∀ (o : JsonObject) (key key' : String) (value : Json),
    key' ∈ (o.set key value).keys → key' ∈ o.keys ∨ key' = key
  | .nil, _, _, _, h => by simp_all [set, keys]
  | .cons k v rest, key, key', value, h => by
    simp only [set] at h
    split_ifs at h
    · simp_all [keys]
    · simp only [keys, List.mem_cons] at h ⊢
      rcases h with h | h
      · exact .inl (.inl h)
      · exact (mem_keys_set rest key key' value h).imp_left .inr

theorem mem_keys_erase : ∀ (o : JsonObject) (key key' : String),
    key' ∈ (o.erase key).keys → key' ∈ o.keys
  | .nil, _, _, h => h
  | .cons k v rest, key, key', h => by
    simp only [erase] at h
    split_ifs at h
    · exact List.mem_cons_of_mem _ (mem_keys_erase rest key key' h)
    · simp only [keys, List.mem_cons] at h ⊢
      exact h.imp_right (mem_keys_erase rest key key')

theorem set_wellFormed : ∀ {o : JsonObject} (key : String) {value : Json},
    o.WellFormed → value.WellFormed → (o.set key value).WellFormed
  | .nil, _, _, _, hv => ⟨List.not_mem_nil _, hv, trivial⟩
  | .cons k v rest, key, value, ho, hv => by
    simp only [set]
    split_ifs with hk
    · exact ⟨ho.1, hv, ho.2.2⟩
    · exact ⟨fun hmem => (mem_keys_set rest key k value hmem).elim ho.1 hk, ho.2.1,
        set_wellFormed key ho.2.2 hv⟩

theorem erase_wellFormed : ∀ {o : JsonObject} (key : String),
    o.WellFormed → (o.erase key).WellFormed
  | .nil, _, _ => trivial
  | .cons k v rest, key, ho => by
    simp only [erase]
    split_ifs
    · exact erase_wellFormed key ho.2.2
    · exact ⟨fun hmem => ho.1 (mem_keys_erase rest key k hmem), ho.2.1,
        erase_wellFormed key ho.2.2⟩

theorem mem_keys_pruneDocNulls : ∀ (o : JsonObject) (key : String),
    key ∈ (pruneDocNulls o).keys → key ∈ o.keys
  | .nil, _, h => h
  | .cons k v rest, key, h => by
    by_cases hv : v = .null
    · subst hv
      exact List.mem_cons_of_mem _ (mem_keys_pruneDocNulls rest key h)
    · rw [pruneDocNulls_cons_of_ne_null hv] at h
      simp only [keys, List.mem_cons] at h ⊢
      exact h.imp_right (mem_keys_pruneDocNulls rest key)

end JsonObject

/-! ### Patches keep documents well-formed -/

mutual

theorem pruneNulls_wellFormed : ∀ v : Json, v.WellFormed → (pruneNulls v).WellFormed
  | .object o, h => pruneDocNulls_wellFormed o h
  | .array a, h => pruneAryNulls_wellFormed a h
  | .null, _ | .bool _, _ | .number _, _ | .string _, _ => trivial

theorem pruneDocNulls_wellFormed : ∀ o : JsonObject, o.WellFormed → (pruneDocNulls o).WellFormed
  | .nil, _ => trivial
  | .cons k v rest, h => by
    by_cases hv : v = .null
    · subst hv
      exact pruneDocNulls_wellFormed rest h.2.2
    · rw [pruneDocNulls_cons_of_ne_null hv]
      exact ⟨fun hmem => h.1 (JsonObject.mem_keys_pruneDocNulls rest k hmem),
        pruneNulls_wellFormed v h.2.1, pruneDocNulls_wellFormed rest h.2.2⟩

theorem pruneAryNulls_wellFormed : ∀ a : JsonArray, a.WellFormed → (pruneAryNulls a).WellFormed
  | .nil, _ => trivial
  | .cons v rest, h => ⟨pruneNulls_wellFormed v h.1, pruneAryNulls_wellFormed rest h.2⟩

end

mutual

theorem merge_wellFormed : ∀ (v c : Json), c.WellFormed → v.WellFormed → (merge c v).WellFormed
  | .object p, c, hc, hv => by
    cases c with
    | object c => exact mergeDocs_wellFormed p c hc hv
    | _ => exact pruneNulls_wellFormed _ hv
  | .null, c, _, hv | .bool _, c, _, hv | .number _, c, _, hv | .string _, c, _, hv
  | .array _, c, _, hv => by
    cases c <;> first | exact hv | exact pruneNulls_wellFormed _ hv

/-- `MergePatch` of a well-formed patch into a well-formed document is well-formed. -/
theorem mergeDocs_wellFormed : ∀ (patch doc : JsonObject), doc.WellFormed → patch.WellFormed →
    (mergeDocs doc patch).WellFormed
  | .nil, _, hd, _ => hd
  | .cons key value rest, doc, hd, hp => by
    by_cases hnull : value = .null
    · subst hnull
      exact mergeDocs_wellFormed rest _ (JsonObject.erase_wellFormed key hd) hp.2.2
    · rw [mergeDocs_cons_of_ne_null doc hnull]
      apply mergeDocs_wellFormed rest _ _ hp.2.2
      split
      next => exact JsonObject.set_wellFormed key hd (pruneNulls_wellFormed value hp.2.1)
      next => exact JsonObject.set_wellFormed key hd (pruneNulls_wellFormed value hp.2.1)
      next current _ hget =>
        exact JsonObject.set_wellFormed key hd
          (merge_wellFormed value current (JsonObject.wellFormed_of_get hd hget) hp.2.1)

end

theorem getDiff_wellFormed_of_entries {o m : JsonObject} (ho : o.WellFormed) (hm : m.WellFormed)
    (hentries : ∀ p ∈ m.entries, ∀ old d, old.WellFormed → diffValue old p.2 = some d →
      d.WellFormed) :
    (getDiff o m).WellFormed := by
  have hnodup := getDiff_keys_nodup ho.keys_nodup hm.keys_nodup
  refine (JsonObject.wellFormed_iff _).mpr ⟨hnodup, fun p hp => ?_⟩
  have hget := JsonObject.get_of_mem_entries_of_nodup hnodup p hp
  rw [get_getDiff o m hm.keys_nodup] at hget
  cases hmk : m.get p.1 with
  | none =>
    cases hok : o.get p.1 <;>
      simp only [hmk, hok, diffEntry, Option.some.injEq, reduceCtorEq] at hget
    exact hget ▸ trivial
  | some v =>
    cases hok : o.get p.1 with
    | none =>
      simp only [hmk, hok, diffEntry, Option.some.injEq] at hget
      exact hget ▸ JsonObject.wellFormed_of_get hm hmk
    | some old =>
      simp only [hmk, hok, diffEntry] at hget
      exact hentries _ (JsonObject.mem_entries_of_get m _ _ hmk) old _
        (JsonObject.wellFormed_of_get ho hok) hget

mutual

theorem diffValue_wellFormed : ∀ (v old d : Json), old.WellFormed → v.WellFormed →
    diffValue old v = some d → d.WellFormed
  | .object m, _, _, hold, hv, h => by
    rcases diffValue_eq_some h with ⟨o, m', rfl, hm', rfl⟩ | rfl
    · cases hm'
      exact getDiff_wellFormed_of_entries hold hv (entries_diffValue_wellFormed m hv)
    · exact hv
  | .null, _, _, _, hv, h | .bool _, _, _, _, hv, h | .number _, _, _, _, hv, h
  | .string _, _, _, _, hv, h | .array _, _, _, _, hv, h => by
    rcases diffValue_eq_some h with ⟨_, _, _, hobj, _⟩ | rfl
    · cases hobj
    · exact hv

theorem entries_diffValue_wellFormed : ∀ m : JsonObject, m.WellFormed →
    ∀ p ∈ m.entries, ∀ old d, old.WellFormed → diffValue old p.2 = some d → d.WellFormed
  | .nil, _ => by simp [JsonObject.entries]
  | .cons _ v rest, h => List.forall_mem_cons.mpr
    ⟨fun old d hold => diffValue_wellFormed v old d hold h.2.1,
      entries_diffValue_wellFormed rest h.2.2⟩

end

/-- `CreateMergePatch` of two well-formed documents is well-formed. -/
theorem getDiff_wellFormed {o m : JsonObject} (ho : o.WellFormed) (hm : m.WellFormed) :
    (getDiff o m).WellFormed :=
  getDiff_wellFormed_of_entries ho hm (entries_diffValue_wellFormed m hm)

/-! ### The round trip -/

mutual

theorem Json.equiv_refl : ∀ v : Json, v.WellFormed → v.Equiv v
  | .object o, h =>
    ⟨JsonObject.equivIn_of_forall o o fun p hp =>
      ⟨p.2, JsonObject.get_of_mem_entries h p hp, entries_equiv_refl o h p hp⟩, fun _ hk => hk⟩
  | .array a, h => JsonArray.equiv_refl a h
  | .null, _ | .bool _, _ | .number _, _ | .string _, _ => rfl

theorem JsonArray.equiv_refl : ∀ a : JsonArray, a.WellFormed → a.Equiv a
  | .nil, _ => trivial
  | .cons v rest, h => ⟨Json.equiv_refl v h.1, JsonArray.equiv_refl rest h.2⟩

theorem entries_equiv_refl : ∀ o : JsonObject, o.WellFormed → ∀ p ∈ o.entries, p.2.Equiv p.2
  | .nil, _ => by simp [JsonObject.entries]
  | .cons _ v rest, h =>
    List.forall_mem_cons.mpr ⟨Json.equiv_refl v h.2.1, entries_equiv_refl rest h.2.2⟩

end

mutual

theorem pruneNulls_of_nullFree : ∀ v : Json, v.NullFree → pruneNulls v = v
  | .object o, h => congrArg Json.object (pruneDocNulls_of_nullFree o h)
  | .array a, h => congrArg Json.array (pruneAryNulls_of_nullFree a h)
  | .null, _ | .bool _, _ | .number _, _ | .string _, _ => rfl

theorem pruneDocNulls_of_nullFree : ∀ o : JsonObject, o.NullFree → pruneDocNulls o = o
  | .nil, _ => rfl
  | .cons k v rest, h => by
    rw [pruneDocNulls_cons_of_ne_null h.1, pruneNulls_of_nullFree v h.2.1,
      pruneDocNulls_of_nullFree rest h.2.2]

theorem pruneAryNulls_of_nullFree : ∀ a : JsonArray, a.NullFree → pruneAryNulls a = a
  | .nil, _ => rfl
  | .cons v rest, h => by
    rw [pruneAryNulls, pruneNulls_of_nullFree v h.1, pruneAryNulls_of_nullFree rest h.2]

end

/-- A null-free patch value other than an object lands whole, whatever the document held. -/
theorem mergeEntry_of_not_object_nullFree (current : Option Json) {v : Json}
    (hobj : ∀ o, v ≠ .object o) (hnull : v ≠ .null) (hnf : v.NullFree) :
    mergeEntry current (some v) = some v := by
  rcases current with _ | c
  · cases v <;> first | exact absurd rfl hnull | exact congrArg some (pruneNulls_of_nullFree _ hnf)
  · cases c with
    | object o => cases v <;> first | exact absurd rfl hnull | exact absurd rfl (hobj _) | rfl
    | _ => rw [mergeEntry_of_not_object (by simp) hnull, pruneNulls_of_nullFree _ hnf]

/-- An empty diff between objects whose entries are each equivalent wherever their diff is
empty: the objects are equivalent. -/
theorem equiv_of_getDiff_eq_nil_of_entries {o m : JsonObject} (ho : o.WellFormed)
    (hm : m.WellFormed) (hnil : getDiff o m = .nil)
    (hentries : ∀ p ∈ o.entries, ∀ v, v.WellFormed → diffValue p.2 v = none → p.2.Equiv v) :
    (Json.object o).Equiv (.object m) := by
  have hkey : ∀ key, diffEntry (o.get key) (m.get key) = none := fun key => by
    rw [← get_getDiff o m hm.keys_nodup, hnil]
    rfl
  refine ⟨JsonObject.equivIn_of_forall m o fun p hp => ?_, fun key hmem => ?_⟩
  · have h := hkey p.1
    rw [JsonObject.get_of_mem_entries ho p hp] at h
    cases hmk : m.get p.1 with
    | none => simp [hmk, diffEntry] at h
    | some w =>
      rw [hmk] at h
      exact ⟨w, rfl, hentries p hp w (JsonObject.wellFormed_of_get hm hmk) h⟩
  · obtain ⟨w, hw⟩ := Option.isSome_iff_exists.mp (JsonObject.get_isSome_of_mem m key hmem)
    have h := hkey key
    by_contra hno
    rw [hw, JsonObject.get_eq_none_of_not_mem o key hno] at h
    cases h

mutual

/-- `getDiff` leaves a key out only where the two values are equivalent. -/
theorem equiv_of_diffValue_eq_none : ∀ u : Json, u.WellFormed → ∀ v : Json, v.WellFormed →
    diffValue u v = none → u.Equiv v
  | .object o, hu, _, hv, h => by
    rcases diffValue_eq_none h with ⟨_, m, ho, rfl, hnil⟩ | rfl
    · cases ho
      exact equiv_of_getDiff_eq_nil_of_entries hu hv hnil (entries_equiv_of_diffValue_eq_none o hu)
    · exact Json.equiv_refl _ hu
  | .null, hu, _, _, h | .bool _, hu, _, _, h | .number _, hu, _, _, h
  | .string _, hu, _, _, h | .array _, hu, _, _, h => by
    rcases diffValue_eq_none h with ⟨_, _, hobj, _⟩ | rfl
    · cases hobj
    · exact Json.equiv_refl _ hu

theorem entries_equiv_of_diffValue_eq_none : ∀ o : JsonObject, o.WellFormed →
    ∀ p ∈ o.entries, ∀ v, v.WellFormed → diffValue p.2 v = none → p.2.Equiv v
  | .nil, _ => by simp [JsonObject.entries]
  | .cons _ v rest, h => List.forall_mem_cons.mpr
    ⟨equiv_of_diffValue_eq_none v h.2.1, entries_equiv_of_diffValue_eq_none rest h.2.2⟩

end

/-- Objects with an empty `CreateMergePatch` between them are equivalent. -/
theorem equiv_of_getDiff_eq_nil {o m : JsonObject} (ho : o.WellFormed) (hm : m.WellFormed)
    (hnil : getDiff o m = .nil) : (Json.object o).Equiv (.object m) :=
  equiv_of_getDiff_eq_nil_of_entries ho hm hnil (entries_equiv_of_diffValue_eq_none o ho)

/-- Merging the diff from any well-formed stored entry to `v` leaves `v` under the key, up to
key order. -/
def Json.Restorable (v : Json) : Prop :=
  ∀ current : Option Json, (∀ u, current = some u → u.WellFormed) →
    ∃ x, mergeEntry current (diffEntry current (some v)) = some x ∧ x.Equiv v

/-- The round trip on objects, from the round trip of each entry of the modified object. -/
theorem mergeDocs_getDiff_of_entries {o m : JsonObject} (ho : o.WellFormed) (hm : m.WellFormed)
    (hentries : ∀ p ∈ m.entries, p.2.Restorable) :
    (Json.object (mergeDocs o (getDiff o m))).Equiv (.object m) := by
  have hr : ∀ key, (mergeDocs o (getDiff o m)).get key =
      mergeEntry (o.get key) (diffEntry (o.get key) (m.get key)) := fun key => by
    rw [get_mergeDocs _ _ (getDiff_keys_nodup ho.keys_nodup hm.keys_nodup),
      get_getDiff o m hm.keys_nodup]
  have hsome : ∀ key w, m.get key = some w →
      ∃ x, (mergeDocs o (getDiff o m)).get key = some x ∧ x.Equiv w := fun key w hw => by
    rw [hr, hw]
    exact hentries _ (JsonObject.mem_entries_of_get m key w hw) _
      fun _ hu => JsonObject.wellFormed_of_get ho hu
  refine ⟨JsonObject.equivIn_of_forall _ _ fun p hp => ?_, fun key hmem => ?_⟩
  · have hget := JsonObject.get_of_mem_entries
      (mergeDocs_wellFormed _ o ho (getDiff_wellFormed ho hm)) p hp
    cases hmk : m.get p.1 with
    | none =>
      rw [hr, hmk] at hget
      cases hok : o.get p.1 <;> simp [hok, diffEntry, mergeEntry] at hget
    | some w =>
      obtain ⟨x, hx, hxw⟩ := hsome p.1 w hmk
      rw [hget] at hx
      cases hx
      exact ⟨w, rfl, hxw⟩
  · obtain ⟨w, hw⟩ := Option.isSome_iff_exists.mp (JsonObject.get_isSome_of_mem m key hmem)
    obtain ⟨x, hx, -⟩ := hsome key w hw
    exact JsonObject.mem_keys_of_get hx

theorem restorable_object_of_entries {m : JsonObject} (hm : m.WellFormed) (hnf : m.NullFree)
    (hentries : ∀ p ∈ m.entries, p.2.Restorable) : (Json.object m).Restorable := by
  rintro (_ | u) hcur
  · refine ⟨_, rfl, ?_⟩
    rw [pruneNulls_of_nullFree (.object m) hnf]
    exact Json.equiv_refl _ hm
  · have hu := hcur u rfl
    cases u with
    | object o =>
      rw [diffEntry_some, diffValue_object]
      split_ifs with hnil
      · exact ⟨_, rfl, equiv_of_getDiff_eq_nil hu hm hnil⟩
      · exact ⟨_, rfl, mergeDocs_getDiff_of_entries hu hm hentries⟩
    | _ =>
      rw [diffEntry_some, diffValue_of_not_objects (by simp), if_neg (by simp),
        mergeEntry_of_not_object (by simp) (by simp), pruneNulls_of_nullFree (.object m) hnf]
      exact ⟨_, rfl, Json.equiv_refl _ hm⟩

theorem restorable_of_not_object {v : Json} (hv : v.WellFormed) (hnf : v.NullFree)
    (hnull : v ≠ .null) (hobj : ∀ o, v ≠ .object o) : v.Restorable := by
  rintro (_ | u) _
  · exact ⟨v, mergeEntry_of_not_object_nullFree none hobj hnull hnf, Json.equiv_refl v hv⟩
  · rw [diffEntry_some, diffValue_of_not_objects fun _ m _ hm => hobj m hm]
    split_ifs with huv
    · exact ⟨u, rfl, huv ▸ Json.equiv_refl v hv⟩
    · exact ⟨v, mergeEntry_of_not_object_nullFree _ hobj hnull hnf, Json.equiv_refl v hv⟩

mutual

theorem restorable : ∀ v : Json, v.WellFormed → v.NullFree → v ≠ .null → v.Restorable
  | .object m, hv, hnf, _ => restorable_object_of_entries hv hnf (entries_restorable m hv hnf)
  | .null, _, _, hnull => absurd rfl hnull
  | .bool _, hv, hnf, hnull | .number _, hv, hnf, hnull | .string _, hv, hnf, hnull
  | .array _, hv, hnf, hnull => restorable_of_not_object hv hnf hnull (by simp)

theorem entries_restorable : ∀ m : JsonObject, m.WellFormed → m.NullFree →
    ∀ p ∈ m.entries, p.2.Restorable
  | .nil, _, _ => by simp [JsonObject.entries]
  | .cons _ v rest, hwf, hnf => List.forall_mem_cons.mpr
    ⟨restorable v hwf.2.1 hnf.2.1 hnf.1, entries_restorable rest hwf.2.2 hnf.2.2⟩

end

/-- Applying `CreateMergePatch(o, m)` to `o` gives back `m`, up to the order of keys. -/
theorem mergeDocs_getDiff_equiv {o m : JsonObject} (ho : o.WellFormed) (hm : m.WellFormed)
    (hnf : m.NullFree) : (Json.object (mergeDocs o (getDiff o m))).Equiv (.object m) :=
  mergeDocs_getDiff_of_entries ho hm (entries_restorable m hm hnf)

end MariaDBOperator.JsonPatch
