import Mathlib.Data.List.Nodup

/-!
JSON merge patches (RFC 7386) as `github.com/evanphx/json-patch` builds and applies them:
`CreateMergePatch` diffs two documents with `getDiff`, and `MergePatch` folds a patch into a
stored document with `mergeDocs`, `merge` and `pruneNulls`. `client.MergeFrom` builds its patch
with the first; the API server applies it with the second.

A JSON object is a list of keys and values. Go decodes objects into maps, so a key occurs at most
once in the documents these functions see; `get` reads the first occurrence.

Both functions act key by key: `get_getDiff` and `get_mergeDocs` say what they put under one key,
from that key's entries alone. An object with unique keys at every depth (`WellFormed`) has an
empty diff with itself (`getDiff_self`).
-/

namespace MariaDBOperator.JsonPatch

mutual

/-- A JSON value. Numbers are kept as integers: every number in the status is one. -/
inductive Json where
  | null
  | bool (b : Bool)
  | number (n : Int)
  | string (s : String)
  | array (elems : JsonArray)
  | object (fields : JsonObject)

inductive JsonArray where
  | nil
  | cons (head : Json) (tail : JsonArray)

inductive JsonObject where
  | nil
  | cons (key : String) (value : Json) (rest : JsonObject)

end

deriving instance DecidableEq for Json, JsonArray, JsonObject
deriving instance Repr for Json, JsonArray, JsonObject

namespace JsonObject

def get : JsonObject → String → Option Json
  | nil, _ => none
  | cons k v rest, key => if k = key then some v else rest.get key

/-- `doc[key] = value`: the first occurrence replaced, or the key appended. -/
def set : JsonObject → String → Json → JsonObject
  | nil, key, value => cons key value nil
  | cons k v rest, key, value =>
      if k = key then cons k value rest else cons k v (rest.set key value)

/-- `delete(doc, key)`. -/
def erase : JsonObject → String → JsonObject
  | nil, _ => nil
  | cons k v rest, key => if k = key then rest.erase key else cons k v (rest.erase key)

def append : JsonObject → JsonObject → JsonObject
  | nil, other => other
  | cons k v rest, other => cons k v (rest.append other)

/-- The second half of `getDiff`: every key of the original missing from the modified document,
set to `null`. -/
def deletions (original : JsonObject) (modified : JsonObject) : JsonObject :=
  match original with
  | nil => nil
  | cons k _ rest =>
      match modified.get k with
      | none => cons k .null (deletions rest modified)
      | some _ => deletions rest modified


/-- The keys of an object, in order. -/
def keys : JsonObject → List String
  | nil => []
  | cons k _ rest => k :: rest.keys

/-- The entries of an object, in order. -/
def entries : JsonObject → List (String × Json)
  | nil => []
  | cons k v rest => (k, v) :: rest.entries

end JsonObject

mutual

/-- One key of `getDiff` present in both documents: objects are diffed recursively and kept
when the diff is not empty; values of any other kind, or of different kinds, are kept when
they differ. `none` leaves the key out of the patch. -/
def diffValue : Json → Json → Option Json
  | .object original, .object modified =>
      match (diffFields original modified).append (original.deletions modified) with
      | .nil => none
      | d => some (.object d)
  | original, modified => if original = modified then none else some modified

/-- The first half of `getDiff`: every key of the modified document, with its value when the
original lacks the key, or its `diffValue` otherwise. -/
def diffFields (original : JsonObject) : JsonObject → JsonObject
  | .nil => .nil
  | .cons key value rest =>
      let entry :=
        match original.get key with
        | none => some value
        | some old => diffValue old value
      match entry with
      | none => diffFields original rest
      | some v => .cons key v (diffFields original rest)

end

/-- `getDiff`, the patch `CreateMergePatch` builds from two objects. -/
def getDiff (original modified : JsonObject) : JsonObject :=
  (diffFields original modified).append (original.deletions modified)

mutual

/-- `pruneNulls`: keys set to `null` are dropped from objects, at every depth. -/
def pruneNulls : Json → Json
  | .object fields => .object (pruneDocNulls fields)
  | .array elems => .array (pruneAryNulls elems)
  | v => v

def pruneDocNulls : JsonObject → JsonObject
  | .nil => .nil
  | .cons _ .null rest => pruneDocNulls rest
  | .cons k v rest => .cons k (pruneNulls v) (pruneDocNulls rest)

/-- `pruneAryNulls` keeps `null` elements and prunes inside the others. -/
def pruneAryNulls : JsonArray → JsonArray
  | .nil => .nil
  | .cons v rest => .cons (pruneNulls v) (pruneAryNulls rest)

end

mutual

/-- `merge`: a patch object is merged into a stored object; a stored value that is not an
object is replaced by the pruned patch, and a patch that is not an object replaces the value. -/
def merge : Json → Json → Json
  | .object current, .object patch => .object (mergeDocs current patch)
  | .object _, patch => patch
  | _, patch => pruneNulls patch

/-- `mergeDocs`: each key of the patch, in turn, is deleted when it is `null`, set when the
document lacks it, and merged into the document's value otherwise. -/
def mergeDocs (doc : JsonObject) : JsonObject → JsonObject
  | .nil => doc
  | .cons key value rest =>
      let next :=
        match value with
        | .null => doc.erase key
        | v =>
            match doc.get key with
            | none | some .null => doc.set key (pruneNulls v)
            | some current => doc.set key (merge current v)
      mergeDocs next rest

end

/-! ### Reading one key

`getDiff` and `mergeDocs` act key by key: what they put under a key depends only on that key's
entries, once the patch has each key once. -/

namespace JsonObject

theorem get_set : ∀ (o : JsonObject) (key key' : String) (value : Json),
    (o.set key value).get key' = if key = key' then some value else o.get key'
  | nil, key, key', value => by simp [set, get]
  | cons k v rest, key, key', value => by
    have ih := get_set rest key key' value
    simp only [set]
    split_ifs <;> simp_all [get]

theorem get_erase : ∀ (o : JsonObject) (key key' : String),
    (o.erase key).get key' = if key = key' then none else o.get key'
  | nil, key, key' => by simp [erase, get]
  | cons k v rest, key, key' => by
    have ih := get_erase rest key key'
    simp only [erase]
    split_ifs <;> simp_all [get]

theorem get_append : ∀ (a b : JsonObject) (key : String),
    (a.append b).get key = (a.get key).or (b.get key)
  | nil, b, key => rfl
  | cons k v rest, b, key => by
    have ih := get_append rest b key
    simp only [append, get]
    split_ifs <;> simp [ih]

theorem keys_append : ∀ (a b : JsonObject), (a.append b).keys = a.keys ++ b.keys
  | nil, _ => rfl
  | cons k _ rest, b => by simp [append, keys, keys_append rest b]

theorem get_eq_none_of_not_mem : ∀ (o : JsonObject) (key : String), key ∉ o.keys → o.get key = none
  | nil, _, _ => rfl
  | cons k _ rest, key, h => by
    simp only [keys, List.mem_cons, not_or] at h
    simp [get, Ne.symm h.1, get_eq_none_of_not_mem rest key h.2]

theorem get_isSome_of_mem : ∀ (o : JsonObject) (key : String), key ∈ o.keys → (o.get key).isSome
  | nil, _, h => by simp [keys] at h
  | cons k _ rest, key, h => by
    simp only [keys, List.mem_cons] at h
    simp only [get]
    split_ifs with hk
    · rfl
    · exact get_isSome_of_mem rest key (h.resolve_left (Ne.symm hk))

end JsonObject

/-- What `mergeDocs` does to one key, from the document's entry and the patch's. -/
def mergeEntry (current : Option Json) : Option Json → Option Json
  | none => current
  | some .null => none
  | some v =>
      match current with
      | none | some .null => some (pruneNulls v)
      | some c => some (merge c v)

theorem get_mergeDocs : ∀ (doc patch : JsonObject), patch.keys.Nodup → ∀ key,
    (mergeDocs doc patch).get key = mergeEntry (doc.get key) (patch.get key)
  | doc, .nil, _, key => rfl
  | doc, .cons k v rest, hnodup, key => by
    simp only [JsonObject.keys, List.nodup_cons] at hnodup
    have ih := fun doc => get_mergeDocs doc rest hnodup.2 key
    have hrest := JsonObject.get_eq_none_of_not_mem rest k hnodup.1
    by_cases hk : k = key
    · subst hk
      cases v <;> simp only [mergeDocs, ih, hrest, JsonObject.get, if_true, JsonObject.get_erase,
        mergeEntry] <;> split <;> simp_all [JsonObject.get_set]
    · cases v <;> simp only [mergeDocs, ih, JsonObject.get, hk, if_false, JsonObject.get_erase] <;>
        (try split) <;> simp_all [JsonObject.get_set]


theorem get_diffFields (o : JsonObject) : ∀ m : JsonObject, m.keys.Nodup → ∀ key,
    (diffFields o m).get key = (m.get key).bind fun v =>
      match o.get key with
      | none => some v
      | some old => diffValue old v
  | .nil, _, key => rfl
  | .cons k v rest, hnodup, key => by
    simp only [JsonObject.keys, List.nodup_cons] at hnodup
    have ih := get_diffFields o rest hnodup.2 key
    have hrest := JsonObject.get_eq_none_of_not_mem rest k hnodup.1
    simp only [diffFields]
    by_cases hk : k = key
    · subst hk
      split <;> split at * <;> simp_all [JsonObject.get]
    · split <;> simp_all [JsonObject.get]

theorem get_deletions : ∀ (o m : JsonObject) (key : String),
    (o.deletions m).get key = if (o.get key).isSome ∧ m.get key = none then some .null else none
  | .nil, m, key => by simp [JsonObject.deletions, JsonObject.get]
  | .cons k v rest, m, key => by
    have ih := get_deletions rest m key
    simp only [JsonObject.deletions]
    split <;> by_cases hk : k = key <;> simp_all [JsonObject.get]

/-- What `getDiff` puts in the patch for one key, from the key's entries in the two documents. -/
def diffEntry : Option Json → Option Json → Option Json
  | none, none => none
  | some _, none => some .null
  | none, some v => some v
  | some o, some m => diffValue o m

theorem get_getDiff (o m : JsonObject) (hm : m.keys.Nodup) (key : String) :
    (getDiff o m).get key = diffEntry (o.get key) (m.get key) := by
  rw [getDiff, JsonObject.get_append, get_diffFields o m hm, get_deletions]
  cases m.get key <;> cases o.get key <;> simp [diffEntry]

/-- A patch value replaces a stored value other than an object, pruned. -/
theorem mergeEntry_of_not_object {c v : Json} (hc : ∀ o, c ≠ .object o) (hv : v ≠ .null) :
    mergeEntry (some c) (some v) = some (pruneNulls v) := by
  cases v <;> first | exact absurd rfl hv | cases c <;> first | exact absurd rfl (hc _) | rfl


theorem keys_diffFields_sublist (o : JsonObject) :
    ∀ m : JsonObject, List.Sublist (diffFields o m).keys m.keys
  | .nil => .slnil
  | .cons k v rest => by
    have ih := keys_diffFields_sublist o rest
    simp only [diffFields]
    split
    · exact ih.cons k
    · exact ih.cons₂ k

theorem keys_deletions : ∀ (o m : JsonObject),
    List.Sublist (o.deletions m).keys o.keys ∧ ∀ key ∈ (o.deletions m).keys, m.get key = none
  | .nil, _ => ⟨.slnil, by simp [JsonObject.deletions, JsonObject.keys]⟩
  | .cons k v rest, m => by
    obtain ⟨hsub, hnone⟩ := keys_deletions rest m
    simp only [JsonObject.deletions]
    split
    · refine ⟨hsub.cons₂ k, fun key hkey => ?_⟩
      simp only [JsonObject.keys, List.mem_cons] at hkey
      rcases hkey with rfl | hkey
      · assumption
      · exact hnone key hkey
    · exact ⟨hsub.cons k, hnone⟩

/-- A patch `getDiff` builds from objects with unique keys has unique keys. -/
theorem getDiff_keys_nodup {o m : JsonObject} (ho : o.keys.Nodup) (hm : m.keys.Nodup) :
    (getDiff o m).keys.Nodup := by
  obtain ⟨hsub, hnone⟩ := keys_deletions o m
  rw [getDiff, JsonObject.keys_append]
  refine List.nodup_append.mpr ⟨(keys_diffFields_sublist o m).nodup hm, hsub.nodup ho,
    fun key hdiff hdel => ?_⟩
  have hsome := JsonObject.get_isSome_of_mem m key ((keys_diffFields_sublist o m).subset hdiff)
  simp [hnone key hdel] at hsome


mutual

/-- Every object inside has each key once, as the objects Go encodes from maps and structs do. -/
def Json.WellFormed : Json → Prop
  | .array elems => elems.WellFormed
  | .object fields => fields.WellFormed
  | _ => True

def JsonArray.WellFormed : JsonArray → Prop
  | .nil => True
  | .cons v rest => v.WellFormed ∧ rest.WellFormed

def JsonObject.WellFormed : JsonObject → Prop
  | .nil => True
  | .cons k v rest => k ∉ rest.keys ∧ v.WellFormed ∧ rest.WellFormed

end

namespace JsonObject

theorem mem_keys_of_mem_entries : ∀ (o : JsonObject) (p : String × Json), p ∈ o.entries → p.1 ∈ o.keys
  | nil, _, h => by simp [entries] at h
  | cons k v rest, p, h => by
    simp only [entries, List.mem_cons] at h
    rcases h with rfl | h
    · simp [keys]
    · exact List.mem_cons_of_mem k (mem_keys_of_mem_entries rest p h)

theorem WellFormed.keys_nodup : ∀ {o : JsonObject}, o.WellFormed → o.keys.Nodup
  | nil, _ => List.nodup_nil
  | cons _ _ _, h => List.nodup_cons.mpr ⟨h.1, WellFormed.keys_nodup h.2.2⟩

/-- In an object with unique keys, `get` finds every entry. -/
theorem get_of_mem_entries : ∀ {o : JsonObject}, o.WellFormed → ∀ p ∈ o.entries, o.get p.1 = some p.2
  | nil, _, _, hp => by simp [entries] at hp
  | cons k v rest, h, p, hp => by
    simp only [entries, List.mem_cons] at hp
    rcases hp with rfl | hp
    · simp [get]
    · have hne : k ≠ p.1 := fun hk => h.1 (hk ▸ mem_keys_of_mem_entries rest p hp)
      simp [get, hne, get_of_mem_entries h.2.2 p hp]

end JsonObject

theorem diffFields_eq_nil (o : JsonObject) : ∀ m : JsonObject,
    (∀ p ∈ m.entries, o.get p.1 = some p.2 ∧ diffValue p.2 p.2 = none) → diffFields o m = .nil
  | .nil, _ => rfl
  | .cons k v rest, h => by
    have hk := h (k, v) (List.mem_cons_self _ _)
    simp only [diffFields, hk.1, hk.2]
    exact diffFields_eq_nil o rest fun p hp => h p (List.mem_cons_of_mem _ hp)

theorem deletions_eq_nil (m : JsonObject) : ∀ o : JsonObject,
    (∀ key ∈ o.keys, (m.get key).isSome) → o.deletions m = .nil
  | .nil, _ => rfl
  | .cons k _ rest, h => by
    obtain ⟨v, hv⟩ := Option.isSome_iff_exists.mp (h k (List.mem_cons_self _ _))
    simp only [JsonObject.deletions, hv]
    exact deletions_eq_nil m rest fun key hkey => h key (List.mem_cons_of_mem _ hkey)

/-- An object whose values each differ from themselves nowhere has an empty diff with itself. -/
theorem getDiff_self_of_entries {o : JsonObject} (h : o.WellFormed)
    (hentries : ∀ p ∈ o.entries, diffValue p.2 p.2 = none) : getDiff o o = .nil := by
  rw [getDiff, diffFields_eq_nil o o fun p hp => ⟨JsonObject.get_of_mem_entries h p hp, hentries p hp⟩,
    deletions_eq_nil o o fun key hkey => JsonObject.get_isSome_of_mem o key hkey]
  rfl

mutual

/-- A well-formed value differs from itself nowhere. -/
theorem diffValue_self : ∀ v : Json, v.WellFormed → diffValue v v = none
  | .object o, h => by
    have hself := getDiff_self_of_entries h (entries_diffValue_self o h)
    rw [getDiff] at hself
    simp [diffValue, hself]
  | .null, _ | .bool _, _ | .number _, _ | .string _, _ | .array _, _ => by simp [diffValue]

theorem entries_diffValue_self : ∀ o : JsonObject, o.WellFormed →
    ∀ p ∈ o.entries, diffValue p.2 p.2 = none
  | .nil, _ => by simp [JsonObject.entries]
  | .cons k v rest, h => by
    intro p hp
    simp only [JsonObject.entries, List.mem_cons] at hp
    rcases hp with rfl | hp
    · exact diffValue_self v h.2.1
    · exact entries_diffValue_self rest h.2.2 p hp

end

/-- `getDiff` of a well-formed object with itself is the empty patch. -/
theorem getDiff_self (o : JsonObject) (h : o.WellFormed) : getDiff o o = .nil :=
  getDiff_self_of_entries h (entries_diffValue_self o h)

example :
    mergeDocs (.cons "a" (.number 1) (.cons "b" (.number 2) .nil))
      (getDiff (.cons "a" (.number 1) .nil) (.cons "a" (.number 3) .nil)) =
      .cons "a" (.number 3) (.cons "b" (.number 2) .nil) := by decide

end MariaDBOperator.JsonPatch
