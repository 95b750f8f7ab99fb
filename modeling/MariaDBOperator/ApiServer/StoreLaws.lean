import MariaDBOperator.ApiServer.StatusStore
import MariaDBOperator.JsonPatch.RoundTrip

/-!
What the status store keeps across writes. A status whose object-valued keys have each key once
stays so under every write whose payload does (`run_wellFormed`). A merge patch built from the
status the API server still holds stores the modified status, its objects up to the order of
their keys (`applyPatch_mergeFrom_self`).
-/

namespace MariaDBOperator.V1alpha1

open JsonPatch

/-- The object-valued keys of a status have each key once, at every depth. -/
def MariaDBStatus.WellFormed (s : MariaDBStatus) : Prop :=
  (∀ o, s.galeraRecovery = some o → o.WellFormed) ∧
    ∀ o, s.replicationStatus = some o → o.WellFormed

/-- The object-valued keys of a status hold no `null` under a key. -/
def MariaDBStatus.NullFree (s : MariaDBStatus) : Prop :=
  (∀ o, s.galeraRecovery = some o → o.NullFree) ∧
    ∀ o, s.replicationStatus = some o → o.NullFree

/-- The same status, its object-valued keys compared up to the order of their keys. -/
def MariaDBStatus.Equiv (a b : MariaDBStatus) : Prop :=
  a.conditions = b.conditions ∧ a.replicas = b.replicas ∧
    a.currentPrimaryPodIndex = b.currentPrimaryPodIndex ∧ a.currentPrimary = b.currentPrimary ∧
    Option.Rel (fun x y => (Json.object x).Equiv (.object y)) a.galeraRecovery b.galeraRecovery ∧
    Option.Rel (fun x y => (Json.object x).Equiv (.object y)) a.replicationStatus
      b.replicationStatus

end MariaDBOperator.V1alpha1

namespace MariaDBOperator.ApiServer

open JsonPatch V1alpha1

namespace FieldPatch

/-- A key compared whole, patched from its own value, takes the modified value. -/
theorem apply_diff_self {α : Type} [DecidableEq α] [Inhabited α] (original modified : α) :
    (diff original modified).apply original = modified := by
  rw [apply_diff]
  split_ifs with h
  · exact h
  · rfl

/-- An object key patched from its own value ends equivalent to the modified object. -/
theorem applyObject_diffObject_equiv (original modified : Option JsonObject)
    (horiginal : ∀ o, original = some o → o.WellFormed)
    (hmodified : ∀ m, modified = some m → m.WellFormed)
    (hnull : ∀ m, modified = some m → m.NullFree) :
    Option.Rel (fun x y => (Json.object x).Equiv (.object y))
      (applyObject original (diffObject original modified)) modified := by
  rcases original with _ | o <;> rcases modified with _ | m
  · exact .none
  · simp only [diffObject, applyObject, pruneDocNulls_of_nullFree m (hnull m rfl)]
    exact .some (Json.equiv_refl _ (hmodified m rfl))
  · exact .none
  · have ho := horiginal o rfl
    have hm := hmodified m rfl
    simp only [diffObject]
    split_ifs with heq
    · exact .some (heq ▸ Json.equiv_refl _ ho)
    · cases hd : getDiff o m with
      | nil => exact .some (equiv_of_getDiff_eq_nil ho hm hd)
      | cons k v rest =>
        exact .some (hd ▸ mergeDocs_getDiff_equiv ho hm (hnull m rfl))

theorem applyObject_wellFormed {current : Option JsonObject} {patch : FieldPatch JsonObject}
    (hcurrent : ∀ o, current = some o → o.WellFormed)
    (hpatch : ∀ p, patch = .set p → p.WellFormed) :
    ∀ o, applyObject current patch = some o → o.WellFormed := by
  intro o ho
  cases patch with
  | keep => exact hcurrent o ho
  | null => cases ho
  | set p =>
    rcases current with _ | c <;> simp only [applyObject, Option.some.injEq] at ho <;> subst ho
    · exact pruneDocNulls_wellFormed p (hpatch p rfl)
    · exact mergeDocs_wellFormed p c (hcurrent c rfl) (hpatch p rfl)

theorem diffObject_wellFormed {original modified : Option JsonObject}
    (horiginal : ∀ o, original = some o → o.WellFormed)
    (hmodified : ∀ m, modified = some m → m.WellFormed) :
    ∀ p, diffObject original modified = .set p → p.WellFormed := by
  intro p hp
  rcases original with _ | o <;> rcases modified with _ | m <;>
    simp only [diffObject, reduceCtorEq] at hp
  · cases hp
    exact hmodified p rfl
  · split_ifs at hp
    cases hd : getDiff o m with
    | nil => simp only [hd, reduceCtorEq] at hp
    | cons k v rest =>
      simp only [hd, FieldPatch.set.injEq] at hp
      exact hp ▸ hd ▸ getDiff_wellFormed (horiginal o rfl) (hmodified m rfl)

end FieldPatch

/-- The object-valued keys a patch sets have each key once. -/
def MariaDBStatusPatch.WellFormed (p : MariaDBStatusPatch) : Prop :=
  (∀ o, p.galeraRecovery = .set o → o.WellFormed) ∧
    ∀ o, p.replicationStatus = .set o → o.WellFormed

/-- A write whose payload is well-formed. -/
def StatusWrite.WellFormed : StatusWrite → Prop
  | .update _ status => status.WellFormed
  | .patch _ p => p.WellFormed

theorem mergeFrom_wellFormed {original modified : MariaDBStatus} (horiginal : original.WellFormed)
    (hmodified : modified.WellFormed) : (mergeFrom original modified).WellFormed :=
  ⟨FieldPatch.diffObject_wellFormed horiginal.1 hmodified.1,
    FieldPatch.diffObject_wellFormed horiginal.2 hmodified.2⟩

theorem applyPatch_wellFormed {current : MariaDBStatus} {patch : MariaDBStatusPatch}
    (hcurrent : current.WellFormed) (hpatch : patch.WellFormed) :
    (applyPatch current patch).WellFormed :=
  ⟨FieldPatch.applyObject_wellFormed hcurrent.1 hpatch.1,
    FieldPatch.applyObject_wellFormed hcurrent.2 hpatch.2⟩

theorem run_append (s : StoredStatus) (writes more : List StatusWrite) :
    s.run (writes ++ more) = (s.run writes).run more :=
  List.foldl_append _ _ _ _

/-- One write keeps the stored status well-formed, applied or refused. -/
theorem write_wellFormed {s : StoredStatus} {w : StatusWrite} (hs : s.status.WellFormed)
    (hw : w.WellFormed) : ((s.write w).getD s).status.WellFormed := by
  cases w <;> simp only [StoredStatus.write] <;> split_ifs <;>
    simp only [Option.getD_some, Option.getD_none, commit_status]
  all_goals first | exact hs | exact hw | exact applyPatch_wellFormed hs hw

/-- Every run of well-formed writes keeps the stored status well-formed. -/
theorem run_wellFormed {s : StoredStatus} {writes : List StatusWrite} (hs : s.status.WellFormed)
    (hwrites : ∀ w ∈ writes, w.WellFormed) : (s.run writes).status.WellFormed := by
  induction writes generalizing s with
  | nil => exact hs
  | cons w writes ih =>
    rw [run_cons]
    exact ih (write_wellFormed hs (hwrites w (List.mem_cons_self _ _)))
      fun w' hw' => hwrites w' (List.mem_cons_of_mem _ hw')

/-- A merge patch from the status the API server still holds stores the modified status, up to
the order of keys in its objects. -/
theorem applyPatch_mergeFrom_self (current modified : MariaDBStatus)
    (hcurrent : current.WellFormed) (hmodified : modified.WellFormed)
    (hnull : modified.NullFree) : (applyPatch current (mergeFrom current modified)).Equiv modified :=
  ⟨FieldPatch.apply_diff_self _ _, FieldPatch.apply_diff_self _ _,
    FieldPatch.apply_diff_self _ _, FieldPatch.apply_diff_self _ _,
    FieldPatch.applyObject_diffObject_equiv _ _ hcurrent.1 hmodified.1 hnull.1,
    FieldPatch.applyObject_diffObject_equiv _ _ hcurrent.2 hmodified.2 hnull.2⟩

end MariaDBOperator.ApiServer
