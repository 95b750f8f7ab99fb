import MariaDBOperator.Api.MariaDB

/-!
The MariaDB status as the API server stores it, and the two ways a controller writes it: a
whole-status `Update`, which carries the `resourceVersion` the writer read, and a JSON merge
patch, which carries one only when it is built with `MergeFromWithOptimisticLock`.

The merge patch of a status is `getDiff` over the status object's keys, one `FieldPatch` per
key. With `omitempty` a zero value is a missing key. Arrays, numbers and strings are replaced
whole; the two object-valued keys are diffed and merged as JSON objects.
-/

namespace MariaDBOperator.ApiServer

open Meta JsonPatch V1alpha1

/-- One top-level key of a JSON merge patch. -/
inductive FieldPatch (α : Type) where
  /-- The key is not in the patch: the stored value stays. -/
  | keep
  /-- The key is `null`: the stored value is deleted and reads back as Go's zero value. -/
  | null
  /-- The key carries a value. -/
  | set (value : α)
  deriving DecidableEq, Repr

namespace FieldPatch

variable {α : Type}

/-- `getDiff` on a key holding an array, a number or a string. -/
def diff [DecidableEq α] [Inhabited α] (original modified : α) : FieldPatch α :=
  if original = modified then keep else if modified = default then null else set modified

/-- `mergeDocs` on such a key. -/
def apply [Inhabited α] (current : α) : FieldPatch α → α
  | keep => current
  | null => default
  | set v => v

/-- `getDiff` on a key holding an object, `none` when the key is missing. Go's maps have unique
keys, for which `getDiff` of equal objects is empty; the comparison says so first. -/
def diffObject (original modified : Option JsonObject) : FieldPatch JsonObject :=
  match original, modified with
  | none, none => keep
  | some _, none => null
  | none, some m => set m
  | some o, some m =>
      if o = m then keep
      else
        match getDiff o m with
        | .nil => keep
        | d => set d

/-- `mergeDocs` on such a key: a patch object is pruned into a missing key and merged into a
present one. -/
def applyObject (current : Option JsonObject) : FieldPatch JsonObject → Option JsonObject
  | keep => current
  | null => none
  | set p =>
      match current with
      | some c => some (mergeDocs c p)
      | none => some (pruneDocNulls p)

@[simp] theorem apply_diff [DecidableEq α] [Inhabited α] (current original modified : α) :
    (diff original modified).apply current = if original = modified then current else modified := by
  unfold diff
  split_ifs <;> simp_all [apply]

@[simp] theorem applyObject_diffObject_self (current original : Option JsonObject) :
    applyObject current (diffObject original original) = current := by
  cases original <;> simp [diffObject, applyObject]

@[simp] theorem applyObject_diffObject_none (current original : Option JsonObject) :
    applyObject current (diffObject original none) =
      if original = none then current else none := by
  cases original <;> simp [diffObject, applyObject]

end FieldPatch

/-- The merge patch of a status: one entry per key of its JSON object. -/
structure MariaDBStatusPatch where
  conditions : FieldPatch (List Condition)
  replicas : FieldPatch Int
  currentPrimaryPodIndex : FieldPatch (Option Int)
  currentPrimary : FieldPatch (Option String)
  galeraRecovery : FieldPatch JsonObject
  replicationStatus : FieldPatch JsonObject
  deriving DecidableEq, Repr

/-- `client.MergeFrom`: the patch from the status as read to the status as modified. The patch of
the whole object has only its status key, since a patcher changes nothing else. -/
def mergeFrom (original modified : MariaDBStatus) : MariaDBStatusPatch where
  conditions := .diff original.conditions modified.conditions
  replicas := .diff original.replicas modified.replicas
  currentPrimaryPodIndex := .diff original.currentPrimaryPodIndex modified.currentPrimaryPodIndex
  currentPrimary := .diff original.currentPrimary modified.currentPrimary
  galeraRecovery := .diffObject original.galeraRecovery modified.galeraRecovery
  replicationStatus := .diffObject original.replicationStatus modified.replicationStatus

def applyPatch (current : MariaDBStatus) (patch : MariaDBStatusPatch) :
    MariaDBStatus where
  conditions := patch.conditions.apply current.conditions
  replicas := patch.replicas.apply current.replicas
  currentPrimaryPodIndex := patch.currentPrimaryPodIndex.apply current.currentPrimaryPodIndex
  currentPrimary := patch.currentPrimary.apply current.currentPrimary
  galeraRecovery := FieldPatch.applyObject current.galeraRecovery patch.galeraRecovery
  replicationStatus := FieldPatch.applyObject current.replicationStatus patch.replicationStatus

/-- The three-way result of a merge patch: a key whose two sides agree keeps the stored value, a
changed array, number or string takes the modified value, and a changed object is merged. -/
theorem applyPatch_mergeFrom (current original modified : MariaDBStatus) :
    applyPatch current (mergeFrom original modified) =
      { conditions :=
          if original.conditions = modified.conditions then current.conditions
          else modified.conditions
        replicas := if original.replicas = modified.replicas then current.replicas
          else modified.replicas
        currentPrimaryPodIndex :=
          if original.currentPrimaryPodIndex = modified.currentPrimaryPodIndex then
            current.currentPrimaryPodIndex
          else modified.currentPrimaryPodIndex
        currentPrimary := if original.currentPrimary = modified.currentPrimary then
            current.currentPrimary
          else modified.currentPrimary
        galeraRecovery := FieldPatch.applyObject current.galeraRecovery
          (.diffObject original.galeraRecovery modified.galeraRecovery)
        replicationStatus := FieldPatch.applyObject current.replicationStatus
          (.diffObject original.replicationStatus modified.replicationStatus) } := by
  simp [applyPatch, mergeFrom]

structure StoredStatus where
  status : MariaDBStatus
  resourceVersion : Nat
  deriving DecidableEq, Repr

/-- A status write as the API server receives it. -/
inductive StatusWrite where
  /-- `Status().Update`: the whole status, with the `resourceVersion` the writer read. -/
  | update (resourceVersion : Nat) (status : MariaDBStatus)
  /-- `Status().Patch` with a merge patch. `client.MergeFrom` sends no `resourceVersion`;
  `MergeFromWithOptimisticLock` sends the one the writer read. -/
  | patch (resourceVersion : Option Nat) (patch : MariaDBStatusPatch)
  deriving DecidableEq, Repr

/-- Storing a new status: a write that changes nothing is skipped, any other bumps the
`resourceVersion`. -/
def StoredStatus.commit (s : StoredStatus) (status : MariaDBStatus) : StoredStatus :=
  if status = s.status then s else ⟨status, s.resourceVersion + 1⟩

/-- The API server's answer to a write: the new stored status, or `none` for a conflict, when the
write carries a `resourceVersion` other than the stored one. -/
def StoredStatus.write (s : StoredStatus) : StatusWrite → Option StoredStatus
  | .update rv status => if rv = s.resourceVersion then some (s.commit status) else none
  | .patch rv p =>
      if rv.all (· = s.resourceVersion) then some (s.commit (applyPatch s.status p)) else none

/-- A sequence of writes in the order the API server serialises them; a conflicting write leaves
the store as it was. -/
def StoredStatus.run (s : StoredStatus) (writes : List StatusWrite) : StoredStatus :=
  writes.foldl (fun s w => (s.write w).getD s) s

@[simp] theorem commit_status (s : StoredStatus) (status : MariaDBStatus) :
    (s.commit status).status = status := by
  unfold StoredStatus.commit
  split_ifs with h
  · exact h.symm
  · rfl

theorem run_cons (s : StoredStatus) (w : StatusWrite) (writes : List StatusWrite) :
    s.run (w :: writes) = ((s.write w).getD s).run writes := rfl

end MariaDBOperator.ApiServer
