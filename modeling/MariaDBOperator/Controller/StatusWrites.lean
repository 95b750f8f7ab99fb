import MariaDBOperator.Controller.GaleraReconcile
import MariaDBOperator.ApiServer.StoreLaws

/-!
The status patch of the Galera monitor in the runs of the status store. Sent while the store
still holds the status the monitor read, a patch stores the patcher's status, its objects up to
the order of their keys. Built from any status the store held earlier, as a read from the
informer's cache may be, and interleaved with any other well-formed writes, the patches keep
every stored status well-formed, which is what the JSON reading of the merge asks of the status
a patch is built from.
-/

namespace MariaDBOperator.Controller

open JsonPatch V1alpha1 ApiServer

theorem patchStatus_wellFormed {read : MariaDBStatus} {patcher : MariaDBStatus → MariaDBStatus}
    (hread : read.WellFormed) (hpatched : (patcher read).WellFormed) :
    (patchStatus read patcher).WellFormed :=
  mergeFrom_wellFormed hread hpatched

theorem galeraNotReadyPatcher_wellFormed (now : Int) {status : MariaDBStatus}
    (h : status.WellFormed) : (galeraNotReadyPatcher now status).WellFormed :=
  ⟨by simp [galeraNotReadyPatcher, setGaleraNotReady],
    by simpa [galeraNotReadyPatcher, setGaleraNotReady] using h.2⟩

/-- With no write between the read and the patch, `patchStatus` stores what the patcher made of
the status, whatever the patcher: the merge patch loses nothing and adds nothing. -/
theorem patchStatus_stores_patcher_status (s : StoredStatus)
    (patcher : MariaDBStatus → MariaDBStatus) (hs : s.status.WellFormed)
    (hpatched : (patcher s.status).WellFormed) (hnull : (patcher s.status).NullFree) :
    ∃ stored, s.write (patchStatus s.status patcher) = some stored ∧
      stored.status.Equiv (patcher s.status) :=
  ⟨_, rfl, by
    rw [commit_status]
    exact applyPatch_mergeFrom_self _ _ hs hpatched hnull⟩

/-- A Galera patch sent on the replication status the monitor read, with nothing written in
between, stores the cleared recovery state and the replication object as read. -/
theorem galera_patch_stores_patched_status :
    let replication : JsonObject := .cons "gtidCurrentPos" (.string "0-10-42") .nil
    let s : StoredStatus := ⟨{ (default : MariaDBStatus) with
      galeraRecovery := some (.cons "podsRestarted" (.bool true) .nil)
      replicationStatus := some replication }, 3⟩
    s.status.WellFormed ∧ (galeraNotReadyPatcher 5 s.status).WellFormed ∧
      (galeraNotReadyPatcher 5 s.status).NullFree ∧
      ∃ stored, s.write (patchStatus s.status (galeraNotReadyPatcher 5)) = some stored ∧
        stored.status.Equiv (galeraNotReadyPatcher 5 s.status) := by
  intro replication s
  have hs : s.status.WellFormed := by
    simp [s, replication, MariaDBStatus.WellFormed, JsonObject.WellFormed, Json.WellFormed,
      JsonObject.keys]
  have hpatched := galeraNotReadyPatcher_wellFormed 5 hs
  have hnull : (galeraNotReadyPatcher 5 s.status).NullFree := by
    simp [s, replication, galeraNotReadyPatcher, setGaleraNotReady, MariaDBStatus.NullFree,
      JsonObject.NullFree, Json.NullFree]
  exact ⟨hs, hpatched, hnull,
    patchStatus_stores_patcher_status s (galeraNotReadyPatcher 5) hs hpatched hnull⟩

/-- Along any run of the status store whose writes are each either another writer's well-formed
write, or a Galera patch built from a status the store held at some earlier point of the run,
every status the store holds is well-formed. -/
theorem galera_patches_keep_status_wellFormed (s : StoredStatus) (writes : List StatusWrite)
    (hs : s.status.WellFormed)
    (hwrites : ∀ i (hi : i < writes.length), writes[i].WellFormed ∨
      ∃ j ≤ i, ∃ now, writes[i] =
        patchStatus (s.run (writes.take j)).status (galeraNotReadyPatcher now)) :
    ∀ k, (s.run (writes.take k)).status.WellFormed := by
  have htake : ∀ j, (∀ i (hi : i < writes.length), i < j → writes[i].WellFormed) →
      ∀ w ∈ writes.take j, w.WellFormed := by
    intro j h w hw
    obtain ⟨i, hi, rfl⟩ := List.mem_iff_getElem.mp hw
    simp only [List.length_take, Nat.lt_min] at hi
    simpa [List.getElem_take] using h i hi.2 hi.1
  have hall : ∀ i (hi : i < writes.length), writes[i].WellFormed := by
    intro i
    induction i using Nat.strong_induction_on with
    | _ i ih =>
      intro hi
      rcases hwrites i hi with hw | ⟨j, hj, now, hw⟩
      · exact hw
      · have hread := run_wellFormed hs (htake j fun l hl hlj => ih l (by omega) hl)
        rw [hw]
        exact patchStatus_wellFormed hread (galeraNotReadyPatcher_wellFormed now hread)
  exact fun k => run_wellFormed hs (htake k fun i hi _ => hall i hi)

/-- A Galera patch built from the status read before another writer's update, applied after it:
the run still holds well-formed statuses. -/
theorem stale_galera_patch_keeps_status_wellFormed :
    let s : StoredStatus := ⟨default, 0⟩
    let recovering : MariaDBStatus := { (default : MariaDBStatus) with
      galeraRecovery := some (.cons "podsRestarted" (.bool true) .nil) }
    let writes := [StatusWrite.update 0 recovering, patchStatus s.status (galeraNotReadyPatcher 0)]
    s.status.WellFormed ∧
      (∀ i (hi : i < writes.length), writes[i].WellFormed ∨
        ∃ j ≤ i, ∃ now, writes[i] =
          patchStatus (s.run (writes.take j)).status (galeraNotReadyPatcher now)) ∧
      (s.run (writes.take 2)).status.WellFormed := by
  intro s recovering writes
  have hs : s.status.WellFormed := ⟨fun _ h => (nomatch h), fun _ h => (nomatch h)⟩
  have hwrites : ∀ i (hi : i < writes.length), writes[i].WellFormed ∨
      ∃ j ≤ i, ∃ now, writes[i] =
        patchStatus (s.run (writes.take j)).status (galeraNotReadyPatcher now)
    | 0, _ => .inl (by
        simp [writes, recovering, StatusWrite.WellFormed, MariaDBStatus.WellFormed,
          JsonObject.WellFormed, Json.WellFormed, JsonObject.keys])
    | 1, _ => .inr ⟨0, Nat.zero_le _, 0, rfl⟩
    | _ + 2, hi => absurd hi (by simp [writes])
  exact ⟨hs, hwrites, galera_patches_keep_status_wellFormed s writes hs hwrites 2⟩

end MariaDBOperator.Controller
