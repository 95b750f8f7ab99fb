import MariaDBOperator.Controller.Poll
import MariaDBOperator.ApiServer.StatusStore

/-!
One pass of `StatefulSetGaleraReconciler.Reconcile`: the reads, the gate on the Galera
configuration and conditions, the bounded poll, and on an unhealthy verdict the warning event
and the status patch that clears the recovery state and sets `GaleraReady` and `Ready` to
`False`.

What the pass reads through code declared outside the source (`Galera()` with its defaults,
`HasGaleraConfiguredCondition`, `HasGaleraNotReadyCondition`) is the parameter `galera`. The
status patch is `patchStatus`: a merge patch against the status as read, sent without a
`resourceVersion`, which the API server applies to whatever status it holds by then.

The poll runs under a child of the reconcile context with the `ClusterHealthyTimeout` deadline;
the patch goes out on the reconcile context itself. That context carries no deadline, so a poll
ended by the deadline leaves it live, and a poll ended by a cancellation leaves it cancelled. A
cancellation that comes after a poll ended by the deadline, before its patch, is not modelled.
-/

namespace MariaDBOperator.Controller

open Meta JsonPatch V1alpha1 ApiServer

/-- What `Reconcile` reads of a MariaDB through code declared outside the source. -/
structure GaleraView where
  enabled : Bool
  recoveryEnabled : Bool
  hasGaleraConfiguredCondition : Bool
  hasGaleraNotReadyCondition : Bool
  deriving DecidableEq, Repr

/-- The gate of `Reconcile`: Galera and its recovery enabled, Galera configured, and no
`GaleraReady=False` condition yet. -/
def GaleraView.polls (view : GaleraView) : Bool :=
  view.enabled && view.recoveryEnabled && view.hasGaleraConfiguredCondition &&
    !view.hasGaleraNotReadyCondition

structure GaleraPass where
  statefulSet : Except Error StatefulSet
  /-- `RefResolver.MariaDBFromAnnotation`. -/
  mariadb : Except Error MariaDB
  poll : PollRun
  /-- The clock reading the status patcher's `SetCondition` calls take. -/
  now : Int
  /-- The API server's answer to the status patch, when the patch is sent. -/
  patchResult : Except Error Unit

inductive Effect where
  | event (eventType reason message : String)
  | writeStatus (write : StatusWrite)
  deriving DecidableEq, Repr

structure ReconcileResult where
  effects : List Effect
  result : Except Error Unit
  deriving DecidableEq, Repr

def EventTypeWarning : String := "Warning"

/-- Modelled from the spec: the event reason is declared outside the source; it takes the word
of its Go identifier `ReasonGaleraClusterNotHealthy`. -/
def ReasonGaleraClusterNotHealthy : String := "GaleraClusterNotHealthy"

def ignoreNotFound : Error → Except Error Unit
  | .notFound _ => .ok ()
  | err => .error err

/-- The patcher of the pass: `GaleraRecovery = nil`, then `SetGaleraNotReady`. -/
def galeraNotReadyPatcher (now : Int) (status : MariaDBStatus) : MariaDBStatus :=
  setGaleraNotReady { status with galeraRecovery := none } now

/-- `patchStatus`: `client.MergeFrom` of the status as read, the patcher applied, and
`Status().Patch`. `MergeFrom` without `MergeFromWithOptimisticLock` sends no
`resourceVersion`. -/
def patchStatus (status : MariaDBStatus) (patcher : MariaDBStatus → MariaDBStatus) :
    StatusWrite :=
  .patch none (mergeFrom status (patcher status))

/-- The warning event of the unhealthy branch. The event recorder takes no context. -/
def notHealthyEvent : Effect :=
  .event EventTypeWarning ReasonGaleraClusterNotHealthy "Galera cluster is not healthy"

/-- The effects of the unhealthy branch when its patch is sent: the event, then the patch. -/
def notHealthyEffects (mariadb : MariaDB) (now : Int) : List Effect :=
  [notHealthyEvent, .writeStatus (patchStatus mariadb.status (galeraNotReadyPatcher now))]

/-- The unhealthy branch: the event, then `patchStatus` on the reconcile context, its error
wrapped. After a poll ended by a cancellation that context is cancelled, and client-go returns
`ctx.Err()` before it sends the request: no write reaches the API server. After a poll ended by
the deadline the patch is sent. -/
def unhealthyBranch (mariadb : MariaDB) (pass : GaleraPass) : ReconcileResult :=
  match pass.poll.stop with
  | .canceled =>
      ⟨[notHealthyEvent], .error (errorf "error patching MariaDB: " (.context .canceled))⟩
  | .deadlineExceeded =>
      ⟨notHealthyEffects mariadb pass.now,
        match pass.patchResult with
        | .ok () => .ok ()
        | .error err => .error (errorf "error patching MariaDB: " err)⟩

def reconcile (galera : MariaDB → GaleraView) (pass : GaleraPass) : ReconcileResult :=
  match pass.statefulSet with
  | .error err => ⟨[], ignoreNotFound err⟩
  | .ok sts =>
      match pass.mariadb with
      | .error (.annotationNotFound _) => ⟨[], .ok ()⟩
      | .error err => ⟨[], ignoreNotFound err⟩
      | .ok mariadb =>
          if !(galera mariadb).polls then ⟨[], .ok ()⟩
          else
            match pollUntilHealthyWithTimeout mariadb sts pass.poll with
            | .error err => ⟨[], .error (errorf "error polling MariaDB health: " err)⟩
            | .ok true => ⟨[], .ok ()⟩
            | .ok false => unhealthyBranch mariadb pass

theorem notHealthyEvent_mem_unhealthyBranch (mariadb : MariaDB) (pass : GaleraPass) :
    notHealthyEvent ∈ (unhealthyBranch mariadb pass).effects := by
  unfold unhealthyBranch
  split <;> simp [notHealthyEffects]

theorem unhealthyBranch_effects_eq_iff (mariadb : MariaDB) (pass : GaleraPass) :
    (unhealthyBranch mariadb pass).effects = notHealthyEffects mariadb pass.now ↔
      pass.poll.stop = .deadlineExceeded := by
  unfold unhealthyBranch
  split <;> simp_all [notHealthyEffects]

section Pass

variable (galera : MariaDB → GaleraView) (pass : GaleraPass) {sts : StatefulSet}
  {mariadb : MariaDB}

theorem reconcile_of_polls (hsts : pass.statefulSet = .ok sts)
    (hmariadb : pass.mariadb = .ok mariadb) (hgate : (galera mariadb).polls = true) :
    reconcile galera pass =
      match pollUntilHealthyWithTimeout mariadb sts pass.poll with
      | .error err => ⟨[], .error (errorf "error polling MariaDB health: " err)⟩
      | .ok true => ⟨[], .ok ()⟩
      | .ok false => unhealthyBranch mariadb pass := by
  simp [reconcile, hsts, hmariadb, hgate]

/-- The first check of a poll that does not say unhealthy decides the poll. -/
theorem poll_of_first_decisive {pre post : List Observation} {observe : Observation}
    (hsplit : pass.poll.checks = pre ++ observe :: post)
    (hpre : ∀ o ∈ pre, isHealthy mariadb sts o = .ok false) :
    pollUntilHealthyWithTimeout mariadb sts pass.poll =
      match isHealthy mariadb sts observe with
      | .ok true => .ok true
      | .ok false => pollUntilHealthyWithTimeout mariadb sts ⟨observe, post, pass.poll.stop⟩
      | .error err => .error (errorf "error polling health: " err) := by
  have hloop := loop_append_false (isHealthy mariadb sts) pass.poll.stop hpre (observe :: post)
  unfold pollUntilHealthyWithTimeout pollUntilContextCancel
  rw [hsplit, hloop]
  cases hcheck : isHealthy mariadb sts observe with
  | error err =>
      obtain ⟨message, rfl⟩ := isHealthy_error_is_other hcheck
      simp [loopConditionUntilContext, hcheck, interrupted]
  | ok healthy =>
      cases healthy <;> simp [loopConditionUntilContext, hcheck, PollRun.checks]

/-- A pass enters its unhealthy branch, recording the event, exactly when every check of its poll
says unhealthy, whatever ended the poll. It sends its status patch only when the poll was ended
by the `ClusterHealthyTimeout` deadline: after a cancellation of the reconcile context the patch
is refused and the pass fails. A check that errs instead ends the pass with its error, wrapped,
and with no event and no patch; a Pod read or an engine query cut off by the deadline is such a
check. -/
theorem galera_pass_unhealthy_branch_iff (hsts : pass.statefulSet = .ok sts)
    (hmariadb : pass.mariadb = .ok mariadb) (hgate : (galera mariadb).polls = true) :
    (notHealthyEvent ∈ (reconcile galera pass).effects ↔
        ∀ observe ∈ pass.poll.checks, isHealthy mariadb sts observe = .ok false) ∧
      ((reconcile galera pass).effects = notHealthyEffects mariadb pass.now ↔
        (∀ observe ∈ pass.poll.checks, isHealthy mariadb sts observe = .ok false) ∧
          pass.poll.stop = .deadlineExceeded) ∧
      ((∀ observe ∈ pass.poll.checks, isHealthy mariadb sts observe = .ok false) →
        pass.poll.stop = .canceled →
        reconcile galera pass =
          ⟨[notHealthyEvent], .error (.other "error patching MariaDB: context canceled")⟩) ∧
      ∀ pre observe post err, pass.poll.checks = pre ++ observe :: post →
        (∀ o ∈ pre, isHealthy mariadb sts o = .ok false) →
        isHealthy mariadb sts observe = .error err →
        reconcile galera pass =
          ⟨[], .error (errorf "error polling MariaDB health: " (errorf "error polling health: " err))⟩ := by
  rw [reconcile_of_polls galera pass hsts hmariadb hgate, ← poll_ok_false_iff]
  refine ⟨?_, ?_, fun hall hstop => ?_, fun pre observe post err hsplit hpre herr => ?_⟩
  · rcases pollUntilHealthyWithTimeout mariadb sts pass.poll with _ | _ | _ <;>
      simp [notHealthyEvent_mem_unhealthyBranch]
  · rcases pollUntilHealthyWithTimeout mariadb sts pass.poll with _ | _ | _ <;>
      simp only [unhealthyBranch_effects_eq_iff] <;> simp [notHealthyEffects]
  · simp [hall, unhealthyBranch, hstop, errorf, Error.text, ContextErr.text]
  · rw [poll_of_first_decisive pass hsplit hpre, herr]

theorem minority_primary_poll_declares_unhealthy :
    let configured : Condition :=
      ⟨ConditionTypeGaleraConfigured, ConditionTrue, 1, 1, "GaleraConfigured", ""⟩
    let mariadb : MariaDB :=
      { (default : MariaDB) with spec.replicas := 3, status.conditions := [configured] }
    let minority : Observation := fun _ => ⟨.ok true, .ok (), .ok "Primary", .ok 1⟩
    let pass : GaleraPass :=
      ⟨.ok ⟨1⟩, .ok mariadb, ⟨minority, [minority], .deadlineExceeded⟩, 0, .ok ()⟩
    (reconcile (fun _ => ⟨true, true, true, false⟩) pass).effects = notHealthyEffects mariadb 0 ∧
      reconcile (fun _ => ⟨true, true, true, false⟩) { pass with poll.stop := .canceled } =
        ⟨[notHealthyEvent], .error (.other "error patching MariaDB: context canceled")⟩ := by
  intro configured mariadb minority pass
  have hunhealthy : ∀ observe ∈ pass.poll.checks, isHealthy mariadb ⟨1⟩ observe = .ok false := by
    decide
  exact ⟨(galera_pass_unhealthy_branch_iff (fun _ => ⟨true, true, true, false⟩) pass rfl rfl
      rfl).2.1.mpr ⟨hunhealthy, rfl⟩,
    (galera_pass_unhealthy_branch_iff (fun _ => ⟨true, true, true, false⟩)
      { pass with poll.stop := .canceled } rfl rfl rfl).2.2.1 hunhealthy rfl⟩

/-- A Pod read cut off by the deadline ends the pass with an error, with no event and no patch.
A reconcile context cancelled before the deadline leads the pass into the unhealthy branch: it
records the not-healthy event, and the patch it then sends on that context is refused. -/
theorem cut_off_read_errors_and_cancel_records_not_healthy_event :
    let configured : Condition :=
      ⟨ConditionTypeGaleraConfigured, ConditionTrue, 1, 1, "GaleraConfigured", ""⟩
    let mariadb : MariaDB :=
      { (default : MariaDB) with spec.replicas := 3, status.conditions := [configured] }
    let galera : MariaDB → GaleraView := fun _ => ⟨true, true, true, false⟩
    let cutOff : Observation := fun _ =>
      ⟨.error (.context .deadlineExceeded), .ok (), .ok "Primary", .ok 3⟩
    let minority : Observation := fun _ => ⟨.ok true, .ok (), .ok "Primary", .ok 1⟩
    reconcile galera ⟨.ok ⟨1⟩, .ok mariadb, ⟨cutOff, [], .deadlineExceeded⟩, 0, .ok ()⟩ =
        ⟨[], .error (.other ("error polling MariaDB health: error polling health: " ++
          "error getting ready client: error getting Pod: context deadline exceeded"))⟩ ∧
      reconcile galera ⟨.ok ⟨1⟩, .ok mariadb, ⟨minority, [], .canceled⟩, 0, .ok ()⟩ =
        ⟨[notHealthyEvent], .error (.other "error patching MariaDB: context canceled")⟩ := by
  decide

/-- With a StatefulSet status read reporting at least one ready replica, a check at which every
member below `Spec.Replicas = N ≥ 1` has a Ready Pod, connects and answers `Primary` with size `N`
is healthy; a pass whose poll gets to such a check ends healthy, without event or patch. -/
theorem pass_healthy_at_full_primary_check (hsts : pass.statefulSet = .ok sts)
    (hmariadb : pass.mariadb = .ok mariadb) (hgate : (galera mariadb).polls = true)
    (hready : sts.readyReplicas ≠ 0) (hreplicas : 1 ≤ mariadb.spec.replicas)
    {pre post : List Observation} {observe : Observation}
    (hsplit : pass.poll.checks = pre ++ observe :: post)
    (hpre : ∀ o ∈ pre, isHealthy mariadb sts o = .ok false)
    (hfull : ∀ i : Nat, (i : Int) < mariadb.spec.replicas →
      (observe i).Connects ∧ (observe i).clusterStatus = .ok "Primary" ∧
        (observe i).clusterSize = .ok mariadb.spec.replicas) :
    reconcile galera pass = ⟨[], .ok ()⟩ := by
  have hcheck : isHealthy mariadb sts observe = .ok true := by
    by_cases hall : sts.readyReplicas = mariadb.spec.replicas
    · simp [isHealthy, hall]
    · have hzero : ((0 : Nat) : Int) < mariadb.spec.replicas := by omega
      obtain ⟨hconnects, hprimary, hsize⟩ := hfull 0 hzero
      exact isHealthy_of_first_connected_member 0 hall hready hzero (fun _ h => absurd h (by omega))
        hconnects hprimary hsize
  rw [reconcile_of_polls galera pass hsts hmariadb hgate, poll_of_first_decisive pass hsplit hpre,
    hcheck]

theorem full_primary_check_ends_pass_healthy :
    let configured : Condition :=
      ⟨ConditionTypeGaleraConfigured, ConditionTrue, 1, 1, "GaleraConfigured", ""⟩
    let mariadb : MariaDB :=
      { (default : MariaDB) with spec.replicas := 2, status.conditions := [configured] }
    let partitioned : Observation := fun _ => ⟨.ok true, .ok (), .ok "Non-Primary", .ok 1⟩
    let full : Observation := fun _ => ⟨.ok true, .ok (), .ok "Primary", .ok 2⟩
    let pass : GaleraPass :=
      ⟨.ok ⟨1⟩, .ok mariadb, ⟨partitioned, [full], .deadlineExceeded⟩, 0, .ok ()⟩
    reconcile (fun _ => ⟨true, true, true, false⟩) pass = ⟨[], .ok ()⟩ := by
  intro configured mariadb partitioned full pass
  exact pass_healthy_at_full_primary_check _ pass rfl rfl rfl (by decide) (by decide)
    (show pass.poll.checks = [partitioned] ++ full :: [] from rfl) (by decide)
    (fun _ _ => ⟨⟨rfl, rfl⟩, rfl, rfl⟩)

/-- The StatefulSet status is read once, before the poll. When that read reports no ready
replica, every check says unhealthy, even when the one member has a Ready Pod and answers
`Primary` with the full size at every check, and the pass declares the cluster unhealthy. -/
theorem stale_zero_ready_replicas_declares_unhealthy :
    let configured : Condition :=
      ⟨ConditionTypeGaleraConfigured, ConditionTrue, 1, 1, "GaleraConfigured", ""⟩
    let mariadb : MariaDB :=
      { (default : MariaDB) with spec.replicas := 1, status.conditions := [configured] }
    let full : Observation := fun _ => ⟨.ok true, .ok (), .ok "Primary", .ok 1⟩
    (∀ i : Nat, (i : Int) < mariadb.spec.replicas →
      (full i).Connects ∧ (full i).clusterStatus = .ok "Primary" ∧
        (full i).clusterSize = .ok mariadb.spec.replicas) ∧
      (reconcile (fun _ => ⟨true, true, true, false⟩)
        ⟨.ok ⟨0⟩, .ok mariadb, ⟨full, [full], .deadlineExceeded⟩, 0, .ok ()⟩).effects =
        notHealthyEffects mariadb 0 :=
  ⟨fun _ _ => ⟨⟨rfl, rfl⟩, rfl, rfl⟩, by decide⟩

end Pass

section StatusPatch

/-- The status patch of a pass, whatever other writers did to the status after the pass read
it: the API server never rejects it, since it carries no `resourceVersion`; the conditions
become the list the pass computed from its read whenever that differs from the read's, which
drops or reverts any condition another writer set meanwhile; the recovery state is removed only
if the read had one, so one another writer set meanwhile survives; every other field keeps the
value the other writers left. -/
theorem galera_patch_after_concurrent_writes (mariadb : MariaDB) (now : Int) (version : Nat)
    (others : List StatusWrite) :
    let read : StoredStatus := ⟨mariadb.status, version⟩
    let current := (read.run others).status
    let patched := galeraNotReadyPatcher now mariadb.status
    ∃ stored, (read.run others).write (patchStatus mariadb.status (galeraNotReadyPatcher now)) =
        some stored ∧
      stored.status =
        { current with
          conditions :=
            if mariadb.status.conditions = patched.conditions then current.conditions
            else patched.conditions
          galeraRecovery :=
            if mariadb.status.galeraRecovery = none then current.galeraRecovery else none } := by
  refine ⟨_, rfl, ?_⟩
  simp [patchStatus, applyPatch_mergeFrom, galeraNotReadyPatcher, setGaleraNotReady]

/-- Another writer sets a recovery state and adds a condition after the pass read a configured
status with neither: the pass's patch keeps the recovery state and drops the condition, so the
stored status is not the patcher applied to the status it patched. -/
theorem concurrent_recovery_survives_galera_patch :
    let configured : Condition :=
      ⟨ConditionTypeGaleraConfigured, ConditionTrue, 1, 1, "GaleraConfigured", ""⟩
    let recovery : JsonObject := .cons "podsRestarted" (.bool true) .nil
    let other : Condition := ⟨"Foo", ConditionTrue, 0, 5, "", ""⟩
    let read : StoredStatus := ⟨{ (default : MariaDBStatus) with conditions := [configured] }, 0⟩
    let others := [StatusWrite.update 0
      { (default : MariaDBStatus) with
        conditions := [configured, other], galeraRecovery := some recovery }]
    ((read.run others).write (patchStatus read.status (galeraNotReadyPatcher 0))).map
        (·.status.galeraRecovery) = some (some recovery) ∧
      ((read.run others).write (patchStatus read.status (galeraNotReadyPatcher 0))).map
        (·.status.conditions.map Condition.type) =
        some [ConditionTypeGaleraConfigured, ConditionTypeGaleraReady, ConditionTypeReady] ∧
      ((read.run others).write (patchStatus read.status (galeraNotReadyPatcher 0))).map
        (·.status) ≠ some (galeraNotReadyPatcher 0 (read.run others).status) := by
  decide

end StatusPatch

end MariaDBOperator.Controller
