import MariaDBOperator.Controller.Health

/-!
`pollUntilHealthyWithTimeout`: `wait.PollUntilContextCancel` with `immediate = true` around
`isHealthy`, under a context whose deadline is `ClusterHealthyTimeout`.

A run of the poll is what the loop sees: the observations of the immediate check and of each
check a tick starts, and why the context was done when the loop next selected on it. The loop
ends at the first check that errs or is healthy; a run whose checks all say unhealthy ends with
`ctx.Err()`. Every run is finite, since the deadline ends it.
-/

namespace MariaDBOperator.Controller

open V1alpha1

/-- A run of `PollUntilContextCancel` with `immediate = true`. -/
structure PollRun where
  /-- What the immediate check observes. -/
  first : Observation
  /-- What each check a tick starts observes, in order, until the context is done. -/
  ticks : List Observation
  /-- Why the context was done: the `ClusterHealthyTimeout` deadline, or a cancelled parent. -/
  stop : ContextErr

/-- The checks of a run, the immediate one first. -/
def PollRun.checks (run : PollRun) : List Observation :=
  run.first :: run.ticks

/-- The loop of `loopConditionUntilContext` over the checks it gets to run. `none` is a nil
error: the condition held. -/
def loopConditionUntilContext (condition : Observation → Except Error Bool) (stop : ContextErr) :
    List Observation → Option Error
  | [] => some (.context stop)
  | observe :: rest =>
      match condition observe with
      | .error err => some err
      | .ok true => none
      | .ok false => loopConditionUntilContext condition stop rest

/-- `wait.PollUntilContextCancel` with `immediate = true`. -/
def pollUntilContextCancel (condition : Observation → Except Error Bool) (run : PollRun) :
    Option Error :=
  loopConditionUntilContext condition run.stop run.checks

/-- `wait.Interrupted`: `errors.Is` of the context errors (and of `ErrWaitTimeout`, which this
loop never returns). -/
def interrupted : Error → Bool
  | .context _ => true
  | _ => false

/-- `pollUntilHealthyWithTimeout`. -/
def pollUntilHealthyWithTimeout (mariadb : MariaDB) (sts : StatefulSet) (run : PollRun) :
    Except Error Bool :=
  match pollUntilContextCancel (isHealthy mariadb sts) run with
  | none => .ok true
  | some err => if interrupted err then .ok false else .error (errorf "error polling health: " err)

section Loop

variable (condition : Observation → Except Error Bool) (stop : ContextErr)

/-- The loop returns a nil error only after a check that held. -/
theorem loop_eq_none {checks : List Observation}
    (h : loopConditionUntilContext condition stop checks = none) :
    ∃ observe ∈ checks, condition observe = .ok true := by
  induction checks with
  | nil => cases h
  | cons observe rest ih =>
      simp only [loopConditionUntilContext] at h
      split at h
      · cases h
      · exact ⟨observe, List.mem_cons_self _ _, ‹_›⟩
      · obtain ⟨o, ho, hcond⟩ := ih h
        exact ⟨o, List.mem_cons_of_mem _ ho, hcond⟩

/-- Checks that say unhealthy only pass the loop on to the next one. -/
theorem loop_append_false {pre : List Observation}
    (hpre : ∀ observe ∈ pre, condition observe = .ok false) (rest : List Observation) :
    loopConditionUntilContext condition stop (pre ++ rest) =
      loopConditionUntilContext condition stop rest := by
  induction pre with
  | nil => rfl
  | cons observe pre ih =>
      simp [loopConditionUntilContext, hpre observe (List.mem_cons_self _ _),
        ih fun o ho => hpre o (List.mem_cons_of_mem _ ho)]

/-- When every check says unhealthy, the loop ends with the context's error. -/
theorem loop_of_all_false {checks : List Observation}
    (h : ∀ observe ∈ checks, condition observe = .ok false) :
    loopConditionUntilContext condition stop checks = some (.context stop) := by
  induction checks with
  | nil => rfl
  | cons observe rest ih =>
      simp [loopConditionUntilContext, h observe (List.mem_cons_self _ _),
        ih fun o ho => h o (List.mem_cons_of_mem _ ho)]

/-- A loop that ends with a context error either ran out of checks, all unhealthy, or had a
check return that error itself. -/
theorem loop_eq_context {checks : List Observation} {err : ContextErr}
    (h : loopConditionUntilContext condition stop checks = some (.context err)) :
    (∀ observe ∈ checks, condition observe = .ok false) ∨
      ∃ observe ∈ checks, condition observe = .error (.context err) := by
  induction checks with
  | nil => exact .inl fun _ h => absurd h (List.not_mem_nil _)
  | cons observe rest ih =>
      simp only [loopConditionUntilContext] at h
      split at h
      · cases h
        exact .inr ⟨observe, List.mem_cons_self _ _, ‹_›⟩
      · cases h
      · rcases ih h with hall | ⟨o, ho, herr⟩
        · exact .inl fun o ho => (List.mem_cons.mp ho).elim (· ▸ ‹_›) (hall o)
        · exact .inr ⟨o, List.mem_cons_of_mem _ ho, herr⟩

end Loop

section Poll

variable {mariadb : MariaDB} {sts : StatefulSet} {run : PollRun}

/-- The poll says healthy only when one of its checks did. -/
theorem poll_ok_true (h : pollUntilHealthyWithTimeout mariadb sts run = .ok true) :
    ∃ observe ∈ run.checks, isHealthy mariadb sts observe = .ok true := by
  unfold pollUntilHealthyWithTimeout pollUntilContextCancel at h
  split at h
  · exact loop_eq_none _ _ ‹_›
  · split_ifs at h
    cases h

/-- The poll says unhealthy exactly when every check of the run did, whatever ended it. -/
theorem poll_ok_false_iff :
    pollUntilHealthyWithTimeout mariadb sts run = .ok false ↔
      ∀ observe ∈ run.checks, isHealthy mariadb sts observe = .ok false := by
  constructor
  · intro h
    unfold pollUntilHealthyWithTimeout pollUntilContextCancel at h
    split at h
    · cases h
    · rename_i err hloop
      split_ifs at h with hint
      cases err with
      | context stop =>
          rcases loop_eq_context _ _ hloop with hall | ⟨o, _, herr⟩
          · exact hall
          · obtain ⟨_, hother⟩ := isHealthy_error_is_other herr
            cases hother
      | _ => simp [interrupted] at hint
  · intro h
    simp [pollUntilHealthyWithTimeout, pollUntilContextCancel,
      loop_of_all_false _ _ h, interrupted]

/-- A pass's poll says healthy only if the StatefulSet status it read reports every replica
ready, or if within one check one member below `Spec.Replicas` had a Ready Pod, opened a
connection and answered `Primary` with a cluster size equal to `Spec.Replicas`. -/
theorem poll_healthy_only_from_full_primary (h : pollUntilHealthyWithTimeout mariadb sts run = .ok true) :
    sts.readyReplicas = mariadb.spec.replicas ∨
      ∃ observe ∈ run.checks, ∃ i : Nat, (i : Int) < mariadb.spec.replicas ∧
        (observe i).pod = .ok true ∧ (observe i).client = .ok () ∧
        (observe i).clusterStatus = .ok "Primary" ∧
        (observe i).clusterSize = .ok mariadb.spec.replicas := by
  obtain ⟨observe, hmem, hcheck⟩ := poll_ok_true h
  rcases isHealthy_eq_ok_true hcheck with hall | ⟨i, hi, ⟨hpod, hclient⟩, hprimary, hsize⟩
  · exact .inl hall
  · exact .inr ⟨observe, hmem, i, hi, hpod, hclient, hprimary, hsize⟩

theorem poll_healthy_with_full_primary_member :
    let mariadb : MariaDB := { (default : MariaDB) with spec.replicas := 3 }
    let observe : Observation := fun _ => ⟨.ok true, .ok (), .ok "Primary", .ok 3⟩
    let run : PollRun := ⟨observe, [], .deadlineExceeded⟩
    pollUntilHealthyWithTimeout mariadb ⟨2⟩ run = .ok true ∧
      ∃ observe ∈ run.checks, ∃ i : Nat, (i : Int) < mariadb.spec.replicas ∧
        (observe i).pod = .ok true ∧ (observe i).client = .ok () ∧
        (observe i).clusterStatus = .ok "Primary" ∧ (observe i).clusterSize = .ok mariadb.spec.replicas := by
  intro mariadb observe run
  have hhealthy : pollUntilHealthyWithTimeout mariadb ⟨2⟩ run = .ok true := by decide
  exact ⟨hhealthy, (poll_healthy_only_from_full_primary hhealthy).resolve_left (by decide)⟩

end Poll

end MariaDBOperator.Controller
