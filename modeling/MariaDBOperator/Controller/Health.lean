import MariaDBOperator.Api.MariaDB
import Mathlib.Data.List.Range
import Mathlib.Data.Int.Defs

/-!
One health check of the Galera controller (`isHealthy` and `readyClient`). A check reads the
StatefulSet status the pass fetched before polling, and, through one Pod read, one connection
and two engine queries per member, the members' own view of the cluster. What each of those
calls returns during one check is an observation; the environment chooses it freely.

Errors follow Go's: `errors.Is` tells the sentinel errors apart, and `fmt.Errorf` with `%v`
builds a new error from the text of the one it formats, which then matches no sentinel.
-/

namespace MariaDBOperator.Controller

open V1alpha1

/-- Why a `context.Context` is done: its own deadline, or a cancelled parent. -/
inductive ContextErr where
  | canceled
  | deadlineExceeded
  deriving DecidableEq, Repr

/-- The errors the pass sees, by what `errors.Is` can tell of them. -/
inductive Error where
  /-- `ctx.Err()`, or an error that wraps it. -/
  | context (err : ContextErr)
  /-- An API error for which `apierrors.IsNotFound` holds. -/
  | notFound (message : String)
  /-- `refresolver.ErrMariaDBAnnotationNotFound`. -/
  | annotationNotFound (message : String)
  /-- Any other error, those built by `fmt.Errorf` with `%v` included. -/
  | other (message : String)
  deriving DecidableEq, Repr

def ContextErr.text : ContextErr → String
  | .canceled => "context canceled"
  | .deadlineExceeded => "context deadline exceeded"

def Error.text : Error → String
  | .context err => err.text
  | .notFound message | .annotationNotFound message | .other message => message

/-- `fmt.Errorf(format + "%v", err)`. -/
def errorf (format : String) (err : Error) : Error :=
  .other (format ++ err.text)

/-- `appsv1.StatefulSet`: the pass reads only `Status.ReadyReplicas`. -/
structure StatefulSet where
  readyReplicas : Int
  deriving DecidableEq, Repr

instance instDecidableEqExcept {ε α : Type} [DecidableEq ε] [DecidableEq α] :
    DecidableEq (Except ε α)
  | .error a, .error b => decidable_of_iff (a = b) (by simp)
  | .ok a, .ok b => decidable_of_iff (a = b) (by simp)
  | .error _, .ok _ => isFalse fun h => Except.noConfusion h
  | .ok _, .error _ => isFalse fun h => Except.noConfusion h

/-- What one check sees of one member: the `Get` of its Pod, read for `pod.PodReady`; the
connection `ClientForIndex` opens; and the engine's answers on that connection. -/
structure MemberObservation where
  pod : Except Error Bool
  client : Except Error Unit
  clusterStatus : Except Error String
  clusterSize : Except Error Int
  deriving DecidableEq, Repr

def Observation : Type := Nat → MemberObservation

/-- A member `readyClient` passes over: its Pod is not Ready, or no connection opens. -/
def MemberObservation.Skipped (o : MemberObservation) : Prop :=
  o.pod = .ok false ∨ (o.pod = .ok true ∧ ∃ err, o.client = .error err)

/-- A member `readyClient` returns: its Pod is Ready and a connection opens. -/
def MemberObservation.Connects (o : MemberObservation) : Prop :=
  o.pod = .ok true ∧ o.client = .ok ()

/-- The loop of `readyClient` over the given member indices. -/
def readyClientScan (observe : Observation) : List Nat → Except Error Nat
  | [] => .error (.other "no Ready Pods were found")
  | i :: rest =>
      match (observe i).pod with
      | .error err => .error (errorf "error getting Pod: " err)
      | .ok ready =>
          if !ready then readyClientScan observe rest
          else
            match (observe i).client with
            | .ok () => .ok i
            | .error _ => readyClientScan observe rest

/-- `readyClient`: the members `0 .. Spec.Replicas - 1` in order. A failed Pod read ends the scan
with its error; a failed connection passes over the member. -/
def readyClient (mariadb : MariaDB) (observe : Observation) : Except Error Nat :=
  readyClientScan observe (List.range mariadb.spec.replicas.toNat)

/-- `isHealthy`: the StatefulSet status decides when it reports all or no replicas ready;
otherwise the verdict is that of the member `readyClient` returns. -/
def isHealthy (mariadb : MariaDB) (sts : StatefulSet) (observe : Observation) :
    Except Error Bool :=
  if sts.readyReplicas = mariadb.spec.replicas then .ok true
  else if sts.readyReplicas = 0 then .ok false
  else
    match readyClient mariadb observe with
    | .error err => .error (errorf "error getting ready client: " err)
    | .ok i =>
        match (observe i).clusterStatus with
        | .error err => .error (errorf "error getting Galera cluster status: " err)
        | .ok status =>
            if status ≠ "Primary" then .ok false
            else
              match (observe i).clusterSize with
              | .error err => .error (errorf "error getting Galera cluster size: " err)
              | .ok size => if size ≠ mariadb.spec.replicas then .ok false else .ok true

section ReadyClient

variable (observe : Observation)

theorem readyClientScan_append_skipped {pre : List Nat}
    (hpre : ∀ j ∈ pre, (observe j).Skipped) (rest : List Nat) :
    readyClientScan observe (pre ++ rest) = readyClientScan observe rest := by
  induction pre with
  | nil => rfl
  | cons j pre ih =>
      have htail := ih fun k hk => hpre k (List.mem_cons_of_mem j hk)
      rcases hpre j (List.mem_cons_self j pre) with hnot | ⟨hready, err, hclient⟩
      · simp [readyClientScan, hnot, htail]
      · simp [readyClientScan, hready, hclient, htail]

theorem readyClientScan_connects {i : Nat} (hi : (observe i).Connects) (rest : List Nat) :
    readyClientScan observe (i :: rest) = .ok i := by
  simp [readyClientScan, hi.1, hi.2]

theorem readyClientScan_eq_ok {l : List Nat} {i : Nat}
    (h : readyClientScan observe l = .ok i) : i ∈ l ∧ (observe i).Connects := by
  induction l with
  | nil => cases h
  | cons j rest ih =>
      simp only [readyClientScan] at h
      split at h
      · cases h
      · rename_i ready hpod
        split at h
        · exact ⟨List.mem_cons_of_mem j (ih h).1, (ih h).2⟩
        · split at h
          · cases h
            exact ⟨List.mem_cons_self _ _, by simp_all, by assumption⟩
          · exact ⟨List.mem_cons_of_mem j (ih h).1, (ih h).2⟩

theorem range_eq_range_append {i n : Nat} (h : i < n) :
    ∃ rest, List.range n = List.range i ++ i :: rest := by
  obtain ⟨k, rfl⟩ : ∃ k, n = i + (k + 1) := ⟨n - i - 1, by omega⟩
  exact ⟨((List.range k).map Nat.succ).map (i + ·), by
    rw [List.range_add, List.range_succ_eq_map]; simp⟩

theorem readyClient_eq_ok {mariadb : MariaDB} {i : Nat}
    (h : readyClient mariadb observe = .ok i) :
    (i : Int) < mariadb.spec.replicas ∧ (observe i).Connects := by
  obtain ⟨hmem, hconnects⟩ := readyClientScan_eq_ok observe h
  exact ⟨Int.lt_toNat.mp (List.mem_range.mp hmem), hconnects⟩

theorem readyClient_of_first_connects {mariadb : MariaDB} {i : Nat}
    (hi : (i : Int) < mariadb.spec.replicas) (hbefore : ∀ j < i, (observe j).Skipped)
    (hconnects : (observe i).Connects) : readyClient mariadb observe = .ok i := by
  obtain ⟨rest, hrange⟩ := range_eq_range_append (Int.lt_toNat.mpr hi)
  rw [readyClient, hrange, readyClientScan_append_skipped observe
    (fun j hj => hbefore j (List.mem_range.mp hj)), readyClientScan_connects observe hconnects]

end ReadyClient

section IsHealthy

variable {mariadb : MariaDB} {sts : StatefulSet} {observe : Observation}

theorem isHealthy_eq_ok_true (h : isHealthy mariadb sts observe = .ok true) :
    sts.readyReplicas = mariadb.spec.replicas ∨
      ∃ i : Nat, (i : Int) < mariadb.spec.replicas ∧ (observe i).Connects ∧
        (observe i).clusterStatus = .ok "Primary" ∧
        (observe i).clusterSize = .ok mariadb.spec.replicas := by
  unfold isHealthy at h
  split_ifs at h with hall hnone
  · exact .inl hall
  · cases h
  right
  split at h
  · cases h
  rename_i i hclient
  obtain ⟨hi, hconnects⟩ := readyClient_eq_ok observe hclient
  refine ⟨i, hi, hconnects, ?_⟩
  split at h
  · cases h
  split_ifs at h with hprimary
  · cases h
  split at h
  · cases h
  split_ifs at h with hfull
  · cases h
  simp_all

/-- Every error of a check is built by `fmt.Errorf` with `%v`: none is a context error. -/
theorem isHealthy_error_is_other {err : Error} (h : isHealthy mariadb sts observe = .error err) :
    ∃ message, err = .other message := by
  unfold isHealthy at h
  split_ifs at h
  split at h
  · cases h
    exact ⟨_, rfl⟩
  · split at h
    · cases h
      exact ⟨_, rfl⟩
    · split_ifs at h
      split at h
      · cases h
        exact ⟨_, rfl⟩
      · split_ifs at h

/-- The check's verdict is the first connecting member's: when every member before it was passed
over and it answers `Primary` with the full size, the check is healthy, whatever the members after
it answer. -/
theorem isHealthy_of_first_connected_member (i : Nat)
    (hall : sts.readyReplicas ≠ mariadb.spec.replicas) (hnone : sts.readyReplicas ≠ 0)
    (hi : (i : Int) < mariadb.spec.replicas) (hbefore : ∀ j < i, (observe j).Skipped)
    (hconnects : (observe i).Connects) (hprimary : (observe i).clusterStatus = .ok "Primary")
    (hsize : (observe i).clusterSize = .ok mariadb.spec.replicas) :
    isHealthy mariadb sts observe = .ok true := by
  simp [isHealthy, hall, hnone, readyClient_of_first_connects observe hi hbefore hconnects,
    hprimary, hsize]

theorem first_connected_member_after_unready_pod :
    let mariadb : MariaDB := { (default : MariaDB) with spec.replicas := 2 }
    let observe : Observation := fun i =>
      if i = 0 then ⟨.ok false, .ok (), .ok "Non-Primary", .ok 1⟩
      else ⟨.ok true, .ok (), .ok "Primary", .ok 2⟩
    (observe 0).Skipped ∧ (observe 1).Connects ∧ isHealthy mariadb ⟨1⟩ observe = .ok true :=
  ⟨.inl rfl, ⟨rfl, rfl⟩, isHealthy_of_first_connected_member 1 (by decide) (by decide) (by decide)
    (fun j hj => by obtain rfl : j = 0 := (by omega); exact .inl rfl) ⟨rfl, rfl⟩ rfl rfl⟩

/-- A Ready member below the one that answers `Primary` with the full size, which connects and
answers `Non-Primary`, decides the check: unhealthy. -/
theorem lower_member_answering_non_primary_decides :
    let mariadb : MariaDB := { (default : MariaDB) with spec.replicas := 2 }
    let observe : Observation := fun i =>
      if i = 0 then ⟨.ok true, .ok (), .ok "Non-Primary", .ok 1⟩
      else ⟨.ok true, .ok (), .ok "Primary", .ok 2⟩
    (observe 1).Connects ∧ (observe 1).clusterStatus = .ok "Primary" ∧
      (observe 1).clusterSize = .ok mariadb.spec.replicas ∧
      isHealthy mariadb ⟨1⟩ observe = .ok false :=
  ⟨⟨rfl, rfl⟩, rfl, rfl, by decide⟩

end IsHealthy

end MariaDBOperator.Controller
