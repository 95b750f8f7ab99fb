import MariaDBOperator.Meta.Conditions
import MariaDBOperator.JsonPatch.MergePatch
import MariaDBOperator.Api.Core

/-!
The `v1alpha1` API types the modelled code reads and writes (`api/v1alpha1`), with the status
accessors built on conditions. Each structure keeps the fields some modelled function uses; the
rest of the Go types is left out. The `corev1` types they embed are in `Api.Core`.

The status's two object-valued fields have Go types declared outside the source
(`GaleraRecoveryStatus`, `ReplicationStatus`); they are kept as the JSON objects they serialise
to, which is all a merge patch sees of them.
-/

namespace MariaDBOperator.V1alpha1

open Meta JsonPatch CoreV1

/-- `metav1.ObjectMeta`: the fields the modelled code reads. -/
structure ObjectMeta where
  name : String
  «namespace» : String
  deriving DecidableEq, Repr, Inhabited

/-- `types.NamespacedName`. -/
structure NamespacedName where
  name : String
  «namespace» : String
  deriving DecidableEq, Repr, Inhabited

structure Exporter where
  image : String
  port : Int
  deriving DecidableEq, Repr, Inhabited

structure Metrics where
  enabled : Bool
  exporter : Exporter
  username : String
  passwordSecretKeyRef : SecretKeySelector
  deriving DecidableEq, Repr, Inhabited

/-- `MariaDBMaxScaleSpec`: `SetDefaults` reads only `Enabled`. -/
structure MariaDBMaxScaleSpec where
  enabled : Bool
  deriving DecidableEq, Repr, Inhabited

/-- `VolumeClaimTemplate`: a claim spec, with the labels and annotations of the claims built
from it. -/
structure VolumeClaimTemplate where
  persistentVolumeClaimSpec : PersistentVolumeClaimSpec
  labels : List (String × String)
  annotations : List (String × String)
  deriving DecidableEq, Repr, Inhabited

/-- `ContainerTemplate` of an init or sidecar container of the user. `env` and `volumeMounts`
are `none` when nil: the builders replace a nil list and keep an empty one. -/
structure ContainerTemplate where
  command : List String
  args : List String
  env : Option (List EnvVar)
  volumeMounts : Option (List VolumeMount)
  livenessProbe : Option Probe
  readinessProbe : Option Probe
  securityContext : Option SecurityContext
  deriving DecidableEq, Repr, Inhabited

/-- `Container`: an init or sidecar container of the user. -/
structure Container where
  containerTemplate : ContainerTemplate
  image : String
  imagePullPolicy : String
  deriving DecidableEq, Repr, Inhabited

/-- `MariaDBSpec`, with the `ContainerTemplate` and `PodTemplate` fields Go promotes into it
flat, first. Integers are the Go `int32` fields; no modelled code does arithmetic on them. A nil
slice is the empty list: the code only appends them. -/
@[ext]
structure MariaDBSpec where
  command : List String
  args : List String
  env : List EnvVar
  volumeMounts : List VolumeMount
  livenessProbe : Option Probe
  readinessProbe : Option Probe
  securityContext : Option SecurityContext
  initContainers : List V1alpha1.Container
  sidecarContainers : List V1alpha1.Container
  serviceAccountName : Option String
  volumes : List Volume
  priorityClassName : Option String
  image : String
  imagePullPolicy : String
  rootPasswordSecretKeyRef : SecretKeySelector
  rootEmptyPassword : Option Bool
  database : Option String
  username : Option String
  passwordSecretKeyRef : Option SecretKeySelector
  myCnf : Option String
  myCnfConfigMapKeyRef : Option ConfigMapKeySelector
  metrics : Option Metrics
  maxScaleRef : Option ObjectReference
  maxScale : Option MariaDBMaxScaleSpec
  replicas : Int
  port : Int
  ephemeralStorage : Option Bool
  volumeClaimTemplate : VolumeClaimTemplate
  updateStrategy : Option AppsV1.StatefulSetUpdateStrategy
  deriving DecidableEq, Repr, Inhabited

/-- `Spec.ContainerTemplate`, whose fields Go promotes into the spec. No code compares the
spec's own lists with nil, so they are given as set. -/
def MariaDBSpec.containerTemplate (s : MariaDBSpec) : ContainerTemplate :=
  ⟨s.command, s.args, some s.env, some s.volumeMounts, s.livenessProbe, s.readinessProbe,
    s.securityContext⟩

/-- `MariaDBStatus`. `galeraRecovery` is `nil` or the recovery state's JSON object;
`replicationStatus` is `none` for the empty map, which `omitempty` leaves out. -/
structure MariaDBStatus where
  conditions : List Condition
  replicas : Int
  currentPrimaryPodIndex : Option Int
  currentPrimary : Option String
  galeraRecovery : Option JsonObject
  replicationStatus : Option JsonObject
  deriving DecidableEq, Repr, Inhabited

@[ext]
structure MariaDB where
  objectMeta : ObjectMeta
  spec : MariaDBSpec
  status : MariaDBStatus
  deriving DecidableEq, Repr, Inhabited

/-- Modelled from the spec: the condition types are declared outside the source. The spec names
`Ready` and `GaleraReady`; the other two take the word of their Go identifiers. -/
def ConditionTypeReady : String := "Ready"

/-- Modelled from the spec: see `ConditionTypeReady`. -/
def ConditionTypeGaleraReady : String := "GaleraReady"

/-- Modelled from the spec: see `ConditionTypeReady`. -/
def ConditionTypeBackupRestored : String := "BackupRestored"

/-- Modelled from the spec: see `ConditionTypeReady`. -/
def ConditionTypeComplete : String := "Complete"

/-- The type `HasGaleraConfiguredCondition` looks for. The method and the constant are declared
outside the source; the type takes the word of the method's name. -/
def ConditionTypeGaleraConfigured : String := "GaleraConfigured"

/-- `MariaDBStatus.SetCondition`, with the clock reading `SetStatusCondition` takes. Making a nil
list empty first changes nothing a list can tell apart. -/
def MariaDBStatus.setCondition (s : MariaDBStatus) (condition : Condition) (now : Int) :
    MariaDBStatus :=
  { s with conditions := setStatusCondition now condition s.conditions }

/-- `BackupStatus`. -/
structure BackupStatus where
  conditions : List Condition
  deriving DecidableEq, Repr

/-- `BackupStatus.SetCondition`, the same write as `MariaDBStatus.setCondition`. -/
def BackupStatus.setCondition (s : BackupStatus) (condition : Condition) (now : Int) :
    BackupStatus :=
  { s with conditions := setStatusCondition now condition s.conditions }

/-- `SqlJobStatus`. -/
structure SqlJobStatus where
  conditions : List Condition
  deriving DecidableEq, Repr

/-- `SqlJobStatus.SetCondition`, the same write as `MariaDBStatus.setCondition`. -/
def SqlJobStatus.setCondition (s : SqlJobStatus) (condition : Condition) (now : Int) :
    SqlJobStatus :=
  { s with conditions := setStatusCondition now condition s.conditions }

def MariaDB.isReady (m : MariaDB) : Bool :=
  isStatusConditionTrue m.status.conditions ConditionTypeReady

def MariaDB.isRestoringBackup (m : MariaDB) : Bool :=
  isStatusConditionFalse m.status.conditions ConditionTypeBackupRestored

def MariaDB.hasRestoredBackup (m : MariaDB) : Bool :=
  isStatusConditionTrue m.status.conditions ConditionTypeBackupRestored

def BackupStatus.isComplete (s : BackupStatus) : Bool :=
  isStatusConditionTrue s.conditions ConditionTypeComplete

def SqlJobStatus.isComplete (s : SqlJobStatus) : Bool :=
  isStatusConditionTrue s.conditions ConditionTypeComplete

/-- `MariaDBStatus.UpdateCurrentPrimary`; `statefulset.PodName`, declared outside the source, is
the parameter `podName`. -/
def MariaDBStatus.updateCurrentPrimary (podName : ObjectMeta → Int → String) (s : MariaDBStatus)
    (mariadb : MariaDB) (index : Int) : MariaDBStatus :=
  { s with
    currentPrimaryPodIndex := some index
    currentPrimary := some (podName mariadb.objectMeta index) }

/-- Modelled from the spec: the reason code of `condition.SetGaleraNotReady` (in `pkg/condition`,
not in the source), which the spec calls "a fixed reason code". -/
def ConditionReasonGaleraNotReady : String := "GaleraNotReady"

/-- Modelled from the spec: `condition.SetGaleraNotReady` is not in the source. The spec says the
monitor "sets the GaleraReady/Ready condition to False with a fixed reason code"; both are
written with `SetCondition`, with a zero transition time so that the clock stamps them. -/
def setGaleraNotReady (status : MariaDBStatus) (now : Int) : MariaDBStatus :=
  let notReady (type : String) : Condition :=
    { type, status := ConditionFalse, observedGeneration := 0, lastTransitionTime := 0,
      reason := ConditionReasonGaleraNotReady, message := "Galera not ready" }
  (status.setCondition (notReady ConditionTypeGaleraReady) now).setCondition
    (notReady ConditionTypeReady) now

/-- A sequence of `SetCondition` calls on a status, each with its clock reading. -/
def MariaDBStatus.setConditions (s : MariaDBStatus) (calls : List (Condition × Int)) :
    MariaDBStatus :=
  calls.foldl (fun s call => s.setCondition call.1 call.2) s

section Conditions

variable (s : MariaDBStatus)

@[simp] theorem setCondition_conditions (c : Condition) (now : Int) :
    (s.setCondition c now).conditions = setStatusCondition now c s.conditions := rfl

@[simp] theorem setCondition_replicas (c : Condition) (now : Int) :
    (s.setCondition c now).replicas = s.replicas := rfl

@[simp] theorem setCondition_currentPrimaryPodIndex (c : Condition) (now : Int) :
    (s.setCondition c now).currentPrimaryPodIndex = s.currentPrimaryPodIndex := rfl

@[simp] theorem setCondition_currentPrimary (c : Condition) (now : Int) :
    (s.setCondition c now).currentPrimary = s.currentPrimary := rfl

@[simp] theorem setCondition_galeraRecovery (c : Condition) (now : Int) :
    (s.setCondition c now).galeraRecovery = s.galeraRecovery := rfl

@[simp] theorem setCondition_replicationStatus (c : Condition) (now : Int) :
    (s.setCondition c now).replicationStatus = s.replicationStatus := rfl

theorem setConditions_conditions (calls : List (Condition × Int)) :
    (s.setConditions calls).conditions = setStatusConditions s.conditions calls := by
  induction calls generalizing s with
  | nil => rfl
  | cons call calls ih =>
      exact ih (s.setCondition call.1 call.2)

/-- One call of a run: with one entry per type, the entry of the call's type is updated in place
or the call is appended; every other entry stays where it was. -/
theorem setConditions_step (pre : List (Condition × Int)) (call : Condition × Int)
    (hdistinct : (s.conditions.map Condition.type).Nodup) :
    let before := (s.setConditions pre).conditions
    (s.setConditions (pre ++ [call])).conditions =
      if call.1.type ∈ before.map Condition.type then
        before.map fun e => if e.type = call.1.type then e.update call.2 call.1 else e
      else before ++ [call.1.stamp call.2] := by
  have hbefore := nodup_setStatusConditions hdistinct pre
  simp only [setConditions_conditions, setStatusConditions_append] at hbefore ⊢
  split
  · exact setStatusCondition_of_mem _ _ hbefore ‹_›
  · exact setStatusCondition_of_not_mem _ _ ‹_›

theorem isPresentAndEqual_setConditions (m : MariaDB) (calls : List (Condition × Int))
    (t status : String) :
    isStatusConditionPresentAndEqual ({ m with status := s.setConditions calls }).status.conditions
        t status = true ↔
      match lastOfType calls t with
      | some c => c.status = status
      | none => isStatusConditionPresentAndEqual s.conditions t status = true := by
  simp only [setConditions_conditions, isStatusConditionPresentAndEqual_setStatusConditions]
  cases lastOfType calls t <;> simp

/-- The law of `SetCondition` over every run that starts with pairwise distinct types: types stay
distinct; the entry of each type records the last write of that type (a type never written keeps
its entry); each call updates its type's entry in place or appends it, leaving every other entry
and the order as they were; a transition time moves only on the write that changes that entry's
status; and the readiness and backup accessors read the last write of their type. -/
theorem setCondition_run_law (calls : List (Condition × Int))
    (hdistinct : (s.conditions.map Condition.type).Nodup) :
    ((s.setConditions calls).conditions.map Condition.type).Nodup ∧
    (∀ t, match lastOfType calls t with
      | some c => ∃ e, findStatusCondition (s.setConditions calls).conditions t = some e ∧
          e.Records c
      | none => findStatusCondition (s.setConditions calls).conditions t =
          findStatusCondition s.conditions t) ∧
    (∀ pre call post, calls = pre ++ call :: post →
      let before := (s.setConditions pre).conditions
      (s.setConditions (pre ++ [call])).conditions =
        if call.1.type ∈ before.map Condition.type then
          before.map fun e => if e.type = call.1.type then e.update call.2 call.1 else e
        else before ++ [call.1.stamp call.2]) ∧
    (∀ pre call post, calls = pre ++ call :: post → ∀ t e e',
      findStatusCondition (s.setConditions pre).conditions t = some e →
      findStatusCondition (s.setConditions (pre ++ [call])).conditions t = some e' →
      e'.lastTransitionTime ≠ e.lastTransitionTime → call.1.type = t ∧ call.1.status ≠ e.status) ∧
    (∀ m : MariaDB,
      (({ m with status := s.setConditions calls }).isReady = true ↔
        match lastOfType calls ConditionTypeReady with
        | some c => c.status = ConditionTrue
        | none => isStatusConditionTrue s.conditions ConditionTypeReady = true) ∧
      (({ m with status := s.setConditions calls }).hasRestoredBackup = true ↔
        match lastOfType calls ConditionTypeBackupRestored with
        | some c => c.status = ConditionTrue
        | none => isStatusConditionTrue s.conditions ConditionTypeBackupRestored = true) ∧
      (({ m with status := s.setConditions calls }).isRestoringBackup = true ↔
        match lastOfType calls ConditionTypeBackupRestored with
        | some c => c.status = ConditionFalse
        | none => isStatusConditionFalse s.conditions ConditionTypeBackupRestored = true)) := by
  refine ⟨?_, fun t => ?_, fun pre call _ _ => setConditions_step s pre call hdistinct,
    fun pre call post _ t e e' he he' hmoved => ?_,
    fun m => ⟨isPresentAndEqual_setConditions s m calls _ _,
      isPresentAndEqual_setConditions s m calls _ _,
      isPresentAndEqual_setConditions s m calls _ _⟩⟩
  · rw [setConditions_conditions]
    exact nodup_setStatusConditions hdistinct calls
  · simpa only [setConditions_conditions] using find_setStatusConditions s.conditions calls t
  · rw [setConditions_conditions, setStatusConditions_append] at he'
    rw [setConditions_conditions] at he
    exact transitionTime_moves_only_on_status_change _ _ he he' hmoved

/-- A run from two conditions of distinct types: the `Ready` entry is updated in place with a
new status, so its transition time moves; the `BackupRestored` entry is updated in place with
the same status, so its transition time stays; a `GaleraReady` condition is appended. -/
theorem setCondition_run_law_updates_in_place :
    let s : MariaDBStatus := { (default : MariaDBStatus) with
      conditions := [⟨ConditionTypeReady, ConditionFalse, 1, 1, "NotReady", ""⟩,
        ⟨ConditionTypeBackupRestored, ConditionFalse, 1, 2, "Restoring", ""⟩] }
    let calls : List (Condition × Int) :=
      [(⟨ConditionTypeReady, ConditionTrue, 2, 0, "Ready", ""⟩, 10),
        (⟨ConditionTypeBackupRestored, ConditionFalse, 2, 0, "StillRestoring", ""⟩, 11),
        (⟨ConditionTypeGaleraReady, ConditionFalse, 2, 0, "GaleraNotReady", ""⟩, 12)]
    (s.conditions.map Condition.type).Nodup ∧
      (s.setConditions calls).conditions =
        [⟨ConditionTypeReady, ConditionTrue, 2, 10, "Ready", ""⟩,
          ⟨ConditionTypeBackupRestored, ConditionFalse, 2, 2, "StillRestoring", ""⟩,
          ⟨ConditionTypeGaleraReady, ConditionFalse, 2, 12, "GaleraNotReady", ""⟩] ∧
      ((s.setConditions calls).conditions.map Condition.type).Nodup ∧
      ({ (default : MariaDB) with status := s.setConditions calls }).isReady = true ∧
      ({ (default : MariaDB) with status := s.setConditions calls }).isRestoringBackup = true := by
  intro s calls
  have hdistinct : (s.conditions.map Condition.type).Nodup := by decide
  have hlaw := setCondition_run_law s calls hdistinct
  exact ⟨hdistinct, by decide, hlaw.1, (hlaw.2.2.2.2 default).1.mpr rfl,
    (hlaw.2.2.2.2 default).2.2.mpr rfl⟩

end Conditions

end MariaDBOperator.V1alpha1
