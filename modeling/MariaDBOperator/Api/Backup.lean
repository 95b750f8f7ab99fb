import MariaDBOperator.Api.Defaults

/-!
The backup and restore API (`backup_types.go`, `base_types.go`): the validating webhooks call
`Validate`, the defaulting webhooks `SetDefaults`, and a restore that names a `Backup` takes its
volume and S3 location from it through `SetDefaultsWithBackup`. An error is its text: nothing
tests these errors with `errors.Is`, and `fmt.Errorf("...: %v", err)` is the prefix followed by
the wrapped text.

`Schedule.Validate` hands the cron expression to the parser of `robfig/cron`, outside the source:
it is the parameter `parseCron`.
-/

namespace MariaDBOperator.V1alpha1

open CoreV1

/-- `S3`: where a backup is stored. The modelled code only tests it for nil and copies it; the
secret references and `TLS` are left out. -/
structure S3 where
  bucket : String
  endpoint : String
  deriving DecidableEq, Repr

/-- `BackupStorage`. -/
structure BackupStorage where
  s3 : Option S3
  persistentVolumeClaim : Option PersistentVolumeClaimSpec
  volume : Option VolumeSource
  deriving DecidableEq, Repr

/-- `BackupStorage.Validate`. Its reflection loop counts the non-nil fields of the struct, which
are these three. -/
def BackupStorage.validate (b : BackupStorage) : Except String Unit :=
  let storageTypes := [b.s3.isSome, b.persistentVolumeClaim.isSome, b.volume.isSome].count true
  if storageTypes ≠ 1 then .error "exactly one storage type should be provided" else .ok ()

/-- `Schedule`. -/
structure Schedule where
  cron : String
  suspend : Bool
  deriving DecidableEq, Repr

/-- `Schedule.Validate`: what `cronParser.Parse` says of the expression. -/
def Schedule.validate (parseCron : String → Except String Unit) (s : Schedule) :
    Except String Unit :=
  parseCron s.cron

/-- `time.Hour`, in the nanoseconds a `metav1.Duration` counts. -/
def Hour : Int := 3600 * 1000000000

/-- `BackupSpec`: the fields the modelled methods read. -/
structure BackupSpec where
  storage : BackupStorage
  schedule : Option Schedule
  maxRetention : Int
  backoffLimit : Int
  deriving DecidableEq, Repr

structure Backup where
  objectMeta : ObjectMeta
  spec : BackupSpec
  status : BackupStatus
  deriving DecidableEq, Repr

/-- `Backup.Validate`. -/
def Backup.validate (parseCron : String → Except String Unit) (b : Backup) :
    Except String Unit := do
  if let some schedule := b.spec.schedule then
    (schedule.validate parseCron).mapError ("invalid Schedule: " ++ ·)
  b.spec.storage.validate.mapError ("invalid Storage: " ++ ·)

/-- `Backup.SetDefaults`: 30 days of retention and 5 retries, where unset. -/
def Backup.setDefaults (b : Backup) : Backup :=
  let b := { b with
    spec.maxRetention := if b.spec.maxRetention = 0 then 30 * 24 * Hour else b.spec.maxRetention }
  { b with spec.backoffLimit := if b.spec.backoffLimit = 0 then 5 else b.spec.backoffLimit }

/-- `Backup.Volume`: the volume a Job reading or writing the backup mounts, S3 first (staged
through an empty directory), then a claim named after the `Backup`, then the given volume. -/
def Backup.volume (b : Backup) : Except String VolumeSource :=
  match b.spec.storage with
  | ⟨some _, _, _⟩ => .ok .emptyDir
  | ⟨none, some _, _⟩ => .ok (.persistentVolumeClaim b.objectMeta.name)
  | ⟨none, none, some volume⟩ => .ok volume
  | ⟨none, none, none⟩ => .error "unable to get volume for Backup"

/-- `RestoreSource`; `targetRecoveryTime` is a clock reading. -/
structure RestoreSource where
  backupRef : Option LocalObjectReference
  s3 : Option S3
  volume : Option VolumeSource
  targetRecoveryTime : Option Int
  deriving DecidableEq, Repr

/-- `RestoreSource.Validate`. -/
def RestoreSource.validate (r : RestoreSource) : Except String Unit :=
  if r.backupRef = none ∧ r.s3 = none ∧ r.volume = none then
    .error "unable to determine restore source"
  else .ok ()

/-- `RestoreSource.IsDefaulted`. -/
def RestoreSource.isDefaulted (r : RestoreSource) : Bool :=
  r.volume.isSome

/-- `RestoreSource.SetDefaults`: an S3 source is staged through an empty directory. -/
def RestoreSource.setDefaults (r : RestoreSource) : RestoreSource :=
  if r.s3.isSome then { r with volume := some .emptyDir } else r

/-- `RestoreSource.SetDefaultsWithBackup`: on an error the source is left as it was. -/
def RestoreSource.setDefaultsWithBackup (r : RestoreSource) (backup : Backup) :
    Except String RestoreSource :=
  match backup.volume with
  | .error err => .error ("error getting backup volume: " ++ err)
  | .ok volume => .ok { r with volume := some volume, s3 := backup.spec.storage.s3 }

/-- `RestoreSource.TargetRecoveryTimeOrDefault`, with the clock reading `time.Now` gives. -/
def RestoreSource.targetRecoveryTimeOrDefault (now : Int) (r : RestoreSource) : Int :=
  r.targetRecoveryTime.getD now

/-- `intstr.IntOrString`. -/
inductive IntOrString where
  | int (value : Int)
  | string (value : String)
  deriving DecidableEq, Repr

/-- `PodDisruptionBudget`. -/
structure PodDisruptionBudget where
  minAvailable : Option IntOrString
  maxUnavailable : Option IntOrString
  deriving DecidableEq, Repr

/-- `PodDisruptionBudget.Validate`. -/
def PodDisruptionBudget.validate (p : PodDisruptionBudget) : Except String Unit :=
  if p.minAvailable.isSome ∧ p.maxUnavailable = none then .ok ()
  else if p.minAvailable = none ∧ p.maxUnavailable.isSome then .ok ()
  else .error "either minAvailable or maxUnavailable must be specified"

/-- Exactly one storage type is set. -/
def BackupStorage.ExactlyOne (b : BackupStorage) : Prop :=
  (b.s3.isSome ∧ b.persistentVolumeClaim = none ∧ b.volume = none) ∨
    (b.s3 = none ∧ b.persistentVolumeClaim.isSome ∧ b.volume = none) ∨
    (b.s3 = none ∧ b.persistentVolumeClaim = none ∧ b.volume.isSome)

instance (b : BackupStorage) : Decidable b.ExactlyOne :=
  inferInstanceAs (Decidable (_ ∨ _ ∨ _))

section Validation

variable (parseCron : String → Except String Unit)

theorem BackupStorage.validate_eq (b : BackupStorage) :
    b.validate =
      if b.ExactlyOne then .ok () else .error "exactly one storage type should be provided" := by
  rcases b with ⟨_ | _, _ | _, _ | _⟩ <;> rfl

theorem Backup.validate_eq_ok_iff (b : Backup) :
    b.validate parseCron = .ok () ↔
      (∀ s ∈ b.spec.schedule, parseCron s.cron = .ok ()) ∧ b.spec.storage.ExactlyOne := by
  rcases b with ⟨_, ⟨storage, _ | schedule, _, _⟩, _⟩
  · by_cases h : storage.ExactlyOne <;>
      simp [Backup.validate, BackupStorage.validate_eq, h, Except.mapError]
  · cases hcron : parseCron schedule.cron <;> by_cases h : storage.ExactlyOne <;>
      simp [Backup.validate, Schedule.validate, BackupStorage.validate_eq, Except.mapError, hcron,
        h, bind, Except.bind]

/-- With exactly one storage type set, `Volume` cannot fail: it returns that storage's volume. -/
theorem Backup.volume_of_exactlyOne (b : Backup) (h : b.spec.storage.ExactlyOne) :
    b.volume = .ok (match b.spec.storage.s3, b.spec.storage.persistentVolumeClaim,
        b.spec.storage.volume with
      | some _, _, _ => .emptyDir
      | none, some _, _ => .persistentVolumeClaim b.objectMeta.name
      | _, _, volume => volume.getD default) := by
  rcases b with ⟨_, ⟨⟨_ | _, _ | _, _ | _⟩, _, _, _⟩, _⟩ <;>
    simp_all [BackupStorage.ExactlyOne, Backup.volume]

/-- A restore that names a `Backup` the validating webhook accepted always gets its volume:
`Volume` does not fail, and the defaulted source passes `Validate`, is defaulted, is left alone by
`SetDefaults` (an S3 backup is staged through the empty directory `SetDefaults` would choose),
and keeps its own backup reference and recovery time. -/
theorem restore_source_from_valid_backup (r : RestoreSource) (b : Backup)
    (hvalid : b.validate parseCron = .ok ()) :
    ∃ volume restored, b.volume = .ok volume ∧ r.setDefaultsWithBackup b = .ok restored ∧
      restored.volume = some volume ∧ restored.s3 = b.spec.storage.s3 ∧
      restored.validate = .ok () ∧ restored.isDefaulted = true ∧
      restored.setDefaults = restored ∧
      restored.backupRef = r.backupRef ∧ restored.targetRecoveryTime = r.targetRecoveryTime := by
  have hone := ((Backup.validate_eq_ok_iff parseCron b).mp hvalid).2
  have hvolume := Backup.volume_of_exactlyOne b hone
  refine ⟨_, _, hvolume, by rw [RestoreSource.setDefaultsWithBackup, hvolume], rfl, rfl, ?_⟩
  rcases b with ⟨_, ⟨⟨_ | _, _ | _, _ | _⟩, _, _, _⟩, _⟩ <;>
    simp_all [BackupStorage.ExactlyOne, RestoreSource.validate, RestoreSource.isDefaulted,
      RestoreSource.setDefaults]

/-- A scheduled S3 backup: the restore is staged through an empty directory. -/
theorem scheduled_s3_backup_restores :
    let b : Backup :=
      ⟨⟨"backup", "default"⟩, ⟨⟨some ⟨"backups", "s3.amazonaws.com"⟩, none, none⟩,
        some ⟨"0 0 * * *", false⟩, 0, 0⟩, ⟨[]⟩⟩
    let r : RestoreSource := ⟨some ⟨"backup"⟩, none, none, none⟩
    ∃ volume restored, b.volume = .ok volume ∧ r.setDefaultsWithBackup b = .ok restored ∧
      restored.volume = some volume ∧ restored.s3 = b.spec.storage.s3 ∧
      restored.validate = .ok () ∧ restored.isDefaulted = true ∧
      restored.setDefaults = restored ∧
      restored.backupRef = r.backupRef ∧ restored.targetRecoveryTime = r.targetRecoveryTime := by
  intro b r
  exact restore_source_from_valid_backup (fun _ => .ok ()) r b rfl

/-- `PodDisruptionBudget.Validate` accepts exactly the budgets that set one of the two bounds. -/
theorem podDisruptionBudget_validate_iff (p : PodDisruptionBudget) :
    p.validate = .ok () ↔ p.minAvailable.isSome ≠ p.maxUnavailable.isSome := by
  rcases p with ⟨_ | _, _ | _⟩ <;> simp [PodDisruptionBudget.validate]

end Validation

end MariaDBOperator.V1alpha1
