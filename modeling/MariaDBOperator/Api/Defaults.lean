import MariaDBOperator.Api.MariaDB

/-!
`MariaDB.SetDefaults` and the accessors it reads. Each `if x == zero { x = v }` of the source is
the field update `x := if x = zero then v else x`, in the source's order, so that a later guard
reads the earlier defaults (`IsRootPasswordEmpty` reads the defaulted `RootEmptyPassword`).

The key references it fills in come from methods declared outside the source; they are the
parameter `MariaDBKeys`, functions of the object's metadata only, which `SetDefaults` never
changes.
-/

namespace MariaDBOperator.V1alpha1

open CoreV1

/-- The environment fields `SetDefaults` reads (`pkg/environment`, not in the source). -/
structure Environment where
  relatedMariadbImage : String
  relatedExporterImage : String

/-- The `MariaDB` methods `SetDefaults` calls that are declared outside the source, as functions
of the metadata. -/
structure MariaDBKeys where
  rootPasswordSecretKeyRef : ObjectMeta → SecretKeySelector
  myCnfConfigMapKeyRef : ObjectMeta → ConfigMapKeySelector
  passwordSecretKeyRef : ObjectMeta → SecretKeySelector
  metricsKey : ObjectMeta → NamespacedName
  metricsPasswordSecretKeyRef : ObjectMeta → SecretKeySelector
  maxScaleKey : ObjectMeta → NamespacedName

def MariaDB.areMetricsEnabled (m : MariaDB) : Bool :=
  match m.spec.metrics with
  | some metrics => metrics.enabled
  | none => false

def MariaDB.isInitialDataEnabled (m : MariaDB) : Bool :=
  m.spec.username.isSome

def MariaDB.isRootPasswordEmpty (m : MariaDB) : Bool :=
  m.spec.rootEmptyPassword = some true

def MariaDB.isRootPasswordDefined (m : MariaDB) : Bool :=
  m.spec.rootPasswordSecretKeyRef ≠ default

def MariaDB.isEphemeralStorageEnabled (m : MariaDB) : Bool :=
  m.spec.ephemeralStorage = some true

def MariaDB.isMaxScaleEnabled (m : MariaDB) : Bool :=
  m.spec.maxScaleRef.isSome

/-- The body of `if m.AreMetricsEnabled() { ... }` in `SetDefaults`. -/
def Metrics.setDefaults (keys : MariaDBKeys) (env : Environment) (meta : ObjectMeta)
    (metrics : Metrics) : Metrics :=
  let metrics := { metrics with
    exporter.image :=
      if metrics.exporter.image = "" then env.relatedExporterImage else metrics.exporter.image }
  let metrics := { metrics with
    exporter.port := if metrics.exporter.port = 0 then 9104 else metrics.exporter.port }
  let metrics := { metrics with
    username := if metrics.username = "" then (keys.metricsKey meta).name else metrics.username }
  { metrics with
    passwordSecretKeyRef :=
      if metrics.passwordSecretKeyRef = default then keys.metricsPasswordSecretKeyRef meta
      else metrics.passwordSecretKeyRef }

/-- `MariaDB.SetDefaults`. -/
def MariaDB.setDefaults (keys : MariaDBKeys) (env : Environment) (m : MariaDB) : MariaDB :=
  let m := { m with
    spec.image := if m.spec.image = "" then env.relatedMariadbImage else m.spec.image }
  let m := { m with
    spec.ephemeralStorage :=
      if m.spec.ephemeralStorage = none then some false else m.spec.ephemeralStorage }
  let m := { m with
    spec.rootEmptyPassword :=
      if m.spec.rootEmptyPassword = none then some false else m.spec.rootEmptyPassword }
  let m := { m with
    spec.rootPasswordSecretKeyRef :=
      if m.spec.rootPasswordSecretKeyRef = default ∧ !m.isRootPasswordEmpty then
        keys.rootPasswordSecretKeyRef m.objectMeta
      else m.spec.rootPasswordSecretKeyRef }
  let m := { m with spec.port := if m.spec.port = 0 then 3306 else m.spec.port }
  let m := { m with
    spec.myCnfConfigMapKeyRef :=
      if m.spec.myCnf ≠ none ∧ m.spec.myCnfConfigMapKeyRef = none then
        some (keys.myCnfConfigMapKeyRef m.objectMeta)
      else m.spec.myCnfConfigMapKeyRef }
  let m := { m with
    spec.passwordSecretKeyRef :=
      if m.isInitialDataEnabled ∧ m.spec.passwordSecretKeyRef = none then
        some (keys.passwordSecretKeyRef m.objectMeta)
      else m.spec.passwordSecretKeyRef }
  let m := { m with
    spec.metrics :=
      if m.areMetricsEnabled then m.spec.metrics.map (Metrics.setDefaults keys env m.objectMeta)
      else m.spec.metrics }
  { m with
    spec.maxScaleRef :=
      if (m.spec.maxScale.getD default).enabled ∧ m.spec.maxScaleRef = none then
        some { name := (keys.maxScaleKey m.objectMeta).name, «namespace» := m.objectMeta.namespace }
      else m.spec.maxScaleRef }

/-- A field `SetDefaults` may fill: once set to anything but Go's zero value, it stays. -/
def KeepsSet {α : Type} [Inhabited α] (old new : α) : Prop :=
  old ≠ default → new = old

/-- The defaults of `Metrics` fill only unset fields. -/
structure Metrics.FilledFrom (old new : Metrics) : Prop where
  enabled : KeepsSet old.enabled new.enabled
  exporterImage : KeepsSet old.exporter.image new.exporter.image
  exporterPort : KeepsSet old.exporter.port new.exporter.port
  username : KeepsSet old.username new.username
  passwordSecretKeyRef : KeepsSet old.passwordSecretKeyRef new.passwordSecretKeyRef

/-- `SetDefaults` fills only unset spec fields: every field set in `old` has its value in `new`,
inside a non-nil `Metrics` too. -/
structure MariaDBSpec.FilledFrom (old new : MariaDBSpec) : Prop where
  command : KeepsSet old.command new.command
  args : KeepsSet old.args new.args
  env : KeepsSet old.env new.env
  volumeMounts : KeepsSet old.volumeMounts new.volumeMounts
  livenessProbe : KeepsSet old.livenessProbe new.livenessProbe
  readinessProbe : KeepsSet old.readinessProbe new.readinessProbe
  securityContext : KeepsSet old.securityContext new.securityContext
  initContainers : KeepsSet old.initContainers new.initContainers
  sidecarContainers : KeepsSet old.sidecarContainers new.sidecarContainers
  serviceAccountName : KeepsSet old.serviceAccountName new.serviceAccountName
  volumes : KeepsSet old.volumes new.volumes
  priorityClassName : KeepsSet old.priorityClassName new.priorityClassName
  image : KeepsSet old.image new.image
  imagePullPolicy : KeepsSet old.imagePullPolicy new.imagePullPolicy
  rootPasswordSecretKeyRef : KeepsSet old.rootPasswordSecretKeyRef new.rootPasswordSecretKeyRef
  rootEmptyPassword : KeepsSet old.rootEmptyPassword new.rootEmptyPassword
  database : KeepsSet old.database new.database
  username : KeepsSet old.username new.username
  passwordSecretKeyRef : KeepsSet old.passwordSecretKeyRef new.passwordSecretKeyRef
  myCnf : KeepsSet old.myCnf new.myCnf
  myCnfConfigMapKeyRef : KeepsSet old.myCnfConfigMapKeyRef new.myCnfConfigMapKeyRef
  metrics : match old.metrics, new.metrics with
    | some o, some n => o.FilledFrom n
    | none, none => True
    | _, _ => False
  maxScaleRef : KeepsSet old.maxScaleRef new.maxScaleRef
  maxScale : KeepsSet old.maxScale new.maxScale
  replicas : KeepsSet old.replicas new.replicas
  port : KeepsSet old.port new.port
  ephemeralStorage : KeepsSet old.ephemeralStorage new.ephemeralStorage
  volumeClaimTemplate : KeepsSet old.volumeClaimTemplate new.volumeClaimTemplate
  updateStrategy : KeepsSet old.updateStrategy new.updateStrategy

/-- A guarded fill `if p x then v else x` is idempotent when the guard reads only the field. -/
theorem fill_idempotent {α : Type} (p : α → Prop) [DecidablePred p] (x v : α) :
    (if p (if p x then v else x) then v else if p x then v else x) =
      if p x then v else x := by
  by_cases h : p x <;> simp [h]

/-- A fill whose guard holds only where the field is unset keeps every set value. -/
theorem keepsSet_of_guard {α : Type} [Inhabited α] (p : Prop) [Decidable p] (x v : α)
    (hguard : p → x = default) : KeepsSet x (if p then v else x) :=
  fun hset => if_neg fun hp => hset (hguard hp)

section SetDefaults

variable (keys : MariaDBKeys) (env : Environment)

@[simp] theorem setDefaults_objectMeta (m : MariaDB) :
    (m.setDefaults keys env).objectMeta = m.objectMeta := rfl

@[simp] theorem setDefaults_status (m : MariaDB) :
    (m.setDefaults keys env).status = m.status := rfl

theorem Metrics.setDefaults_enabled (meta : ObjectMeta) (metrics : Metrics) :
    (metrics.setDefaults keys env meta).enabled = metrics.enabled := rfl

theorem Metrics.setDefaults_filledFrom (meta : ObjectMeta) (metrics : Metrics) :
    metrics.FilledFrom (metrics.setDefaults keys env meta) :=
  ⟨fun _ => rfl, keepsSet_of_guard _ _ _ id, keepsSet_of_guard _ _ _ id,
    keepsSet_of_guard _ _ _ id, keepsSet_of_guard _ _ _ id⟩

theorem Metrics.setDefaults_idempotent (meta : ObjectMeta) (metrics : Metrics) :
    (metrics.setDefaults keys env meta).setDefaults keys env meta =
      metrics.setDefaults keys env meta := by
  simp only [Metrics.setDefaults, fill_idempotent (· = ""), fill_idempotent (· = (0 : Int)),
    fill_idempotent (· = default)]

variable (m : MariaDB)

@[simp] theorem setDefaults_image : (m.setDefaults keys env).spec.image =
    if m.spec.image = "" then env.relatedMariadbImage else m.spec.image := rfl

@[simp] theorem setDefaults_ephemeralStorage : (m.setDefaults keys env).spec.ephemeralStorage =
    if m.spec.ephemeralStorage = none then some false else m.spec.ephemeralStorage := rfl

@[simp] theorem setDefaults_rootEmptyPassword : (m.setDefaults keys env).spec.rootEmptyPassword =
    if m.spec.rootEmptyPassword = none then some false else m.spec.rootEmptyPassword := rfl

/-- The guard reads the defaulted `RootEmptyPassword`, which is `true` exactly when the input's
is. -/
@[simp] theorem setDefaults_rootPasswordSecretKeyRef :
    (m.setDefaults keys env).spec.rootPasswordSecretKeyRef =
      if m.spec.rootPasswordSecretKeyRef = default ∧ m.spec.rootEmptyPassword ≠ some true then
        keys.rootPasswordSecretKeyRef m.objectMeta
      else m.spec.rootPasswordSecretKeyRef := by
  simp only [MariaDB.setDefaults, MariaDB.isRootPasswordEmpty]
  by_cases h : m.spec.rootEmptyPassword = none <;> simp [h]

@[simp] theorem setDefaults_port : (m.setDefaults keys env).spec.port =
    if m.spec.port = 0 then 3306 else m.spec.port := rfl

@[simp] theorem setDefaults_myCnfConfigMapKeyRef :
    (m.setDefaults keys env).spec.myCnfConfigMapKeyRef =
      if m.spec.myCnf ≠ none ∧ m.spec.myCnfConfigMapKeyRef = none then
        some (keys.myCnfConfigMapKeyRef m.objectMeta)
      else m.spec.myCnfConfigMapKeyRef := rfl

@[simp] theorem setDefaults_passwordSecretKeyRef :
    (m.setDefaults keys env).spec.passwordSecretKeyRef =
      if m.isInitialDataEnabled ∧ m.spec.passwordSecretKeyRef = none then
        some (keys.passwordSecretKeyRef m.objectMeta)
      else m.spec.passwordSecretKeyRef := rfl

@[simp] theorem setDefaults_metrics : (m.setDefaults keys env).spec.metrics =
    if m.areMetricsEnabled then m.spec.metrics.map (Metrics.setDefaults keys env m.objectMeta)
    else m.spec.metrics := rfl

@[simp] theorem setDefaults_maxScaleRef : (m.setDefaults keys env).spec.maxScaleRef =
    if (m.spec.maxScale.getD default).enabled ∧ m.spec.maxScaleRef = none then
      some { name := (keys.maxScaleKey m.objectMeta).name, «namespace» := m.objectMeta.namespace }
    else m.spec.maxScaleRef := rfl

@[simp] theorem setDefaults_username :
    (m.setDefaults keys env).spec.username = m.spec.username := rfl

@[simp] theorem setDefaults_myCnf : (m.setDefaults keys env).spec.myCnf = m.spec.myCnf := rfl

@[simp] theorem setDefaults_maxScale :
    (m.setDefaults keys env).spec.maxScale = m.spec.maxScale := rfl

@[simp] theorem setDefaults_replicas :
    (m.setDefaults keys env).spec.replicas = m.spec.replicas := rfl

theorem areMetricsEnabled_setDefaults :
    (m.setDefaults keys env).areMetricsEnabled = m.areMetricsEnabled := by
  simp only [MariaDB.areMetricsEnabled, setDefaults_metrics]
  split_ifs with h
  · generalize m.spec.metrics = metrics at h ⊢
    cases metrics <;> rfl
  · rfl

theorem isRootPasswordEmpty_setDefaults :
    (m.setDefaults keys env).isRootPasswordEmpty = m.isRootPasswordEmpty := by
  simp only [MariaDB.isRootPasswordEmpty, setDefaults_rootEmptyPassword]
  split_ifs with h <;> simp [h]

theorem isInitialDataEnabled_setDefaults :
    (m.setDefaults keys env).isInitialDataEnabled = m.isInitialDataEnabled := rfl

theorem setDefaults_idempotent' :
    (m.setDefaults keys env).setDefaults keys env = m.setDefaults keys env := by
  refine MariaDB.ext rfl ?_ rfl
  apply MariaDBSpec.ext
  all_goals first
    | rfl
    | simp only [setDefaults_image, setDefaults_ephemeralStorage, setDefaults_rootEmptyPassword,
        setDefaults_rootPasswordSecretKeyRef, setDefaults_port, setDefaults_myCnfConfigMapKeyRef,
        setDefaults_passwordSecretKeyRef, setDefaults_metrics, setDefaults_maxScaleRef,
        setDefaults_username, setDefaults_myCnf, setDefaults_maxScale, setDefaults_objectMeta,
        areMetricsEnabled_setDefaults, isInitialDataEnabled_setDefaults]
      split_ifs <;> simp_all [Option.map_map, Function.comp_def, Metrics.setDefaults_idempotent]

theorem setDefaults_filledFrom : m.spec.FilledFrom (m.setDefaults keys env).spec where
  command _ := rfl
  args _ := rfl
  env _ := rfl
  volumeMounts _ := rfl
  livenessProbe _ := rfl
  readinessProbe _ := rfl
  securityContext _ := rfl
  initContainers _ := rfl
  sidecarContainers _ := rfl
  serviceAccountName _ := rfl
  volumes _ := rfl
  priorityClassName _ := rfl
  image := keepsSet_of_guard _ _ _ id
  imagePullPolicy _ := rfl
  rootPasswordSecretKeyRef := by
    rw [setDefaults_rootPasswordSecretKeyRef]
    exact keepsSet_of_guard _ _ _ And.left
  rootEmptyPassword := keepsSet_of_guard _ _ _ id
  database _ := rfl
  username _ := rfl
  passwordSecretKeyRef := keepsSet_of_guard _ _ _ And.right
  myCnf _ := rfl
  myCnfConfigMapKeyRef := keepsSet_of_guard _ _ _ And.right
  metrics := by
    rw [setDefaults_metrics]
    rcases hm : m.spec.metrics with _ | metrics
    · simp
    · split_ifs
      · exact Metrics.setDefaults_filledFrom keys env _ metrics
      · exact ⟨fun _ => rfl, fun _ => rfl, fun _ => rfl, fun _ => rfl, fun _ => rfl⟩
  maxScaleRef := keepsSet_of_guard _ _ _ And.right
  maxScale _ := rfl
  replicas _ := rfl
  port := keepsSet_of_guard _ _ _ id
  ephemeralStorage := keepsSet_of_guard _ _ _ id
  volumeClaimTemplate _ := rfl
  updateStrategy _ := rfl

/-- `SetDefaults` assigns only spec fields that are unset (Go's zero value), inside a non-nil
`Metrics` too, leaves the metadata and the status alone, and applying it to its own result
changes nothing. -/
theorem setDefaults_fills_unset_and_idempotent :
    (m.setDefaults keys env).objectMeta = m.objectMeta ∧
      (m.setDefaults keys env).status = m.status ∧
      m.spec.FilledFrom (m.setDefaults keys env).spec ∧
      (m.setDefaults keys env).setDefaults keys env = m.setDefaults keys env :=
  ⟨rfl, rfl, setDefaults_filledFrom keys env m, setDefaults_idempotent' keys env m⟩

end SetDefaults

end MariaDBOperator.V1alpha1
