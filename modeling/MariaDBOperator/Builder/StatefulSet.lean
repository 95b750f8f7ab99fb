import MariaDBOperator.Api.Defaults

/-!
The storage, probes and environment of the MariaDB `StatefulSet` the operator builds
(`pkg/builder/statefulset_builder.go`, `statefulset_container_builder.go`): the pod's volumes,
the claim templates the `StatefulSet` turns into more volumes of each pod, the mounts of its
containers, and the probes and environment of the `mariadb` container.

`MariaDB.Replication()`, `MariaDB.Galera()` and `ReplConfigMapKeyRef()` are declared outside the
source, with the `FillWithDefaults` they call: what they return for the object being built is the
parameter `HAView`. The names from `pkg/controller/galera/resources` are the parameter
`GaleraResources`, and the `CLUSTER_NAME` the operator's own process reads is `clusterNameEnv`.

`mariadbVolumeMounts` is what the `mariadb` and `agent` containers and the Galera init container
mount, and every init or sidecar container of the user that declares no mounts of its own.
-/

namespace MariaDBOperator.Builder

open CoreV1 V1alpha1

def StorageVolume : String := "storage"
def MariadbStorageMountPath : String := "/var/lib/mysql"
def ConfigVolume : String := "config"
def MariadbConfigMountPath : String := "/etc/mysql/conf.d"
def ProbesVolume : String := "probes"
def ProbesMountPath : String := "/etc/probes"
def ServiceAccountVolume : String := "serviceaccount"
def ServiceAccountMountPath : String := "/var/run/secrets/kubernetes.io/serviceaccount"
def MaxscaleStorageMountPath : String := "/var/lib/maxscale"
def MaxscaleConfigMountPath : String := "/etc/config"

/-- What `Replication()`, `Galera()` and `ReplConfigMapKeyRef()` return for the object. -/
structure HAView where
  replicationEnabled : Bool
  /-- `Replication().ProbesEnabled`, a `*bool`. -/
  replicationProbesEnabled : Option Bool
  galeraEnabled : Bool
  /-- `*Galera().VolumeClaimTemplate`, dereferenced only when Galera is enabled. -/
  galeraVolumeClaimTemplate : VolumeClaimTemplate
  replConfigMapKeyRef : ConfigMapKeySelector

/-- `galeraresources.GaleraConfigVolume` and `galeraresources.GaleraConfigMountPath`. -/
structure GaleraResources where
  galeraConfigVolume : String
  galeraConfigMountPath : String

/-- The guard `Replication().Enabled && ptr.Deref(Replication().ProbesEnabled, false)` the
builders repeat. -/
def HAView.replProbesEnabled (ha : HAView) : Bool :=
  ha.replicationEnabled && ha.replicationProbesEnabled.getD false

/-- What the MaxScale builders read of a `MaxScale`, whose type is declared outside the source:
`Spec.Config.VolumeClaimTemplate`, `ConfigSecretKeyRef()`, `Spec.Volumes`, `Spec.VolumeMounts`
and `Spec.Admin.Port`. -/
structure MaxScaleView where
  configVolumeClaimTemplate : VolumeClaimTemplate
  configSecretKeyRef : SecretKeySelector
  volumes : List Volume
  volumeMounts : List VolumeMount
  adminPort : Int

/-- A claim template built from a `VolumeClaimTemplate`, as the claim-template builders write it
each time. -/
def claimFrom (name : String) (vctpl : VolumeClaimTemplate) : PersistentVolumeClaim :=
  ⟨name, vctpl.labels, vctpl.annotations, vctpl.persistentVolumeClaimSpec⟩

/-- The projected volume the Galera agent reads its service-account credentials from. -/
def serviceAccountVolumeSource : VolumeSource :=
  .projected [.serviceAccountToken "token", .configMap "kube-root-ca.crt" [⟨"ca.crt", "ca.crt"⟩],
    .downwardAPI [⟨"metadata.namespace", "namespace"⟩]]

/-- `defaultStsProbe`. -/
def defaultStsProbe : Probe :=
  ⟨.exec ["bash", "-c", "mariadb -u root -p\"$\x7bMARIADB_ROOT_PASSWORD\x7d\" -e \"SELECT 1;\""],
    20, 5, 10, 0, 0⟩

/-- `galeraStsProbe`. -/
def galeraStsProbe : Probe :=
  ⟨.exec ["bash", "-c", "mariadb -u root -p\"$\x7bMARIADB_ROOT_PASSWORD\x7d\" -e " ++
    "\"SHOW STATUS LIKE \x27wsrep_ready\x27\" | grep -c ON "], 60, 5, 10, 0, 0⟩

/-- `setProbeThresholds(source, target)`: the five timings of `target`, unless it is nil. -/
def setProbeThresholds (source : Probe) : Option Probe → Probe
  | none => source
  | some target => { source with
      initialDelaySeconds := target.initialDelaySeconds
      timeoutSeconds := target.timeoutSeconds
      periodSeconds := target.periodSeconds
      successThreshold := target.successThreshold
      failureThreshold := target.failureThreshold }

def maxscaleVolumeClaimTemplates (mxs : MaxScaleView) : List PersistentVolumeClaim :=
  [claimFrom StorageVolume mxs.configVolumeClaimTemplate]

def maxscaleVolumes (mxs : MaxScaleView) : List Volume :=
  [⟨ConfigVolume, .secret mxs.configSecretKeyRef.name⟩] ++ mxs.volumes

def maxscaleVolumeMounts (mxs : MaxScaleView) : List VolumeMount :=
  [⟨StorageVolume, MaxscaleStorageMountPath⟩, ⟨ConfigVolume, MaxscaleConfigMountPath⟩] ++
    mxs.volumeMounts

def maxscaleProbe (mxs : MaxScaleView) (probe : Option Probe) : Probe :=
  probe.getD ⟨.httpGet "/" mxs.adminPort, 20, 5, 10, 0, 0⟩

/-- The volume names of a pod: its volumes, then one per claim template of its `StatefulSet`. -/
def volumeNames (volumes : List Volume) (claims : List PersistentVolumeClaim) : List String :=
  volumes.map Volume.name ++ claims.map PersistentVolumeClaim.name

/-- A pod's storage is wired: no two of its volumes and claim templates share a name, and every
mount names one of them. -/
structure StorageWired (volumes : List Volume) (claims : List PersistentVolumeClaim)
    (mounts : List VolumeMount) : Prop where
  names_nodup : (volumeNames volumes claims).Nodup
  mounts_resolve : ∀ mount ∈ mounts, mount.name ∈ volumeNames volumes claims

/-- A pod is wired when its volume names are, up to order, names the builders take from
`reserved` (distinct) next to the user's volumes (distinct, avoiding `reserved`), and its mounts
name one of them. -/
theorem StorageWired.of_perm {volumes : List Volume} {claims : List PersistentVolumeClaim}
    {mounts : List VolumeMount} {builder reserved : List String} {userVolumes : List Volume}
    (hperm : List.Perm (volumeNames volumes claims) (builder ++ userVolumes.map Volume.name))
    (hbuilder : builder.Nodup) (hsub : builder ⊆ reserved)
    (hnodup : (userVolumes.map Volume.name).Nodup)
    (hreserved : ∀ v ∈ userVolumes, v.name ∉ reserved)
    (hmounts : ∀ mount ∈ mounts, mount.name ∈ builder ++ userVolumes.map Volume.name) :
    StorageWired volumes claims mounts where
  names_nodup := hperm.nodup_iff.mpr <| List.nodup_append.mpr ⟨hbuilder, hnodup, fun x hb hu => by
    obtain ⟨v, hv, rfl⟩ := List.mem_map.mp hu
    exact hreserved v hv (hsub hb)⟩
  mounts_resolve mount hmount := hperm.mem_iff.mpr (hmounts mount hmount)

/-- Mounts that name the builders' volumes or are the user's, which name the user's volumes,
name one of the pod's volumes. -/
theorem mounts_resolve_of_subset {mounts userMounts : List VolumeMount} {builder : List String}
    {userVolumes : List Volume}
    (hmountNames : mounts.map VolumeMount.name ⊆ builder ++ userMounts.map VolumeMount.name)
    (huser : ∀ mount ∈ userMounts, mount.name ∈ userVolumes.map Volume.name) :
    ∀ mount ∈ mounts, mount.name ∈ builder ++ userVolumes.map Volume.name := by
  intro mount hmount
  rcases List.mem_append.mp (hmountNames (List.mem_map_of_mem _ hmount)) with h | h
  · exact List.mem_append_left _ h
  · obtain ⟨userMount, huserMount, hname⟩ := List.mem_map.mp h
    exact List.mem_append_right _ (hname ▸ huser userMount huserMount)

theorem maxscaleVolumeNames_perm (mxs : MaxScaleView) :
    List.Perm (volumeNames (maxscaleVolumes mxs) (maxscaleVolumeClaimTemplates mxs))
      ([ConfigVolume, StorageVolume] ++ mxs.volumes.map Volume.name) := by
  simp only [volumeNames, maxscaleVolumes, maxscaleVolumeClaimTemplates, claimFrom, List.map_append,
    List.map_cons, List.map_nil, List.cons_append, List.nil_append, List.perm_cons]
  exact List.perm_append_singleton _ _

/-- Any mounts of the MaxScale pod that name its config volume, its storage or the user's
volumes are wired, when the user's volumes have distinct names other than those two. -/
theorem maxscaleStorage_wired (mxs : MaxScaleView) (hnodup : (mxs.volumes.map Volume.name).Nodup)
    (hreserved : ∀ v ∈ mxs.volumes, v.name ∉ [ConfigVolume, StorageVolume])
    {mounts : List VolumeMount}
    (hmounts : ∀ mount ∈ mounts, mount.name ∈ [ConfigVolume, StorageVolume] ++ mxs.volumes.map Volume.name) :
    StorageWired (maxscaleVolumes mxs) (maxscaleVolumeClaimTemplates mxs) mounts :=
  .of_perm (maxscaleVolumeNames_perm mxs) (by decide) (List.Subset.refl _) hnodup hreserved hmounts

theorem maxscaleVolumeMounts_resolve (mxs : MaxScaleView)
    (hmounts : ∀ mount ∈ mxs.volumeMounts, mount.name ∈ mxs.volumes.map Volume.name) :
    ∀ mount ∈ maxscaleVolumeMounts mxs,
      mount.name ∈ [ConfigVolume, StorageVolume] ++ mxs.volumes.map Volume.name := by
  refine mounts_resolve_of_subset ?_ hmounts
  simp only [maxscaleVolumeMounts, List.map_append]
  generalize mxs.volumeMounts.map VolumeMount.name = userMounts
  simp +contextual [List.subset_def]

/-- The MaxScale pod has its storage wired, when the user's volumes have distinct names other than
the builders' and the user's mounts name them. -/
theorem maxscale_pod_storage_well_formed (mxs : MaxScaleView)
    (hnodup : (mxs.volumes.map Volume.name).Nodup)
    (hreserved : ∀ v ∈ mxs.volumes, v.name ∉ [ConfigVolume, StorageVolume])
    (hmounts : ∀ mount ∈ mxs.volumeMounts, mount.name ∈ mxs.volumes.map Volume.name) :
    StorageWired (maxscaleVolumes mxs) (maxscaleVolumeClaimTemplates mxs)
      (maxscaleVolumeMounts mxs) :=
  maxscaleStorage_wired mxs hnodup hreserved (maxscaleVolumeMounts_resolve mxs hmounts)

/-- A MaxScale pod mounting a certificate volume of the user's. -/
theorem maxscale_pod_with_user_volume_well_formed :
    let mxs : MaxScaleView := ⟨default, default, [⟨"certs", .secret "maxscale-certs"⟩],
      [⟨"certs", "/etc/certs"⟩], 8989⟩
    StorageWired (maxscaleVolumes mxs) (maxscaleVolumeClaimTemplates mxs)
      (maxscaleVolumeMounts mxs) := by
  intro mxs
  exact maxscale_pod_storage_well_formed mxs (by decide) (by decide) (by decide)

section Builders

variable (res : GaleraResources) (ha : HAView)

def mariadbVolumeClaimTemplates (m : MariaDB) : List PersistentVolumeClaim :=
  let pvcs :=
    if !m.isEphemeralStorageEnabled then [claimFrom StorageVolume m.spec.volumeClaimTemplate]
    else []
  if ha.galeraEnabled then pvcs ++ [claimFrom res.galeraConfigVolume ha.galeraVolumeClaimTemplate]
  else pvcs

def mariadbVolumes (m : MariaDB) : List Volume :=
  let configVolume : Volume :=
    match m.spec.myCnfConfigMapKeyRef with
    | some ref => ⟨ConfigVolume, .configMap ref.name [⟨ref.key, "my.cnf"⟩] none⟩
    | none => ⟨ConfigVolume, .emptyDir⟩
  let volumes := [configVolume]
  let volumes :=
    if ha.replProbesEnabled then
      volumes ++ [⟨ProbesVolume, .configMap ha.replConfigMapKeyRef.name [] (some 0o777)⟩]
    else volumes
  let volumes :=
    if ha.galeraEnabled then volumes ++ [⟨ServiceAccountVolume, serviceAccountVolumeSource⟩]
    else volumes
  let volumes :=
    if m.isEphemeralStorageEnabled then volumes ++ [⟨StorageVolume, .emptyDir⟩] else volumes
  volumes ++ m.spec.volumes

def mariadbVolumeMounts (m : MariaDB) : List VolumeMount :=
  let volumeMounts : List VolumeMount :=
    [⟨StorageVolume, MariadbStorageMountPath⟩, ⟨ConfigVolume, MariadbConfigMountPath⟩]
  let volumeMounts :=
    if ha.replProbesEnabled then volumeMounts ++ [⟨ProbesVolume, ProbesMountPath⟩]
    else volumeMounts
  let volumeMounts :=
    if ha.galeraEnabled then
      volumeMounts ++ [⟨res.galeraConfigVolume, res.galeraConfigMountPath⟩,
        ⟨ServiceAccountVolume, ServiceAccountMountPath⟩]
    else volumeMounts
  volumeMounts ++ m.spec.volumeMounts

def mariadbReplProbe (probe : Option Probe) : Probe :=
  setProbeThresholds
    ⟨.exec ["bash", "-c", ProbesMountPath ++ "/" ++ ha.replConfigMapKeyRef.key], 40, 5, 10, 0, 0⟩
    probe

def mariadbProbe (probe : Option Probe) : Probe :=
  if ha.replProbesEnabled then setProbeThresholds (mariadbReplProbe ha probe) probe
  else if ha.galeraEnabled then setProbeThresholds galeraStsProbe probe
  else probe.getD defaultStsProbe

def mariadbLivenessProbe (m : MariaDB) : Probe :=
  mariadbProbe ha m.spec.livenessProbe

def mariadbReadinessProbe (m : MariaDB) : Probe :=
  mariadbProbe ha m.spec.readinessProbe

/-- `mariadbEnv`. Each `if x != nil { env = append(env, ...) }` appends the entry of the optional
field, none when it is nil. -/
def mariadbEnv (clusterNameEnv : String) (m : MariaDB) : List EnvVar :=
  let clusterName := if clusterNameEnv = "" then "cluster.local" else clusterNameEnv
  let env : List EnvVar :=
    [⟨"MYSQL_TCP_PORT", toString m.spec.port, none⟩,
      ⟨"MARIADB_ROOT_HOST", "%", none⟩,
      ⟨"MYSQL_INITDB_SKIP_TZINFO", "1", none⟩,
      ⟨"CLUSTER_NAME", clusterName, none⟩,
      ⟨"POD_NAME", "", some (.fieldRef "metadata.name")⟩]
  let env :=
    if m.isRootPasswordEmpty then env ++ [⟨"MARIADB_ALLOW_EMPTY_ROOT_PASSWORD", "yes", none⟩]
    else env ++ [⟨"MARIADB_ROOT_PASSWORD", "", some (.secretKeyRef m.spec.rootPasswordSecretKeyRef)⟩]
  let env :=
    if !ha.replicationEnabled then
      let env := env ++ (m.spec.database.map fun database => ⟨"MARIADB_DATABASE", database, none⟩).toList
      let env := env ++ (m.spec.username.map fun username => ⟨"MARIADB_USER", username, none⟩).toList
      env ++ (m.spec.passwordSecretKeyRef.map fun ref =>
        ⟨"MARIADB_PASSWORD", "", some (.secretKeyRef ref)⟩).toList
    else env
  env ++ m.spec.env

/-- The names the builders declare volumes under. -/
def reservedVolumeNames : List String :=
  [ConfigVolume, ProbesVolume, ServiceAccountVolume, StorageVolume, res.galeraConfigVolume]

/-- The names the builders declare for an object, in the order of `reservedVolumeNames`: the
storage is declared once, as a volume or as a claim template. -/
def builderVolumeNames : List String :=
  ConfigVolume :: ((if ha.replProbesEnabled then [ProbesVolume] else []) ++
    (if ha.galeraEnabled then [ServiceAccountVolume] else []) ++ StorageVolume ::
    (if ha.galeraEnabled then [res.galeraConfigVolume] else []))

theorem mariadbVolumes_names (m : MariaDB) :
    (mariadbVolumes ha m).map Volume.name =
      ConfigVolume :: ((if ha.replProbesEnabled then [ProbesVolume] else []) ++
        (if ha.galeraEnabled then [ServiceAccountVolume] else []) ++
        (if m.isEphemeralStorageEnabled then [StorageVolume] else []) ++
        m.spec.volumes.map Volume.name) := by
  rcases hcnf : m.spec.myCnfConfigMapKeyRef with _ | ref <;> simp only [mariadbVolumes, hcnf] <;>
    split_ifs <;> simp

theorem mariadbVolumeClaimTemplates_names (m : MariaDB) :
    (mariadbVolumeClaimTemplates res ha m).map PersistentVolumeClaim.name =
      (if m.isEphemeralStorageEnabled then [] else [StorageVolume]) ++
        (if ha.galeraEnabled then [res.galeraConfigVolume] else []) := by
  simp only [mariadbVolumeClaimTemplates]
  split_ifs <;> simp_all [claimFrom]

theorem mariadbVolumeMounts_names (m : MariaDB) :
    (mariadbVolumeMounts res ha m).map VolumeMount.name =
      StorageVolume :: ConfigVolume :: ((if ha.replProbesEnabled then [ProbesVolume] else []) ++
        (if ha.galeraEnabled then [res.galeraConfigVolume, ServiceAccountVolume] else []) ++
        m.spec.volumeMounts.map VolumeMount.name) := by
  simp only [mariadbVolumeMounts]
  split_ifs <;> simp

theorem volumeNames_perm (m : MariaDB) :
    List.Perm (volumeNames (mariadbVolumes ha m) (mariadbVolumeClaimTemplates res ha m))
      (builderVolumeNames res ha ++ m.spec.volumes.map Volume.name) := by
  rw [volumeNames, mariadbVolumes_names, mariadbVolumeClaimTemplates_names, builderVolumeNames]
  cases m.isEphemeralStorageEnabled <;>
    simp only [Bool.false_eq_true, if_false, if_true, List.append_nil, List.nil_append,
      List.cons_append, List.singleton_append, List.append_assoc, List.perm_cons,
      List.perm_append_left_iff]
  · exact List.perm_middle.trans (.cons _ List.perm_append_comm)
  · exact List.perm_append_comm

theorem builderVolumeNames_sublist :
    List.Sublist (builderVolumeNames res ha) (reservedVolumeNames res) := by
  refine .cons₂ _ ?_
  cases ha.replProbesEnabled <;> cases ha.galeraEnabled <;> simp

/-- The mounts of `mariadbVolumeMounts` name the builders' own volumes or are the user's. -/
theorem mariadbVolumeMounts_names_subset (m : MariaDB) :
    (mariadbVolumeMounts res ha m).map VolumeMount.name ⊆
      builderVolumeNames res ha ++ m.spec.volumeMounts.map VolumeMount.name := by
  rw [mariadbVolumeMounts_names, builderVolumeNames]
  generalize m.spec.volumeMounts.map VolumeMount.name = userMounts
  cases ha.replProbesEnabled <;> cases ha.galeraEnabled <;> simp +contextual [List.subset_def]

theorem reservedVolumeNames_nodup
    (hres : res.galeraConfigVolume ∉ [ConfigVolume, ProbesVolume, ServiceAccountVolume, StorageVolume]) :
    (reservedVolumeNames res).Nodup :=
  List.Nodup.concat hres (by decide)

theorem mariadbVolumeMounts_resolve (m : MariaDB)
    (hmounts : ∀ mount ∈ m.spec.volumeMounts, mount.name ∈ m.spec.volumes.map Volume.name) :
    ∀ mount ∈ mariadbVolumeMounts res ha m,
      mount.name ∈ builderVolumeNames res ha ++ m.spec.volumes.map Volume.name :=
  mounts_resolve_of_subset (mariadbVolumeMounts_names_subset res ha m) hmounts

/-- Any mounts of the MariaDB pod that name a volume the builders declare for the object or one
of the user's are wired, when the user's volumes have distinct names other than the builders' and
the Galera config volume is named apart from the builders' other volumes. -/
theorem mariadbStorage_wired (m : MariaDB)
    (hres : res.galeraConfigVolume ∉ [ConfigVolume, ProbesVolume, ServiceAccountVolume, StorageVolume])
    (hnodup : (m.spec.volumes.map Volume.name).Nodup)
    (hreserved : ∀ v ∈ m.spec.volumes, v.name ∉ reservedVolumeNames res) {mounts : List VolumeMount}
    (hmounts : ∀ mount ∈ mounts,
      mount.name ∈ builderVolumeNames res ha ++ m.spec.volumes.map Volume.name) :
    StorageWired (mariadbVolumes ha m) (mariadbVolumeClaimTemplates res ha m) mounts :=
  .of_perm (volumeNames_perm res ha m)
    ((builderVolumeNames_sublist res ha).nodup (reservedVolumeNames_nodup res hres))
    (builderVolumeNames_sublist res ha).subset hnodup hreserved hmounts

/-- The pod declares an empty directory as its storage volume exactly when the storage is
ephemeral; no other volume of the pod takes the storage's name. -/
theorem storage_emptyDir_mem_iff (m : MariaDB)
    (hreserved : ∀ v ∈ m.spec.volumes, v.name ∉ reservedVolumeNames res) :
    (⟨StorageVolume, .emptyDir⟩ : Volume) ∈ mariadbVolumes ha m ↔
      m.isEphemeralStorageEnabled = true := by
  constructor
  · intro hmem
    by_contra hephemeral
    have hname := List.mem_map_of_mem Volume.name hmem
    rw [mariadbVolumes_names] at hname
    obtain ⟨v, hv, hvn⟩ : ∃ v ∈ m.spec.volumes, v.name = StorageVolume := by
      simpa [hephemeral, List.mem_ite_nil_right, StorageVolume, ConfigVolume, ProbesVolume,
        ServiceAccountVolume] using hname
    exact hreserved v hv (by simp [hvn, reservedVolumeNames])
  · intro hephemeral
    simp [mariadbVolumes, hephemeral]

/-- The MariaDB pod has its storage wired in every replication and Galera mode, and the storage is
a claim template exactly when it is not ephemeral, and an empty directory otherwise. The premises
are what the user's part and the Galera names must satisfy: the user's volumes have distinct names
other than the builders', the user's mounts name them, and the Galera config volume is named
apart from the builders' other volumes. -/
theorem mariadb_pod_storage_well_formed (m : MariaDB)
    (hres : res.galeraConfigVolume ∉ [ConfigVolume, ProbesVolume, ServiceAccountVolume, StorageVolume])
    (hnodup : (m.spec.volumes.map Volume.name).Nodup)
    (hreserved : ∀ v ∈ m.spec.volumes, v.name ∉ reservedVolumeNames res)
    (hmounts : ∀ mount ∈ m.spec.volumeMounts, mount.name ∈ m.spec.volumes.map Volume.name) :
    StorageWired (mariadbVolumes ha m) (mariadbVolumeClaimTemplates res ha m)
        (mariadbVolumeMounts res ha m) ∧
      (StorageVolume ∈ (mariadbVolumeClaimTemplates res ha m).map PersistentVolumeClaim.name ↔
        m.isEphemeralStorageEnabled = false) ∧
      ((⟨StorageVolume, .emptyDir⟩ : Volume) ∈ mariadbVolumes ha m ↔
        m.isEphemeralStorageEnabled = true) := by
  have hstorage : StorageVolume ≠ res.galeraConfigVolume := fun h => hres (by simp [h])
  refine ⟨mariadbStorage_wired res ha m hres hnodup hreserved
    (mariadbVolumeMounts_resolve res ha m hmounts), ?_, storage_emptyDir_mem_iff res ha m hreserved⟩
  rw [mariadbVolumeClaimTemplates_names]
  cases m.isEphemeralStorageEnabled <;> cases ha.galeraEnabled <;> simp [hstorage]

/-- A Galera pod with persistent storage and one volume of the user's, mounted. -/
theorem galera_pod_with_user_volume_well_formed :
    let res : GaleraResources := ⟨"galera", "/galera"⟩
    let ha : HAView := ⟨false, none, true, default, default⟩
    let m : MariaDB := { (default : MariaDB) with
      spec.volumes := [⟨"data", .other "hostPath"⟩], spec.volumeMounts := [⟨"data", "/data"⟩] }
    StorageWired (mariadbVolumes ha m) (mariadbVolumeClaimTemplates res ha m)
        (mariadbVolumeMounts res ha m) ∧
      (StorageVolume ∈ (mariadbVolumeClaimTemplates res ha m).map PersistentVolumeClaim.name ↔
        m.isEphemeralStorageEnabled = false) ∧
      ((⟨StorageVolume, .emptyDir⟩ : Volume) ∈ mariadbVolumes ha m ↔
        m.isEphemeralStorageEnabled = true) := by
  intro res ha m
  exact mariadb_pod_storage_well_formed res ha m (by decide) (by decide) (by decide) (by decide)

/-- Whichever action the replication or Galera mode picks, a probe the user gives keeps its five
timings: only its action may be replaced. -/
theorem mariadbProbe_keeps_user_timings (p : Probe) :
    { mariadbProbe ha (some p) with probeHandler := p.probeHandler } = p := by
  simp only [mariadbProbe, mariadbReplProbe]
  split_ifs <;> rfl

/-- On an object `SetDefaults` has run on, the `mariadb` container's environment always says how
the root password is set: empty when `RootEmptyPassword` asks for it, otherwise read from a
secret, the user's or the one `SetDefaults` names. Without replication, an initial user always
comes with a password read from a secret. -/
theorem mariadbEnv_after_setDefaults (keys : MariaDBKeys) (env : Environment)
    (clusterNameEnv : String) (m : MariaDB) :
    let e := mariadbEnv ha clusterNameEnv (m.setDefaults keys env)
    (m.spec.rootEmptyPassword = some true →
        ⟨"MARIADB_ALLOW_EMPTY_ROOT_PASSWORD", "yes", none⟩ ∈ e) ∧
      (m.spec.rootEmptyPassword ≠ some true →
        ⟨"MARIADB_ROOT_PASSWORD", "", some (.secretKeyRef
          (if m.spec.rootPasswordSecretKeyRef = default then keys.rootPasswordSecretKeyRef m.objectMeta
            else m.spec.rootPasswordSecretKeyRef))⟩ ∈ e) ∧
      (ha.replicationEnabled = false → ∀ username, m.spec.username = some username →
        ⟨"MARIADB_USER", username, none⟩ ∈ e ∧
        ⟨"MARIADB_PASSWORD", "", some (.secretKeyRef
          (m.spec.passwordSecretKeyRef.getD (keys.passwordSecretKeyRef m.objectMeta)))⟩ ∈ e) := by
  intro e
  refine ⟨fun h => ?_, fun h => ?_, fun hrepl username hu => ?_⟩
  · have hempty : (m.setDefaults keys env).isRootPasswordEmpty = true := by
      rw [isRootPasswordEmpty_setDefaults]
      simpa [MariaDB.isRootPasswordEmpty] using h
    simp only [e, mariadbEnv, hempty]
    cases ha.replicationEnabled <;> simp
  · have hempty : (m.setDefaults keys env).isRootPasswordEmpty = false := by
      rw [isRootPasswordEmpty_setDefaults]
      simpa [MariaDB.isRootPasswordEmpty] using h
    simp only [e, mariadbEnv, hempty]
    cases ha.replicationEnabled <;> simp [h]
  · cases hpassword : m.spec.passwordSecretKeyRef <;>
      simp [e, mariadbEnv, MariaDB.isInitialDataEnabled, hrepl, hu, hpassword]

end Builders

end MariaDBOperator.Builder
