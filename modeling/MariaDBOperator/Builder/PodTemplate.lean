import MariaDBOperator.Builder.StatefulSet
import Mathlib.Data.Nat.Digits

/-!
The containers, pod template and `StatefulSet` spec the builders assemble around the storage of
`Builder.StatefulSet` (`buildContainer`, `mariadbContainers`, `galeraAgentContainer`,
`mariadbInitContainers`, `galeraInitContainer`, `mariadbPodTemplate`, `BuildMariadbStatefulSet`
and the MaxScale ones). The object metadata, labels, selector, service name and owner reference
come from builders declared outside the source and are left out.

`Galera().Agent`, `Galera().InitContainer`, `Galera().Recovery`, the names and ports of
`pkg/controller/galera/resources`, `defaultAgentProbe` and the operator's own name and namespace
are declared outside the source: they are the parameter `GaleraContainersView`. A duration is the
text `Duration.String()` writes for it.

A `StatefulSet` is `PodWired` when the names of its containers and init containers are distinct,
as Kubernetes requires, and every container has its storage wired. Both builders produce one
whenever the user's volumes and mounts are consistent (`buildMariadbStatefulSet_podWired`,
`buildMaxscaleStatefulSet_podWired`); the init and sidecar containers of the user are named by
their index, so their names are distinct because decimal numerals are.
-/

namespace MariaDBOperator.Builder

open CoreV1 AppsV1 V1alpha1

def MariadbContainerName : String := "mariadb"
def MariadbPortName : String := "mariadb"
def MaxScaleContainerName : String := "maxscale"
def MaxScaleAdminPortName : String := "admin"
def InitContainerName : String := "init"
def AgentContainerName : String := "agent"

/-- What the Galera containers' builders read of `Galera()`, of `galeraresources` and of the
operator's environment. -/
structure GaleraContainersView where
  agent : V1alpha1.Container
  /-- `*Galera().Agent.Port`. -/
  agentPort : Int
  gracefulShutdownTimeout : String
  recoveryEnabled : Bool
  podRecoveryTimeout : String
  kubernetesAuthEnabled : Bool
  /-- `defaultAgentProbe(Galera())`. -/
  defaultAgentProbe : Probe
  initContainer : V1alpha1.Container
  agentPortName : String
  galeraClusterPortName : String
  galeraClusterPort : Int
  galeraISTPortName : String
  galeraISTPort : Int
  galeraSSTPortName : String
  galeraSSTPort : Int
  mariadbOperatorName : String
  mariadbOperatorNamespace : String
  deriving Inhabited

/-- `buildContainer`: the image and what the template sets. -/
def buildContainer (image pullPolicy : String) (tpl : ContainerTemplate) : CoreV1.Container where
  name := ""
  image := image
  imagePullPolicy := pullPolicy
  command := tpl.command
  args := tpl.args
  env := tpl.env.getD []
  ports := []
  volumeMounts := tpl.volumeMounts.getD []
  livenessProbe := tpl.livenessProbe
  readinessProbe := tpl.readinessProbe
  securityContext := tpl.securityContext

def serviceAccount (svcAccount : Option String) (defaultSvcAccount : String) : String :=
  svcAccount.getD defaultSvcAccount

def priorityClass (className : Option String) : String :=
  className.getD ""

def statefulSetUpdateStrategy (strategy : Option StatefulSetUpdateStrategy) :
    StatefulSetUpdateStrategy :=
  strategy.getD ⟨"RollingUpdate"⟩

/-- A `StatefulSet` whose pod Kubernetes accepts as far as names go: its containers and init
containers have distinct names, and every one of them has its storage wired to the pod's volumes
and the claim templates. -/
structure PodWired (sts : StatefulSetSpec) : Prop where
  names_nodup :
    ((sts.template.initContainers ++ sts.template.containers).map CoreV1.Container.name).Nodup
  storage_wired : ∀ c ∈ sts.template.initContainers ++ sts.template.containers,
    StorageWired sts.template.volumes sts.volumeClaimTemplates c.volumeMounts

section Numerals

/-- Reads a decimal numeral back. -/
def decimalValue (digits : List Char) : Nat :=
  digits.foldl (fun n c => 10 * n + (c.toNat - 48)) 0

theorem digitChar_toNat : ∀ d < 10, (Nat.digitChar d).toNat - 48 = d := by decide

theorem foldl_toDigitsCore : ∀ (fuel n : Nat) (ds : List Char), n < fuel →
    (Nat.toDigitsCore 10 fuel n ds).foldl (fun n c => 10 * n + (c.toNat - 48)) 0 =
      ds.foldl (fun n c => 10 * n + (c.toNat - 48)) n
  | 0, n, _, h => absurd h (Nat.not_lt_zero n)
  | fuel + 1, n, ds, h => by
    have hdigit := digitChar_toNat (n % 10) (Nat.mod_lt _ (by decide))
    simp only [Nat.toDigitsCore]
    split_ifs with hn
    · simp only [List.foldl_cons]
      congr 1
      omega
    · rw [foldl_toDigitsCore fuel (n / 10) _ (by omega), List.foldl_cons]
      congr 1
      omega

theorem decimalValue_toDigits (n : Nat) : decimalValue (Nat.toDigits 10 n) = n :=
  foldl_toDigitsCore (n + 1) n [] (Nat.lt_succ_self n)

/-- `fmt.Sprintf("%d", n)` tells numbers apart. -/
theorem toString_nat_injective : Function.Injective (toString : Nat → String) := by
  intro a b h
  have hdata : Nat.toDigits 10 a = Nat.toDigits 10 b := congrArg String.data h
  rw [← decimalValue_toDigits a, ← decimalValue_toDigits b, hdata]

theorem indexedName_injective (namePrefix : String) :
    Function.Injective fun index : Nat => namePrefix ++ toString index := by
  intro a b h
  have hdata := congrArg String.data h
  simp only [String.data_append, List.append_cancel_left_eq] at hdata
  exact toString_nat_injective (String.ext hdata)

/-- Names built from a prefix and the indices from `index` on are distinct. -/
theorem indexedNames_nodup (namePrefix : String) (index length : Nat) :
    ((List.range' index length).map (namePrefix ++ toString ·)).Nodup :=
  (List.nodup_range' index length).map (indexedName_injective namePrefix)

end Numerals

/-- The names of a MariaDB pod are distinct: the init containers of the user (`init-` and an
index), the Galera init container, the `mariadb` container, the agent and the sidecars of the
user (`sidecar-` and an index). -/
theorem podNames_nodup {inits sidecars : List String}
    (hinits : ∀ x ∈ inits, ∃ index : Nat, x = "init-" ++ toString index)
    (hsidecars : ∀ x ∈ sidecars, ∃ index : Nat, x = "sidecar-" ++ toString index)
    (hinitsNodup : inits.Nodup) (hsidecarsNodup : sidecars.Nodup) (galera : Bool) :
    (inits ++ (if galera then [InitContainerName] else []) ++ MariadbContainerName ::
      (if galera then [AgentContainerName] else []) ++ sidecars).Nodup := by
  have hinitNames : ∀ name ∈ inits, name ≠ InitContainerName ∧ name ≠ MariadbContainerName ∧
      name ≠ AgentContainerName ∧ name ∉ sidecars := by
    intro name hmem
    obtain ⟨index, rfl⟩ := hinits name hmem
    refine ⟨fun h => ?_, fun h => ?_, fun h => ?_, fun hmem => ?_⟩
    any_goals simpa [InitContainerName, MariadbContainerName, AgentContainerName] using
      congrArg String.data h
    obtain ⟨other, h⟩ := hsidecars _ hmem
    simpa using congrArg String.data h
  have hsidecarNames : InitContainerName ∉ sidecars ∧ MariadbContainerName ∉ sidecars ∧
      AgentContainerName ∉ sidecars := by
    refine ⟨fun hmem => ?_, fun hmem => ?_, fun hmem => ?_⟩ <;>
      obtain ⟨index, h⟩ := hsidecars _ hmem <;>
      simpa [InitContainerName, MariadbContainerName, AgentContainerName] using
        congrArg String.data h
  have hbuilder : InitContainerName ≠ MariadbContainerName ∧ InitContainerName ≠ AgentContainerName ∧
      MariadbContainerName ≠ AgentContainerName := by decide
  cases galera <;> simp +contextual [List.nodup_append, List.disjoint_left, hinitsNodup,
    hsidecarsNodup, hbuilder, hinitNames, hsidecarNames]

theorem map_toList_optionMap {α β γ : Type} (f : β → γ) (g : α → β) (o : Option α) :
    (o.map g).toList.map f = (o.map (f ∘ g)).toList := by
  cases o <;> rfl

section Containers

variable (res : GaleraResources) (ha : HAView) (g : GaleraContainersView) (clusterNameEnv : String)

def mariadbArgs (m : MariaDB) : List String :=
  if ha.replicationEnabled then ["--log-bin", "--log-basename=" ++ m.objectMeta.name] else []

def mariadbPorts (m : MariaDB) : List ContainerPort :=
  let ports : List ContainerPort := [⟨MariadbPortName, m.spec.port⟩]
  if ha.galeraEnabled then
    ports ++ [⟨g.galeraClusterPortName, g.galeraClusterPort⟩, ⟨g.galeraISTPortName, g.galeraISTPort⟩,
      ⟨g.galeraSSTPortName, g.galeraSSTPort⟩]
  else ports

/-- The loop of `mariadbContainers` over `SidecarContainers` and of `mariadbInitContainers` over
`InitContainers`, from `index` on: each container of the user is built from its template and
named by `namePrefix` and its index, and a nil environment or mount list is replaced by the
`mariadb` container's. `Env == nil` reads the template's list, which `buildContainer` copied. -/
def userContainers (namePrefix : String) (m : MariaDB) :
    Nat → List V1alpha1.Container → List CoreV1.Container
  | _, [] => []
  | index, container :: rest =>
      let built := buildContainer container.image container.imagePullPolicy
        container.containerTemplate
      { built with
        name := namePrefix ++ toString index
        env := if container.containerTemplate.env = none then mariadbEnv ha clusterNameEnv m
          else built.env
        volumeMounts := if container.containerTemplate.volumeMounts = none then
            mariadbVolumeMounts res ha m
          else built.volumeMounts } ::
        userContainers namePrefix m (index + 1) rest

def galeraAgentContainer (m : MariaDB) : CoreV1.Container :=
  let agent := g.agent
  let container := buildContainer agent.image agent.imagePullPolicy agent.containerTemplate
  let args := container.args ++ ["--addr=:" ++ toString g.agentPort,
    "--config-dir=" ++ res.galeraConfigMountPath, "--state-dir=" ++ MariadbStorageMountPath,
    "--graceful-shutdown-timeout=" ++ g.gracefulShutdownTimeout]
  let args :=
    if g.recoveryEnabled then args ++ ["--recovery-timeout=" ++ g.podRecoveryTimeout] else args
  let args :=
    if g.kubernetesAuthEnabled then
      args ++ ["--kubernetes-auth", "--kubernetes-trusted-name=" ++ g.mariadbOperatorName,
        "--kubernetes-trusted-namespace=" ++ g.mariadbOperatorNamespace]
    else args
  { container with
    name := AgentContainerName
    ports := [⟨g.agentPortName, g.agentPort⟩]
    args := args
    volumeMounts := mariadbVolumeMounts res ha m
    livenessProbe := some (container.livenessProbe.getD g.defaultAgentProbe)
    readinessProbe := some (container.readinessProbe.getD g.defaultAgentProbe)
    securityContext := some (container.securityContext.getD ⟨some 0⟩) }

def galeraInitContainer (m : MariaDB) : CoreV1.Container :=
  if !ha.galeraEnabled then default
  else
    let init := g.initContainer
    let container := buildContainer init.image init.imagePullPolicy init.containerTemplate
    { container with
      name := InitContainerName
      args := container.args ++ ["--config-dir=" ++ res.galeraConfigMountPath,
        "--state-dir=" ++ MariadbStorageMountPath, "--mariadb-name=" ++ m.objectMeta.name,
        "--mariadb-namespace=" ++ m.objectMeta.«namespace»]
      env := mariadbEnv ha clusterNameEnv m
      volumeMounts := mariadbVolumeMounts res ha m }

/-- The `mariadbContainer` that `mariadbContainers` builds first. -/
def mariadbContainer (m : MariaDB) : CoreV1.Container :=
  { buildContainer m.spec.image m.spec.imagePullPolicy m.spec.containerTemplate with
    name := MariadbContainerName
    args := mariadbArgs ha m
    env := mariadbEnv ha clusterNameEnv m
    ports := mariadbPorts ha g m
    volumeMounts := mariadbVolumeMounts res ha m
    livenessProbe := some (mariadbLivenessProbe ha m)
    readinessProbe := some (mariadbReadinessProbe ha m) }

/-- `mariadbContainers`, whose error is always nil. -/
def mariadbContainers (m : MariaDB) : List CoreV1.Container :=
  let containers := [mariadbContainer res ha g clusterNameEnv m]
  let containers :=
    if ha.galeraEnabled then containers ++ [galeraAgentContainer res ha g m] else containers
  containers ++ userContainers res ha clusterNameEnv "sidecar-" m 0 m.spec.sidecarContainers

def mariadbInitContainers (m : MariaDB) : List CoreV1.Container :=
  let initContainers := userContainers res ha clusterNameEnv "init-" m 0 m.spec.initContainers
  if ha.galeraEnabled then initContainers ++ [galeraInitContainer res ha g clusterNameEnv m]
  else initContainers

/-- `mariadbPodTemplate`: the spec of the pod template. -/
def mariadbPodTemplate (m : MariaDB) : PodSpec where
  automountServiceAccountToken := some false
  serviceAccountName := serviceAccount m.spec.serviceAccountName m.objectMeta.name
  initContainers := mariadbInitContainers res ha g clusterNameEnv m
  containers := mariadbContainers res ha g clusterNameEnv m
  volumes := mariadbVolumes ha m
  priorityClassName := priorityClass m.spec.priorityClassName

/-- `BuildMariadbStatefulSet`: the spec of the `StatefulSet`. -/
def buildMariadbStatefulSet (m : MariaDB) : StatefulSetSpec where
  replicas := m.spec.replicas
  podManagementPolicy := "Parallel"
  updateStrategy := statefulSetUpdateStrategy m.spec.updateStrategy
  template := mariadbPodTemplate res ha g clusterNameEnv m
  volumeClaimTemplates := mariadbVolumeClaimTemplates res ha m

theorem userContainers_names (namePrefix : String) (m : MariaDB) :
    ∀ (index : Nat) (containers : List V1alpha1.Container),
      (userContainers res ha clusterNameEnv namePrefix m index containers).map
          CoreV1.Container.name =
        (List.range' index containers.length).map (namePrefix ++ toString ·)
  | _, [] => rfl
  | index, _ :: rest => by
    simp only [userContainers, List.map_cons, List.length_cons, List.range'_succ]
    rw [userContainers_names namePrefix m (index + 1) rest]

/-- A container of the user is one of the user's, with its template's environment and mounts,
or the `mariadb` container's where the template gives none. -/
theorem mem_userContainers (namePrefix : String) (m : MariaDB) :
    ∀ (index : Nat) (containers : List V1alpha1.Container),
      ∀ c ∈ userContainers res ha clusterNameEnv namePrefix m index containers,
        ∃ user ∈ containers, c.env = user.containerTemplate.env.getD (mariadbEnv ha clusterNameEnv m) ∧
          c.volumeMounts = user.containerTemplate.volumeMounts.getD (mariadbVolumeMounts res ha m)
  | _, [] => by simp [userContainers]
  | index, container :: rest => by
    intro c hc
    simp only [userContainers, List.mem_cons] at hc
    rcases hc with rfl | hc
    · refine ⟨container, List.mem_cons_self _ _, ?_, ?_⟩
      · cases h : container.containerTemplate.env <;> simp [h, buildContainer]
      · cases h : container.containerTemplate.volumeMounts <;> simp [h, buildContainer]
    · obtain ⟨user, hu, h⟩ := mem_userContainers namePrefix m (index + 1) rest c hc
      exact ⟨user, List.mem_cons_of_mem _ hu, h⟩

/-- A container of the user mounts the `mariadb` container's mounts, or the ones it declares. -/
theorem userContainers_mounts (namePrefix : String) (m : MariaDB) :
    ∀ (index : Nat) (containers : List V1alpha1.Container),
      ∀ c ∈ userContainers res ha clusterNameEnv namePrefix m index containers,
        c.volumeMounts = mariadbVolumeMounts res ha m ∨
          ∃ user ∈ containers, user.containerTemplate.volumeMounts = some c.volumeMounts := by
  intro index containers c hc
  obtain ⟨user, hu, -, hmounts⟩ := mem_userContainers res ha clusterNameEnv namePrefix m index
    containers c hc
  cases h : user.containerTemplate.volumeMounts with
  | none => exact .inl (by simp [hmounts, h])
  | some mounts => exact .inr ⟨user, hu, by simp [hmounts, h]⟩

theorem mariadbPod_names (m : MariaDB) :
    let pod := mariadbPodTemplate res ha g clusterNameEnv m
    (pod.initContainers ++ pod.containers).map CoreV1.Container.name =
      (List.range' 0 m.spec.initContainers.length).map ("init-" ++ toString ·) ++
        (if ha.galeraEnabled then [InitContainerName] else []) ++ MariadbContainerName ::
        (if ha.galeraEnabled then [AgentContainerName] else []) ++
        (List.range' 0 m.spec.sidecarContainers.length).map ("sidecar-" ++ toString ·) := by
  simp only [mariadbPodTemplate, mariadbInitContainers, mariadbContainers]
  cases hgalera : ha.galeraEnabled <;>
    simp [userContainers_names, galeraInitContainer, galeraAgentContainer, mariadbContainer, hgalera]

example :
    let m : MariaDB := { (default : MariaDB) with
      spec.initContainers := [default], spec.sidecarContainers := [default, default] }
    let pod := mariadbPodTemplate ⟨"galera", "/galera"⟩ ⟨false, none, true, default, default⟩
      default "" m
    (pod.initContainers ++ pod.containers).map CoreV1.Container.name =
      ["init-0", "init", "mariadb", "agent", "sidecar-0", "sidecar-1"] := by
  decide

theorem mariadbInitContainers_mounts (m : MariaDB) :
    ∀ c ∈ mariadbInitContainers res ha g clusterNameEnv m,
      c.volumeMounts = mariadbVolumeMounts res ha m ∨
        ∃ user ∈ m.spec.initContainers, user.containerTemplate.volumeMounts = some c.volumeMounts := by
  intro c hc
  simp only [mariadbInitContainers] at hc
  split_ifs at hc with hgalera
  · rcases List.mem_append.mp hc with hc | hc
    · exact userContainers_mounts res ha clusterNameEnv _ m 0 _ c hc
    · rw [List.mem_singleton.mp hc]
      simp [galeraInitContainer, hgalera]
  · exact userContainers_mounts res ha clusterNameEnv _ m 0 _ c hc

theorem mariadbContainers_mounts (m : MariaDB) :
    ∀ c ∈ mariadbContainers res ha g clusterNameEnv m,
      c.volumeMounts = mariadbVolumeMounts res ha m ∨
        ∃ user ∈ m.spec.sidecarContainers,
          user.containerTemplate.volumeMounts = some c.volumeMounts := by
  intro c hc
  simp only [mariadbContainers, List.mem_append] at hc
  rcases hc with hc | hc
  · left
    split_ifs at hc <;> simp at hc <;> rcases hc with rfl | rfl <;>
      simp [mariadbContainer, galeraAgentContainer]
  · exact userContainers_mounts res ha clusterNameEnv _ m 0 _ c hc

/-- Every container of the MariaDB pod mounts only volumes the builders declare for the object
or the user declares, when the user's own mounts do. -/
theorem mariadbPod_mounts_resolve (m : MariaDB)
    (hmounts : ∀ mount ∈ m.spec.volumeMounts, mount.name ∈ m.spec.volumes.map Volume.name)
    (hcontainers : ∀ user ∈ m.spec.initContainers ++ m.spec.sidecarContainers,
      ∀ mounts, user.containerTemplate.volumeMounts = some mounts → ∀ mount ∈ mounts,
        mount.name ∈ builderVolumeNames res ha ++ m.spec.volumes.map Volume.name) :
    let pod := mariadbPodTemplate res ha g clusterNameEnv m
    ∀ c ∈ pod.initContainers ++ pod.containers, ∀ mount ∈ c.volumeMounts,
      mount.name ∈ builderVolumeNames res ha ++ m.spec.volumes.map Volume.name := by
  intro pod c hc
  have hkind : c.volumeMounts = mariadbVolumeMounts res ha m ∨
      ∃ user ∈ m.spec.initContainers ++ m.spec.sidecarContainers,
        user.containerTemplate.volumeMounts = some c.volumeMounts := by
    rcases List.mem_append.mp hc with hc | hc
    · rcases mariadbInitContainers_mounts res ha g clusterNameEnv m c hc with h | ⟨user, hu, h⟩
      · exact .inl h
      · exact .inr ⟨user, List.mem_append_left _ hu, h⟩
    · rcases mariadbContainers_mounts res ha g clusterNameEnv m c hc with h | ⟨user, hu, h⟩
      · exact .inl h
      · exact .inr ⟨user, List.mem_append_right _ hu, h⟩
  rcases hkind with h | ⟨user, hu, h⟩
  · exact h ▸ mariadbVolumeMounts_resolve res ha m hmounts
  · exact hcontainers user hu _ h

/-- The MariaDB `StatefulSet` is `PodWired` in every replication and Galera mode, whatever init
and sidecar containers the user adds, when the user's volumes have distinct names other than the
builders', every mount the user declares names one of the pod's volumes, and the Galera config
volume is named apart from the builders' other volumes. -/
theorem buildMariadbStatefulSet_podWired (m : MariaDB)
    (hres : res.galeraConfigVolume ∉ [ConfigVolume, ProbesVolume, ServiceAccountVolume, StorageVolume])
    (hnodup : (m.spec.volumes.map Volume.name).Nodup)
    (hreserved : ∀ v ∈ m.spec.volumes, v.name ∉ reservedVolumeNames res)
    (hmounts : ∀ mount ∈ m.spec.volumeMounts, mount.name ∈ m.spec.volumes.map Volume.name)
    (hcontainers : ∀ user ∈ m.spec.initContainers ++ m.spec.sidecarContainers,
      ∀ mounts, user.containerTemplate.volumeMounts = some mounts → ∀ mount ∈ mounts,
        mount.name ∈ builderVolumeNames res ha ++ m.spec.volumes.map Volume.name) :
    PodWired (buildMariadbStatefulSet res ha g clusterNameEnv m) where
  names_nodup := by
    have hindexed : ∀ (namePrefix : String) (n : Nat),
        ∀ x ∈ (List.range' 0 n).map (namePrefix ++ toString ·), ∃ index : Nat,
          x = namePrefix ++ toString index := fun _ _ x hx => by
      obtain ⟨index, -, rfl⟩ := List.mem_map.mp hx
      exact ⟨index, rfl⟩
    rw [buildMariadbStatefulSet, mariadbPod_names]
    exact podNames_nodup (hindexed _ _) (hindexed _ _) (indexedNames_nodup _ _ _)
      (indexedNames_nodup _ _ _) _
  storage_wired c hc := mariadbStorage_wired res ha m hres hnodup hreserved
    (mariadbPod_mounts_resolve res ha g clusterNameEnv m hmounts hcontainers c hc)

/-- A Galera pod with a volume of the user's, an init container of the user's that declares no
mounts, and a sidecar that mounts the user's volume. -/
theorem galera_pod_with_user_containers_wired :
    let res : GaleraResources := ⟨"galera", "/galera"⟩
    let ha : HAView := ⟨false, none, true, default, default⟩
    let sidecar : V1alpha1.Container :=
      ⟨{ (default : ContainerTemplate) with volumeMounts := some [⟨"data", "/backup"⟩] },
        "busybox", "IfNotPresent"⟩
    let m : MariaDB := { (default : MariaDB) with
      spec.volumes := [⟨"data", .other "hostPath"⟩], spec.volumeMounts := [⟨"data", "/data"⟩],
      spec.initContainers := [⟨default, "busybox", "IfNotPresent"⟩],
      spec.sidecarContainers := [sidecar] }
    PodWired (buildMariadbStatefulSet res ha default "" m) := by
  intro res ha sidecar m
  exact buildMariadbStatefulSet_podWired res ha default "" m (by decide) (by decide) (by decide)
    (by decide) (by simp [m, sidecar, ha, builderVolumeNames])

theorem userContainers_spec_args (namePrefix : String) (m : MariaDB) (args : List String) :
    ∀ (index : Nat) (containers : List V1alpha1.Container),
      userContainers res ha clusterNameEnv namePrefix { m with spec.args := args } index containers =
        userContainers res ha clusterNameEnv namePrefix m index containers
  | _, [] => rfl
  | index, _ :: rest => by
    rw [userContainers, userContainers_spec_args namePrefix m args (index + 1) rest]
    rfl

/-- The `args` of the MariaDB spec's container template reach no container of the pod: the
`mariadb` container's are replaced by `mariadbArgs`. The agent's template `args`, by contrast,
come first in its arguments. -/
theorem mariadb_spec_args_reach_no_container (m : MariaDB) (args : List String) :
    mariadbPodTemplate res ha g clusterNameEnv { m with spec.args := args } =
        mariadbPodTemplate res ha g clusterNameEnv m ∧
      List.IsPrefix g.agent.containerTemplate.args (galeraAgentContainer res ha g m).args := by
  refine ⟨?_, ?_⟩
  · simp only [mariadbPodTemplate, mariadbInitContainers, mariadbContainers,
      userContainers_spec_args]
    rfl
  simp only [galeraAgentContainer, buildContainer]
  split_ifs <;> simp

/-- The names `mariadbEnv` gives its own variables, before the user's `Env`. -/
def mariadbEnvNames (m : MariaDB) : List String :=
  ["MYSQL_TCP_PORT", "MARIADB_ROOT_HOST", "MYSQL_INITDB_SKIP_TZINFO", "CLUSTER_NAME", "POD_NAME",
      if m.isRootPasswordEmpty then "MARIADB_ALLOW_EMPTY_ROOT_PASSWORD"
      else "MARIADB_ROOT_PASSWORD"] ++
    if !ha.replicationEnabled then
      (m.spec.database.map fun _ => "MARIADB_DATABASE").toList ++
        (m.spec.username.map fun _ => "MARIADB_USER").toList ++
        (m.spec.passwordSecretKeyRef.map fun _ => "MARIADB_PASSWORD").toList
    else []

theorem mariadbEnv_names (m : MariaDB) :
    (mariadbEnv ha clusterNameEnv m).map EnvVar.name =
      mariadbEnvNames ha m ++ m.spec.env.map EnvVar.name := by
  simp only [mariadbEnv, mariadbEnvNames]
  split_ifs <;> simp [map_toList_optionMap, Function.comp_def]

theorem mariadbEnvNames_nodup (m : MariaDB) : (mariadbEnvNames ha m).Nodup := by
  unfold mariadbEnvNames
  cases m.isRootPasswordEmpty <;> cases ha.replicationEnabled <;>
    simp [List.nodup_append, List.disjoint_left, Option.toList_nodup]

/-- The `mariadb` environment repeats a name exactly when the user's `Env` repeats one or reuses
one of the builder's. -/
theorem mariadbEnv_names_nodup_iff (m : MariaDB) :
    ((mariadbEnv ha clusterNameEnv m).map EnvVar.name).Nodup ↔
      (m.spec.env.map EnvVar.name).Nodup ∧ ∀ e ∈ m.spec.env, e.name ∉ mariadbEnvNames ha m := by
  rw [mariadbEnv_names, List.nodup_append]
  constructor
  · rintro ⟨-, hnodup, hdisjoint⟩
    exact ⟨hnodup, fun e he hbuilder => hdisjoint hbuilder (List.mem_map_of_mem _ he)⟩
  · rintro ⟨hnodup, hreserved⟩
    refine ⟨mariadbEnvNames_nodup ha m, hnodup, fun name hbuilder huser => ?_⟩
    obtain ⟨e, he, rfl⟩ := List.mem_map.mp huser
    exact hreserved e he hbuilder

/-- Every container of the MariaDB pod has distinct variable names exactly when the user's `Env`
has distinct names other than the builder's, provided the environments the user's init and
sidecar containers and the Galera agent declare have distinct names themselves. -/
theorem mariadbPod_env_names_nodup_iff (m : MariaDB)
    (hcontainers : ∀ user ∈ m.spec.initContainers ++ m.spec.sidecarContainers,
      ∀ env, user.containerTemplate.env = some env → (env.map EnvVar.name).Nodup)
    (hagent : ∀ env, g.agent.containerTemplate.env = some env → (env.map EnvVar.name).Nodup) :
    let pod := mariadbPodTemplate res ha g clusterNameEnv m
    (∀ c ∈ pod.initContainers ++ pod.containers, (c.env.map EnvVar.name).Nodup) ↔
      (m.spec.env.map EnvVar.name).Nodup ∧ ∀ e ∈ m.spec.env, e.name ∉ mariadbEnvNames ha m := by
  intro pod
  rw [← mariadbEnv_names_nodup_iff ha clusterNameEnv m]
  constructor
  · intro h
    refine h (mariadbContainer res ha g clusterNameEnv m) (List.mem_append_right _ ?_)
    simp only [pod, mariadbPodTemplate, mariadbContainers]
    split_ifs <;> simp
  · intro hmariadb c hc
    have huser : ∀ namePrefix containers, (∀ user ∈ containers, user ∈ m.spec.initContainers ++
        m.spec.sidecarContainers) →
        ∀ c ∈ userContainers res ha clusterNameEnv namePrefix m 0 containers,
          (c.env.map EnvVar.name).Nodup := by
      intro namePrefix containers hsub c hc
      obtain ⟨user, hu, henv, -⟩ := mem_userContainers res ha clusterNameEnv namePrefix m 0
        containers c hc
      rw [henv]
      cases h : user.containerTemplate.env with
      | none => exact hmariadb
      | some env => exact hcontainers user (hsub user hu) env h
    simp only [pod, mariadbPodTemplate, mariadbInitContainers, mariadbContainers,
      List.mem_append] at hc
    rcases hc with hc | hc | hc
    · split_ifs at hc with hgalera
      · rcases List.mem_append.mp hc with hc | hc
        · exact huser _ _ (fun _ hu => List.mem_append_left _ hu) c hc
        · rw [List.mem_singleton.mp hc]
          simpa [galeraInitContainer, hgalera] using hmariadb
      · exact huser _ _ (fun _ hu => List.mem_append_left _ hu) c hc
    · split_ifs at hc <;> simp only [List.mem_append, List.mem_singleton] at hc <;>
        rcases hc with rfl | rfl
      · exact hmariadb
      · simp only [galeraAgentContainer, buildContainer]
        cases h : g.agent.containerTemplate.env with
        | none => exact List.nodup_nil
        | some env => exact hagent env h
      · exact hmariadb
    · exact huser _ _ (fun _ hu => List.mem_append_right _ hu) c hc

end Containers

/-- A Galera pod whose `mariadb` spec sets `TZ`, with an init container of the user's that
declares no environment. -/
theorem galera_pod_env_names_distinct_iff :
    let res : GaleraResources := ⟨"galera", "/galera"⟩
    let ha : HAView := ⟨false, none, true, default, default⟩
    let m : MariaDB := { (default : MariaDB) with
      spec.env := [⟨"TZ", "UTC", none⟩], spec.initContainers := [⟨default, "busybox", "IfNotPresent"⟩] }
    let pod := mariadbPodTemplate res ha default "" m
    (∀ user ∈ m.spec.initContainers ++ m.spec.sidecarContainers,
        ∀ env, user.containerTemplate.env = some env → (env.map EnvVar.name).Nodup) ∧
      (∀ env, (default : GaleraContainersView).agent.containerTemplate.env = some env →
        (env.map EnvVar.name).Nodup) ∧
      ((∀ c ∈ pod.initContainers ++ pod.containers, (c.env.map EnvVar.name).Nodup) ↔
        (m.spec.env.map EnvVar.name).Nodup ∧ ∀ e ∈ m.spec.env, e.name ∉ mariadbEnvNames ha m) := by
  intro res ha m pod
  have hcontainers : ∀ user ∈ m.spec.initContainers ++ m.spec.sidecarContainers,
      ∀ env, user.containerTemplate.env = some env → (env.map EnvVar.name).Nodup := by
    intro user hu env h
    have hinit : m.spec.initContainers ++ m.spec.sidecarContainers =
        [⟨default, "busybox", "IfNotPresent"⟩] := rfl
    rw [hinit, List.mem_singleton] at hu
    subst hu
    cases h
  have hagent : ∀ env, (default : GaleraContainersView).agent.containerTemplate.env = some env →
      (env.map EnvVar.name).Nodup := fun _ h => nomatch h
  exact ⟨hcontainers, hagent, mariadbPod_env_names_nodup_iff res ha default "" m hcontainers hagent⟩

/-- What the MaxScale pod builders read of a `MaxScale` besides its storage; the type is declared
outside the source. -/
structure MaxScalePodView extends MaxScaleView where
  name : String
  image : String
  imagePullPolicy : String
  containerTemplate : ContainerTemplate
  livenessProbe : Option Probe
  readinessProbe : Option Probe
  serviceAccountName : Option String
  priorityClassName : Option String
  replicas : Int
  updateStrategy : Option StatefulSetUpdateStrategy

/-- `maxscaleContainers`, whose error is always nil. -/
def maxscaleContainers (mxs : MaxScalePodView) : List CoreV1.Container :=
  let tpl := mxs.containerTemplate
  let container := buildContainer mxs.image mxs.imagePullPolicy tpl
  [{ container with
    name := MaxScaleContainerName
    command := ["maxscale"]
    args := ["--config", MaxscaleConfigMountPath ++ "/" ++ mxs.configSecretKeyRef.key, "-dU",
      "maxscale", "-l", "stdout"] ++ tpl.args
    ports := [⟨MaxScaleAdminPortName, mxs.adminPort⟩]
    volumeMounts := maxscaleVolumeMounts mxs.toMaxScaleView
    livenessProbe := some (maxscaleProbe mxs.toMaxScaleView mxs.livenessProbe)
    readinessProbe := some (maxscaleProbe mxs.toMaxScaleView mxs.readinessProbe) }]

def maxscalePodTemplate (mxs : MaxScalePodView) : PodSpec where
  automountServiceAccountToken := some false
  serviceAccountName := serviceAccount mxs.serviceAccountName mxs.name
  initContainers := []
  containers := maxscaleContainers mxs
  volumes := maxscaleVolumes mxs.toMaxScaleView
  priorityClassName := priorityClass mxs.priorityClassName

/-- `BuildMaxscaleStatefulSet`: the spec of the `StatefulSet`. -/
def buildMaxscaleStatefulSet (mxs : MaxScalePodView) : StatefulSetSpec where
  replicas := mxs.replicas
  podManagementPolicy := "Parallel"
  updateStrategy := statefulSetUpdateStrategy mxs.updateStrategy
  template := maxscalePodTemplate mxs
  volumeClaimTemplates := maxscaleVolumeClaimTemplates mxs.toMaxScaleView

/-- The MaxScale `StatefulSet` is `PodWired` when the user's volumes have distinct names other
than the builders' and the user's mounts name them. It has no init container, and its one
container reads its configuration from the key of the config secret, in the directory where that
secret is mounted. -/
theorem buildMaxscaleStatefulSet_podWired (mxs : MaxScalePodView)
    (hnodup : (mxs.volumes.map Volume.name).Nodup)
    (hreserved : ∀ v ∈ mxs.volumes, v.name ∉ [ConfigVolume, StorageVolume])
    (hmounts : ∀ mount ∈ mxs.volumeMounts, mount.name ∈ mxs.volumes.map Volume.name) :
    let sts := buildMaxscaleStatefulSet mxs
    PodWired sts ∧ sts.template.initContainers = [] ∧ ∃ c, sts.template.containers = [c] ∧
      List.IsPrefix ["--config", MaxscaleConfigMountPath ++ "/" ++ mxs.configSecretKeyRef.key]
        c.args ∧
      ⟨ConfigVolume, MaxscaleConfigMountPath⟩ ∈ c.volumeMounts ∧
      ⟨ConfigVolume, .secret mxs.configSecretKeyRef.name⟩ ∈ sts.template.volumes := by
  intro sts
  refine ⟨⟨by simp [sts, buildMaxscaleStatefulSet, maxscalePodTemplate, maxscaleContainers,
      MaxScaleContainerName], fun c hc => ?_⟩, rfl, _, rfl, ?_, ?_, ?_⟩
  · simp only [sts, buildMaxscaleStatefulSet, maxscalePodTemplate, maxscaleContainers,
      List.nil_append, List.mem_singleton] at hc
    subst hc
    exact maxscaleStorage_wired _ hnodup hreserved (maxscaleVolumeMounts_resolve _ hmounts)
  · exact List.prefix_append _ _
  · simp [maxscaleVolumeMounts]
  · simp [sts, buildMaxscaleStatefulSet, maxscalePodTemplate, maxscaleVolumes]

/-- A MaxScale pod mounting a certificate volume of the user's. -/
theorem maxscale_statefulset_with_user_volume_wired :
    let mxs : MaxScalePodView :=
      { toMaxScaleView := ⟨default, ⟨"maxscale-config", "maxscale.cnf", none⟩,
          [⟨"certs", .secret "maxscale-certs"⟩], [⟨"certs", "/etc/certs"⟩], 8989⟩
        name := "maxscale", image := "mariadb/maxscale:23.08", imagePullPolicy := "IfNotPresent",
        containerTemplate := default, livenessProbe := none, readinessProbe := none,
        serviceAccountName := none, priorityClassName := none, replicas := 2,
        updateStrategy := none }
    let sts := buildMaxscaleStatefulSet mxs
    PodWired sts ∧ sts.template.initContainers = [] ∧ ∃ c, sts.template.containers = [c] ∧
      List.IsPrefix ["--config", MaxscaleConfigMountPath ++ "/" ++ mxs.configSecretKeyRef.key]
        c.args ∧
      ⟨ConfigVolume, MaxscaleConfigMountPath⟩ ∈ c.volumeMounts ∧
      ⟨ConfigVolume, .secret mxs.configSecretKeyRef.name⟩ ∈ sts.template.volumes := by
  intro mxs sts
  exact buildMaxscaleStatefulSet_podWired mxs (by decide) (by decide) (by decide)

end MariaDBOperator.Builder
