/-!
The `k8s.io/api/core/v1` and `k8s.io/api/apps/v1` types the modelled code reads or builds, with
the fields it sets or looks at. A union type of the API (a volume source, a probe action, an environment source) is an
inductive with one constructor per member the code builds; `VolumeSource.other` stands for the
members only a user writes, which the code passes through without looking inside.

Go maps (labels, annotations) are association lists, and `int32` fields are `Int`: no modelled
code does arithmetic on them.
-/

namespace MariaDBOperator.CoreV1

/-- `corev1.SecretKeySelector`; `name` is its `LocalObjectReference.Name`. -/
structure SecretKeySelector where
  name : String
  key : String
  optional : Option Bool
  deriving DecidableEq, Repr, Inhabited

structure ConfigMapKeySelector where
  name : String
  key : String
  optional : Option Bool
  deriving DecidableEq, Repr, Inhabited

/-- `corev1.ObjectReference`: the fields `SetDefaults` writes. -/
structure ObjectReference where
  name : String
  «namespace» : String
  deriving DecidableEq, Repr, Inhabited

structure LocalObjectReference where
  name : String
  deriving DecidableEq, Repr, Inhabited

structure KeyToPath where
  key : String
  path : String
  deriving DecidableEq, Repr

/-- `corev1.DownwardAPIVolumeFile`, with the `FieldRef` it is built with. -/
structure DownwardAPIVolumeFile where
  fieldPath : String
  path : String
  deriving DecidableEq, Repr

inductive VolumeProjection where
  | serviceAccountToken (path : String)
  | configMap (name : String) (items : List KeyToPath)
  | downwardAPI (items : List DownwardAPIVolumeFile)
  deriving DecidableEq, Repr

inductive VolumeSource where
  | emptyDir
  | persistentVolumeClaim (claimName : String)
  | configMap (name : String) (items : List KeyToPath) (defaultMode : Option Int)
  | secret (secretName : String)
  | projected (sources : List VolumeProjection)
  /-- Any other source, by its kind (`hostPath`, `nfs`, ...). -/
  | other (kind : String)
  deriving DecidableEq, Repr, Inhabited

structure Volume where
  name : String
  volumeSource : VolumeSource
  deriving DecidableEq, Repr, Inhabited

structure VolumeMount where
  name : String
  mountPath : String
  deriving DecidableEq, Repr, Inhabited

/-- `corev1.PersistentVolumeClaimSpec`, which the code copies from a template and never reads:
the access modes, the storage class and the requested storage. -/
structure PersistentVolumeClaimSpec where
  accessModes : List String
  storageClassName : Option String
  storage : String
  deriving DecidableEq, Repr, Inhabited

/-- `corev1.PersistentVolumeClaim`: the metadata the builder sets, and the spec. -/
structure PersistentVolumeClaim where
  name : String
  labels : List (String × String)
  annotations : List (String × String)
  spec : PersistentVolumeClaimSpec
  deriving DecidableEq, Repr

inductive ProbeHandler where
  | exec (command : List String)
  | httpGet (path : String) (port : Int)
  deriving DecidableEq, Repr, Inhabited

/-- `corev1.Probe`: the action and the five timings, `0` being Go's unset value. -/
structure Probe where
  probeHandler : ProbeHandler
  initialDelaySeconds : Int
  timeoutSeconds : Int
  periodSeconds : Int
  successThreshold : Int
  failureThreshold : Int
  deriving DecidableEq, Repr, Inhabited

inductive EnvVarSource where
  | fieldRef (fieldPath : String)
  | secretKeyRef (selector : SecretKeySelector)
  deriving DecidableEq, Repr

structure EnvVar where
  name : String
  value : String
  valueFrom : Option EnvVarSource
  deriving DecidableEq, Repr

structure ContainerPort where
  name : String
  containerPort : Int
  deriving DecidableEq, Repr

/-- `corev1.SecurityContext`: the user the agent container runs as. -/
structure SecurityContext where
  runAsUser : Option Int
  deriving DecidableEq, Repr

/-- `corev1.Container`: the fields the builders set or copy from a template. The compute
resources and `EnvFrom` are copied from the template and never read. -/
structure Container where
  name : String
  image : String
  imagePullPolicy : String
  command : List String
  args : List String
  env : List EnvVar
  ports : List ContainerPort
  volumeMounts : List VolumeMount
  livenessProbe : Option Probe
  readinessProbe : Option Probe
  securityContext : Option SecurityContext
  deriving DecidableEq, Repr, Inhabited

/-- `corev1.PodSpec`: the fields the builders compute. The ones copied from the `PodTemplate`
unread (security context, affinity, node selector, tolerations, topology spread) are left out. -/
structure PodSpec where
  automountServiceAccountToken : Option Bool
  serviceAccountName : String
  initContainers : List Container
  containers : List Container
  volumes : List Volume
  priorityClassName : String
  deriving DecidableEq, Repr

end MariaDBOperator.CoreV1

namespace MariaDBOperator.AppsV1

open CoreV1

/-- `appsv1.StatefulSetUpdateStrategy`: its type. The rolling-update parameters are copied with
it and never read. -/
structure StatefulSetUpdateStrategy where
  type : String
  deriving DecidableEq, Repr

/-- `appsv1.StatefulSetSpec`: the fields the builders set, with the pod template's spec. The
selector and the service name come from builders declared outside the source. -/
structure StatefulSetSpec where
  replicas : Int
  podManagementPolicy : String
  updateStrategy : StatefulSetUpdateStrategy
  template : PodSpec
  volumeClaimTemplates : List PersistentVolumeClaim
  deriving DecidableEq, Repr

end MariaDBOperator.AppsV1
