import MariaDBOperator.Builder.PodTemplate

/-!
Which StatefulSets the Galera reconciler hears of. `SetupWithManager` filters StatefulSet events by
the presence of two annotations, the MariaDB marker and the Galera marker, and the builder puts
`mariadbHAAnnotations` on every StatefulSet it builds for a MariaDB. The annotation keys of
`pkg/metadata`, and `PredicateWithAnnotations`, are declared outside the source: the keys are a
parameter, and the predicate follows the spec's words ("presence of" both markers).

Only the builder's own annotations are read here; the metadata builder it hands them to is
declared outside the source too.
-/

namespace MariaDBOperator.Builder

open V1alpha1

/-- `MariadbAnnotation`, `ReplicationAnnotation` and `GaleraAnnotation` of `pkg/metadata`. -/
structure AnnotationKeys where
  mariadb : String
  replication : String
  galera : String
  deriving DecidableEq, Repr

/-- `IsHAEnabled`, through what `Replication()` and `Galera()` return. -/
def HAView.isHAEnabled (ha : HAView) : Bool :=
  ha.replicationEnabled || ha.galeraEnabled

/-- `mariadbHAAnnotations`, a Go map read key by key: the nil map without HA, otherwise the
MariaDB marker with the object's name and a marker per enabled mode. -/
def mariadbHAAnnotations (keys : AnnotationKeys) (ha : HAView) (m : MariaDB) :
    String → Option String :=
  if ha.isHAEnabled then
    let annotations : String → Option String :=
      Function.update (fun _ => none) keys.mariadb (some m.objectMeta.name)
    let annotations :=
      if ha.replicationEnabled then Function.update annotations keys.replication (some "")
      else annotations
    if ha.galeraEnabled then Function.update annotations keys.galera (some "") else annotations
  else fun _ => none

end MariaDBOperator.Builder

namespace MariaDBOperator.Controller

open Builder V1alpha1

/-- Modelled from the spec: `predicate.PredicateWithAnnotations` is declared outside the source.
An object passes when it carries every one of the keys. -/
def predicateWithAnnotations (required : List String) (annotations : String → Option String) :
    Bool :=
  required.all fun key => (annotations key).isSome

/-- The event filter `SetupWithManager` installs. -/
def galeraEventFilter (keys : AnnotationKeys) : (String → Option String) → Bool :=
  predicateWithAnnotations [keys.mariadb, keys.galera]

/-- The builder's annotations pass the Galera reconciler's filter exactly when Galera is enabled,
and carry the replication marker exactly when replication is: nothing in the builder keeps a
MariaDB to one mode, so one with both enabled is marked for both. -/
theorem galeraEventFilter_mariadbHAAnnotations (keys : AnnotationKeys)
    (hkeys : keys.galera ≠ keys.mariadb ∧ keys.galera ≠ keys.replication ∧
      keys.replication ≠ keys.mariadb)
    (ha : HAView) (m : MariaDB) :
    galeraEventFilter keys (mariadbHAAnnotations keys ha m) = ha.galeraEnabled ∧
      (mariadbHAAnnotations keys ha m keys.replication).isSome = ha.replicationEnabled := by
  obtain ⟨hgm, hgr, hrm⟩ := hkeys
  unfold galeraEventFilter predicateWithAnnotations mariadbHAAnnotations HAView.isHAEnabled
  cases ha.replicationEnabled <;> cases ha.galeraEnabled <;>
    simp [Function.update, hgm, hgr, hrm, hgm.symm, hgr.symm, hrm.symm]

end MariaDBOperator.Controller
