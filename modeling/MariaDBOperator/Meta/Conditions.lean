import Mathlib.Data.List.Nodup

/-!
Status conditions as `k8s.io/apimachinery/pkg/api/meta` keeps them: a list with at most one
entry per type, written by `SetStatusCondition` and read by `FindStatusCondition` and
`IsStatusConditionPresentAndEqual`. The operator's `SetCondition` methods delegate here.

A condition list is an ordered map keyed by type. `find_setStatusCondition` says that a write
refines `Function.update` on that map, `types_setStatusCondition` that it keeps the order of the
keys and only appends a new one, and the run lemmas carry both along any sequence of writes.
-/

namespace MariaDBOperator.Meta

/-- `metav1.Condition`. The transition time counts seconds from Go's zero time, the resolution its
JSON form keeps, so `IsZero` is `= 0`. -/
structure Condition where
  type : String
  status : String
  observedGeneration : Int
  lastTransitionTime : Int
  reason : String
  message : String
  deriving DecidableEq, Repr

/-- `metav1.ConditionTrue`. -/
def ConditionTrue : String := "True"

/-- `metav1.ConditionFalse`. -/
def ConditionFalse : String := "False"

/-- `FindStatusCondition`: the first condition of the type. -/
def findStatusCondition : List Condition → String → Option Condition
  | [], _ => none
  | c :: cs, conditionType =>
      if c.type = conditionType then some c else findStatusCondition cs conditionType

/-- `IsStatusConditionPresentAndEqual`: the first condition of the type has the status. -/
def isStatusConditionPresentAndEqual (conditions : List Condition)
    (conditionType status : String) : Bool :=
  match findStatusCondition conditions conditionType with
  | some c => c.status = status
  | none => false

def isStatusConditionTrue (conditions : List Condition) (conditionType : String) : Bool :=
  isStatusConditionPresentAndEqual conditions conditionType ConditionTrue

def isStatusConditionFalse (conditions : List Condition) (conditionType : String) : Bool :=
  isStatusConditionPresentAndEqual conditions conditionType ConditionFalse

/-- The transition time `SetStatusCondition` writes: the new condition's own, or the clock
reading `now` when that is zero. -/
def Condition.transitionTime (now : Int) (c : Condition) : Int :=
  if c.lastTransitionTime = 0 then now else c.lastTransitionTime

/-- The condition `SetStatusCondition` appends when none of its type exists. -/
def Condition.stamp (now : Int) (c : Condition) : Condition :=
  { c with lastTransitionTime := c.transitionTime now }

/-- The existing condition after `SetStatusCondition` copied the new one onto it. The transition
time moves only when the status changes. -/
def Condition.update (now : Int) (existing newCondition : Condition) : Condition :=
  { existing with
    status := newCondition.status
    lastTransitionTime :=
      if existing.status = newCondition.status then existing.lastTransitionTime
      else newCondition.transitionTime now
    reason := newCondition.reason
    message := newCondition.message
    observedGeneration := newCondition.observedGeneration }

/-- `SetStatusCondition`. `FindStatusCondition` returns a pointer to the first condition of the
new type, which is updated in place; without one the new condition is appended. The recursion is
that search with the update done where it stops. -/
def setStatusCondition (now : Int) (newCondition : Condition) : List Condition → List Condition
  | [] => [newCondition.stamp now]
  | c :: cs =>
      if c.type = newCondition.type then c.update now newCondition :: cs
      else c :: setStatusCondition now newCondition cs

/-- A sequence of `SetStatusCondition` calls on one list, each with the clock reading it saw. -/
def setStatusConditions (conditions : List Condition) (calls : List (Condition × Int)) :
    List Condition :=
  calls.foldl (fun cs call => setStatusCondition call.2 call.1 cs) conditions

/-- The last call of a type in a sequence of condition writes. -/
def lastOfType (calls : List (Condition × Int)) (conditionType : String) : Option Condition :=
  ((calls.map Prod.fst).reverse.find? (·.type = conditionType))

/-- The condition `e` carries what the write `c` set: everything but the transition time. -/
def Condition.Records (e c : Condition) : Prop :=
  e.type = c.type ∧ e.status = c.status ∧ e.reason = c.reason ∧ e.message = c.message ∧
    e.observedGeneration = c.observedGeneration

/-- The write `SetStatusCondition` makes to the keyed view: the first condition of the type
updated, or the stamped new one. -/
def written (now : Int) (newCondition : Condition) (conditions : List Condition) : Condition :=
  match findStatusCondition conditions newCondition.type with
  | some existing => existing.update now newCondition
  | none => newCondition.stamp now

section Lemmas

variable (now : Int) (c : Condition)

@[simp] theorem update_type (e : Condition) : (e.update now c).type = e.type := rfl

@[simp] theorem stamp_type : (c.stamp now).type = c.type := rfl

theorem find_some_type {l : List Condition} {t : String} {e : Condition}
    (h : findStatusCondition l t = some e) : e.type = t := by
  induction l with
  | nil => cases h
  | cons d l ih =>
      simp only [findStatusCondition] at h
      split at h
      · cases h
        assumption
      · exact ih h

theorem find_eq_none_iff (l : List Condition) (t : String) :
    findStatusCondition l t = none ↔ t ∉ l.map Condition.type := by
  induction l with
  | nil => simp [findStatusCondition]
  | cons d l ih =>
      simp only [findStatusCondition, List.map_cons, List.mem_cons]
      split <;> simp_all [eq_comm]

theorem written_records (l : List Condition) : (written now c l).Records c := by
  unfold written
  split
  · rename_i e he
    have htype := find_some_type he
    exact ⟨htype, rfl, rfl, rfl, rfl⟩
  · exact ⟨rfl, rfl, rfl, rfl, rfl⟩

/-- A write replaces the entry of its own type in the keyed view and no other. -/
theorem find_setStatusCondition (l : List Condition) (t : String) :
    findStatusCondition (setStatusCondition now c l) t =
      if c.type = t then some (written now c l) else findStatusCondition l t := by
  induction l with
  | nil => by_cases h : c.type = t <;> simp [setStatusCondition, findStatusCondition, written, h]
  | cons d l ih =>
      by_cases hd : d.type = c.type
      · by_cases h : c.type = t <;>
          simp [setStatusCondition, findStatusCondition, written, hd, h]
      · simp only [setStatusCondition, hd, if_false, findStatusCondition, ih, written]
        by_cases h : c.type = t
        · simp [h, show d.type ≠ t from h ▸ hd]
        · simp [h]

/-- A write keeps the order of the existing types and appends a new one at the end. -/
theorem types_setStatusCondition (l : List Condition) :
    (setStatusCondition now c l).map Condition.type =
      if c.type ∈ l.map Condition.type then l.map Condition.type
      else l.map Condition.type ++ [c.type] := by
  induction l with
  | nil => simp [setStatusCondition]
  | cons d l ih =>
      by_cases hd : d.type = c.type
      · simp [setStatusCondition, hd]
      · have hne : c.type ≠ d.type := Ne.symm hd
        simp only [setStatusCondition, hd, if_false, List.map_cons, ih, List.mem_cons, hne,
          false_or]
        split <;> simp

theorem nodup_setStatusCondition {l : List Condition} (hl : (l.map Condition.type).Nodup) :
    ((setStatusCondition now c l).map Condition.type).Nodup := by
  rw [types_setStatusCondition]
  split
  · exact hl
  · rename_i hmem
    simpa using hl.concat hmem

/-- With one entry per type, a write updates that entry in place and leaves every other entry,
and the order of all of them, as it was. -/
theorem setStatusCondition_of_mem {l : List Condition} (hl : (l.map Condition.type).Nodup)
    (hmem : c.type ∈ l.map Condition.type) :
    setStatusCondition now c l =
      l.map fun e => if e.type = c.type then e.update now c else e := by
  induction l with
  | nil => simp at hmem
  | cons d l ih =>
      rw [List.map_cons, List.nodup_cons] at hl
      by_cases hd : d.type = c.type
      · have hrest : ∀ e ∈ l, e.type ≠ c.type := fun e he h =>
          hl.1 (hd ▸ h ▸ List.mem_map_of_mem Condition.type he)
        simp only [setStatusCondition, hd, if_true, List.map_cons, List.cons.injEq, true_and]
        exact (List.map_congr_left fun e he => if_neg (hrest e he)).trans (List.map_id' l) |>.symm
      · have hmem' : c.type ∈ l.map Condition.type := by
          simpa [Ne.symm hd] using hmem
        simp [setStatusCondition, hd, ih hl.2 hmem']

theorem setStatusCondition_of_not_mem {l : List Condition}
    (hmem : c.type ∉ l.map Condition.type) :
    setStatusCondition now c l = l ++ [c.stamp now] := by
  induction l with
  | nil => rfl
  | cons d l ih =>
      have hd : d.type ≠ c.type := fun h => hmem (by simp [h])
      simp [setStatusCondition, hd, ih (by simpa [Ne.symm hd] using hmem)]

/-- The transition time of an entry moves only on a write of its type that changes its status. -/
theorem transitionTime_moves_only_on_status_change {l : List Condition} {t : String}
    {e e' : Condition} (he : findStatusCondition l t = some e)
    (he' : findStatusCondition (setStatusCondition now c l) t = some e')
    (hmoved : e'.lastTransitionTime ≠ e.lastTransitionTime) :
    c.type = t ∧ c.status ≠ e.status := by
  rw [find_setStatusCondition] at he'
  by_cases h : c.type = t
  · subst h
    simp only [if_true, written, he, Option.some.injEq] at he'
    subst he'
    refine ⟨rfl, fun hs => hmoved ?_⟩
    simp [Condition.update, hs]
  · simp only [h, if_false, he, Option.some.injEq] at he'
    exact absurd (congrArg Condition.lastTransitionTime he'.symm) hmoved

end Lemmas

theorem setStatusConditions_append (l : List Condition) (pre : List (Condition × Int))
    (call : Condition × Int) :
    setStatusConditions l (pre ++ [call]) =
      setStatusCondition call.2 call.1 (setStatusConditions l pre) := by
  simp [setStatusConditions]

theorem lastOfType_append (pre : List (Condition × Int)) (call : Condition × Int) (t : String) :
    lastOfType (pre ++ [call]) t = if call.1.type = t then some call.1 else lastOfType pre t := by
  simp only [lastOfType, List.map_append, List.map_cons, List.map_nil, List.reverse_append,
    List.reverse_cons, List.reverse_nil, List.nil_append, List.singleton_append, List.find?_cons]
  by_cases h : call.1.type = t <;> simp [h]

/-- Types stay pairwise distinct along every sequence of writes. -/
theorem nodup_setStatusConditions {l : List Condition} (hl : (l.map Condition.type).Nodup)
    (calls : List (Condition × Int)) :
    ((setStatusConditions l calls).map Condition.type).Nodup := by
  induction calls using List.reverseRecOn with
  | nil => exact hl
  | append_singleton pre call ih =>
      rw [setStatusConditions_append]
      exact nodup_setStatusCondition _ _ ih

/-- Last writer wins: the entry of a type records the last write of that type, and a type never
written keeps its initial entry. -/
theorem find_setStatusConditions (l : List Condition) (calls : List (Condition × Int))
    (t : String) :
    match lastOfType calls t with
    | some c => ∃ e, findStatusCondition (setStatusConditions l calls) t = some e ∧ e.Records c
    | none => findStatusCondition (setStatusConditions l calls) t = findStatusCondition l t := by
  induction calls using List.reverseRecOn with
  | nil => rfl
  | append_singleton pre call ih =>
      rw [setStatusConditions_append, lastOfType_append, find_setStatusCondition]
      by_cases h : call.1.type = t
      · simp only [h, if_true]
        exact ⟨_, rfl, written_records _ _ _⟩
      · simpa only [h, if_false] using ih

/-- The status a reader sees for a type is the one of the last write of that type. -/
theorem isStatusConditionPresentAndEqual_setStatusConditions (l : List Condition)
    (calls : List (Condition × Int)) (t status : String) :
    isStatusConditionPresentAndEqual (setStatusConditions l calls) t status =
      match lastOfType calls t with
      | some c => decide (c.status = status)
      | none => isStatusConditionPresentAndEqual l t status := by
  have hfind := find_setStatusConditions l calls t
  unfold isStatusConditionPresentAndEqual
  split at hfind
  · obtain ⟨e, he, -, hstatus, -⟩ := hfind
    simp [he, hstatus]
  · rw [hfind]

end MariaDBOperator.Meta
