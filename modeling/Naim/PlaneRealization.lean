import Naim.Planner
import Naim.RuntimeSupport
import Naim.SchedulingPolicy
import Mathlib.Data.List.ReduceOption

/-!
# Handing a generation to the hosts

`PlaneRealizationService::BuildHostAssignments` queues the slices of a stored
generation for the nodes that take work. The table then supersedes what the plane
had queued before, unless no node takes work.
-/

namespace Naim.PlaneRealization

open Rows Checked Assignments SchedulerExecution RuntimeSupport SchedulingPolicy List

def buildRolloutActionsByTargetNode (report : SchedulingPolicyReport) :
    List (String × List SchedulerRolloutAction) :=
  report.rolloutActions.foldl (fun byNode action =>
    Assoc.set byNode action.targetNodeName ((byNode.lookup action.targetNodeName).getD [] ++ [action])) []

def rolloutMessage (nodeName : String) (actions : List SchedulerRolloutAction) : String :=
  "scheduler rollout actions pending on target node " ++ nodeName ++ " for workers " ++
    ",".intercalate (sortedSet ((actions.map (·.workerName)).filter (· ≠ "")))

def nodeStatusMessage (byNode : List (String × List SchedulerRolloutAction)) (nodeName : String) : String :=
  match byNode.lookup nodeName with
  | none => ""
  | some actions => if actions = [] then "" else rolloutMessage nodeName actions

section Realization

variable (serializeDesiredStateJson : DesiredState → String) (clock : Clock) (defaultStaleAfterSeconds : ℤ)
variable (overrides : List NodeAvailabilityOverride) (observations : List HostObservation)

def takesWork (nodeName : String) : Checked Bool :=
  if isNodeSchedulable (resolveNodeAvailability (buildAvailabilityOverrideMap overrides) nodeName) then
    Option.isNone <$> observedSchedulingGateReason clock observations nodeName defaultStaleAfterSeconds
  else .ok false

def buildHostAssignment (state : DesiredState) (artifactsRoot : String) (desiredGeneration : ℤ)
    (byNode : List (String × List SchedulerRolloutAction)) (nodeName : String) :
    Checked (Option HostAssignment) := do
  if !(← takesWork clock defaultStaleAfterSeconds overrides observations nodeName) then return none
  let slice ← sliceDesiredStateForNode state nodeName
  return some {
    nodeName, planeName := state.planeName, desiredGeneration, assignmentType := "apply-node-state"
    desiredStateJson := serializeDesiredStateJson slice, artifactsRoot, status := .pending
    statusMessage := nodeStatusMessage byNode nodeName}

def buildHostAssignments (state : DesiredState) (artifactsRoot : String) (desiredGeneration : ℤ)
    (report : Option SchedulingPolicyReport) : Checked (List HostAssignment) := do
  let byNode := (report.map buildRolloutActionsByTargetNode).getD []
  let rounds ← state.nodes.mapM fun node =>
    buildHostAssignment serializeDesiredStateJson clock defaultStaleAfterSeconds overrides observations state
      artifactsRoot desiredGeneration byNode node.name
  return rounds.reduceOption

end Realization

/-- No host can claim an assignment of the plane for a generation before this one. -/
def Retired (planeName : String) (generation : ℤ) (t : Table) : Prop :=
  ∀ r ∈ t.rows, r.planeName = planeName → r.desiredGeneration < generation → r.isLive = false

instance (planeName : String) (generation : ℤ) (t : Table) : Decidable (Retired planeName generation t) :=
  inferInstanceAs (Decidable (∀ r ∈ t.rows, _ → _ → _))

variable {planeName reason : String} {generation now : ℤ} {t : Table}

variable {a : HostAssignment} {l assignments : List HostAssignment}

lemma retired_foldl_insert (hl : ∀ a ∈ l, generation ≤ a.desiredGeneration) :
    Retired planeName generation (l.foldl (insertAssignment now) t) ↔ Retired planeName generation t := by
  induction l generalizing t with
  | nil => rfl
  | cons a l ih =>
    rw [forall_mem_cons] at hl
    rw [foldl_cons,ih hl.2]
    simp only [Retired,insertAssignment,forall_mem_append,forall_mem_singleton]
    refine and_iff_left fun _ hlt => ?_
    have hgeneration : (newRow now t.nextId a).desiredGeneration = a.desiredGeneration := rfl
    omega

lemma retired_supersedePlane (message : String) :
    Retired planeName generation (supersedeHostAssignmentsForPlane now t planeName message) := by
  intro r hr hplane _
  obtain ⟨r₀,-,rfl⟩ := mem_updateWhere.1 hr
  by_cases hlive : (decide (r₀.planeName = planeName) && r₀.isLive) = true
  · rw [if_pos hlive]
    rfl
  · rw [if_neg hlive] at hplane ⊢
    simpa [hplane] using hlive

lemma retired_replace_iff (hl : ∀ a ∈ l, a.planeName = planeName ∧ a.desiredGeneration = generation) :
    Retired planeName generation (replaceHostAssignments now t l) ↔ l ≠ [] ∨ Retired planeName generation t := by
  cases l with
  | nil => simp [replaceHostAssignments]
  | cons front rest =>
    have hfront := (hl front mem_cons_self).1
    simp only [ne_eq,reduceCtorEq,not_false_eq_true,true_or,iff_true]
    rw [replaceHostAssignments,retired_foldl_insert fun a ha => (hl a ha).2.ge,hfront]
    exact retired_supersedePlane _

/-- What is left of the older generations after one node got its assignment is what other nodes had. -/
lemma enqueueOne_older (now : ℤ) (reason : String) (t : Table) (hplane : a.planeName = planeName)
    (hgeneration : generation ≤ a.desiredGeneration) (P : String → Prop) :
    (∀ r ∈ (enqueueOne now reason t a).rows, r.planeName = planeName → r.desiredGeneration < generation →
        r.isLive = true → P r.nodeName) ↔
      ∀ r ∈ t.rows, r.planeName = planeName → r.desiredGeneration < generation → r.isLive = true →
        a.nodeName = r.nodeName ∨ P r.nodeName := by
  subst hplane
  simp only [enqueueOne,insertAssignment,forall_mem_append,forall_mem_singleton]
  refine (and_iff_left fun _ hlt => absurd hgeneration (not_le.2 hlt)).trans ?_
  constructor
  · intro h r hr hplane hlt hlive
    by_cases hnode : a.nodeName = r.nodeName
    · exact Or.inl hnode
    · exact Or.inr (h r (mem_update_of_not hr (by simp [Ne.symm hnode])) hplane hlt hlive)
  · intro h r hr hplane hlt hlive
    obtain ⟨r₀,hr₀,rfl⟩ := mem_updateWhere.1 hr
    split at hlive
    · cases hlive
    next hnot =>
      rw [if_neg hnot] at hplane hlt ⊢
      have hnode : r₀.nodeName ≠ a.nodeName := by simpa [hplane,hlive] using hnot
      exact (h r₀ hr₀ hplane hlt hlive).resolve_left hnode.symm

/-- Enqueueing, the way in which a plane is started, retires the older generations of the nodes in the list. -/
theorem retired_enqueue_iff (hl : ∀ a ∈ l, a.planeName = planeName ∧ a.desiredGeneration = generation) :
    Retired planeName generation (enqueueHostAssignments now t l reason) ↔
      ∀ r ∈ t.rows, r.planeName = planeName → r.desiredGeneration < generation → r.isLive = true →
        r.nodeName ∈ l.map (·.nodeName) := by
  have hgeneral : ∀ t, Retired planeName generation (enqueueHostAssignments now t l reason) ↔
      ∀ r ∈ t.rows, r.planeName = planeName → r.desiredGeneration < generation → r.isLive = true →
        ∃ a ∈ l, a.nodeName = r.nodeName := by
    induction l with
    | nil => simp [Retired,enqueueHostAssignments]
    | cons a l ih =>
      rw [forall_mem_cons] at hl
      intro t
      have hone := enqueueOne_older now reason t hl.1.1 hl.1.2.ge fun nodeName => ∃ a ∈ l, a.nodeName = nodeName
      refine (ih hl.2 _).trans (hone.trans ?_)
      simp only [exists_mem_cons_iff]
  simpa only [mem_map] using hgeneral t

def twoNodes : Table where
  rows := [
    {id := 1, nodeName := "node-a", planeName := "chat", desiredGeneration := 1, updatedAt := 0},
    {id := 2, nodeName := "node-b", planeName := "chat", desiredGeneration := 1, status := .claimed, updatedAt := 0},
    {id := 3, nodeName := "node-c", planeName := "voice", desiredGeneration := 1, updatedAt := 0}]
  nextId := 4

theorem retired_enqueue_twoNodes :
    Retired "chat" 2 (enqueueHostAssignments 10 twoNodes
      [{nodeName := "node-a", planeName := "chat", desiredGeneration := 2},
        {nodeName := "node-b", planeName := "chat", desiredGeneration := 2}] "plane started") :=
  (retired_enqueue_iff (by simp)).2 (by simp [twoNodes])

section Realization

variable {serialize : DesiredState → String} {artifactsRoot nodeName : String} {state : DesiredState}
  {staleAfterSeconds : ℤ} {observations : List HostObservation} {clock : Clock}
  {overrides : List NodeAvailabilityOverride}

lemma buildHostAssignment_eq_some {byNode : List (String × List SchedulerRolloutAction)}
    (h : buildHostAssignment serialize clock staleAfterSeconds overrides observations state artifactsRoot generation
      byNode nodeName = .ok (some a)) :
    takesWork clock staleAfterSeconds overrides observations nodeName = .ok true ∧
      a.nodeName = nodeName ∧ a.planeName = state.planeName ∧ a.desiredGeneration = generation := by
  simp only [buildHostAssignment,bind_eq_ok] at h
  obtain ⟨takes,htakes,h⟩ := h
  cases takes with
  | false => simp at h
  | true =>
    simp only [Bool.not_true,Bool.false_eq_true,if_false,bind_eq_ok,pure_eq_ok,Option.some.injEq] at h
    obtain ⟨_,-,rfl⟩ := h
    exact ⟨htakes,rfl,rfl,rfl⟩

lemma buildHostAssignment_succeeds {node : NodeInventory} {takes : Bool} (serialize : DesiredState → String)
    (artifactsRoot : String) (generation : ℤ)
    (byNode : List (String × List SchedulerRolloutAction)) (hnode : node ∈ state.nodes)
    (htakes : takesWork clock staleAfterSeconds overrides observations node.name = .ok takes) :
    ∃ a, buildHostAssignment serialize clock staleAfterSeconds overrides observations state artifactsRoot generation
      byNode node.name = .ok a := by
  have hnodes : state.nodes.filter (·.name = node.name) ≠ [] :=
    ne_nil_of_mem (mem_filter.2 ⟨hnode,by simp⟩)
  have hslice : ∃ slice, sliceDesiredStateForNode state node.name = .ok slice := ⟨_,if_neg hnodes⟩
  obtain ⟨slice,hslice⟩ := hslice
  rw [buildHostAssignment,htakes,ok_bind]
  cases takes with
  | false => exact ⟨none,rfl⟩
  | true =>
    rw [if_neg (by simp),hslice]
    exact ⟨_,rfl⟩

/-- The assignments are built if it can be told of every node whether it takes work. -/
theorem buildHostAssignments_succeeds (artifactsRoot : String) (generation : ℤ) (report : Option SchedulingPolicyReport)
    (h : ∀ node ∈ state.nodes, ∃ takes, takesWork clock staleAfterSeconds overrides observations node.name =
      .ok takes) :
    ∃ assignments, buildHostAssignments serialize clock staleAfterSeconds overrides observations state artifactsRoot
      generation report = .ok assignments := by
  obtain ⟨rounds,hrounds⟩ := mapM_succeeds fun node hnode =>
    (h node hnode).elim fun _ => buildHostAssignment_succeeds serialize artifactsRoot generation
      ((report.map buildRolloutActionsByTargetNode).getD []) hnode
  exact ⟨rounds.reduceOption,by rw [buildHostAssignments,hrounds]; rfl⟩

lemma buildHostAssignments_ne_nil_iff {report : Option SchedulingPolicyReport}
    (h : buildHostAssignments serialize clock staleAfterSeconds overrides
      observations state artifactsRoot generation report = .ok assignments) :
    assignments ≠ [] ↔
      ∃ node ∈ state.nodes, takesWork clock staleAfterSeconds overrides observations node.name = .ok true := by
  simp only [buildHostAssignments,bind_eq_ok,pure_eq_ok] at h
  obtain ⟨rounds,hrounds,rfl⟩ := h
  constructor
  · intro hne
    obtain ⟨a,ha⟩ := exists_mem_of_ne_nil _ hne
    obtain ⟨node,hnode,hround⟩ := mapM_mem_right hrounds (reduceOption_mem_iff.1 ha)
    exact ⟨node,hnode,(buildHostAssignment_eq_some hround).1⟩
  · rintro ⟨node,hnode,htakes⟩
    obtain ⟨round,hround,hbuild⟩ := mapM_mem_left hrounds hnode
    cases round with
    | none => simp [buildHostAssignment,htakes] at hbuild
    | some a => exact ne_nil_of_mem (reduceOption_mem_iff.2 hround)

end Realization

/-- Storing a generation and replacing the assignments of its plane retires the older generations exactly
if some node of the state takes work, or if none of the older ones was live. -/
theorem replace_retires_older_generations_iff (serializeDesiredStateJson : DesiredState → String) (clock : Clock)
    (staleAfterSeconds : ℤ) (overrides : List NodeAvailabilityOverride) (observations : List HostObservation)
    (state : DesiredState) (artifactsRoot : String) (g : ℤ) (report : Option SchedulingPolicyReport)
    (assignments : List HostAssignment) (now : ℤ) (t : Table)
    (h : buildHostAssignments serializeDesiredStateJson clock staleAfterSeconds overrides observations state
      artifactsRoot g report = .ok assignments) :
    Retired state.planeName g (replaceHostAssignments now t assignments) ↔
      (∃ node ∈ state.nodes, takesWork clock staleAfterSeconds overrides observations node.name = .ok true) ∨
      Retired state.planeName g t := by
  rw [retired_replace_iff fun a ha => ?_,buildHostAssignments_ne_nil_iff h]
  simp only [buildHostAssignments,bind_eq_ok,pure_eq_ok] at h
  obtain ⟨rounds,hrounds,rfl⟩ := h
  obtain ⟨node,-,hround⟩ := mapM_mem_right hrounds (reduceOption_mem_iff.1 ha)
  exact (buildHostAssignment_eq_some hround).2.2

def quietClock : Clock where
  now := 0
  utcTime := fun _ => none
  deserializeRuntimeStatusJson := fun _ => .ok {}
  deserializeGpuTelemetryJson := fun _ => .ok {}

def singleNodePlane : DesiredState where
  planeName := "chat"
  nodes := [{name := "node-a"}]

def firstGeneration : Table where
  rows := [
    {id := 1, nodeName := "node-a", planeName := "chat", desiredGeneration := 1,
      assignmentType := "apply-node-state", updatedAt := 0}]
  nextId := 2

/-- While the only node is drained the second generation has no assignment, and the first one stays
claimable after the replacement. -/
theorem drained_node_keeps_firstGeneration :
    ∃ assignments, buildHostAssignments (fun _ => "") quietClock 300 [⟨"node-a",.draining⟩] [] singleNodePlane
        "var/artifacts" 2 none = .ok assignments ∧
      ¬ Retired singleNodePlane.planeName 2 (replaceHostAssignments 10 firstGeneration assignments) ∧
      ((claimNextHostAssignment 20 (replaceHostAssignments 10 firstGeneration assignments) "node-a").2.map
        (·.desiredGeneration)) = some 1 :=
  ⟨_,rfl,by decide,by decide⟩

theorem replace_retires_firstGeneration :
    ∃ assignments, buildHostAssignments (fun _ => "") quietClock 300 [] [] singleNodePlane "var/artifacts" 2 none =
        .ok assignments ∧
      Retired singleNodePlane.planeName 2 (replaceHostAssignments 10 firstGeneration assignments) := by
  obtain ⟨assignments,h⟩ : ∃ assignments, buildHostAssignments (fun _ => "") quietClock 300 [] [] singleNodePlane
      "var/artifacts" 2 none = .ok assignments := ⟨_,rfl⟩
  exact ⟨assignments,h,(replace_retires_older_generations_iff _ _ _ _ _ _ _ _ _ _ 10 firstGeneration h).2
    (Or.inl ⟨_,mem_singleton_self _,rfl⟩)⟩

end Naim.PlaneRealization
