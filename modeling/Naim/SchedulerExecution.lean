import Naim.Assignments
import Naim.Models

/-!
# Executing rollout actions

`SchedulerExecutionSupport`: the edits of a desired state that carry out a
scheduler decision, and the eviction assignments that prepare one. An eviction
assignment is tied to its rollout action by a tag in its status message.
-/

namespace Naim.SchedulerExecution

open Assignments Assoc Checked Rows

inductive RolloutActionStatus
  | pending | acknowledged | readyToRetry
  deriving DecidableEq

structure RolloutActionRecord where
  id : ℕ := 0
  planeName : String := ""
  (desiredGeneration step : ℤ := 0)
  (workerName action targetNodeName targetGpuDevice : String := "")
  victimWorkerNames : List String := []
  reason : String := ""
  status : RolloutActionStatus := .pending
  statusMessage : String := ""
  deriving DecidableEq

structure RebalancePlanEntry where
  (workerName targetNodeName targetGpuDevice action : String := "")
  score : Int32 := 0
  victimWorkerNames : List String := []
  deriving DecidableEq

variable (state : DesiredState) (entry : RebalancePlanEntry) (action : RolloutActionRecord)

/-- The last earlier step of the same generation and worker with the requested action. -/
def findPriorRolloutActionForWorker (actions : List RolloutActionRecord) (action : RolloutActionRecord)
    (requestedActionName : String) : Option RolloutActionRecord :=
  actions.foldl (fun result candidate =>
    if candidate.desiredGeneration ≠ action.desiredGeneration ∨ candidate.workerName ≠ action.workerName ∨
        candidate.step ≥ action.step ∨ candidate.action ≠ requestedActionName then result
    else some candidate) none

def isWorkerNamed (name : String) (i : InstanceSpec) : Bool := i.role = .worker && i.name = name

def isWorkerDiskOf (name : String) (d : DiskSpec) : Bool := d.kind = .workerPrivate && d.ownerName = name

def removeWorkerFromDesiredState (workerName : String) : DesiredState :=
  {state with
    instances := (state.instances.filter (·.name ≠ workerName)).map fun i =>
      {i with dependsOn := i.dependsOn.filter (· ≠ workerName)}
    runtimeGpuNodes := state.runtimeGpuNodes.filter (·.name ≠ workerName)
    disks := state.disks.filter fun d => !isWorkerDiskOf workerName d}

def placedLabels (labels : StringMap) (nodeName action : String) : StringMap :=
  let labels := set labels "naim.node" nodeName
  let labels := set labels "naim.placement" "auto"
  let labels := set labels "naim.placement.action" action
  let labels := set labels "naim.placement.decision" "applied"
  let labels := erase labels "naim.placement.next_action"
  let labels := erase labels "naim.placement.next_target"
  erase labels "naim.placement.defer_reason"

def retriedInstance (i : InstanceSpec) : InstanceSpec :=
  {i with
    nodeName := action.targetNodeName, gpuDevice := some action.targetGpuDevice, shareMode := .exclusive
    gpuFraction := 1
    labels := erase (placedLabels i.labels action.targetNodeName "materialized-retry-placement")
      "naim.preemption.victims"}

def retriedGpuNode (g : RuntimeGpuNode) : RuntimeGpuNode :=
  {g with
    nodeName := action.targetNodeName, gpuDevice := action.targetGpuDevice, shareMode := .exclusive
    gpuFraction := 1}

def materializeRetryPlacementAction (victimWorkerNames : List String) : Checked DesiredState :=
  let state := victimWorkerNames.foldl removeWorkerFromDesiredState state
  if (state.instances.find? (isWorkerNamed action.workerName)).isNone then
    fail ("worker '" ++ action.workerName ++ "' not found in desired state")
  else .ok {state with
    instances := updateFirst (isWorkerNamed action.workerName) (retriedInstance action) state.instances
    runtimeGpuNodes := updateFirst (·.name = action.workerName) (retriedGpuNode action)
      state.runtimeGpuNodes
    disks := updateFirst (isWorkerDiskOf action.workerName)
      (fun d => {d with nodeName := action.targetNodeName}) state.disks}

def rebalancedInstance (i : InstanceSpec) : InstanceSpec :=
  let environment := set i.environment "NAIM_NODE_NAME" entry.targetNodeName
  let labels := placedLabels i.labels entry.targetNodeName ("materialized-rebalance-" ++ entry.action)
  let labels := set labels "naim.placement.score" (toString entry.score)
  {i with
    nodeName := entry.targetNodeName, gpuDevice := some entry.targetGpuDevice
    environment := if entry.targetGpuDevice ≠ "" then
        set environment "NAIM_GPU_DEVICE" entry.targetGpuDevice
      else erase environment "NAIM_GPU_DEVICE"
    shareMode := if entry.action = "upgrade-to-exclusive" then .exclusive else i.shareMode
    gpuFraction := if entry.action = "upgrade-to-exclusive" then 1 else i.gpuFraction
    labels := if entry.victimWorkerNames ≠ [] then
        set labels "naim.preemption.victims" (",".intercalate entry.victimWorkerNames)
      else erase labels "naim.preemption.victims"}

def rebalancedGpuNode (g : RuntimeGpuNode) : RuntimeGpuNode :=
  {g with
    nodeName := entry.targetNodeName, gpuDevice := entry.targetGpuDevice
    shareMode := if entry.action = "upgrade-to-exclusive" then .exclusive else g.shareMode
    gpuFraction := if entry.action = "upgrade-to-exclusive" then 1 else g.gpuFraction}

def materializeRebalancePlanEntry : Checked DesiredState :=
  if (state.instances.find? (isWorkerNamed entry.workerName)).isNone then
    fail ("worker '" ++ entry.workerName ++ "' not found in desired state")
  else .ok {state with
    instances := updateFirst (isWorkerNamed entry.workerName) (rebalancedInstance entry) state.instances
    runtimeGpuNodes := updateFirst (·.name = entry.workerName) (rebalancedGpuNode entry)
      state.runtimeGpuNodes
    disks := updateFirst (isWorkerDiskOf entry.workerName)
      (fun d => {d with nodeName := entry.targetNodeName}) state.disks}

def rolloutActionTag (actionId : ℕ) : String := "rollout_action_id=" ++ toString actionId

def occurs (needle text : String) : Bool := needle.toList <:+: text.toList

def assignmentReferencesRolloutAction (a : HostAssignment) (actionId : ℕ) : Bool :=
  occurs (rolloutActionTag actionId) a.statusMessage

def evictionMessage (requiredMemoryCapMb : Int32) (victims : List String) : String :=
  rolloutActionTag action.id ++ " evict workers for rollout worker=" ++ action.workerName ++
    " target_gpu=" ++ action.targetGpuDevice ++ " required_memory_cap_mb=" ++
    toString requiredMemoryCapMb ++ " victims=" ++ ",".intercalate victims

def sliceDesiredStateForNode (nodeName : String) : Checked DesiredState :=
  let nodes := state.nodes.filter (·.name = nodeName)
  if nodes = [] then fail ("node '" ++ nodeName ++ "' not found in desired state")
  else .ok {state with
    knowledge := none, voiceListener := none, voiceMaker := none, nodes
    disks := state.disks.filter (·.nodeName = nodeName)
    instances := state.instances.filter (·.nodeName = nodeName)}

def findLatestHostAssignmentForNode (assignments : List HostAssignment) (nodeName : String) :
    Option HostAssignment :=
  assignments.foldl (fun result a => if a.nodeName ≠ nodeName then result else some a) none

def findLatestHostAssignmentForPlane (assignments : List HostAssignment) (planeName : String) :
    Option HostAssignment :=
  assignments.foldl (fun result a => if a.planeName ≠ planeName then result else some a) none

def defaultArtifactsRoot : String := "var/artifacts"

def findWorker (name : String) : Option InstanceSpec := state.instances.find? (isWorkerNamed name)

def addVictim (actionId : ℕ) (byNode : List (String × List String))
    (victim : String) : Checked (List (String × List String)) :=
  match findWorker state victim with
  | some i => .ok (set byNode i.nodeName ((byNode.lookup i.nodeName).getD [] ++ [victim]))
  | none => fail ("victim worker '" ++ victim ++
      "' not found in desired state for rollout action id=" ++ toString actionId)

def victimWorkersByNode : Checked (List (String × List String)) :=
  action.victimWorkerNames.foldlM (addVictim state action.id) []

/-- The text of a desired state that travels with an assignment is opaque to the scheduler. -/
def buildEvictionAssignmentsForAction (serializeDesiredStateJson : DesiredState → String)
    (desiredState : DesiredState) (desiredGeneration : ℤ) (action : RolloutActionRecord)
    (existingAssignments : List HostAssignment) : Checked (List HostAssignment) := do
  throwIf (action.action ≠ "evict-best-effort")
    ("rollout action id=" ++ toString action.id ++ " is not an evict-best-effort action")
  throwIf (action.victimWorkerNames = [])
    ("rollout action id=" ++ toString action.id ++ " has no victim workers to evict")
  let byNode ← victimWorkersByNode desiredState action
  let requiredMemoryCapMb := ((findWorker desiredState action.workerName).bind (·.memoryCapMb)).getD 0
  let evictionState := action.victimWorkerNames.foldl removeWorkerFromDesiredState desiredState
  let planeAssignment := findLatestHostAssignmentForPlane existingAssignments desiredState.planeName
  byNode.mapM fun (nodeName,victims) => do
    let slice ← sliceDesiredStateForNode evictionState nodeName
    return {
      nodeName, planeName := desiredState.planeName, desiredGeneration, assignmentType := "evict-workers"
      desiredStateJson := serializeDesiredStateJson slice
      artifactsRoot :=
        match findLatestHostAssignmentForNode existingAssignments nodeName with
        | some latest => latest.artifactsRoot
        | none => (planeAssignment.map (·.artifactsRoot)).getD defaultArtifactsRoot
      status := .pending, statusMessage := evictionMessage action requiredMemoryCapMb victims}

def victimsOn (nodeName : String) : List String :=
  action.victimWorkerNames.filter fun v => (findWorker state v).map (·.nodeName) = some nodeName

variable {state : DesiredState} {action : RolloutActionRecord} {serialize : DesiredState → String}
variable {existing assignments : List HostAssignment} {m m₀ : List (String × List String)}

lemma foldlM_addVictim {victims : List String} :
    ∀ {m₀ m : List (String × List String)}, victims.foldlM (addVictim state actionId) m₀ = .ok m →
      Sorted m₀ → (∀ e ∈ m₀, e.2 ≠ []) → Sorted m ∧ (∀ e ∈ m, e.2 ≠ []) ∧
        ∀ nodeName, (m.lookup nodeName).getD [] = (m₀.lookup nodeName).getD [] ++
          victims.filter fun v => (findWorker state v).map (·.nodeName) = some nodeName := by
  induction victims with
  | nil =>
    intro m₀ m h hs hne
    obtain rfl : m₀ = m := by simpa using h
    exact ⟨hs,hne,by simp⟩
  | cons v victims ih =>
    intro m₀ m h hs hne
    simp only [List.foldlM_cons,bind_eq_ok] at h
    obtain ⟨m₁,h₁,h⟩ := h
    unfold addVictim at h₁
    split at h₁
    next i hi =>
      obtain rfl := Except.ok.inj h₁
      have hne' : ∀ e ∈ set m₀ i.nodeName ((m₀.lookup i.nodeName).getD [] ++ [v]), e.2 ≠ [] := by
        intro e he
        rcases key_mem_set he with rfl | he
        · simp
        · exact hne e he
      obtain ⟨hm,hmne,hlookup⟩ := ih h (hs.set _ _) hne'
      refine ⟨hm,hmne,fun nodeName => ?_⟩
      rw [hlookup,lookup_set]
      by_cases hn : nodeName = i.nodeName
      · simp [hn,hi]
      · simp [hn,hi,Ne.symm hn]
    · simp at h₁

lemma victimWorkersByNode_spec (h : victimWorkersByNode state action = .ok m) :
    Sorted m ∧ (∀ e ∈ m, e.2 ≠ []) ∧
      ∀ nodeName, (m.lookup nodeName).getD [] = victimsOn state action nodeName := by
  simpa [victimsOn] using foldlM_addVictim h List.Pairwise.nil (by simp)

section Evictions

variable {generation : ℤ}
  (h : buildEvictionAssignmentsForAction serialize state generation action existing = .ok assignments)

include h

theorem mem_buildEviction (ha : a ∈ assignments) :
    a.assignmentType = "evict-workers" ∧ a.planeName = state.planeName ∧ a.status = .pending ∧
      a.attemptCount = 0 ∧ a.maxAttempts = 3 ∧ a.desiredGeneration = generation ∧
      victimsOn state action a.nodeName ≠ [] ∧
      a.statusMessage = evictionMessage action
        (((findWorker state action.workerName).bind (·.memoryCapMb)).getD 0)
        (victimsOn state action a.nodeName) := by
  simp only [buildEvictionAssignmentsForAction,bind_eq_ok] at h
  obtain ⟨-,-,-,-,m,hm,h⟩ := h
  obtain ⟨hsorted,hne,hlookup⟩ := victimWorkersByNode_spec hm
  obtain ⟨⟨nodeName,victims⟩,hmem,he⟩ := mapM_mem_right h ha
  simp only [bind_eq_ok,pure_eq_ok] at he
  obtain ⟨slice,-,rfl⟩ := he
  have hv : victims = victimsOn state action nodeName := by
    rw [← hlookup,hsorted.lookup_of_mem hmem]
    rfl
  have := hne _ hmem
  simp_all

theorem buildEviction_nodup : (assignments.map (·.nodeName)).Nodup := by
  simp only [buildEvictionAssignmentsForAction,bind_eq_ok] at h
  obtain ⟨-,-,-,-,m,hm,h⟩ := h
  have hnames : assignments.map (·.nodeName) = m.map Prod.fst := by
    refine mapM_map (fun e a he => ?_) h
    simp only [bind_eq_ok,pure_eq_ok] at he
    obtain ⟨slice,-,rfl⟩ := he
    rfl
  rw [hnames]
  exact (List.pairwise_map.2 (victimWorkersByNode_spec hm).1).imp (·.ne)

theorem exists_buildEviction (hv : victim ∈ action.victimWorkerNames) (hi : findWorker state victim = some i) :
    ∃ a ∈ assignments, a.nodeName = i.nodeName := by
  simp only [buildEvictionAssignmentsForAction,bind_eq_ok] at h
  obtain ⟨-,-,-,-,m,hm,h⟩ := h
  obtain ⟨hsorted,-,hlookup⟩ := victimWorkersByNode_spec hm
  have hne : victim ∈ victimsOn state action i.nodeName := by simp [victimsOn,hv,hi]
  rw [← hlookup] at hne
  cases hl : m.lookup i.nodeName with
  | none => simp [hl] at hne
  | some victims =>
    obtain ⟨a,ha,he⟩ := mapM_mem_left h (mem_of_lookup hl)
    simp only [bind_eq_ok,pure_eq_ok] at he
    obtain ⟨slice,-,rfl⟩ := he
    exact ⟨_,ha,rfl⟩

end Evictions

/-- Some eviction assignment names the action, and all that do are applied. -/
def areRolloutEvictionAssignmentsApplied (assignments : List HostAssignment) (actionId : ℕ) : Bool :=
  let tagged := assignments.filter fun a =>
    a.assignmentType = "evict-workers" && assignmentReferencesRolloutAction a actionId
  !tagged.isEmpty && tagged.all (·.status = .applied)

end Naim.SchedulerExecution
