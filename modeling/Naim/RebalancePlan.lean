import Naim.RuntimeSupport
import Naim.SchedulingPolicy
import Mathlib.Data.List.ReduceOption

/-!
# The rebalance plan

`SchedulerDomainService::BuildRebalancePlanEntries`: for every worker with a placement
recommendation one entry that proposes a direct move, defers it to a rollout or
holds it with the reason.
-/

namespace Naim.RebalancePlan

open Rows Checked Assignments SchedulerExecution SchedulingPolicy RuntimeSupport Option

inductive SchedulerRolloutPhase
  | planned | evictionEnqueued | evictionApplied | retryReady | retryMaterialized
  | hostFailed | hostStale | runtimeFailed | rolloutApplied
  deriving DecidableEq

def SchedulerRolloutPhase.text : SchedulerRolloutPhase → String
  | .planned => "planned"
  | .evictionEnqueued => "eviction-enqueued"
  | .evictionApplied => "eviction-applied"
  | .retryReady => "retry-ready"
  | .retryMaterialized => "retry-materialized"
  | .hostFailed => "host-failed"
  | .hostStale => "host-stale"
  | .runtimeFailed => "runtime-failed"
  | .rolloutApplied => "rollout-applied"

structure RolloutLifecycleEntry where
  workerName : String := ""
  phase : SchedulerRolloutPhase := .planned
  (targetNodeName targetGpuDevice : String := "")
  deriving DecidableEq

structure SchedulerPlaneRuntime where
  (activeAction activeWorkerName phase targetNodeName targetGpuDevice : String := "")
  deriving DecidableEq

structure SchedulerWorkerRuntime where
  lastMoveAt : String := ""
  manualInterventionRequired : Bool := false
  deriving DecidableEq

structure SchedulerNodeRuntime where
  lastMoveAt : String := ""
  deriving DecidableEq

structure SchedulerRuntimeView where
  planeRuntime : Option SchedulerPlaneRuntime := none
  workerRuntimeByName : List (String × SchedulerWorkerRuntime) := []
  nodeRuntimeByName : List (String × SchedulerNodeRuntime) := []
  deriving DecidableEq

structure SchedulerDomainPolicyConfig where
  minimumSafeDirectRebalanceScore : Int32 := 100
  workerMinimumResidencySeconds : ℤ := 300
  nodeCooldownAfterMoveSeconds : ℤ := 60
  computePressureUtilizationThresholdPct : Int32 := 85
  observedMoveVramReserveMb : Int32 := 1024
  deriving DecidableEq

structure PlannedRebalance extends RebalancePlanEntry where
  placementMode : PlacementMode := .manual
  (currentNodeName currentGpuDevice rebalanceClass decision state : String := "")
  preemptionRequired : Bool := false
  gateReason : String := ""
  deriving DecidableEq

variable (availability : List (String × NodeAvailabilityOverride)) (clock : Clock)
  (config : SchedulerDomainPolicyConfig) (view : SchedulerRuntimeView) (lifecycle : List RolloutLifecycleEntry)
  (entry : PlannedRebalance)

def findRolloutLifecycleEntry (entries : List RolloutLifecycleEntry) (workerName : String) :
    Option RolloutLifecycleEntry := entries.find? (·.workerName = workerName)

def rolloutPhaseBlocksRebalance (phase : SchedulerRolloutPhase) : Bool := phase ≠ .rolloutApplied

def hostAssignmentBlocksRebalance (a : HostAssignment) : Bool := a.status = .pending || a.status = .claimed

def nodeHasBlockingHostAssignment (assignments : List HostAssignment) (nodeName : String) : Bool :=
  assignments.any fun a => a.nodeName = nodeName && hostAssignmentBlocksRebalance a

def findObservedGpuDeviceTelemetry (observations : List HostObservation)
    (nodeName gpuDevice : String) : Checked (Option GpuDeviceTelemetry) :=
  match findHostObservationForNode observations nodeName with
  | none => .ok none
  | some o => do
    let telemetry ← parseGpuTelemetry clock o
    return telemetry.bind fun t => t.devices.find? (·.gpuDevice = gpuDevice)

def hasForeignProcess (device : GpuDeviceTelemetry) (workerName : String) : Bool :=
  device.processes.any fun process => process.instanceName ≠ workerName && process.instanceName ≠ "unknown"

def deviceGateReason (worker : InstanceSpec) (movingToDifferentGpu : Bool)
    (device : GpuDeviceTelemetry) : Option String :=
  if worker.memoryCapMb.any fun cap => device.freeVramMb < cap + config.observedMoveVramReserveMb then
    some "observed-insufficient-vram"
  else if movingToDifferentGpu && config.computePressureUtilizationThresholdPct ≤ device.gpuUtilizationPct &&
      hasForeignProcess device worker.name then some "compute-pressure"
  else none

def observedGpuPlacementGateReason
    (observations : List HostObservation) (worker : InstanceSpec) (nodeName gpuDevice : String)
    (movingToDifferentGpu : Bool) : Checked (Option String) := do
  let device ← findObservedGpuDeviceTelemetry clock observations nodeName gpuDevice
  return device.bind (deviceGateReason config worker movingToDifferentGpu)

def hold (entry : PlannedRebalance) (rebalanceClass state gateReason : String) : PlannedRebalance :=
  {entry with rebalanceClass, decision := "hold", state, gateReason}

def activeHold : Option PlannedRebalance :=
  match view.planeRuntime with
  | none => none
  | some runtime =>
    if runtime.activeAction = "" then none
    else if runtime.activeWorkerName = entry.workerName then
      some {hold entry "gated" (if runtime.phase = "" then "active-scheduler-action" else runtime.phase)
          runtime.activeAction with
        targetNodeName := runtime.targetNodeName, targetGpuDevice := runtime.targetGpuDevice}
    else some (hold entry "gated" "active-scheduler-action" runtime.activeAction)

def lifecycleHold : Option PlannedRebalance :=
  match findRolloutLifecycleEntry lifecycle entry.workerName with
  | none => none
  | some rollout =>
    if rolloutPhaseBlocksRebalance rollout.phase then
      some {hold entry "rollout-class" "active-rollout" rollout.phase.text with
        targetNodeName := rollout.targetNodeName, targetGpuDevice := rollout.targetGpuDevice}
    else none

def runtimeHold : Option PlannedRebalance :=
  if (view.workerRuntimeByName.lookup entry.workerName).any (·.manualInterventionRequired) then
    some (hold entry "gated" "manual-intervention-required" "manual-intervention-required")
  else (activeHold view entry).or (lifecycleHold lifecycle entry)

def residencyHold : Option PlannedRebalance :=
  match (view.workerRuntimeByName.lookup entry.workerName).bind fun r => timestampAgeSeconds clock r.lastMoveAt with
  | none => none
  | some age =>
    if age < config.workerMinimumResidencySeconds then
      some (hold entry "stable" "min-residency" ("min-residency(" ++ toString age ++ "<" ++
        toString config.workerMinimumResidencySeconds ++ ")"))
    else none

def coolingDown (nodeName : String) : Bool :=
  ((view.nodeRuntimeByName.lookup nodeName).bind fun r => timestampAgeSeconds clock r.lastMoveAt).any
    (· < config.nodeCooldownAfterMoveSeconds)

def cooldownHold : Option PlannedRebalance :=
  let source := coolingDown clock config view entry.currentNodeName
  let target := coolingDown clock config view entry.targetNodeName
  if source || target then
    some (hold entry "gated" "cooldown" (if source && target then "cooldown-source-and-target"
      else if source then "cooldown-source" else "cooldown-target"))
  else none

def availabilityHold (sourceRequiresExit : Bool) (entry : PlannedRebalance) : Option PlannedRebalance :=
  let target := resolveNodeAvailability availability entry.targetNodeName
  if sourceRequiresExit && entry.targetNodeName = entry.currentNodeName then
    some (hold entry "gated" "draining-source" "no-active-drain-target")
  else if !isNodeSchedulable target then
    some (hold entry "gated" "gated-target" (if target = .draining then "draining-target" else "unavailable-target"))
  else none

def assignmentHold (assignments : List HostAssignment) (entry : PlannedRebalance) : Option PlannedRebalance :=
  let source := nodeHasBlockingHostAssignment assignments entry.currentNodeName
  let target := nodeHasBlockingHostAssignment assignments entry.targetNodeName
  if source || target then
    some (hold entry "gated" "assignment-in-flight" (if source && target then "source-and-target-node-busy"
      else if source then "source-node-busy" else "target-node-busy"))
  else none

def isSufficient (c : PlacementCandidate) : Bool :=
  c.action ≠ "insufficient-memory" && c.action ≠ "insufficient-fraction"

/-- A worker on a node that is to be left looks for another node first. -/
def selectedCandidate (sourceRequiresExit : Bool)
    (recommendation : WorkerPlacementRecommendation) : Option PlacementCandidate :=
  let exit := if sourceRequiresExit then recommendation.candidates.find? fun c =>
      isSufficient c && c.nodeName ≠ recommendation.currentNodeName &&
        isNodeSchedulable (resolveNodeAvailability availability c.nodeName)
    else none
  (exit.or (recommendation.candidates.find? isSufficient)).or recommendation.candidates.head?

def withCandidate (c : PlacementCandidate) : PlannedRebalance :=
  {entry with
    targetNodeName := c.nodeName, targetGpuDevice := c.gpuDevice, action := c.action, score := c.score
    preemptionRequired := c.preemptionRequired, victimWorkerNames := c.preemptionVictims}

def directDecision (sourceRequiresExit : Bool) (c : PlacementCandidate)
    (entry : PlannedRebalance) : PlannedRebalance :=
  if c.preemptionRequired then
    {entry with
      rebalanceClass := "rollout-class", decision := "defer"
      state := if sourceRequiresExit then "drain-preemption" else "deferred-preemption"}
  else if c.score < config.minimumSafeDirectRebalanceScore then
    hold entry "stable" "below-threshold" ("score-below-threshold(" ++ toString c.score ++ "<" ++
      toString config.minimumSafeDirectRebalanceScore ++ ")")
  else if c.sameNode && c.action = "upgrade-to-exclusive" then
    {entry with rebalanceClass := "safe-direct", decision := "propose", state := "ready-in-place-upgrade"}
  else if c.sameNode then hold entry "stable" "stay" ""
  else
    {entry with
      rebalanceClass := "safe-direct", decision := "propose"
      state := if sourceRequiresExit then "ready-drain-move" else "ready-move"}

section Plan

variable (clock : Clock) (config : SchedulerDomainPolicyConfig) (s : DesiredState)
variable (availability : List (String × NodeAvailabilityOverride)) (lifecycle : List RolloutLifecycleEntry)
variable (assignments : List HostAssignment) (view : SchedulerRuntimeView) (observations : List HostObservation)
variable (staleAfterSeconds : ℤ)

def observedDecision (sourceRequiresExit : Bool) (worker : InstanceSpec) (c : PlacementCandidate)
    (entry : PlannedRebalance) : Checked PlannedRebalance := do
  match ← observedSchedulingGateReason clock observations c.nodeName staleAfterSeconds with
  | some reason => return hold entry "gated" "gated-target" reason
  | none =>
    match ← observedGpuPlacementGateReason clock config observations worker c.nodeName c.gpuDevice
        (c.nodeName ≠ entry.currentNodeName || c.gpuDevice ≠ entry.currentGpuDevice) with
    | some reason => return hold entry "gated" "gated-target" reason
    | none => return directDecision config sourceRequiresExit c entry

/-- The holds that do not look at the observations, in the order of the source. -/
def targetHold (sourceRequiresExit : Bool) (entry : PlannedRebalance) : Option PlannedRebalance :=
  (residencyHold clock config view entry).or ((cooldownHold clock config view entry).or
    ((availabilityHold availability sourceRequiresExit entry).or (assignmentHold assignments entry)))

section

variable (nodeNameFilter : Option String) (recommendation : WorkerPlacementRecommendation)

def planWorker (worker : InstanceSpec) : Checked PlannedRebalance :=
  let entry : PlannedRebalance := {
    workerName := recommendation.workerName, placementMode := worker.placementMode
    currentNodeName := recommendation.currentNodeName, currentGpuDevice := recommendation.currentGpuDevice}
  let sourceRequiresExit : Bool := resolveNodeAvailability availability recommendation.currentNodeName ≠ .active
  match runtimeHold view lifecycle entry with
  | some held => .ok held
  | none =>
    match selectedCandidate availability sourceRequiresExit recommendation with
    | none => .ok (if sourceRequiresExit then hold entry "gated" "draining-source" "no-active-drain-target"
        else hold entry "no-candidate" "no-candidate" "")
    | some c =>
      match targetHold clock config availability assignments view sourceRequiresExit (withCandidate entry c) with
      | some held => .ok held
      | none => observedDecision clock config observations staleAfterSeconds sourceRequiresExit worker c
          (withCandidate entry c)

def excludedByFilter (worker : InstanceSpec) : Bool :=
  nodeNameFilter.any fun nodeName =>
    worker.nodeName ≠ nodeName && !recommendation.candidates.any (·.nodeName = nodeName)

def planRecommendation : Checked (Option PlannedRebalance) :=
  match findWorker s recommendation.workerName with
  | none => .ok none
  | some worker =>
    if worker.placementMode = .manual then .ok none
    else if excludedByFilter nodeNameFilter recommendation worker then .ok none
    else some <$> planWorker clock config availability lifecycle assignments view observations staleAfterSeconds
      recommendation worker

end

end Plan

def entryBefore (l r : PlannedRebalance) : Bool :=
  if l.workerName ≠ r.workerName then l.workerName < r.workerName else l.targetNodeName < r.targetNodeName

def buildRebalancePlanEntries (clock : Clock) (config : SchedulerDomainPolicyConfig) (s : DesiredState)
    (report : SchedulingPolicyReport) (overrides : List NodeAvailabilityOverride)
    (lifecycle : List RolloutLifecycleEntry) (assignments : List HostAssignment) (view : SchedulerRuntimeView)
    (observations : List HostObservation) (staleAfterSeconds : ℤ) (nodeNameFilter : Option String) :
    Checked (List PlannedRebalance) := do
  let rounds ← report.placementRecommendations.mapM (planRecommendation clock config s
    (buildAvailabilityOverrideMap overrides) lifecycle assignments view observations staleAfterSeconds nodeNameFilter)
  return sortBy entryBefore rounds.reduceOption

variable {clock : Clock} {config : SchedulerDomainPolicyConfig}
variable {availability : List (String × NodeAvailabilityOverride)} {lifecycle : List RolloutLifecycleEntry}
variable {assignments : List HostAssignment} {view : SchedulerRuntimeView}
variable {entry held : PlannedRebalance} {sourceRequiresExit : Bool} {c : PlacementCandidate}
  {observations : List HostObservation} {staleAfterSeconds : ℤ}

lemma runtimeHold_decision (h : runtimeHold view lifecycle entry = some held) : held.decision = "hold" := by
  unfold runtimeHold at h
  split at h
  · obtain rfl := some.inj h
    rfl
  rcases or_eq_some_iff.1 h with h | ⟨-,h⟩
  · unfold activeHold at h
    split at h
    · cases h
    split at h
    · cases h
    split at h <;> (obtain rfl := some.inj h; rfl)
  · unfold lifecycleHold at h
    split at h
    · cases h
    split at h
    · obtain rfl := some.inj h
      rfl
    · cases h

lemma targetHold_decision (h : targetHold clock config availability assignments view sourceRequiresExit entry =
    some held) : held.decision = "hold" := by
  rcases or_eq_some_iff.1 h with h | ⟨-,h⟩
  · unfold residencyHold at h
    split at h
    · cases h
    split at h
    · obtain rfl := some.inj h
      rfl
    · cases h
  rcases or_eq_some_iff.1 h with h | ⟨-,h⟩
  · simp only [cooldownHold] at h
    split at h
    · obtain rfl := some.inj h
      rfl
    · cases h
  rcases or_eq_some_iff.1 h with h | ⟨-,h⟩
  · simp only [availabilityHold] at h
    split at h
    · obtain rfl := some.inj h
      rfl
    split at h
    · obtain rfl := some.inj h
      rfl
    · cases h
  · simp only [assignmentHold] at h
    split at h
    · obtain rfl := some.inj h
      rfl
    · cases h

structure Proposes (config : SchedulerDomainPolicyConfig) (availability : List (String × NodeAvailabilityOverride))
    (assignments : List HostAssignment) (recommendation : WorkerPlacementRecommendation) (c : PlacementCandidate)
    (entry : PlannedRebalance) : Prop where
  candidate : c ∈ recommendation.candidates
  target : entry.toRebalancePlanEntry = {
    workerName := recommendation.workerName, targetNodeName := c.nodeName, targetGpuDevice := c.gpuDevice,
    action := c.action, score := c.score, victimWorkerNames := c.preemptionVictims}
  currentNodeName : entry.currentNodeName = recommendation.currentNodeName
  currentGpuDevice : entry.currentGpuDevice = recommendation.currentGpuDevice
  schedulable : isNodeSchedulable (resolveNodeAvailability availability c.nodeName) = true
  sourceFree : nodeHasBlockingHostAssignment assignments recommendation.currentNodeName = false
  targetFree : nodeHasBlockingHostAssignment assignments c.nodeName = false
  direct : c.preemptionRequired = false
  score : config.minimumSafeDirectRebalanceScore ≤ c.score
  inPlace : c.sameNode = true → c.action = "upgrade-to-exclusive"

lemma selectedCandidate_mem {recommendation : WorkerPlacementRecommendation}
    (h : selectedCandidate availability sourceRequiresExit recommendation = some c) :
    c ∈ recommendation.candidates := by
  rcases or_eq_some_iff.1 h with h | ⟨-,h⟩
  · rcases or_eq_some_iff.1 h with h | ⟨-,h⟩
    · cases sourceRequiresExit with
      | false => simp at h
      | true => exact List.mem_of_find?_eq_some h
    · exact List.mem_of_find?_eq_some h
  · exact List.mem_of_mem_head? h

lemma directDecision_propose (h : (directDecision config sourceRequiresExit c entry).decision = "propose") :
    (directDecision config sourceRequiresExit c entry).toRebalancePlanEntry = entry.toRebalancePlanEntry ∧
      (directDecision config sourceRequiresExit c entry).currentNodeName = entry.currentNodeName ∧
      (directDecision config sourceRequiresExit c entry).currentGpuDevice = entry.currentGpuDevice ∧
      c.preemptionRequired = false ∧ config.minimumSafeDirectRebalanceScore ≤ c.score ∧
      (c.sameNode = true → c.action = "upgrade-to-exclusive") := by
  unfold directDecision at h ⊢
  split at h
  · simp at h
  rename_i hdirect
  split at h
  · simp [hold] at h
  rename_i hscore
  rw [if_neg hdirect,if_neg hscore]
  have hdirect : c.preemptionRequired = false := by simpa using hdirect
  have hscore := Int32.not_lt.1 hscore
  split at h
  next hplace =>
    rw [if_pos hplace]
    exact ⟨rfl,rfl,rfl,hdirect,hscore,fun _ => by simpa using (Bool.and_eq_true_iff.1 hplace).2⟩
  rename_i hplace
  split at h
  · simp [hold] at h
  rename_i hsame
  rw [if_neg hplace,if_neg hsame]
  exact ⟨rfl,rfl,rfl,hdirect,hscore,fun h => absurd h hsame⟩

lemma targetHold_eq_none (h : targetHold clock config availability assignments view sourceRequiresExit entry = none) :
    isNodeSchedulable (resolveNodeAvailability availability entry.targetNodeName) = true ∧
      nodeHasBlockingHostAssignment assignments entry.currentNodeName = false ∧
      nodeHasBlockingHostAssignment assignments entry.targetNodeName = false := by
  simp only [targetHold,or_eq_none_iff] at h
  obtain ⟨-,-,havailable,hfree⟩ := h
  constructor
  · simp only [availabilityHold] at havailable
    split at havailable
    · cases havailable
    split at havailable
    · cases havailable
    · simpa using ‹¬ (!isNodeSchedulable _) = true›
  · simpa [assignmentHold] using hfree

lemma planWorker_propose {recommendation : WorkerPlacementRecommendation}
    (h : planWorker clock config availability lifecycle assignments view observations staleAfterSeconds
      recommendation worker = .ok entry) (hpropose : entry.decision = "propose") :
    ∃ c, Proposes config availability assignments recommendation c entry := by
  simp only [planWorker] at h
  split at h
  · obtain rfl := Except.ok.inj h
    rw [runtimeHold_decision ‹_›] at hpropose
    simp at hpropose
  split at h
  · obtain rfl := Except.ok.inj h
    split at hpropose <;> simp [hold] at hpropose
  rename_i c hselect
  split at h
  · obtain rfl := Except.ok.inj h
    rw [targetHold_decision ‹_›] at hpropose
    simp at hpropose
  rename_i htarget
  obtain ⟨hschedulable,hsource,htarget⟩ := targetHold_eq_none htarget
  simp only [observedDecision,bind_eq_ok] at h
  obtain ⟨reason,-,h⟩ := h
  cases reason with
  | some reason =>
    obtain rfl := pure_eq_ok.1 h
    simp [hold] at hpropose
  | none =>
    simp only [bind_eq_ok] at h
    obtain ⟨reason,-,h⟩ := h
    cases reason with
    | some reason =>
      obtain rfl := pure_eq_ok.1 h
      simp [hold] at hpropose
    | none =>
      obtain rfl := pure_eq_ok.1 h
      obtain ⟨hentry,hnode,hgpu,hdirect,hscore,hplace⟩ := directDecision_propose hpropose
      exact ⟨c,selectedCandidate_mem hselect,hentry,hnode,hgpu,hschedulable,hsource,htarget,hdirect,hscore,hplace⟩

theorem mem_rebalancePlan_propose {nodeNameFilter : Option String}
    (h : buildRebalancePlanEntries clock config s report overrides lifecycle assignments view observations
      staleAfterSeconds nodeNameFilter = .ok entries) (hentry : entry ∈ entries)
    (hpropose : entry.decision = "propose") :
    ∃ recommendation ∈ report.placementRecommendations, ∃ c,
      Proposes config (buildAvailabilityOverrideMap overrides) assignments recommendation c entry := by
  simp only [buildRebalancePlanEntries,bind_eq_ok,pure_eq_ok] at h
  obtain ⟨rounds,hrounds,rfl⟩ := h
  obtain ⟨recommendation,hmem,hplan⟩ :=
    mapM_mem_right hrounds (List.reduceOption_mem_iff.1 (mem_sortBy.1 hentry))
  refine ⟨recommendation,hmem,?_⟩
  unfold planRecommendation at hplan
  split at hplan
  · cases hplan
  split at hplan
  · cases hplan
  split at hplan
  · cases hplan
  obtain ⟨planned,hplanned,hsome⟩ := map_eq_ok.1 hplan
  obtain rfl := some.inj hsome
  exact planWorker_propose hplanned hpropose

end Naim.RebalancePlan
