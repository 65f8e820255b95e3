import Naim.SchedulerExecution
import Naim.Text

/-!
# The scheduling policy

`EvaluateSchedulingPolicy`: the admission errors of a desired state, the load of
its GPUs, the placements that would serve a worker better and the rollout
actions that lead there.
-/

namespace Naim.SchedulingPolicy

open List Rows Text Option

def kFractionEpsilon : ℚ := 1/1000000000

lemma kFractionEpsilon_pos : 0 < kFractionEpsilon := by norm_num [kFractionEpsilon]

def nodeSupportsWorkerExecutionMode (node : NodeInventory) : Bool := node.executionMode ≠ .inferOnly

def effectiveWorkerSelectionPolicy (state : DesiredState) : String :=
  if state.workerGroup.workerSelectionPolicy ≠ "" then state.workerGroup.workerSelectionPolicy
  else if state.inference.workerSelectionPolicy ≠ "" then state.inference.workerSelectionPolicy
  else "prefer-free-then-share"

structure AllocationAccumulator where
  (workerNames exclusiveWorkerNames sharedWorkerNames bestEffortWorkerNames : List String := [])
  preemptibleWorkerNames : List String := []
  (totalFraction bestEffortFraction : ℚ := 0)
  highestPriority : Int32 := Int32.minValue
  lowestPriority : Int32 := Int32.maxValue
  (totalMemoryCapMb bestEffortMemoryCapMb : Int32 := 0)
  (anyMemoryCap missingMemoryCap : Bool := false)
  memoryCapacityMb : Option Int32 := none
  (highestGuaranteedPriority highestBestEffortPriority : Int32 := Int32.minValue)
  deriving DecidableEq

structure WorkerAllocationRecord where
  (workerName nodeName gpuDevice : String)
  shareMode : GpuShareMode
  gpuFraction : ℚ
  priority : Int32
  preemptible : Bool
  memoryCapMb : Option Int32
  currentlySoftShared : Bool
  deriving DecidableEq

structure VictimSelection where
  workerNames : List String := []
  releasedFraction : ℚ := 0
  releasedMemoryCapMb : Int32 := 0
  satisfies : Bool := false
  deriving DecidableEq

structure GpuAllocationGroup where
  (nodeName gpuDevice : String)
  (workerNames exclusiveWorkerNames sharedWorkerNames bestEffortWorkerNames : List String)
  preemptibleWorkerNames : List String
  (totalFraction remainingFraction : ℚ)
  (highestPriority lowestPriority totalMemoryCapMb : Int32)
  (memoryCapacityMb remainingMemoryMb : Option Int32)
  deriving DecidableEq

structure GpuCapacitySummary where
  (nodeName gpuDevice : String)
  (workerCount guaranteedWorkerCount bestEffortWorkerCount : Int32 := 0)
  allocatedFraction : ℚ := 0
  freeFraction : ℚ := 1
  releasableBestEffortFraction : ℚ := 0
  memoryCapacityMb : Option Int32 := none
  (allocatedMemoryCapMb releasableBestEffortMemoryCapMb : Int32 := 0)
  freeMemoryMb : Option Int32 := none
  preemptibleBestEffortWorkers : List String := []
  hasSoftShare : Bool := false
  isIdle : Bool := true
  deriving DecidableEq

structure PlacementCandidate where
  (nodeName gpuDevice : String)
  score : Int32
  (sameNode idle fitsCurrentFraction fitsCurrentWithPreemption fitsExclusiveFraction : Bool)
  (fitsExclusiveWithPreemption fitsMemoryCap fitsMemoryWithPreemption preemptionRequired : Bool)
  freeFraction : ℚ
  freeMemoryMb : Option Int32
  preemptionVictims : List String
  action : String
  deriving DecidableEq

structure WorkerPlacementRecommendation where
  (workerName currentNodeName currentGpuDevice : String)
  currentShareMode : GpuShareMode
  currentFraction : ℚ
  currentMemoryCapMb : Option Int32
  candidates : List PlacementCandidate
  deriving DecidableEq

structure PreemptionHint where
  (nodeName gpuDevice : String)
  victimWorkerNames : List String
  reason : String
  deriving DecidableEq

structure SchedulerRolloutAction where
  step : Int32
  (workerName action targetNodeName targetGpuDevice : String)
  victimWorkerNames : List String := []
  reason : String
  deriving DecidableEq

structure SchedulingPolicyReport where
  allocations : List GpuAllocationGroup
  capacities : List GpuCapacitySummary
  placementRecommendations : List WorkerPlacementRecommendation
  preemptionHints : List PreemptionHint
  rolloutActions : List SchedulerRolloutAction
  (rebalanceHints warnings errors : List String)
  deriving DecidableEq

/-- A worker that passed the checks, with the device it pins and the node it names. -/
structure AdmittedWorker where
  spec : InstanceSpec
  gpuDevice : String
  node : NodeInventory
  deriving DecidableEq

def findNode (nodes : List NodeInventory) (name : String) : Option NodeInventory := nodes.find? (·.name = name)

/-- The checks of one worker in their order; the first that fails gives the message. -/
def admitWorker (nodes : List NodeInventory) (i : InstanceSpec) : Except String AdmittedWorker :=
  let gpu := i.gpuDevice.getD ""
  if gpu = "" then
    .error ("worker '" ++ i.name ++
      "' must pin gpu_device explicitly; implicit scheduler defaults are not allowed")
  else if i.priority < 0 then
    .error ("worker '" ++ i.name ++ "' has invalid priority=" ++ toString i.priority ++
      "; allowed range is >= 0")
  else if i.gpuFraction ≤ 0 ∨ i.gpuFraction > 1 + kFractionEpsilon then
    .error ("worker '" ++ i.name ++ "' has invalid gpu_fraction=" ++ formatDouble i.gpuFraction ++
      "; allowed range is (0, 1]")
  else if i.memoryCapMb.any (· ≤ 0) then
    .error ("worker '" ++ i.name ++ "' has invalid memory_cap_mb; allowed range is > 0")
  else if i.shareMode = .exclusive ∧ |i.gpuFraction - 1| > kFractionEpsilon then
    .error ("worker '" ++ i.name ++ "' uses share_mode=exclusive but gpu_fraction=" ++
      formatDouble i.gpuFraction ++ "; exclusive workers must reserve the whole GPU")
  else if i.shareMode = .bestEffort ∧ ¬ i.preemptible then
    .error ("worker '" ++ i.name ++ "' uses share_mode=best-effort but preemptible=false; " ++
      "best-effort workers must be preemptible")
  else match findNode nodes i.nodeName with
  | none => .error ("worker '" ++ i.name ++ "' references unknown node '" ++ i.nodeName ++ "'")
  | some node =>
    if ¬ nodeSupportsWorkerExecutionMode node then
      .error ("worker '" ++ i.name ++ "' targets node '" ++ i.nodeName ++ "' which is not worker-capable")
    else if gpu ∉ effectiveNodeGpuDevices node then
      .error ("worker '" ++ i.name ++ "' pins missing gpu '" ++ gpu ++ "' on node '" ++ i.nodeName ++ "'")
    else .ok ⟨i,gpu,node⟩

def workers (state : DesiredState) : List InstanceSpec := state.instances.filter (·.role = .worker)

variable {state : DesiredState} {i : InstanceSpec} {nodes : List NodeInventory} {w : AdmittedWorker}
  {n g g' n' gpu : String} {node : NodeInventory} {a : AllocationAccumulator}

lemma role_of_mem_workers (h : i ∈ workers state) : i.role = .worker := by simpa using (mem_filter.1 h).2

def workerErrors (state : DesiredState) : List String :=
  (workers state).filterMap fun i => match admitWorker state.nodes i with
    | .error message => some message
    | .ok _ => none

def admittedWorkers (state : DesiredState) : List AdmittedWorker :=
  (workers state).filterMap fun i => (admitWorker state.nodes i).toOption

def workerRecord (w : AdmittedWorker) : WorkerAllocationRecord where
  workerName := w.spec.name
  nodeName := w.spec.nodeName
  gpuDevice := w.gpuDevice
  shareMode := w.spec.shareMode
  gpuFraction := w.spec.gpuFraction
  priority := w.spec.priority
  preemptible := w.spec.preemptible
  memoryCapMb := w.spec.memoryCapMb
  currentlySoftShared := false

section

variable (policy : String) (records : List WorkerAllocationRecord) (capacities : List GpuCapacitySummary)
  (nodeName gpuDevice : String) (a : AllocationAccumulator) (worker : WorkerAllocationRecord)

/-- Nodes and devices, ordered as `std::pair` orders them. -/
abbrev GpuKey := String ×ₗ String

def gpuKey : GpuKey := toLex (nodeName,gpuDevice)

def accumulateShare (w : AdmittedWorker) (a : AllocationAccumulator) : AllocationAccumulator :=
  match w.spec.shareMode with
  | .exclusive => {a with
      exclusiveWorkerNames := a.exclusiveWorkerNames ++ [w.spec.name]
      highestGuaranteedPriority := max a.highestGuaranteedPriority w.spec.priority}
  | .shared => {a with
      sharedWorkerNames := a.sharedWorkerNames ++ [w.spec.name]
      highestGuaranteedPriority := max a.highestGuaranteedPriority w.spec.priority}
  | .bestEffort => {a with
      bestEffortWorkerNames := a.bestEffortWorkerNames ++ [w.spec.name]
      bestEffortFraction := a.bestEffortFraction + w.spec.gpuFraction
      bestEffortMemoryCapMb := a.bestEffortMemoryCapMb + w.spec.memoryCapMb.getD 0
      highestBestEffortPriority := max a.highestBestEffortPriority w.spec.priority}

def accumulateWorker (w : AdmittedWorker) : AllocationAccumulator :=
  let a := accumulateShare w {a with workerNames := a.workerNames ++ [w.spec.name]}
  {a with
    preemptibleWorkerNames :=
      if w.spec.preemptible then a.preemptibleWorkerNames ++ [w.spec.name] else a.preemptibleWorkerNames
    totalFraction := a.totalFraction + w.spec.gpuFraction
    highestPriority := max a.highestPriority w.spec.priority
    lowestPriority := min a.lowestPriority w.spec.priority
    anyMemoryCap := a.anyMemoryCap || w.spec.memoryCapMb.isSome
    totalMemoryCapMb := match w.spec.memoryCapMb with
      | some cap => a.totalMemoryCapMb + cap
      | none => a.totalMemoryCapMb
    missingMemoryCap := a.missingMemoryCap || w.spec.memoryCapMb.isNone
    memoryCapacityMb := (w.node.gpuMemoryMb.lookup w.gpuDevice).or a.memoryCapacityMb}

def sortNames (names : List String) : List String := sortBy (fun l r => l < r) names

def AllocationAccumulator.sorted : AllocationAccumulator :=
  {a with
    workerNames := sortNames a.workerNames, exclusiveWorkerNames := sortNames a.exclusiveWorkerNames
    sharedWorkerNames := sortNames a.sharedWorkerNames
    bestEffortWorkerNames := sortNames a.bestEffortWorkerNames
    preemptibleWorkerNames := sortNames a.preemptibleWorkerNames}

def allocations (ws : List AdmittedWorker) : List (GpuKey × AllocationAccumulator) :=
  (Assoc.accumulate (fun w => gpuKey w.spec.nodeName w.gpuDevice) accumulateWorker {} ws).map fun e =>
    (e.1,e.2.sorted)

def joinStrings (values : List String) (delimiter : String) : String := delimiter.intercalate values

def allocationGroup : GpuAllocationGroup where
  nodeName
  gpuDevice
  workerNames := a.workerNames
  exclusiveWorkerNames := a.exclusiveWorkerNames
  sharedWorkerNames := a.sharedWorkerNames
  bestEffortWorkerNames := a.bestEffortWorkerNames
  preemptibleWorkerNames := a.preemptibleWorkerNames
  totalFraction := a.totalFraction
  remainingFraction := max 0 (1 - a.totalFraction)
  highestPriority := if a.highestPriority = Int32.minValue then 0 else a.highestPriority
  lowestPriority := if a.lowestPriority = Int32.maxValue then 0 else a.lowestPriority
  totalMemoryCapMb := a.totalMemoryCapMb
  memoryCapacityMb := a.memoryCapacityMb
  remainingMemoryMb := a.memoryCapacityMb.map fun capacity => max 0 (capacity - a.totalMemoryCapMb)

def onGpu (subject : String) (nodeName gpuDevice : String) : String :=
  subject ++ " on node '" ++ nodeName ++ "' gpu '" ++ gpuDevice ++ "'"

def allocationErrors : List String :=
  (if a.exclusiveWorkerNames ≠ [] ∧ a.workerNames.length > 1 then
    ["gpu '" ++ gpuDevice ++ "' on node '" ++ nodeName ++
      "' mixes share_mode=exclusive with other workers: " ++ joinStrings a.workerNames ","] else []) ++
  (if a.totalFraction > 1 + kFractionEpsilon then
    [onGpu "gpu oversubscription" nodeName gpuDevice ++ ": total requested fraction=" ++
      formatDouble a.totalFraction ++ " by workers " ++ joinStrings a.workerNames ","] else []) ++
  (match a.memoryCapacityMb with
    | some capacity => if a.totalMemoryCapMb > capacity then
        [onGpu "gpu memory oversubscription" nodeName gpuDevice ++ ": total requested memory_cap_mb=" ++
          toString a.totalMemoryCapMb ++ " exceeds capacity_mb=" ++ toString capacity ++
          " by workers " ++ joinStrings a.workerNames ","] else []
    | none => [])

def allocationWarnings : List String :=
  (if a.memoryCapacityMb.isNone ∧ a.anyMemoryCap then
    ["gpu '" ++ gpuDevice ++ "' on node '" ++ nodeName ++
      "' has memory_cap_mb requests but node inventory does not expose gpu_memory_mb"] else []) ++
  (if a.workerNames.length > 1 then
    [onGpu "soft-share group" nodeName gpuDevice ++ ": workers=" ++ joinStrings a.workerNames "," ++
      " total_fraction=" ++ formatDouble a.totalFraction ++
      " shared=" ++ toString a.sharedWorkerNames.length ++
      " best_effort=" ++ toString a.bestEffortWorkerNames.length ++
      " preemptible=" ++ toString a.preemptibleWorkerNames.length ++
      (match a.memoryCapacityMb with
        | some capacity => " memory_cap_mb=" ++ toString a.totalMemoryCapMb ++ "/" ++ toString capacity
        | none => "")] else []) ++
  (if a.missingMemoryCap ∧ a.workerNames.length > 1 then
    [onGpu "soft-share group" nodeName gpuDevice ++
      " is missing memory_cap_mb on one or more workers; memory-aware admission will be incomplete"]
    else []) ++
  (if a.bestEffortWorkerNames ≠ [] ∧ a.highestGuaranteedPriority ≠ Int32.minValue ∧
      a.highestBestEffortPriority ≥ a.highestGuaranteedPriority then
    [onGpu "best-effort workers" nodeName gpuDevice ++
      " do not have lower priority than the rest of the group"] else [])

def preemptionReason : String :=
  if a.bestEffortWorkerNames ≠ [] ∧ (a.exclusiveWorkerNames ≠ [] ∨ a.sharedWorkerNames ≠ []) then
    "protect guaranteed workers before best-effort workers on the same GPU"
  else if a.workerNames.length > 1 then
    "reduce soft-share pressure by evicting the lowest-priority best-effort workers first"
  else "free capacity for higher-priority or guaranteed work"

/-- The comparator of the victim order: low priority first, then large fraction, large cap, name. -/
def victimBefore (l r : WorkerAllocationRecord) : Bool :=
  if l.priority ≠ r.priority then l.priority < r.priority
  else if |l.gpuFraction - r.gpuFraction| > kFractionEpsilon then l.gpuFraction > r.gpuFraction
  else if l.memoryCapMb.getD 0 ≠ r.memoryCapMb.getD 0 then l.memoryCapMb.getD 0 > r.memoryCapMb.getD 0
  else l.workerName < r.workerName

def buildBestEffortVictimOrder : List WorkerAllocationRecord :=
  sortBy victimBefore (records.filter fun r =>
    r.nodeName = nodeName && r.gpuDevice = gpuDevice && r.shareMode = .bestEffort && r.preemptible)

def collectVictims (neededFraction : ℚ) (neededMemoryMb : Int32) (selection : VictimSelection) :
    List WorkerAllocationRecord → VictimSelection
  | [] => selection
  | victim::rest =>
    let selection := {selection with
      workerNames := selection.workerNames ++ [victim.workerName]
      releasedFraction := selection.releasedFraction + victim.gpuFraction
      releasedMemoryCapMb := selection.releasedMemoryCapMb + victim.memoryCapMb.getD 0}
    if selection.releasedFraction + kFractionEpsilon ≥ neededFraction ∧
        selection.releasedMemoryCapMb ≥ neededMemoryMb then {selection with satisfies := true}
    else collectVictims neededFraction neededMemoryMb selection rest

section

variable (capacity : GpuCapacitySummary)

def neededMemoryMb : Int32 :=
  match worker.memoryCapMb, capacity.freeMemoryMb with
  | some cap, some free => max 0 (cap - free)
  | _, _ => 0

def selectMinimalVictims (victimOrder : List WorkerAllocationRecord) (requiredFraction : ℚ) : VictimSelection :=
  let neededFraction := max 0 (requiredFraction - capacity.freeFraction)
  let neededMemory := neededMemoryMb worker capacity
  if neededFraction ≤ kFractionEpsilon ∧ neededMemory ≤ 0 then {satisfies := true}
  else collectVictims neededFraction neededMemory {} victimOrder

def scorePlacementCandidate
    (fitsCurrentFraction fitsCurrentWithPreemption fitsExclusiveFraction fitsExclusiveWithPreemption
      fitsMemoryCap fitsMemoryWithPreemption preemptionRequired : Bool) : Int32 :=
  (if capacity.nodeName = worker.nodeName then 40 else 0) +
  (if capacity.isIdle then 60 else 0) +
  (if fitsCurrentFraction then 20 else if fitsCurrentWithPreemption then 8 else 0) +
  (if fitsExclusiveFraction then 40 else if fitsExclusiveWithPreemption then 15 else 0) +
  (if fitsMemoryCap then 15 else if fitsMemoryWithPreemption then 5 else -50) -
  (if preemptionRequired then 20 else 0) +
  Int32.ofInt (Int.tdiv (capacity.freeFraction * 10).num (capacity.freeFraction * 10).den) -
  capacity.workerCount * 10

def placementCandidatePolicyRank (c : PlacementCandidate) : ℕ :=
  if policy = "prefer-free-then-share" then
    if c.idle && !c.preemptionRequired then 0
    else if !c.idle && !c.preemptionRequired && (c.fitsExclusiveFraction || c.fitsCurrentFraction) then 1
    else if c.preemptionRequired then 2
    else 3
  else if c.preemptionRequired then 1 else 0

def placementAction (fitsCurrentWithPreemption fitsExclusiveFraction
    fitsExclusiveWithPreemption fitsCurrentFraction fitsMemoryWithPreemption : Bool) : String :=
  if !fitsMemoryWithPreemption then "insufficient-memory"
  else if fitsExclusiveFraction then
    if worker.currentlySoftShared ∨ worker.gpuFraction < 1 - kFractionEpsilon ∨
        worker.shareMode ≠ .exclusive then "upgrade-to-exclusive" else "move-equivalent"
  else if fitsExclusiveWithPreemption then "preempt-best-effort-to-exclusive"
  else if fitsCurrentFraction then "move-with-current-fraction"
  else if fitsCurrentWithPreemption then "preempt-best-effort-and-move"
  else "insufficient-fraction"

def placementCandidate : PlacementCandidate :=
  let victimOrder := buildBestEffortVictimOrder records capacity.nodeName capacity.gpuDevice
  let fitsCurrentFraction : Bool := capacity.freeFraction + kFractionEpsilon ≥ worker.gpuFraction
  let currentSelection := selectMinimalVictims worker capacity victimOrder worker.gpuFraction
  let fitsCurrentWithPreemption := currentSelection.satisfies
  let fitsExclusiveFraction : Bool := capacity.isIdle && capacity.freeFraction + kFractionEpsilon ≥ 1
  let exclusiveSelection := selectMinimalVictims worker capacity victimOrder 1
  let fitsExclusiveWithPreemption : Bool :=
    capacity.guaranteedWorkerCount = 0 && exclusiveSelection.satisfies
  let fitsMemoryCap : Bool := match worker.memoryCapMb, capacity.freeMemoryMb with
    | some cap, some free => free ≥ cap
    | _, _ => true
  let fitsMemoryWithPreemption := fitsCurrentWithPreemption || fitsExclusiveWithPreemption
  let preemptionRequired := !capacity.isIdle &&
    (fitsExclusiveWithPreemption && !fitsExclusiveFraction ||
      fitsCurrentWithPreemption && !fitsCurrentFraction)
  let victims := if fitsExclusiveWithPreemption && !fitsExclusiveFraction
    then exclusiveSelection.workerNames else currentSelection.workerNames
  { nodeName := capacity.nodeName
    gpuDevice := capacity.gpuDevice, sameNode := capacity.nodeName = worker.nodeName, idle := capacity.isIdle
    fitsCurrentFraction, fitsCurrentWithPreemption, fitsExclusiveFraction, fitsExclusiveWithPreemption
    fitsMemoryCap, fitsMemoryWithPreemption, preemptionRequired, freeFraction := capacity.freeFraction
    freeMemoryMb := capacity.freeMemoryMb, preemptionVictims := victims
    action := placementAction worker fitsCurrentWithPreemption fitsExclusiveFraction
      fitsExclusiveWithPreemption fitsCurrentFraction fitsMemoryWithPreemption
    score := scorePlacementCandidate worker capacity fitsCurrentFraction fitsCurrentWithPreemption
        fitsExclusiveFraction fitsExclusiveWithPreemption fitsMemoryCap fitsMemoryWithPreemption
        preemptionRequired - Int32.ofNat victims.length * 5 }

def candidateBefore (l r : PlacementCandidate) : Bool :=
  let leftRank := placementCandidatePolicyRank policy l
  let rightRank := placementCandidatePolicyRank policy r
  if leftRank ≠ rightRank then leftRank < rightRank
  else if l.score ≠ r.score then l.score > r.score
  else if l.sameNode ≠ r.sameNode then l.sameNode
  else if l.preemptionRequired ≠ r.preemptionRequired then !l.preemptionRequired
  else if l.idle ≠ r.idle then l.idle
  else if |l.freeFraction - r.freeFraction| > kFractionEpsilon then l.freeFraction > r.freeFraction
  else if l.nodeName ≠ r.nodeName then l.nodeName < r.nodeName
  else l.gpuDevice < r.gpuDevice

/-- Workers that already own a whole GPU get no recommendation. -/
def needsRecommendation : Bool :=
  worker.currentlySoftShared || worker.gpuFraction < 1 - kFractionEpsilon || worker.shareMode ≠ .exclusive

def isCurrentGpu : Bool :=
  capacity.nodeName = worker.nodeName && capacity.gpuDevice = worker.gpuDevice

end

def recommendation : WorkerPlacementRecommendation where
  workerName := worker.workerName
  currentNodeName := worker.nodeName
  currentGpuDevice := worker.gpuDevice
  currentShareMode := worker.shareMode
  currentFraction := worker.gpuFraction
  currentMemoryCapMb := worker.memoryCapMb
  candidates := sortBy (candidateBefore policy)
    ((capacities.filter fun c => !isCurrentGpu worker c).map (placementCandidate records worker))

def placementRecommendations : List WorkerPlacementRecommendation :=
  sortBy (fun l r => l.workerName < r.workerName)
    (((records.filter needsRecommendation).map (recommendation policy records capacities)).filter
      fun r => r.candidates ≠ [])

def evictAction (step : Int32) (workerName : String) (c : PlacementCandidate) : SchedulerRolloutAction where
  step
  workerName
  action := "evict-best-effort"
  targetNodeName := c.nodeName
  targetGpuDevice := c.gpuDevice
  victimWorkerNames := c.preemptionVictims
  reason := "free target capacity before retrying placement for worker '" ++ workerName ++ "'"

def retryAction (step : Int32) (workerName : String) (c : PlacementCandidate) : SchedulerRolloutAction where
  step
  workerName
  action := "retry-placement"
  targetNodeName := c.nodeName
  targetGpuDevice := c.gpuDevice
  reason := "apply deferred scheduler decision after eviction completes"

def rolloutActions : Int32 → List WorkerPlacementRecommendation → List SchedulerRolloutAction
  | _, [] => []
  | step, r::rs => match r.candidates with
    | [] => rolloutActions step rs
    | c::_ =>
      if !c.preemptionRequired ∨ c.preemptionVictims = [] then rolloutActions step rs
      else evictAction step r.workerName c::retryAction (step + 1) r.workerName c::
        rolloutActions (step + 2) rs

def capacitySummary (allocated : List (GpuKey × AllocationAccumulator)) (node : NodeInventory)
    (gpuDevice : String) : GpuCapacitySummary :=
  let summary : GpuCapacitySummary := match allocated.lookup (gpuKey node.name gpuDevice) with
    | none => {nodeName := node.name, gpuDevice}
    | some a =>
      { nodeName := node.name
        gpuDevice, workerCount := Int32.ofNat a.workerNames.length
        guaranteedWorkerCount := Int32.ofNat (a.exclusiveWorkerNames.length + a.sharedWorkerNames.length)
        bestEffortWorkerCount := Int32.ofNat a.bestEffortWorkerNames.length
        allocatedFraction := a.totalFraction, freeFraction := max 0 (1 - a.totalFraction)
        releasableBestEffortFraction := a.bestEffortFraction, allocatedMemoryCapMb := a.totalMemoryCapMb
        releasableBestEffortMemoryCapMb := a.bestEffortMemoryCapMb
        preemptibleBestEffortWorkers := a.bestEffortWorkerNames, hasSoftShare := a.workerNames.length > 1
        isIdle := a.workerNames = [] }
  match node.gpuMemoryMb.lookup gpuDevice with
  | none => summary
  | some memory => {summary with
      memoryCapacityMb := some memory, freeMemoryMb := some (max 0 (memory - summary.allocatedMemoryCapMb))}

def inventoryCapacities (allocated : List (GpuKey × AllocationAccumulator)) (nodes : List NodeInventory) :
    List GpuCapacitySummary :=
  (nodes.filter nodeSupportsWorkerExecutionMode).flatMap fun node =>
    (effectiveNodeGpuDevices node).map (capacitySummary allocated node)

/-- The comparator of summaries, hints and groups: by node, then by device. -/
def gpuBefore {α : Type} (nodeName gpuDevice : α → String) (l r : α) : Bool :=
  if nodeName l ≠ nodeName r then nodeName l < nodeName r else gpuDevice l < gpuDevice r

def idleWarnings : List String :=
  let idle := capacities.filter (·.isIdle)
  if capacities.any (·.hasSoftShare) ∧ idle ≠ [] then
    ["idle gpu capacity exists while soft-share groups are active; consider rebalancing to " ++
      joinStrings (idle.map fun c => c.nodeName ++ ":" ++ c.gpuDevice) ","]
  else []

structure RebalanceSearch where
  (preferred fallback preferredPreemption fallbackPreemption : Option GpuCapacitySummary := none)
  deriving DecidableEq

def fitsMemoryAfterPreemption (c : GpuCapacitySummary) : Bool :=
  match worker.memoryCapMb, c.memoryCapacityMb, c.freeMemoryMb with
  | some cap, some _, some free => cap ≤ free + c.releasableBestEffortMemoryCapMb
  | _, _, _ => true

/-- Whether a busy GPU holds only best-effort workers and has room for the worker without them. -/
def clearable (c : GpuCapacitySummary) : Bool :=
  c.bestEffortWorkerCount ≠ 0 && c.guaranteedWorkerCount = 0 && c.preemptibleBestEffortWorkers ≠ [] &&
    (c.freeFraction + c.releasableBestEffortFraction + kFractionEpsilon ≥ 1 ||
      c.freeFraction + c.releasableBestEffortFraction + kFractionEpsilon ≥ worker.gpuFraction)

def searchRebalance (worker : WorkerAllocationRecord) :
    RebalanceSearch → List GpuCapacitySummary → RebalanceSearch
  | found, [] => found
  | found, c::cs =>
    if isCurrentGpu worker c || !fitsMemoryAfterPreemption worker c then searchRebalance worker found cs
    else if c.isIdle then
      -- an idle GPU of the same node ends the search
      if worker.nodeName = c.nodeName then {found with preferred := some c}
      else searchRebalance worker {found with fallback := found.fallback.or (some c)} cs
    else if !clearable worker c then searchRebalance worker found cs
    else if worker.nodeName = c.nodeName then
      -- the last one of the same node is kept, of the other nodes the first
      searchRebalance worker {found with preferredPreemption := some c} cs
    else searchRebalance worker {found with fallbackPreemption := found.fallbackPreemption.or (some c)} cs

def rebalanceHintText (c : GpuCapacitySummary) : String :=
  "worker '" ++ worker.workerName ++ "' can be rebalanced from " ++ worker.nodeName ++ ":" ++
    worker.gpuDevice ++
  (if c.isIdle then
    " to idle gpu " ++ c.nodeName ++ ":" ++ c.gpuDevice ++
      " and upgraded to share_mode=exclusive fraction=1" ++
      (if worker.currentlySoftShared then " to dissolve a soft-share group"
        else if worker.gpuFraction < 1 - kFractionEpsilon then " to avoid partial GPU reservation" else "")
  else
    " to gpu " ++ c.nodeName ++ ":" ++ c.gpuDevice ++ " after preempting best-effort workers " ++
      joinStrings c.preemptibleBestEffortWorkers ",") ++
  (match worker.memoryCapMb, c.memoryCapacityMb with
    | some cap, some capacity =>
      " (memory_cap_mb=" ++ toString cap ++ ", target_capacity_mb=" ++ toString capacity ++ ")"
    | _, _ => "")

def rebalanceHint : Option String :=
  let found := searchRebalance worker {} capacities
  (((found.preferred.or found.fallback).or found.preferredPreemption).or found.fallbackPreemption).map
    (rebalanceHintText worker)

def workerRecords (ws : List AdmittedWorker) (allocated : List (GpuKey × AllocationAccumulator)) :
    List WorkerAllocationRecord :=
  (ws.map workerRecord).map fun r => {r with
    currentlySoftShared := allocated.any fun e =>
      e.1 = gpuKey r.nodeName r.gpuDevice && e.2.workerNames.length > 1}

def preemptionHint : Option PreemptionHint :=
  if a.bestEffortWorkerNames = [] then none
  else some
    { nodeName
      gpuDevice
      victimWorkerNames :=
        (buildBestEffortVictimOrder records nodeName gpuDevice).map (·.workerName)
      reason := preemptionReason a }

def evaluateSchedulingPolicy (state : DesiredState) : SchedulingPolicyReport :=
  let ws := admittedWorkers state
  let allocated := allocations ws
  let records := workerRecords ws allocated
  let inventory := inventoryCapacities allocated state.nodes
  let capacities := sortBy (gpuBefore (·.nodeName) (·.gpuDevice)) inventory
  let recommendations := placementRecommendations (effectiveWorkerSelectionPolicy state) records capacities
  { allocations := sortBy (gpuBefore (·.nodeName) (·.gpuDevice))
      (allocated.map fun e => allocationGroup (ofLex e.1).1 (ofLex e.1).2 e.2)
    capacities, placementRecommendations := recommendations
    preemptionHints := sortBy (gpuBefore (·.nodeName) (·.gpuDevice))
      (allocated.filterMap fun e => preemptionHint records (ofLex e.1).1 (ofLex e.1).2 e.2)
    rolloutActions := rolloutActions 1 recommendations
    rebalanceHints := (records.filter needsRecommendation).filterMap (rebalanceHint capacities)
    warnings := allocated.flatMap (fun e => allocationWarnings (ofLex e.1).1 (ofLex e.1).2 e.2) ++
      idleWarnings inventory
    errors := workerErrors state ++
      allocated.flatMap fun e => allocationErrors (ofLex e.1).1 (ofLex e.1).2 e.2 }

def requireSchedulingPolicy (state : DesiredState) : Checked Unit :=
  let errors := (evaluateSchedulingPolicy state).errors
  if errors = [] then .ok ()
  else Checked.fail ("desired state violates scheduling policy:" ++
    String.join (errors.map fun error => "\n- " ++ error))

end

structure Admissible (nodes : List NodeInventory) (i : InstanceSpec) (gpu : String) (node : NodeInventory) :
    Prop where
  pinned : i.gpuDevice = some gpu
  gpu_ne : gpu ≠ ""
  priority : 0 ≤ i.priority
  fraction_pos : 0 < i.gpuFraction
  fraction_le : i.gpuFraction ≤ 1 + kFractionEpsilon
  memory : ∀ cap ∈ i.memoryCapMb, 0 < cap
  exclusive : i.shareMode = .exclusive → |i.gpuFraction - 1| ≤ kFractionEpsilon
  bestEffort : i.shareMode = .bestEffort → i.preemptible
  found : findNode nodes i.nodeName = some node
  supported : nodeSupportsWorkerExecutionMode node
  present : gpu ∈ effectiveNodeGpuDevices node

lemma pinned_of_getD_ne (h : i.gpuDevice.getD "" ≠ "") : i.gpuDevice = some (i.gpuDevice.getD "") := by
  cases hg : i.gpuDevice with
  | none => simp [hg] at h
  | some gpu => rfl

lemma admissible_of_admitWorker (h : admitWorker nodes i = .ok w) :
    w.spec = i ∧ Admissible nodes i w.gpuDevice w.node := by
  unfold admitWorker at h
  dsimp only at h
  split at h
  · cases h
  rename_i hgpu
  split at h
  · cases h
  rename_i hpriority
  split at h
  · cases h
  rename_i hfraction
  split at h
  · cases h
  rename_i hmemory
  split at h
  · cases h
  rename_i hexclusive
  split at h
  · cases h
  rename_i hbestEffort
  split at h
  · cases h
  rename_i node hfound
  split at h
  · cases h
  rename_i hsupported
  split at h
  · cases h
  rename_i hpresent
  obtain rfl := Except.ok.inj h
  rw [not_or,not_le,not_lt] at hfraction
  refine ⟨rfl,pinned_of_getD_ne hgpu,hgpu,?_,hfraction.1,hfraction.2,?_,?_,?_,hfound,by simpa using hsupported,
    by simpa using hpresent⟩
  · exact Int32.not_lt.1 hpriority
  · intro cap hcap
    have : i.memoryCapMb = some cap := hcap
    simpa [this] using hmemory
  · exact fun hs => not_lt.1 fun hf => hexclusive ⟨hs,hf⟩
  · exact fun hs => by simpa [hs] using hbestEffort

lemma admitWorker_of_admissible (h : Admissible nodes i gpu node) : admitWorker nodes i = .ok ⟨i,gpu,node⟩ := by
  have hgpu : i.gpuDevice.getD "" = gpu := by rw [h.pinned]; rfl
  have hmemory : i.memoryCapMb.any (· ≤ 0) = false := by
    cases hm : i.memoryCapMb with
    | none => rfl
    | some cap => simpa using h.memory cap hm
  unfold admitWorker
  rw [hgpu,if_neg h.gpu_ne,if_neg (Int32.not_lt.2 h.priority),
    if_neg (not_or.2 ⟨not_le.2 h.fraction_pos,not_lt.2 h.fraction_le⟩),
    if_neg (by simp [hmemory]),if_neg (fun hs => absurd hs.2 (not_lt.2 (h.exclusive hs.1))),
    if_neg (fun hs => hs.2 (h.bestEffort hs.1)),h.found]
  dsimp only
  rw [if_neg (not_not.2 h.supported),if_neg (not_not.2 h.present)]

lemma admitWorker_eq_ok : admitWorker nodes i = .ok w ↔ w.spec = i ∧ Admissible nodes i w.gpuDevice w.node := by
  constructor
  · exact admissible_of_admitWorker
  · rintro ⟨rfl,h⟩
    exact admitWorker_of_admissible h

section

variable (state : DesiredState) (nodeName gpuDevice : String) (ws : List InstanceSpec)

def memorySum : Int32 := ws.foldl (fun m i => m + i.memoryCapMb.getD 0) 0

lemma memorySum_concat (i : InstanceSpec) : memorySum (ws ++ [i]) = memorySum ws + i.memoryCapMb.getD 0 := by
  rw [memorySum,foldl_append]
  rfl

lemma memorySum_singleton (i : InstanceSpec) : memorySum [i] = i.memoryCapMb.getD 0 := by simp [memorySum]

structure Loaded (ws : List AdmittedWorker) (a : AllocationAccumulator) : Prop where
  workerNames : a.workerNames = ws.map (·.spec.name)
  exclusiveWorkerNames :
    a.exclusiveWorkerNames = (ws.filter (·.spec.shareMode = .exclusive)).map (·.spec.name)
  sharedWorkerNames :
    a.sharedWorkerNames = (ws.filter (·.spec.shareMode = .shared)).map (·.spec.name)
  bestEffortWorkerNames :
    a.bestEffortWorkerNames = (ws.filter (·.spec.shareMode = .bestEffort)).map (·.spec.name)
  totalFraction : a.totalFraction = (ws.map (·.spec.gpuFraction)).sum
  totalMemoryCapMb : a.totalMemoryCapMb = memorySum (ws.map (·.spec))
  memoryCapacityMb : ∀ node gpu, (∀ w ∈ ws, w.node = node ∧ w.gpuDevice = gpu) →
    a.memoryCapacityMb = if ws = [] then none else node.gpuMemoryMb.lookup gpu

lemma loaded_accumulate (ws : List AdmittedWorker) : Loaded ws (ws.foldl accumulateWorker {}) := by
  induction ws using List.reverseRecOn with
  | nil => constructor <;> simp [memorySum]
  | append_singleton ws w ih =>
    rw [foldl_append,foldl_cons,foldl_nil]
    generalize ws.foldl accumulateWorker {} = a at ih ⊢
    have hmemory : (accumulateWorker a w).totalMemoryCapMb = a.totalMemoryCapMb + w.spec.memoryCapMb.getD 0 := by
      cases hs : w.spec.shareMode <;> cases hm : w.spec.memoryCapMb <;>
        simp [accumulateWorker,accumulateShare,hs,hm]
    have hcapacity : (accumulateWorker a w).memoryCapacityMb =
        (w.node.gpuMemoryMb.lookup w.gpuDevice).or a.memoryCapacityMb := by
      cases hs : w.spec.shareMode <;> simp [accumulateWorker,accumulateShare,hs]
    constructor
    case totalMemoryCapMb =>
      rw [hmemory,ih.totalMemoryCapMb,map_append,map_singleton,memorySum_concat]
    case memoryCapacityMb =>
      intro node gpu hall
      obtain ⟨hnode,hgpu⟩ := hall w (by simp)
      have hne : ws ++ [w] ≠ [] := by simp
      rw [hcapacity,hnode,hgpu,ih.memoryCapacityMb node gpu fun v hv => hall v (by simp [hv]),if_neg hne]
      split
      · exact or_none
      · exact or_self
    all_goals
      cases hs : w.spec.shareMode <;>
        simp [accumulateWorker,accumulateShare,hs,ih.workerNames,ih.exclusiveWorkerNames,
          ih.sharedWorkerNames,ih.bestEffortWorkerNames,ih.totalFraction]

def isOn (i : InstanceSpec) : Bool := i.nodeName = nodeName && i.gpuDevice = some gpuDevice

lemma isOn_iff : isOn n g i ↔ i.nodeName = n ∧ i.gpuDevice = some g := by simp [isOn]

lemma isOn_unique (h : isOn n g i) (h' : isOn n' g' i) : n = n' ∧ g = g' := by
  obtain ⟨rfl,hg⟩ := isOn_iff.1 h
  obtain ⟨rfl,hg'⟩ := isOn_iff.1 h'
  exact ⟨rfl,some.inj (hg.symm.trans hg')⟩

def workersOn : List InstanceSpec := (workers state).filter (isOn nodeName gpuDevice)

def admittedOn : List AdmittedWorker :=
  (admittedWorkers state).filter fun w =>
    gpuKey w.spec.nodeName w.gpuDevice = gpuKey nodeName gpuDevice

def capacityMb (nodes : List NodeInventory) (nodeName gpuDevice : String) : Option Int32 :=
  (findNode nodes nodeName).bind (·.gpuMemoryMb.lookup gpuDevice)

structure LoadAdmissible (ws : List InstanceSpec) (capacity : Option Int32) : Prop where
  alone : ∀ i ∈ ws, i.shareMode = .exclusive → ws.length ≤ 1
  fraction : (ws.map (·.gpuFraction)).sum ≤ 1 + kFractionEpsilon
  memory : ∀ c ∈ capacity, memorySum ws ≤ c

end

@[simp] lemma gpuKey_inj : gpuKey n g = gpuKey n' g' ↔ n = n' ∧ g = g' := by simp [gpuKey]

lemma mem_admittedWorkers :
    w ∈ admittedWorkers state ↔ w.spec ∈ workers state ∧
      Admissible state.nodes w.spec w.gpuDevice w.node := by
  simp only [admittedWorkers,mem_filterMap]
  constructor
  · rintro ⟨i,hi,h⟩
    have : admitWorker state.nodes i = .ok w := by
      cases ha : admitWorker state.nodes i with
      | error message => simp [ha,Except.toOption] at h
      | ok v => simpa [ha,Except.toOption] using h
    obtain ⟨rfl,hw⟩ := admitWorker_eq_ok.1 this
    exact ⟨hi,hw⟩
  · rintro ⟨hi,hw⟩
    exact ⟨w.spec,hi,by rw [admitWorker_of_admissible hw]; rfl⟩

lemma lookup_allocations (state : DesiredState) (n g : String) :
    (allocations (admittedWorkers state)).lookup (gpuKey n g) =
      if admittedOn state n g = [] then none
      else some ((admittedOn state n g).foldl accumulateWorker {}).sorted := by
  rw [allocations,Assoc.lookup_map_snd,Assoc.lookup_accumulate]
  unfold admittedOn
  split <;> rfl

lemma mem_allocations :
    (gpuKey n g,a) ∈ allocations (admittedWorkers state) ↔
      admittedOn state n g ≠ [] ∧ a = ((admittedOn state n g).foldl accumulateWorker {}).sorted := by
  have hsorted : Assoc.Sorted (allocations (admittedWorkers state)) := by
    rw [allocations,Assoc.Sorted,pairwise_map]
    exact Assoc.Sorted.accumulate _ _ _ _
  rw [hsorted.mem_iff_lookup,lookup_allocations]
  by_cases h : admittedOn state n g = []
  · rw [if_pos h]
    exact ⟨fun ha => some_ne_none a ha.symm |>.elim,fun ha => absurd h ha.1⟩
  · rw [if_neg h]
    exact ⟨fun ha => ⟨h,(some.inj ha).symm⟩,fun ha => by rw [ha.2]⟩

lemma workerErrors_eq_nil :
    workerErrors state = [] ↔ ∀ i ∈ workers state, ∃ gpu node, Admissible state.nodes i gpu node := by
  simp only [workerErrors,filterMap_eq_nil_iff]
  refine forall_congr' fun i => imp_congr_right fun _ => ?_
  cases ha : admitWorker state.nodes i with
  | error message =>
    refine ⟨fun h => by simp at h,?_⟩
    rintro ⟨gpu,node,h⟩
    rw [admitWorker_of_admissible h] at ha
    cases ha
  | ok w => exact ⟨fun _ => ⟨w.gpuDevice,w.node,(admitWorker_eq_ok.1 ha).2⟩,fun _ => rfl⟩

/-- When every worker is admitted, the load of a GPU is that of the workers that name it. -/
lemma admittedOn_specs (h : workerErrors state = []) (n g : String) :
    (admittedOn state n g).map (·.spec) = workersOn state n g := by
  rw [workerErrors_eq_nil] at h
  unfold admittedOn admittedWorkers workersOn
  generalize workers state = is at h ⊢
  induction is with
  | nil => rfl
  | cons i is ih =>
    obtain ⟨gpu,node,hi⟩ := h i (by simp)
    have ih := ih fun j hj => h j (by simp [hj])
    have hon : isOn n g i = decide (gpuKey i.nodeName gpu = gpuKey n g) := by
      simp [isOn,hi.pinned]
    have hok : (admitWorker state.nodes i).toOption = some ⟨i,gpu,node⟩ := by
      rw [admitWorker_of_admissible hi]
      rfl
    rw [@List.filterMap_cons_some _ _ (fun j => (admitWorker state.nodes j).toOption) _ _ _ hok,filter_cons,
      filter_cons,hon]
    split
    · rw [map_cons,ih]
    · exact ih

lemma ite_singleton_eq_nil {α : Type} {p : Prop} [Decidable p] {x : α} :
    (if p then [x] else []) = [] ↔ ¬ p := by split <;> simp [*]

lemma allocationErrors_eq_nil :
    allocationErrors n g a = [] ↔ (a.exclusiveWorkerNames ≠ [] → a.workerNames.length ≤ 1) ∧
      a.totalFraction ≤ 1 + kFractionEpsilon ∧ ∀ c ∈ a.memoryCapacityMb, a.totalMemoryCapMb ≤ c := by
  unfold allocationErrors
  rw [append_eq_nil_iff,append_eq_nil_iff,ite_singleton_eq_nil,ite_singleton_eq_nil,and_assoc]
  refine and_congr ?_ (and_congr not_lt ?_)
  · rw [not_and,not_lt]
  · cases a.memoryCapacityMb with
    | none => simp
    | some capacity =>
      simp [Int32.not_lt]

lemma allocationErrors_loaded (n : String) (hall : ∀ w ∈ ws, w.node = node ∧ w.gpuDevice = g) (hne : ws ≠ []) :
    allocationErrors n g (ws.foldl accumulateWorker {}).sorted = [] ↔
      LoadAdmissible (ws.map (·.spec)) (node.gpuMemoryMb.lookup g) := by
  have hl := loaded_accumulate ws
  have hcapacity := hl.memoryCapacityMb node g hall
  rw [if_neg hne] at hcapacity
  generalize ws.foldl accumulateWorker {} = a at hl hcapacity ⊢
  have hexclusive : a.sorted.exclusiveWorkerNames ≠ [] ↔ ∃ w ∈ ws, w.spec.shareMode = .exclusive := by
    show sortNames a.exclusiveWorkerNames ≠ [] ↔ _
    rw [sortNames,← length_pos_iff,length_sortBy,length_pos_iff,hl.exclusiveWorkerNames]
    simp
  have hlength : a.sorted.workerNames.length = (ws.map (·.spec)).length := by
    show (sortNames a.workerNames).length = _
    rw [sortNames,length_sortBy,hl.workerNames,length_map,length_map]
  rw [allocationErrors_eq_nil,hexclusive,hlength]
  show _ ∧ a.totalFraction ≤ _ ∧ (∀ c ∈ a.memoryCapacityMb, a.totalMemoryCapMb ≤ c) ↔ _
  rw [hl.totalFraction,hl.totalMemoryCapMb,hcapacity]
  constructor
  · rintro ⟨h₁,h₂,h₃⟩
    refine ⟨?_,by simpa [Function.comp_def] using h₂,h₃⟩
    intro i hi hs
    obtain ⟨w,hw,rfl⟩ := mem_map.1 hi
    exact h₁ ⟨w,hw,hs⟩
  · rintro ⟨h₁,h₂,h₃⟩
    refine ⟨?_,by simpa [Function.comp_def] using h₂,h₃⟩
    rintro ⟨w,hw,hs⟩
    exact h₁ w.spec (mem_map.2 ⟨w,hw,rfl⟩) hs

lemma errors_eq_nil_iff (state : DesiredState) :
    (evaluateSchedulingPolicy state).errors = [] ↔
      (∀ i ∈ workers state, ∃ gpu node, Admissible state.nodes i gpu node) ∧
      ∀ n g, workersOn state n g ≠ [] →
        LoadAdmissible (workersOn state n g) (capacityMb state.nodes n g) := by
  have hload : workerErrors state = [] → ∀ n g,
      (∀ a, (gpuKey n g,a) ∈ allocations (admittedWorkers state) → allocationErrors n g a = []) ↔
      (workersOn state n g ≠ [] → LoadAdmissible (workersOn state n g) (capacityMb state.nodes n g)) := by
    intro h n g
    have hspecs := admittedOn_specs h n g
    by_cases hne : admittedOn state n g = []
    · simp [mem_allocations,← hspecs,hne]
    have hon : ∀ w ∈ admittedOn state n g, findNode state.nodes n = some w.node ∧ w.gpuDevice = g := by
      intro w hw
      obtain ⟨hmem,hkey⟩ := mem_filter.1 hw
      obtain ⟨hn,hg⟩ := gpuKey_inj.1 (of_decide_eq_true hkey)
      exact ⟨hn ▸ (mem_admittedWorkers.1 hmem).2.found,hg⟩
    obtain ⟨w,hw⟩ := exists_mem_of_ne_nil _ hne
    have hnode := (hon w hw).1
    have hall : ∀ v ∈ admittedOn state n g, v.node = w.node ∧ v.gpuDevice = g := fun v hv =>
      ⟨some.inj ((hon v hv).1.symm.trans hnode),(hon v hv).2⟩
    have hcapacity : capacityMb state.nodes n g = w.node.gpuMemoryMb.lookup g := by
      rw [capacityMb,hnode]
      rfl
    rw [hcapacity,← hspecs,← allocationErrors_loaded n hall hne]
    simp [mem_allocations,hne]
  show workerErrors state ++ _ = [] ↔ _
  rw [append_eq_nil_iff,← workerErrors_eq_nil,flatMap_eq_nil_iff]
  refine and_congr_right fun h => ?_
  constructor
  · exact fun hall n g => (hload h n g).1 fun a ha => hall (gpuKey n g,a) ha
  · rintro hall ⟨k,a⟩ hk
    exact (hload h (ofLex k).1 (ofLex k).2).2 (hall _ _) a hk

lemma requireSchedulingPolicy_eq_ok :
    requireSchedulingPolicy state = .ok () ↔ (evaluateSchedulingPolicy state).errors = [] := by
  unfold requireSchedulingPolicy
  dsimp only
  split
  · exact iff_of_true rfl ‹_›
  · exact iff_of_false (fun h => by cases h) ‹_›

end Naim.SchedulingPolicy
