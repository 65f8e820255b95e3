import Naim.SchedulingPolicy
import Naim.Planner
import Naim.RuntimeSupport
import Mathlib.Data.List.ReduceOption

/-!
# Dynamic placement

`DesiredStatePolicyService` puts every worker without a GPU on one, in the order of
the workers and with the load of the workers placed before. A worker that gets an
idle GPU owns it.
-/

namespace Naim.DynamicPlacement

open Assoc Rows Checked Text SchedulingPolicy RuntimeSupport WorkerGroupTopology

structure PlacementUsage where
  allocatedFraction : ℚ := 0
  allocatedMemoryMb : Int32 := 0
  deriving DecidableEq

structure AutoPlacementDecision where
  (nodeName gpuDevice : String)
  score : Int32
  (idleTarget upgradeToExclusive : Bool)
  allocatedFraction : ℚ
  (allocatedMemoryMb observedFreeVramMb observedUtilizationPct nodeOrder gpuOrder : Int32)
  deriving DecidableEq

abbrev UsageMap := List (GpuKey × PlacementUsage)

/-- The free memory and the utilization that the hosts reported for their GPUs. -/
abbrev HeadroomMap := List (GpuKey × Int32 × Int32)

def nodeAllowsInstanceRole (mode : HostExecutionMode) (role : InstanceRole) : Bool :=
  match mode with
  | .inferOnly => role = .infer || role = .app || role = .skills || role = .interaction
  | .workerOnly => role = .worker
  | .mixed => true

def observedTelemetry (clock : Clock) (observations : List HostObservation) :
    Checked (List (String × GpuTelemetrySnapshot)) := do
  let parsed ← observations.mapM fun o => do
    let telemetry ← parseGpuTelemetry clock o
    return telemetry.map fun t => (o.nodeName,t)
  return parsed.reduceOption

section

variable (node : NodeInventory) (gpuDevice : String) (usage : PlacementUsage)

def observeDevice (device : GpuDeviceTelemetry) : NodeInventory :=
  if device.gpuDevice = "" then node
  else {node with
    gpuDevices := if device.gpuDevice ∈ node.gpuDevices then node.gpuDevices
      else node.gpuDevices ++ [device.gpuDevice]
    gpuMemoryMb := if 0 < device.totalVramMb then set node.gpuMemoryMb device.gpuDevice device.totalVramMb
      else node.gpuMemoryMb}

def observeNode (telemetryByNode : List (String × GpuTelemetrySnapshot)) (node : NodeInventory) : NodeInventory :=
  match telemetryByNode.lookup node.name with
  | none => node
  | some telemetry => telemetry.devices.foldl observeDevice node

/-- Of several reports for one node the last counts. -/
def applyObservedHostGpuInventory (clock : Clock) (observations : List HostObservation) (s : DesiredState) :
    Checked DesiredState := do
  let telemetry ← observedTelemetry clock observations
  let byNode := telemetry.foldl (fun m (e : String × GpuTelemetrySnapshot) => set m e.1 e.2) []
  return {s with nodes := s.nodes.map (observeNode byNode)}

def observedGpuHeadroom (telemetry : List (String × GpuTelemetrySnapshot)) : HeadroomMap :=
  telemetry.foldl (fun m (nodeName,snapshot) => snapshot.devices.foldl (fun m device =>
    if device.gpuDevice = "" then m
    else set m (gpuKey nodeName device.gpuDevice) (device.freeVramMb,device.gpuUtilizationPct)) m) []

def autoPlacementPolicyRank (candidate : AutoPlacementDecision) : ℕ := if candidate.idleTarget then 0 else 1

def scoreAutoPlacementCandidate
    (inference : InferenceRuntimeSettings) (observedFreeVramMb observedUtilizationPct : Int32)
    (preferredNodeName preferredGpuDevice : Option String) : Int32 :=
  let free := (1 - usage.allocatedFraction) * 20
  let idleScore : Int32 := if usage.allocatedFraction ≤ kFractionEpsilon then 60 else 0
  let primaryScore : Int32 := if node.name = inference.primaryInferNode then 10 else 0
  let nodeScore : Int32 := if preferredNodeName = some node.name then 20 else 0
  let gpuScore : Int32 := if preferredGpuDevice = some gpuDevice then 10 else 0
  let memoryScore : Int32 := if 0 ≤ observedFreeVramMb then max 0 observedFreeVramMb / 1024
    else match node.gpuMemoryMb.lookup gpuDevice with
      | some memory => max 0 (memory - usage.allocatedMemoryMb) / 1024
      | none => 0
  let utilizationScore : Int32 := if 0 ≤ observedUtilizationPct then max 0 (100 - observedUtilizationPct) / 5 else 0
  idleScore + primaryScore + nodeScore + gpuScore + Int32.ofInt (Int.tdiv free.num free.den) + memoryScore +
    utilizationScore

/-- With hybrid data parallelism every worker has its own GPU. -/
def hybridGpuAlreadyAssigned (s : DesiredState) (worker : InstanceSpec) (nodeName gpuDevice : String) : Bool :=
  hybridDataParallelEnabled s.inference && (workers s).any fun i =>
    i.name ≠ worker.name && i.nodeName = nodeName && gpuDevice ≠ "" && i.gpuDevice = some gpuDevice

def freeCapacityMb : Int32 :=
  match node.gpuMemoryMb.lookup gpuDevice with
  | none => Int32.maxValue
  | some memory => max 0 (memory - usage.allocatedMemoryMb)

def fitsMemory (observedFreeVramMb : Int32) (worker : InstanceSpec) : Bool :=
  worker.memoryCapMb.all fun cap =>
    cap ≤ freeCapacityMb node gpuDevice usage && (observedFreeVramMb < 0 || cap ≤ observedFreeVramMb)

end

section Selection

variable (s : DesiredState) (usage : UsageMap) (headroom : HeadroomMap) (worker : InstanceSpec)
variable (requestedNodeName requestedGpuDevice : Option String)

def usageOn (nodeName gpuDevice : String) : PlacementUsage := (usage.lookup (gpuKey nodeName gpuDevice)).getD {}

def autoPlacementCandidate (node : NodeInventory) (nodeOrder : ℕ) (gpuDevice : String) (gpuOrder : ℕ) :
    Option AutoPlacementDecision :=
  let usage := usageOn usage node.name gpuDevice
  let observed := (headroom.lookup (gpuKey node.name gpuDevice)).getD (-1,-1)
  if requestedGpuDevice.any (gpuDevice ≠ ·) then none
  else if hybridGpuAlreadyAssigned s worker node.name gpuDevice then none
  else if 1 - usage.allocatedFraction + kFractionEpsilon < worker.gpuFraction then none
  else if !fitsMemory node gpuDevice usage observed.1 worker then none
  else some {
    nodeName := node.name, gpuDevice, idleTarget := usage.allocatedFraction ≤ kFractionEpsilon
    upgradeToExclusive := usage.allocatedFraction ≤ kFractionEpsilon &&
      (worker.shareMode ≠ .exclusive || worker.gpuFraction < 1 - kFractionEpsilon)
    allocatedFraction := usage.allocatedFraction, allocatedMemoryMb := usage.allocatedMemoryMb
    observedFreeVramMb := observed.1, observedUtilizationPct := observed.2, nodeOrder := Int32.ofNat nodeOrder
    gpuOrder := Int32.ofNat gpuOrder
    score := scoreAutoPlacementCandidate node gpuDevice usage s.inference observed.1 observed.2 requestedNodeName
      requestedGpuDevice}

def nodeCandidates (node : NodeInventory) (nodeOrder : ℕ) : List AutoPlacementDecision :=
  if !nodeAllowsInstanceRole node.executionMode worker.role then []
  else if requestedNodeName.any (node.name ≠ ·) then []
  else node.gpuDevices.zipIdx.filterMap fun (gpuDevice,gpuOrder) =>
    autoPlacementCandidate s usage headroom worker requestedNodeName requestedGpuDevice node nodeOrder gpuDevice
      gpuOrder

def autoPlacementCandidates : List AutoPlacementDecision :=
  s.nodes.zipIdx.flatMap fun (node,nodeOrder) =>
    nodeCandidates s usage headroom worker requestedNodeName requestedGpuDevice node nodeOrder

end Selection

def betterPlacement (candidate best : AutoPlacementDecision) : Bool :=
  let candidateRank := autoPlacementPolicyRank candidate
  let bestRank := autoPlacementPolicyRank best
  candidateRank < bestRank || candidateRank = bestRank &&
    (candidate.allocatedFraction < best.allocatedFraction - kFractionEpsilon ||
      |candidate.allocatedFraction - best.allocatedFraction| ≤ kFractionEpsilon &&
        (best.score < candidate.score || candidate.score = best.score &&
          (candidate.nodeOrder < best.nodeOrder || candidate.nodeOrder = best.nodeOrder &&
            (candidate.gpuOrder < best.gpuOrder || candidate.gpuOrder = best.gpuOrder &&
              (candidate.nodeName < best.nodeName || candidate.nodeName = best.nodeName &&
                candidate.gpuDevice < best.gpuDevice)))))

def keepBetter (best : Option AutoPlacementDecision) (candidate : AutoPlacementDecision) :
    Option AutoPlacementDecision :=
  match best with
  | none => some candidate
  | some b => if betterPlacement candidate b then some candidate else some b

def selectAutoPlacement (s : DesiredState) (usage : UsageMap) (headroom : HeadroomMap) (worker : InstanceSpec)
    (requestedNodeName requestedGpuDevice : Option String) : Option AutoPlacementDecision :=
  (autoPlacementCandidates s usage headroom worker requestedNodeName requestedGpuDevice).foldl keepBetter none

section

variable (s : DesiredState) (i : InstanceSpec)

def hasGpuDevice : Bool := i.gpuDevice.any (· ≠ "")

def isPinned : Bool := i.role = .worker && hasGpuDevice i

def reservePlacement (usage : UsageMap) (worker : InstanceSpec) : UsageMap :=
  match worker.gpuDevice with
  | none => usage
  | some gpuDevice =>
    if gpuDevice = "" then usage
    else
      let used := usageOn usage worker.nodeName gpuDevice
      set usage (gpuKey worker.nodeName gpuDevice) {
        allocatedFraction := used.allocatedFraction + worker.gpuFraction
        allocatedMemoryMb := used.allocatedMemoryMb + worker.memoryCapMb.getD 0}

def requestedNode : Option String := if i.nodeName = "" then none else some i.nodeName

def placementLabels (placement : AutoPlacementDecision) : StringMap :=
  let labels := set i.labels "naim.node" placement.nodeName
  let labels := set labels "naim.placement" "auto"
  let labels := set labels "naim.placement.mode" i.placementMode.text
  let labels := set labels "naim.placement.action"
    (if placement.upgradeToExclusive then "upgrade-to-exclusive" else "auto-assign")
  let labels := set labels "naim.placement.score" (toString placement.score)
  let labels := match requestedNode i with
    | none => erase labels "naim.requested.node"
    | some nodeName => set labels "naim.requested.node" nodeName
  erase labels "naim.requested.gpu"

def placedInstance (placement : AutoPlacementDecision) : InstanceSpec :=
  {i with
    nodeName := placement.nodeName, gpuDevice := some placement.gpuDevice
    shareMode := if placement.upgradeToExclusive then .exclusive else i.shareMode
    gpuFraction := if placement.upgradeToExclusive then 1 else i.gpuFraction
    environment := set (set i.environment "NAIM_NODE_NAME" placement.nodeName) "NAIM_GPU_DEVICE"
      placement.gpuDevice
    labels := placementLabels i placement}

def noPlacement : String :=
  match requestedNode i with
  | some nodeName => "worker '" ++ i.name ++ "' could not be assigned to any GPU on node '" ++ nodeName ++
      "'; wait for fresh host GPU telemetry or free capacity"
  | none => "worker '" ++ i.name ++
      "' could not be assigned to any GPU; wait for fresh host GPU telemetry or free capacity"

def placeInstances (s : DesiredState) (headroom : HeadroomMap) :
    List InstanceSpec → UsageMap → List InstanceSpec → Checked (List InstanceSpec)
  | done,_,[] => .ok done
  | done,usage,i::rest =>
    if i.role ≠ .worker then placeInstances s headroom (done ++ [i]) usage rest
    else if i.placementMode = .manual && !hasGpuDevice i then
      fail ("worker '" ++ i.name ++ "' uses placement_mode=manual but does not specify gpu_device")
    else if hasGpuDevice i then placeInstances s headroom (done ++ [i]) usage rest
    else match selectAutoPlacement {s with instances := done ++ i::rest} usage headroom i (requestedNode i) none with
      | none => fail (noPlacement i)
      | some placement => placeInstances s headroom (done ++ [placedInstance i placement])
          (reservePlacement usage (placedInstance i placement)) rest

def inferInstanceNameForWorker : String := (i.environment.lookup "NAIM_INFER_INSTANCE_NAME").getD ""

def findInferInstance : Option InstanceSpec := s.instances.find? (·.role = .infer)

def runtimeGpuNode : RuntimeGpuNode where
  name := i.name
  nodeName := i.nodeName
  gpuDevice := i.gpuDevice.getD ""
  placementMode := i.placementMode
  shareMode := i.shareMode
  gpuFraction := i.gpuFraction
  priority := i.priority
  preemptible := i.preemptible
  memoryCapMb := i.memoryCapMb
  enabled := true

/-- With llama.cpp's RPC backend a worker listens on a port that its name fixes. -/
def refreshedInstance : InstanceSpec :=
  if i.role = .worker && Planner.usesLlamaRpcRuntime s then
    let port := toString (stableLlamaRpcWorkerPort s.planeName i.name)
    let environment := set i.environment "NAIM_WORKER_RPC_PORT" port
    let environment := set environment "NAIM_WORKER_RPC_HOST" "0.0.0.0"
    {i with environment := set environment "NAIM_WORKER_RPC_ENDPOINT" (i.name ++ ":" ++ port)}
  else i

def memberRpcPort : Checked Int32 :=
  if Planner.usesLlamaRpcRuntime s then .ok (stableLlamaRpcWorkerPort s.planeName i.name)
  else match i.environment.lookup "NAIM_WORKER_RPC_PORT" with
    | none => .ok 0
    | some text => if text = "" then .ok 0 else stoi text

def derivedMember (rank : ℕ) : Checked WorkerGroupMemberSpec := do
  let rpcPort ← memberRpcPort s i
  return {
    name := i.name, inferInstanceName := inferInstanceNameForWorker i, nodeName := i.nodeName
    gpuDevice := i.gpuDevice.getD "", rpcPort, rank := Int32.ofNat rank, gpuFraction := i.gpuFraction
    shareMode := i.shareMode, priority := i.priority, preemptible := i.preemptible, memoryCapMb := i.memoryCapMb
    enabled := true}

def servedInfer (group : WorkerGroupSpec) (member : WorkerGroupMemberSpec) : String :=
  if member.inferInstanceName = "" then group.inferInstanceName else member.inferInstanceName

def replicaIndexByInfer (names : List String) : List (String × Int32) :=
  names.foldl (fun m name => insert m name (Int32.ofNat m.length)) []

/-- One replica per infer instance, with the members of each ranked in their order. -/
def rankByInfer (group : WorkerGroupSpec) (names : List String) :
    List String → List WorkerGroupMemberSpec → List WorkerGroupMemberSpec
  | _,[] => []
  | ranked,member::members =>
    if !member.enabled then member::rankByInfer group names ranked members
    else
      let infer := servedInfer group member
      let localRank := Int32.ofNat (ranked.count infer)
      let replicaIndex := ((replicaIndexByInfer names).lookup infer).getD 0
      {member with
        inferInstanceName := infer, rank := localRank, replicaGroupId := infer, replicaIndex
        replicaSize := Int32.ofNat (names.count infer), replicaLeader := localRank = 0
        dataParallelRank := replicaIndex, dataParallelSize := Int32.ofNat (replicaIndexByInfer names).length
        dataParallelSizeLocal := 1, dataParallelStartRank := replicaIndex, dataParallelApiEndpoint := false
        dataParallelHeadAddress :=
          if group.rendezvousHost = "" then group.inferInstanceName else group.rendezvousHost
        dataParallelRpcPort := dataParallelRpcPort group
        leader := localRank = 0 && replicaIndex = 0}::rankByInfer group names (infer::ranked) members

/-- The worker group around its derived members, with the defaults for what is not set. -/
def derivedGroup (members : List WorkerGroupMemberSpec) : WorkerGroupSpec :=
  let group := {s.workerGroup with members}
  let inferInstanceName := if group.inferInstanceName = "" then ((findInferInstance s).map (·.name)).getD ""
    else group.inferInstanceName
  {group with
    expectedWorkers := if group.expectedWorkers ≤ 0 then defaultWorkersPerReplica (eligibleWorkerMemberCount group)
      else group.expectedWorkers
    inferInstanceName
    rendezvousHost := if group.rendezvousHost = "" then inferInstanceName else group.rendezvousHost}

def refreshDerivedWorkerMetadata : Checked DesiredState := do
  let members ← (workers s).zipIdx.mapM fun (i,rank) => derivedMember s i rank
  let group := derivedGroup s members
  let s := {s with
    instances := s.instances.map (refreshedInstance s), runtimeGpuNodes := (workers s).map runtimeGpuNode}
  if Planner.usesLlamaRpcRuntime s then
    let names := (group.members.filter (·.enabled)).map (servedInfer group)
    return {s with workerGroup := {group with members := rankByInfer group names [] group.members}}
  else
    validateReplicaPacking s.inference group
    return {s with workerGroup := assignReplicaTopology s.inference group}

def resolveDesiredStateDynamicPlacements (clock : Clock) (observations : List HostObservation) (s : DesiredState) :
    Checked DesiredState := do
  let s ← applyObservedHostGpuInventory clock observations s
  let telemetry ← observedTelemetry clock observations
  let usage := (workers s).foldl reservePlacement []
  let instances ← placeInstances s (observedGpuHeadroom telemetry) [] usage s.instances
  refreshDerivedWorkerMetadata {s with instances}

end

end Naim.DynamicPlacement
