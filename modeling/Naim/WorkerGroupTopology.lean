import Naim.Models

/-!
# The topology of a worker group

`worker_group_topology.h`: the stable ports of workers, how the members of a
group are packed into replicas and which ranks they get.
-/

namespace Naim

/-- FNV-1a over the bytes of a text. -/
def stablePortHash (value : String) : UInt32 :=
  (value.toList.flatMap String.utf8EncodeChar).foldl
    (fun hash byte => (hash ^^^ byte.toUInt32) * 16777619) 2166136261

def stablePort (value : String) (base span : ℕ) : Int32 :=
  Int32.ofNat (base + (stablePortHash value).toNat % span)

def stableLlamaRpcWorkerPort (planeName workerName : String) : Int32 :=
  stablePort (planeName ++ ":" ++ workerName ++ ":llama-rpc") 40000 20000

namespace WorkerGroupTopology

variable (inference : InferenceRuntimeSettings) (group : WorkerGroupSpec)

def canonicalDataParallelMode : String :=
  if inference.dataParallelMode = "" then "off" else inference.dataParallelMode

def dataParallelEnabled : Bool := canonicalDataParallelMode inference ≠ "off"

def hybridDataParallelEnabled : Bool := dataParallelEnabled inference && inference.dataParallelLbMode = "hybrid"

def workersPerReplica : Int32 := max 1 group.expectedWorkers

def eligibleWorkerMemberCount : Int32 := Int32.ofNat (group.members.countP (·.enabled))

def defaultWorkersPerReplica (eligibleWorkerMembers : Int32) : Int32 := max 1 eligibleWorkerMembers

def expectedReplicaGroupCount : Int32 :=
  let eligible := eligibleWorkerMemberCount group
  if eligible ≤ 0 then 0
  else if !dataParallelEnabled inference then 1
  else eligible / workersPerReplica group

def replicaGroupIdFor (replicaIndex : Int32) : String :=
  (if group.groupId = "" then "worker-group" else group.groupId) ++ "-replica-" ++
    toString (max 0 replicaIndex)

/-- The enabled members in order: the node of the replica that is being filled,
and the worker that holds each device so far. -/
def validateNodeLocalReplicas (perReplica : Int32) :
    List WorkerGroupMemberSpec → Int32 → String → List ((String × String) × String) → Checked Unit
  | [],_,_,_ => .ok ()
  | member::members,index,replicaNode,workers => do
    Checked.throwIf (member.nodeName = "")
      "data_parallel_lb_mode=hybrid requires enabled worker members to have node_name"
    let replicaNode := if index % perReplica = 0 then member.nodeName else replicaNode
    Checked.throwIf (member.nodeName ≠ replicaNode)
      ("data_parallel_lb_mode=hybrid requires node-local replica packing; worker '" ++ member.name ++
        "' is assigned to node '" ++ member.nodeName ++ "' but replica started on node '" ++ replicaNode ++ "'")
    (match workers.lookup (member.nodeName,member.gpuDevice) with
    | some worker => Checked.throwIf (member.gpuDevice ≠ "")
        ("data_parallel_lb_mode=hybrid requires unique gpu_device per node-local data-parallel rank; worker '" ++
          member.name ++ "' reuses gpu '" ++ member.gpuDevice ++ "' on node '" ++ member.nodeName ++
          "' already assigned to worker '" ++ worker ++ "'")
    | none => .ok ())
    validateNodeLocalReplicas perReplica members (index + 1) replicaNode
      (if member.gpuDevice = "" then workers
        else ((member.nodeName,member.gpuDevice),member.name)::workers)

def validateReplicaPacking : Checked Unit :=
  let eligible := eligibleWorkerMemberCount group
  let perReplica := workersPerReplica group
  if !dataParallelEnabled inference || eligible ≤ 0 || perReplica ≤ 0 then .ok ()
  else do
    Checked.throwIf (eligible % perReplica ≠ 0)
      ("data_parallel_mode=" ++ inference.dataParallelMode ++ " requires eligible worker count (" ++
        toString eligible ++ ") to be divisible by worker_group.expected_workers (" ++ toString perReplica ++ ")")
    Checked.when (hybridDataParallelEnabled inference)
      (validateNodeLocalReplicas perReplica (group.members.filter (·.enabled)) 0 "" [])

def dataParallelHeadAddress : String :=
  let head := ((group.members.find? (·.enabled)).map (·.name)).getD ""
  if head ≠ "" then head
  else if group.rendezvousHost = "" then group.inferInstanceName
  else group.rendezvousHost

def dataParallelRpcPort : Int32 := if 0 < group.rendezvousPort then group.rendezvousPort + 100 else 29600

/-- The nodes on which the replicas start, with the numbers of the replicas. -/
def replicaStarts : List (String × Int32) :=
  if hybridDataParallelEnabled inference then
    (group.members.filter (·.enabled)).zipIdx.filterMap fun (member,index) =>
      if Int32.ofNat index % workersPerReplica group = 0 then
        some (member.nodeName,Int32.ofNat index / workersPerReplica group)
      else none
  else []

def replicasOn (nodeName : String) : List Int32 :=
  ((replicaStarts inference group).filter (·.1 = nodeName)).map Prod.snd

def disabledMember (member : WorkerGroupMemberSpec) : WorkerGroupMemberSpec :=
  {member with
    rank := 0, replicaGroupId := "", replicaIndex := 0, replicaSize := workersPerReplica group
    replicaLeader := false, dataParallelRank := 0, dataParallelSize := 1, dataParallelSizeLocal := 1
    dataParallelStartRank := 0, dataParallelApiEndpoint := false, dataParallelHeadAddress := ""
    dataParallelRpcPort := 0, leader := false}

def rankedMember (index : Int32) (member : WorkerGroupMemberSpec) : WorkerGroupMemberSpec :=
  let perReplica := workersPerReplica group
  let replicaIndex := if dataParallelEnabled inference then index / perReplica else 0
  let localRank := if dataParallelEnabled inference then index % perReplica else index
  let leader := decide (localRank = 0)
  let replicas := if hybridDataParallelEnabled inference && member.nodeName ≠ "" then
    replicasOn inference group member.nodeName else []
  let startRank := match replicas with
    | [] => replicaIndex
    | first::rest => max 0 (rest.foldl min first)
  {member with
    rank := localRank, replicaGroupId := replicaGroupIdFor group replicaIndex, replicaIndex
    replicaSize := perReplica, replicaLeader := leader, dataParallelRank := replicaIndex
    dataParallelSize := max 1 (expectedReplicaGroupCount inference group)
    dataParallelSizeLocal := max 1 (Int32.ofNat replicas.length), dataParallelStartRank := startRank
    dataParallelApiEndpoint :=
      if hybridDataParallelEnabled inference && member.nodeName ≠ "" then leader && replicaIndex = startRank
      else leader
    dataParallelHeadAddress := dataParallelHeadAddress group, dataParallelRpcPort := dataParallelRpcPort group
    leader}

def rankMembers (inference : InferenceRuntimeSettings) (group : WorkerGroupSpec) :
    List WorkerGroupMemberSpec → Int32 → List WorkerGroupMemberSpec
  | [],_ => []
  | member::members,index =>
    if member.enabled then rankedMember inference group index member::rankMembers inference group members (index + 1)
    else disabledMember group member::rankMembers inference group members index

def assignReplicaTopology : WorkerGroupSpec :=
  {group with members := rankMembers inference group group.members 0}

@[simp] lemma rankMembers_nodeName (members : List WorkerGroupMemberSpec) (index : Int32) :
    (rankMembers inference group members index).map (·.nodeName) = members.map (·.nodeName) := by
  induction members generalizing index with
  | nil => rfl
  | cons member members ih =>
    by_cases h : member.enabled <;> simp [rankMembers,h,ih,rankedMember,disabledMember]

end WorkerGroupTopology
end Naim
