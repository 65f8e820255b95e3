import Naim.Json
import Naim.Planner

/-!
# The runtime configuration of an infer instance

`RenderInferRuntimeConfigJsonForInstance`: the document that an infer instance
reads at its start. It names the workers that serve for the instance and the
settings of the plane that its runtime uses.
-/

namespace Naim.InferRuntimeConfig

open Checked Json Planner Text

variable (s : DesiredState) (infer : InstanceSpec) (member : WorkerGroupMemberSpec) (inferInstanceName : String)
  {i : InstanceSpec}

def workerAssignedToInfer : Bool :=
  member.enabled && (member.inferInstanceName = "" || member.inferInstanceName = inferInstanceName)

def splitCommaSeparated (text : String) : List String :=
  ((text.toList.filter fun c => c ∉ [' ','\t','\n','\r']).splitOn ',').filterMap fun part =>
    if part = [] then none else some (String.ofList part)

def resolveInferPort (envName : String) (fallback : Int32) : Checked Int32 :=
  (·.getD fallback) <$> intEnvValue infer.environment envName

def requireInferInstanceByName : Checked InstanceSpec :=
  match s.instances.find? fun i =>
    i.role = .infer && (inferInstanceName = "" || i.name = inferInstanceName) with
  | some infer => .ok infer
  | none =>
    if inferInstanceName = "" then Checked.fail "desired state does not contain an infer instance"
    else Checked.fail ("desired state does not contain infer instance '" ++ inferInstanceName ++ "'")

def selectedWorkerNames : List String :=
  (s.workerGroup.members.filter fun member => workerAssignedToInfer member inferInstanceName).map (·.name)

def gpuNodeOfWorker (i : InstanceSpec) : RuntimeGpuNode where
  name := i.name
  nodeName := i.nodeName
  gpuDevice := i.gpuDevice.getD ""
  placementMode := i.placementMode
  shareMode := i.shareMode
  gpuFraction := i.gpuFraction
  priority := i.priority
  preemptible := i.preemptible
  memoryCapMb := i.memoryCapMb
  enabled := true

/-- The GPU nodes of the plane, else its workers; all of them when no member is selected. -/
def selectedGpuNodes : List RuntimeGpuNode :=
  let selectedWorkers := selectedWorkerNames s inferInstanceName
  let gpuNodes := if s.runtimeGpuNodes ≠ [] then s.runtimeGpuNodes
    else (s.instances.filter (·.role = .worker)).map gpuNodeOfWorker
  gpuNodes.filter fun gpuNode => selectedWorkers = [] || gpuNode.name ∈ selectedWorkers

def gpuNodeFields (gpuNode : RuntimeGpuNode) : List (String × Option Json) := [
  field "name" (some gpuNode.name),field "node_name" (some gpuNode.nodeName),
  field "gpu_device" (some gpuNode.gpuDevice),field "placement_mode" (some gpuNode.placementMode.text),
  field "share_mode" (some gpuNode.shareMode.text),field "gpu_fraction" (some gpuNode.gpuFraction),
  field "priority" (some gpuNode.priority),field "preemptible" (some gpuNode.preemptible),
  field "enabled" (some gpuNode.enabled),field "memory_cap_mb" gpuNode.memoryCapMb]

def buildGpuNodesJson : Json :=
  arr ((selectedGpuNodes s inferInstanceName).map fun gpuNode => ofFields (gpuNodeFields gpuNode))

def buildServingWorkersJson : Checked Json := do
  let infer ← requireInferInstanceByName s inferInstanceName
  pure (arr ((selectedGpuNodes s inferInstanceName).map fun gpuNode => ofFields (gpuNodeFields gpuNode ++
    [field "colocated_with_primary_infer" (some (decide (gpuNode.nodeName = infer.nodeName)))])))

def memberRpcPort : Int32 :=
  if usesLlamaRpcRuntime s then stableLlamaRpcWorkerPort s.planeName member.name else member.rpcPort

def memberRpcEndpoint : String :=
  let rpcPort := memberRpcPort s member
  if 0 < rpcPort then
    if member.nodeName = infer.nodeName ∧ member.name ≠ "" then member.name ++ ":" ++ toString rpcPort
    else if member.nodeName ≠ "" then member.nodeName ++ ":" ++ toString rpcPort
    else ""
  else ""

def memberJson : Json :=
  ofFields [
    field "name" (some member.name),field "infer_instance_name" (some member.inferInstanceName),
    field "node_name" (some member.nodeName),field "gpu_device" (some member.gpuDevice),
    field "rank" (some member.rank),field "replica_group_id" (some member.replicaGroupId),
    field "replica_index" (some member.replicaIndex),field "replica_size" (some member.replicaSize),
    field "replica_leader" (some member.replicaLeader),
    field "data_parallel_rank" (some member.dataParallelRank),
    field "data_parallel_size" (some member.dataParallelSize),
    field "data_parallel_size_local" (some member.dataParallelSizeLocal),
    field "data_parallel_start_rank" (some member.dataParallelStartRank),
    field "data_parallel_api_endpoint" (some member.dataParallelApiEndpoint),
    field "data_parallel_head_address" (some member.dataParallelHeadAddress),
    field "data_parallel_rpc_port" (some member.dataParallelRpcPort),
    field "rpc_port" (some (memberRpcPort s member)),
    field "rpc_endpoint" (some (memberRpcEndpoint s infer member)),
    field "colocated_with_primary_infer" (some (decide (member.nodeName = infer.nodeName))),
    field "gpu_fraction" (some member.gpuFraction),field "share_mode" (some member.shareMode.text),
    field "priority" (some member.priority),field "preemptible" (some member.preemptible),
    field "enabled" (some member.enabled),field "leader" (some member.leader),
    field "memory_cap_mb" member.memoryCapMb]

def buildWorkerGroupJson : Checked Json := do
  let infer ← requireInferInstanceByName s inferInstanceName
  let group := s.workerGroup
  let members := group.members.filter fun member => workerAssignedToInfer member inferInstanceName
  pure (ofFields [
    field "group_id" (some group.groupId),field "infer_instance_name"
      (some (if inferInstanceName = "" then group.inferInstanceName else inferInstanceName)),
    field "distributed_backend" (some group.distributedBackend),
    field "rendezvous_host" (some group.rendezvousHost),field "rendezvous_port" (some group.rendezvousPort),
    field "expected_workers"
      (some (if members ≠ [] then Int32.ofNat members.length else group.expectedWorkers)),
    field "worker_selection_policy" (some group.workerSelectionPolicy),
    field "members" (some (arr (members.map (memberJson s infer))))])

def inferRuntimeConfigRelativePath : String :=
  if inferInstanceName = "" then "infer-runtime.json"
  else joinPath (joinPath "infer" inferInstanceName) "infer-runtime.json"

def inferenceJson (apiPort llamaPort : Int32) : Json :=
  let inference := s.inference
  ofFields [
    field "primary_infer_node" (some infer.nodeName),field "runtime_engine" (some inference.runtimeEngine),
    field "runtime_flavor" (some ((infer.environment.lookup "NAIM_LLAMA_RUNTIME_FLAVOR").getD "default")),
    field "data_parallel_mode" (some inference.dataParallelMode),
    field "data_parallel_lb_mode" (some inference.dataParallelLbMode),
    field "api_server_count" (some inference.apiServerCount),
    field "worker_group_id" (some inference.workerGroupId),
    field "distributed_backend" (some inference.distributedBackend),
    field "worker_selection_policy" (some inference.workerSelectionPolicy),
    field "net_if" (some inference.netIf),field "models_root" (some inference.modelsRoot),
    field "model_cache_dir" (some inference.modelCacheDir),
    field "runtime_log_dir" (some inference.runtimeLogDir),field "api_port" (some apiPort),
    field "max_model_len" (some inference.maxModelLen),
    field "tensor_parallel_size" (some inference.tensorParallelSize),
    field "pipeline_parallel_size" (some inference.pipelineParallelSize),
    field "max_num_seqs" (some inference.maxNumSeqs),
    field "gpu_memory_utilization" (some inference.gpuMemoryUtilization),
    field "enforce_eager" (some inference.enforceEager),field "gguf_cache_dir" (some inference.ggufCacheDir),
    field "infer_log_dir" (some inference.inferLogDir),field "llama_port" (some llamaPort),
    field "llama_ctx_size" (some inference.llamaCtxSize),field "llama_threads" (some inference.llamaThreads),
    field "llama_gpu_layers" (some inference.llamaGpuLayers),
    field "inference_healthcheck_retries" (some inference.inferenceHealthcheckRetries),
    field "inference_healthcheck_interval_sec" (some inference.inferenceHealthcheckIntervalSec),
    field "rendezvous_port" (some inference.rendezvousPort)]

def inferRuntimeConfigJson : Checked Json := do
  let infer ← requireInferInstanceByName s inferInstanceName
  let apiPort ← resolveInferPort infer "NAIM_INFERENCE_PORT" s.inference.apiPort
  let gatewayListenPort ← resolveInferPort infer "NAIM_GATEWAY_PORT" s.gateway.listenPort
  let llamaPort ← resolveInferPort infer "NAIM_LLAMA_PORT" s.inference.llamaPort
  let servingWorkers ← buildServingWorkersJson s infer.name
  let workerGroup ← buildWorkerGroupJson s infer.name
  pure (ofFields [
    field "naim_version" (some "0.1.0"),field "instance" (some (ofFields [field "name" (some infer.name)])),
    field "plane" (some (ofFields [
      field "name" (some s.planeName),
      field "control_root" (some s.controlRoot)])),
    field "control" (some (ofFields [
      field "root" (some s.controlRoot),field "controller_url"
        (some ((infer.environment.lookup "NAIM_CONTROLLER_URL").getD "http://controller.internal:8080"))])),
    field "gpu_nodes" (some (buildGpuNodesJson s infer.name)),field "serving_workers" (some servingWorkers),
    field "inference" (some (inferenceJson s infer apiPort llamaPort)),field "worker_group" (some workerGroup),
    field "replica_upstreams"
      (some (((infer.environment.lookup "NAIM_REPLICA_UPSTREAMS").map splitCommaSeparated).getD [])),
    field "gateway" (some (ofFields [
      field "listen_host" (some s.gateway.listenHost),field "listen_port" (some gatewayListenPort),
      field "server_name" (some s.gateway.serverName)]))])

/-- `dump` is `json::dump` with an indentation of two. -/
def renderInferRuntimeConfigJsonForInstance (dump : Json → String) (s : DesiredState) (inferInstanceName : String) :
    Checked String := dump <$> inferRuntimeConfigJson s inferInstanceName

def ReadablePorts : Prop :=
  ∀ envName ∈ ["NAIM_INFERENCE_PORT","NAIM_GATEWAY_PORT","NAIM_LLAMA_PORT"],
    ∃ port, intEnvValue infer.environment envName = .ok port

lemma resolveInferPort_succeeds {infer : InstanceSpec} (h : ReadablePorts infer)
    (henv : envName ∈ ["NAIM_INFERENCE_PORT","NAIM_GATEWAY_PORT","NAIM_LLAMA_PORT"]) (fallback : Int32) :
    ∃ port, resolveInferPort infer envName fallback = .ok port := by
  obtain ⟨port,hport⟩ := h envName henv
  exact ⟨port.getD fallback,by rw [resolveInferPort,hport,map_ok]⟩

lemma requireInferInstanceByName_succeeds {s : DesiredState} (hi : i ∈ s.instances) (hrole : i.role = .infer) :
    ∃ infer ∈ s.instances, requireInferInstanceByName s i.name = .ok infer ∧
      infer.role = .infer := by
  unfold requireInferInstanceByName
  cases hfind : s.instances.find? fun j => j.role = .infer && (i.name = "" || j.name = i.name) with
  | none =>
    have hnone := List.find?_eq_none.1 hfind i hi
    simp [hrole] at hnone
  | some infer =>
    have hp := List.find?_some hfind
    simp only [Bool.and_eq_true,decide_eq_true_eq] at hp
    exact ⟨infer,List.mem_of_find?_eq_some hfind,rfl,hp.1⟩

lemma renderInferRuntimeConfigJsonForInstance_succeeds {s : DesiredState}
    (hports : ∀ infer ∈ s.instances, infer.role = .infer → ReadablePorts infer) (hi : i ∈ s.instances)
    (hrole : i.role = .infer) (dump : Json → String) :
    ∃ text, renderInferRuntimeConfigJsonForInstance dump s i.name = .ok text := by
  obtain ⟨infer,hmem,hinfer,hrole'⟩ := requireInferInstanceByName_succeeds hi hrole
  obtain ⟨again,-,hagain,-⟩ := requireInferInstanceByName_succeeds hmem hrole'
  have hreadable := hports infer hmem hrole'
  obtain ⟨apiPort,hapi⟩ := resolveInferPort_succeeds hreadable (by simp : "NAIM_INFERENCE_PORT" ∈ _)
    s.inference.apiPort
  obtain ⟨gatewayPort,hgateway⟩ := resolveInferPort_succeeds hreadable (by simp : "NAIM_GATEWAY_PORT" ∈ _)
    s.gateway.listenPort
  obtain ⟨llamaPort,hllama⟩ := resolveInferPort_succeeds hreadable (by simp : "NAIM_LLAMA_PORT" ∈ _)
    s.inference.llamaPort
  simp only [renderInferRuntimeConfigJsonForInstance,inferRuntimeConfigJson,buildServingWorkersJson,
    buildWorkerGroupJson,hinfer,hagain,hapi,hgateway,hllama,ok_bind]
  exact ⟨_,rfl⟩

end Naim.InferRuntimeConfig
