import Naim.DesiredStateV2Renderer
import Naim.SchedulerExecution
import Naim.StateJsonRuntimeCodecs

/-!
# Desired states as JSON

`state_json.cpp`: the document in which a desired state travels to a host. A
reader fills in what a state leaves open, so a state comes back in a normal
form, and then resolves the placement target of a plane on a single node.
-/

namespace Naim.StateJson

open Checked Json StateJsonRuntimeCodecs StateJsonSettingsCodecs WorkerGroupTopology Option

variable (i : InferenceRuntimeSettings) (gpuNodes : List RuntimeGpuNode) (instances : List InstanceSpec) (j : Json)
  (s : DesiredState)

structure TextFormat (Text : Type) where
  dump : Json → Text
  parse : Text → Checked Json
  parse_dump : ∀ j, parse (dump j) = .ok j

def documents : TextFormat Json := ⟨id,.ok,fun j => Eq.refl (Except.ok j)⟩

def turboQuantToJson (f : TurboQuantFeatureSpec) : Json :=
  ofFields [
    field "enabled" (some f.enabled),field "cache_type_k" f.cacheTypeK,field "cache_type_v" f.cacheTypeV]

def turboQuantFromJson : Checked TurboQuantFeatureSpec := do
  let enabled ← j.value "enabled" false
  let cacheTypeK ← j.optional "cache_type_k"
  let cacheTypeV ← j.optional "cache_type_v"
  pure {enabled, cacheTypeK, cacheTypeV}

def contextCompressionToJson (f : ContextCompressionFeatureSpec) : Json :=
  ofFields [
    field "enabled" (some f.enabled),field "mode" (some f.mode),field "target" (some f.target),
    field "memory_priority" (some f.memoryPriority)]

def contextCompressionFromJson : Checked ContextCompressionFeatureSpec := do
  let dflt : ContextCompressionFeatureSpec := {}
  let enabled ← j.value "enabled" dflt.enabled
  let mode ← j.value "mode" dflt.mode
  let target ← j.value "target" dflt.target
  let memoryPriority ← j.value "memory_priority" dflt.memoryPriority
  pure {enabled, mode, target, memoryPriority}

def sourcePathsToJson (m : AppModelMountSpec) : Option (List String) :=
  if m.sourcePaths = [] ∨ m.sourcePaths = [m.sourcePath] then none else some m.sourcePaths

def voiceModelToJson (dfltName dfltEnv : String) (m : AppModelMountSpec) : Json :=
  ofFields [
    field "name" (some (Renderer.orElse m.name dfltName)),
    field "source" (some (ofFields [
      field "type" (some "library"),field "path" (some m.sourcePath),field "node" (elide "" m.sourceNodeName),
      field "paths" (sourcePathsToJson m)])),
    field "mount_path" (some m.mountPath),field "env" (some (Renderer.orElse m.envVar dfltEnv)),
    field "required" (some m.required)]

def voiceModelFromJson (dfltName dfltEnv dfltMountPath : String) : Option Json → Checked AppModelMountSpec
  | none => .ok {}
  | some j => do
    let source := j.objectAt "source"
    let name ← j.value "name" dfltName
    let sourcePath ← source.value "path" ""
    let sourceNodeName ← source.value "node" ""
    let sourcePaths ← source.arrayAs "paths"
    let mountPath ← j.value "mount_path" dfltMountPath
    let envVar ← j.value "env" dfltEnv
    let required ← j.value "required" true
    pure {
      name, sourcePath, sourceNodeName
      sourcePaths := if sourcePaths = [] ∧ sourcePath ≠ "" then [sourcePath] else sourcePaths
      mountPath, envVar, required}

def voiceListenerToJson (f : VoiceListenerFeatureSpec) : Json :=
  ofFields [
    field "enabled" (some f.enabled),field "wake_phrase" (some f.wakePhrase),field "language" (some f.language),
    field "model" (some (voiceModelToJson "whisper" "WHISPER_MODEL_PATH" f.model)),
    field "image" (f.image.filter (· ≠ ""))]

def voiceListenerFromJson : Checked VoiceListenerFeatureSpec := do
  let dflt : VoiceListenerFeatureSpec := {}
  let enabled ← j.value "enabled" dflt.enabled
  let wakePhrase ← j.value "wake_phrase" dflt.wakePhrase
  let language ← j.value "language" dflt.language
  let model ← voiceModelFromJson "whisper" "WHISPER_MODEL_PATH" "/models/whisper/model.bin" (j.object? "model")
  pure {
    enabled, wakePhrase, language, model, image := j.string? "image"}

def voiceMakerToJson (f : VoiceMakerFeatureSpec) : Json :=
  ofFields [
    field "enabled" (some f.enabled),field "language" (some f.language),field "voice_mode" (some f.voiceMode),
    field "instruct" (some f.instruct),field "format" (some f.outputFormat),
    field "model" (some (voiceModelToJson "omnivoice" "OMNIVOICE_MODEL_PATH" f.model)),
    field "image" (f.image.filter (· ≠ ""))]

def voiceMakerFromJson : Checked VoiceMakerFeatureSpec := do
  let dflt : VoiceMakerFeatureSpec := {}
  let enabled ← j.value "enabled" dflt.enabled
  let language ← j.value "language" dflt.language
  let voiceMode ← j.value "voice_mode" dflt.voiceMode
  let instruct ← j.value "instruct" dflt.instruct
  let outputFormat ← j.value "format" dflt.outputFormat
  let model ← voiceModelFromJson "omnivoice" "OMNIVOICE_MODEL_PATH" "/models/omnivoice" (j.object? "model")
  pure {
    enabled, language, voiceMode, instruct, outputFormat, model, image := j.string? "image"}

def securedConnectionToJson (f : SecuredConnectionFeatureSpec) : Json :=
  ofFields [
    field "enabled" (some f.enabled),field "user_ids" (some f.userIds)]

def securedConnectionFromJson : Checked SecuredConnectionFeatureSpec := do
  let enabled ← j.value "enabled" false
  let userIds ← j.arrayAs "user_ids"
  pure {enabled, userIds}

def featuresToJson : Option Json :=
  if s.turboquant.isSome || s.contextCompression.isSome || s.voiceListener.isSome || s.voiceMaker.isSome ||
      s.securedConnection.isSome then
    some (ofFields [
      field "turboquant" (s.turboquant.map turboQuantToJson),
      field "context_compression" (s.contextCompression.map contextCompressionToJson),
      field "voice_listener" (s.voiceListener.map voiceListenerToJson),
      field "voice_maker" (s.voiceMaker.map voiceMakerToJson),
      field "secured_connection" (s.securedConnection.map securedConnectionToJson)])
  else none

def inferenceToJson : Json :=
  ofFields [
    field "primary_infer_node" (some i.primaryInferNode),field "runtime_engine" (some i.runtimeEngine),
    field "data_parallel_mode" (some i.dataParallelMode),
    field "data_parallel_lb_mode" (some i.dataParallelLbMode),field "api_server_count" (some i.apiServerCount),
    field "worker_group_id" (some i.workerGroupId),field "distributed_backend" (some i.distributedBackend),
    field "worker_selection_policy" (some i.workerSelectionPolicy),field "net_if" (some i.netIf),
    field "models_root" (some i.modelsRoot),field "model_cache_dir" (some i.modelCacheDir),
    field "runtime_log_dir" (some i.runtimeLogDir),field "api_port" (some i.apiPort),
    field "max_model_len" (some i.maxModelLen),field "tensor_parallel_size" (some i.tensorParallelSize),
    field "pipeline_parallel_size" (some i.pipelineParallelSize),field "max_num_seqs" (some i.maxNumSeqs),
    field "gpu_memory_utilization" (some i.gpuMemoryUtilization),field "enforce_eager" (some i.enforceEager),
    field "gguf_cache_dir" (some i.ggufCacheDir),field "infer_log_dir" (some i.inferLogDir),
    field "llama_port" (some i.llamaPort),field "llama_ctx_size" (some i.llamaCtxSize),
    field "llama_threads" (some i.llamaThreads),field "llama_gpu_layers" (some i.llamaGpuLayers),
    field "inference_healthcheck_retries" (some i.inferenceHealthcheckRetries),
    field "inference_healthcheck_interval_sec" (some i.inferenceHealthcheckIntervalSec),
    field "rendezvous_port" (some i.rendezvousPort)]

def valueOr {α : Type} [Codec α] (j : Json) (key other : String) (default : α) : Checked α := do
  let fallback ← j.value other default
  j.value key fallback

def inferenceOf : Checked InferenceRuntimeSettings := do
  let dflt : InferenceRuntimeSettings := {}
  let primaryInferNode ← j.value "primary_infer_node" dflt.primaryInferNode
  let runtimeEngine ← j.value "runtime_engine" dflt.runtimeEngine
  let dataParallelMode ← j.value "data_parallel_mode" dflt.dataParallelMode
  let dataParallelLbMode ← j.value "data_parallel_lb_mode" dflt.dataParallelLbMode
  let apiServerCount ← j.value "api_server_count" dflt.apiServerCount
  let workerGroupId ← j.value "worker_group_id" dflt.workerGroupId
  let distributedBackend ← j.value "distributed_backend" dflt.distributedBackend
  let workerSelectionPolicy ← j.value "worker_selection_policy" dflt.workerSelectionPolicy
  let netIf ← j.value "net_if" dflt.netIf
  let modelsRoot ← j.value "models_root" dflt.modelsRoot
  let modelCacheDir ← j.value "model_cache_dir" dflt.modelCacheDir
  let runtimeLogDir ← j.value "runtime_log_dir" dflt.runtimeLogDir
  let apiPort ← valueOr j "api_port" "llama_port" dflt.apiPort
  let maxModelLen ← valueOr j "max_model_len" "llama_ctx_size" dflt.maxModelLen
  let tensorParallelSize ← j.value "tensor_parallel_size" dflt.tensorParallelSize
  let pipelineParallelSize ← j.value "pipeline_parallel_size" dflt.pipelineParallelSize
  let maxNumSeqs ← j.value "max_num_seqs" dflt.maxNumSeqs
  let gpuMemoryUtilization ← j.value "gpu_memory_utilization" dflt.gpuMemoryUtilization
  let enforceEager ← j.value "enforce_eager" dflt.enforceEager
  let ggufCacheDir ← valueOr j "gguf_cache_dir" "model_cache_dir" dflt.ggufCacheDir
  let inferLogDir ← valueOr j "infer_log_dir" "runtime_log_dir" dflt.inferLogDir
  let llamaPort ← valueOr j "llama_port" "api_port" dflt.llamaPort
  let llamaCtxSize ← valueOr j "llama_ctx_size" "max_model_len" dflt.llamaCtxSize
  let llamaThreads ← j.value "llama_threads" dflt.llamaThreads
  let llamaGpuLayers ← j.value "llama_gpu_layers" dflt.llamaGpuLayers
  let inferenceHealthcheckRetries ← j.value "inference_healthcheck_retries" dflt.inferenceHealthcheckRetries
  let inferenceHealthcheckIntervalSec ←
    j.value "inference_healthcheck_interval_sec" dflt.inferenceHealthcheckIntervalSec
  let rendezvousPort ← j.value "rendezvous_port" dflt.rendezvousPort
  pure {
    primaryInferNode, runtimeEngine, dataParallelMode, dataParallelLbMode, apiServerCount, workerGroupId
    distributedBackend, workerSelectionPolicy, netIf, modelsRoot, modelCacheDir, runtimeLogDir, apiPort, maxModelLen
    tensorParallelSize, pipelineParallelSize, maxNumSeqs, gpuMemoryUtilization, enforceEager, ggufCacheDir
    inferLogDir, llamaPort, llamaCtxSize, llamaThreads, llamaGpuLayers, inferenceHealthcheckRetries
    inferenceHealthcheckIntervalSec, rendezvousPort}

def gatewayToJson (g : GatewaySettings) : Json :=
  ofFields [
    field "listen_host" (some g.listenHost),field "listen_port" (some g.listenPort),
    field "server_name" (some g.serverName)]

def gatewayOf : Checked GatewaySettings := do
  let dflt : GatewaySettings := {}
  let listenHost ← j.value "listen_host" dflt.listenHost
  let listenPort ← j.value "listen_port" dflt.listenPort
  let serverName ← j.value "server_name" dflt.serverName
  pure {listenHost, listenPort, serverName}

/-- What a worker group takes over from the settings of the plane. -/
def workerGroupDefaults (planeName : String) (i : InferenceRuntimeSettings) (g : WorkerGroupSpec) :
    WorkerGroupSpec :=
  {g with
    groupId := Renderer.orElse (Renderer.orElse g.groupId i.workerGroupId) (planeName ++ "-workers")
    distributedBackend := Renderer.orElse g.distributedBackend i.distributedBackend
    workerSelectionPolicy := Renderer.orElse g.workerSelectionPolicy i.workerSelectionPolicy
    rendezvousPort := if g.rendezvousPort ≤ 0 then i.rendezvousPort else g.rendezvousPort}

def memberOfGpuNode (rank : Int32) (gpuNode : RuntimeGpuNode) : WorkerGroupMemberSpec where
  name := gpuNode.name
  nodeName := gpuNode.nodeName
  gpuDevice := gpuNode.gpuDevice
  rank
  gpuFraction := gpuNode.gpuFraction
  shareMode := gpuNode.shareMode
  priority := gpuNode.priority
  preemptible := gpuNode.preemptible
  memoryCapMb := gpuNode.memoryCapMb
  enabled := gpuNode.enabled
  leader := rank = 0

def workerRpcPortOf (i : InstanceSpec) : Checked Int32 :=
  match i.environment.lookup "NAIM_WORKER_RPC_PORT" with
  | none => .ok 0
  | some text => if text = "" then .ok 0 else Text.stoi text

def memberOfInstance (rank : Int32) (i : InstanceSpec) : Checked WorkerGroupMemberSpec := do
  let rpcPort ← workerRpcPortOf i
  pure {
    name := i.name, nodeName := i.nodeName, gpuDevice := i.gpuDevice.getD "", rpcPort, rank
    gpuFraction := i.gpuFraction, shareMode := i.shareMode, priority := i.priority, preemptible := i.preemptible
    memoryCapMb := i.memoryCapMb, enabled := true, leader := rank = 0}

/-- A group without members has those of the runtime, else the worker instances. -/
def membersOrWorkers (members : List WorkerGroupMemberSpec) : Checked (List WorkerGroupMemberSpec) :=
  if members ≠ [] then .ok members
  else if gpuNodes ≠ [] then
    .ok (gpuNodes.zipIdx.map fun (gpuNode,rank) => memberOfGpuNode (Int32.ofNat rank) gpuNode)
  else (instances.filter (·.role = .worker)).zipIdx.mapM fun (i,rank) =>
    memberOfInstance (Int32.ofNat rank) i

def fillWorkerGroup (g : WorkerGroupSpec) : WorkerGroupSpec :=
  let inferInstanceName := if g.inferInstanceName ≠ "" then g.inferInstanceName
    else ((instances.find? (·.role = .infer)).map (·.name)).getD ""
  {g with
    expectedWorkers := if g.expectedWorkers ≤ 0 then defaultWorkersPerReplica (eligibleWorkerMemberCount g)
      else g.expectedWorkers
    inferInstanceName, rendezvousHost := Renderer.orElse g.rendezvousHost inferInstanceName
    members := g.members.map fun member =>
      {member with inferInstanceName := Renderer.orElse member.inferInstanceName inferInstanceName}}

def completeWorkerGroup (g : WorkerGroupSpec) : Checked WorkerGroupSpec := do
  let members ← membersOrWorkers gpuNodes instances g.members
  let group := fillWorkerGroup instances {g with members}
  validateReplicaPacking i group
  pure (assignReplicaTopology i group)

def desiredStateToJson : Json :=
  ofFields [
    field "plane_name" (some s.planeName),field "plane_shared_disk_name" (some s.planeSharedDiskName),
    field "control_root" (some s.controlRoot),field "plane_mode" (some s.planeMode.text),
    field "protected" (some (s.protectedPlane || s.securedConnection.any (·.enabled))),
    field "inference" (some (inferenceToJson s.inference)),
    field "worker_group" (some (workerGroupToJson s.workerGroup)),
    field "gateway" (some (gatewayToJson s.gateway)),
    field "runtime_gpu_nodes" (some (Json.arr (s.runtimeGpuNodes.map runtimeGpuNodeToJson))),
    field "nodes" (some (Json.arr (s.nodes.map nodeInventoryToJson))),
    field "disks" (some (Json.arr (s.disks.map diskSpecToJson))),
    field "instances" (some (Json.arr (s.instances.map instanceSpecToJson))),
    field "post_deploy_script" s.postDeployScript,field "placement_target" s.placementTarget,
    field "bootstrap_model" (s.bootstrapModel.map bootstrapModelToJson),
    field "interaction" (s.interaction.map interactionSettingsToJson),
    field "skills" (s.skills.map skillsSettingsToJson),
    field "webgateway" (s.browsing.map browsingSettingsToJson),
    field "knowledge" (s.knowledge.map knowledgeSettingsToJson),field "features" (featuresToJson s),
    field "app_host" (s.appHost.map externalAppHostToJson)]

def isDesiredStateV2 : Checked Bool :=
  if j.isObject then (fun version : Int32 => decide (version = 2)) <$> j.value "version" 0 else .ok false

def block {α : Type} (j : Json) (key : String) (read : Json → Checked α) : Checked (Option α) :=
  mapOption (j.object? key) read

def blockOr {α : Type} (j : Json) (key : String) (default : α) (read : Json → Checked α) : Checked α :=
  getOr (block j key read) (.ok default)

def recordsAt {α : Type} (j : Json) (key : String) (read : Json → Checked α) : Checked (List α) := do
  let items ← j.value key (Json.arr [])
  items.elements.mapM read

def desiredStateOf : Checked DesiredState := do
  let planeName ← j.atAs "plane_name"
  let planeSharedDiskName ← j.atAs "plane_shared_disk_name"
  let controlRoot ← j.value "control_root" ("/naim/shared/control/" ++ planeName)
  let planeMode ← j.value "plane_mode" "compute" >>= parsePlaneMode
  let protectedPlane ← j.value "protected" false
  let postDeployScript ← j.optional "post_deploy_script"
  let placementTarget ← j.optional "placement_target"
  let bootstrapModel ← block j "bootstrap_model" bootstrapModelFromJson
  let interaction ← block j "interaction" interactionSettingsFromJson
  let skills ← block j "skills" skillsSettingsFromJson
  let browsing ← mapOption ((j.object? "webgateway").or (j.object? "browsing")) browsingSettingsFromJson
  let knowledge ← block j "knowledge" knowledgeSettingsFromJson
  let features := j.objectAt "features"
  let turboquant ← block features "turboquant" turboQuantFromJson
  let contextCompression ← block features "context_compression" contextCompressionFromJson
  let voiceListener ← block features "voice_listener" voiceListenerFromJson
  let voiceMaker ← block features "voice_maker" voiceMakerFromJson
  let securedConnection ← block features "secured_connection" securedConnectionFromJson
  let appHost ← block j "app_host" externalAppHostFromJson
  let inference ← Renderer.normalizeInferenceSettings <$> blockOr j "inference" {} inferenceOf
  let group ← workerGroupDefaults planeName inference <$> blockOr j "worker_group" {} workerGroupFromJson
  let gateway ← blockOr j "gateway" {} gatewayOf
  let runtimeGpuNodes ← recordsAt j "runtime_gpu_nodes" runtimeGpuNodeFromJson
  let nodes ← recordsAt j "nodes" nodeInventoryFromJson
  let disks ← recordsAt j "disks" diskSpecFromJson
  let instances ← recordsAt j "instances" instanceSpecFromJson
  let workerGroup ← completeWorkerGroup inference runtimeGpuNodes instances group
  pure {
    planeName, planeSharedDiskName, controlRoot, planeMode
    protectedPlane := protectedPlane || securedConnection.any (·.enabled)
    postDeployScript, placementTarget, bootstrapModel, interaction, skills, browsing, knowledge, turboquant
    contextCompression, voiceListener, voiceMaker, securedConnection, appHost, inference, workerGroup, gateway
    runtimeGpuNodes, nodes, disks, instances}

def desiredStateFromJson (dump : Json → String) (j : Json) : Checked DesiredState := do
  let v2 ← isDesiredStateV2 j
  if v2 then Renderer.render dump j else desiredStateOf j

def resolvePlacementTargetAliasValue (placementTarget : Option String) : Checked String :=
  match placementTarget with
  | none => .ok ""
  | some target =>
    if target = "" then .ok ""
    else if target = "local" then .ok "local-hostd"
    else if "node:".toList <+: target.toList then
      let nodeName := String.ofList (target.toList.drop 5)
      if nodeName = "" then Checked.fail "placement_target node alias is empty" else .ok nodeName
    else Checked.fail ("unsupported placement_target '" ++ target ++ "' (expected 'local' or 'node:<name>')")

def collectPlacementReferencedNodes : List String :=
  ((s.inference.primaryInferNode::s.workerGroup.members.map (·.nodeName) ++ s.nodes.map (·.name) ++
    s.disks.map (·.nodeName) ++ s.instances.map (·.nodeName) ++
    s.runtimeGpuNodes.map (·.nodeName)).filter (· ≠ "")).dedup

def singleNodeOnly : String := "plane-level placement_target supports only single-node desired states"

def placedOn (target : String) : DesiredState :=
  {s with
    inference := {s.inference with
      primaryInferNode := if s.inference.primaryInferNode = "" then "" else target}
    nodes := s.nodes.map fun node => {node with name := target}
    disks := s.disks.map fun disk => {disk with nodeName := target}
    instances := s.instances.map fun i => {i with nodeName := target}
    runtimeGpuNodes := s.runtimeGpuNodes.map fun gpuNode => {gpuNode with nodeName := target}
    workerGroup := {s.workerGroup with
      members := s.workerGroup.members.map fun member => {member with nodeName := target}}}

def resolvePlacementTargetAliases : Checked DesiredState := do
  let target ← resolvePlacementTargetAliasValue s.placementTarget
  if target = "" then pure s
  else do
    throwIf (1 < (collectPlacementReferencedNodes s).length) singleNodeOnly
    pure (placedOn s target)

def serializeDesiredStateJson {Text : Type} (format : TextFormat Text) (s : DesiredState) : Text :=
  format.dump (desiredStateToJson s)

/-- A target that does not apply to several nodes is dropped. -/
def resolveOrDropTarget : Checked DesiredState :=
  match resolvePlacementTargetAliases s with
  | .ok resolved => .ok resolved
  | .error e =>
    if s.placementTarget.isSome ∧ e = .runtimeError singleNodeOnly then .ok {s with placementTarget := none}
    else .error e

def deserializeDesiredStateJson {Text : Type} (format : TextFormat Text) (dump : Json → String) (text : Text) :
    Checked DesiredState := do
  let j ← format.parse text
  let s ← desiredStateFromJson dump j
  resolveOrDropTarget s

section Blocks

variable {α β : Type} {j : Json} {r : Json → Checked β} {w : α → Json} {g : α → β} {key : String}

lemma block_eq {o : Option α} (hget : j.get? key = o.map w)
    (hobject : ∀ a, (w a).isObject = true) (hread : ∀ a, r (w a) = .ok (g a)) :
    block j key r = .ok (o.map g) := by
  rw [block,object?,hget,filter_isObject_map hobject,mapOption_map_ok hread]

lemma block_eq_self {o : Option α} {r : Json → Checked α} (hget : j.get? key = o.map w)
    (hobject : ∀ a, (w a).isObject = true) (hread : ∀ a, r (w a) = .ok a) :
    block j key r = .ok o := by rw [block_eq hget hobject hread,map_id']

lemma blockOr_eq {r : Json → Checked α} {a default : α} (hget : j.get? key = some (w a))
    (hobject : ∀ a, (w a).isObject = true) (hread : ∀ a, r (w a) = .ok a) :
    blockOr j key default r = .ok a := by
  have hblock : block j key r = .ok (some a) := block_eq_self (by rw [hget,map_some]) hobject hread
  rw [blockOr,hblock]
  rfl

lemma recordsAt_eq {items : List α} (hj : j.isObject = true)
    (hget : j.get? key = some (Json.arr (items.map w))) (hread : ∀ a, r (w a) = .ok (g a)) :
    recordsAt j key r = .ok (items.map g) := by
  have hitems : (items.map w).mapM r = .ok (items.map g) := by
    rw [mapM_eq_ok]
    exact List.forall₂_map_left_iff.2 (List.forall₂_map_right_iff.2 (List.forall₂_same.2 fun a _ => hread a))
  rw [recordsAt,value_eq hj,hget,readOr_some,get_json]
  exact hitems

lemma recordsAt_eq_self {r : Json → Checked α} {items : List α} (hj : j.isObject = true)
    (hget : j.get? key = some (Json.arr (items.map w))) (hread : ∀ a, r (w a) = .ok a) :
    recordsAt j key r = .ok items := by rw [recordsAt_eq hj hget hread,List.map_id']

end Blocks

lemma securedConnectionFromJson_toJson (f : SecuredConnectionFeatureSpec) :
    securedConnectionFromJson (securedConnectionToJson f) = .ok f := by
  have hids : (securedConnectionToJson f).arrayAs "user_ids" = .ok f.userIds := by
    have h := arrayOf_map (some f.userIds)
    simpa [securedConnectionToJson,arrayAs] using h
  unfold securedConnectionFromJson
  rw [hids]
  simp [securedConnectionToJson]

/-- The model of a voice feature, with its names filled in and one path at least. -/
def storedVoiceModel (dfltName dfltEnv : String) (m : AppModelMountSpec) : AppModelMountSpec :=
  {m with
    name := Renderer.orElse m.name dfltName
    sourcePaths := if m.sourcePaths = [] ∨ m.sourcePaths = [m.sourcePath] then
        (if m.sourcePath ≠ "" then [m.sourcePath] else [])
      else m.sourcePaths
    hostPath := "", envVar := Renderer.orElse m.envVar dfltEnv}

lemma voiceModelFromJson_toJson (dfltName dfltEnv dfltMountPath : String) (m : AppModelMountSpec) :
    voiceModelFromJson dfltName dfltEnv dfltMountPath (some (voiceModelToJson dfltName dfltEnv m)) =
      .ok (storedVoiceModel dfltName dfltEnv m) := by
  have hpaths : (if (sourcePathsToJson m).getD [] = [] ∧ m.sourcePath ≠ "" then [m.sourcePath]
      else (sourcePathsToJson m).getD []) = (storedVoiceModel dfltName dfltEnv m).sourcePaths := by
    unfold sourcePathsToJson storedVoiceModel
    by_cases h : m.sourcePaths = [] ∨ m.sourcePaths = [m.sourcePath]
    · simp [h]
    · have hne : ¬ (m.sourcePaths = [] ∧ m.sourcePath ≠ "") := fun hnil => h (Or.inl hnil.1)
      rw [if_neg h,getD_some,if_neg hne,if_neg h]
  simp only [voiceModelFromJson,voiceModelToJson,objectAt,object?]
  simp [arrayAs,hpaths]
  rfl

def storedVoiceListener (f : VoiceListenerFeatureSpec) : VoiceListenerFeatureSpec :=
  {f with
    model := storedVoiceModel "whisper" "WHISPER_MODEL_PATH" f.model, image := f.image.filter (· ≠ "")}

def storedVoiceMaker (f : VoiceMakerFeatureSpec) : VoiceMakerFeatureSpec :=
  {f with
    model := storedVoiceModel "omnivoice" "OMNIVOICE_MODEL_PATH" f.model, image := f.image.filter (· ≠ "")}

lemma voiceListenerFromJson_toJson (f : VoiceListenerFeatureSpec) :
    voiceListenerFromJson (voiceListenerToJson f) = .ok (storedVoiceListener f) := by
  have hmodel : (voiceListenerToJson f).object? "model" =
      some (voiceModelToJson "whisper" "WHISPER_MODEL_PATH" f.model) := by
    simp [voiceListenerToJson,object?,voiceModelToJson]
  unfold voiceListenerFromJson
  rw [hmodel,voiceModelFromJson_toJson]
  simp [voiceListenerToJson,string?,storedVoiceListener]

lemma voiceMakerFromJson_toJson (f : VoiceMakerFeatureSpec) :
    voiceMakerFromJson (voiceMakerToJson f) = .ok (storedVoiceMaker f) := by
  have hmodel : (voiceMakerToJson f).object? "model" =
      some (voiceModelToJson "omnivoice" "OMNIVOICE_MODEL_PATH" f.model) := by
    simp [voiceMakerToJson,object?,voiceModelToJson]
  unfold voiceMakerFromJson
  rw [hmodel,voiceModelFromJson_toJson]
  simp [voiceMakerToJson,string?,storedVoiceMaker]

lemma get?_features (key : String) : (((desiredStateToJson s).objectAt "features").get? key) =
      (ofFields [
        field "turboquant" (s.turboquant.map turboQuantToJson),
        field "context_compression" (s.contextCompression.map contextCompressionToJson),
        field "voice_listener" (s.voiceListener.map voiceListenerToJson),
        field "voice_maker" (s.voiceMaker.map voiceMakerToJson),
        field "secured_connection" (s.securedConnection.map securedConnectionToJson)]).get? key := by
  have hfeatures : (desiredStateToJson s).objectAt "features" = (featuresToJson s).getD (obj []) := by
    unfold objectAt object?
    have hget : (desiredStateToJson s).get? "features" = featuresToJson s := by simp [desiredStateToJson]
    rw [hget]
    unfold featuresToJson
    split <;> simp
  rw [hfeatures]
  unfold featuresToJson
  split
  case isTrue h => rfl
  case isFalse h =>
    simp only [Bool.or_eq_true,isSome_iff_ne_none,not_or,not_not] at h
    simp [h]

def storedNode (node : NodeInventory) : NodeInventory := {node with gpuDevices := node.gpuMemoryMb.map Prod.fst}

def readWorkerGroup : Checked WorkerGroupSpec :=
  let inference := Renderer.normalizeInferenceSettings s.inference
  completeWorkerGroup inference s.runtimeGpuNodes s.instances (workerGroupDefaults s.planeName inference s.workerGroup)

/-- A state as it is read, with its completed worker group. -/
def storedState (group : WorkerGroupSpec) : DesiredState :=
  {s with
    protectedPlane := s.protectedPlane || s.securedConnection.any (·.enabled)
    bootstrapModel := s.bootstrapModel.map storedModel, voiceListener := s.voiceListener.map storedVoiceListener
    voiceMaker := s.voiceMaker.map storedVoiceMaker
    inference := Renderer.normalizeInferenceSettings s.inference, workerGroup := group
    nodes := s.nodes.map storedNode}

section Members

variable (s : DesiredState)

lemma isObject_toJson : (desiredStateToJson s).isObject = true := isObject_ofFields _

lemma block_bootstrapModel : block (desiredStateToJson s) "bootstrap_model" bootstrapModelFromJson =
    .ok (s.bootstrapModel.map storedModel) :=
  block_eq (w := bootstrapModelToJson) (by simp [desiredStateToJson]) (fun _ => rfl) bootstrapModelFromJson_toJson

lemma block_interaction : block (desiredStateToJson s) "interaction" interactionSettingsFromJson =
    .ok s.interaction :=
  block_eq_self (w := interactionSettingsToJson) (by simp [desiredStateToJson]) (fun _ => rfl)
    interactionSettingsFromJson_toJson

lemma block_skills : block (desiredStateToJson s) "skills" skillsSettingsFromJson = .ok s.skills :=
  block_eq_self (w := skillsSettingsToJson) (by simp [desiredStateToJson]) (fun _ => rfl) skillsSettingsFromJson_toJson

lemma block_browsing : mapOption (((desiredStateToJson s).object? "webgateway").or
    ((desiredStateToJson s).object? "browsing")) browsingSettingsFromJson = .ok s.browsing := by
  have hold : (desiredStateToJson s).object? "browsing" = none := by simp [desiredStateToJson,object?]
  rw [hold,or_none]
  exact block_eq_self (w := browsingSettingsToJson) (by simp [desiredStateToJson]) (fun _ => rfl)
    browsingSettingsFromJson_toJson

lemma block_knowledge : block (desiredStateToJson s) "knowledge" knowledgeSettingsFromJson = .ok s.knowledge :=
  block_eq_self (w := knowledgeSettingsToJson) (by simp [desiredStateToJson]) (fun _ => rfl)
    knowledgeSettingsFromJson_toJson

lemma block_appHost : block (desiredStateToJson s) "app_host" externalAppHostFromJson = .ok s.appHost :=
  block_eq_self (w := externalAppHostToJson) (by simp [desiredStateToJson]) (fun _ => rfl)
    fun _ => by simp [externalAppHostFromJson,externalAppHostToJson,Json.optional]

lemma block_turboquant :
    block ((desiredStateToJson s).objectAt "features") "turboquant" turboQuantFromJson = .ok s.turboquant :=
  block_eq_self (w := turboQuantToJson) (by rw [get?_features]; simp) (fun _ => rfl)
    fun _ => by simp [turboQuantFromJson,turboQuantToJson,Json.optional]

lemma block_contextCompression :
    block ((desiredStateToJson s).objectAt "features") "context_compression" contextCompressionFromJson =
      .ok s.contextCompression :=
  block_eq_self (w := contextCompressionToJson) (by rw [get?_features]; simp) (fun _ => rfl)
    fun _ => by simp [contextCompressionFromJson,contextCompressionToJson]

lemma block_voiceListener :
    block ((desiredStateToJson s).objectAt "features") "voice_listener" voiceListenerFromJson =
      .ok (s.voiceListener.map storedVoiceListener) :=
  block_eq (w := voiceListenerToJson) (by rw [get?_features]; simp) (fun _ => rfl) voiceListenerFromJson_toJson

lemma block_voiceMaker :
    block ((desiredStateToJson s).objectAt "features") "voice_maker" voiceMakerFromJson =
      .ok (s.voiceMaker.map storedVoiceMaker) :=
  block_eq (w := voiceMakerToJson) (by rw [get?_features]; simp) (fun _ => rfl) voiceMakerFromJson_toJson

lemma block_securedConnection :
    block ((desiredStateToJson s).objectAt "features") "secured_connection" securedConnectionFromJson =
      .ok s.securedConnection :=
  block_eq_self (w := securedConnectionToJson) (by rw [get?_features]; simp) (fun _ => rfl)
    securedConnectionFromJson_toJson

lemma blockOr_inference : blockOr (desiredStateToJson s) "inference" {} inferenceOf = .ok s.inference :=
  blockOr_eq (w := inferenceToJson) (by simp [desiredStateToJson]) (fun _ => rfl)
    fun _ => by simp [inferenceOf,inferenceToJson,valueOr]

lemma blockOr_workerGroup :
    blockOr (desiredStateToJson s) "worker_group" {} workerGroupFromJson = .ok s.workerGroup :=
  blockOr_eq (w := workerGroupToJson) (by simp [desiredStateToJson]) (fun _ => rfl) workerGroupFromJson_toJson

lemma blockOr_gateway : blockOr (desiredStateToJson s) "gateway" {} gatewayOf = .ok s.gateway :=
  blockOr_eq (w := gatewayToJson) (by simp [desiredStateToJson]) (fun _ => rfl)
    (fun _ => by simp [gatewayOf,gatewayToJson])

lemma recordsAt_runtimeGpuNodes :
    recordsAt (desiredStateToJson s) "runtime_gpu_nodes" runtimeGpuNodeFromJson = .ok s.runtimeGpuNodes :=
  recordsAt_eq_self (isObject_toJson s) (by simp [desiredStateToJson]) runtimeGpuNodeFromJson_toJson

lemma recordsAt_nodes :
    recordsAt (desiredStateToJson s) "nodes" nodeInventoryFromJson = .ok (s.nodes.map storedNode) :=
  recordsAt_eq (w := nodeInventoryToJson) (isObject_toJson s) (by simp [desiredStateToJson]) fun _ => by
    simp [nodeInventoryFromJson,nodeInventoryToJson,storedNode]

lemma recordsAt_disks : recordsAt (desiredStateToJson s) "disks" diskSpecFromJson = .ok s.disks :=
  recordsAt_eq_self (isObject_toJson s) (by simp [desiredStateToJson]) diskSpecFromJson_toJson

lemma recordsAt_instances :
    recordsAt (desiredStateToJson s) "instances" instanceSpecFromJson = .ok s.instances :=
  recordsAt_eq_self (isObject_toJson s) (by simp [desiredStateToJson]) instanceSpecFromJson_toJson

end Members

/-- What a reader makes of a written state: the settings in normal form and the worker group completed. -/
lemma desiredStateOf_toJson (s : DesiredState) :
    desiredStateOf (desiredStateToJson s) = storedState s <$> readWorkerGroup s := by
  have hplane : (desiredStateToJson s).atAs "plane_name" = .ok s.planeName := by simp [desiredStateToJson]
  have hshared : (desiredStateToJson s).atAs "plane_shared_disk_name" = .ok s.planeSharedDiskName := by
    simp [desiredStateToJson]
  have hroot : (desiredStateToJson s).value "control_root" ("/naim/shared/control/" ++ s.planeName) =
      .ok s.controlRoot := by
    simp [desiredStateToJson]
  have hmode : ((desiredStateToJson s).value "plane_mode" "compute" >>= parsePlaneMode) = .ok s.planeMode := by
    simp [desiredStateToJson]
  have hprotected : (desiredStateToJson s).value "protected" false =
      .ok (s.protectedPlane || s.securedConnection.any (·.enabled)) := by
    simp [desiredStateToJson]
  have hscript : (desiredStateToJson s).optional "post_deploy_script" = .ok s.postDeployScript := by
    simp [desiredStateToJson,Json.optional]
  have htarget : (desiredStateToJson s).optional "placement_target" = .ok s.placementTarget := by
    simp [desiredStateToJson,Json.optional]
  unfold desiredStateOf
  simp only [hplane,ok_bind,hshared,hroot,hmode,hprotected,hscript,htarget,block_bootstrapModel,block_interaction,
    block_skills,block_browsing,block_knowledge,block_turboquant,block_contextCompression,block_voiceListener,
    block_voiceMaker,block_securedConnection,block_appHost,blockOr_inference,blockOr_workerGroup,blockOr_gateway,
    recordsAt_runtimeGpuNodes,recordsAt_nodes,recordsAt_disks,recordsAt_instances,map_ok,Bool.or_assoc,Bool.or_self]
  unfold readWorkerGroup
  cases completeWorkerGroup (Renderer.normalizeInferenceSettings s.inference) s.runtimeGpuNodes s.instances
    (workerGroupDefaults s.planeName (Renderer.normalizeInferenceSettings s.inference) s.workerGroup) <;> rfl

lemma desiredStateFromJson_toJson (dump : Json → String) (s : DesiredState) :
    desiredStateFromJson dump (desiredStateToJson s) = storedState s <$> readWorkerGroup s := by
  have hversion : isDesiredStateV2 (desiredStateToJson s) = .ok false := by
    have hvalue : (desiredStateToJson s).value "version" (0 : Int32) = .ok 0 := by simp [desiredStateToJson]
    rw [isDesiredStateV2,isObject_toJson,if_pos rfl,hvalue]
    rfl
  rw [desiredStateFromJson,hversion,ok_bind]
  exact desiredStateOf_toJson s

/-- The text of a state is read back as its normal form with the placement target resolved. -/
theorem deserializeDesiredStateJson_serialize {Text : Type} (format : TextFormat Text) (dump : Json → String)
    (s : DesiredState) :
    deserializeDesiredStateJson format dump (serializeDesiredStateJson format s) =
      readWorkerGroup s >>= fun group => resolveOrDropTarget (storedState s group) := by
  rw [deserializeDesiredStateJson,serializeDesiredStateJson,format.parse_dump,ok_bind,desiredStateFromJson_toJson]
  cases readWorkerGroup s <;> rfl

end Naim.StateJson
