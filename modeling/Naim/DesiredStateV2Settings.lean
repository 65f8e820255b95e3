import Naim.DesiredStateV2Validator
import Naim.StateJsonSettingsCodecs

/-!
# The settings of a desired-state document

The first half of `DesiredStateV2Renderer`: the blocks of a version 2 document
and the settings of the plane that are read from them, up to its nodes.
-/

namespace Naim.Renderer

open Checked Json StateJsonSettingsCodecs

variable (doc : Json)

/-- The members of the renderer; a missing block is an empty object. -/
structure Sections where
  (doc infer worker resources workerResources voiceModuleResources voiceMakerResources app : Json)
  apps : List Json
  (skills browsing knowledge features : Json)

def findPrimary : List Json → Checked (Option Json)
  | [] => pure none
  | app::apps => do
    let primary ← app.value "primary" false
    if primary then pure (some app) else findPrimary apps

def appsOf : List Json :=
  match doc.get? "apps" with
  | some (.arr items) => items.filter isObject
  | _ => (doc.object? "app").toList

def sections : Checked Sections := do
  let resources := doc.objectAt "resources"
  let apps := appsOf doc
  let primary ← findPrimary apps
  pure {
    doc, infer := doc.objectAt "infer", worker := doc.objectAt "worker", resources
    workerResources := resources.objectAt "worker"
    voiceModuleResources := ((resources.object? "voice_module").or (resources.object? "voice_listener")).getD (.obj [])
    voiceMakerResources := resources.objectAt "voice_maker", app := (primary.or apps.head?).getD (.obj []), apps
    skills := doc.objectAt "skills"
    browsing := ((doc.object? "webgateway").or (doc.object? "browsing")).getD (.obj [])
    knowledge := doc.objectAt "knowledge", features := doc.objectAt "features"}

def stripBundleRef (value : String) : String :=
  if "bundle://".toList <+: value.toList then String.ofList (value.toList.drop 9) else value

def renderSkillsSettings (skills : Json) : Checked (Option SkillsSettings) := do
  let enabled ← skills.value "enabled" false
  pure (if enabled then some {enabled := true, factorySkillIds := skills.stringsAt "factory_skill_ids"} else none)

def renderBrowsingPolicy (policy : Json) : Checked BrowsingPolicySettings := do
  let dflt : BrowsingPolicySettings := {}
  let cefEnabled ← policy.value "cef_enabled" dflt.cefEnabled
  let browserSessionEnabled ← policy.value "browser_session_enabled" dflt.browserSessionEnabled
  let renderedBrowserEnabled ← policy.value "rendered_browser_enabled" dflt.renderedBrowserEnabled
  let loginEnabled ← policy.value "login_enabled" dflt.loginEnabled
  let responseReviewEnabled ← policy.value "response_review_enabled" dflt.responseReviewEnabled
  let policyVersion ← policy.value "policy_version" dflt.policyVersion
  let maxSearchResults ← policy.value "max_search_results" dflt.maxSearchResults
  let maxFetchBytes ← policy.value "max_fetch_bytes" dflt.maxFetchBytes
  pure {
    cefEnabled, browserSessionEnabled, renderedBrowserEnabled, loginEnabled, responseReviewEnabled, policyVersion
    maxSearchResults, maxFetchBytes, allowedDomains := policy.stringsAt "allowed_domains"
    blockedDomains := policy.stringsAt "blocked_domains", blockedTargets := policy.stringsAt "blocked_targets"}

def renderBrowsingSettings (browsing : Json) : Checked (Option BrowsingSettings) := do
  let enabled ← browsing.value "enabled" false
  mapOption (if enabled then some browsing else none) fun browsing => do
    let policy ← mapOption (browsing.object? "policy") renderBrowsingPolicy
    pure {enabled := true, policy}

def renderContextPolicy (policy : Json) : Checked KnowledgeContextPolicySettings := do
  let dflt : KnowledgeContextPolicySettings := {}
  let includeGraph ← policy.value "include_graph" dflt.includeGraph
  let maxGraphDepth ← policy.value "max_graph_depth" dflt.maxGraphDepth
  let tokenBudget ← policy.value "token_budget" dflt.tokenBudget
  pure {includeGraph, maxGraphDepth, tokenBudget}

def renderKnowledgeSettings (knowledge : Json) : Checked (Option KnowledgeSettings) := do
  let enabled ← knowledge.value "enabled" false
  mapOption (if enabled then some knowledge else none) fun knowledge => do
    let dflt : KnowledgeSettings := {}
    let serviceId ← knowledge.value "service_id" dflt.serviceId
    let selectionMode ← knowledge.value "selection_mode" dflt.selectionMode
    let contextPolicy ← mapOption (knowledge.object? "context_policy") renderContextPolicy
    pure {
      enabled := true, serviceId, selectionMode
      selectedKnowledgeIds := knowledge.stringsAt "selected_knowledge_ids"
      contextPolicy := contextPolicy.getD {}}

/-- The execution node under its own key, else under the legacy one. -/
def placementExecutionNodeName (placement : Json) : Checked String := do
  let executionNode ← placement.value "execution_node" ""
  if executionNode ≠ "" then pure executionNode else placement.value "primary_node" ""

def renderAppHost (appHost : Json) : Checked ExternalAppHostConfig := do
  let address ← appHost.value "address" ""
  pure {
    address, sshKeyPath := appHost.string? "ssh_key_path", username := appHost.string? "username"
    password := appHost.string? "password"}

def renderPlacementTarget : Checked (Option String) :=
  match doc.object? "placement" with
  | none => pure none
  | some placement => do
    let node ← placementExecutionNodeName placement
    pure (if node ≠ "" then some ("node:" ++ node) else none)

def renderPlacementAppHost : Checked (Option ExternalAppHostConfig) :=
  mapOption ((doc.objectAt "placement").object? "app_host") renderAppHost

def enabledFeature {α : Type} (features : Json) (key : String) (render : Json → Checked α) :
    Checked (Option α) :=
  match features.object? key with
  | none => pure none
  | some block => do
    let enabled ← block.value "enabled" false
    mapOption (if enabled then some block else none) render

def renderTurboquant (turboquant : Json) : Checked TurboQuantFeatureSpec := do
  let cacheTypeK ← turboquant.value "cache_type_k" "turbo4"
  let cacheTypeV ← turboquant.value "cache_type_v" "turbo4"
  pure {enabled := true, cacheTypeK := some cacheTypeK, cacheTypeV := some cacheTypeV}

def renderContextCompression (compression : Json) : Checked ContextCompressionFeatureSpec := do
  let dflt : ContextCompressionFeatureSpec := {}
  let mode ← compression.value "mode" dflt.mode
  let target ← compression.value "target" dflt.target
  let memoryPriority ← compression.value "memory_priority" dflt.memoryPriority
  pure {enabled := true, mode, target, memoryPriority}

def renderVoiceModel (defaultName defaultMountPath defaultEnv : String) (model : Json) :
    Checked AppModelMountSpec := do
  let source := model.objectAt "source"
  let name ← model.value "name" defaultName
  let sourcePath ← source.value "path" ""
  let sourceNodeName ← source.value "node" ""
  let sourcePaths ← source.arrayAs "paths"
  let mountPath ← model.value "mount_path" defaultMountPath
  let envVar ← model.value "env" defaultEnv
  let required ← model.value "required" true
  pure {
    name, sourcePath, sourceNodeName
    sourcePaths := if sourcePaths = [] ∧ sourcePath ≠ "" then [sourcePath] else sourcePaths
    mountPath, envVar, required}

def renderVoiceListener (voice : Json) : Checked VoiceListenerFeatureSpec := do
  let dflt : VoiceListenerFeatureSpec := {}
  let wakePhrase ← voice.value "wake_phrase" dflt.wakePhrase
  let language ← voice.value "language" dflt.language
  let model ← mapOption (voice.object? "model")
    (renderVoiceModel "whisper" "/models/whisper/model.bin" "WHISPER_MODEL_PATH")
  pure {
    enabled := true, wakePhrase, language, model := model.getD {}, image := voice.string? "image"}

def renderVoiceMaker (voice : Json) : Checked VoiceMakerFeatureSpec := do
  let dflt : VoiceMakerFeatureSpec := {}
  let language ← voice.value "language" dflt.language
  let voiceMode ← voice.value "voice_mode" dflt.voiceMode
  let instruct ← voice.value "instruct" dflt.instruct
  let outputFormat ← voice.value "format" dflt.outputFormat
  let model ← mapOption (voice.object? "model")
    (renderVoiceModel "omnivoice" "/models/omnivoice" "OMNIVOICE_MODEL_PATH")
  pure {
    enabled := true, language, voiceMode, instruct, outputFormat, model := model.getD {}
    image := voice.string? "image"}

def renderSecuredConnection (secured : Json) : Checked SecuredConnectionFeatureSpec := do
  let userIds ← secured.arrayAs "user_ids"
  pure {enabled := true, userIds}

def renderHooks : Checked (Option String) := do
  let script ← (doc.objectAt "hooks").optional "post_deploy_script"
  pure (script.map stripBundleRef)

def renderModelSource (source : Json) : Checked BootstrapModelSpec := do
  let sourceType ← source.value "type" ""
  if sourceType = "catalog" ∨ sourceType = "huggingface" ∨ sourceType = "library" then do
    let modelId ← source.value "ref" ""
    pure {modelId := modelId}
  else if sourceType = "local" then do
    let path ← source.value "path" ""
    let modelId ← source.value "ref" path
    pure {modelId, localPath := source.string? "path"}
  else if sourceType = "url" then do
    let modelId ← source.value "ref" ""
    let sourceUrls ← source.arrayAs "urls"
    pure {modelId, sourceUrl := source.string? "url", sourceUrls}
  else pure {}

def renderWriteback (model : BootstrapModelSpec) (writeback : Json) : Checked BootstrapModelSpec := do
  let enabled ← writeback.value "enabled" model.writebackEnabled
  let ifMissing ← writeback.value "if_missing" model.writebackIfMissing
  pure {model with
    writebackEnabled := enabled, writebackIfMissing := ifMissing
    writebackTargetNodeName := writeback.string? "target_node_name"}

def renderMaterialization (model : BootstrapModelSpec) (materialization : Json) :
    Checked BootstrapModelSpec := do
  let mode ← materialization.value "mode" (if model.localPath.isSome then "reference" else "copy")
  let sourcePaths ← materialization.arrayAs "source_paths"
  let keepSource ← materialization.value "keep_source" model.keepSource
  let model := {model with
    materializationMode := mode, localPath := (materialization.string? "local_path").or model.localPath
    sourceNodeName := materialization.string? "source_node_name", sourcePaths
    sourceFormat := materialization.string? "source_format"
    sourceQuantization := materialization.string? "source_quantization"
    desiredOutputFormat := materialization.string? "desired_output_format"
    quantization := materialization.string? "quantization"
    keepSource}
  match materialization.object? "writeback" with
  | none => pure model
  | some writeback => renderWriteback model writeback

def renderModelObject (modelJson : Json) : Checked BootstrapModelSpec := do
  let source ← mapOption (modelJson.object? "source") renderModelSource
  let materialized ← mapOption (modelJson.object? "materialization") (renderMaterialization (source.getD {}))
  let servedModelName ← modelJson.value "served_model_name" ""
  pure {materialized.getD (source.getD {}) with
    servedModelName := if servedModelName ≠ "" then some servedModelName else none
    targetFilename := modelJson.string? "target_filename", sha256 := modelJson.string? "sha256"}

def renderModel : Checked (Option BootstrapModelSpec) := mapOption (doc.object? "model") renderModelObject

def defaultCompletionPolicy : CompletionPolicy where
  responseMode := "normal"
  maxTokens := 512
  maxContinuations := 0
  maxTotalCompletionTokens := 512
  maxElapsedTimeMs := 30000

def defaultLongCompletionPolicy : CompletionPolicy where
  responseMode := "very_long"
  maxTokens := 1024
  maxContinuations := 6
  maxTotalCompletionTokens := 6144
  maxElapsedTimeMs := 120000
  semanticGoal := some "complete the requested artifact fully before emitting [[TASK_COMPLETE]]"

def renderInteractionObject (j : Json) : Checked InteractionSettings := do
  let i ← interactionSettingsFromJson j
  pure {i with
    defaultResponseLanguage := if i.defaultResponseLanguage = "" then "en" else i.defaultResponseLanguage
    supportedResponseLanguages :=
      if i.supportedResponseLanguages = [] then ["en","es","pt","zh"] else i.supportedResponseLanguages
    completionPolicy := i.completionPolicy.or (some defaultCompletionPolicy)
    longCompletionPolicy := i.longCompletionPolicy.or (some defaultLongCompletionPolicy)}

def renderInteraction : Checked (Option InteractionSettings) :=
  mapOption (doc.object? "interaction") renderInteractionObject

def orElse (a b : String) : String := if a = "" then b else a

/-- The defaults of settings that were left empty or are out of range. -/
def normalizeInferenceSettings (i : InferenceRuntimeSettings) : InferenceRuntimeSettings :=
  let i := {i with
    workerGroupId := orElse i.workerGroupId "default-worker-group"
    distributedBackend :=
      orElse i.distributedBackend (if i.runtimeEngine = "llama.cpp" then "llama_rpc" else "local")
    dataParallelMode := orElse i.dataParallelMode "off"
    dataParallelLbMode := orElse i.dataParallelLbMode "external"
    workerSelectionPolicy := orElse i.workerSelectionPolicy "prefer-free-then-share"
    modelCacheDir := orElse i.modelCacheDir i.ggufCacheDir
    runtimeLogDir := orElse i.runtimeLogDir i.inferLogDir
    apiPort := if i.apiPort ≤ 0 then i.llamaPort else i.apiPort
    maxModelLen := if i.maxModelLen ≤ 0 then i.llamaCtxSize else i.maxModelLen}
  {i with
    ggufCacheDir := orElse i.ggufCacheDir i.modelCacheDir, inferLogDir := orElse i.inferLogDir i.runtimeLogDir
    llamaPort := if i.llamaPort ≤ 0 then i.apiPort else i.llamaPort
    llamaCtxSize := if i.llamaCtxSize ≤ 0 then i.maxModelLen else i.llamaCtxSize}

def renderGateway (network : Json) : Checked GatewaySettings := do
  let dflt : GatewaySettings := {}
  let listenHost ← network.value "listen_host" "0.0.0.0"
  let listenPort ← network.value "gateway_port" dflt.listenPort
  let serverName ← network.value "server_name" dflt.serverName
  pure {listenHost, listenPort, serverName}

def renderRuntime : Checked (InferenceRuntimeSettings × GatewaySettings) := do
  let runtime ← doc.member "runtime"
  let dflt : InferenceRuntimeSettings := {}
  let runtimeEngine ← runtime.value "engine" "llama.cpp"
  let dataParallelMode ← runtime.value "data_parallel_mode" dflt.dataParallelMode
  let dataParallelLbMode ← runtime.value "data_parallel_lb_mode" dflt.dataParallelLbMode
  let distributedBackend ← Validator.distributedBackendOf runtime runtimeEngine
  let maxModelLen ← runtime.value "max_model_len" dflt.maxModelLen
  let llamaCtxSize ← runtime.value "llama_ctx_size" dflt.llamaCtxSize
  let maxNumSeqs ← runtime.value "max_num_seqs" dflt.maxNumSeqs
  let gpuMemoryUtilization ← runtime.value "gpu_memory_utilization" dflt.gpuMemoryUtilization
  let tensorParallelSize ← runtime.value "tensor_parallel_size" dflt.tensorParallelSize
  let pipelineParallelSize ← runtime.value "pipeline_parallel_size" dflt.pipelineParallelSize
  let enforceEager ← runtime.value "enforce_eager" dflt.enforceEager
  let network := doc.objectAt "network"
  let gateway ← renderGateway network
  let apiPort ← network.value "inference_port" dflt.apiPort
  let rendezvousPort ← network.value "rendezvous_port" dflt.rendezvousPort
  pure (normalizeInferenceSettings {
    runtimeEngine, dataParallelMode, dataParallelLbMode, distributedBackend
    workerSelectionPolicy := "prefer-free-then-share", netIf := "eth0", modelsRoot := "/naim/shared/models"
    modelCacheDir := "/naim/shared/models/cache", runtimeLogDir := "/naim/shared/logs/infer"
    maxModelLen, llamaCtxSize, maxNumSeqs, gpuMemoryUtilization, tensorParallelSize, pipelineParallelSize
    enforceEager, apiPort
    rendezvousPort},gateway)

def renderNode (node : Json) : Checked NodeInventory := do
  let name ← node.atAs "name"
  let platform ← node.value "platform" "linux"
  let modeText ← node.value "execution_mode" "mixed"
  let executionMode ← parseHostExecutionMode modeText
  let gpuMemoryMb ← node.mapAs "gpu_memory_mb"
  pure {name, platform, executionMode, gpuMemoryMb}

def targetNode? (placementTarget : Option String) : Option String :=
  placementTarget.bind fun target =>
    if "node:".toList <+: target.toList then some (String.ofList (target.toList.drop 5)) else none

def mixedNode (name : String) : NodeInventory where
  name
  platform := "linux"
  executionMode := .mixed

/-- The listed nodes, else the node of the placement, else the local one. -/
def renderNodeTopology (placementTarget : Option String) : Checked (List NodeInventory) := do
  let nodes ← ((doc.objectAt "topology").arrayAt "nodes").mapM renderNode
  pure (if nodes ≠ [] then nodes else [mixedNode ((targetNode? placementTarget).getD "local-hostd")])

def renderSettings (r : Sections) : Checked DesiredState := do
  let planeName ← r.doc.atAs "plane_name"
  let modeText ← Validator.planeModeOf r.doc
  let planeMode ← parsePlaneMode modeText
  let protectedPlane ← r.doc.value "protected" false
  let skills ← renderSkillsSettings r.skills
  let browsing ← renderBrowsingSettings r.browsing
  let knowledge ← renderKnowledgeSettings r.knowledge
  let placementTarget ← renderPlacementTarget r.doc
  let appHost ← renderPlacementAppHost r.doc
  let turboquant ← enabledFeature r.features "turboquant" renderTurboquant
  let contextCompression ← enabledFeature r.features "context_compression" renderContextCompression
  let voiceListener ← enabledFeature r.features "voice_listener" renderVoiceListener
  let voiceMaker ← enabledFeature r.features "voice_maker" renderVoiceMaker
  let securedConnection ← enabledFeature r.features "secured_connection" renderSecuredConnection
  let postDeployScript ← renderHooks r.doc
  let bootstrapModel ← renderModel r.doc
  let interaction ← renderInteraction r.doc
  let runtime ← renderRuntime r.doc
  let nodes ← renderNodeTopology r.doc placementTarget
  pure {
    planeName, planeSharedDiskName := "plane-" ++ planeName ++ "-shared"
    controlRoot := "/naim/shared/control/" ++ planeName, planeMode
    -- a secured connection protects its plane
    protectedPlane := protectedPlane || securedConnection.isSome
    postDeployScript, placementTarget, bootstrapModel, interaction, skills, browsing, knowledge, turboquant
    contextCompression, voiceListener, voiceMaker, securedConnection, appHost, inference := runtime.1
    gateway := runtime.2
    nodes}

end Naim.Renderer
