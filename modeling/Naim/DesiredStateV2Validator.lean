import Naim.Json
import Naim.Models
import Mathlib.Algebra.Order.Group.Abs
import Mathlib.Algebra.Order.Ring.Rat

/-!
# The validator of desired-state documents

`DesiredStateV2Validator`: the checks of a version 2 document in the order in
which they run, with their messages.
-/

namespace Naim.Validator

open Checked Json List

variable (policy : Json) (fieldName : String) (doc : Json) (planeMode : String) {seen names paths : List String}
  {nodes models apps : List Json}

def refuse (c : Bool) (what : String) : Checked Unit := throwIf c ("desired-state v2 " ++ what)

@[simp] lemma refuse_eq_ok {c : Bool} {what : String} {u : Unit} :
    refuse c what = .ok u ↔ c = false := by simp [refuse]

def fieldEnabledByDefault (service : Json) (default : Bool) : Checked Bool := service.value "enabled" default

def supportedTurboQuantCacheTypes : List String := ["f16","turbo3","turbo4"]

def isSupportedTurboQuantCacheType (value : String) : Bool := value ∈ supportedTurboQuantCacheTypes

def placementExecutionNodeName (placement : Json) : Checked (Option String) := do
  let executionNode ← placement.value "execution_node" ""
  let legacyPrimaryNode ← placement.value "primary_node" ""
  refuse (executionNode ≠ "" && legacyPrimaryNode ≠ "" && executionNode ≠ legacyPrimaryNode)
    "placement.execution_node conflicts with legacy placement.primary_node"
  pure (if executionNode ≠ "" then some executionNode
    else if legacyPrimaryNode ≠ "" then some legacyPrimaryNode else none)

def isAbsolutePath (value : String) : Bool := value.toList.head? = some '/'

def isEnvLetter (c : Char) : Bool := ('A' ≤ c && c ≤ 'Z') || ('a' ≤ c && c ≤ 'z')

def isEnvDigit (c : Char) : Bool := '0' ≤ c && c ≤ '9'

def isValidEnvName (value : String) : Bool :=
  match value.toList with
  | [] => false
  | c::cs => (isEnvLetter c || c = '_') && (c::cs).all fun c => isEnvLetter c || isEnvDigit c || c = '_'

def validateShareMode (v : Json) : Checked Unit := do
  refuse (!v.isString) (fieldName ++ ".share_mode must be a string")
  let shareMode : String ← Codec.get v
  refuse (shareMode ≠ "exclusive" && shareMode ≠ "shared" && shareMode ≠ "best-effort")
    (fieldName ++ ".share_mode must be exclusive, shared, or best-effort")

def validateGpuFraction (v : Json) : Checked Unit := do
  refuse (!v.isNumber) (fieldName ++ ".gpu_fraction must be a number")
  let gpuFraction : ℚ ← Codec.get v
  refuse (gpuFraction ≤ 0 || gpuFraction > 1) (fieldName ++ ".gpu_fraction must be in (0, 1]")

def validateExclusiveFraction (v : Json) : Checked Unit := do
  let gpuFraction : ℚ ← Codec.get v
  refuse (|gpuFraction - 1| > 1/1000000000) (fieldName ++ ".gpu_fraction must be 1.0 when share_mode=exclusive")

def validateGpuResourceBlock (resources : Json) (fieldName : String) (allowEnabledFlags : Bool) :
    Checked Unit := do
  refuse (!resources.isObject) (fieldName ++ " must be an object")
  refuse (allowEnabledFlags && resources.wrongType "enabled" isBoolean)
    (fieldName ++ ".enabled must be a boolean")
  refuse (allowEnabledFlags && resources.wrongType "gpu_enabled" isBoolean)
    (fieldName ++ ".gpu_enabled must be a boolean")
  onSome (resources.get? "share_mode") (validateShareMode fieldName)
  onSome (resources.get? "gpu_fraction") (validateGpuFraction fieldName)
  let shareMode ← resources.value "share_mode" ""
  when (shareMode = "exclusive")
    (onSome (resources.get? "gpu_fraction") (validateExclusiveFraction fieldName))
  refuse ((resources.get? "memory_cap_mb").any fun v => v.badInteger (· ≤ 0))
    (fieldName ++ ".memory_cap_mb must be a positive integer")
  refuse ((resources.get? "priority").any fun v => v.badInteger (· < 0))
    (fieldName ++ ".priority must be a non-negative integer")
  refuse (resources.wrongType "preemptible" isBoolean) (fieldName ++ ".preemptible must be a boolean")

def isAbsolutePathItem (item : Json) : Bool := item.asString?.any isAbsolutePath

def validateLibrarySource (source : Json) : Checked Unit := do
  let sourceType ← source.value "type" ""
  refuse (sourceType ≠ "library") (fieldName ++ ".source.type must be library")
  let path ← source.value "path" ""
  refuse (!isAbsolutePath path) (fieldName ++ ".source.path must be an absolute path")
  refuse (source.wrongType "paths" isArray) (fieldName ++ ".source.paths must be an array")
  refuse (!(source.arrayAt "paths").all isAbsolutePathItem)
    (fieldName ++ ".source.paths items must be absolute paths")
  refuse (source.wrongType "node" isString) (fieldName ++ ".source.node must be a string")

def validateModelEnv (fieldName defaultEnv : String) (model : Json) : Checked Unit := do
  refuse (model.wrongType "env" isString) (fieldName ++ ".env must be a string")
  let envName ← model.value "env" defaultEnv
  refuse (envName ≠ "" && !isValidEnvName envName)
    (fieldName ++ ".env must be a valid environment variable name")
  refuse (model.wrongType "required" isBoolean) (fieldName ++ ".required must be a boolean")

def validateVoiceModel (fieldName defaultEnv : String) (model : Json) : Checked Unit := do
  refuse (!model.isObject) (fieldName ++ " must be an object")
  match model.object? "source" with
  | none => refuse true (fieldName ++ ".source must be an object")
  | some source =>
    validateLibrarySource fieldName source
    let mountPath ← model.value "mount_path" ""
    refuse (!isAbsolutePath mountPath) (fieldName ++ ".mount_path must be an absolute path")
    validateModelEnv fieldName defaultEnv model

def validateVoiceListenerModel : Json → Checked Unit :=
  validateVoiceModel "features.voice_listener.model" "WHISPER_MODEL_PATH"

def validateVoiceMakerModel : Json → Checked Unit :=
  validateVoiceModel "features.voice_maker.model" "OMNIVOICE_MODEL_PATH"

def validateStartBlock (service : Json) (serviceName : String) : Checked Unit :=
  onSome (service.get? "start") fun start => do
    refuse (!start.isObject) (serviceName ++ ".start must be an object")
    let startType ← start.value "type" ""
    when (startType = "script") do
      let scriptRef ← start.value "script_ref" ""
      refuse (scriptRef = "") (serviceName ++ ".start.script_ref is required")
    when (startType = "command") do
      let command ← start.value "command" ""
      refuse (command = "") (serviceName ++ ".start.command is required")

/-- The items of a list of distinct non-empty texts; `seen` holds those before. -/
def validateUniqueStrings (fieldName item : String) : List Json → List String → Checked (List String)
  | [], seen => pure seen
  | v::items, seen =>
    match v.asString? with
    | none => fail ("desired-state v2 " ++ fieldName ++ " " ++ item ++ " must be non-empty strings")
    | some s => do
      refuse (s = "") (fieldName ++ " " ++ item ++ " must be non-empty strings")
      refuse (s ∈ seen) (fieldName ++ " " ++ item ++ " must be unique")
      validateUniqueStrings fieldName item items (s::seen)

lemma validateUniqueStrings_eq_ok {fieldName item : String} {items : List Json} {r : List String} :
    validateUniqueStrings fieldName item items seen = .ok r ↔ ∃ xs : List String, items.map asString? = xs.map some ∧
      (∀ x ∈ xs, x ≠ "" ∧ x ∉ seen) ∧ xs.Nodup ∧ r = xs.reverse ++ seen := by
  induction items generalizing seen with
  | nil =>
    rw [validateUniqueStrings,pure_eq_ok]
    constructor
    · rintro rfl
      exact ⟨[],by simp⟩
    · rintro ⟨xs,hxs,-,-,rfl⟩
      rw [map_nil,eq_comm,map_eq_nil_iff] at hxs
      simp [hxs]
  | cons v items ih =>
    unfold validateUniqueStrings
    cases hv : v.asString? with
    | none =>
      simp only [fail_ne_ok,false_iff,not_exists]
      rintro xs ⟨hxs,-⟩
      cases xs <;> simp [hv] at hxs
    | some x =>
      simp only [bind_eq_ok,refuse_eq_ok,decide_eq_false_iff_not,ih]
      constructor
      · rintro ⟨-,hx,-,hseen,xs,hxs,hall,hnodup,rfl⟩
        refine ⟨x::xs,by simp [hv,hxs],?_,?_,by simp⟩
        · intro y hy
          rcases mem_cons.1 hy with rfl | hy
          · exact ⟨hx,hseen⟩
          · exact ⟨(hall y hy).1,fun h => (hall y hy).2 (by simp [h])⟩
        · exact nodup_cons.2 ⟨fun h => (hall x h).2 (by simp),hnodup⟩
      · rintro ⟨_ | ⟨y,xs⟩,hxs,hall,hnodup,rfl⟩
        · simp at hxs
        · rw [map_cons,map_cons,hv,List.cons.injEq,Option.some.injEq] at hxs
          obtain ⟨rfl,hxs⟩ := hxs
          have hx := hall x (by simp)
          refine ⟨(),hx.1,(),hx.2,xs,hxs,fun z hz => ?_,(nodup_cons.1 hnodup).2,by simp⟩
          have hz' := hall z (by simp [hz])
          refine ⟨hz'.1,?_⟩
          rw [mem_cons]
          rintro (rfl | h)
          · exact (nodup_cons.1 hnodup).1 hz
          · exact hz'.2 h

def validateTopLevel : Checked Unit := do
  throwIf (!doc.isObject) "desired-state v2 must be a JSON object"
  let version : Int32 ← doc.value "version" 0
  refuse (version ≠ 2) "requires version=2"
  let planeName ← doc.value "plane_name" ""
  refuse (planeName = "") "requires non-empty plane_name"
  refuse (doc.object? "runtime").isNone "requires runtime object"

def planeModeOf : Checked String := doc.value "plane_mode" "llm"

def validateModelSource (source : Json) (sourceType : String) : Checked Unit := do
  when (sourceType = "catalog" || sourceType = "huggingface" || sourceType = "library") do
    let ref ← source.value "ref" ""
    refuse (ref = "") "model.source.ref is required for catalog/huggingface/library models"
  when (sourceType = "url") do
    let url ← source.value "url" ""
    refuse (url = "" && (source.arrayAt "urls").isEmpty)
      "url model requires source.url or non-empty source.urls"
  when (sourceType = "local") do
    let path ← source.value "path" ""
    when (path = "") do
      let ref ← source.value "ref" ""
      refuse (ref = "") "local model requires source.path or source.ref"

def validateMaterialization (source : Json) (sourceType : String) (materialization : Json) :
    Checked Unit := do
  let mode ← materialization.value "mode" ""
  when (mode = "reference") do
    let localPath ← materialization.value "local_path" ""
    when (localPath = "") do
      let path ← source.value "path" ""
      refuse (path = "") "reference materialization requires local_path or source.path"
  when (mode = "prepare_on_worker") do
    refuse (sourceType ≠ "library" && sourceType ≠ "local")
      "prepare_on_worker requires library or local model source"
    let sourceNodeName ← materialization.value "source_node_name" ""
    refuse (sourceNodeName = "") "prepare_on_worker requires materialization.source_node_name"
    refuse (materialization.arrayAt "source_paths").isEmpty
      "prepare_on_worker requires non-empty materialization.source_paths"
  refuse (materialization.wrongType "writeback" isObject) "model.materialization.writeback must be an object"

def validateModelObject (model : Json) : Checked Unit := do
  refuse (!model.isObject) "model must be an object"
  match model.object? "source" with
  | none => refuse true "model requires source object"
  | some source =>
    let sourceType ← source.value "type" ""
    refuse (sourceType = "") "model.source requires type"
    validateModelSource source sourceType
    when (planeMode = "llm") do
      let servedModelName ← model.value "served_model_name" ""
      refuse (servedModelName = "") "LLM model requires served_model_name"
    onSome (model.object? "materialization") (validateMaterialization source sourceType)

def validateModel : Checked Unit := do
  let planeMode ← planeModeOf doc
  match doc.get? "model" with
  | none => refuse (planeMode = "llm") "requires model for plane_mode=llm"
  | some model => validateModelObject planeMode model

def validateContextPolicy : Checked Unit := do
  refuse (!policy.isObject) "knowledge.context_policy must be an object"
  refuse (policy.wrongType "include_graph" isBoolean) "knowledge.context_policy.include_graph must be a boolean"
  refuse ((policy.get? "max_graph_depth").any fun v => v.badInteger fun n => n < 0 || n > 2)
    "knowledge.context_policy.max_graph_depth must be 0..2"
  refuse ((policy.get? "token_budget").any fun v => v.badInteger (· ≤ 0))
    "knowledge.context_policy.token_budget must be positive"

def validateKnowledge (doc knowledge : Json) : Checked Unit := do
  refuse (!knowledge.isObject) "knowledge must be an object"
  refuse (knowledge.wrongType "enabled" isBoolean) "knowledge.enabled must be a boolean"
  refuse (knowledge.wrongType "service_id" isString) "knowledge.service_id must be a string"
  refuse (knowledge.wrongType "selection_mode" isString) "knowledge.selection_mode must be a string"
  let selectionMode ← knowledge.value "selection_mode" "latest"
  refuse (selectionMode ≠ "latest") "knowledge.selection_mode supports latest only"
  refuse (knowledge.wrongType "selected_knowledge_ids" isArray)
    "knowledge.selected_knowledge_ids must be an array"
  refuse (!(knowledge.arrayAt "selected_knowledge_ids").all isString)
    "knowledge.selected_knowledge_ids entries must be strings"
  onSome (knowledge.get? "context_policy") validateContextPolicy
  let enabled ← knowledge.value "enabled" false
  when enabled do
    let planeMode ← planeModeOf doc
    refuse (planeMode ≠ "llm") "knowledge requires plane_mode=llm"

def validateVoiceListener (voice : Json) : Checked Unit := do
  refuse (!voice.isObject) "features.voice_listener must be an object"
  refuse (voice.wrongType "enabled" isBoolean) "features.voice_listener.enabled must be a boolean"
  let enabled ← voice.value "enabled" false
  refuse (voice.wrongType "wake_phrase" isString) "features.voice_listener.wake_phrase must be a string"
  refuse (voice.wrongType "language" isString) "features.voice_listener.language must be a string"
  refuse (voice.wrongType "image" isString) "features.voice_listener.image must be a string"
  when enabled do
    refuse (planeMode ≠ "llm") "features.voice_listener requires plane_mode=llm"
    let wakePhrase ← voice.value "wake_phrase" "Hey Jex"
    refuse (wakePhrase = "") "features.voice_listener.wake_phrase must be non-empty"
    refuse (!voice.contains "model") "features.voice_listener requires model when enabled"
  onSome (voice.get? "model") validateVoiceListenerModel

def distributedBackendOf (runtime : Json) (engine : String) : Checked String :=
  runtime.value "distributed_backend" (if engine = "llama.cpp" then "llama_rpc" else "local")

def isStringOrNull (v : Json) : Bool := v.isString || v.isNull

def validateTurboquant (turboquant : Json) : Checked Unit := do
  refuse (!turboquant.isObject) "features.turboquant must be an object"
  let enabled ← turboquant.value "enabled" false
  refuse (turboquant.wrongType "cache_type_k" isStringOrNull) "features.turboquant.cache_type_k must be a string"
  refuse (turboquant.wrongType "cache_type_v" isStringOrNull) "features.turboquant.cache_type_v must be a string"
  when enabled do
    let runtime ← doc.member "runtime"
    let engine ← runtime.value "engine" ""
    let distributedBackend ← distributedBackendOf runtime engine
    refuse (planeMode ≠ "llm" || engine ≠ "llama.cpp" || distributedBackend ≠ "llama_rpc")
      ("features.turboquant requires plane_mode=llm with " ++
        "runtime.engine=llama.cpp and runtime.distributed_backend=llama_rpc")
    let cacheTypeK ← turboquant.value "cache_type_k" "turbo4"
    let cacheTypeV ← turboquant.value "cache_type_v" "turbo4"
    refuse (!isSupportedTurboQuantCacheType cacheTypeK)
      "features.turboquant.cache_type_k has unsupported value"
    refuse (!isSupportedTurboQuantCacheType cacheTypeV)
      "features.turboquant.cache_type_v has unsupported value"

def validateContextCompression (compression : Json) : Checked Unit := do
  refuse (!compression.isObject) "features.context_compression must be an object"
  let enabled ← compression.value "enabled" false
  refuse (compression.wrongType "mode" isStringOrNull) "features.context_compression.mode must be a string"
  refuse (compression.wrongType "target" isStringOrNull) "features.context_compression.target must be a string"
  refuse (compression.wrongType "memory_priority" isStringOrNull)
    "features.context_compression.memory_priority must be a string"
  refuse (enabled && planeMode ≠ "llm") "features.context_compression requires plane_mode=llm"
  let mode ← compression.value "mode" "auto"
  let target ← compression.value "target" "dialog_and_knowledge"
  let memoryPriority ← compression.value "memory_priority" "balanced"
  refuse (mode ≠ "auto") "features.context_compression.mode supports auto only"
  refuse (target ≠ "dialog_and_knowledge")
    "features.context_compression.target supports dialog_and_knowledge only"
  refuse (memoryPriority ≠ "balanced")
    "features.context_compression.memory_priority supports balanced only"

def validateSecuredConnection (secured : Json) : Checked Unit := do
  refuse (!secured.isObject) "features.secured_connection must be an object"
  refuse (secured.wrongType "enabled" isBoolean) "features.secured_connection.enabled must be a boolean"
  refuse (secured.wrongType "user_ids" isArray) "features.secured_connection.user_ids must be an array"
  let userIds ← validateUniqueStrings "features.secured_connection.user_ids" "entries"
    (secured.arrayAt "user_ids") []
  let enabled ← secured.value "enabled" false
  refuse (enabled && userIds.isEmpty)
    "features.secured_connection requires at least one user_id when enabled"

def validateVoiceMaker (voice : Json) : Checked Unit := do
  refuse (!voice.isObject) "features.voice_maker must be an object"
  refuse (voice.wrongType "enabled" isBoolean) "features.voice_maker.enabled must be a boolean"
  let enabled ← voice.value "enabled" false
  refuse (voice.wrongType "language" isString) "features.voice_maker.language must be a string"
  refuse (voice.wrongType "voice_mode" isString) "features.voice_maker.voice_mode must be a string"
  refuse (voice.wrongType "instruct" isString) "features.voice_maker.instruct must be a string"
  refuse (voice.wrongType "format" isString) "features.voice_maker.format must be a string"
  refuse (voice.wrongType "image" isString) "features.voice_maker.image must be a string"
  when enabled do
    refuse (planeMode ≠ "llm") "features.voice_maker requires plane_mode=llm"
    refuse (!voice.contains "model") "features.voice_maker requires model when enabled"
  onSome (voice.get? "model") validateVoiceMakerModel

def validateFeatureBlocks (doc features : Json) : Checked Unit := do
  refuse (!features.isObject) "features must be an object"
  let planeMode ← planeModeOf doc
  onSome (features.get? "voice_listener") (validateVoiceListener planeMode)
  onSome (features.get? "turboquant") (validateTurboquant doc planeMode)
  onSome (features.get? "context_compression") (validateContextCompression planeMode)
  onSome (features.get? "secured_connection") validateSecuredConnection
  onSome (features.get? "voice_maker") (validateVoiceMaker planeMode)

def validateFeatures : Checked Unit := do
  onSome (doc.get? "knowledge") (validateKnowledge doc)
  onSome (doc.get? "features") (validateFeatureBlocks doc)

def validateRuntime : Checked Unit := do
  let runtime ← doc.member "runtime"
  let planeMode ← planeModeOf doc
  let engine ← runtime.value "engine" ""
  refuse (engine = "") "runtime requires engine"
  refuse ((runtime.get? "workers").all fun v => v.badInteger (· ≤ 0))
    "runtime.workers must be a positive integer"
  let dataParallelMode ← runtime.value "data_parallel_mode" "off"
  let distributedBackend ← distributedBackendOf runtime engine
  refuse (planeMode = "llm" && engine ≠ "llama.cpp") "llm planes require runtime.engine=llama.cpp"
  refuse (planeMode = "llm" && distributedBackend ≠ "llama_rpc")
    "llm planes require runtime.distributed_backend=llama_rpc"
  refuse (dataParallelMode ≠ "off")
    ("no longer supports data_parallel_mode; use infer.replicas with " ++
      "llama.cpp runtime.distributed_backend=llama_rpc")
  -- the two later checks of `runtime.workers` and of this field repeat the ones above
  refuse (runtime.contains "data_parallel_lb_mode")
    ("no longer supports data_parallel_lb_mode; use infer.replicas with " ++
      "llama.cpp runtime.distributed_backend=llama_rpc")

def hasText (j : Json) (key : String) : Bool := (j.string? key).any (· ≠ "")

def validateAppHost (appHost : Json) : Checked Unit := do
  refuse (!appHost.isObject) "placement.app_host must be an object"
  let address ← appHost.value "address" ""
  refuse (address = "") "placement.app_host.address must be a non-empty string"
  let hasSshKey := hasText appHost "ssh_key_path"
  let hasUsername := hasText appHost "username"
  let hasPassword := hasText appHost "password"
  refuse (!hasSshKey && !(hasUsername || hasPassword))
    "placement.app_host requires ssh_key_path or username/password"
  refuse (hasSshKey && (hasUsername || hasPassword))
    "placement.app_host cannot mix ssh_key_path with username/password"
  refuse ((hasUsername || hasPassword) && !(hasUsername && hasPassword))
    "placement.app_host username/password must be provided together"

def validatePlacement : Checked Unit :=
  onSome (doc.get? "placement") fun placement => do
    refuse (!placement.isObject) "placement must be an object"
    refuse (placement.wrongType "execution_node" isString) "placement.execution_node must be a string"
    refuse (placement.wrongType "primary_node" isString) "placement.primary_node legacy alias must be a string"
    let node ← placementExecutionNodeName placement
    refuse node.isNone "placement.execution_node must be a non-empty string"
    onSome (placement.get? "app_host") validateAppHost

def validateTopologyNodes : List Json → List String → Checked Unit
  | [], _ => pure ()
  | node::nodes, seen => do
    refuse (!node.isObject) "topology.nodes items must be objects"
    let name ← node.value "name" ""
    refuse (name = "") "topology node requires name"
    refuse (name ∈ seen) "topology node names must be unique"
    validateTopologyNodes nodes (name::seen)

lemma validateTopologyNodes_eq_ok :
    validateTopologyNodes nodes seen = .ok () ↔ ∃ names : List String,
      Forall₂ (fun node name => node.isObject = true ∧ node.value "name" "" = .ok name) nodes names ∧
      (∀ name ∈ names, name ≠ "" ∧ name ∉ seen) ∧ names.Nodup := by
  induction nodes generalizing seen with
  | nil => simp [validateTopologyNodes]
  | cons node nodes ih =>
    simp only [validateTopologyNodes,bind_eq_ok,refuse_eq_ok,decide_eq_false_iff_not,ih,Bool.not_eq_false']
    constructor
    · rintro ⟨-,hobj,name,hname,-,hne,-,hseen,names,hnames,hall,hnodup⟩
      refine ⟨name::names,.cons ⟨hobj,hname⟩ hnames,?_,?_⟩
      · intro y hy
        rcases mem_cons.1 hy with rfl | hy
        · exact ⟨hne,hseen⟩
        · exact ⟨(hall y hy).1,fun h => (hall y hy).2 (by simp [h])⟩
      · exact nodup_cons.2 ⟨fun h => (hall name h).2 (by simp),hnodup⟩
    · rintro ⟨names,hnames,hall,hnodup⟩
      obtain ⟨name,names,⟨hobj,hname⟩,hrest,rfl⟩ := forall₂_cons_left_iff.1 hnames
      have hn := hall name (by simp)
      refine ⟨(),hobj,name,hname,(),hn.1,(),hn.2,names,hrest,fun z hz => ?_,(nodup_cons.1 hnodup).2⟩
      have hz' := hall z (by simp [hz])
      refine ⟨hz'.1,?_⟩
      rw [mem_cons]
      rintro (rfl | h)
      · exact (nodup_cons.1 hnodup).1 hz
      · exact hz'.2 h

def validateTopology : Checked Unit :=
  onSome (doc.get? "topology") fun topology => do
    refuse (!topology.isObject) "topology must be an object"
    refuse (!topology.contains "nodes") "topology requires nodes array"
    refuse (topology.arrayAt "nodes").isEmpty "topology.nodes must be a non-empty array"
    validateTopologyNodes (topology.arrayAt "nodes") []

def legacyTopologyPlacementEnabled : Bool := (doc.object? "topology").isSome

def rejectLegacyServiceNode (serviceName : String) (service : Option Json) : Checked Unit :=
  refuse (service.any (·.contains "node")) (serviceName ++ ".node requires topology.nodes compatibility mode")

def validateLegacyPlacementCompatibility : Checked Unit :=
  when (!legacyTopologyPlacementEnabled doc) do
    rejectLegacyServiceNode "infer" (doc.get? "infer")
    rejectLegacyServiceNode "worker" (doc.get? "worker")
    rejectLegacyServiceNode "app" (doc.get? "app")
    rejectLegacyServiceNode "skills" (doc.get? "skills")
    rejectLegacyServiceNode "webgateway" ((doc.get? "webgateway").or (doc.get? "browsing"))
    refuse ((doc.get? "worker").any (·.contains "assignments"))
      "worker.assignments requires topology.nodes compatibility mode"

def placementMode (nodeName : String) : Checked (Option String) :=
  match doc.object? "placement" with
  | none => pure none
  | some placement => do
    let node ← placementExecutionNodeName placement
    pure (if node.getD "" = nodeName then some "mixed" else none)

def listedMode (nodeName : String) : List Json → Checked (Option String)
  | [] => pure none
  | node::nodes => do
    let name ← node.value "name" ""
    if name = nodeName then some <$> node.value "execution_mode" "mixed" else listedMode nodeName nodes

def knownNodeExecutionMode (nodeName : String) : Checked (Option String) :=
  match doc.object? "topology" with
  | none => placementMode doc nodeName
  | some topology => do
    let listed ← listedMode nodeName (topology.arrayAt "nodes")
    if listed.isSome then pure listed else placementMode doc nodeName

/-- Workers avoid the nodes for inference, all other services those for workers. -/
def validateNodeRoleCompatibility (nodeName serviceName requiredRole : String) : Checked Unit := do
  let mode ← knownNodeExecutionMode doc nodeName
  refuse mode.isNone (serviceName ++ " references unknown node '" ++ nodeName ++ "'")
  refuse (requiredRole ≠ "worker" && mode = some "worker-only")
    (serviceName ++ " cannot target worker-only node '" ++ nodeName ++ "'")
  refuse (requiredRole = "worker" && mode = some "infer-only")
    (serviceName ++ " cannot target infer-only node '" ++ nodeName ++ "'")

def validateServiceNode (doc service : Json) (fieldName serviceName requiredRole : String) : Checked Unit := do
  refuse (service.wrongType "node" isString) (fieldName ++ ".node must be a string")
  onSome (service.string? "node") fun node =>
    validateNodeRoleCompatibility doc node serviceName requiredRole

def validateReplicas (runtime : Json) (engine distributedBackend : String) (v : Json) : Checked Unit := do
  refuse (v.badInteger (· ≤ 0)) "infer.replicas must be a positive integer"
  refuse (!(engine = "llama.cpp" && distributedBackend = "llama_rpc"))
    ("infer.replicas is currently supported only for llama.cpp " ++
      "runtime.distributed_backend=llama_rpc")
  let workers : Int32 ← runtime.atAs "workers"
  let replicas : Int32 ← Codec.get v
  refuse (workers % replicas ≠ 0) "infer.replicas requires runtime.workers to be divisible by replicas"

def validateInferBlock (doc runtime : Json) (engine distributedBackend : String) (infer : Json) :
    Checked Unit := do
  refuse (!infer.isObject) "infer must be an object"
  validateServiceNode doc infer "infer" "infer" "infer"
  onSome (infer.get? "replicas") (validateReplicas runtime engine distributedBackend)
  validateStartBlock infer "infer"

def validateInfer : Checked Unit := do
  let planeMode ← planeModeOf doc
  let runtime ← doc.member "runtime"
  let engine ← runtime.value "engine" ""
  let distributedBackend ← distributedBackendOf runtime engine
  refuse (planeMode = "llm" && (doc.object? "infer").isNone) "llm planes require infer object with replicas"
  refuse (planeMode = "llm" && !(doc.objectAt "infer").contains "replicas")
    "llm planes require infer.replicas for llama replica-parallel layout"
  onSome (doc.get? "infer") (validateInferBlock doc runtime engine distributedBackend)

def validateWorkerResources : Checked Unit :=
  onSome (doc.get? "resources") fun resources => do
    refuse (!resources.isObject) "resources must be an object"
    onSome (resources.get? "worker") fun worker =>
      validateGpuResourceBlock worker "resources.worker" false

def validateAssignment (doc assignment : Json) : Checked Unit := do
  refuse (!assignment.isObject) "worker.assignments items must be objects"
  match assignment.string? "node" with
  | none => refuse true "worker.assignments items require string node"
  | some node =>
    validateNodeRoleCompatibility doc node "worker assignment" "worker"
    refuse (assignment.wrongType "gpu_device" isString) "worker.assignments gpu_device must be a string"

def validateAssignments (doc assignments : Json) : Checked Unit := do
  refuse (!assignments.isArray) "worker.assignments must be an array"
  let runtime ← doc.member "runtime"
  let expectedWorkers : Int32 ← runtime.atAs "workers"
  refuse (Int32.ofNat assignments.items.length ≠ expectedWorkers)
    "worker.assignments size must match runtime.workers"
  each assignments.items (validateAssignment doc)

def validateWorkerBlock (doc worker : Json) : Checked Unit := do
  refuse (!worker.isObject) "worker must be an object"
  refuse (worker.wrongType "node" isString) "worker.node must be a string"
  refuse (worker.wrongType "gpu_device" isString) "worker.gpu_device must be a string"
  onSome (worker.get? "assignments") (validateAssignments doc)
  onSome (worker.string? "node") fun node => validateNodeRoleCompatibility doc node "worker" "worker"
  validateStartBlock worker "worker"

def validateWorker : Checked Unit := do
  onSome (doc.get? "worker") (validateWorkerBlock doc)
  validateWorkerResources doc

def validateVoiceModuleResources : Checked Unit :=
  onSome (doc.get? "resources") fun resources => do
    refuse (!resources.isObject) "resources must be an object"
    onSome (resources.get? "voice_module") fun block =>
      validateGpuResourceBlock block "resources.voice_module" true
    onSome (resources.get? "voice_listener") fun block =>
      validateGpuResourceBlock block "resources.voice_listener" true
    onSome (resources.get? "voice_maker") fun block =>
      validateGpuResourceBlock block "resources.voice_maker" true

def validateAppModels (fieldName : String) : List Json → List String → List String → Checked Unit
  | [], _, _ => pure ()
  | model::models, seenNames, seenMountPaths => do
    refuse (!model.isObject) (fieldName ++ ".models items must be objects")
    let name ← model.value "name" ""
    refuse (name = "") (fieldName ++ ".models[] requires name")
    refuse (name ∈ seenNames) (fieldName ++ ".models[] names must be unique")
    match model.object? "source" with
    | none => refuse true (fieldName ++ ".models[].source must be an object")
    | some source =>
      validateLibrarySource (fieldName ++ ".models[]") source
      let mountPath ← model.value "mount_path" ""
      refuse (!isAbsolutePath mountPath) (fieldName ++ ".models[].mount_path must be an absolute path")
      refuse (mountPath ∈ seenMountPaths) (fieldName ++ ".models[].mount_path values must be unique")
      validateModelEnv (fieldName ++ ".models[]") "" model
      validateAppModels fieldName models (name::seenNames) (mountPath::seenMountPaths)

structure AppModelOk (fieldName : String) (model : Json) (e : String × String) : Prop where
  object : model.isObject = true
  name : model.value "name" "" = .ok e.1
  named : e.1 ≠ ""
  source : ∃ source, model.object? "source" = some source ∧
    validateLibrarySource (fieldName ++ ".models[]") source = .ok ()
  mountPath : model.value "mount_path" "" = .ok e.2
  absolute : isAbsolutePath e.2 = true
  env : validateModelEnv (fieldName ++ ".models[]") "" model = .ok ()

lemma validateAppModels_eq_ok {fieldName : String} :
    validateAppModels fieldName models names paths = .ok () ↔ ∃ entries : List (String × String),
      Forall₂ (AppModelOk fieldName) models entries ∧ (∀ e ∈ entries, e.1 ∉ names ∧ e.2 ∉ paths) ∧
      (entries.map Prod.fst).Nodup ∧ (entries.map Prod.snd).Nodup := by
  induction models generalizing names paths with
  | nil => simp [validateAppModels]
  | cons model models ih =>
    unfold validateAppModels
    simp only [bind_eq_ok,refuse_eq_ok,decide_eq_false_iff_not,Bool.not_eq_false']
    constructor
    · rintro ⟨-,hobj,name,hname,-,hne,-,hfresh,h⟩
      cases hsource : model.object? "source" with
      | none => simp [hsource] at h
      | some source =>
        simp only [hsource,bind_eq_ok,refuse_eq_ok,decide_eq_false_iff_not,Bool.not_eq_false',ih] at h
        obtain ⟨_,hlib,path,hpath,-,habs,-,hpfresh,_,henv,entries,hall,hseen,hn,hp⟩ := h
        refine ⟨(name,path)::entries,.cons ⟨hobj,hname,hne,⟨source,hsource,hlib⟩,hpath,habs,henv⟩ hall,?_,?_,?_⟩
        · intro e he
          rcases mem_cons.1 he with rfl | he
          · exact ⟨hfresh,hpfresh⟩
          · exact ⟨fun h => (hseen e he).1 (by simp [h]),fun h => (hseen e he).2 (by simp [h])⟩
        · refine nodup_cons.2 ⟨fun h => ?_,hn⟩
          obtain ⟨e,he,heq⟩ := mem_map.1 h
          exact (hseen e he).1 (by simp [heq])
        · refine nodup_cons.2 ⟨fun h => ?_,hp⟩
          obtain ⟨e,he,heq⟩ := mem_map.1 h
          exact (hseen e he).2 (by simp [heq])
    · rintro ⟨entries,hall,hseen,hn,hp⟩
      obtain ⟨e,rest,hok,hrest,rfl⟩ := forall₂_cons_left_iff.1 hall
      obtain ⟨source,hsource,hlib⟩ := hok.source
      have he := hseen e (by simp)
      refine ⟨(),hok.object,e.1,hok.name,(),hok.named,(),he.1,?_⟩
      simp only [hsource,bind_eq_ok,refuse_eq_ok,decide_eq_false_iff_not,Bool.not_eq_false',ih]
      rw [map_cons,nodup_cons] at hn hp
      refine ⟨(),hlib,e.2,hok.mountPath,(),hok.absolute,(),he.2,(),hok.env,rest,hrest,fun f hf => ?_,hn.2,hp.2⟩
      have hf' := hseen f (by simp [hf])
      simp only [mem_cons,not_or]
      exact ⟨⟨fun h => hn.1 (h ▸ mem_map_of_mem hf),hf'.1⟩,fun h => hp.1 (h ▸ mem_map_of_mem hf),hf'.2⟩

def validateEnabledApp (doc app : Json) (fieldName : String) (requireName : Bool) : Checked Unit := do
  when requireName do
    let name ← app.value "name" ""
    refuse (name = "") (fieldName ++ " requires name")
  validateServiceNode doc app fieldName "app" "app"
  let image ← app.value "image" ""
  refuse (image = "") ("enabled " ++ fieldName ++ " requires image")
  validateStartBlock app "app"
  refuse (app.wrongType "volumes" isArray) (fieldName ++ ".volumes must be an array")
  refuse ((app.arrayAt "volumes").length > 1) "currently supports at most one app volume"
  refuse (app.wrongType "models" isArray) (fieldName ++ ".models must be an array")
  validateAppModels fieldName (app.arrayAt "models") [] []

def validateSingleAppSpec (doc app : Json) (fieldName : String) (requireName : Bool) : Checked Unit := do
  let enabled ← fieldEnabledByDefault app true
  when enabled (validateEnabledApp doc app fieldName requireName)

/-- The entries of `apps`; counts the primary ones and collects the names. -/
def validateAppEntries (doc : Json) : List Json → ℕ → List String → Checked ℕ
  | [], primaryCount, _ => pure primaryCount
  | app::apps, primaryCount, names => do
    refuse (!app.isObject) "apps entries must be objects"
    validateSingleAppSpec doc app "apps[]" true
    let primary ← app.value "primary" false
    let name ← app.value "name" ""
    refuse (name ≠ "" && name ∈ names) "apps names must be unique"
    validateAppEntries doc apps (if primary then primaryCount + 1 else primaryCount)
      (if name ≠ "" then name::names else names)

structure AppEntryOk (doc app : Json) (e : Bool × String) : Prop where
  object : app.isObject = true
  spec : validateSingleAppSpec doc app "apps[]" true = .ok ()
  primary : app.value "primary" false = .ok e.1
  name : app.value "name" "" = .ok e.2

lemma validateAppEntries_eq_ok {doc : Json} {count n : ℕ} :
    validateAppEntries doc apps count names = .ok n ↔ ∃ entries : List (Bool × String),
      Forall₂ (AppEntryOk doc) apps entries ∧ (∀ e ∈ entries, e.2 ≠ "" → e.2 ∉ names) ∧
      ((entries.map Prod.snd).filter (· ≠ "")).Nodup ∧ n = count + (entries.filter Prod.fst).length := by
  induction apps generalizing count names with
  | nil =>
    rw [validateAppEntries,pure_eq_ok]
    constructor
    · rintro rfl
      exact ⟨[],by simp⟩
    · rintro ⟨entries,hall,-,-,rfl⟩
      simp [forall₂_nil_left_iff.1 hall]
  | cons app apps ih =>
    simp only [validateAppEntries,bind_eq_ok,refuse_eq_ok,Bool.not_eq_false',ih]
    constructor
    · rintro ⟨-,hobj,_,hspec,primary,hprimary,name,hname,-,hfresh,entries,hall,hseen,hnodup,rfl⟩
      simp only [Bool.and_eq_false_iff,decide_eq_false_iff_not,not_not] at hfresh
      refine ⟨(primary,name)::entries,.cons ⟨hobj,hspec,hprimary,hname⟩ hall,?_,?_,?_⟩
      · intro e he hne
        rcases mem_cons.1 he with rfl | he
        · exact hfresh.resolve_left hne
        · intro h
          refine hseen e he hne ?_
          split <;> simp [h]
      · by_cases hne : name = ""
        · simpa [hne] using hnodup
        · simp only [map_cons,filter_cons,hne,ne_eq,not_false_eq_true,decide_true,if_true]
          refine nodup_cons.2 ⟨fun h => ?_,hnodup⟩
          obtain ⟨e,he,heq⟩ := mem_map.1 (mem_filter.1 h).1
          exact hseen e he (heq ▸ hne) (by simp [hne,heq])
      · cases primary
        · simp
        · simp
          omega
    · rintro ⟨entries,hall,hseen,hnodup,rfl⟩
      obtain ⟨e,rest,hok,hrest,rfl⟩ := forall₂_cons_left_iff.1 hall
      refine ⟨(),hok.object,(),hok.spec,e.1,hok.primary,e.2,hok.name,(),?_,rest,hrest,?_,?_,?_⟩
      · by_cases hne : e.2 = "" <;> simp_all
      · intro f hf hne
        by_cases hempty : e.2 = ""
        · simpa [hempty] using hseen f (by simp [hf]) hne
        · simp only [hempty,ne_eq,not_false_eq_true,if_true,mem_cons,not_or]
          refine ⟨fun h => ?_,hseen f (by simp [hf]) hne⟩
          simp only [map_cons,filter_cons,hempty,ne_eq,not_false_eq_true,decide_true,if_true] at hnodup
          refine (nodup_cons.1 hnodup).1 (mem_filter.2 ⟨?_,by simp [hempty]⟩)
          exact h ▸ mem_map_of_mem hf
      · rw [map_cons,filter_cons] at hnodup
        split at hnodup
        · exact (nodup_cons.1 hnodup).2
        · exact hnodup
      · cases hp : e.1
        · simp [hp]
        · simp [hp]
          omega

def validateApps (doc apps : Json) : Checked Unit := do
  refuse apps.items.isEmpty "apps must be a non-empty array"
  let primaryCount ← validateAppEntries doc apps.items 0 []
  refuse (primaryCount > 1) "apps supports at most one primary app"

lemma validateApps_eq_ok {doc apps : Json} :
    validateApps doc apps = .ok () ↔ apps.items ≠ [] ∧ ∃ entries : List (Bool × String),
      Forall₂ (AppEntryOk doc) apps.items entries ∧ ((entries.map Prod.snd).filter (· ≠ "")).Nodup ∧
      (entries.filter Prod.fst).length ≤ 1 := by
  simp only [validateApps,bind_eq_ok,refuse_eq_ok,isEmpty_eq_false_iff,validateAppEntries_eq_ok,
    decide_eq_false_iff_not,exists_const]
  constructor
  · rintro ⟨hne,n,⟨entries,hall,-,hnodup,rfl⟩,hle⟩
    exact ⟨hne,entries,hall,hnodup,by omega⟩
  · rintro ⟨hne,entries,hall,hnodup,hle⟩
    exact ⟨hne,_,⟨entries,hall,by simp,hnodup,rfl⟩,by omega⟩

def validateLegacyApp (doc app : Json) : Checked Unit := do
  refuse (!app.isObject) "app must be an object"
  validateSingleAppSpec doc app "app" false

def validateApp : Checked Unit := do
  refuse (doc.contains "app" && doc.contains "apps") "cannot mix app and apps"
  onSome (doc.get? "app") (validateLegacyApp doc)
  onSome (doc.get? "apps") (validateApps doc)

def validateEnabledSkills (doc skills : Json) : Checked Unit := do
  refuse (skills.wrongType "factory_skill_ids" isArray) "skills.factory_skill_ids must be an array"
  let _ ← validateUniqueStrings "skills.factory_skill_ids" "items" (skills.arrayAt "factory_skill_ids") []
  validateServiceNode doc skills "skills" "skills" "skills"
  validateStartBlock skills "skills"

def validateSkills : Checked Unit :=
  onSome (doc.get? "skills") fun skills => do
    refuse (!skills.isObject) "skills must be an object"
    let planeMode ← planeModeOf doc
    refuse (planeMode ≠ "llm") "skills are supported only for plane_mode=llm"
    let enabled ← fieldEnabledByDefault skills false
    refuse (!enabled && skills.contains "factory_skill_ids")
      "skills.factory_skill_ids require skills.enabled=true"
    when enabled (validateEnabledSkills doc skills)

def validatePublishEntry (entry : Json) : Checked Unit := do
  refuse (!entry.isObject) "webgateway.publish entries must be objects"
  refuse (entry.wrongType "host_ip" isString) "webgateway.publish.host_ip must be a string"
  refuse ((entry.string? "host_ip").any fun ip => ip ≠ "" && ip ≠ "127.0.0.1" && ip ≠ "::1")
    "webgateway.publish.host_ip must stay on loopback"

def validateDomainList : Checked Unit := do
  refuse (policy.wrongType fieldName isArray) ("webgateway.policy." ++ fieldName ++ " must be an array")
  let _ ← validateUniqueStrings ("webgateway.policy." ++ fieldName) "items" (policy.arrayAt fieldName) []

def validatePolicyFlag : Checked Unit :=
  refuse (policy.wrongType fieldName isBoolean) ("webgateway.policy." ++ fieldName ++ " must be a boolean")

def validatePolicyLimit : Checked Unit :=
  refuse ((policy.get? fieldName).any fun v => v.badInteger (· ≤ 0))
    ("webgateway.policy." ++ fieldName ++ " must be a positive integer")

def validateBrowsingPolicy : Checked Unit := do
  refuse (!policy.isObject) "webgateway.policy must be an object"
  validatePolicyFlag policy "cef_enabled"
  validatePolicyFlag policy "browser_session_enabled"
  validatePolicyFlag policy "rendered_browser_enabled"
  validatePolicyFlag policy "login_enabled"
  validatePolicyFlag policy "response_review_enabled"
  refuse (policy.wrongType "policy_version" isString) "webgateway.policy.policy_version must be a string"
  validateDomainList policy "allowed_domains"
  validateDomainList policy "blocked_domains"
  validateDomainList policy "blocked_targets"
  validatePolicyLimit policy "max_search_results"
  validatePolicyLimit policy "max_fetch_bytes"

def validateEnabledBrowsing (doc browsing : Json) : Checked Unit := do
  validateServiceNode doc browsing "webgateway" "webgateway" "webgateway"
  refuse (browsing.wrongType "publish" isArray) "webgateway.publish must be an array"
  each (browsing.arrayAt "publish") validatePublishEntry
  onSome (browsing.get? "policy") validateBrowsingPolicy
  validateStartBlock browsing "webgateway"

def validateBrowsing : Checked Unit :=
  onSome ((doc.object? "webgateway").or (doc.object? "browsing")) fun browsing => do
    let planeMode ← planeModeOf doc
    refuse (planeMode ≠ "llm") "webgateway is supported only for plane_mode=llm"
    let enabled ← fieldEnabledByDefault browsing false
    when enabled (validateEnabledBrowsing doc browsing)

def validateHooks : Checked Unit := refuse (doc.wrongType "hooks" isObject) "hooks must be an object"

def validateOrThrow : Checked Unit := do
  validateTopLevel doc
  validateModel doc
  validateFeatures doc
  validateRuntime doc
  validatePlacement doc
  validateTopology doc
  validateLegacyPlacementCompatibility doc
  validateInfer doc
  validateWorker doc
  validateVoiceModuleResources doc
  validateApp doc
  validateSkills doc
  validateBrowsing doc
  validateHooks doc

lemma validateOrThrow_eq_ok {doc : Json} : validateOrThrow doc = .ok () ↔
    validateTopLevel doc = .ok () ∧ validateModel doc = .ok () ∧ validateFeatures doc = .ok () ∧
    validateRuntime doc = .ok () ∧ validatePlacement doc = .ok () ∧ validateTopology doc = .ok () ∧
    validateLegacyPlacementCompatibility doc = .ok () ∧ validateInfer doc = .ok () ∧ validateWorker doc = .ok () ∧
    validateVoiceModuleResources doc = .ok () ∧ validateApp doc = .ok () ∧ validateSkills doc = .ok () ∧
    validateBrowsing doc = .ok () ∧ validateHooks doc = .ok () := by simp [validateOrThrow]

end Naim.Validator
