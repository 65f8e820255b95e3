import Naim.Assoc
import Naim.Checked
import Mathlib.Data.Rat.Defs
import Mathlib.Data.List.Sort
import Mathlib.Data.String.Basic

/-!
# The desired state of a plane

The records of `naim/state/models.h`. An `int` is an `Int32`, a `double` an
exact rational, a `std::map` an ordered association list.
-/

namespace Naim

inductive InstanceRole
  | infer | worker | app | skills | browsing | interaction | voiceModule | voiceMaker
  deriving DecidableEq

inductive DiskKind
  | planeShared | inferPrivate | workerPrivate | appPrivate | skillsPrivate | browsingPrivate
  | interactionPrivate | voiceModulePrivate | voiceMakerPrivate
  deriving DecidableEq

inductive GpuShareMode
  | exclusive | shared | bestEffort
  deriving DecidableEq

inductive PlacementMode
  | manual | auto | movable
  deriving DecidableEq

inductive PlaneMode
  | compute | llm
  deriving DecidableEq

inductive HostExecutionMode
  | inferOnly | workerOnly | mixed
  deriving DecidableEq

abbrev StringMap := List (String × String)

def GpuShareMode.text : GpuShareMode → String
  | .exclusive => "exclusive"
  | .shared => "shared"
  | .bestEffort => "best-effort"

def parseGpuShareMode (value : String) : Checked GpuShareMode :=
  if value = "exclusive" then .ok .exclusive
  else if value = "shared" then .ok .shared
  else if value = "best-effort" then .ok .bestEffort
  else Checked.fail ("unknown gpu share mode '" ++ value ++ "'")

def PlacementMode.text : PlacementMode → String
  | .manual => "manual"
  | .auto => "auto"
  | .movable => "movable"

def parsePlacementMode (value : String) : Checked PlacementMode :=
  if value = "manual" then .ok .manual
  else if value = "auto" then .ok .auto
  else if value = "movable" then .ok .movable
  else Checked.fail ("unknown placement mode '" ++ value ++ "'")

def PlaneMode.text : PlaneMode → String
  | .compute => "compute"
  | .llm => "llm"

def parsePlaneMode (value : String) : Checked PlaneMode :=
  if value = "compute" ∨ value = "" then .ok .compute
  else if value = "llm" then .ok .llm
  else Checked.fail ("unknown plane mode '" ++ value ++ "'")

def HostExecutionMode.text : HostExecutionMode → String
  | .inferOnly => "infer-only"
  | .workerOnly => "worker-only"
  | .mixed => "mixed"

def parseHostExecutionMode (value : String) : Checked HostExecutionMode :=
  if value = "infer-only" then .ok .inferOnly
  else if value = "worker-only" then .ok .workerOnly
  else if value = "mixed" ∨ value = "" then .ok .mixed
  else Checked.fail ("unknown host execution mode '" ++ value ++ "'")

@[simp] lemma parseGpuShareMode_text (m : GpuShareMode) : parseGpuShareMode m.text = .ok m := by cases m <;> rfl

@[simp] lemma parsePlacementMode_text (m : PlacementMode) : parsePlacementMode m.text = .ok m := by
  cases m <;> rfl

@[simp] lemma parsePlaneMode_text (m : PlaneMode) : parsePlaneMode m.text = .ok m := by cases m <;> rfl

@[simp] lemma parseHostExecutionMode_text (m : HostExecutionMode) : parseHostExecutionMode m.text = .ok m := by
  cases m <;> rfl

def instanceNeedsPrivateDisk : InstanceRole → Bool
  | .infer => false
  | _ => true

def instanceNeedsSharedDiskMount : InstanceRole → Bool
  | .infer | .worker | .app | .skills | .browsing | .interaction | .voiceModule | .voiceMaker => true

structure PublishedPort where
  hostIp : String := "127.0.0.1"
  (hostPort containerPort : Int32 := 0)
  deriving DecidableEq

structure DiskSpec where
  name : String
  kind : DiskKind
  (planeName ownerName nodeName hostPath containerPath : String)
  sizeGb : Int32 := 0
  deriving DecidableEq

structure AppModelMountSpec where
  (name sourcePath sourceNodeName : String := "")
  sourcePaths : List String := []
  (hostPath mountPath envVar : String := "")
  required : Bool := true
  deriving DecidableEq

structure InstanceSpec where
  name : String := ""
  role : InstanceRole
  (planeName nodeName image command privateDiskName sharedDiskName : String := "")
  dependsOn : List String := []
  (environment labels : StringMap := [])
  publishedPorts : List PublishedPort := []
  gpuDevice : Option String := none
  placementMode : PlacementMode := .manual
  shareMode : GpuShareMode := .exclusive
  gpuFraction : ℚ := 0
  priority : Int32 := 100
  preemptible : Bool := false
  memoryCapMb : Option Int32 := none
  privateDiskSizeGb : Int32 := 0
  appModelMounts : List AppModelMountSpec := []
  deriving DecidableEq

structure NodeInventory where
  (name platform : String := "")
  executionMode : HostExecutionMode := .mixed
  gpuDevices : List String := []
  gpuMemoryMb : List (String × Int32) := []
  deriving DecidableEq

def effectiveNodeGpuDevices (node : NodeInventory) : List String :=
  (node.gpuDevices.foldl (fun devices device => if device ∈ devices then devices else devices ++ [device])
    (node.gpuMemoryMb.map Prod.fst)).insertionSort (· ≤ ·)

structure RuntimeGpuNode where
  (name nodeName gpuDevice : String := "")
  placementMode : PlacementMode := .manual
  shareMode : GpuShareMode := .exclusive
  gpuFraction : ℚ := 0
  priority : Int32 := 100
  preemptible : Bool := false
  memoryCapMb : Option Int32 := none
  enabled : Bool := true
  deriving DecidableEq

structure InferenceRuntimeSettings where
  primaryInferNode : String := ""
  runtimeEngine : String := "llama.cpp"
  dataParallelMode : String := "off"
  dataParallelLbMode : String := "external"
  apiServerCount : Int32 := 0
  workerGroupId : String := ""
  distributedBackend : String := "llama_rpc"
  workerSelectionPolicy : String := "prefer-free-then-share"
  netIf : String := "eth0"
  modelsRoot : String := "/naim/shared/models"
  modelCacheDir : String := "/naim/shared/models/cache"
  runtimeLogDir : String := "/naim/shared/logs/infer"
  apiPort : Int32 := 8000
  maxModelLen : Int32 := 8192
  (tensorParallelSize pipelineParallelSize : Int32 := 1)
  maxNumSeqs : Int32 := 16
  gpuMemoryUtilization : ℚ := 9/10
  enforceEager : Bool := false
  ggufCacheDir : String := "/naim/shared/models/gguf"
  inferLogDir : String := "/naim/shared/logs/infer"
  llamaPort : Int32 := 8000
  llamaCtxSize : Int32 := 8192
  llamaThreads : Int32 := 8
  llamaGpuLayers : Int32 := 99
  inferenceHealthcheckRetries : Int32 := 300
  inferenceHealthcheckIntervalSec : Int32 := 5
  rendezvousPort : Int32 := 29500
  deriving DecidableEq

structure WorkerGroupMemberSpec where
  (name inferInstanceName nodeName gpuDevice : String := "")
  (rpcPort rank : Int32 := 0)
  replicaGroupId : String := ""
  replicaIndex : Int32 := 0
  replicaSize : Int32 := 1
  replicaLeader : Bool := false
  dataParallelRank : Int32 := 0
  (dataParallelSize dataParallelSizeLocal : Int32 := 1)
  dataParallelStartRank : Int32 := 0
  dataParallelApiEndpoint : Bool := false
  dataParallelHeadAddress : String := ""
  dataParallelRpcPort : Int32 := 0
  gpuFraction : ℚ := 0
  shareMode : GpuShareMode := .exclusive
  priority : Int32 := 100
  preemptible : Bool := false
  memoryCapMb : Option Int32 := none
  enabled : Bool := true
  leader : Bool := false
  deriving DecidableEq

structure WorkerGroupSpec where
  (groupId inferInstanceName : String := "")
  distributedBackend : String := "llama_rpc"
  rendezvousHost : String := ""
  rendezvousPort : Int32 := 29500
  expectedWorkers : Int32 := 0
  workerSelectionPolicy : String := "prefer-free-then-share"
  members : List WorkerGroupMemberSpec := []
  deriving DecidableEq

structure GatewaySettings where
  listenHost : String := "0.0.0.0"
  listenPort : Int32 := 80
  serverName : String := "_"
  deriving DecidableEq

structure BootstrapModelSpec where
  modelId : String := ""
  servedModelName : Option String := none
  materializationMode : String := "copy"
  (localPath sourceNodeName : Option String := none)
  sourcePaths : List String := []
  (sourceFormat sourceQuantization desiredOutputFormat quantization : Option String := none)
  keepSource : Bool := true
  writebackEnabled : Bool := false
  writebackIfMissing : Bool := true
  (writebackTargetNodeName sourceUrl : Option String := none)
  sourceUrls : List String := []
  (targetFilename sha256 : Option String := none)
  deriving DecidableEq

structure CompletionPolicy where
  responseMode : String := "normal"
  maxTokens : Int32 := 512
  targetCompletionTokens : Option Int32 := none
  maxContinuations : Int32 := 3
  maxTotalCompletionTokens : Int32 := 1536
  maxElapsedTimeMs : Int32 := 180000
  semanticGoal : Option String := none
  deriving DecidableEq

structure InteractionSettings where
  (image systemPrompt analysisSystemPrompt : Option String := none)
  thinkingEnabled : Bool := false
  (defaultTemperature defaultTopP : Option ℚ := none)
  defaultResponseLanguage : String := "en"
  supportedResponseLanguages : List String := []
  followUserLanguage : Bool := true
  (completionPolicy longCompletionPolicy analysisCompletionPolicy : Option CompletionPolicy := none)
  analysisLongCompletionPolicy : Option CompletionPolicy := none
  deriving DecidableEq

structure SkillsSettings where
  enabled : Bool := false
  factorySkillIds : List String := []
  deriving DecidableEq

structure BrowsingPolicySettings where
  cefEnabled : Bool := true
  browserSessionEnabled : Bool := false
  renderedBrowserEnabled : Bool := true
  loginEnabled : Bool := false
  (allowedDomains blockedDomains blockedTargets : List String := [])
  responseReviewEnabled : Bool := true
  policyVersion : String := "webgateway-v1"
  maxSearchResults : Int32 := 8
  maxFetchBytes : Int32 := 262144
  deriving DecidableEq

structure BrowsingSettings where
  enabled : Bool := false
  policy : Option BrowsingPolicySettings := none
  deriving DecidableEq

structure KnowledgeContextPolicySettings where
  includeGraph : Bool := true
  maxGraphDepth : Int32 := 1
  tokenBudget : Int32 := 12000
  deriving DecidableEq

structure KnowledgeSettings where
  enabled : Bool := false
  serviceId : String := "kv_default"
  selectionMode : String := "latest"
  selectedKnowledgeIds : List String := []
  contextPolicy : KnowledgeContextPolicySettings := {}
  deriving DecidableEq

structure TurboQuantFeatureSpec where
  enabled : Bool := false
  (cacheTypeK cacheTypeV : Option String := none)
  deriving DecidableEq

structure ContextCompressionFeatureSpec where
  enabled : Bool := false
  mode : String := "auto"
  target : String := "dialog_and_knowledge"
  memoryPriority : String := "balanced"
  deriving DecidableEq

structure VoiceListenerFeatureSpec where
  enabled : Bool := false
  wakePhrase : String := "Hey Jex"
  language : String := "auto"
  model : AppModelMountSpec := {}
  image : Option String := none
  deriving DecidableEq

structure VoiceMakerFeatureSpec where
  enabled : Bool := false
  language : String := "auto"
  voiceMode : String := "design"
  instruct : String := "neutral, clear voice, medium pitch, calm style"
  outputFormat : String := "wav"
  model : AppModelMountSpec := {}
  image : Option String := none
  deriving DecidableEq

structure SecuredConnectionFeatureSpec where
  enabled : Bool := false
  userIds : List String := []
  deriving DecidableEq

structure ExternalAppHostConfig where
  address : String := ""
  (sshKeyPath username password : Option String := none)
  deriving DecidableEq

structure DesiredState where
  (planeName planeSharedDiskName controlRoot : String := "")
  planeMode : PlaneMode := .compute
  protectedPlane : Bool := false
  (postDeployScript placementTarget : Option String := none)
  bootstrapModel : Option BootstrapModelSpec := none
  interaction : Option InteractionSettings := none
  skills : Option SkillsSettings := none
  browsing : Option BrowsingSettings := none
  knowledge : Option KnowledgeSettings := none
  turboquant : Option TurboQuantFeatureSpec := none
  contextCompression : Option ContextCompressionFeatureSpec := none
  voiceListener : Option VoiceListenerFeatureSpec := none
  voiceMaker : Option VoiceMakerFeatureSpec := none
  securedConnection : Option SecuredConnectionFeatureSpec := none
  appHost : Option ExternalAppHostConfig := none
  inference : InferenceRuntimeSettings := {}
  workerGroup : WorkerGroupSpec := {}
  gateway : GatewaySettings := {}
  runtimeGpuNodes : List RuntimeGpuNode := []
  nodes : List NodeInventory := []
  disks : List DiskSpec := []
  instances : List InstanceSpec := []
  deriving DecidableEq

end Naim
