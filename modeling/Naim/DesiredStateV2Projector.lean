import Naim.StateJsonSettingsCodecs
import Mathlib.Algebra.Order.Group.Abs
import Mathlib.Algebra.Order.Ring.Rat

/-!
# The projector of desired states

`DesiredStateV2Projector`: the version 2 document that stores the desired state
of a plane. What equals a default is left out of the document.
-/

namespace Naim.Projector

open Json StateJsonSettingsCodecs

variable (s : DesiredState) (i : InstanceSpec)

def executionNodeName : Option String :=
  match s.placementTarget with
  | none => none
  | some target =>
    if "node:".toList <+: target.toList ∧ target ≠ "node:" then some (String.ofList (target.toList.drop 5))
    else if target = "local" then some "local-hostd"
    else none

def defaultNodeName : String := (executionNodeName s).getD ((s.nodes.head?.map (·.name)).getD "local-hostd")

def isDefaultSingleNodeTopology : Bool :=
  match s.nodes with
  | [node] => node.name = "local-hostd" && node.platform = "linux" && node.executionMode = .mixed &&
      node.gpuMemoryMb.isEmpty
  | _ => false

def shouldEmitTopology : Bool := (executionNodeName s).isNone && !isDefaultSingleNodeTopology s

def findInstance (role : InstanceRole) : Option InstanceSpec := s.instances.find? (·.role = role)

def findInstances (role : InstanceRole) : List InstanceSpec := s.instances.filter (·.role = role)

def findDiskByName (name : String) : Option DiskSpec := s.disks.find? (·.name = name)

def findSharedDisk : Option DiskSpec :=
  if s.planeSharedDiskName ≠ "" then findDiskByName s s.planeSharedDiskName
  else s.disks.find? (·.kind = .planeShared)

def nonEmpty (o : Option String) : Option String := o.filter (· ≠ "")

def projectServiceStart (defaultCommand : String) : Option Json :=
  if i.command = "" ∨ i.command = defaultCommand then none
  else some (ofFields [field "type" (some "command"),field "command" (some i.command)])

def projectPublishedPort (p : PublishedPort) : Json :=
  ofFields [
    field "host_ip" (some p.hostIp),field "host_port" (some p.hostPort),
    field "container_port" (some p.containerPort)]

def projectPublishedPorts : Option Json :=
  if i.publishedPorts = [] then none else some (.arr (i.publishedPorts.map projectPublishedPort))

/-- The size at which the projector leaves a disk out; the one of the voice module is not its own. -/
def defaultDiskSizeGb : DiskKind → Int32
  | .inferPrivate => 12
  | .workerPrivate => 2
  | .skillsPrivate => 1
  | .browsingPrivate => 1
  | .interactionPrivate => 8
  | .voiceMakerPrivate => 8
  | _ => 8

def projectServiceStorage (disk : Option DiskSpec) : Option Json :=
  disk.bind fun d =>
    if d.sizeGb = defaultDiskSizeGb d.kind ∧ d.containerPath = "/naim/private" then none
    else some (ofFields [field "size_gb" (some d.sizeGb),field "mount_path" (some d.containerPath)])

def projectAppVolumes (disk : Option DiskSpec) : Option Json :=
  disk.map fun d => .arr [ofFields [
    field "name" (some "private-data"),field "type" (some "persistent"),field "size_gb" (some d.sizeGb),
    field "mount_path" (some d.containerPath),field "access" (some "rw")]]

def isNaimVariable (key : String) : Bool := "NAIM_".toList <+: key.toList

def projectCustomEnv : StringMap := i.environment.filter fun e => !isNaimVariable e.1

@[simp] def serviceFields (defaultImage defaultCommand : String) : List (String × Option Json) := [
  field "image" (elide defaultImage i.image),("start",projectServiceStart i defaultCommand),
  field "env" (elide [] (projectCustomEnv i)),("publish",projectPublishedPorts i)]

@[simp] def placedFields : List (String × Option Json) := [
  field "node" (elide (defaultNodeName s) i.nodeName),
  ("storage",projectServiceStorage (findDiskByName s i.privateDiskName))]

def nonEmptyObject (j : Json) : Option Json := if j.isEmpty then none else some j

def projectAppHost (h : ExternalAppHostConfig) : Json :=
  ofFields [
    field "address" (some h.address),field "ssh_key_path" (nonEmpty h.sshKeyPath),
    field "username" (nonEmpty h.username),field "password" (nonEmpty h.password)]

/-- The execution node that is written: of a target without the node form, none is. -/
def projectExecutionNode : Option String :=
  match nonEmpty s.placementTarget with
  | some target => if "node:".toList <+: target.toList then some (String.ofList (target.toList.drop 5)) else none
  | none => if s.nodes ≠ [] then some (defaultNodeName s) else none

def projectPlacement : Option Json :=
  nonEmptyObject (ofFields [
    field "execution_node" (projectExecutionNode s),field "app_host" (s.appHost.map projectAppHost)])

def projectTurboquant (t : TurboQuantFeatureSpec) : Json :=
  ofFields [
    field "enabled" (some t.enabled),field "cache_type_k" t.cacheTypeK,field "cache_type_v" t.cacheTypeV]

def projectContextCompression (c : ContextCompressionFeatureSpec) : Json :=
  ofFields [
    field "enabled" (some c.enabled),field "mode" (some c.mode),field "target" (some c.target),
    field "memory_priority" (some c.memoryPriority)]

def projectMountSource (m : AppModelMountSpec) : Json :=
  ofFields [
    field "type" (some "library"),field "path" (some m.sourcePath),field "node" (elide "" m.sourceNodeName),
    field "paths" (if m.sourcePaths = [] ∨ m.sourcePaths = [m.sourcePath] then none else some m.sourcePaths)]

def projectVoiceModel (defaultName defaultEnv : String) (m : AppModelMountSpec) : Json :=
  ofFields [
    field "name" (some (if m.name = "" then defaultName else m.name)),
    field "source" (some (projectMountSource m)),field "mount_path" (some m.mountPath),
    field "env" (some (if m.envVar = "" then defaultEnv else m.envVar)),field "required" (some m.required)]

def projectVoiceImage (image : Option String) (i : Option InstanceSpec) (defaultImage : String) : Option String :=
  (nonEmpty image).or (i.bind fun i => elide defaultImage i.image)

def voiceInstanceFields (defaultCommand modelEnv : String) : List (String × Option Json) := [
  ("start",projectServiceStart i defaultCommand),
  field "env" (elide [] (Assoc.erase (projectCustomEnv i) modelEnv)),
  ("publish",projectPublishedPorts i)] ++ placedFields s i

def projectVoiceListener (v : VoiceListenerFeatureSpec) : Json :=
  let i := findInstance s .voiceModule
  ofFields ([
    field "enabled" (some v.enabled),field "wake_phrase" (some v.wakePhrase),field "language" (some v.language),
    field "model" (some (projectVoiceModel "whisper" "WHISPER_MODEL_PATH" v.model)),
    field "image" (projectVoiceImage v.image i "naim/voice-module:dev")] ++
    (i.map fun i => voiceInstanceFields s i "/runtime/bin/naim-voice-moduled" "WHISPER_MODEL_PATH").getD [])

def projectVoiceMaker (v : VoiceMakerFeatureSpec) : Json :=
  let i := findInstance s .voiceMaker
  ofFields ([
    field "enabled" (some v.enabled),field "language" (some v.language),field "voice_mode" (some v.voiceMode),
    field "instruct" (some v.instruct),field "format" (some v.outputFormat),
    field "model" (some (projectVoiceModel "omnivoice" "OMNIVOICE_MODEL_PATH" v.model)),
    field "image" (projectVoiceImage v.image i "naim/voice-maker:dev")] ++
    (i.map fun i => voiceInstanceFields s i "python3 /runtime/voice-maker/server.py" "OMNIVOICE_MODEL_PATH").getD [])

def projectSecuredConnection (c : SecuredConnectionFeatureSpec) : Json :=
  ofFields [field "enabled" (some c.enabled),field "user_ids" (some c.userIds)]

def projectFeatures : Option Json :=
  nonEmptyObject (ofFields [
    field "turboquant" (s.turboquant.map projectTurboquant),
    field "context_compression" (s.contextCompression.map projectContextCompression),
    field "voice_listener" (s.voiceListener.map (projectVoiceListener s)),
    field "voice_maker" (s.voiceMaker.map (projectVoiceMaker s)),
    field "secured_connection" (s.securedConnection.map projectSecuredConnection)])

def projectContextPolicy (p : KnowledgeContextPolicySettings) : Json :=
  ofFields [
    field "include_graph" (some p.includeGraph),field "max_graph_depth" (some p.maxGraphDepth),
    field "token_budget" (some p.tokenBudget)]

def projectKnowledge : Option Json :=
  (s.knowledge.filter (·.enabled)).map fun k => ofFields [
    field "enabled" (some k.enabled),
    field "service_id" (some (if k.serviceId = "" then "kv_default" else k.serviceId)),
    field "selection_mode" (some (if k.selectionMode = "" then "latest" else k.selectionMode)),
    field "selected_knowledge_ids" (some k.selectedKnowledgeIds),
    field "context_policy" (some (projectContextPolicy k.contextPolicy))]

def addBundlePrefixIfRelative (value : String) : String :=
  if value = "" ∨ value.toList.head? = some '/' ∨ "bundle://".toList <+: value.toList then value
  else "bundle://" ++ value

def projectHooks : Option Json :=
  (nonEmpty s.postDeployScript).map fun script =>
    ofFields [field "post_deploy_script" (some (addBundlePrefixIfRelative script))]

section

variable (m : BootstrapModelSpec)

def preferredModelSourceType : String :=
  if m.sourceUrl.isSome ∨ m.sourceUrls ≠ [] then "url"
  else if m.localPath.isSome ∧ m.materializationMode = "reference" then "local"
  else if m.materializationMode = "prepare_on_worker" then "library"
  else "huggingface"

def projectModelSource : Json :=
  let sourceType := preferredModelSourceType m
  ofFields [
    field "type" (some sourceType),field "ref" (elide "" m.modelId),
    field "path" (if sourceType = "local" then nonEmpty m.localPath else none),
    field "url" (if sourceType = "url" then nonEmpty m.sourceUrl else none),
    field "urls" (if sourceType = "url" then elide [] m.sourceUrls else none)]

def projectWriteback : Json :=
  ofFields [
    field "enabled" (some m.writebackEnabled),field "if_missing" (some m.writebackIfMissing),
    field "target_node_name" (nonEmpty m.writebackTargetNodeName)]

def projectMaterialization : Json :=
  ofFields [
    field "mode" (some m.materializationMode),field "local_path" (nonEmpty m.localPath),
    field "source_node_name" (nonEmpty m.sourceNodeName),field "source_paths" (elide [] m.sourcePaths),
    field "source_format" (nonEmpty m.sourceFormat),field "source_quantization" (nonEmpty m.sourceQuantization),
    field "desired_output_format" (nonEmpty m.desiredOutputFormat),
    field "quantization" (nonEmpty m.quantization),field "keep_source" (elide true m.keepSource),
    field "writeback" (if m.writebackEnabled then some (projectWriteback m) else none)]

def projectModel : Json :=
  ofFields [
    field "source" (some (projectModelSource m)),field "materialization" (some (projectMaterialization m)),
    field "served_model_name" (nonEmpty m.servedModelName),field "target_filename" (nonEmpty m.targetFilename),
    field "sha256" (nonEmpty m.sha256)]

end

def projectNode (n : NodeInventory) : Json :=
  ofFields [
    field "name" (some n.name),field "platform" (elide "" n.platform),
    field "execution_mode" (some n.executionMode.text),field "gpu_memory_mb" (elide [] n.gpuMemoryMb)]

def projectTopology : Option Json :=
  if shouldEmitTopology s then some (ofFields [field "nodes" (some (Json.arr (s.nodes.map projectNode)))]) else none

def projectRuntime : Json :=
  ofFields [
    field "engine" (some s.inference.runtimeEngine),
    field "workers" (some (max 1 (Int32.ofNat (findInstances s .worker).length))),
    field "distributed_backend" (some s.inference.distributedBackend),
    field "max_model_len" (some s.inference.maxModelLen),field "llama_ctx_size" (some s.inference.llamaCtxSize),
    field "max_num_seqs" (some s.inference.maxNumSeqs),
    field "gpu_memory_utilization" (some s.inference.gpuMemoryUtilization),
    field "pipeline_parallel_size" (elide 1 s.inference.pipelineParallelSize),
    field "tensor_parallel_size" (elide 1 s.inference.tensorParallelSize),
    field "enforce_eager" (elide false s.inference.enforceEager)]

def projectNetwork : Json :=
  ofFields [
    field "gateway_port" (some s.gateway.listenPort),field "inference_port" (some s.inference.apiPort),
    field "server_name" (some s.gateway.serverName),field "listen_host" (elide "0.0.0.0" s.gateway.listenHost),
    field "rendezvous_port" (elide 29500 s.inference.rendezvousPort)]

def inferReplicaCount : ℕ :=
  (((findInstances s .worker).filterMap (·.environment.lookup "NAIM_INFER_INSTANCE_NAME")).filter
    (· ≠ "")).dedup.length

def projectReplicas : Option Int32 :=
  if s.planeMode = .llm ∧ s.inference.runtimeEngine = "llama.cpp" ∧ s.inference.distributedBackend = "llama_rpc"
  then some (max 1 (Int32.ofNat (inferReplicaCount s))) else none

def inferBlock : Json :=
  ofFields (serviceFields i "naim/infer-runtime:dev" "/runtime/bin/naim-inferctl container-boot" ++
    placedFields s i ++ [field "replicas" (projectReplicas s)])

def projectInfer : Option Json := (findInstance s .infer).bind fun i => nonEmptyObject (inferBlock s i)

def projectAssignment : Json :=
  ofFields [field "node" (some i.nodeName),field "gpu_device" (nonEmpty i.gpuDevice)]

def placedTogether (first : InstanceSpec) (workers : List InstanceSpec) : Bool :=
  workers.all fun i => i.nodeName = first.nodeName && i.gpuDevice = first.gpuDevice

def placementFields (first : InstanceSpec) (workers : List InstanceSpec) : List (String × Option Json) :=
  if placedTogether first workers then
    [field "node" (elide (defaultNodeName s) first.nodeName),field "gpu_device" (nonEmpty first.gpuDevice)]
  else [("assignments",some (.arr (workers.map projectAssignment)))]

def workerBlock (first : InstanceSpec) : Json :=
  ofFields (serviceFields first "naim/worker-runtime:dev" "/runtime/bin/naim-workerd" ++
    placementFields s first (findInstances s .worker) ++
    [("storage",projectServiceStorage (findDiskByName s first.privateDiskName))])

def projectWorker : Option Json :=
  (findInstances s .worker).head?.bind fun first => nonEmptyObject (workerBlock s first)

def projectAppModel (m : AppModelMountSpec) : Json :=
  ofFields [
    field "name" (some m.name),field "source" (some (projectMountSource m)),
    field "mount_path" (some m.mountPath),field "required" (some m.required),field "env" (elide "" m.envVar)]

def projectAppEnv : StringMap :=
  i.appModelMounts.foldl (fun env m => if m.envVar ≠ "" then Assoc.erase env m.envVar else env)
    (projectCustomEnv i)

def projectAppInstance (multiApp primary : Bool) (i : InstanceSpec) : Json :=
  let named := multiApp || !primary
  ofFields [
    field "enabled" (some true),field "image" (some i.image),
    field "name" (if named then some ((i.environment.lookup "NAIM_APP_NAME").getD i.name) else none),
    field "primary" (if named then some primary else none),("start",projectServiceStart i ""),
    field "env" (elide [] (projectAppEnv i)),
    ("models",if i.appModelMounts = [] then none else some (.arr (i.appModelMounts.map projectAppModel))),
    ("publish",projectPublishedPorts i),field "node" (elide (defaultNodeName s) i.nodeName),
    ("volumes",projectAppVolumes (findDiskByName s i.privateDiskName))]

def isPrimaryApp : Bool := i.environment.lookup "NAIM_APP_PRIMARY" = some "true"

def primaryAppIndex (apps : List InstanceSpec) : ℕ := (apps.findIdx? isPrimaryApp).getD 0

def projectApps : List Json :=
  let apps := findInstances s .app
  apps.zipIdx.map fun e =>
    projectAppInstance s (decide (apps.length > 1)) (decide (e.2 = primaryAppIndex apps)) e.1

/-- A plane without apps says so, a single app stands alone. -/
def projectApp : Option Json :=
  match projectApps s with
  | [] => some (ofFields [field "enabled" (some false)])
  | [app] => some app
  | _ => none

def projectAppList : Option Json := if (projectApps s).length > 1 then some (.arr (projectApps s)) else none

def skillsBlock : Json :=
  ofFields ([
    field "enabled" (some (s.skills.getD {}).enabled),
    field "factory_skill_ids" (s.skills.bind fun skills => elide [] skills.factorySkillIds)] ++
    serviceFields i "naim/skills-runtime:dev" "/runtime/bin/naim-skillsd" ++ placedFields s i)

def projectSkills : Option Json :=
  match findInstance s .skills with
  | none => s.skills.map fun _ => ofFields [field "enabled" (some false)]
  | some i => some (skillsBlock s i)

def projectBrowsingPolicy (p : BrowsingPolicySettings) : Json :=
  ofFields [
    field "browser_session_enabled" (some p.browserSessionEnabled),
    field "rendered_browser_enabled" (some p.renderedBrowserEnabled),
    field "login_enabled" (some p.loginEnabled),field "max_search_results" (some p.maxSearchResults),
    field "max_fetch_bytes" (some p.maxFetchBytes),field "cef_enabled" (elide true p.cefEnabled),
    field "allowed_domains" (elide [] p.allowedDomains),field "blocked_domains" (elide [] p.blockedDomains),
    field "blocked_targets" (elide [] p.blockedTargets),
    field "response_review_enabled" (elide true p.responseReviewEnabled),
    field "policy_version" (elide "webgateway-v1" p.policyVersion)]

def browsingBlock : Json :=
  ofFields ([
    field "enabled" (some (s.browsing.getD {}).enabled),
    field "policy" ((s.browsing.bind (·.policy)).map projectBrowsingPolicy)] ++
    serviceFields i "naim/webgateway-runtime:dev" "/runtime/bin/naim-webgatewayd" ++ placedFields s i)

def projectBrowsing : Option Json :=
  match findInstance s .browsing with
  | none => s.browsing.map fun _ => ofFields [field "enabled" (some false)]
  | some i => some (browsingBlock s i)

def projectWorkerResources : Json :=
  ofFields [
    field "placement_mode" (some i.placementMode.text),field "share_mode" (some i.shareMode.text),
    field "gpu_fraction" (some i.gpuFraction),field "memory_cap_mb" i.memoryCapMb]

/-- The device share of a voice service; the default one is only switched on. -/
def projectVoiceResources (defaultFraction : ℚ) (defaultPriority : Int32) (i : InstanceSpec) : Json :=
  if |i.gpuFraction - defaultFraction| < 1/1000000000 ∧ i.shareMode = .shared ∧ i.priority = defaultPriority ∧
      i.preemptible = false ∧ i.memoryCapMb = none then
    ofFields [field "gpu_enabled" (some true)]
  else ofFields [
    field "gpu_enabled" (some true),field "share_mode" (some i.shareMode.text),
    field "gpu_fraction" (some i.gpuFraction),field "priority" (elide defaultPriority i.priority),
    field "preemptible" (elide false i.preemptible),field "memory_cap_mb" i.memoryCapMb]

def voiceGpuInstance (role : InstanceRole) : Option InstanceSpec :=
  (findInstance s role).filter (·.gpuDevice.isSome)

def projectResources : Json :=
  ofFields [
    field "worker" ((findInstances s .worker).head?.map projectWorkerResources),
    field "voice_module" ((voiceGpuInstance s .voiceModule).map (projectVoiceResources (1/5) 50)),
    field "voice_maker" ((voiceGpuInstance s .voiceMaker).map (projectVoiceResources (1/4) 45)),
    field "shared_disk_gb" (some (((findSharedDisk s).map (·.sizeGb)).getD 40))]

def isProtected : Bool := s.protectedPlane || s.securedConnection.any (·.enabled)

def project : Json :=
  ofFields [
    field "version" (some (2 : Int32)),field "plane_name" (some s.planeName),
    field "plane_mode" (some s.planeMode.text),field "protected" (elide false (isProtected s)),
    ("placement",projectPlacement s),("features",projectFeatures s),("hooks",projectHooks s),
    field "model" (s.bootstrapModel.map projectModel),("topology",projectTopology s),
    field "interaction" (s.interaction.map interactionSettingsToJson),field "runtime" (some (projectRuntime s)),
    field "network" (some (projectNetwork s)),("infer",projectInfer s),("worker",projectWorker s),
    ("app",projectApp s),("apps",projectAppList s),("skills",projectSkills s),("webgateway",projectBrowsing s),
    ("knowledge",projectKnowledge s),field "resources" (some (projectResources s))]

end Naim.Projector
