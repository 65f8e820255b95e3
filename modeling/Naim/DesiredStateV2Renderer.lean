import Naim.DesiredStateV2Settings
import Naim.Rows
import Naim.Text
import Naim.WorkerGroupTopology

/-!
# The renderer of desired-state documents

`DesiredStateV2Renderer`: a version 2 document that the validator accepts is
turned into the desired state of its plane. Every service reads the settings
together with its own block of the document, and most bring a private disk.
-/

namespace Naim.Renderer

open Assoc Checked Json Rows Text

def letter (index : ℕ) : String := String.ofList [Char.ofNat ((97 + index) % 256)]

variable (planeName : String)

def buildWorkerName (index total : ℕ) : String :=
  if total ≤ 1 then "worker-" ++ planeName else "worker-" ++ planeName ++ "-" ++ letter index

def buildInferInstanceName (index : ℕ) : String :=
  if index = 0 then "infer-" ++ planeName else "infer-" ++ planeName ++ "-" ++ letter (index - 1)

def normalizeChar (c : Char) : Option Char :=
  if ('a' ≤ c ∧ c ≤ 'z') ∨ ('0' ≤ c ∧ c ≤ '9') then some c
  else if 'A' ≤ c ∧ c ≤ 'Z' then some (Char.ofNat (c.toNat + 32))
  else if c = '-' ∨ c = '_' then some '-'
  else none

def normalizeAppNameToken (value : String) : String :=
  let token := (value.toList.filterMap normalizeChar).dropWhile (· = '-')
  let token := (token.reverse.dropWhile (· = '-')).reverse
  if token = [] then "extra" else String.ofList token

def buildAppInstanceName (planeName appName : String) (primary : Bool) : String :=
  if primary then "app-" ++ planeName else "app-" ++ planeName ++ "-" ++ normalizeAppNameToken appName

def skillsInstanceName : String := "skills-" ++ planeName

def webGatewayInstanceName : String := "webgateway-" ++ planeName

def interactionInstanceName : String := "interaction-" ++ planeName

def voiceModuleInstanceName : String := "voice-module-" ++ planeName

def voiceMakerInstanceName : String := "voice-maker-" ++ planeName

def planeSharedHostPath : String := "/var/lib/naim/disks/planes/" ++ planeName ++ "/shared"

def instancePrivateHostPath (instanceName : String) : String :=
  "/var/lib/naim/disks/instances/" ++ instanceName ++ "/private"

def buildAppModelHostPath (planeName instanceName modelName mountPath sourcePath : String) : String :=
  let filename := orElse (orElse (pathFilename mountPath) (pathFilename sourcePath)) "model"
  planeSharedHostPath planeName ++ "/app-models/" ++ instanceName ++ "/" ++
    normalizeAppNameToken modelName ++ "/" ++ filename

def inferRuntimeConfigRelativePath (inferInstanceName : String) : String :=
  if inferInstanceName = "" then "infer-runtime.json"
  else joinPath (joinPath "infer" inferInstanceName) "infer-runtime.json"

def inferRuntimeConfigControlPath (controlRoot inferInstanceName : String) : String :=
  if controlRoot = "" then inferRuntimeConfigRelativePath inferInstanceName
  else joinPath controlRoot (inferRuntimeConfigRelativePath inferInstanceName)

/-- The port on the host of a service that publishes none itself. -/
def serviceHostPort (planeName instanceName : String) (base : ℕ) : Int32 :=
  stablePort (planeName ++ ":" ++ instanceName) base 10000

variable (dump : Json → String) (r : Sections) (s : DesiredState) (inferNames : List String)

def usesLlamaRpc : Bool :=
  s.inference.runtimeEngine = "llama.cpp" && s.inference.distributedBackend = "llama_rpc"

def inferEnabled : Checked Bool :=
  r.infer.value "enabled" (decide (s.planeMode = .llm) || decide (s.inference.runtimeEngine = "llama.cpp"))

def inferReplicaCount : Checked ℕ :=
  if usesLlamaRpc s then do
    let replicas : Int32 ← r.infer.value "replicas" 1
    pure (max 1 replicas.toInt.toNat)
  else pure 1

def workerCount : Checked ℕ := do
  let runtime ← r.doc.member "runtime"
  let workers : Int32 ← runtime.value "workers" 1
  pure workers.toInt.toNat

def defaultNodeName : Checked String :=
  match s.nodes with
  | [] => fail "desired-state v2 renderer requires at least one node"
  | node::_ => pure node.name

def requireNode (nodeName context : String) : Checked String :=
  if s.nodes.any (·.name = nodeName) then pure nodeName
  else fail ("desired-state v2 " ++ context ++ " references unknown node '" ++ nodeName ++ "'")

def resolveLegacyServiceNodeName (service : Json) (serviceName : String) : Checked (Option String) :=
  mapOption (if Validator.legacyTopologyPlacementEnabled r.doc then service.string? "node" else none)
    fun node => requireNode s node serviceName

def assignment? (workerIndex : ℕ) : Option Json :=
  if Validator.legacyTopologyPlacementEnabled r.doc then (r.worker.arrayAt "assignments")[workerIndex]? else none

def resolveLegacyWorkerAssignmentNodeName (workerIndex : ℕ) : Checked (Option String) :=
  mapOption ((assignment? r workerIndex).bind (·.string? "node"))
    fun node => requireNode s node "worker assignment"

def resolveWorkerNodeName (workerIndex : ℕ) : Checked String :=
  getOr (resolveLegacyWorkerAssignmentNodeName r s workerIndex)
    (getOr (resolveLegacyServiceNodeName r s r.worker "worker") (defaultNodeName s))

def resolveWorkerGpuDevice (workerIndex : ℕ) : Option String :=
  ((assignment? r workerIndex).bind (·.string? "gpu_device")).or (r.worker.string? "gpu_device")

def firstInferNode : Checked String :=
  match s.nodes.find? fun node => node.executionMode ≠ .workerOnly with
  | some node => pure node.name
  | none => defaultNodeName s

def resolveReplicaNodeName (replicas inferIndex : ℕ) : Checked String := do
  let workers ← workerCount r
  resolveWorkerNodeName r s (min (workers - 1) ((inferIndex - 1) * max 1 (workers / replicas)))

def resolveInferNodeName (inferIndex : ℕ) : Checked String :=
  getOr (resolveLegacyServiceNodeName r s (if inferIndex = 0 then r.infer else .obj []) "infer") do
    let replicas ← inferReplicaCount r s
    if replicas > 1 ∧ inferIndex > 0 then resolveReplicaNodeName r s replicas inferIndex else firstInferNode s

/-- Services follow the primary app, which follows the infer instance. -/
def resolveAppNodeName : Checked String :=
  getOr (resolveLegacyServiceNodeName r s r.app "app") (resolveInferNodeName r s 0)

def sharedDiskNodeName : Checked String := do
  let enabled ← inferEnabled r s
  if enabled then resolveInferNodeName r s 0 else defaultNodeName s

def renderWorkerGroup : Checked DesiredState := do
  let enabled ← inferEnabled r s
  let primaryInferNode ← sharedDiskNodeName r s
  let workers ← workerCount r
  let inferName := if enabled then buildInferInstanceName s.planeName 0 else ""
  pure {s with
    inference := {s.inference with
      primaryInferNode, workerGroupId := s.planeName ++ "-workers"}
    workerGroup := {
      groupId := s.planeName ++ "-workers", inferInstanceName := inferName
      distributedBackend := s.inference.distributedBackend, rendezvousHost := inferName
      rendezvousPort := s.inference.rendezvousPort, expectedWorkers := Int32.ofNat (max 1 workers)
      workerSelectionPolicy := "prefer-free-then-share"}}

variable (service : Json)

def buildAppCommandFromScriptRef (scriptRef : String) : String :=
  if scriptRef = "" then ""
  else if scriptRef.toList.head? = some '/' then scriptRef
  else "/app/" ++ pathFilename (stripBundleRef scriptRef)

def buildCommandFromStartSpec (start : Json) (defaultCommand : String) : Checked String :=
  if start.isObject then do
    let startType ← start.value "type" "command"
    if startType = "script" then do
      let scriptRef ← start.value "script_ref" ""
      pure (buildAppCommandFromScriptRef scriptRef)
    else do
      let command ← start.value "command" ""
      pure (if command = "" then defaultCommand else command)
  else pure defaultCommand

def serviceCommand (defaultCommand : String) : Checked String := do
  let start ← service.value "start" (.obj [])
  buildCommandFromStartSpec start defaultCommand

def storageBlock? (legacyVolumeKey : String) : Option Json :=
  (service.object? "storage").or (service.arrayAt legacyVolumeKey).head?

def hasExplicitPrivateStorage (legacyVolumeKey : String) : Bool :=
  (storageBlock? service legacyVolumeKey).isSome

def extractPrivateDiskSizeGb (defaultSizeGb : Int32) (legacyVolumeKey : String) : Checked Int32 :=
  match storageBlock? service legacyVolumeKey with
  | some storage => storage.value "size_gb" defaultSizeGb
  | none => pure defaultSizeGb

def extractPrivateMountPath (defaultMountPath legacyVolumeKey : String) : Checked String :=
  match storageBlock? service legacyVolumeKey with
  | some storage => storage.value "mount_path" defaultMountPath
  | none => pure defaultMountPath

def renderPublishedPort (port : Json) : Checked PublishedPort := do
  let hostIp ← port.value "host_ip" "127.0.0.1"
  let hostPort ← port.value "host_port" 0
  let containerPort ← port.value "container_port" 0
  pure {hostIp, hostPort, containerPort}

def renderPublishedPorts : Checked (List PublishedPort) := (service.arrayAt "publish").mapM renderPublishedPort

def portsOr (ports : List PublishedPort) (hostPort containerPort : Int32) : List PublishedPort :=
  if ports = [] then [{hostIp := "127.0.0.1", hostPort, containerPort}] else ports

def assignAll (environment custom : StringMap) : StringMap :=
  custom.foldl (fun m e => set m e.1 e.2) environment

def insertAll (environment custom : StringMap) : StringMap :=
  custom.foldl (fun m e => insert m e.1 e.2) environment

def llamaRuntimeFlavor : String := if s.turboquant.any (·.enabled) then "turboquant" else "default"

def serviceLabels (planeName role nodeName : String) : StringMap :=
  ofList [("naim.plane",planeName),("naim.role",role),("naim.node",nodeName)]

def privateDisk (kind : DiskKind) (i : InstanceSpec) (mountPath : String) : DiskSpec where
  name := i.privateDiskName
  kind
  planeName := i.planeName
  ownerName := i.name
  nodeName := i.nodeName
  hostPath := instancePrivateHostPath i.name
  containerPath := mountPath
  sizeGb := i.privateDiskSizeGb

def hasExternalAppHost : Bool := s.appHost.any (·.address ≠ "")

def isText (o : Option String) : Bool := o.any (· ≠ "")

def externalAppHostAuthMode : String :=
  match s.appHost with
  | none => "none"
  | some host =>
    if host.address = "" then "none"
    else if isText host.sshKeyPath then "ssh-key"
    else if isText host.username && isText host.password then "password"
    else "unknown"

def applyExternalAppHostMetadata (binding : String) (i : InstanceSpec) : InstanceSpec :=
  if hasExternalAppHost s then
    let address := (s.appHost.map (·.address)).getD ""
    {i with
      environment := assignAll i.environment [
        ("NAIM_DEPLOYMENT_TARGET","external-app-host"),("NAIM_EXTERNAL_APP_HOST_ADDRESS",address),
        ("NAIM_EXTERNAL_APP_HOST_AUTH_MODE",externalAppHostAuthMode s),
        ("NAIM_EXTERNAL_APP_HOST_BINDING",binding)]
      labels := assignAll i.labels [
        ("naim.deployment.target","external-app-host"),("naim.external_app_host.address",address),
        ("naim.external_app_host.auth_mode",externalAppHostAuthMode s),
        ("naim.external_app_host.binding",binding)]}
  else i

def sharedDisk (sizeGb : Int32) (nodeName : String) : DiskSpec where
  name := s.planeSharedDiskName
  kind := .planeShared
  planeName := s.planeName
  ownerName := s.planeName
  nodeName
  hostPath := planeSharedHostPath s.planeName
  containerPath := "/naim/shared"
  sizeGb

def renderSharedDisk : Checked (List DiskSpec) := do
  let nodeName ← sharedDiskNodeName r s
  let sizeGb ← r.resources.value "shared_disk_gb" 40
  pure ((sortedSet (nodeName::s.nodes.map (·.name))).map (sharedDisk s sizeGb))

def defaultInferRuntimeBackend : String := if usesLlamaRpc s then "llama-rpc-head" else "auto"

def defaultWorkerBootMode : String := if usesLlamaRpc s then "llama-rpc" else "llama-idle"

def inferSubrole (count index : ℕ) : String := if index = 0 ∧ count > 1 then "aggregator" else "infer"

def inferEnvironment (count index : ℕ) (nodeName : String) : StringMap :=
  let name := buildInferInstanceName s.planeName index
  ofList [
    ("NAIM_PLANE_NAME",s.planeName),("NAIM_INSTANCE_NAME",name),("NAIM_INSTANCE_ROLE","infer"),
    ("NAIM_INSTANCE_SUBROLE",inferSubrole count index),("NAIM_NODE_NAME",nodeName),
    ("NAIM_INFER_RUNTIME_BACKEND",defaultInferRuntimeBackend s),
    ("NAIM_LLAMA_RUNTIME_FLAVOR",llamaRuntimeFlavor s),
    ("NAIM_CONTROLLER_URL","http://controller.internal:18080"),("NAIM_CONTROL_ROOT",s.controlRoot),
    ("NAIM_INFER_RUNTIME_CONFIG",inferRuntimeConfigControlPath s.controlRoot name),
    ("NAIM_INFERENCE_PORT",toString (s.inference.apiPort + Int32.ofNat index)),
    ("NAIM_GATEWAY_PORT",toString (s.gateway.listenPort + Int32.ofNat index)),
    ("NAIM_LLAMA_PORT",toString (s.inference.llamaPort + Int32.ofNat index)),
    ("NAIM_SHARED_DISK_PATH","/naim/shared")]

def inferDiskSizeGb (infer : Json) : Checked Int32 :=
  if hasExplicitPrivateStorage infer "volumes" then extractPrivateDiskSizeGb infer 12 "volumes" else pure 0

def renderInfer (count index : ℕ) : Checked InstanceSpec := do
  let name := buildInferInstanceName s.planeName index
  let nodeName ← resolveInferNodeName r s index
  let image ← r.infer.value "image" "naim/infer-runtime:dev"
  let command ← serviceCommand r.infer "/runtime/bin/naim-inferctl container-boot"
  let privateDiskName :=
    if hasExplicitPrivateStorage r.infer "volumes" && instanceNeedsPrivateDisk .infer then name ++ "-private" else ""
  let sizeGb ← inferDiskSizeGb r.infer
  let environment := inferEnvironment s count index nodeName
  let environment :=
    if privateDiskName ≠ "" then set environment "NAIM_PRIVATE_DISK_PATH" "/naim/private" else environment
  let custom ← r.infer.mapAs "env"
  let ports ← renderPublishedPorts r.infer
  pure {
    name, role := .infer, planeName := s.planeName, nodeName, image, command, privateDiskName
    sharedDiskName := if instanceNeedsSharedDiskMount .infer then s.planeSharedDiskName else ""
    privateDiskSizeGb := sizeGb, environment := assignAll environment custom
    labels := ofList [("naim.plane",s.planeName),("naim.role","infer"),
      ("naim.subrole",inferSubrole count index),("naim.node",nodeName)]
    publishedPorts := ports}

def gatewayPortOf (infer : InstanceSpec) : Checked Int32 :=
  match infer.environment.lookup "NAIM_GATEWAY_PORT" with
  | none => pure s.gateway.listenPort
  | some text => stoi text

def replicaUpstream (primaryNode : String) (infer : InstanceSpec) : Checked String := do
  let port ← gatewayPortOf s infer
  pure ("http://" ++ (if infer.nodeName = primaryNode then infer.name else infer.nodeName) ++ ":" ++ toString port)

/-- The first of several infer instances knows the others, unless the document says otherwise. -/
def withReplicaUpstreams : List InstanceSpec → Checked (List InstanceSpec)
  | [] => pure []
  | [infer] => pure [infer]
  | infer::infers =>
    if (infer.environment.lookup "NAIM_REPLICA_UPSTREAMS").isSome then pure (infer::infers) else do
      let upstreams ← infers.mapM (replicaUpstream s infer.nodeName)
      let environment := set infer.environment "NAIM_REPLICA_UPSTREAMS" (",".intercalate upstreams)
      pure ({infer with environment}::infers)

def inferInstanceCount : Checked ℕ := if usesLlamaRpc s then (· + 1) <$> inferReplicaCount r s else pure 1

def renderInferInstance : Checked (List InstanceSpec) := do
  let enabled ← inferEnabled r s
  if enabled then do
    let count ← inferInstanceCount r s
    let infers ← (List.range count).mapM (renderInfer r s count)
    withReplicaUpstreams s infers
  else pure []

/-- Infer instances have no private disk, whatever their block says. -/
def inferDisks (infers : List InstanceSpec) : Checked (List DiskSpec) :=
  (infers.filter (·.privateDiskName ≠ "")).mapM fun i =>
    privateDisk .inferPrivate i <$> extractPrivateMountPath r.infer "/naim/private" "volumes"

def inferInstanceNameForWorker (index : ℕ) : Checked String :=
  if inferNames.length ≤ 1 then pure (buildInferInstanceName s.planeName 0) else do
    let workers ← workerCount r
    let replicas ← inferReplicaCount r s
    let replicaIndex := min (replicas - 1) (index / max 1 (workers / replicas))
    pure (inferNames.getD (min (inferNames.length - 1) (replicaIndex + 1)) "")

def workerEnvironment (name nodeName inferName : String) : StringMap :=
  let environment := ofList [
    ("NAIM_PLANE_NAME",s.planeName),("NAIM_INSTANCE_NAME",name),("NAIM_INSTANCE_ROLE","worker"),
    ("NAIM_NODE_NAME",nodeName),("NAIM_WORKER_BOOT_MODE",defaultWorkerBootMode s),
    ("NAIM_INFER_INSTANCE_NAME",inferName),("NAIM_CONTROL_ROOT",s.controlRoot),
    ("NAIM_DISTRIBUTED_BACKEND",s.inference.distributedBackend),
    ("NAIM_LLAMA_RUNTIME_FLAVOR",llamaRuntimeFlavor s),("NAIM_SHARED_DISK_PATH","/naim/shared"),
    ("NAIM_PRIVATE_DISK_PATH","/naim/private"),
    ("NAIM_WORKER_RUNTIME_STATUS_PATH","/naim/private/worker-runtime-status.json")]
  if s.inference.distributedBackend = "llama_rpc" then
    let rpcPort := toString (stableLlamaRpcWorkerPort s.planeName name)
    assignAll environment [
      ("NAIM_WORKER_RPC_PORT",rpcPort),("NAIM_WORKER_RPC_HOST","0.0.0.0"),
      ("NAIM_WORKER_RPC_ENDPOINT",name ++ ":" ++ rpcPort)]
  else environment

def renderWorker (total index : ℕ) : Checked InstanceSpec := do
  let name := buildWorkerName s.planeName index total
  let nodeName ← resolveWorkerNodeName r s index
  let image ← r.worker.value "image" "naim/worker-runtime:dev"
  let command ← serviceCommand r.worker "/runtime/bin/naim-workerd"
  let placementText ← r.workerResources.value "placement_mode" "auto"
  let placementMode ← parsePlacementMode placementText
  let shareText ← r.workerResources.value "share_mode" "exclusive"
  let shareMode ← parseGpuShareMode shareText
  let gpuFraction ← r.workerResources.value "gpu_fraction" 1
  let memoryCapMb ← r.workerResources.present "memory_cap_mb"
  let sizeGb ← extractPrivateDiskSizeGb r.worker 2 "volumes"
  let inferName ← inferInstanceNameForWorker r s inferNames index
  let custom ← r.worker.mapAs "env"
  let ports ← renderPublishedPorts r.worker
  pure {
    name, role := .worker, planeName := s.planeName, nodeName, gpuDevice := resolveWorkerGpuDevice r index
    image, command, privateDiskName := name ++ "-private", sharedDiskName := s.planeSharedDiskName
    placementMode, shareMode, gpuFraction, memoryCapMb, privateDiskSizeGb := sizeGb
    environment := assignAll (workerEnvironment s name nodeName inferName) custom
    labels := serviceLabels s.planeName "worker" nodeName, publishedPorts := ports}

def rpcPortOf (worker : InstanceSpec) : Checked Int32 :=
  match worker.environment.lookup "NAIM_WORKER_RPC_PORT" with
  | none => .error (.outOfRange "map::at")
  | some text => stoi text

def renderMember (total index : ℕ) (worker : InstanceSpec) : Checked WorkerGroupMemberSpec := do
  let inferName ← inferInstanceNameForWorker r s inferNames index
  let rpcPort ← rpcPortOf worker
  let replicas ← inferReplicaCount r s
  let replicaGroups := max 1 replicas
  let workersPerReplica := max 1 (total / replicaGroups)
  let replicaIndex := min (replicaGroups - 1) (index / workersPerReplica)
  let replicaLeader := decide (index % workersPerReplica = 0)
  pure {
    name := worker.name, inferInstanceName := inferName, nodeName := worker.nodeName
    gpuDevice := worker.gpuDevice.getD "", rpcPort, rank := Int32.ofNat index
    replicaGroupId := orElse inferName worker.name, replicaIndex := Int32.ofNat replicaIndex
    replicaSize := Int32.ofNat workersPerReplica, replicaLeader, dataParallelRank := Int32.ofNat replicaIndex
    dataParallelSize := Int32.ofNat replicaGroups, dataParallelSizeLocal := 1
    dataParallelStartRank := Int32.ofNat replicaIndex, dataParallelApiEndpoint := false
    gpuFraction := worker.gpuFraction, shareMode := worker.shareMode, priority := worker.priority
    preemptible := worker.preemptible, memoryCapMb := worker.memoryCapMb, enabled := true
    leader := replicaLeader && replicaIndex = 0}

/-- A worker with what the group of the plane and the disks learn from it. -/
structure RenderedWorker where
  spec : InstanceSpec
  member : Option WorkerGroupMemberSpec
  disk : DiskSpec

def renderWorkerEntry (total index : ℕ) : Checked RenderedWorker := do
  let worker ← renderWorker r s inferNames total index
  let member ← mapOption (if s.inference.distributedBackend = "llama_rpc" then some worker else none)
    (renderMember r s inferNames total index)
  let mountPath ← extractPrivateMountPath r.worker "/naim/private" "volumes"
  pure {spec := worker, member, disk := privateDisk .workerPrivate worker mountPath}

def renderWorkerInstances : Checked (List RenderedWorker) := do
  let total ← workerCount r
  (List.range total).mapM (renderWorkerEntry r s inferNames total)

def appCommand (app : Json) : Checked String :=
  match app.object? "start" with
  | none => pure ""
  | some start => do
    let startType ← start.value "type" "command"
    if startType = "script" then buildAppCommandFromScriptRef <$> start.value "script_ref" ""
    else start.value "command" ""

def renderAppModelMount (instanceName : String) (model : Json) : Checked AppModelMountSpec := do
  let source ← model.member "source"
  let name ← model.value "name" ""
  let sourcePath ← source.value "path" ""
  let sourceNodeName ← source.value "node" ""
  let sourcePaths ← source.arrayAs "paths"
  let mountPath ← model.value "mount_path" ""
  let envVar ← model.value "env" ""
  let required ← model.value "required" true
  pure {
    name, sourcePath, sourceNodeName
    sourcePaths := if sourcePaths = [] then [sourcePath] else sourcePaths
    mountPath, envVar, required
    hostPath := buildAppModelHostPath s.planeName instanceName name mountPath sourcePath}

def voiceServices : List String :=
  (if s.voiceListener.any (·.enabled) then [voiceModuleInstanceName s.planeName] else []) ++
  (if s.voiceMaker.any (·.enabled) then [voiceMakerInstanceName s.planeName] else [])

def voiceEnvironment : StringMap :=
  let listener := match s.voiceListener with
    | some voice => if voice.enabled then [
        ("NAIM_VOICE_LISTENER_BASE","http://" ++ voiceModuleInstanceName s.planeName ++ ":18140/v1"),
        ("NAIM_VOICE_LISTENER_WAKE_PHRASE",voice.wakePhrase)] else []
    | none => []
  let maker := if s.voiceMaker.any (·.enabled) then
      [("NAIM_VOICE_MAKER_BASE","http://" ++ voiceMakerInstanceName s.planeName ++ ":18150/v1")] else []
  assignAll [] (listener ++ maker)

def flagText (b : Bool) : String := if b then "true" else "false"

def mountVariables (mounts : List AppModelMountSpec) : StringMap :=
  (mounts.filter (·.envVar ≠ "")).map fun m => (m.envVar,m.mountPath)

def renderEnabledApp (index : ℕ) (app : Json) : Checked (InstanceSpec × DiskSpec) := do
  let marked ← app.value "primary" false
  let primary := marked || decide (index = 0)
  let appName ← app.value "name" (if primary then "primary" else "app-" ++ toString index)
  let name := buildAppInstanceName s.planeName appName primary
  let nodeName ← getOr (resolveLegacyServiceNodeName r s app "app") (resolveAppNodeName r s)
  let image ← app.value "image" ""
  let command ← appCommand app
  let custom ← app.mapAs "env"
  let mounts ← (app.arrayAt "models").mapM (renderAppModelMount s name)
  let ports ← renderPublishedPorts app
  let sizeGb ← extractPrivateDiskSizeGb app 8 "volumes"
  let mountPath ← extractPrivateMountPath app "/naim/private" "volumes"
  throwIf ((app.arrayAt "volumes").length > 1) "desired-state v2 currently supports at most one app volume"
  let spec : InstanceSpec := {
    name, role := .app, planeName := s.planeName, nodeName, image, command
    privateDiskName := name ++ "-private", sharedDiskName := s.planeSharedDiskName
    dependsOn := inferNames.take 1 ++ voiceServices s
    environment := assignAll (insertAll (voiceEnvironment s) custom)
      ([("NAIM_APP_NAME",appName),("NAIM_APP_PRIMARY",flagText primary)] ++ mountVariables mounts)
    appModelMounts := mounts
    labels := ofList [("naim.plane",s.planeName),("naim.role","app"),("naim.node",nodeName),
      ("naim.app_name",appName),("naim.app_primary",flagText primary)]
    publishedPorts := ports, privateDiskSizeGb := sizeGb}
  let spec := if primary then applyExternalAppHostMetadata s "app" spec else spec
  pure (spec,privateDisk .appPrivate spec mountPath)

def renderAppEntry (entry : Json × ℕ) : Checked (Option (InstanceSpec × DiskSpec)) := do
  let enabled ← entry.1.value "enabled" true
  mapOption (if enabled then some entry.1 else none) (renderEnabledApp r s inferNames entry.2)

def renderAppInstance : Checked (List (InstanceSpec × DiskSpec)) := do
  let apps ← r.apps.zipIdx.mapM (renderAppEntry r s inferNames)
  pure (apps.filterMap id)

def renderSkills : Checked (InstanceSpec × DiskSpec) := do
  let name := skillsInstanceName s.planeName
  let nodeName ← getOr (resolveLegacyServiceNodeName r s r.skills "skills") (resolveAppNodeName r s)
  let image ← r.skills.value "image" "naim/skills-runtime:dev"
  let command ← serviceCommand r.skills "/runtime/bin/naim-skillsd"
  let sizeGb ← extractPrivateDiskSizeGb r.skills 1 "volumes"
  let custom ← r.skills.mapAs "env"
  let ports ← renderPublishedPorts r.skills
  let mountPath ← extractPrivateMountPath r.skills "/naim/private" "volumes"
  let environment := ofList [
    ("NAIM_PLANE_NAME",s.planeName),("NAIM_INSTANCE_NAME",name),("NAIM_INSTANCE_ROLE","skills"),
    ("NAIM_NODE_NAME",nodeName),("NAIM_PRIVATE_DISK_PATH","/naim/private"),("NAIM_SKILLS_PORT","18120"),
    ("NAIM_SKILLS_DB_PATH","/naim/private/skills.sqlite"),
    ("NAIM_SKILLS_RUNTIME_STATUS_PATH","/naim/private/skills-runtime-status.json"),
    ("NAIM_CONTROLLER_URL","http://controller.internal:18080"),("NAIM_CONTROL_ROOT",s.controlRoot)]
  let spec := applyExternalAppHostMetadata s "skills-follow-app" {
    name, role := .skills, planeName := s.planeName, nodeName, image, command
    privateDiskName := name ++ "-private"
    sharedDiskName := if instanceNeedsSharedDiskMount .skills then s.planeSharedDiskName else ""
    privateDiskSizeGb := sizeGb, environment := assignAll environment custom
    labels := serviceLabels s.planeName "skills" nodeName
    publishedPorts := portsOr ports (serviceHostPort s.planeName name 24000) 18120}
  pure (spec,privateDisk .skillsPrivate spec mountPath)

def policyText (browsing : Json) : String := dump (browsing.objectAt "policy")

def renderWebGateway : Checked (InstanceSpec × DiskSpec) := do
  let name := webGatewayInstanceName s.planeName
  let nodeName ← getOr (resolveLegacyServiceNodeName r s r.browsing "webgateway") (resolveAppNodeName r s)
  let image ← r.browsing.value "image" "naim/webgateway-runtime:dev"
  let command ← serviceCommand r.browsing "/runtime/bin/naim-webgatewayd"
  let sizeGb ← extractPrivateDiskSizeGb r.browsing 1 "storage"
  let custom ← r.browsing.mapAs "env"
  let ports ← renderPublishedPorts r.browsing
  let mountPath ← extractPrivateMountPath r.browsing "/naim/private" "storage"
  let environment := ofList [
    ("NAIM_PLANE_NAME",s.planeName),("NAIM_INSTANCE_NAME",name),("NAIM_INSTANCE_ROLE","webgateway"),
    ("NAIM_NODE_NAME",nodeName),("NAIM_PRIVATE_DISK_PATH","/naim/private"),("NAIM_WEBGATEWAY_PORT","18130"),
    ("NAIM_WEBGATEWAY_RUNTIME_STATUS_PATH","/naim/private/webgateway-runtime-status.json"),
    ("NAIM_WEBGATEWAY_STATE_ROOT","/naim/private/sessions"),
    ("NAIM_WEBGATEWAY_POLICY_JSON",policyText dump r.browsing),
    ("NAIM_CONTROLLER_URL","http://controller.internal:18080"),("NAIM_CONTROL_ROOT",s.controlRoot)]
  let spec : InstanceSpec := {
    name, role := .browsing, planeName := s.planeName, nodeName, image, command
    privateDiskName := name ++ "-private"
    sharedDiskName := if instanceNeedsSharedDiskMount .browsing then s.planeSharedDiskName else ""
    privateDiskSizeGb := sizeGb, environment := assignAll environment custom
    labels := serviceLabels s.planeName "webgateway" nodeName
    publishedPorts := portsOr ports (serviceHostPort s.planeName name 34000) 18130}
  pure (spec,privateDisk .browsingPrivate spec mountPath)

def whenEnabled {α : Type} (block : Json) (render : Checked α) : Checked (List α) := do
  let enabled ← block.value "enabled" false
  if enabled then do
    let a ← render
    pure [a]
  else pure []

def renderSkillsInstance : Checked (List (InstanceSpec × DiskSpec)) := whenEnabled r.skills (renderSkills r s)

def renderWebGatewayInstance : Checked (List (InstanceSpec × DiskSpec)) :=
  whenEnabled r.browsing (renderWebGateway dump r s)

def renderInteractionSpec : Checked (InstanceSpec × DiskSpec) := do
  let name := interactionInstanceName s.planeName
  let inferName := buildInferInstanceName s.planeName 0
  let nodeName ← resolveInferNodeName r s 0
  let browsing ← r.browsing.value "enabled" false
  let gateway := webGatewayInstanceName s.planeName
  let environment := ofList [
    ("NAIM_PLANE_NAME",s.planeName),("NAIM_INSTANCE_NAME",name),("NAIM_INSTANCE_ROLE","interaction"),
    ("NAIM_NODE_NAME",nodeName),("NAIM_PRIVATE_DISK_PATH","/naim/private"),("NAIM_INTERACTION_PORT","18110"),
    ("NAIM_INTERACTION_RUNTIME_STATUS_PATH","/naim/private/interaction-runtime-status.json"),
    ("NAIM_INTERACTION_UPSTREAM_BASE","http://" ++ inferName ++ ":" ++ toString s.gateway.listenPort ++ "/v1"),
    ("NAIM_CONTROLLER_URL","http://controller.internal:18080"),("NAIM_CONTROL_ROOT",s.controlRoot)]
  let spec : InstanceSpec := {
    name, role := .interaction, planeName := s.planeName, nodeName
    image := (s.interaction.bind (·.image)).getD "naim/interaction-runtime:dev"
    command := "/runtime/bin/naim-interactiond", privateDiskName := name ++ "-private"
    sharedDiskName := if instanceNeedsSharedDiskMount .interaction then s.planeSharedDiskName else ""
    privateDiskSizeGb := 1
    dependsOn := inferName::(if browsing then [gateway] else [])
    environment := if browsing then
        set environment "NAIM_WEBGATEWAY_BASE_URL" ("http://" ++ gateway ++ ":18130/v1/webgateway")
      else environment
    labels := serviceLabels s.planeName "interaction" nodeName
    publishedPorts := [{
      hostIp := "127.0.0.1", hostPort := serviceHostPort s.planeName name 44000, containerPort := 18110}]}
  pure (spec,privateDisk .interactionPrivate spec "/naim/private")

def renderInteractionInstance : Checked (List (InstanceSpec × DiskSpec)) :=
  if s.planeMode = .llm then do
    let interaction ← renderInteractionSpec r s
    pure [interaction]
  else pure []

variable (instances : List InstanceSpec) (resources : Json)

structure VoiceGpuHost where
  (nodeName gpuDevice : String := "")
  allocatedFraction : ℚ := 0
  allocatedMemoryCapMb : Int32 := 0
  firstWorkerName : String := ""
  deriving DecidableEq

def VoiceGpuHost.add (host : VoiceGpuHost) (i : InstanceSpec) : VoiceGpuHost :=
  let host := if host.nodeName = "" then
      {host with nodeName := i.nodeName, gpuDevice := i.gpuDevice.getD "", firstWorkerName := i.name}
    else host
  {host with
    allocatedFraction := host.allocatedFraction + i.gpuFraction
    allocatedMemoryCapMb := host.allocatedMemoryCapMb + i.memoryCapMb.getD 0}

def VoiceGpuHost.before (host best : VoiceGpuHost) : Bool :=
  host.allocatedFraction < best.allocatedFraction ||
  (host.allocatedFraction = best.allocatedFraction && host.allocatedMemoryCapMb < best.allocatedMemoryCapMb) ||
  (host.allocatedFraction = best.allocatedFraction && host.allocatedMemoryCapMb = best.allocatedMemoryCapMb &&
    toLex (host.nodeName,toLex (host.gpuDevice,host.firstWorkerName)) <
      toLex (best.nodeName,toLex (best.gpuDevice,best.firstWorkerName)))

def hasGpu (i : InstanceSpec) : Bool := i.role = .worker && i.gpuDevice.any (· ≠ "")

def selectVoiceGpuHost : Option VoiceGpuHost :=
  let hosts := accumulate (fun i : InstanceSpec => toLex (i.nodeName,i.gpuDevice.getD ""))
    VoiceGpuHost.add {} (instances.filter hasGpu)
  hosts.foldl (fun best entry =>
    if best.all fun best => entry.2.before best then some entry.2 else best) none

def voiceGpuEnabled : Checked Bool :=
  if resources.isEmpty then pure false
  else if resources.contains "gpu_enabled" then resources.value "gpu_enabled" false
  else if resources.contains "enabled" then resources.value "enabled" false
  else pure (["share_mode","gpu_fraction","memory_cap_mb","priority","preemptible"].any resources.contains)

def voiceGpuHost (instances : List InstanceSpec) (fieldName : String) : Checked (Option VoiceGpuHost) := do
  let enabled ← voiceGpuEnabled resources
  let host := if enabled then selectVoiceGpuHost instances else none
  throwIf (enabled && host.isNone)
    ("desired-state v2 resources." ++ fieldName ++ " requires at least one worker with gpu_device")
  pure host

def withVoiceGpu (defaultFraction : ℚ) (defaultPriority : Int32) (host : Option VoiceGpuHost)
    (spec : InstanceSpec) : Checked InstanceSpec :=
  match host with
  | none => pure spec
  | some host => do
    let shareText ← resources.value "share_mode" "shared"
    let shareMode ← parseGpuShareMode shareText
    let gpuFraction ← resources.value "gpu_fraction" defaultFraction
    let priority ← resources.value "priority" defaultPriority
    let preemptible ← resources.value "preemptible" (decide (shareMode = .bestEffort))
    let memoryCapMb ← resources.present "memory_cap_mb"
    pure {spec with
      gpuDevice := some host.gpuDevice, placementMode := .manual
      shareMode, gpuFraction, priority, preemptible, memoryCapMb}

def voiceNodeName (host : Option VoiceGpuHost) : Checked String :=
  match host with
  | some host => pure host.nodeName
  | none => resolveAppNodeName r s

def voiceModelMount (instanceName defaultName defaultMountPath defaultEnv : String)
    (model : AppModelMountSpec) : AppModelMountSpec :=
  let name := orElse model.name defaultName
  let mountPath := orElse model.mountPath defaultMountPath
  {model with
    name, mountPath, envVar := orElse model.envVar defaultEnv
    sourcePaths := if model.sourcePaths = [] ∧ model.sourcePath ≠ "" then [model.sourcePath] else model.sourcePaths
    hostPath := buildAppModelHostPath s.planeName instanceName name mountPath model.sourcePath}

/-- The values in which the two voice services differ. -/
structure VoiceService where
  role : InstanceRole
  kind : DiskKind
  (name image command : String)
  (block resources : Json)
  fieldName : String
  sizeGb : Int32
  gpuFraction : ℚ
  priority : Int32
  mount : AppModelMountSpec
  environment : String → StringMap → StringMap
  label : String
  portBase : ℕ
  containerPort : Int32

def renderVoice (v : VoiceService) : Checked (InstanceSpec × DiskSpec) := do
  let host ← voiceGpuHost v.resources instances v.fieldName
  let nodeName ← voiceNodeName r s host
  let command ← serviceCommand v.block v.command
  let sizeGb ← extractPrivateDiskSizeGb v.block v.sizeGb "storage"
  let base ← withVoiceGpu v.resources v.gpuFraction v.priority host {
    name := v.name, role := v.role, planeName := s.planeName, nodeName, image := v.image, command
    privateDiskName := v.name ++ "-private"
    sharedDiskName := if instanceNeedsSharedDiskMount v.role then s.planeSharedDiskName else ""
    privateDiskSizeGb := sizeGb}
  let custom ← v.block.mapAs "env"
  let ports ← renderPublishedPorts v.block
  let mountPath ← extractPrivateMountPath v.block "/naim/private" "storage"
  let spec := {base with
    environment := set (v.environment nodeName custom) v.mount.envVar v.mount.mountPath
    appModelMounts := [v.mount], labels := serviceLabels s.planeName v.label nodeName
    publishedPorts := portsOr ports (serviceHostPort s.planeName v.name v.portBase) v.containerPort}
  pure (spec,privateDisk v.kind spec mountPath)

def voiceModule (config : VoiceListenerFeatureSpec) : VoiceService where
  role := .voiceModule
  kind := .voiceModulePrivate
  name := voiceModuleInstanceName s.planeName
  image := orElse (config.image.getD "") "naim/voice-module:dev"
  command := "/runtime/bin/naim-voice-moduled"
  block := r.features.objectAt "voice_listener"
  resources := r.voiceModuleResources
  fieldName := "voice_module"
  sizeGb := 1
  gpuFraction := 1/5
  priority := 50
  mount := voiceModelMount s (voiceModuleInstanceName s.planeName) "whisper" "/models/whisper/model.bin"
    "WHISPER_MODEL_PATH" config.model
  environment nodeName := assignAll (ofList [
    ("NAIM_PLANE_NAME",s.planeName),("NAIM_INSTANCE_NAME",voiceModuleInstanceName s.planeName),
    ("NAIM_INSTANCE_ROLE","voice-module"),("NAIM_NODE_NAME",nodeName),("NAIM_PRIVATE_DISK_PATH","/naim/private"),
    ("NAIM_VOICE_MODULE_PORT","18140"),
    ("NAIM_VOICE_MODULE_RUNTIME_STATUS_PATH","/naim/private/voice-module-runtime-status.json"),
    ("NAIM_VOICE_LISTENER_WAKE_PHRASE",config.wakePhrase),("VOICE_LISTENER_WAKE_PHRASE",config.wakePhrase),
    ("VOICE_ASR_LANGUAGE",config.language),("HOST","0.0.0.0"),("PORT","18140"),
    ("NAIM_CONTROLLER_URL","http://controller.internal:18080"),("NAIM_CONTROL_ROOT",s.controlRoot)])
  label := "voice-module"
  portBase := 54000
  containerPort := 18140

/-- Unlike the other services, the maker lets its own variables win over those of the document. -/
def voiceMaker (config : VoiceMakerFeatureSpec) : VoiceService where
  role := .voiceMaker
  kind := .voiceMakerPrivate
  name := voiceMakerInstanceName s.planeName
  image := orElse (config.image.getD "") "naim/voice-maker:dev"
  command := "python3 /runtime/voice-maker/server.py"
  block := r.features.objectAt "voice_maker"
  resources := r.voiceMakerResources
  fieldName := "voice_maker"
  sizeGb := 8
  gpuFraction := 1/4
  priority := 45
  mount := voiceModelMount s (voiceMakerInstanceName s.planeName) "omnivoice" "/models/omnivoice"
    "OMNIVOICE_MODEL_PATH" config.model
  environment nodeName custom := assignAll custom [
    ("NAIM_PLANE_NAME",s.planeName),("NAIM_INSTANCE_NAME",voiceMakerInstanceName s.planeName),
    ("NAIM_INSTANCE_ROLE","voice-maker"),("NAIM_NODE_NAME",nodeName),("NAIM_PRIVATE_DISK_PATH","/naim/private"),
    ("NAIM_VOICE_MAKER_PORT","18150"),
    ("NAIM_VOICE_MAKER_RUNTIME_STATUS_PATH","/naim/private/voice-maker-runtime-status.json"),
    ("OMNIVOICE_LANGUAGE",config.language),("OMNIVOICE_VOICE_MODE",config.voiceMode),
    ("OMNIVOICE_INSTRUCT",config.instruct),("OMNIVOICE_OUTPUT_FORMAT",config.outputFormat),("HOST","0.0.0.0"),
    ("PORT","18150"),("NAIM_CONTROLLER_URL","http://controller.internal:18080"),
    ("NAIM_CONTROL_ROOT",s.controlRoot)]
  label := "voice-maker"
  portBase := 55000
  containerPort := 18150

def renderVoiceModuleInstance : Checked (List (InstanceSpec × DiskSpec)) :=
  Option.toList <$> mapOption (s.voiceListener.filter (·.enabled)) fun config =>
    renderVoice r s instances (voiceModule r s config)

def renderVoiceMakerInstance : Checked (List (InstanceSpec × DiskSpec)) :=
  Option.toList <$> mapOption (s.voiceMaker.filter (·.enabled)) fun config =>
    renderVoice r s instances (voiceMaker r s config)

def renderState : Checked DesiredState := do
  let settings ← renderSettings r
  let s ← renderWorkerGroup r settings
  let sharedDisks ← renderSharedDisk r s
  let infers ← renderInferInstance r s
  let inferDisks ← inferDisks r infers
  let inferNames := infers.map (·.name)
  let workers ← renderWorkerInstances r s inferNames
  let apps ← renderAppInstance r s inferNames
  let skills ← renderSkillsInstance r s
  let gateways ← renderWebGatewayInstance dump r s
  let interactions ← renderInteractionInstance r s
  let services := apps ++ skills ++ gateways ++ interactions
  let instances := infers ++ workers.map (·.spec) ++ services.map Prod.fst
  let modules ← renderVoiceModuleInstance r s instances
  let makers ← renderVoiceMakerInstance r s (instances ++ modules.map Prod.fst)
  pure {s with
    workerGroup := {s.workerGroup with members := workers.filterMap (·.member)}
    instances := instances ++ (modules ++ makers).map Prod.fst
    disks := sharedDisks ++ inferDisks ++ workers.map (·.disk) ++ (services ++ modules ++ makers).map Prod.snd}

def render (doc : Json) : Checked DesiredState := do
  Validator.validateOrThrow doc
  let r ← sections doc
  renderState dump r

end Naim.Renderer
