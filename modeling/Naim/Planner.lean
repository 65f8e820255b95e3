import Naim.SchedulerExecution
import Naim.Text
import Naim.WorkerGroupTopology

/-!
# Compose plans

`BuildNodeComposePlans`: what a host runs for each node of a desired state. The
plan of a node reads a few settings of the plane and the disks and instances of
that node, so a slice of the state has the same plan.
-/

namespace Naim.Planner

open Checked List SchedulerExecution Text

variable (internalHost : Option String) (s : DesiredState) (nodeName : String) (nodeInstances : List InstanceSpec)
  (i : InstanceSpec)

structure ComposeVolume where
  (source target : String)
  readOnly : Bool := false
  deriving DecidableEq

structure ComposeService where
  (name image command : String := "")
  dependsOn : List String := []
  (environment labels : StringMap := [])
  volumes : List ComposeVolume := []
  publishedPorts : List PublishedPort := []
  (extraHosts securityOpts : List String := [])
  (privileged useNvidiaRuntime : Bool := false)
  gpuDevice : Option String := none
  gpuDevices : List String := []
  shmSize : Option String := none
  healthcheck : String := ""
  deriving DecidableEq

structure NodeComposePlan where
  (planeName nodeName : String := "")
  disks : List DiskSpec := []
  services : List ComposeService := []
  deriving DecidableEq

def usesLlamaRpcRuntime : Bool :=
  s.inference.runtimeEngine = "llama.cpp" && s.inference.distributedBackend = "llama_rpc"

def referencedModelPath : Option String :=
  s.bootstrapModel.bind fun model =>
    if model.materializationMode = "reference" then model.localPath else none

def buildDirectModelCacheVolume : Option ComposeVolume :=
  if !usesLlamaRpcRuntime s || i.role = .browsing then none
  else (referencedModelPath s).bind fun localPath =>
    if localPath.toList.head? = some '/' then some {source := localPath, target := localPath, readOnly := true}
    else none

/-- `internalHost` is the variable `NAIM_CONTROLLER_INTERNAL_HOST` of the process. -/
def defaultComposeExtraHosts : List String :=
  let host := internalHost.getD ""
  ["host.docker.internal:host-gateway",
    if host ≠ "" then "controller.internal:" ++ host else "controller.internal:host-gateway"]

def intEnvValue (environment : StringMap) (key : String) : Checked (Option Int32) :=
  match environment.lookup key with
  | none => .ok none
  | some text => if text = "" then .ok none else some <$> stoi text

def inferApiPort : Checked Int32 :=
  (·.getD s.inference.apiPort) <$> intEnvValue i.environment "NAIM_INFERENCE_PORT"

def inferGatewayPort : Checked Int32 :=
  (·.getD s.gateway.listenPort) <$> intEnvValue i.environment "NAIM_GATEWAY_PORT"

def workerRpcPort : Option WorkerGroupMemberSpec → Int32
  | some member => if 0 < member.rpcPort then member.rpcPort else 50052
  | none => 50052

def managedLlamaRpcWorkerPort (member : Option WorkerGroupMemberSpec) : Int32 :=
  if usesLlamaRpcRuntime s && i.role = .worker then stableLlamaRpcWorkerPort s.planeName i.name
  else workerRpcPort member

def isManagedInferPublishedPort (port : PublishedPort) : Checked Bool :=
  if i.role ≠ .infer || port.hostPort ≠ port.containerPort then .ok false
  else do
    let apiPort ← inferApiPort s i
    let gatewayPort ← inferGatewayPort s i
    pure (port.hostPort = apiPort || port.hostPort = gatewayPort || port.hostPort = s.inference.apiPort ||
      port.hostPort = s.gateway.listenPort)

def isManagedLlamaRpcWorkerPublishedPort (member : Option WorkerGroupMemberSpec) (port : PublishedPort) : Bool :=
  if !usesLlamaRpcRuntime s || i.role ≠ .worker || port.hostPort ≠ port.containerPort then false
  else port.hostPort = managedLlamaRpcWorkerPort s i member || port.hostPort = 50052

def appendUniquePublishedPort (ports : List PublishedPort) (port : PublishedPort) : List PublishedPort :=
  if port ∈ ports then ports else ports ++ [port]

def findWorkerGroupMember (instanceName : String) : Option WorkerGroupMemberSpec :=
  s.workerGroup.members.find? (·.name = instanceName)

def workerPorts : List PublishedPort :=
  if usesLlamaRpcRuntime s && i.role = .worker then
    let port := managedLlamaRpcWorkerPort s i (findWorkerGroupMember s i.name)
    [{hostIp := "0.0.0.0", hostPort := port, containerPort := port}]
  else []

def appendOwnPorts (ports : List PublishedPort) : Checked (List PublishedPort) :=
  let member := if i.role = .worker then findWorkerGroupMember s i.name else none
  i.publishedPorts.foldlM (fun ports port => do
    let managed ← isManagedInferPublishedPort s i port
    pure (if managed || isManagedLlamaRpcWorkerPublishedPort s i member port then ports
      else appendUniquePublishedPort ports port)) ports

def appendInferPorts (ports : List PublishedPort) : Checked (List PublishedPort) :=
  if i.role = .infer then do
    let apiPort ← inferApiPort s i
    let gatewayPort ← inferGatewayPort s i
    pure ([apiPort,gatewayPort].foldl (fun ports port =>
      appendUniquePublishedPort ports {hostIp := "127.0.0.1", hostPort := port, containerPort := port}) ports)
  else pure ports

def servicePorts : Checked (List PublishedPort) := do
  let ports ← appendOwnPorts s i (workerPorts s i)
  appendInferPorts s i ports

def localWorkerGpuDevices : List String :=
  nodeInstances.foldl (fun devices candidate =>
    match candidate.gpuDevice with
    | some device =>
      if candidate.role ≠ .worker ∨ device = "" ∨ device ∈ devices then devices else devices ++ [device]
    | none => devices) []

def serviceGpuDevices : List String :=
  if usesLlamaRpcRuntime s && i.role = .infer then localWorkerGpuDevices nodeInstances else []

/-- An infer instance without a device of its own takes one of a worker beside it. -/
def serviceGpuDevice : Option String :=
  if i.role ≠ .infer then i.gpuDevice
  else if usesLlamaRpcRuntime s then i.gpuDevice.or (localWorkerGpuDevices nodeInstances).head?
  else i.gpuDevice.or ((nodeInstances.find? fun candidate =>
    candidate.role = .worker && candidate.gpuDevice.isSome).bind (·.gpuDevice))

def planeEnvironment : StringMap :=
  let environment := Assoc.set i.environment "NAIM_PLANE_NAME" s.planeName
  let environment := Assoc.set environment "NAIM_PLANE_PROTECTED" (if s.protectedPlane then "1" else "0")
  if usesLlamaRpcRuntime s && i.role = .worker then
    let port := toString (managedLlamaRpcWorkerPort s i (findWorkerGroupMember s i.name))
    let environment := Assoc.set environment "NAIM_WORKER_RPC_PORT" port
    let environment := Assoc.set environment "NAIM_WORKER_RPC_HOST" "0.0.0.0"
    Assoc.set environment "NAIM_WORKER_RPC_ENDPOINT" (i.name ++ ":" ++ port)
  else environment

def serviceEnvironment : StringMap :=
  let environment := planeEnvironment s i
  let devices := serviceGpuDevices s nodeInstances i
  match serviceGpuDevice s nodeInstances i with
  | some device =>
    let environment := Assoc.set environment "NAIM_GPU_DEVICE" device
    let environment := Assoc.set environment "NVIDIA_DRIVER_CAPABILITIES" "compute,utility"
    Assoc.set environment "NVIDIA_VISIBLE_DEVICES" (if devices = [] then device else ",".intercalate devices)
  | none =>
    if usesLlamaRpcRuntime s && i.role = .infer then
      Assoc.set (Assoc.set environment "NVIDIA_VISIBLE_DEVICES" "none")
        "NVIDIA_DRIVER_CAPABILITIES" "compute,utility"
    else environment

def useNvidiaRuntime : Bool :=
  (serviceGpuDevice s nodeInstances i).isSome || usesLlamaRpcRuntime s && i.role = .infer

def serviceSecurityOpts : List String :=
  (if i.role = .browsing then ["no-new-privileges:true","apparmor=unconfined","seccomp=unconfined"] else []) ++
    if useNvidiaRuntime s nodeInstances i then ["apparmor=unconfined"] else []

def serviceHealthcheck : InstanceRole → String
  | .infer => "CMD-SHELL /runtime/infer/inferctl.sh probe-url " ++
      "http://127.0.0.1:$$\x7bNAIM_GATEWAY_PORT:-80\x7d/health || " ++
      "/runtime/infer/inferctl.sh probe-url " ++
      "http://127.0.0.1:$$\x7bNAIM_INFERENCE_PORT:-8000\x7d/health"
  | .app => "CMD-SHELL curl -fsS http://127.0.0.1:$$\x7bPORT:-8080\x7d/health >/dev/null"
  | .voiceModule =>
    "CMD-SHELL curl -fsS http://127.0.0.1:$$\x7bNAIM_VOICE_MODULE_PORT:-18140\x7d/health >/dev/null"
  | .voiceMaker =>
    "CMD-SHELL curl -fsS http://127.0.0.1:$$\x7bNAIM_VOICE_MAKER_PORT:-18150\x7d/health >/dev/null"
  | _ => "CMD-SHELL test -f /tmp/naim-ready"

def findDiskByName (disks : List DiskSpec) (nodeName diskName : String) : Checked DiskSpec :=
  match disks.find? fun disk => disk.name = diskName && disk.nodeName = nodeName with
  | some disk => .ok disk
  | none => Checked.fail ("missing disk '" ++ diskName ++ "' for node '" ++ nodeName ++ "'")

def diskVolumes (disks : List DiskSpec) (nodeName diskName : String) : Checked (List ComposeVolume) :=
  if diskName = "" then .ok []
  else do
    let disk ← findDiskByName disks nodeName diskName
    pure [{source := disk.hostPath, target := disk.containerPath}]

def mountVolumes : List ComposeVolume :=
  (i.appModelMounts.filter fun mount => mount.hostPath ≠ "" && mount.mountPath ≠ "").map fun mount =>
    {source := mount.hostPath, target := mount.mountPath, readOnly := true}

def buildComposeService (disks : List DiskSpec)
    (nodeInstances : List InstanceSpec) (s : DesiredState) : Checked ComposeService := do
  let publishedPorts ← servicePorts s i
  let sharedVolumes ← diskVolumes disks i.nodeName i.sharedDiskName
  let privateVolumes ← diskVolumes disks i.nodeName i.privateDiskName
  pure {
    name := i.name, image := i.image, command := i.command
    dependsOn := i.dependsOn.filter fun dependency => nodeInstances.any (·.name = dependency)
    environment := serviceEnvironment s nodeInstances i, labels := i.labels
    volumes := sharedVolumes ++ privateVolumes ++ (buildDirectModelCacheVolume s i).toList ++ mountVolumes i
    publishedPorts, extraHosts := defaultComposeExtraHosts internalHost
    securityOpts := serviceSecurityOpts s nodeInstances i, privileged := i.role = .browsing
    useNvidiaRuntime := useNvidiaRuntime s nodeInstances i, gpuDevice := serviceGpuDevice s nodeInstances i
    gpuDevices := serviceGpuDevices s nodeInstances i, healthcheck := serviceHealthcheck i.role}

def instancesOn : List InstanceSpec := s.instances.filter (·.nodeName = nodeName)

def disksOn : List DiskSpec := s.disks.filter (·.nodeName = nodeName)

def buildNodeComposePlan : Checked NodeComposePlan := do
  let services ← (instancesOn s nodeName).mapM fun i =>
    buildComposeService internalHost i s.disks (instancesOn s nodeName) s
  pure {planeName := s.planeName, nodeName, disks := disksOn s nodeName, services}

def buildNodeComposePlans : Checked (List NodeComposePlan) :=
  s.nodes.mapM fun node => buildNodeComposePlan internalHost s node.name

def findNodeComposePlan : Checked (Option NodeComposePlan) :=
  (·.find? (·.nodeName = nodeName)) <$> buildNodeComposePlans internalHost s

/-- The two states agree on everything that the plan of a node reads. -/
structure AgreeOn (nodeName : String) (s s' : DesiredState) : Prop where
  planeName : s'.planeName = s.planeName
  protectedPlane : s'.protectedPlane = s.protectedPlane
  llamaRpc : usesLlamaRpcRuntime s' = usesLlamaRpcRuntime s
  apiPort : s'.inference.apiPort = s.inference.apiPort
  listenPort : s'.gateway.listenPort = s.gateway.listenPort
  model : referencedModelPath s' = referencedModelPath s
  disks : disksOn s' nodeName = disksOn s nodeName
  instances : instancesOn s' nodeName = instancesOn s nodeName

variable {nodeName : String} {s s' s'' t : DesiredState}

lemma AgreeOn.trans (h : AgreeOn nodeName s s') (h' : AgreeOn nodeName s' s'') :
    AgreeOn nodeName s s'' where
  planeName := h'.planeName.trans h.planeName
  protectedPlane := h'.protectedPlane.trans h.protectedPlane
  llamaRpc := h'.llamaRpc.trans h.llamaRpc
  apiPort := h'.apiPort.trans h.apiPort
  listenPort := h'.listenPort.trans h.listenPort
  model := h'.model.trans h.model
  disks := h'.disks.trans h.disks
  instances := h'.instances.trans h.instances

section Agreement

variable (h : AgreeOn nodeName s s')

include h

/-- A worker of the rpc runtime has its stable port; no other instance asks for a managed one. -/
lemma AgreeOn.workerPorts : workerPorts s' i = workerPorts s i := by
  unfold Planner.workerPorts managedLlamaRpcWorkerPort
  rw [h.llamaRpc,h.planeName]
  by_cases hrpc : usesLlamaRpcRuntime s && i.role = .worker <;> simp [hrpc]

lemma AgreeOn.isManagedInferPublishedPort (port : PublishedPort) :
    isManagedInferPublishedPort s' i port = isManagedInferPublishedPort s i port := by
  simp only [Planner.isManagedInferPublishedPort,inferApiPort,inferGatewayPort,h.apiPort,h.listenPort]

lemma AgreeOn.isManagedLlamaRpcWorkerPublishedPort (member member' : Option WorkerGroupMemberSpec)
    (port : PublishedPort) :
    isManagedLlamaRpcWorkerPublishedPort s' i member' port =
      isManagedLlamaRpcWorkerPublishedPort s i member port := by
  unfold Planner.isManagedLlamaRpcWorkerPublishedPort managedLlamaRpcWorkerPort
  rw [h.llamaRpc,h.planeName]
  by_cases hrpc : usesLlamaRpcRuntime s = true
  · by_cases hrole : i.role = .worker <;> simp [hrpc,hrole]
  · simp [hrpc]

lemma AgreeOn.servicePorts : servicePorts s' i = servicePorts s i := by
  have hmember := fun port => h.isManagedLlamaRpcWorkerPublishedPort i
    (if i.role = .worker then findWorkerGroupMember s i.name else none)
    (if i.role = .worker then findWorkerGroupMember s' i.name else none) port
  simp only [Planner.servicePorts,appendOwnPorts,appendInferPorts,h.workerPorts,h.isManagedInferPublishedPort,
    hmember,inferApiPort,inferGatewayPort,h.apiPort,h.listenPort]

lemma AgreeOn.planeEnvironment : planeEnvironment s' i = planeEnvironment s i := by
  unfold Planner.planeEnvironment managedLlamaRpcWorkerPort
  rw [h.llamaRpc,h.planeName,h.protectedPlane]
  by_cases hrpc : usesLlamaRpcRuntime s && i.role = .worker <;> simp [hrpc]

lemma AgreeOn.serviceGpuDevices : serviceGpuDevices s' nodeInstances i = serviceGpuDevices s nodeInstances i := by
  unfold Planner.serviceGpuDevices
  rw [h.llamaRpc]

lemma AgreeOn.serviceGpuDevice : serviceGpuDevice s' nodeInstances i = serviceGpuDevice s nodeInstances i := by
  unfold Planner.serviceGpuDevice
  rw [h.llamaRpc]

lemma AgreeOn.useNvidiaRuntime : useNvidiaRuntime s' nodeInstances i = useNvidiaRuntime s nodeInstances i := by
  unfold Planner.useNvidiaRuntime
  rw [h.serviceGpuDevice,h.llamaRpc]

lemma AgreeOn.serviceSecurityOpts :
    serviceSecurityOpts s' nodeInstances i = serviceSecurityOpts s nodeInstances i := by
  unfold Planner.serviceSecurityOpts
  rw [h.useNvidiaRuntime]

lemma AgreeOn.serviceEnvironment : serviceEnvironment s' nodeInstances i = serviceEnvironment s nodeInstances i := by
  unfold Planner.serviceEnvironment
  rw [h.serviceGpuDevice,h.serviceGpuDevices,h.planeEnvironment,h.llamaRpc]

lemma AgreeOn.diskVolumes (diskName : String) :
    diskVolumes s'.disks nodeName diskName = diskVolumes s.disks nodeName diskName := by
  have hfind : ∀ s : DesiredState, (s.disks.find? fun d => d.name = diskName && d.nodeName = nodeName) =
      (disksOn s nodeName).find? fun d => d.name = diskName := by
    intro s
    rw [disksOn,List.find?_filter]
    congr 1
    funext d
    simp [and_comm]
  unfold Planner.diskVolumes findDiskByName
  rw [hfind,hfind,h.disks]

lemma AgreeOn.buildComposeService (hi : i.nodeName = nodeName) :
    buildComposeService internalHost i s'.disks nodeInstances s' =
      buildComposeService internalHost i s.disks nodeInstances s := by
  subst hi
  have hcache : buildDirectModelCacheVolume s' i = buildDirectModelCacheVolume s i := by
    unfold buildDirectModelCacheVolume
    rw [h.llamaRpc,h.model]
  unfold Planner.buildComposeService
  rw [h.servicePorts,h.diskVolumes,h.diskVolumes,h.serviceEnvironment,h.serviceSecurityOpts,h.useNvidiaRuntime,
    h.serviceGpuDevice,h.serviceGpuDevices,hcache]

lemma AgreeOn.buildNodeComposePlan :
    buildNodeComposePlan internalHost s' nodeName = buildNodeComposePlan internalHost s nodeName := by
  have hservices : ∀ i ∈ instancesOn s nodeName,
      Planner.buildComposeService internalHost i s'.disks (instancesOn s nodeName) s' =
        Planner.buildComposeService internalHost i s.disks (instancesOn s nodeName) s := by
    intro i hi
    exact h.buildComposeService internalHost _ i (by simpa using (mem_filter.1 hi).2)
  unfold Planner.buildNodeComposePlan
  rw [h.instances,h.disks,h.planeName,mapM_congr hservices]

end Agreement

section Finding

variable {internalHost : Option String} {p : NodeComposePlan}

lemma buildNodeComposePlan_nodeName (h : buildNodeComposePlan internalHost s nodeName = .ok p) :
    p.nodeName = nodeName := by
  obtain ⟨services,-,hp⟩ := bind_eq_ok.1 h
  rw [pure_eq_ok] at hp
  rw [← hp]

lemma buildNodeComposePlan_of_find (h : findNodeComposePlan internalHost s nodeName = .ok (some p)) :
    buildNodeComposePlan internalHost s nodeName = .ok p := by
  obtain ⟨plans,hplans,hfind⟩ := map_eq_ok.1 h
  have hname : p.nodeName = nodeName := by simpa using List.find?_some hfind
  obtain ⟨node,-,hp⟩ := mapM_mem_right hplans (mem_of_find?_eq_some hfind)
  rwa [← buildNodeComposePlan_nodeName hp,hname] at hp

lemma findNodeComposePlan_of_forall (hne : s.nodes ≠ []) (hall : ∀ node ∈ s.nodes, node.name = nodeName)
    (h : buildNodeComposePlan internalHost s nodeName = .ok p) :
    findNodeComposePlan internalHost s nodeName = .ok (some p) := by
  have hplans : buildNodeComposePlans internalHost s = .ok (s.nodes.map fun _ => p) := by
    refine mapM_eq_ok.2 (forall₂_map_right_iff.2 (forall₂_same.2 fun node hnode => ?_))
    rw [hall node hnode,h]
  obtain ⟨node,nodes,hnodes⟩ := exists_cons_of_ne_nil hne
  simp [findNodeComposePlan,hplans,hnodes,buildNodeComposePlan_nodeName h]

end Finding

def nodeSlice (s : DesiredState) (nodeName : String) : DesiredState :=
  {s with
    knowledge := none, voiceListener := none, voiceMaker := none, nodes := s.nodes.filter (·.name = nodeName)
    disks := disksOn s nodeName, instances := instancesOn s nodeName}

lemma sliceDesiredStateForNode_eq_ok :
    sliceDesiredStateForNode s nodeName = .ok t ↔ t = nodeSlice s nodeName ∧ t.nodes ≠ [] := by
  unfold sliceDesiredStateForNode
  by_cases hnodes : (s.nodes.filter (·.name = nodeName)) = []
  · simp only [hnodes,if_true,fail_ne_ok,false_iff]
    rintro ⟨rfl,hne⟩
    exact hne hnodes
  · simp only [hnodes,if_false,Except.ok.injEq]
    constructor
    · rintro rfl
      exact ⟨rfl,hnodes⟩
    · rintro ⟨rfl,-⟩
      rfl

lemma nodeSlice_agreeOn (s : DesiredState) (nodeName : String) : AgreeOn nodeName s (nodeSlice s nodeName) where
  planeName := rfl
  protectedPlane := rfl
  llamaRpc := rfl
  apiPort := rfl
  listenPort := rfl
  model := rfl
  disks := by simp [nodeSlice,disksOn]
  instances := by simp [nodeSlice,instancesOn]

lemma nodeSlice_nodes_name (s : DesiredState) (nodeName : String) :
    ∀ node ∈ (nodeSlice s nodeName).nodes, node.name = nodeName := by
  intro node hnode
  simpa using (mem_filter.1 hnode).2

section Found

variable {internalHost : Option String} {p : NodeComposePlan}
  (h : findNodeComposePlan internalHost s nodeName = .ok (some p))

include h

lemma nodeSlice_nodes_ne_nil : (nodeSlice s nodeName).nodes ≠ [] := by
  obtain ⟨plans,hplans,hfind⟩ := map_eq_ok.1 h
  have hname : p.nodeName = nodeName := by simpa using List.find?_some hfind
  obtain ⟨node,hnode,hp⟩ := mapM_mem_right hplans (mem_of_find?_eq_some hfind)
  have hmem : node ∈ (nodeSlice s nodeName).nodes :=
    mem_filter.2 ⟨hnode,by simp [← hname,buildNodeComposePlan_nodeName hp]⟩
  exact ne_nil_of_mem hmem

theorem findNodeComposePlan_slice :
    findNodeComposePlan internalHost (nodeSlice s nodeName) nodeName = .ok (some p) := by
  refine findNodeComposePlan_of_forall (nodeSlice_nodes_ne_nil h) (nodeSlice_nodes_name s nodeName) ?_
  rw [(nodeSlice_agreeOn s nodeName).buildNodeComposePlan]
  exact buildNodeComposePlan_of_find h

end Found
end Naim.Planner
