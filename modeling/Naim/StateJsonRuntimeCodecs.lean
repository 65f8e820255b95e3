import Naim.Json
import Naim.Models

/-!
# Nodes, disks and instances as JSON

`StateJsonRuntimeCodecs`: what is written of the parts of a desired state that
run somewhere, and how they are read back. Reading gives back what was written,
except that the devices of a node are those with a memory size.
-/

namespace Naim

def DiskKind.text : DiskKind → String
  | .planeShared => "plane-shared"
  | .inferPrivate => "infer-private"
  | .workerPrivate => "worker-private"
  | .appPrivate => "app-private"
  | .skillsPrivate => "skills-private"
  | .browsingPrivate => "webgateway-private"
  | .interactionPrivate => "interaction-private"
  | .voiceModulePrivate => "voice-module-private"
  | .voiceMakerPrivate => "voice-maker-private"

def InstanceRole.text : InstanceRole → String
  | .infer => "infer"
  | .worker => "worker"
  | .app => "app"
  | .skills => "skills"
  | .browsing => "webgateway"
  | .interaction => "interaction"
  | .voiceModule => "voice-module"
  | .voiceMaker => "voice-maker"

namespace StateJsonRuntimeCodecs

open Checked Json

def parseDiskKind (value : String) : Checked DiskKind :=
  if value = "plane-shared" then .ok .planeShared
  else if value = "infer-private" then .ok .inferPrivate
  else if value = "worker-private" then .ok .workerPrivate
  else if value = "app-private" then .ok .appPrivate
  else if value = "skills-private" then .ok .skillsPrivate
  else if value = "browsing-private" then .ok .browsingPrivate
  else if value = "webgateway-private" then .ok .browsingPrivate
  else if value = "interaction-private" then .ok .interactionPrivate
  else if value = "voice-module-private" then .ok .voiceModulePrivate
  else if value = "voice-maker-private" then .ok .voiceMakerPrivate
  else Checked.fail ("unknown disk kind '" ++ value ++ "'")

def parseInstanceRole (value : String) : Checked InstanceRole :=
  if value = "infer" then .ok .infer
  else if value = "worker" then .ok .worker
  else if value = "app" then .ok .app
  else if value = "skills" then .ok .skills
  else if value = "browsing" then .ok .browsing
  else if value = "webgateway" then .ok .browsing
  else if value = "interaction" then .ok .interaction
  else if value = "voice-module" then .ok .voiceModule
  else if value = "voice-maker" then .ok .voiceMaker
  else Checked.fail ("unknown instance role '" ++ value ++ "'")

@[simp] lemma parseDiskKind_text (kind : DiskKind) : parseDiskKind kind.text = .ok kind := by cases kind <;> rfl

@[simp] lemma parseInstanceRole_text (role : InstanceRole) : parseInstanceRole role.text = .ok role := by
  cases role <;> rfl

def publishedPortToJson (port : PublishedPort) : Json :=
  ofFields [
    field "host_ip" (some port.hostIp),field "host_port" (some port.hostPort),
    field "container_port" (some port.containerPort)]

variable (j : Json)

def publishedPortFromJson : Checked PublishedPort := do
  let dflt : PublishedPort := {}
  let hostIp ← j.value "host_ip" dflt.hostIp
  let hostPort ← j.value "host_port" dflt.hostPort
  let containerPort ← j.value "container_port" dflt.containerPort
  pure {hostIp, hostPort, containerPort}

def appModelMountToJson (mount : AppModelMountSpec) : Json :=
  ofFields [
    field "name" (some mount.name),field "source_path" (some mount.sourcePath),
    field "source_node_name" (some mount.sourceNodeName),field "source_paths" (some mount.sourcePaths),
    field "host_path" (some mount.hostPath),field "mount_path" (some mount.mountPath),
    field "env_var" (some mount.envVar),field "required" (some mount.required)]

def appModelMountFromJson : Checked AppModelMountSpec := do
  let name ← j.value "name" ""
  let sourcePath ← j.value "source_path" ""
  let sourceNodeName ← j.value "source_node_name" ""
  let sourcePaths ← j.value "source_paths" []
  let hostPath ← j.value "host_path" ""
  let mountPath ← j.value "mount_path" ""
  let envVar ← j.value "env_var" ""
  let required ← j.value "required" true
  pure {
    name, sourcePath, sourceNodeName, sourcePaths, hostPath, mountPath, envVar, required}

@[simp] lemma publishedPortFromJson_toJson (port : PublishedPort) :
    publishedPortFromJson (publishedPortToJson port) = .ok port := by
  simp [publishedPortFromJson,publishedPortToJson]

@[simp] lemma appModelMountFromJson_toJson (mount : AppModelMountSpec) :
    appModelMountFromJson (appModelMountToJson mount) = .ok mount := by
  simp [appModelMountFromJson,appModelMountToJson]

def objectsFromJson {α : Type} (read : Json → Checked α) (items : List Json) : Checked (List α) :=
  (items.filter isObject).mapM read

lemma objectsFromJson_map {α : Type} {read : Json → Checked α} {write : α → Json}
    (hread : ∀ a, read (write a) = .ok a) (hobject : ∀ a, (write a).isObject = true) (items : List α) :
    objectsFromJson read (items.map write) = .ok items := by
  induction items with
  | nil => rfl
  | cons a items ih =>
    have hcons : objectsFromJson read ((a::items).map write) =
        read (write a) >>= fun b => (b::·) <$> objectsFromJson read (items.map write) := by
      simp [objectsFromJson,hobject]
    rw [hcons,hread,ih]
    rfl

def nodeInventoryToJson (node : NodeInventory) : Json :=
  ofFields [
    field "name" (some node.name),field "platform" (some node.platform),
    field "execution_mode" (some node.executionMode.text),field "gpu_memory_mb" (some node.gpuMemoryMb)]

def nodeInventoryFromJson : Checked NodeInventory := do
  let name ← j.atAs "name"
  let platform ← j.atAs "platform"
  let executionMode ← j.value "execution_mode" "mixed" >>= parseHostExecutionMode
  let gpuDevices ← j.value "gpu_devices" []
  let gpuMemoryMb : List (String × Int32) ← j.value "gpu_memory_mb" []
  pure {
    name, platform, executionMode
    gpuDevices := if gpuDevices = [] then gpuMemoryMb.map Prod.fst else gpuDevices
    gpuMemoryMb}

def diskSpecToJson (disk : DiskSpec) : Json :=
  ofFields [
    field "name" (some disk.name),field "kind" (some disk.kind.text),field "plane_name" (some disk.planeName),
    field "owner_name" (some disk.ownerName),field "node_name" (some disk.nodeName),
    field "host_path" (some disk.hostPath),field "container_path" (some disk.containerPath),
    field "size_gb" (some disk.sizeGb)]

def diskSpecFromJson : Checked DiskSpec := do
  let name ← j.atAs "name"
  let kind ← j.atAs "kind" >>= parseDiskKind
  let planeName ← j.atAs "plane_name"
  let ownerName ← j.atAs "owner_name"
  let nodeName ← j.atAs "node_name"
  let hostPath ← j.atAs "host_path"
  let containerPath ← j.atAs "container_path"
  let sizeGb ← j.atAs "size_gb"
  pure {
    name, kind, planeName, ownerName, nodeName, hostPath, containerPath, sizeGb}

@[simp] lemma diskSpecFromJson_toJson (disk : DiskSpec) :
    diskSpecFromJson (diskSpecToJson disk) = .ok disk := by simp [diskSpecFromJson,diskSpecToJson]

def runtimeGpuNodeToJson (gpuNode : RuntimeGpuNode) : Json :=
  ofFields [
    field "name" (some gpuNode.name),field "node_name" (some gpuNode.nodeName),
    field "gpu_device" (some gpuNode.gpuDevice),field "placement_mode" (some gpuNode.placementMode.text),
    field "share_mode" (some gpuNode.shareMode.text),field "gpu_fraction" (some gpuNode.gpuFraction),
    field "priority" (some gpuNode.priority),field "preemptible" (some gpuNode.preemptible),
    field "enabled" (some gpuNode.enabled),field "memory_cap_mb" gpuNode.memoryCapMb]

def runtimeGpuNodeFromJson : Checked RuntimeGpuNode := do
  let name ← j.atAs "name"
  let nodeName ← j.atAs "node_name"
  let gpuDevice ← j.value "gpu_device" ""
  let placementMode ← j.value "placement_mode" "manual" >>= parsePlacementMode
  let shareMode ← j.value "share_mode" "exclusive" >>= parseGpuShareMode
  let gpuFraction ← j.value "gpu_fraction" 0
  let priority ← j.value "priority" 100
  let preemptible ← j.value "preemptible" false
  let memoryCapMb ← j.optional "memory_cap_mb"
  let enabled ← j.value "enabled" true
  pure {
    name, nodeName, gpuDevice, placementMode, shareMode, gpuFraction, priority, preemptible, memoryCapMb, enabled}

@[simp] lemma runtimeGpuNodeFromJson_toJson (gpuNode : RuntimeGpuNode) :
    runtimeGpuNodeFromJson (runtimeGpuNodeToJson gpuNode) = .ok gpuNode := by
  simp [runtimeGpuNodeFromJson,runtimeGpuNodeToJson,Json.optional]

def workerGroupMemberToJson (member : WorkerGroupMemberSpec) : Json :=
  ofFields [
    field "name" (some member.name),field "infer_instance_name" (some member.inferInstanceName),
    field "node_name" (some member.nodeName),field "gpu_device" (some member.gpuDevice),
    field "rank" (some member.rank),field "replica_group_id" (some member.replicaGroupId),
    field "replica_index" (some member.replicaIndex),field "replica_size" (some member.replicaSize),
    field "replica_leader" (some member.replicaLeader),
    field "data_parallel_rank" (some member.dataParallelRank),
    field "data_parallel_size" (some member.dataParallelSize),
    field "data_parallel_size_local" (some member.dataParallelSizeLocal),
    field "data_parallel_start_rank" (some member.dataParallelStartRank),
    field "data_parallel_api_endpoint" (some member.dataParallelApiEndpoint),
    field "data_parallel_head_address" (some member.dataParallelHeadAddress),
    field "data_parallel_rpc_port" (some member.dataParallelRpcPort),field "rpc_port" (some member.rpcPort),
    field "gpu_fraction" (some member.gpuFraction),field "share_mode" (some member.shareMode.text),
    field "priority" (some member.priority),field "preemptible" (some member.preemptible),
    field "enabled" (some member.enabled),field "leader" (some member.leader),
    field "memory_cap_mb" member.memoryCapMb]

def workerGroupMemberFromJson : Checked WorkerGroupMemberSpec := do
  let name ← j.atAs "name"
  let inferInstanceName ← j.value "infer_instance_name" ""
  let nodeName ← j.atAs "node_name"
  let gpuDevice ← j.value "gpu_device" ""
  let rank ← j.value "rank" 0
  let replicaGroupId ← j.value "replica_group_id" ""
  let replicaIndex ← j.value "replica_index" 0
  let replicaSize ← j.value "replica_size" 1
  let leader ← j.value "leader" false
  let replicaLeader ← j.value "replica_leader" leader
  let dataParallelRank ← j.value "data_parallel_rank" replicaIndex
  let dataParallelSize ← j.value "data_parallel_size" 1
  let dataParallelSizeLocal ← j.value "data_parallel_size_local" 1
  let dataParallelStartRank ← j.value "data_parallel_start_rank" dataParallelRank
  let dataParallelApiEndpoint ← j.value "data_parallel_api_endpoint" replicaLeader
  let dataParallelHeadAddress ← j.value "data_parallel_head_address" ""
  let dataParallelRpcPort ← j.value "data_parallel_rpc_port" 0
  let rpcPort ← j.value "rpc_port" dataParallelRpcPort
  let gpuFraction ← j.value "gpu_fraction" 0
  let shareMode ← j.value "share_mode" "exclusive" >>= parseGpuShareMode
  let priority ← j.value "priority" 100
  let preemptible ← j.value "preemptible" false
  let enabled ← j.value "enabled" true
  let memoryCapMb ← j.optional "memory_cap_mb"
  pure {
    name, inferInstanceName, nodeName, gpuDevice, rpcPort, rank, replicaGroupId, replicaIndex, replicaSize
    replicaLeader, dataParallelRank, dataParallelSize, dataParallelSizeLocal, dataParallelStartRank
    dataParallelApiEndpoint, dataParallelHeadAddress, dataParallelRpcPort, gpuFraction, shareMode, priority
    preemptible, memoryCapMb, enabled, leader}

lemma workerGroupMemberFromJson_toJson (member : WorkerGroupMemberSpec) :
    workerGroupMemberFromJson (workerGroupMemberToJson member) = .ok member := by
  simp [workerGroupMemberFromJson,workerGroupMemberToJson,Json.optional]

def workerGroupToJson (group : WorkerGroupSpec) : Json :=
  ofFields [
    field "group_id" (some group.groupId),field "infer_instance_name" (some group.inferInstanceName),
    field "distributed_backend" (some group.distributedBackend),
    field "rendezvous_host" (some group.rendezvousHost),field "rendezvous_port" (some group.rendezvousPort),
    field "expected_workers" (some group.expectedWorkers),
    field "worker_selection_policy" (some group.workerSelectionPolicy),
    field "members" (some (Json.arr (group.members.map workerGroupMemberToJson)))]

def workerGroupFromJson : Checked WorkerGroupSpec := do
  let groupId ← j.value "group_id" ""
  let inferInstanceName ← j.value "infer_instance_name" ""
  let distributedBackend ← j.value "distributed_backend" "llama_rpc"
  let rendezvousHost ← j.value "rendezvous_host" ""
  let rendezvousPort ← j.value "rendezvous_port" 29500
  let expectedWorkers ← j.value "expected_workers" 0
  let workerSelectionPolicy ← j.value "worker_selection_policy" "prefer-free-then-share"
  let items ← j.value "members" (Json.arr [])
  let members ← objectsFromJson workerGroupMemberFromJson items.elements
  pure {
    groupId, inferInstanceName, distributedBackend, rendezvousHost, rendezvousPort, expectedWorkers
    workerSelectionPolicy, members}

@[simp] lemma workerGroupFromJson_toJson (group : WorkerGroupSpec) :
    workerGroupFromJson (workerGroupToJson group) = .ok group := by
  have hmembers := objectsFromJson_map workerGroupMemberFromJson_toJson
    (fun _ => isObject_ofFields _) group.members
  simp [workerGroupFromJson,workerGroupToJson,hmembers]

def instanceSpecToJson (i : InstanceSpec) : Json :=
  ofFields [
    field "name" (some i.name),field "role" (some i.role.text),field "plane_name" (some i.planeName),
    field "node_name" (some i.nodeName),field "image" (some i.image),field "command" (some i.command),
    field "private_disk_name" (some i.privateDiskName),field "shared_disk_name" (some i.sharedDiskName),
    field "depends_on" (some i.dependsOn),field "environment" (some i.environment),
    field "labels" (some i.labels),
    field "published_ports" (some (Json.arr (i.publishedPorts.map publishedPortToJson))),
    field "placement_mode" (some i.placementMode.text),field "share_mode" (some i.shareMode.text),
    field "gpu_fraction" (some i.gpuFraction),field "priority" (some i.priority),
    field "preemptible" (some i.preemptible),field "private_disk_size_gb" (some i.privateDiskSizeGb),
    field "app_model_mounts" (some (Json.arr (i.appModelMounts.map appModelMountToJson))),
    field "gpu_device" i.gpuDevice,field "memory_cap_mb" i.memoryCapMb]

/-- Without a mode a worker that names no device is placed by the controller. -/
def defaultPlacementMode (role : InstanceRole) (gpuDevice : Option String) : PlacementMode :=
  if role = .worker ∧ gpuDevice.all (· = "") then .auto else .manual

def placementModeFromJson (role : InstanceRole) (gpuDevice : Option String) : Checked PlacementMode :=
  match j.get? "placement_mode" with
  | some mode => Codec.get mode >>= parsePlacementMode
  | none => .ok (defaultPlacementMode role gpuDevice)

def instanceSpecFromJson : Checked InstanceSpec := do
  let name ← j.atAs "name"
  let role ← j.atAs "role" >>= parseInstanceRole
  let planeName ← j.atAs "plane_name"
  let nodeName ← j.atAs "node_name"
  let image ← j.atAs "image"
  let command ← j.atAs "command"
  let privateDiskName ← j.atAs "private_disk_name"
  let sharedDiskName ← j.atAs "shared_disk_name"
  let dependsOn ← j.value "depends_on" []
  let environment ← j.value "environment" []
  let labels ← j.value "labels" []
  let publishedPorts ← objectsFromJson publishedPortFromJson (j.arrayAt "published_ports")
  let gpuDevice ← j.optional "gpu_device"
  let placementMode ← placementModeFromJson j role gpuDevice
  let shareMode ← j.value "share_mode" "exclusive" >>= parseGpuShareMode
  let gpuFraction ← j.value "gpu_fraction" (if role = .worker then 1 else 0)
  let priority ← j.value "priority" 100
  let preemptible ← j.value "preemptible" false
  let memoryCapMb ← j.optional "memory_cap_mb"
  let privateDiskSizeGb ← j.value "private_disk_size_gb" 0
  let appModelMounts ← objectsFromJson appModelMountFromJson (j.arrayAt "app_model_mounts")
  pure {
    name, role, planeName, nodeName, image, command, privateDiskName, sharedDiskName, dependsOn, environment, labels
    publishedPorts, gpuDevice, placementMode, shareMode, gpuFraction, priority, preemptible, memoryCapMb
    privateDiskSizeGb, appModelMounts}

@[simp] lemma instanceSpecFromJson_toJson (i : InstanceSpec) :
    instanceSpecFromJson (instanceSpecToJson i) = .ok i := by
  have hports := objectsFromJson_map publishedPortFromJson_toJson
    (fun _ => isObject_ofFields _) i.publishedPorts
  have hmounts := objectsFromJson_map appModelMountFromJson_toJson
    (fun _ => isObject_ofFields _) i.appModelMounts
  simp [instanceSpecFromJson,instanceSpecToJson,Json.optional,arrayAt,placementModeFromJson,hports,hmounts]

end StateJsonRuntimeCodecs
end Naim
