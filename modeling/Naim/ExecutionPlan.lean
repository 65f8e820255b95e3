import Naim.InferRuntimeConfig
import Naim.StateJsonRuntimeCodecs

/-!
# Execution plans

`BuildNodeExecutionPlans`: what a host does to get from the state it runs to the
desired one. Disks and services are compared by their keys and by signatures,
texts that join some of their fields. `ApplyNodePlan` carries the operations out
in three passes.
-/

namespace Naim.ExecutionPlan

open Checked InferRuntimeConfig Planner Text

variable (dump : Json → String) (s : DesiredState) (nodeName : String)

inductive HostOperationKind
  | ensureDisk | removeDisk | ensureService | removeService | writeInferRuntimeConfig | removeInferRuntimeConfig
  | writeComposeFile | removeComposeFile | composeUp | composeDown
  deriving DecidableEq

structure HostOperation where
  kind : HostOperationKind
  (target details : String)
  deriving DecidableEq

structure NodeExecutionPlan where
  (planeName nodeName composeFilePath : String := "")
  operations : List HostOperation := []
  deriving DecidableEq

def diskKey (disk : DiskSpec) : String := disk.name ++ "@" ++ disk.nodeName

def diskSignature (disk : DiskSpec) : String :=
  "|".intercalate [disk.planeName,disk.ownerName,disk.hostPath,disk.containerPath,toString disk.sizeGb,disk.kind.text]

def optionalValue (value : Option String) : String := value.getD "-"

def mapSignature (values : StringMap) : String := ";".intercalate (values.map fun e => e.1 ++ "=" ++ e.2)

def publishedPortEntry (port : PublishedPort) : String :=
  ":".intercalate [port.hostIp,toString port.hostPort,toString port.containerPort]

def publishedPortsSignature (ports : List PublishedPort) : String :=
  ";".intercalate ((ports.map publishedPortEntry).insertionSort (· ≤ ·))

def appModelMountEntry (mount : AppModelMountSpec) : String :=
  "|".intercalate [mount.name,mount.sourcePath,mount.sourceNodeName,
    ",".intercalate (mount.sourcePaths.insertionSort (· ≤ ·)),mount.hostPath,mount.mountPath,mount.envVar,
    if mount.required then "1" else "0"]

def appModelMountsSignature (mounts : List AppModelMountSpec) : String :=
  ";".intercalate ((mounts.map appModelMountEntry).insertionSort (· ≤ ·))

def instanceSignature (i : InstanceSpec) : String :=
  "|".intercalate [i.nodeName,i.image,i.command,i.privateDiskName,i.sharedDiskName,optionalValue i.gpuDevice,
    i.shareMode.text,formatFixed i.gpuFraction,toString i.priority,if i.preemptible then "1" else "0",
    toString (i.memoryCapMb.getD 0),publishedPortsSignature i.publishedPorts,
    appModelMountsSignature i.appModelMounts,mapSignature i.environment,mapSignature i.labels]

def buildDiskMapForNode : List (String × DiskSpec) := Assoc.index diskKey id (disksOn s nodeName)

def buildInstanceMapForNode : List (String × InstanceSpec) := Assoc.index (·.name) id (instancesOn s nodeName)

def composePath (artifactsRoot planeName nodeName : String) : String :=
  joinPath (joinPath (joinPath artifactsRoot planeName) nodeName) "docker-compose.yml"

def infersOn : List InstanceSpec := (instancesOn s nodeName).filter (·.role = .infer)

/-- The path of `child` below `parent`, when its text continues that of `parent`. -/
def relativeBelow (child parent : List Char) : Option String :=
  if child = parent then some "."
  else if parent ++ ['/'] <+: child then
    let rest := child.drop (parent.length + 1)
    let parts := (rest.splitOn '/').filter (· ≠ [])
    some (if parts = [] then "."
      else String.ofList (['/'].intercalate parts ++ if rest.getLast? = some '/' then ['/'] else []))
  else none

def relativeControlPath (sharedDisk : DiskSpec) : String :=
  let control := s.controlRoot.toList
  let shared := sharedDisk.containerPath.toList
  let relative := if control.head? = some '/' ∧ shared.head? = some '/' then relativeBelow control shared else none
  relative.getD (joinPath "control" s.planeName)

def controlRootPathForNode : Option String :=
  if infersOn s nodeName = [] then none
  else ((disksOn s nodeName).find? (·.kind = .planeShared)).map fun sharedDisk =>
    joinPath sharedDisk.hostPath (relativeControlPath s sharedDisk)

def inferRuntimeConfigPathsForNode : StringMap :=
  match controlRootPathForNode s nodeName with
  | none => []
  | some controlRoot => Assoc.index (·.name)
      (fun infer : InstanceSpec => joinPath controlRoot (inferRuntimeConfigRelativePath infer.name))
      (infersOn s nodeName)

def inferRuntimeSignaturesForNode : Checked StringMap :=
  Assoc.index Prod.fst Prod.snd <$> (infersOn s nodeName).mapM fun infer =>
    (infer.name,·) <$> renderInferRuntimeConfigJsonForInstance dump s infer.name

def diskOperations (current desired : List (String × DiskSpec)) : List HostOperation :=
  (desired.flatMap fun e => match current.lookup e.1 with
    | none => [⟨.ensureDisk,e.1,e.2.hostPath⟩]
    | some old =>
      if diskSignature old ≠ diskSignature e.2 then
        [⟨.removeDisk,e.1,old.hostPath⟩,⟨.ensureDisk,e.1,e.2.hostPath⟩]
      else []) ++
  (current.filter fun e => (desired.lookup e.1).isNone).map fun e => ⟨.removeDisk,e.1,e.2.hostPath⟩

def serviceOperations (current desired : List (String × InstanceSpec)) : List HostOperation :=
  ((desired.filter fun e => (current.lookup e.1).map instanceSignature ≠ some (instanceSignature e.2)).map fun e =>
    ⟨.ensureService,e.1,e.2.image⟩) ++
  (current.filter fun e => (desired.lookup e.1).isNone).map fun e => ⟨.removeService,e.1,e.2.image⟩

structure RuntimeConfigs where
  (paths signatures : StringMap := [])

def runtimeConfigsForNode : Checked RuntimeConfigs :=
  (fun signatures => {paths := inferRuntimeConfigPathsForNode s nodeName, signatures}) <$>
    inferRuntimeSignaturesForNode dump s nodeName

def needsWrite (current desired : RuntimeConfigs) (inferInstanceName desiredRuntimePath : String) : Bool :=
  current.paths.lookup inferInstanceName ≠ some desiredRuntimePath ||
    (current.signatures.lookup inferInstanceName).isNone || (desired.signatures.lookup inferInstanceName).isNone ||
    current.signatures.lookup inferInstanceName ≠ desired.signatures.lookup inferInstanceName

def runtimeConfigOperations (current desired : RuntimeConfigs) : List HostOperation :=
  ((desired.paths.filter fun e => needsWrite current desired e.1 e.2).map fun e =>
    ⟨.writeInferRuntimeConfig,e.2,e.1⟩) ++
  (current.paths.filter fun e => (desired.paths.lookup e.1).isNone).map fun e =>
    ⟨.removeInferRuntimeConfig,e.2,e.1⟩

def hasWriteInferRuntimeConfigOperation (operations : List HostOperation) (inferInstanceName : String) : Bool :=
  operations.any fun operation =>
    operation.kind = .writeInferRuntimeConfig && operation.details = inferInstanceName

/-- The configurations that are not written yet are written before the services start. -/
def addRuntimeConfigs (paths : StringMap) (operations : List HostOperation) : List HostOperation :=
  paths.foldl (fun operations e =>
    if hasWriteInferRuntimeConfigOperation operations e.1 then operations
    else operations ++ [⟨.writeInferRuntimeConfig,e.2,e.1⟩]) operations

structure NodeView where
  (planeName composeFilePath : String)
  disks : List (String × DiskSpec) := []
  instances : List (String × InstanceSpec) := []
  configs : RuntimeConfigs := {}

variable (current desired : NodeView)

def resourceOperations : List HostOperation :=
  diskOperations current.disks desired.disks ++ serviceOperations current.instances desired.instances ++
    runtimeConfigOperations current.configs desired.configs

def composePathChanged : Bool := current.instances ≠ [] && current.composeFilePath ≠ desired.composeFilePath

def needsComposeUp : Bool :=
  desired.instances ≠ [] && (current.instances = [] || composePathChanged current desired ||
    resourceOperations current desired ≠ [])

def composeDownOperations : List HostOperation :=
  if current.instances ≠ [] ∧ (desired.instances = [] ∨ composePathChanged current desired) then
    [⟨.composeDown,current.composeFilePath,"docker compose down"⟩,
      ⟨.removeComposeFile,current.composeFilePath,"remove stale compose artifact"⟩]
  else []

def nodeOperations : List HostOperation :=
  let operations := resourceOperations current desired ++ composeDownOperations current desired
  if needsComposeUp current desired then
    addRuntimeConfigs desired.configs.paths operations ++
      [⟨.writeComposeFile,desired.composeFilePath,"render compose artifact"⟩,
        ⟨.composeUp,desired.composeFilePath,"docker compose up -d"⟩]
  else operations

def nodeView (planeName artifactsRoot nodeName : String) : Checked NodeView :=
  (fun configs => {
    planeName, composeFilePath := composePath artifactsRoot planeName nodeName
    disks := buildDiskMapForNode s nodeName, instances := buildInstanceMapForNode s nodeName
    configs}) <$> runtimeConfigsForNode dump s nodeName

variable (current : Option DesiredState) (desired : DesiredState)

/-- Without a current state the node is empty, under the name of the desired plane. -/
def currentView (artifactsRoot nodeName : String) : Checked NodeView :=
  match current with
  | some s => nodeView dump s s.planeName artifactsRoot nodeName
  | none => .ok {
      planeName := desired.planeName, composeFilePath := composePath artifactsRoot desired.planeName nodeName}

def buildNodeExecutionPlan (artifactsRoot nodeName : String) : Checked NodeExecutionPlan := do
  let old ← currentView dump current desired artifactsRoot nodeName
  let planeName := if desired.planeName = "" then old.planeName else desired.planeName
  let new ← nodeView dump desired planeName artifactsRoot nodeName
  pure {
    planeName := if new.instances ≠ [] then new.planeName else old.planeName
    nodeName
    composeFilePath := if new.instances ≠ [] then new.composeFilePath else old.composeFilePath
    operations := nodeOperations old new}

def plannedNodes : List String :=
  Rows.sortedSet (desired.nodes.map (·.name) ++ (current.elim [] (·.nodes)).map (·.name))

/-- The nodes come in the order of their names, so that the last sort of the source changes nothing. -/
def buildNodeExecutionPlans (artifactsRoot : String) : Checked (List NodeExecutionPlan) :=
  (·.filter (·.operations ≠ [])) <$>
    (plannedNodes current desired).mapM fun nodeName =>
      buildNodeExecutionPlan dump current desired artifactsRoot nodeName

def applicationOrder (operations : List HostOperation) : List HostOperation :=
  (operations.filter fun operation => operation.kind = .composeDown || operation.kind = .removeComposeFile) ++
  (operations.filter fun operation => !(operation.kind = .composeDown || operation.kind = .removeComposeFile ||
    operation.kind = .composeUp)) ++
  operations.filter (·.kind = .composeUp)

def operationsOn (plans : List NodeExecutionPlan) (nodeName : String) : List HostOperation :=
  ((plans.find? (·.nodeName = nodeName)).map (·.operations)).getD []

end Naim.ExecutionPlan
