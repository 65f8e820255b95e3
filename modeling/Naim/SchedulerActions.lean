import Naim.PlaneRealization
import Naim.RebalancePlan
import Naim.Reconciliation
import Naim.StateJson

/-!
# The active action of the scheduler

A rebalance is materialized as a new generation and then watched: each tick of the
scheduler compares what the hosts report with the move. A move that does not
converge in time is rolled back to the stored previous state, and the rollback is
watched in the same way. A tick that throws keeps what it has written so far.
-/

namespace Naim.SchedulerActions

open Assignments Checked PlaneRealization RebalancePlan Reconciliation RuntimeSupport SchedulerExecution
  SchedulingPolicy StateJson

inductive Phase
  | verifyingMove | rollbackPlanned | rollbackApplied
  deriving DecidableEq

/-- The row of the plane; `previousStateJson` is none for the empty text. -/
structure SchedulerPlaneRuntime (Text : Type) where
  (activeAction activeWorkerName : String := "")
  phase : Phase := .verifyingMove
  actionGeneration : Int32 := 0
  (stableSamples rollbackAttemptCount : ℤ := 0)
  (sourceNodeName sourceGpuDevice targetNodeName targetGpuDevice : String := "")
  previousStateJson : Option Text := none
  (statusMessage startedAt : String := "")

inductive WorkerPhase
  | none | failedVerification | verified | manualInterventionRequired
  deriving DecidableEq

structure SchedulerWorkerRuntime where
  (workerName lastMoveAt : String := "")
  lastVerifiedGeneration : Option Int32 := none
  lastSchedulerPhase : WorkerPhase := .none
  lastStatusMessage : String := ""
  manualInterventionRequired : Bool := false
  deriving DecidableEq

structure SchedulerNodeRuntime where
  (nodeName lastMoveAt : String := "")
  lastVerifiedGeneration : Option Int32 := none
  deriving DecidableEq

inductive EventType
  | rebalanceMaterialized | rollbackPlanned | rollbackApplied | moveVerified | manualInterventionRequired
  deriving DecidableEq

structure SchedulerEvent where
  eventType : EventType
  (message workerName : String)
  generation : Int32
  deriving DecidableEq

structure Database (Text : Type) where
  desired : DesiredState
  (generation rebalanceIteration : Int32 := 0)
  rolloutActions : List SchedulerRolloutAction := []
  assignments : Table := {}
  planes : List PlaneRecord := []
  planeRuntime : Option (SchedulerPlaneRuntime Text) := none
  workerRuntimes : List SchedulerWorkerRuntime := []
  nodeRuntimes : List SchedulerNodeRuntime := []
  events : List SchedulerEvent := []

structure RuntimeProcessStatus where
  (instanceName gpuDevice runtimePhase : String := "")
  ready : Bool := false
  deriving DecidableEq

/-- What the controller is configured with, and its json library. -/
structure Config (Text : Type) where
  verificationTimeoutSeconds : ℤ := 45
  verificationStableSamplesRequired : ℤ := 3
  defaultStaleAfterSeconds : ℤ := 300
  artifactsRoot : String := "var/artifacts"
  format : TextFormat Text
  dump : Json → String
  sliceText : DesiredState → String

structure Inputs where
  clock : Clock
  deserializeRuntimeStatusListJson : String → Checked (List RuntimeProcessStatus)
  utcNowSqlTimestamp : String
  observations : List HostObservation := []
  overrides : List NodeAvailabilityOverride := []

structure RebalanceIterationBudgetSummary where
  (currentIteration maxIterations : ℤ := 0)
  exhausted : Bool := false
  deriving DecidableEq

section Verification

variable {Text : Type} (config : Config Text) (inputs : Inputs) (runtime : SchedulerPlaneRuntime Text)

def rollbackMode : Bool := runtime.phase = .rollbackApplied || runtime.phase = .rollbackPlanned

def expectedNode : String := if rollbackMode runtime then runtime.sourceNodeName else runtime.targetNodeName

def expectedGpu : String := if rollbackMode runtime then runtime.sourceGpuDevice else runtime.targetGpuDevice

def clearedNode : String := if rollbackMode runtime then runtime.targetNodeName else runtime.sourceNodeName

def clearedGpu : String := if rollbackMode runtime then runtime.targetGpuDevice else runtime.sourceGpuDevice

def parseInstanceRuntimeStatuses (o : HostObservation) : Checked (List RuntimeProcessStatus) :=
  if o.instanceRuntimeJson = "" then .ok [] else inputs.deserializeRuntimeStatusListJson o.instanceRuntimeJson

def findInstanceRuntimeStatus (statuses : List RuntimeProcessStatus) (instanceName gpuDevice : String) :
    Option RuntimeProcessStatus :=
  statuses.find? fun status => status.instanceName = instanceName && status.gpuDevice = gpuDevice

def telemetryShowsOwnedProcess (telemetry : Option GpuTelemetrySnapshot) (gpuDevice instanceName : String) : Bool :=
  telemetry.any fun t => t.devices.any fun device =>
    device.gpuDevice = gpuDevice && device.processes.any (·.instanceName = instanceName)

structure Convergence where
  (targetGenerationApplied targetRuntimeReady targetGpuOwned sourceCleared : Bool)
  deriving DecidableEq

def Convergence.converged (c : Convergence) : Bool :=
  c.targetGenerationApplied && c.targetRuntimeReady && c.targetGpuOwned && c.sourceCleared

def yesNo (b : Bool) : String := if b then "yes" else "no"

def Convergence.detail (c : Convergence) : String :=
  "target_generation_applied=" ++ yesNo c.targetGenerationApplied ++ " target_runtime_ready=" ++
    yesNo c.targetRuntimeReady ++ " target_gpu_owned=" ++ yesNo c.targetGpuOwned ++ " source_cleared=" ++
    yesNo c.sourceCleared

def runtimeReady (status : RuntimeProcessStatus) : Bool :=
  status.ready && (status.runtimePhase = "running" || status.runtimePhase = "ready" || status.runtimePhase = "loaded")

def sourceCleared : Checked Bool :=
  match findHostObservationForNode inputs.observations (clearedNode runtime) with
  | none => .ok true
  | some source => do
    let runtimes ← parseInstanceRuntimeStatuses inputs source
    let telemetry ← parseGpuTelemetry inputs.clock source
    .ok ((findInstanceRuntimeStatus runtimes runtime.activeWorkerName (clearedGpu runtime)).isNone &&
      !telemetryShowsOwnedProcess telemetry (clearedGpu runtime) runtime.activeWorkerName)

def checkConvergence : Checked (Option Convergence) :=
  match findHostObservationForNode inputs.observations (expectedNode runtime) with
  | none => .ok none
  | some target => do
    let runtimes ← parseInstanceRuntimeStatuses inputs target
    let telemetry ← parseGpuTelemetry inputs.clock target
    let cleared ← sourceCleared inputs runtime
    .ok (some {
      targetGenerationApplied := target.appliedGeneration.any (runtime.actionGeneration.toInt ≤ ·)
      targetRuntimeReady :=
        (findInstanceRuntimeStatus runtimes runtime.activeWorkerName (expectedGpu runtime)).any runtimeReady
      targetGpuOwned := telemetryShowsOwnedProcess telemetry (expectedGpu runtime) runtime.activeWorkerName
      sourceCleared := cleared})

structure SchedulerVerificationResult where
  (converged stable timedOut : Bool := false)
  nextStableSamples : ℤ := 0
  detail : String := ""
  deriving DecidableEq

def timedOut : Bool :=
  (timestampAgeSeconds inputs.clock runtime.startedAt).any (config.verificationTimeoutSeconds ≤ ·)

def verificationOf : Option Convergence → SchedulerVerificationResult
  | none => {detail := "missing-target-observation", timedOut := timedOut config inputs runtime}
  | some checks =>
    if checks.converged then {
      converged := true, nextStableSamples := runtime.stableSamples + 1
      stable := config.verificationStableSamplesRequired ≤ runtime.stableSamples + 1
      detail := "verified-sample", timedOut := timedOut config inputs runtime}
    else {detail := checks.detail, timedOut := timedOut config inputs runtime}

def evaluateSchedulerActionVerification : Checked SchedulerVerificationResult :=
  verificationOf config inputs runtime <$> checkConvergence inputs runtime

end Verification

section Rows

variable {Text : Type}

def Database.append (db : Database Text) (event : SchedulerEvent) : Database Text :=
  {db with events := db.events ++ [event]}

/-- An empty `started_at` keeps the one that the row has, or becomes the current time. -/
def Database.upsertPlaneRuntime (now : String) (runtime : SchedulerPlaneRuntime Text) (db : Database Text) :
    Database Text :=
  {db with planeRuntime := some {runtime with
    startedAt := if runtime.startedAt ≠ "" then runtime.startedAt else (db.planeRuntime.map (·.startedAt)).getD now}}

def Database.clearPlaneRuntime (db : Database Text) : Database Text := {db with planeRuntime := none}

def Database.updateWorker (workerName : String) (f : SchedulerWorkerRuntime → SchedulerWorkerRuntime)
    (db : Database Text) : Database Text :=
  let current := (db.workerRuntimes.find? (·.workerName = workerName)).getD {}
  {db with workerRuntimes := Rows.upsert (·.workerName) {f current with workerName} db.workerRuntimes}

def Database.updateNode (nodeName : String) (f : SchedulerNodeRuntime → SchedulerNodeRuntime)
    (db : Database Text) : Database Text :=
  let current := (db.nodeRuntimes.find? (·.nodeName = nodeName)).getD {}
  {db with nodeRuntimes := Rows.upsert (·.nodeName) {f current with nodeName} db.nodeRuntimes}

def markWorkerMoveVerified (now : String) (runtime : SchedulerPlaneRuntime Text) (db : Database Text) : Database Text :=
  let db := db.updateWorker runtime.activeWorkerName fun w => {w with
    lastMoveAt := now, lastVerifiedGeneration := some runtime.actionGeneration, lastSchedulerPhase := .verified
    lastStatusMessage := if runtime.phase = .rollbackApplied then "rollback verification succeeded"
      else "move verification succeeded"
    manualInterventionRequired := false}
  ([runtime.sourceNodeName,runtime.targetNodeName].filter (· ≠ "")).foldl (fun db nodeName =>
    db.updateNode nodeName fun n => {n with
      lastMoveAt := now, lastVerifiedGeneration := some runtime.actionGeneration}) db

def Database.replaceDesired (state : DesiredState) (generation rebalanceIteration : Int32) (db : Database Text) :
    Database Text :=
  {db with
    desired := state, generation, rebalanceIteration
    rolloutActions := (evaluateSchedulingPolicy state).rolloutActions}

end Rows

section Service

variable {Text : Type} (config : Config Text) (inputs : Inputs)

def assignmentsFor (state : DesiredState) (generation : Int32) : Checked (List HostAssignment) :=
  buildHostAssignments config.sliceText inputs.clock config.defaultStaleAfterSeconds inputs.overrides
    inputs.observations state config.artifactsRoot generation.toInt (some (evaluateSchedulingPolicy state))

section

variable (runtime : SchedulerPlaneRuntime Text)

def readRollbackState : Checked DesiredState :=
  match runtime.previousStateJson with
  | none => fail "rollback-planned action has no previous desired state payload"
  | some text => do
    let state ← deserializeDesiredStateJson config.format config.dump text
    requireSchedulingPolicy state
    .ok state

def materializeRollback (db : Database Text) : Database Text × Checked Unit :=
  match readRollbackState config runtime with
  | .error e => (db,.error e)
  | .ok state =>
    let generation := db.generation + 1
    let replaced := db.replaceDesired state generation 0
    match assignmentsFor config inputs state generation with
    | .error e => (replaced,.error e)
    | .ok assignments =>
      let message := "rollback materialized after verification timeout"
      let queued := {replaced with
        assignments := replaceHostAssignments inputs.clock.now replaced.assignments assignments}
      ((queued.upsertPlaneRuntime inputs.utcNowSqlTimestamp {runtime with
        phase := .rollbackApplied, actionGeneration := generation, stableSamples := 0, rollbackAttemptCount := 1
        startedAt := inputs.utcNowSqlTimestamp
        statusMessage := message}).append ⟨.rollbackApplied,message,runtime.activeWorkerName,generation⟩,.ok ())

def endVerification (detail : String) (db : Database Text) : Database Text :=
  if runtime.rollbackAttemptCount = 0 && runtime.previousStateJson.isSome then
    let db := db.updateWorker runtime.activeWorkerName fun w => {w with
      lastSchedulerPhase := .failedVerification, lastStatusMessage := detail
      manualInterventionRequired := false}
    (db.upsertPlaneRuntime inputs.utcNowSqlTimestamp {runtime with
      phase := .rollbackPlanned, stableSamples := 0, startedAt := inputs.utcNowSqlTimestamp
      statusMessage := "verification timed out; rollback planned"}).append
        ⟨.rollbackPlanned,detail,runtime.activeWorkerName,runtime.actionGeneration⟩
  else
    let db := db.updateWorker runtime.activeWorkerName fun w => {w with
      lastSchedulerPhase := .manualInterventionRequired, lastStatusMessage := detail
      manualInterventionRequired := true}
    (db.append ⟨.manualInterventionRequired,detail,runtime.activeWorkerName,runtime.actionGeneration⟩).clearPlaneRuntime

def settleVerification (v : SchedulerVerificationResult) (db : Database Text) :
    Database Text :=
  let runtime := {runtime with stableSamples := v.nextStableSamples, statusMessage := v.detail}
  if v.stable then
    ((markWorkerMoveVerified inputs.utcNowSqlTimestamp runtime db).append
      ⟨.moveVerified,v.detail,runtime.activeWorkerName,runtime.actionGeneration⟩).clearPlaneRuntime
  else if !v.timedOut then db.upsertPlaneRuntime inputs.utcNowSqlTimestamp runtime
  else endVerification inputs runtime v.detail db

end

/-- `AdvanceActiveSchedulerAction`: what it leaves in the database, and whether it throws. -/
def advanceActiveSchedulerAction (db : Database Text) : Database Text × Checked Unit :=
  match db.planeRuntime with
  | none => (db,.ok ())
  | some runtime =>
    if runtime.activeAction = "" then (db,.ok ())
    else if runtime.phase = .rollbackPlanned then materializeRollback config inputs runtime db
    else match evaluateSchedulerActionVerification config inputs runtime with
      | .error e => (db,.error e)
      | .ok v => (settleVerification inputs runtime v db,.ok ())

/-- The part of `SchedulerTick` that serves an active action. Without one the tick
turns to rollouts and proposals, which is not a step of the action. -/
def schedulerTick (db : Database Text) : Database Text × Checked Unit :=
  let db := {db with
    assignments := (reconcile inputs.clock.now db.planes inputs.observations db.assignments none).1}
  advanceActiveSchedulerAction config inputs db

def budgetExhausted (budget : RebalanceIterationBudgetSummary) : String :=
  "rebalance iteration budget exhausted (" ++ toString budget.currentIteration ++ "/" ++
    toString budget.maxIterations ++
    "); apply a fresh bundle or rollout generation before materializing another direct rebalance"

/-- `ApplyRebalanceProposal`, with the plan and the budget that it computes. -/
def applyRebalanceProposal (entries : List PlannedRebalance) (budget : RebalanceIterationBudgetSummary)
    (workerName : String) (db : Database Text) : Database Text × Checked Unit :=
  match entries.find? fun entry => entry.workerName = workerName with
  | none => (db,fail ("no rebalance plan entry found for worker '" ++ workerName ++ "'"))
  | some entry =>
    if entry.decision ≠ "propose" then
      (db,fail ("worker '" ++ workerName ++ "' is not actionable for rebalance; current decision=" ++
        entry.decision ++ " state=" ++ entry.state))
    else if budget.exhausted then (db,fail (budgetExhausted budget))
    else match materializeRebalancePlanEntry db.desired entry.toRebalancePlanEntry >>= fun updated =>
        (requireSchedulingPolicy updated) >>= fun _ => .ok updated with
      | .error e => (db,.error e)
      | .ok updated =>
        let generation := db.generation + 1
        let replaced := db.replaceDesired updated generation (db.rebalanceIteration + 1)
        match assignmentsFor config inputs updated generation with
        | .error e => (replaced,.error e)
        | .ok assignments =>
          let queued := {replaced with
            assignments := replaceHostAssignments inputs.clock.now replaced.assignments assignments}
          ((queued.upsertPlaneRuntime inputs.utcNowSqlTimestamp {
            activeAction := "rebalance", activeWorkerName := entry.workerName, phase := .verifyingMove
            actionGeneration := generation, sourceNodeName := entry.currentNodeName
            sourceGpuDevice := entry.currentGpuDevice, targetNodeName := entry.targetNodeName
            targetGpuDevice := entry.targetGpuDevice
            previousStateJson := some (serializeDesiredStateJson config.format db.desired)
            statusMessage := "awaiting post-move verification"}).append
              ⟨.rebalanceMaterialized,"materialized safe-direct rebalance proposal",entry.workerName,generation⟩,.ok ())

end Service
end Naim.SchedulerActions
