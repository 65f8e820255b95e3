import Naim.Models

/-!
# What hosts report

The part of `ControllerRuntimeSupportService` that decides whether a node takes
work: the availability set by the operator and the last observation of its host.
The clock and the readers of timestamps and reported documents are those of the
controller process.
-/

namespace Naim.RuntimeSupport

inductive NodeAvailability
  | active | draining | unavailable
  deriving DecidableEq

inductive HostObservationStatus
  | idle | applying | applied | failed
  deriving DecidableEq

structure NodeAvailabilityOverride where
  nodeName : String
  availability : NodeAvailability
  deriving DecidableEq

structure HostObservation where
  (nodeName planeName : String := "")
  (appliedGeneration lastAssignmentId : Option ℤ := none)
  status : HostObservationStatus := .idle
  (observedStateJson runtimeStatusJson instanceRuntimeJson gpuTelemetryJson heartbeatAt : String := "")
  deriving DecidableEq

structure RuntimeStatus where
  runtimePhase : String := ""
  deriving DecidableEq

structure GpuProcessTelemetry where
  instanceName : String := "unknown"
  deriving DecidableEq

structure GpuDeviceTelemetry where
  gpuDevice : String := ""
  (totalVramMb freeVramMb gpuUtilizationPct : Int32 := 0)
  processes : List GpuProcessTelemetry := []
  deriving DecidableEq

structure GpuTelemetrySnapshot where
  degraded : Bool := false
  devices : List GpuDeviceTelemetry := []
  deriving DecidableEq

structure Clock where
  now : ℤ
  utcTime : String → Option ℤ
  deserializeRuntimeStatusJson : String → Checked RuntimeStatus
  deserializeGpuTelemetryJson : String → Checked GpuTelemetrySnapshot

variable (clock : Clock)

def buildAvailabilityOverrideMap (overrides : List NodeAvailabilityOverride) :
    List (String × NodeAvailabilityOverride) := Assoc.ofList (overrides.map fun o => (o.nodeName,o))

def resolveNodeAvailability (overrides : List (String × NodeAvailabilityOverride)) (nodeName : String) :
    NodeAvailability := ((overrides.lookup nodeName).map (·.availability)).getD .active

def isNodeSchedulable (availability : NodeAvailability) : Bool := availability = .active

def findHostObservationForNode (observations : List HostObservation) (nodeName : String) :
    Option HostObservation := observations.find? (·.nodeName = nodeName)

def heartbeatAgeSeconds (heartbeatAt : String) : Option ℤ :=
  if heartbeatAt = "" then none
  else match clock.utcTime heartbeatAt with
    | some time => if time < 0 then none else some (clock.now - time)
    | none => none

def timestampAgeSeconds (timestamp : String) : Option ℤ := heartbeatAgeSeconds clock timestamp

def healthFromAge (age : Option ℤ) (staleAfterSeconds : ℤ) : String :=
  match age with
  | none => "unknown"
  | some age => if age > staleAfterSeconds then "stale" else "online"

def parseRuntimeStatus (o : HostObservation) : Checked (Option RuntimeStatus) :=
  if o.runtimeStatusJson = "" then .ok none
  else some <$> clock.deserializeRuntimeStatusJson o.runtimeStatusJson

def parseGpuTelemetry (o : HostObservation) : Checked (Option GpuTelemetrySnapshot) :=
  if o.gpuTelemetryJson = "" then .ok none
  else some <$> clock.deserializeGpuTelemetryJson o.gpuTelemetryJson

/-- The documents of an observation are parsed only as far as no earlier reason is found. -/
def observationGateReason (o : HostObservation) (staleAfterSeconds : ℤ) : Checked (Option String) :=
  if o.status = .failed then .ok (some "failed")
  else if healthFromAge (heartbeatAgeSeconds clock o.heartbeatAt) staleAfterSeconds = "stale" then
    .ok (some "stale")
  else do
    let runtimeStatus ← parseRuntimeStatus clock o
    if runtimeStatus.any (·.runtimePhase = "failed") then return some "runtime-failed"
    let gpuTelemetry ← parseGpuTelemetry clock o
    if gpuTelemetry.any (·.degraded) then return some "telemetry-degraded"
    return none

def observedSchedulingGateReason (observations : List HostObservation) (nodeName : String)
    (staleAfterSeconds : ℤ) : Checked (Option String) :=
  match findHostObservationForNode observations nodeName with
  | none => .ok none
  | some o => observationGateReason clock o staleAfterSeconds

end Naim.RuntimeSupport
