import Naim.Json
import Naim.Programs
import Naim.Reconciliation
import Naim.Text

/-!
# The requests of a host

`HostdHttpService` serves the requests of the host agents. Each handler loads the
row of the host, checks the session token that the request carries, opens the
encrypted body, does its work and answers under the session's key. It accesses
the database one statement at a time, with no transaction around the request.
-/

namespace Naim.HostdHttp

open Assignments Json Reconciliation

/-- The columns of `registered_hosts` that the handlers read or write. -/
structure RegisteredHostRecord where
  (nodeName publicKeyBase64 controllerPublicKeyFingerprint : String := "")
  registrationState : String := "registered"
  (derivedRole roleReason lastInventoryScanAt : String := "")
  sessionState : String := "disconnected"
  (sessionToken sessionExpiresAt : String := "")
  (sessionHostSequence sessionControllerSequence : Int64 := 0)
  capabilitiesJson : String := "\x7b\x7d"
  (statusMessage lastSessionAt lastHeartbeatAt : String := "")
  deriving DecidableEq

structure ModelLibraryDownloadJobRecord where
  id : String := ""
  (status phase : String := "queued")
  currentItem : String := ""
  bytesTotal : Option UInt64 := none
  bytesDone : UInt64 := 0
  (errorMessage updatedAt : String := "")
  deriving DecidableEq

structure Store where
  hosts : List RegisteredHostRecord := []
  assignments : Table := {}
  planes : List PlaneRecord := []
  jobs : List ModelLibraryDownloadJobRecord := []
  deriving DecidableEq

structure HttpRequest where
  method : String := "POST"
  path : String := ""
  headers : List (String × String) := []
  body : String := ""
  deriving DecidableEq

structure HttpResponse where
  statusCode : ℕ
  payload : Json

/-- What the process supplies while it serves one request: its clock, the json
library, the key functions. A poll for an assignment runs `now` and at each of
`laterPolls`; `recoveredAt` is the time at which a failed delivery is undone. -/
structure HostdHttpSupport where
  now : ℤ
  laterPolls : List ℤ
  waitedMs : Int32
  recoveredAt : ℤ
  utcNowSqlTimestamp : String
  sqlTimestampAfterSeconds : ℤ → String
  timestampAgeSeconds : String → Option ℤ
  parse : String → Checked Json
  dump : Json → Checked String
  what : Error → String
  randomTokenBase64 : Checked String
  verifyDetachedBase64 : String → String → String → Checked Bool
  decryptEnvelopeBase64 : String × String → String → String → Checked String
  encryptEnvelopeBase64 : String → String → String → Checked (String × String)

/-- A 64 bit number is converted from a number of any kind. -/
instance : Json.Codec Int64 where
  toJson n := .int n.toInt
  get
    | .int z => .ok (Int64.ofInt z)
    | .float q => .ok (Int64.ofInt (truncate q))
    | .bool b => .ok (if b then 1 else 0)
    | _ => typeError
  get_toJson n := by simp

def statusText : HostAssignmentStatus → String
  | .pending => "pending"
  | .claimed => "claimed"
  | .applied => "applied"
  | .failed => "failed"
  | .superseded => "superseded"

def Store.loadRegisteredHost (s : Store) (nodeName : String) : Option RegisteredHostRecord :=
  s.hosts.find? (·.nodeName = nodeName)

/-- The sequence numbers are bound as `int`. -/
def RegisteredHostRecord.stored (host : RegisteredHostRecord) : RegisteredHostRecord :=
  {host with
    sessionHostSequence := host.sessionHostSequence.toInt32.toInt64
    sessionControllerSequence := host.sessionControllerSequence.toInt32.toInt64}

def Store.upsertRegisteredHost (host : RegisteredHostRecord) (s : Store) : Store :=
  {s with hosts := Rows.upsert (·.nodeName) host.stored s.hosts}

def Store.loadModelLibraryDownloadJob (s : Store) (id : String) : Option ModelLibraryDownloadJobRecord :=
  s.jobs.find? (·.id = id)

def Store.upsertModelLibraryDownloadJob (job : ModelLibraryDownloadJobRecord) (s : Store) : Store :=
  {s with jobs := Rows.upsert (·.id) job s.jobs}

def Store.updatePlaneAppliedGeneration (planeName : String) (generation : ℤ) (s : Store) : Store :=
  {s with planes := s.planes.map fun plane =>
    if plane.name = planeName then {plane with appliedGeneration := generation} else plane}

def Store.onAssignments (f : Table → Table) (s : Store) : Store := {s with assignments := f s.assignments}

/-- How a handler ends early: it answers, or it throws. -/
inductive Stop
  | respond (response : HttpResponse)
  | raise (error : Error)

abbrev Handler (α : Type) := ExceptT Stop (Program Store) α

section Steps

variable {α : Type}

def load (f : Store → α) : Handler α := ExceptT.mk (.read fun s => .done (.ok (f s)))

def exec (statement : Store → Store) : Handler Unit := ExceptT.mk (.exec statement fun _ => .done (.ok ()))

def execFor (statement : Store → Store) (report : Store → α) : Handler α :=
  ExceptT.mk (.exec statement fun s => .done (.ok (report s)))

def checked : Checked α → Handler α
  | .ok a => ExceptT.mk (.done (.ok a))
  | .error e => ExceptT.mk (.done (.error (.raise e)))

def respond (response : HttpResponse) : Handler α := ExceptT.mk (.done (.error (.respond response)))

def onlyIf (c : Bool) (body : Handler Unit) : Handler Unit := if c then body else pure ()

def respondIf (c : Bool) (response : HttpResponse) : Handler Unit := onlyIf c (respond response)

end Steps

def statusResponse (statusCode : ℕ) (status : String) : HttpResponse :=
  ⟨statusCode,.ofFields [field "status" (some status)]⟩

def messageResponse (statusCode : ℕ) (status message : String) : HttpResponse :=
  ⟨statusCode,.ofFields [field "status" (some status),field "message" (some message)]⟩

def methodNotAllowed : HttpResponse := statusResponse 405 "method_not_allowed"

def notFound : HttpResponse := statusResponse 404 "not_found"

def invalidSession : HttpResponse := messageResponse 403 "forbidden" "invalid or missing host session"

section Service

variable (support : HostdHttpSupport) (request : HttpRequest)

variable (id : Int32) (action : String) (a : HostAssignment) (statusMessage : String) (host : RegisteredHostRecord)
  (messageType : String)

def internalError (error : Error) : HttpResponse where
  statusCode := 500
  payload := .ofFields [field "status" (some "internal_error"),
    field "message" (some (support.what error)),field "path" (some request.path)]

def answering (body : Handler HttpResponse) : Program Store HttpResponse :=
  body.run.bind fun
    | .ok response => .done response
    | .error (.respond response) => .done response
    | .error (.raise error) => .done (internalError support request error)

def onPost (body : Handler HttpResponse) : Program Store HttpResponse :=
  if request.method ≠ "POST" then .done methodNotAllowed else answering support request body

def accepts (token : String) (expectedNodeName : Option String) (host : RegisteredHostRecord) : Bool :=
  expectedNodeName.all (· = host.nodeName) && host.registrationState = "registered" &&
    (host.sessionExpiresAt = "" || !(support.timestampAgeSeconds host.sessionExpiresAt).any (0 ≤ ·)) &&
    host.sessionToken ≠ "" && host.sessionToken = token

def authenticate (expectedNodeName : Option String) (s : Store) : Option RegisteredHostRecord :=
  match request.headers.lookup "x-naim-host-session", request.headers.lookup "x-naim-host-node" with
  | some token, some nodeName =>
    if token = "" || nodeName = "" then none
    else (s.loadRegisteredHost nodeName).filter (accepts support token expectedNodeName)
  | _, _ => none

def authenticated (expectedNodeName : Option String) : Handler RegisteredHostRecord := do
  match ← load (authenticate support request expectedNodeName) with
  | some host => pure host
  | none => respond invalidSession

def parseJsonBody : Checked Json := if request.body = "" then .ok (.obj []) else support.parse request.body

def buildHostRequestAad (messageType nodeName : String) (sequenceNumber : Int64) : String :=
  "request\n" ++ messageType ++ "\n" ++ nodeName ++ "\n" ++ toString sequenceNumber

def buildHostResponseAad (messageType nodeName : String) (sequenceNumber : Int64) : String :=
  "response\n" ++ messageType ++ "\n" ++ nodeName ++ "\n" ++ toString sequenceNumber

/-- The first part of `ParseEncryptedBody`: a plain body, or the decrypted text
with the row that is written back. -/
def openBody : Checked (Json ⊕ RegisteredHostRecord × String) := do
  let body ← parseJsonBody support request
  let encrypted ← body.value "encrypted" false
  if !encrypted then
    .ok (.inl body)
  else
    let sequenceNumber ← body.value "sequence_number" (0 : Int64)
    if sequenceNumber ≤ host.sessionHostSequence then
      Checked.fail "stale or replayed host session request"
    else
      let nonce ← body.value "nonce" ""
      let ciphertext ← body.value "ciphertext" ""
      let decrypted ← support.decryptEnvelopeBase64 (nonce,ciphertext) host.sessionToken
        (buildHostRequestAad messageType host.nodeName sequenceNumber)
      .ok (.inr ({host with
        sessionHostSequence := sequenceNumber
        sessionExpiresAt := support.sqlTimestampAfterSeconds 600},decrypted))

def parseDecrypted (decrypted : String) : Checked Json :=
  if decrypted = "" then .ok (.obj []) else support.parse decrypted

def parseEncryptedBody : Handler (RegisteredHostRecord × Json) := do
  match ← checked (openBody support request host messageType) with
  | .inl body => pure (host,body)
  | .inr (host,decrypted) =>
    exec (Store.upsertRegisteredHost host)
    let body ← checked (parseDecrypted support decrypted)
    pure (host,body)

/-- The row that the answer continues: the latest one, unless its session was
replaced, in which case nothing is written. -/
def responseHost (latest : Option RegisteredHostRecord) : RegisteredHostRecord × Bool :=
  match latest with
  | none => (host,true)
  | some latest => if latest.sessionToken = host.sessionToken then (latest,true) else (host,false)

def encryptedResponse (payload : Json) : Handler HttpResponse := do
  let latest ← load (·.loadRegisteredHost host.nodeName)
  let current := (responseHost host latest).1
  let sequenceNumber := current.sessionControllerSequence + 1
  onlyIf (responseHost host latest).2
    (exec (Store.upsertRegisteredHost {current with sessionControllerSequence := sequenceNumber}))
  let text ← checked (support.dump payload)
  let envelope ← checked (support.encryptEnvelopeBase64 text host.sessionToken
    (buildHostResponseAad messageType host.nodeName sequenceNumber))
  pure ⟨200,.ofFields [field "encrypted" (some true),field "sequence_number" (some sequenceNumber),
    field "nonce" (some envelope.1),field "ciphertext" (some envelope.2)]⟩

def handleSessionOpen : Program Store HttpResponse :=
  onPost support request do
    let body ← checked (parseJsonBody support request)
    let nodeName ← checked (body.value "node_name" "")
    respondIf (nodeName = "") (messageResponse 400 "bad_request" "missing required field 'node_name'")
    match ← load (·.loadRegisteredHost nodeName) with
    | none => respond (messageResponse 404 "not_found" "host node is not registered")
    | some current =>
      let timestamp ← checked (body.value "timestamp" "")
      let nonce ← checked (body.value "nonce" "")
      let signature ← checked (body.value "signature" "")
      respondIf (timestamp = "" || nonce = "" || signature = "")
        (messageResponse 400 "bad_request" "missing required session handshake fields")
      respondIf (current.publicKeyBase64 = "")
        (messageResponse 403 "forbidden" "registered host is missing public key")
      let verified ← checked (support.verifyDetachedBase64
        ("hostd-session-open\n" ++ nodeName ++ "\n" ++ timestamp ++ "\n" ++ nonce) signature current.publicKeyBase64)
      respondIf (!verified) (messageResponse 403 "forbidden" "invalid host session signature")
      let token ← checked support.randomTokenBase64
      let statusMessage ← checked (body.value "status_message" "session opened")
      let current := {current with
        sessionState := "connected", lastSessionAt := support.utcNowSqlTimestamp, sessionToken := token
        sessionExpiresAt := support.sqlTimestampAfterSeconds 600, sessionHostSequence := 0
        sessionControllerSequence := 0
        statusMessage}
      exec (Store.upsertRegisteredHost current)
      pure ⟨200,.ofFields [field "service" (some "naim-controller"),field "node_name" (some nodeName),
        field "session_state" (some current.sessionState),field "last_session_at" (some current.lastSessionAt),
        field "session_token" (some current.sessionToken),
        field "controller_public_key_fingerprint" (some current.controllerPublicKeyFingerprint),
        field "controller_sequence" (some current.sessionControllerSequence)]⟩

def handleSessionHeartbeat : Program Store HttpResponse :=
  onPost support request do
    let host ← authenticated support request none
    let (current,decrypted) ← parseEncryptedBody support request host "session/heartbeat"
    let nodeName ← checked (decrypted.value "node_name" current.nodeName)
    respondIf (nodeName = "" || nodeName ≠ current.nodeName)
      (messageResponse 403 "forbidden" "node mismatch for host heartbeat")
    let sessionState ← checked (decrypted.value "session_state" "connected")
    let statusMessage ← checked (decrypted.value "status_message" "heartbeat")
    let current := {current with
      sessionState, lastHeartbeatAt := support.utcNowSqlTimestamp, lastSessionAt := support.utcNowSqlTimestamp
      statusMessage}
    exec (Store.upsertRegisteredHost current)
    encryptedResponse support current "session/heartbeat"
      (.ofFields [field "service" (some "naim-controller"),field "node_name" (some nodeName),
        field "session_state" (some current.sessionState),
        field "last_heartbeat_at" (some current.lastHeartbeatAt)])

def progressOf : Checked Json :=
  if a.progressJson ≠ "" && a.progressJson ≠ "\x7b\x7d" then support.parse a.progressJson else .ok .null

def buildAssignmentPayloadItem : Checked Json := do
  let progress ← progressOf support a
  .ok (.ofFields [("id",some (.int a.id)),field "node_name" (some a.nodeName),
    field "plane_name" (some a.planeName),("desired_generation",some (.int a.desiredGeneration)),
    ("attempt_count",some (.int a.attemptCount)),("max_attempts",some (.int a.maxAttempts)),
    field "assignment_type" (some a.assignmentType),field "desired_state_json" (some a.desiredStateJson),
    field "artifacts_root" (some a.artifactsRoot),field "status" (some (statusText a.status)),
    field "status_message" (some a.statusMessage),field "progress" (some progress)])

structure NextRequest where
  nodeName : Option String
  waitMs : Int32
  preferredControlTransport : String
  deriving DecidableEq

def readNextRequest (decrypted : Json) : Checked NextRequest := do
  let nodeName ← decrypted.present "node_name"
  let waitMs ← decrypted.value "wait_ms" (15000 : Int32)
  let preferredControlTransport ← decrypted.value "preferred_control_transport" "http-long-poll"
  .ok ⟨nodeName,max 1000 (min 30000 waitMs),preferredControlTransport⟩

def prepareNext : Handler (RegisteredHostRecord × String × NextRequest) := do
  let host ← authenticated support request none
  let (host,decrypted) ← parseEncryptedBody support request host "assignments/next"
  let next ← checked (readNextRequest decrypted)
  respondIf (next.preferredControlTransport ≠ "http-long-poll")
    (messageResponse 400 "bad_request" "hostd assignment protocol requires http-long-poll")
  respondIf (next.nodeName.getD "" = "")
    (messageResponse 400 "bad_request" "missing required query parameter 'node'")
  pure (host,next.nodeName.getD "",next)

def claimOr (nodeName : String) (now : ℤ) (otherwise : Program Store (Option HostAssignment)) :
    Program Store (Option HostAssignment) :=
  .exec (Store.onAssignments fun t => (claimNextHostAssignment now t nodeName).1) fun s =>
    match (claimNextHostAssignment now s.assignments nodeName).2 with
    | some a => .done (some a)
    | none => otherwise

def claimLoop (nodeName : String) : ℤ → List ℤ → Program Store (Option HostAssignment)
  | now, [] => claimOr nodeName now (.done none)
  | now, next::later => claimOr nodeName now (claimLoop nodeName next later)

def deliverNext (nodeName : String) (next : NextRequest)
    (claimed : Option HostAssignment) : Handler HttpResponse := do
  let item ← checked (claimed.elim (.ok .null) (buildAssignmentPayloadItem support))
  encryptedResponse support host "assignments/next"
    (.ofFields [field "service" (some "naim-controller"),field "node_name" (some nodeName),
      field "transport_mode" (some "http-long-poll"),
      field "preferred_control_transport" (some next.preferredControlTransport),
      field "wait_ms" (some next.waitMs),field "waited_ms" (some support.waitedMs),
      field "assignment" (some item)])

def recoverClaim (error : Error) : Option HostAssignment → Program Store Unit
  | none => .done ()
  | some a => .exec (Store.onAssignments fun t => transitionClaimedHostAssignment support.recoveredAt t a.id .pending
      ("assignment claim response failed before delivery: " ++ support.what error)) fun _ => .done ()

/-- The part of `HandleNextAssignment` from the claim on, with the assignment that the answer carries. -/
def claimAndDeliver (nodeName : String) (next : NextRequest) :
    Program Store (HttpResponse × Option HostAssignment) := do
  let claimed ← claimLoop nodeName support.now support.laterPolls
  match ← (deliverNext support host nodeName next claimed).run with
  | .ok response => pure (response,claimed)
  | .error (.respond response) => pure (response,claimed)
  | .error (.raise error) => do
    recoverClaim support error claimed
    pure (internalError support request error,none)

def handleNextAssignment : Program Store (HttpResponse × Option HostAssignment) :=
  if request.method ≠ "POST" then .done (methodNotAllowed,none)
  else (prepareNext support request).run.bind fun
    | .ok (host,nodeName,next) => claimAndDeliver support request host nodeName next
    | .error (.respond response) => .done (response,none)
    | .error (.raise error) => .done (internalError support request error,none)

def downloadJobId : Checked String :=
  match support.parse a.desiredStateJson with
  | .ok payload => if payload.isObject then payload.value "job_id" "" else .ok ""
  | .error _ => .ok ""

def updateDownloadJob
    (f : ModelLibraryDownloadJobRecord → Checked ModelLibraryDownloadJobRecord) : Handler Unit := do
  let jobId ← checked (downloadJobId support a)
  if jobId = "" then
    pure ()
  else
    match ← load (·.loadModelLibraryDownloadJob jobId) with
    | none => pure ()
    | some job => do
      let job ← checked (f job)
      exec (Store.upsertModelLibraryDownloadJob {job with updatedAt := support.utcNowSqlTimestamp})

def reportedBytes (body : Json) (key : String) : Option UInt64 :=
  match body.get? key with
  | some (.int z) => some (Int64.ofInt z).toUInt64
  | _ => none

def progressJob (body : Json) (job : ModelLibraryDownloadJobRecord) : Checked ModelLibraryDownloadJobRecord := do
  let phase ← body.value "phase" "running"
  let detail ← body.value "detail" ""
  .ok {job with
    status := "running", phase, currentItem := detail
    bytesDone := (reportedBytes body "bytes_done").getD job.bytesDone
    bytesTotal := (reportedBytes body "bytes_total").or job.bytesTotal}

def completeJob (job : ModelLibraryDownloadJobRecord) : ModelLibraryDownloadJobRecord :=
  {job with
    status := "completed", phase := "completed", currentItem := "", errorMessage := ""
    bytesDone := job.bytesTotal.getD job.bytesDone}

def failJob (job : ModelLibraryDownloadJobRecord) : ModelLibraryDownloadJobRecord :=
  {job with status := "failed", phase := "failed", errorMessage := statusMessage}

def convergedGeneration (assignments : List HostAssignment) (generation : ℤ) : Bool :=
  (buildLatestAssignmentsByNode assignments).all fun entry =>
    entry.2.assignmentType ≠ "apply-node-state" || entry.2.desiredGeneration ≠ generation ||
      entry.2.status = .applied || entry.2.status = .superseded

def loadAssignment (s : Store) (id : Int32) : Option HostAssignment :=
  if id < 0 then none else loadHostAssignment s.assignments id.toNatClampNeg

def transitionClaimed (id : ℕ) (status : HostAssignmentStatus) (statusMessage : String) : Handler Bool :=
  execFor (Store.onAssignments fun t => transitionClaimedHostAssignment support.now t id status statusMessage)
    fun s => transitions s.assignments id

def reportProgress (body : Json) : Handler Bool := do
  let progressJson ← checked (support.dump body)
  let updated ← execFor (Store.onAssignments fun t => updateHostAssignmentProgress support.now t a.id progressJson)
    fun s => transitions s.assignments a.id
  onlyIf (a.assignmentType = "model-library-download") (updateDownloadJob support a (progressJob body))
  pure updated

/-- The plane's applied generation follows its assignments. -/
def advanceAppliedGeneration : Handler Unit := do
  let assignments ← load fun s => loadHostAssignments s.assignments none none (some a.planeName)
  onlyIf (convergedGeneration assignments a.desiredGeneration)
    (exec (Store.updatePlaneAppliedGeneration a.planeName a.desiredGeneration))

def reportApplied : Handler Bool := do
  let updated ← transitionClaimed support a.id .applied statusMessage
  onlyIf (updated && a.assignmentType = "model-library-download")
    (updateDownloadJob support a fun job => .ok (completeJob job))
  onlyIf (updated && a.assignmentType = "apply-node-state") (advanceAppliedGeneration a)
  pure updated

def reportFailed (retry : Bool) : Handler Bool := do
  let updated ← transitionClaimed support a.id (if retry then .pending else .failed) statusMessage
  onlyIf (updated && a.assignmentType = "model-library-download" && !retry)
    (updateDownloadJob support a fun job => .ok (failJob statusMessage job))
  pure updated

def assignmentPath : String := "assignments/" ++ toString id ++ "/" ++ action

def updatedPayload (updated : Bool) (id : Int32) : List (String × Option Json) :=
  [field "service" (some "naim-controller"),field "updated" (some updated),
    field "assignment_id" (some id)]

def performAction : Handler HttpResponse := do
  let (host,body) ← parseEncryptedBody support request host (assignmentPath id action)
  let statusMessage ← checked (body.value "status_message" "")
  if action = "progress" then do
    let updated ← reportProgress support a body
    encryptedResponse support host (assignmentPath id "progress") (.ofFields (updatedPayload updated id))
  else if action = "applied" then do
    let updated ← reportApplied support a statusMessage
    encryptedResponse support host (assignmentPath id "applied") (.ofFields (updatedPayload updated id))
  else if action = "failed" then do
    let retry ← checked (body.value "retry" false)
    let updated ← reportFailed support a statusMessage retry
    encryptedResponse support host (assignmentPath id "failed")
      (.ofFields (updatedPayload updated id ++ [field "retry" (some retry)]))
  else
    pure notFound

def assignmentAction : Handler HttpResponse := do
  match ← load (loadAssignment · id) with
  | none => respond (messageResponse 404 "not_found" "assignment not found")
  | some a =>
    let host ← authenticated support request (some a.nodeName)
    performAction support request id action a host

/-- `HandleAssignmentAction`; an id that is not a number throws past the handler. -/
def handleAssignmentAction : Program Store (Checked HttpResponse) :=
  let remainder := request.path.toList.drop "/api/v1/hostd/assignments/".length
  if '/' ∉ remainder then .done (.ok notFound)
  else match Text.stoi (String.ofList (remainder.takeWhile (· ≠ '/'))) with
    | .error e => .done (.error e)
    | .ok id => .ok <$> onPost support request
        (assignmentAction support request id (String.ofList ((remainder.dropWhile (· ≠ '/')).drop 1)))

/-- What the inventory of an observation makes of the host's row. -/
structure Inventory where
  (derivedRole roleReason capabilitiesJson : String)
  deriving DecidableEq

def refreshInventory (inventory : RegisteredHostRecord → Json → Checked Inventory) (body : Json) (nodeName : String) :
    Handler Unit := do
  match ← load (·.loadRegisteredHost nodeName) with
  | none => pure ()
  | some current => do
    let found ← checked (inventory current body)
    exec (Store.upsertRegisteredHost {current with
      derivedRole := found.derivedRole, roleReason := found.roleReason
      lastInventoryScanAt := support.utcNowSqlTimestamp, capabilitiesJson := found.capabilitiesJson})

/-- `HandleObservations`. `readPayload` gives the node of the observation that the
body holds, `record` stores it with its peer links, and `inventory` is what the
row's capabilities and the observation derive. -/
def handleObservations (readPayload : Json → Checked String) (record : Json → Handler Unit)
    (inventory : RegisteredHostRecord → Json → Checked Inventory) : Program Store HttpResponse :=
  onPost support request do
    let host ← authenticated support request none
    let (host,body) ← parseEncryptedBody support request host "observations/upsert"
    let nodeName ← checked (readPayload body)
    respondIf (nodeName = "") (messageResponse 400 "bad_request" "missing required field 'node_name'")
    respondIf (host.nodeName ≠ nodeName) (messageResponse 403 "forbidden" "node mismatch for host observation")
    record body
    refreshInventory support inventory body nodeName
    encryptedResponse support host "observations/upsert"
      (.ofFields [field "service" (some "naim-controller"),field "node_name" (some nodeName),
        field "updated" (some true)])

def handleEncrypted (serve : RegisteredHostRecord → Json → Handler Json) : Program Store HttpResponse :=
  onPost support request do
    let host ← authenticated support request none
    let (host,body) ← parseEncryptedBody support request host messageType
    let payload ← serve host body
    encryptedResponse support host messageType payload

end Service

def revokeHost (nodeName : String) (statusMessage : Option String) : Handler Unit := do
  match ← load (·.loadRegisteredHost nodeName) with
  | none => checked (Checked.fail ("registered host '" ++ nodeName ++ "' not found"))
  | some host => exec (Store.upsertRegisteredHost {host with
      registrationState := "revoked", sessionState := "revoked", sessionToken := "", sessionExpiresAt := ""
      sessionHostSequence := 0, sessionControllerSequence := 0
      statusMessage := statusMessage.getD "revoked by operator"})

def plainSupport (body : Json) : HostdHttpSupport where
  now := 100
  laterPolls := []
  waitedMs := 0
  recoveredAt := 100
  utcNowSqlTimestamp := "2026-01-01 00:01:40"
  sqlTimestampAfterSeconds _ := "2026-01-01 00:11:40"
  timestampAgeSeconds _ := none
  parse _ := .ok body
  dump _ := .ok "text"
  what _ := "error"
  randomTokenBase64 := .ok "token"
  verifyDetachedBase64 _ _ _ := .ok true
  decryptEnvelopeBase64 _ _ _ := .ok "text"
  encryptEnvelopeBase64 _ _ _ := .ok ("nonce","ciphertext")

end Naim.HostdHttp
