import Naim.AuthStore
import Naim.Json
import Naim.Programs
import Naim.Text

/-!
# Login, registration and session checks

`AuthHttpService` serves the requests of users, and `AuthSupportService` decides
whose session a request carries. A handler loads and changes the tables one access
at a time; a throw ends it with the changes that were made so far.
-/

namespace Naim.Auth

open Calendar Json

structure HttpRequest where
  method : String := "POST"
  path : String := ""
  (headers queryParams : List (String × String) := [])
  body : String := ""
  deriving DecidableEq

structure HttpResponse where
  statusCode : ℕ
  payload : Json
  headers : List (String × String) := []

/-- The queries that a handler runs; any of them can fail in the database. -/
inductive Query
  | loadUserCount
  | loadUserById
  | loadUserByUsername
  | loadWebAuthnCredentialsForUser
  | loadWebAuthnCredentialById
  | loadRegistrationInviteByToken
  | loadActiveRegistrationInvites
  | loadActiveUserSshKeys
  | loadActiveUserSshKeyByFingerprint
  | loadActiveUserSshKeyById
  | loadActiveAuthSession
  | loadActiveSecuredConnectionUser
  | loadActiveSecuredConnectionUserByFingerprint
  | loadSecuredConnectionUsers
  | loadActiveSecuredConnectionSession
  | loadDesiredState
  deriving DecidableEq

/-- What the process supplies while it serves one request: the json library, the
key functions, the random tokens in the order in which they are drawn, the rows
that a `LIKE` finds, and the errors that the database reports for an access that
no constraint refuses. -/
structure AuthHttpSupport where
  parse : String → Checked Json
  dump : Json → Checked String
  what : Error → String
  randomTokenBase64 : ℕ → Checked String
  hashPassword : String → Checked String
  runWebAuthnHelper : String → Json → Checked Json
  computeSshPublicKeyFingerprint : String → Checked String
  verifySshDetachedSignature : String → String → String → String → Checked Bool
  environment : String → Option String
  like : String → SecuredConnectionUserRecord → Bool
  queryFails : Query → Option Error
  statementFails : Statement → Option Error

def trimIn (blank : Char → Bool) (text : String) : String :=
  String.ofList ((text.toList.dropWhile blank).reverse.dropWhile blank).reverse

def trimCopy (text : String) : String := trimIn (· ∈ [' ','\t','\r','\n']) text

def trim (text : String) : String := trimIn Text.isSpace text

def lowercaseCopy (text : String) : String := String.ofList (text.toList.map Char.toLower)

def startsWith (text start : String) : Bool := start.toList.isPrefixOf text.toList

def before (c : Char) (text : String) : String := String.ofList (text.toList.takeWhile (· ≠ c))

def after (c : Char) (text : String) : String := String.ofList ((text.toList.dropWhile (· ≠ c)).drop 1)

section Request

variable (request : HttpRequest)

def findHeaderString (key : String) : Option String := request.headers.lookup key

def findCookieValue (name : String) : Option String := do
  let header ← findHeaderString request "cookie"
  let items := (Text.parts ';' header).map String.ofList
  let item ← items.find? fun item => '=' ∈ item.toList && trimCopy (before '=' item) = name
  some (trimCopy (after '=' item))

def findBearerToken : Option String := do
  let authorization ← findHeaderString request "authorization"
  if startsWith (lowercaseCopy authorization) "bearer " then
    some (trimCopy (String.ofList (authorization.toList.drop 7)))
  else none

def findControllerSessionToken : Option String :=
  (findHeaderString request "x-naim-session-token").or
    ((findCookieValue request "naim.sid").or (findBearerToken request))

def requestHostHeader : String :=
  ((findHeaderString request "x-forwarded-host").or (findHeaderString request "host")).getD "127.0.0.1:18081"

def hostWithoutPort (host : String) : String :=
  if startsWith host "[" then
    if ']' ∈ host.toList then before ']' (after '[' host) else host
  else before ':' host

def forwardedProto (forwarded : String) : Option String := do
  let rest ← Text.afterFirst "proto=".toList (lowercaseCopy forwarded).toList
  let value := trimCopy (String.ofList (rest.takeWhile (· ∉ [';',',','\t',' '])))
  if value = "" then none else some value

def requestScheme : String :=
  let proto := ((findHeaderString request "x-forwarded-proto").map fun forwarded =>
    trimCopy (before ',' forwarded)).filter
    (· ≠ "")
  match proto.map lowercaseCopy, (findHeaderString request "forwarded").bind forwardedProto with
  | some scheme, _ => scheme
  | none, some scheme => scheme
  | none, none =>
    if (findHeaderString request "x-forwarded-ssl").any fun forwarded => lowercaseCopy (trimCopy forwarded) = "on" then
      "https"
    else if (findHeaderString request "x-forwarded-port").any fun forwarded => trimCopy forwarded = "443" then "https"
    else "http"

def transportScheme : String :=
  match findHeaderString request "x-forwarded-proto" with
  | some forwarded => lowercaseCopy (trim (before ',' forwarded))
  | none =>
    if (findHeaderString request "x-forwarded-ssl").any fun forwarded => lowercaseCopy forwarded = "on" then "https"
    else if findHeaderString request "x-forwarded-port" = some "443" then "https"
    else "http"

def isLocalHostName (host : String) : Bool :=
  lowercaseCopy (hostWithoutPort host) ∈ ["","localhost","127.0.0.1","::1"]

def isSecuredRequestTransportAllowed : Bool :=
  transportScheme request = "https" || isLocalHostName
    (((findHeaderString request "x-forwarded-host").or (findHeaderString request "host")).getD "")

def requestRemoteAddress : String :=
  match findHeaderString request "x-forwarded-for" with
  | some forwarded => before ',' forwarded
  | none => (findHeaderString request "x-real-ip").getD ""

def cookieSuffix : String := if requestScheme request = "https" then "; Secure" else ""

def sessionCookieHeader (token : String) : String × String :=
  ("Set-Cookie","naim.sid=" ++ token ++ "; Path=/; HttpOnly; SameSite=Strict" ++ cookieSuffix request)

def clearSessionCookieHeader : String × String :=
  ("Set-Cookie","naim.sid=; Path=/; HttpOnly; SameSite=Strict; Expires=Thu, 01 Jan 1970 00:00:00 GMT" ++
    cookieSuffix request)

end Request

def sanitizeTokenForPath (text : String) : String :=
  String.ofList (text.toList.map fun c => if c.isAlphanum || c = '-' || c = '_' then c else '_')

def buildSshChallengeMessage (username planeName challengeToken expiresAt : String) : String :=
  "naim-plane-auth\n" ++ username ++ "\n" ++ planeName ++ "\n" ++ challengeToken ++ "\n" ++ expiresAt ++ "\n"

def textOrNull (text : String) : Option Json := some (if text = "" then .null else .str text)

def buildUserPayload (user : UserRecord Int32) : Json :=
  .ofFields [field "id" (some user.id),field "username" (some user.username),
    field "role" (some user.role),field "created_at" (some user.createdAt),
    ("last_login_at",textOrNull user.lastLoginAt)]

def buildInvitePayload (invite : RegistrationInviteRecord Int32) : List (String × Option Json) :=
  [field "id" (some invite.id),field "token" (some invite.token),
    field "created_by_user_id" (some invite.createdByUserId),field "expires_at" (some invite.expiresAt),
    field "created_at" (some invite.createdAt),
    ("used_by_user_id",some (invite.usedByUserId.elim .null toJson)),("used_at",textOrNull invite.usedAt),
    ("revoked_at",textOrNull invite.revokedAt)]

def buildSshKeyPayload (key : UserSshKeyRecord Int32) : Json :=
  .ofFields [field "id" (some key.id),field "user_id" (some key.userId),field "label" (some key.label),
    field "fingerprint" (some key.fingerprint),field "public_key" (some key.publicKey),
    field "created_at" (some key.createdAt),("revoked_at",textOrNull key.revokedAt),
    ("last_used_at",textOrNull key.lastUsedAt)]

def buildSecuredUserSearchText (user : SecuredConnectionUserRecord) : String :=
  user.id ++ " " ++ user.name ++ " " ++ user.publicKey ++ " " ++ user.fingerprint ++ " " ++
    user.lastAuthorizedAt ++ " " ++ user.createdAt ++ " " ++ user.updatedAt

def buildSecuredConnectionUserPayload (user : SecuredConnectionUserRecord) : Json :=
  .ofFields [field "id" (some user.id),field "name" (some user.name),
    field "public_key" (some user.publicKey),field "fingerprint" (some user.fingerprint),
    ("last_authorized_at",textOrNull user.lastAuthorizedAt),field "created_at" (some user.createdAt),
    field "updated_at" (some user.updatedAt),("revoked_at",textOrNull user.revokedAt)]

/-- How a handler ends early: it answers, or it throws. -/
inductive Stop
  | respond (response : HttpResponse)
  | raise (error : Error)

abbrev Handler (α : Type) := ExceptT Stop (Program State) α

section Steps

variable {α : Type}

def checked : Checked α → Handler α
  | .ok a => ExceptT.mk (.done (.ok a))
  | .error e => ExceptT.mk (.done (.error (.raise e)))

def respond (response : HttpResponse) : Handler α := ExceptT.mk (.done (.error (.respond response)))

def onlyIf (c : Bool) (body : Handler Unit) : Handler Unit := if c then body else pure ()

def respondIf (c : Bool) (response : HttpResponse) : Handler Unit := onlyIf c (respond response)

def load (f : State → α) : Handler α := ExceptT.mk (.read fun s => .done (.ok (f s)))

def clock : Handler Instant := load State.now

/-- The clock that a timestamp in the future is counted from. -/
def sqlTimestampAfterSeconds (seconds : ℕ) : Handler String := do
  let now ← clock
  pure (sqlTimestamp (now.seconds + seconds))

def utcNowSqlTimestamp : Handler String := do
  let now ← clock
  pure now.text

def query (support : AuthHttpSupport) (q : Query) (f : State → α) : Handler α :=
  match support.queryFails q with
  | some error => checked (.error error)
  | none => load f

def perform (support : AuthHttpSupport) (statement : Statement) : Handler Unit :=
  match support.statementFails statement with
  | some error => checked (.error error)
  | none => ExceptT.mk (.exec statement.apply fun s => match statement.execute s with
    | .ok _ => .done (.ok ())
    | .error error => .done (.error (.raise error)))

def performFor (support : AuthHttpSupport) (statement : Statement) (report : State → α) : Handler α :=
  match support.statementFails statement with
  | some error => checked (.error error)
  | none => ExceptT.mk (.exec statement.apply fun s => match statement.execute s with
    | .ok _ => .done (.ok (report s))
    | .error error => .done (.error (.raise error)))

end Steps

def statusResponse (statusCode : ℕ) (status : String) : HttpResponse :=
  ⟨statusCode,.ofFields [field "status" (some status)],[]⟩

def messageResponse (statusCode : ℕ) (status message : String) (headers : List (String × String) := []) :
    HttpResponse :=
  ⟨statusCode,.ofFields [field "status" (some status),field "message" (some message)],headers⟩

def methodNotAllowed : HttpResponse := statusResponse 405 "method_not_allowed"

def okResponse (fields : List (String × Option Json)) (headers : List (String × String) := []) : HttpResponse :=
  ⟨200,.ofFields fields,headers⟩

section Service

variable (support : AuthHttpSupport) (request : HttpRequest)

variable (flow : PendingWebAuthnFlow)

def parseJsonBody : Checked Json := if request.body = "" then .ok (.obj []) else support.parse request.body

def resolveWebAuthnRpId : String :=
  (support.environment "NAIM_WEBAUTHN_RP_ID").getD (hostWithoutPort (requestHostHeader request))

def resolveWebAuthnOrigin : String :=
  (support.environment "NAIM_WEBAUTHN_ORIGIN").getD (requestScheme request ++ "://" ++ requestHostHeader request)

def resolveWebAuthnRpName : String := (support.environment "NAIM_WEBAUTHN_RP_NAME").getD "naim-node"

/-- The answer to a throw; some handlers also name the path. -/
def internalError (withPath : Bool) (error : Error) : HttpResponse where
  statusCode := 500
  payload := .ofFields [field "status" (some "internal_error"),field "message" (some (support.what error)),
    field "path" (if withPath then some request.path else none)]

/-- The handlers of ssh verification and of the secured users tell a wrong argument apart. -/
def badArgument (error : Error) : HttpResponse :=
  match error with
  | .invalidArgument _ => ⟨400,.ofFields [field "status" (some "bad_request"),
      field "message" (some (support.what error)),field "path" (some request.path)],[]⟩
  | _ => internalError support request true error

def answering (failed : Error → HttpResponse) (body : Handler HttpResponse) : Program State HttpResponse :=
  body.run.bind fun
    | .ok response => .done response
    | .error (.respond response) => .done response
    | .error (.raise error) => .done (failed error)

def onMethod (method : String) (failed : Error → HttpResponse) (body : Handler HttpResponse) :
    Program State HttpResponse :=
  if request.method ≠ method then .done methodNotAllowed else answering failed body

def authenticateControllerUserSession (sessionKind : Option String) :
    Handler (Option (UserRecord Int32 × AuthSessionRecord)) :=
  match findControllerSessionToken request with
  | none => pure none
  | some token => do
    match ← query support .loadActiveAuthSession (·.loadActiveAuthSession token sessionKind none) with
    | none => pure none
    | some session =>
      match ← query support .loadUserById (·.loadUserById session.userId) with
      | none => pure none
      | some user =>
        let now ← utcNowSqlTimestamp
        perform support (.touchAuthSession session.token now)
        pure (some (user,session))

/-- The call leaves the kind to its default, `"web"`. -/
def requireControllerAdminUser : Handler (Option (UserRecord Int32)) := do
  let session ← authenticateControllerUserSession support request (some "web")
  pure ((session.map Prod.fst).filter (·.role = "admin"))

/-- The part of `AuthenticateProtectedPlaneRequest` for a session of a secured user. -/
def authenticateSecuredSession (token planeName : String) :
    Handler (Option (UserRecord Int32 × AuthSessionRecord)) := do
  match ← query support .loadActiveSecuredConnectionSession
    (·.loadActiveSecuredConnectionSession token planeName) with
  | none => pure none
  | some session =>
    match ← query support .loadActiveSecuredConnectionUser (·.loadActiveSecuredConnectionUser session.userId) with
    | none => pure none
    | some user =>
      let now ← utcNowSqlTimestamp
      perform support (.touchSecuredConnectionSession session.token now)
      pure (some ({id := 0, username := user.name, role := "secured_connection"},{
        token := session.token, userId := 0, sessionKind := "secured_ssh", planeName := session.planeName
        expiresAt := session.expiresAt, createdAt := session.createdAt, revokedAt := session.revokedAt
        lastUsedAt := session.lastUsedAt}))

def authenticateProtectedPlaneRequest (planeName : String) :
    Handler (Option (UserRecord Int32 × AuthSessionRecord)) := do
  match ← authenticateControllerUserSession support request (some "web") with
  | some webSession => pure (some webSession)
  | none =>
    match findControllerSessionToken request with
    | none => pure none
    | some token =>
      match ← query support .loadActiveAuthSession (·.loadActiveAuthSession token (some "ssh") (some planeName)) with
      | none => authenticateSecuredSession support token planeName
      | some sshSession =>
        match ← query support .loadUserById (·.loadUserById sshSession.userId) with
        | none => pure none
        | some user =>
          let now ← utcNowSqlTimestamp
          perform support (.touchAuthSession sshSession.token now)
          pure (some (user,sshSession))

def sessionLifetimeSeconds (sessionKind : String) : ℕ := if sessionKind = "ssh" then 60 * 60 else 12 * 60 * 60

/-- `CreateControllerSession`, with the token that the calls before it have left to be drawn. -/
def createControllerSession (draw : ℕ) (userId : Int32) (sessionKind planeName : String) (origin : Origin) :
    Handler String := do
  let now ← utcNowSqlTimestamp
  let token ← checked (support.randomTokenBase64 draw)
  let expiresAt ← sqlTimestampAfterSeconds (sessionLifetimeSeconds sessionKind)
  perform support (.insertAuthSession {
    token, userId, sessionKind, planeName, expiresAt, createdAt := now, lastUsedAt := now} origin)
  perform support (.updateUserLastLoginAt userId now)
  pure token

def handleState : Program State HttpResponse :=
  onMethod request "GET" (internalError support request false) do
    let session ← authenticateControllerUserSession support request (some "web")
    let count ← query support .loadUserCount State.loadUserCount
    pure (okResponse [field "service" (some "naim-controller"),field "setup_required" (some (count == 0)),
      field "authenticated" (some session.isSome),
      ("user",some (session.elim .null fun session => buildUserPayload session.1)),
      field "rp_id" (some (resolveWebAuthnRpId support request)),
      field "origin" (some (resolveWebAuthnOrigin support request))])

def handleMe : Program State HttpResponse :=
  onMethod request "GET" (internalError support request false) do
    match ← authenticateControllerUserSession support request (some "web") with
    | none => respond (messageResponse 401 "unauthorized" "authentication required" [clearSessionCookieHeader request])
    | some session => pure (okResponse [("user",some (buildUserPayload session.1))])

def handleLogout : Program State HttpResponse :=
  .done (if request.method ≠ "POST" then methodNotAllowed
    else okResponse [field "status" (some "logged_out")] [clearSessionCookieHeader request])

def registrationOptions : Checked Json :=
  support.runWebAuthnHelper "generate-registration-options"
    (.ofFields [field "rpName" (some (resolveWebAuthnRpName support)),field "rpID" (some flow.rpId),
      field "userName" (some flow.username),field "challenge" (some flow.challenge)])

def flowResponse (options : Json) : HttpResponse :=
  okResponse [field "flow_id" (some flow.flowId),field "expires_at" (some flow.expiresAt),
    field "options" (some options)]

def newFlow (flowKind username passwordHash inviteToken : String) (userId : Int32) : Handler PendingWebAuthnFlow := do
  let flowId ← checked (support.randomTokenBase64 0)
  let challenge ← checked (support.randomTokenBase64 1)
  let expiresAt ← sqlTimestampAfterSeconds (5 * 60)
  pure {
    flowId, flowKind, username, passwordHash, inviteToken, userId, challenge
    rpId := resolveWebAuthnRpId support request, origin := resolveWebAuthnOrigin support request
    expiresAt}

def handleBootstrapBegin : Program State HttpResponse :=
  onMethod request "POST" (internalError support request true) do
    let body ← checked (parseJsonBody support request)
    let username ← checked (body.value "username" "")
    let password ← checked (body.value "password" "")
    respondIf (trim username = "" || password = "")
      (messageResponse 400 "bad_request" "username and password are required")
    let count ← query support .loadUserCount State.loadUserCount
    respondIf (count ≠ 0)
      (messageResponse 409 "conflict" "bootstrap is only available before the first user is created")
    let passwordHash ← checked (support.hashPassword password)
    let flow ← newFlow support request "bootstrap" (trim username) passwordHash "" 0
    let options ← checked (registrationOptions support flow)
    perform support (.savePendingWebAuthnFlow flow)
    pure (flowResponse flow options)

def finishedFlow (flowKind missing : String) : Handler (PendingWebAuthnFlow × Json) := do
  let body ← checked (parseJsonBody support request)
  let flowId ← checked (body.value "flow_id" "")
  respondIf (flowId = "" || !body.contains "response")
    (messageResponse 400 "bad_request" "flow_id and response are required")
  match ← load (·.loadPendingWebAuthnFlow flowId) with
  | none => respond (messageResponse 410 "expired" missing)
  | some flow =>
    let now ← utcNowSqlTimestamp
    respondIf (flow.flowKind ≠ flowKind || flow.expiresAt < now) (messageResponse 410 "expired" missing)
    let response ← checked (body.member "response")
    pure (flow,response)

def expectations (response : Json) : List (String × Option Json) :=
  [field "response" (some response),field "expectedChallenge" (some flow.challenge),
    field "expectedOrigin" (some flow.origin),field "expectedRPID" (some flow.rpId)]

def verified (action failed : String) (payload : Json) : Handler Json := do
  let verification ← checked (support.runWebAuthnHelper action payload)
  let valid ← checked (verification.value "verified" false)
  respondIf (!valid) (messageResponse 403 "forbidden" failed)
  pure verification

def readCredential (verification : Json) (userId : Int32) : Checked (WebAuthnCredentialRecord Int32) := do
  let credential ← verification.member "registrationInfo"
  let credentialId ← credential.value "credentialID" ""
  let publicKey ← credential.value "credentialPublicKey" ""
  let counter ← credential.value "counter" (0 : Int32)
  let transports ← credential.value "transports" (arr [])
  let transportsJson ← support.dump transports
  .ok {
    id := 0, userId, credentialId, publicKey, counter := counter.toUInt32
    transportsJson}

/-- The user of the transaction that was just committed. An id that does not fit
an `int` is not found again; the empty result is then dereferenced. -/
def createdUser (userId : Int32) : Handler (UserRecord Int32) := do
  match ← query support .loadUserById (·.loadUserById userId) with
  | some user => pure user
  | none => checked (Checked.fail "bad optional access")

def enrol (verification : Json) (userId : Int32) : Handler HttpResponse := do
  let user ← createdUser support userId
  let credential ← checked (readCredential support verification user.id)
  perform support (.insertWebAuthnCredential credential)
  let token ← createControllerSession support 0 user.id "web" "" (.webAuthnFlow flow.flowId)
  perform support (.erasePendingWebAuthnFlow flow.flowId)
  pure (okResponse [("user",some (buildUserPayload user))] [sessionCookieHeader request token])

/-- The shape of the two finishing handlers: they differ in the flow and in the user's transaction. -/
def finishRegistration (flowKind missing : String) (createUser : PendingWebAuthnFlow → Statement) :
    Program State HttpResponse :=
  onMethod request "POST" (internalError support request true) do
    let (flow,response) ← finishedFlow support request flowKind missing
    let verification ← verified support "verify-registration" "WebAuthn registration verification failed"
      (.ofFields (expectations flow response))
    let userId ← performFor support (createUser flow) fun s => columnInt (s.users.last + 1)
    enrol support request flow verification userId

def handleBootstrapFinish : Program State HttpResponse :=
  finishRegistration support request "bootstrap" "bootstrap flow is missing or expired" fun flow =>
    .createBootstrapAdmin flow.username flow.passwordHash

def validInvite (now : String) (invite : RegistrationInviteRecord Int32) : Bool :=
  invite.revokedAt = "" && invite.usedAt = "" && now ≤ invite.expiresAt

def handleInviteLookup : Program State HttpResponse :=
  onMethod request "GET" (internalError support request false) do
    let token := String.ofList (request.path.toList.drop "/api/v1/auth/invite/".length)
    let invite ← query support .loadRegistrationInviteByToken (·.loadRegistrationInviteByToken token)
    let now ← utcNowSqlTimestamp
    let invite := invite.filter (validInvite now)
    pure ⟨if invite.isSome then 200 else 404,.ofFields [field "valid" (some invite.isSome),
      ("invite",some (invite.elim .null fun invite => .ofFields (buildInvitePayload invite)))],[]⟩

def handleRegisterBegin : Program State HttpResponse :=
  onMethod request "POST" (internalError support request false) do
    let body ← checked (parseJsonBody support request)
    let inviteToken ← checked (body.value "invite_token" "")
    let username ← checked (body.value "username" "")
    let password ← checked (body.value "password" "")
    respondIf (inviteToken = "" || trim username = "" || password = "")
      (messageResponse 400 "bad_request" "invite_token, username, and password are required")
    let invite ← query support .loadRegistrationInviteByToken (·.loadRegistrationInviteByToken inviteToken)
    let now ← utcNowSqlTimestamp
    respondIf (!invite.any (validInvite now))
      (messageResponse 404 "not_found" "invite is missing, expired, revoked, or already used")
    let taken ← query support .loadUserByUsername (·.loadUserByUsername (trim username))
    respondIf taken.isSome (messageResponse 409 "conflict" "username is already taken")
    let passwordHash ← checked (support.hashPassword password)
    let flow ← newFlow support request "register" (trim username) passwordHash inviteToken 0
    let options ← checked (registrationOptions support flow)
    perform support (.savePendingWebAuthnFlow flow)
    pure (flowResponse flow options)

def handleRegisterFinish : Program State HttpResponse :=
  finishRegistration support request "register" "registration flow is missing or expired" fun flow =>
    .createInvitedUser flow.inviteToken flow.username flow.passwordHash

/-- The transports that were stored with a credential; a text that cannot be read counts as none. -/
def storedTransports (credential : WebAuthnCredentialRecord Int32) : Json :=
  if credential.transportsJson = "" then .arr []
  else match support.parse credential.transportsJson with
    | .ok transports => transports
    | .error _ => .arr []

def handleLoginBegin : Program State HttpResponse :=
  onMethod request "POST" (internalError support request false) do
    let body ← checked (parseJsonBody support request)
    let username ← checked (body.value "username" "")
    respondIf (trim username = "") (messageResponse 400 "bad_request" "username is required")
    match ← query support .loadUserByUsername (·.loadUserByUsername (trim username)) with
    | none => respond (messageResponse 404 "not_found" "user not found")
    | some user =>
      let credentials ← query support .loadWebAuthnCredentialsForUser (·.loadWebAuthnCredentialsForUser user.id)
      respondIf credentials.isEmpty (messageResponse 409 "conflict" "user has no registered WebAuthn credentials")
      let flow ← newFlow support request "login" (trim username) "" "" user.id
      let options ← checked (support.runWebAuthnHelper "generate-authentication-options"
        (.ofFields [field "rpID" (some flow.rpId),field "challenge" (some flow.challenge),
          field "allowCredentials" (some (arr (credentials.map fun credential =>
            .ofFields [field "id" (some credential.credentialId),
              field "transports" (some (storedTransports support credential))])))]))
      perform support (.savePendingWebAuthnFlow flow)
      pure (flowResponse flow options)

def credentialPayload (credential : WebAuthnCredentialRecord Int32) : Checked Json := do
  let transports ← if credential.transportsJson = "" then .ok (.arr []) else support.parse credential.transportsJson
  .ok (.ofFields [field "id" (some credential.credentialId),field "publicKey" (some credential.publicKey),
    ("counter",some (.int credential.counter.toNat)),field "transports" (some transports)])

/-- `auth_info.value("newCounter", counter)`, converted to 32 bits. -/
def newCounter (verification : Json) (counter : UInt32) : Checked UInt32 := do
  let authInfo ← verification.member "authenticationInfo"
  if authInfo.isObject then match authInfo.get? "newCounter" with
    | none => .ok counter
    | some (.int z) => .ok (UInt32.ofInt z)
    | some (.float q) => .ok (UInt32.ofInt (truncate q))
    | some (.bool b) => .ok (if b then 1 else 0)
    | some _ => typeError
  else .error (.jsonException 306)

/-- The part of `HandleLoginFinish` after the flow was loaded. -/
def finishLogin (response : Json) : Handler HttpResponse := do
  let credentialId ← checked (response.value "id" "")
  match (← query support .loadWebAuthnCredentialById (·.loadWebAuthnCredentialById credentialId)).filter
    fun credential => credential.userId = flow.userId with
  | none => respond (messageResponse 403 "forbidden" "credential is not registered for this user")
  | some credential =>
    let payload ← checked (credentialPayload support credential)
    let verification ← verified support "verify-authentication" "WebAuthn authentication verification failed"
      (.ofFields (expectations flow response ++ [field "credential" (some payload)]))
    let counter ← checked (newCounter verification credential.counter)
    let now ← utcNowSqlTimestamp
    perform support (.updateWebAuthnCredentialCounter credential.credentialId counter now)
    match ← query support .loadUserById (·.loadUserById flow.userId) with
    | none => respond (messageResponse 404 "not_found" "user not found")
    | some user =>
      let token ← createControllerSession support 0 user.id "web" "" (.webAuthnFlow flow.flowId)
      perform support (.erasePendingWebAuthnFlow flow.flowId)
      pure (okResponse [("user",some (buildUserPayload user))] [sessionCookieHeader request token])

def handleLoginFinish : Program State HttpResponse :=
  onMethod request "POST" (internalError support request true) do
    let (flow,response) ← finishedFlow support request "login" "login flow is missing or expired"
    finishLogin support request flow response

def adminRequired : HttpResponse :=
  messageResponse 401 "unauthorized" "admin session is required" [clearSessionCookieHeader request]

def handleInvites : Program State HttpResponse :=
  answering (internalError support request true) do
    match ← requireControllerAdminUser support request with
    | none => respond (adminRequired request)
    | some admin =>
      if request.method = "GET" then do
        let invites ← query support .loadActiveRegistrationInvites State.loadActiveRegistrationInvites
        pure (okResponse [("items",some (.arr (invites.map fun invite => .ofFields (buildInvitePayload invite ++
          [field "registration_url" (some (resolveWebAuthnOrigin support request ++ "/register/" ++
            invite.token))]))))])
      else if request.method = "POST" then do
        let token ← checked (support.randomTokenBase64 0)
        let expiresAt ← sqlTimestampAfterSeconds (60 * 60)
        perform support (.createRegistrationInvite admin.id (sanitizeTokenForPath token) expiresAt)
        match ← query support .loadRegistrationInviteByToken
          (·.loadRegistrationInviteByToken (sanitizeTokenForPath token)) with
        | none => checked (Checked.fail "bad optional access")
        | some invite => pure (okResponse [("invite",some (.ofFields (buildInvitePayload invite ++
            [field "registration_url" (some (resolveWebAuthnOrigin support request ++ "/register/" ++
              invite.token))])))])
      else respond methodNotAllowed

def pathNumber (start : String) : Checked Int32 := Text.stoi (String.ofList (request.path.toList.drop start.length))

def revokedResponse (revoked : Bool) : HttpResponse :=
  ⟨if revoked then 200 else 404,.ofFields [field "revoked" (some revoked)],[]⟩

def handleInviteDelete : Program State HttpResponse :=
  onMethod request "DELETE" (internalError support request true) do
    match ← requireControllerAdminUser support request with
    | none => respond (adminRequired request)
    | some _ =>
      let inviteId ← checked (pathNumber request "/api/v1/auth/invites/")
      let now ← utcNowSqlTimestamp
      let revoked ← performFor support (.revokeRegistrationInvite inviteId now)
        fun s => s.registrationInvites.rows.any (State.revokesInvite inviteId)
      pure (revokedResponse revoked)

def handleSshKeys : Program State HttpResponse :=
  answering (internalError support request true) do
    match ← authenticateControllerUserSession support request (some "web") with
    | none => respond (messageResponse 401 "unauthorized" "authentication required" [clearSessionCookieHeader request])
    | some session =>
      if request.method = "GET" then do
        let keys ← query support .loadActiveUserSshKeys (·.loadActiveUserSshKeys session.1.id)
        pure (okResponse [("items",some (.arr (keys.map buildSshKeyPayload)))])
      else if request.method = "POST" then do
        let body ← checked (parseJsonBody support request)
        let publicKey ← checked (body.value "public_key" "")
        respondIf (trim publicKey = "") (messageResponse 400 "bad_request" "public_key is required")
        let label ← checked (body.value "label" "")
        let fingerprint ← checked (support.computeSshPublicKeyFingerprint (trim publicKey))
        let key : UserSshKeyRecord Int32 := {
          id := 0, userId := session.1.id, label := trim label, publicKey := trim publicKey
          fingerprint}
        perform support (.insertUserSshKey key)
        let created ← query support .loadActiveUserSshKeyByFingerprint
          (·.loadActiveUserSshKeyByFingerprint session.1.id fingerprint)
        pure (okResponse [("ssh_key",some (buildSshKeyPayload (created.getD key)))])
      else respond methodNotAllowed

def handleSshKeyDelete : Program State HttpResponse :=
  onMethod request "DELETE" (internalError support request true) do
    match ← authenticateControllerUserSession support request (some "web") with
    | none => respond (messageResponse 401 "unauthorized" "authentication required" [clearSessionCookieHeader request])
    | some session =>
      let sshKeyId ← checked (pathNumber request "/api/v1/auth/ssh-keys/")
      let key ← query support .loadActiveUserSshKeyById (·.loadActiveUserSshKeyById sshKeyId)
      respondIf (!key.any (·.userId = session.1.id)) (messageResponse 404 "not_found" "SSH key not found")
      let now ← utcNowSqlTimestamp
      let revoked ← performFor support (.revokeUserSshKey sshKeyId now)
        fun s => s.userSshKeys.rows.any (State.revokesUserSshKey sshKeyId)
      pure (revokedResponse revoked)

def listSecuredUsers : Handler HttpResponse := do
  let search := (request.queryParams.lookup "search").filter (· ≠ "")
  let users ← query support .loadSecuredConnectionUsers (·.loadSecuredConnectionUsers
    (fun user => search.all (support.like · user)) (request.queryParams.lookup "include_revoked" = some "true"))
  pure (okResponse [("items",some (.arr (users.map buildSecuredConnectionUserPayload)))])

def handleUserStorage : Program State HttpResponse :=
  answering (badArgument support request) do
    match ← requireControllerAdminUser support request with
    | none => respond (messageResponse 401 "unauthorized" "admin authentication required")
    | some _ => if request.method = "GET" then listSecuredUsers support request else do
      respondIf (request.method ≠ "POST") methodNotAllowed
      let body ← checked (parseJsonBody support request)
      let token ← checked (support.randomTokenBase64 0)
      let name ← checked (body.value "name" "")
      let publicKey ← checked (body.value "public_key" "")
      respondIf (trim name = "" || trim publicKey = "")
        (messageResponse 400 "bad_request" "name and public_key are required")
      let fingerprint ← checked (support.computeSshPublicKeyFingerprint (trim publicKey))
      let user : SecuredConnectionUserRecord := {
        id := "scu_" ++ sanitizeTokenForPath token, name := trim name, publicKey := trim publicKey
        fingerprint}
      let user := {user with searchText := buildSecuredUserSearchText user}
      perform support (.upsertSecuredConnectionUser user)
      let saved ← query support .loadActiveSecuredConnectionUser (·.loadActiveSecuredConnectionUser user.id)
      pure ⟨201,.ofFields [("item",some (buildSecuredConnectionUserPayload (saved.getD user)))],[]⟩

def patchedUser (body : Json) (user : SecuredConnectionUserRecord) : Checked SecuredConnectionUserRecord := do
  let name ← if body.contains "name" then trim <$> body.value "name" "" else .ok user.name
  let publicKey ← if body.contains "public_key" then trim <$> body.value "public_key" "" else .ok user.publicKey
  let fingerprint ← if body.contains "public_key" then support.computeSshPublicKeyFingerprint publicKey
    else .ok user.fingerprint
  .ok {user with name, publicKey, fingerprint}

def handleUserStorageItem (userId : String) : Program State HttpResponse :=
  answering (badArgument support request) do
    match ← requireControllerAdminUser support request with
    | none => respond (messageResponse 401 "unauthorized" "admin authentication required")
    | some _ =>
      match ← query support .loadActiveSecuredConnectionUser (·.loadActiveSecuredConnectionUser userId) with
      | none => respond (messageResponse 404 "not_found" "user not found")
      | some current =>
        if request.method = "DELETE" then do
          let now ← utcNowSqlTimestamp
          perform support (.revokeSecuredConnectionUser userId now)
          pure (statusResponse 200 "revoked")
        else do
          respondIf (request.method ≠ "PATCH") methodNotAllowed
          let body ← checked (parseJsonBody support request)
          let next ← checked (patchedUser support body current)
          respondIf (next.name = "" || next.publicKey = "")
            (messageResponse 400 "bad_request" "name and public_key are required")
          let next := {next with searchText := buildSecuredUserSearchText next}
          perform support (.upsertSecuredConnectionUser next)
          let saved ← query support .loadActiveSecuredConnectionUser (·.loadActiveSecuredConnectionUser userId)
          pure (okResponse [("item",some (buildSecuredConnectionUserPayload (saved.getD next)))])

def logEntry (planeName userId userName fingerprint eventType outcome message : String) : Statement :=
  .insertSecuredConnectionAuthLog {
    planeName, userId, userName, fingerprint, eventType, outcome, remoteAddr := requestRemoteAddress request
    message}

def refuseIf (c : Bool) (entry : Statement) (response : HttpResponse) : Handler Unit :=
  onlyIf c do
    perform support entry
    respond response

structure ChallengeRequest where
  (username planeName fingerprint : String)
  deriving DecidableEq

def readChallengeRequest (body : Json) : Checked ChallengeRequest := do
  let name ← body.value "name" ""
  let username ← body.value "username" name
  let planeName ← body.value "plane_name" ""
  let fingerprint ← body.value "fingerprint" ""
  .ok ⟨trim username,trim planeName,trim fingerprint⟩

/-- Draw the id and the token of a challenge, save it for five minutes and answer with it. -/
def issueChallenge (logged : Handler Unit) (challenge : PendingSshChallenge) : Handler HttpResponse := do
  let challengeId ← checked (support.randomTokenBase64 0)
  let challengeToken ← checked (support.randomTokenBase64 1)
  let expiresAt ← sqlTimestampAfterSeconds (5 * 60)
  let message := buildSshChallengeMessage challenge.username challenge.planeName challengeToken expiresAt
  perform support (.savePendingSshChallenge {challenge with
    challengeId, challengeToken, expiresAt, message})
  logged
  pure (okResponse [field "challenge_id" (some challengeId),field "challenge_token" (some challengeToken),
    field "expires_at" (some expiresAt),field "message" (some message)])

def securedChallenge (r : ChallengeRequest) (secured : SecuredConnectionFeatureSpec) : Handler HttpResponse := do
  refuseIf support (!isSecuredRequestTransportAllowed request)
    (logEntry request r.planeName "" r.username r.fingerprint "challenge" "rejected"
      "HTTPS/TLS is required for secured connection authentication")
    (messageResponse 403 "forbidden" "secured connection authentication requires HTTPS/TLS")
  match ← query support .loadActiveSecuredConnectionUserByFingerprint
    (·.loadActiveSecuredConnectionUserByFingerprint r.fingerprint) with
  | none => do
    perform support (logEntry request r.planeName "" r.username r.fingerprint "challenge" "rejected"
      "secured connection user or fingerprint not found")
    respond (messageResponse 404 "not_found" "secured connection user or fingerprint not found")
  | some user => do
    refuseIf support (user.id ∉ secured.userIds)
      (logEntry request r.planeName user.id user.name r.fingerprint "challenge" "rejected"
        "user is not allowed for secured plane")
      (messageResponse 403 "forbidden" "user is not allowed for secured plane")
    issueChallenge support
      (perform support (logEntry request r.planeName user.id user.name r.fingerprint "challenge" "accepted" "")) {
        securedConnection := true, securedUserId := user.id, username := user.name, planeName := r.planeName
        fingerprint := r.fingerprint}

def userChallenge (r : ChallengeRequest) : Handler HttpResponse := do
  match ← query support .loadUserByUsername (·.loadUserByUsername r.username) with
  | none => respond (messageResponse 404 "not_found" "user not found")
  | some user =>
    match ← query support .loadActiveUserSshKeyByFingerprint
      (·.loadActiveUserSshKeyByFingerprint user.id r.fingerprint) with
    | none => respond (messageResponse 404 "not_found" "SSH key fingerprint not found for user")
    | some key => issueChallenge support (pure ()) {
        userId := user.id, sshKeyId := key.id, username := user.username, planeName := r.planeName
        fingerprint := r.fingerprint}

def securedConnectionOf (state : DesiredState) : Option SecuredConnectionFeatureSpec :=
  state.securedConnection.filter (·.enabled)

def handleSshChallenge : Program State HttpResponse :=
  onMethod request "POST" (internalError support request true) do
    let body ← checked (parseJsonBody support request)
    let r ← checked (readChallengeRequest body)
    respondIf (r.planeName = "" || r.fingerprint = "")
      (messageResponse 400 "bad_request" "plane_name and fingerprint are required")
    match (← query support .loadDesiredState (·.loadDesiredState r.planeName)).filter (·.protectedPlane) with
    | none => respond (messageResponse 404 "not_found" "protected plane not found")
    | some state => match securedConnectionOf state with
      | some secured => securedChallenge support request r secured
      | none => userChallenge support r

def parseOptionalBooleanField (body : Json) (key : String) (default : Bool) : Checked Bool :=
  match body.get? key with
  | none => .ok default
  | some .null => .ok default
  | some (.bool b) => .ok b
  | some _ => .error (.invalidArgument (key ++ " must be a boolean"))

structure VerifyRequest where
  (challengeId signature : String)
  (issueCookie includeToken : Bool)
  deriving DecidableEq

variable (r : VerifyRequest) (challenge : PendingSshChallenge)

def readVerifyRequest (body : Json) : Checked VerifyRequest := do
  let challengeId ← body.value "challenge_id" ""
  let signature ← body.value "signature" ""
  let issueCookie ← parseOptionalBooleanField body "issue_cookie" false
  let includeToken ← parseOptionalBooleanField body "include_token" (!issueCookie)
  .ok ⟨challengeId,signature,issueCookie,includeToken⟩

def tokenResponse (planeName expiresAt sessionKind token : String) : HttpResponse :=
  okResponse [field "plane_name" (some planeName),field "expires_at" (some expiresAt),
      field "session_kind" (some sessionKind),field "issued_cookie" (if r.issueCookie then some true else none),
      field "token" (if r.includeToken then some token else none)]
    (if r.issueCookie then [sessionCookieHeader request token] else [])

def verifySecuredChallenge : Handler HttpResponse := do
  refuseIf support (!isSecuredRequestTransportAllowed request)
    (logEntry request challenge.planeName challenge.securedUserId challenge.username challenge.fingerprint "verify"
      "rejected" "HTTPS/TLS is required for secured connection authentication")
    (messageResponse 403 "forbidden" "secured connection authentication requires HTTPS/TLS")
  match ← query support .loadActiveSecuredConnectionUser
    (·.loadActiveSecuredConnectionUser challenge.securedUserId) with
  | none => do
    perform support (logEntry request challenge.planeName challenge.securedUserId challenge.username
      challenge.fingerprint "verify" "rejected" "secured connection user not found")
    respond (messageResponse 404 "not_found" "secured connection user not found")
  | some user => do
    let valid ← checked (support.verifySshDetachedSignature challenge.username user.publicKey challenge.message
      r.signature)
    refuseIf support (!valid)
      (logEntry request challenge.planeName user.id user.name challenge.fingerprint "verify" "rejected"
        "SSH signature verification failed")
      (messageResponse 403 "forbidden" "SSH signature verification failed")
    let now ← utcNowSqlTimestamp
    perform support (.touchSecuredConnectionUser user.id now)
    let token ← checked (support.randomTokenBase64 0)
    let expiresAt ← sqlTimestampAfterSeconds (60 * 60)
    perform support (.insertSecuredConnectionSession {
      token, userId := user.id, planeName := challenge.planeName, expiresAt
      lastUsedAt := now} (.sshChallenge r.challengeId))
    perform support (logEntry request challenge.planeName user.id user.name challenge.fingerprint "verify"
      "accepted" "")
    perform support (.erasePendingSshChallenge r.challengeId)
    let answeredUntil ← sqlTimestampAfterSeconds (60 * 60)
    pure (tokenResponse request r challenge.planeName answeredUntil "secured_ssh" token)

def verifyUserChallenge : Handler HttpResponse := do
  match ← query support .loadActiveUserSshKeyById (·.loadActiveUserSshKeyById challenge.sshKeyId) with
  | none => respond (messageResponse 404 "not_found" "SSH key not found")
  | some key => do
    let valid ← checked (support.verifySshDetachedSignature challenge.username key.publicKey challenge.message
      r.signature)
    respondIf (!valid) (messageResponse 403 "forbidden" "SSH signature verification failed")
    let now ← utcNowSqlTimestamp
    perform support (.touchUserSshKey key.id now)
    let token ← createControllerSession support 0 challenge.userId "ssh" challenge.planeName
      (.sshChallenge r.challengeId)
    perform support (.erasePendingSshChallenge r.challengeId)
    let answeredUntil ← sqlTimestampAfterSeconds (60 * 60)
    pure (tokenResponse request r challenge.planeName answeredUntil "ssh" token)

def verifyChallenge : Handler HttpResponse :=
  if challenge.securedConnection then verifySecuredChallenge support request r challenge
  else verifyUserChallenge support request r challenge

def handleSshVerify : Program State HttpResponse :=
  onMethod request "POST" (badArgument support request) do
    let body ← checked (parseJsonBody support request)
    let r ← checked (readVerifyRequest body)
    respondIf (r.challengeId = "" || r.signature = "")
      (messageResponse 400 "bad_request" "challenge_id and signature are required")
    match ← load (·.loadPendingSshChallenge r.challengeId) with
    | none => respond (messageResponse 410 "expired" "SSH challenge is missing or expired")
    | some challenge =>
      let now ← utcNowSqlTimestamp
      respondIf (challenge.expiresAt < now) (messageResponse 410 "expired" "SSH challenge is missing or expired")
      verifyChallenge support request r challenge

end Service

/-- The handlers of `AuthHttpService` that change the tables or decide on a session. -/
inductive Endpoint
  | state
  | me
  | logout
  | bootstrapBegin
  | bootstrapFinish
  | inviteLookup
  | registerBegin
  | registerFinish
  | loginBegin
  | loginFinish
  | invites
  | inviteDelete
  | sshKeys
  | sshKeyDelete
  | userStorage
  | userStorageItem (userId : String)
  | sshChallenge
  | sshVerify
  deriving DecidableEq

def Endpoint.handle (support : AuthHttpSupport) (request : HttpRequest) : Endpoint → Program State HttpResponse
  | state => handleState support request
  | me => handleMe support request
  | logout => handleLogout request
  | bootstrapBegin => handleBootstrapBegin support request
  | bootstrapFinish => handleBootstrapFinish support request
  | inviteLookup => handleInviteLookup support request
  | registerBegin => handleRegisterBegin support request
  | registerFinish => handleRegisterFinish support request
  | loginBegin => handleLoginBegin support request
  | loginFinish => handleLoginFinish support request
  | invites => handleInvites support request
  | inviteDelete => handleInviteDelete support request
  | sshKeys => handleSshKeys support request
  | sshKeyDelete => handleSshKeyDelete support request
  | userStorage => handleUserStorage support request
  | userStorageItem userId => handleUserStorageItem support request userId
  | sshChallenge => handleSshChallenge support request
  | sshVerify => handleSshVerify support request

end Naim.Auth
