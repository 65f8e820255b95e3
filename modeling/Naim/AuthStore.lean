import Naim.Calendar
import Naim.Models
import Naim.Tables

/-!
# The tables of users and sessions

The part of the controller's database that `AuthRepository` works on, with the
pending flows that the process keeps in memory. Each statement of the repository
either changes the tables or is refused by a constraint.
-/

namespace Naim.Auth

open Calendar Tables

/-- A row of `users`. The key of a row is a 64 bit number of the database; the
program holds it as an `int`. -/
structure UserRecord (ι : Type) where
  id : ι
  (username role passwordHash createdAt updatedAt lastLoginAt : String := "")
  deriving DecidableEq

structure WebAuthnCredentialRecord (ι : Type) where
  id : ι
  userId : Int32 := 0
  (credentialId publicKey : String := "")
  counter : UInt32 := 0
  transportsJson : String := "[]"
  (createdAt updatedAt lastUsedAt : String := "")
  deriving DecidableEq

structure RegistrationInviteRecord (ι : Type) where
  id : ι
  token : String := ""
  createdByUserId : Int32 := 0
  (expiresAt createdAt : String := "")
  usedByUserId : Option Int32 := none
  (usedAt revokedAt : String := "")
  deriving DecidableEq

structure UserSshKeyRecord (ι : Type) where
  id : ι
  userId : Int32 := 0
  (label publicKey fingerprint createdAt revokedAt lastUsedAt : String := "")
  deriving DecidableEq

structure AuthSessionRecord where
  token : String := ""
  userId : Int32 := 0
  (sessionKind planeName expiresAt createdAt revokedAt lastUsedAt : String := "")
  deriving DecidableEq

structure SecuredConnectionUserRecord where
  (id name publicKey fingerprint searchText lastAuthorizedAt createdAt updatedAt revokedAt : String := "")
  deriving DecidableEq

structure SecuredConnectionSessionRecord where
  (token userId planeName expiresAt createdAt revokedAt lastUsedAt : String := "")
  deriving DecidableEq

structure SecuredConnectionAuthLogRecord where
  (planeName userId userName fingerprint eventType outcome remoteAddr message : String := "")
  deriving DecidableEq

structure PendingWebAuthnFlow where
  (flowId flowKind username passwordHash inviteToken : String := "")
  userId : Int32 := 0
  (challenge rpId origin expiresAt : String := "")
  deriving DecidableEq

structure PendingSshChallenge where
  challengeId : String := ""
  (userId sshKeyId : Int32 := 0)
  securedUserId : String := ""
  securedConnection : Bool := false
  (username planeName fingerprint challengeToken message expiresAt : String := "")
  deriving DecidableEq

/-- The pending entry that a session is created for. -/
inductive Origin
  | sshChallenge (challengeId : String)
  | webAuthnFlow (flowId : String)
  deriving DecidableEq

/-- What the statements below record of the past; no function of the program reads it. -/
inductive Entry
  | session (origin : Origin) (token planeName : String)
  | invitedUser (inviteId : ℕ)
  | bootstrapUser
  deriving DecidableEq

structure State where
  now : Instant := {}
  users : Serial (UserRecord ℕ) UserRecord.id := ∅
  webAuthnCredentials : Serial (WebAuthnCredentialRecord ℕ) WebAuthnCredentialRecord.id := ∅
  registrationInvites : Serial (RegistrationInviteRecord ℕ) RegistrationInviteRecord.id := ∅
  userSshKeys : Serial (UserSshKeyRecord ℕ) UserSshKeyRecord.id := ∅
  authSessions : Keyed AuthSessionRecord AuthSessionRecord.token := ∅
  securedConnectionUsers : Keyed SecuredConnectionUserRecord SecuredConnectionUserRecord.id := ∅
  securedConnectionSessions : Keyed SecuredConnectionSessionRecord SecuredConnectionSessionRecord.token := ∅
  securedConnectionAuthLog : List SecuredConnectionAuthLogRecord := []
  planes : List DesiredState := []
  pendingWebAuthnFlows : List (String × PendingWebAuthnFlow) := []
  pendingSshChallenges : List (String × PendingSshChallenge) := []
  history : List Entry := []

def columnInt (n : ℕ) : Int32 := Int32.ofNat n

/-- `id = ?` with a parameter that was bound by `BindInt`. -/
def hasId (id : Int32) (n : ℕ) : Bool := (n : ℤ) = id.toInt

def readUser (row : UserRecord ℕ) : UserRecord Int32 where
  id := columnInt row.id
  username := row.username
  role := row.role
  passwordHash := row.passwordHash
  createdAt := row.createdAt
  updatedAt := row.updatedAt
  lastLoginAt := row.lastLoginAt

def readWebAuthnCredential (row : WebAuthnCredentialRecord ℕ) : WebAuthnCredentialRecord Int32 where
  id := columnInt row.id
  userId := row.userId
  credentialId := row.credentialId
  publicKey := row.publicKey
  counter := row.counter
  transportsJson := row.transportsJson
  createdAt := row.createdAt
  updatedAt := row.updatedAt
  lastUsedAt := row.lastUsedAt

def readRegistrationInvite (row : RegistrationInviteRecord ℕ) : RegistrationInviteRecord Int32 where
  id := columnInt row.id
  token := row.token
  createdByUserId := row.createdByUserId
  expiresAt := row.expiresAt
  createdAt := row.createdAt
  usedByUserId := row.usedByUserId
  usedAt := row.usedAt
  revokedAt := row.revokedAt

def readUserSshKey (row : UserSshKeyRecord ℕ) : UserSshKeyRecord Int32 where
  id := columnInt row.id
  userId := row.userId
  label := row.label
  publicKey := row.publicKey
  fingerprint := row.fingerprint
  createdAt := row.createdAt
  revokedAt := row.revokedAt
  lastUsedAt := row.lastUsedAt

namespace State

variable (s : State)

variable (sshKeyId : Int32) (username role passwordHash : String) (userId : Int32)

def unexpired (expiresAt : String) : Bool := s.now.text ≤ expiresAt

def loadUserCount : Int32 := columnInt s.users.rows.length

def loadUserById : Option (UserRecord Int32) :=
  (s.users.rows.find? fun user => hasId userId user.id).map readUser

def loadUserByUsername (username : String) : Option (UserRecord Int32) :=
  (s.users.rows.find? (·.username = username)).map readUser

def loadWebAuthnCredentialsForUser : List (WebAuthnCredentialRecord Int32) :=
  (s.webAuthnCredentials.rows.filter (·.userId = userId)).map readWebAuthnCredential

def loadWebAuthnCredentialById (credentialId : String) : Option (WebAuthnCredentialRecord Int32) :=
  (s.webAuthnCredentials.rows.find? (·.credentialId = credentialId)).map
    readWebAuthnCredential

def loadRegistrationInviteByToken (token : String) : Option (RegistrationInviteRecord Int32) :=
  (s.registrationInvites.rows.find? (·.token = token)).map readRegistrationInvite

def usableInvite (invite : RegistrationInviteRecord ℕ) : Bool :=
  invite.revokedAt = "" && invite.usedAt = "" && s.unexpired invite.expiresAt

def loadActiveRegistrationInvites : List (RegistrationInviteRecord Int32) :=
  (Rows.sortBy (fun a b => b.createdAt < a.createdAt || a.createdAt = b.createdAt && b.id < a.id)
    (s.registrationInvites.rows.filter s.usableInvite)).map readRegistrationInvite

def loadActiveUserSshKeys : List (UserSshKeyRecord Int32) :=
  (s.userSshKeys.rows.filter fun key => key.userId = userId && key.revokedAt = "").map readUserSshKey

def loadActiveUserSshKeyByFingerprint (fingerprint : String) : Option (UserSshKeyRecord Int32) :=
  (s.userSshKeys.rows.find? fun key =>
    key.userId = userId && key.fingerprint = fingerprint && key.revokedAt = "").map readUserSshKey

def loadActiveUserSshKeyById : Option (UserSshKeyRecord Int32) :=
  (s.userSshKeys.rows.find? fun key => hasId sshKeyId key.id && key.revokedAt = "").map readUserSshKey

/-- The kind and the plane are conditions of the query only when they are given. -/
def loadActiveAuthSession (token : String) (sessionKind planeName : Option String) : Option AuthSessionRecord :=
  s.authSessions.rows.find? fun session => session.token = token && session.revokedAt = "" &&
    s.unexpired session.expiresAt && sessionKind.all (session.sessionKind = ·) && planeName.all (session.planeName = ·)

def loadActiveSecuredConnectionUser (userId : String) : Option SecuredConnectionUserRecord :=
  s.securedConnectionUsers.rows.find? fun user => user.id = userId && user.revokedAt = ""

def loadActiveSecuredConnectionUserByFingerprint (fingerprint : String) : Option SecuredConnectionUserRecord :=
  s.securedConnectionUsers.rows.find? fun user => user.fingerprint = fingerprint && user.revokedAt = ""

/-- The users in the order of their names, with or without the revoked ones. -/
def loadSecuredConnectionUsers (found : SecuredConnectionUserRecord → Bool) (includeRevoked : Bool) :
    List SecuredConnectionUserRecord :=
  Rows.sortBy (fun a b => a.name < b.name)
    (s.securedConnectionUsers.rows.filter fun user => (includeRevoked || user.revokedAt = "") && found user)

def loadActiveSecuredConnectionSession (token planeName : String) : Option SecuredConnectionSessionRecord :=
  s.securedConnectionSessions.rows.find? fun session => session.token = token && session.planeName = planeName &&
    session.revokedAt = "" && s.unexpired session.expiresAt

def loadDesiredState (planeName : String) : Option DesiredState := s.planes.find? (·.planeName = planeName)

def loadPendingWebAuthnFlow (flowId : String) : Option PendingWebAuthnFlow := s.pendingWebAuthnFlows.lookup flowId

def loadPendingSshChallenge (challengeId : String) : Option PendingSshChallenge :=
  s.pendingSshChallenges.lookup challengeId

def hasUser : Bool := s.users.rows.any fun user => hasId userId user.id

def record (entry : Entry) : State := {s with history := s.history ++ [entry]}

def uniqueViolation {α : Type} (column : String) : Checked α :=
  Checked.fail ("sqlite step done failed: UNIQUE constraint failed: " ++ column)

def foreignKeyViolation {α : Type} : Checked α :=
  Checked.fail "sqlite step done failed: FOREIGN KEY constraint failed"

def newUser (id : ℕ) : UserRecord ℕ where
  id
  username
  role
  passwordHash
  createdAt := s.now.text
  updatedAt := s.now.text

def withUser : State :=
  {s with users := s.users.add (s.newUser username role passwordHash) fun _ => rfl}

/-- `INSERT INTO users`, under the unique name and the index that admits one admin. -/
def addUser : Checked State :=
  if s.users.rows.any fun user => user.username = username then uniqueViolation "users.username"
  else if role = "admin" && s.users.rows.any fun user => user.role = "admin" then uniqueViolation "users.role"
  else .ok (s.withUser username role passwordHash)

def createBootstrapAdmin (username passwordHash : String) : Checked State :=
  if s.loadUserCount ≠ 0 then Checked.fail "bootstrap admin can be created only when user base is empty"
  else (·.record .bootstrapUser) <$> s.addUser username "admin" passwordHash

def withInviteUsed (inviteId userId : Int32) : State :=
  let registrationInvites := s.registrationInvites.update (fun row => hasId inviteId row.id)
    (fun row => {row with usedByUserId := some userId, usedAt := s.now.text}) fun _ => rfl
  {s with registrationInvites}

def markInviteUsed (inviteId userId : Int32) : Checked State :=
  if (s.registrationInvites.rows.any fun row => hasId inviteId row.id) && !s.hasUser userId then foreignKeyViolation
  else .ok (s.withInviteUsed inviteId userId)

/-- The transaction of `CreateInvitedUser`. The invite is marked through its key, read back as an `int`. -/
def createInvitedUser (inviteToken username passwordHash : String) : Checked State :=
  match s.registrationInvites.rows.find? fun invite => invite.token = inviteToken && s.usableInvite invite with
  | none => Checked.fail "invite token is missing, expired, or already used"
  | some invite => do
    let added ← s.addUser username "user" passwordHash
    let marked ← added.markInviteUsed (columnInt invite.id) (columnInt added.users.last)
    .ok (marked.record (.invitedUser invite.id))

def updateUserLastLoginAt (lastLoginAt : String) : State :=
  let users := s.users.update (fun user => hasId userId user.id)
    (fun user => {user with lastLoginAt, updatedAt := s.now.text}) fun _ => rfl
  {s with users}

def newWebAuthnCredential (credential : WebAuthnCredentialRecord Int32) (id : ℕ) : WebAuthnCredentialRecord ℕ where
  id
  userId := credential.userId
  credentialId := credential.credentialId
  publicKey := credential.publicKey
  counter := credential.counter
  transportsJson := credential.transportsJson
  createdAt := s.now.text
  updatedAt := s.now.text

def insertWebAuthnCredential (credential : WebAuthnCredentialRecord Int32) : Checked State :=
  if s.webAuthnCredentials.rows.any fun row => row.credentialId = credential.credentialId then
    uniqueViolation "webauthn_credentials.credential_id"
  else if !s.hasUser credential.userId then foreignKeyViolation
  else .ok {s with webAuthnCredentials :=
    s.webAuthnCredentials.add (s.newWebAuthnCredential credential) fun _ => rfl}

def updateWebAuthnCredentialCounter (credentialId : String) (counter : UInt32) (lastUsedAt : String) : State :=
  let webAuthnCredentials := s.webAuthnCredentials.update (·.credentialId = credentialId)
    (fun row => {row with counter, lastUsedAt, updatedAt := s.now.text}) fun _ => rfl
  {s with webAuthnCredentials}

def newInvite (createdByUserId : Int32) (token expiresAt : String) (id : ℕ) : RegistrationInviteRecord ℕ where
  id
  token
  createdByUserId
  expiresAt
  createdAt := s.now.text

def createRegistrationInvite (createdByUserId : Int32) (token expiresAt : String) : Checked State :=
  if s.registrationInvites.rows.any fun row => row.token = token then uniqueViolation "registration_invites.token"
  else if !s.hasUser createdByUserId then foreignKeyViolation
  else .ok {s with registrationInvites :=
    s.registrationInvites.add (s.newInvite createdByUserId token expiresAt) fun _ => rfl}

def revokesInvite (inviteId : Int32) (row : RegistrationInviteRecord ℕ) : Bool :=
  hasId inviteId row.id && row.revokedAt = "" && row.usedAt = ""

def revokeRegistrationInvite (inviteId : Int32) (revokedAt : String) : State :=
  let registrationInvites := s.registrationInvites.update (revokesInvite inviteId)
    (fun row => {row with revokedAt}) fun _ => rfl
  {s with registrationInvites}

def newUserSshKey (key : UserSshKeyRecord Int32) (id : ℕ) : UserSshKeyRecord ℕ where
  id
  userId := key.userId
  label := key.label
  publicKey := key.publicKey
  fingerprint := key.fingerprint
  createdAt := s.now.text

def insertUserSshKey (key : UserSshKeyRecord Int32) : Checked State :=
  if s.userSshKeys.rows.any fun row => row.userId = key.userId && row.fingerprint = key.fingerprint then
    uniqueViolation "user_ssh_keys.user_id, user_ssh_keys.fingerprint"
  else if !s.hasUser key.userId then foreignKeyViolation
  else .ok {s with userSshKeys := s.userSshKeys.add (s.newUserSshKey key) fun _ => rfl}

def revokesUserSshKey (row : UserSshKeyRecord ℕ) : Bool := hasId sshKeyId row.id && row.revokedAt = ""

def revokeUserSshKey (revokedAt : String) : State :=
  let userSshKeys := s.userSshKeys.update (revokesUserSshKey sshKeyId)
    (fun row => {row with revokedAt}) fun _ => rfl
  {s with userSshKeys}

def touchUserSshKey (lastUsedAt : String) : State :=
  let userSshKeys := s.userSshKeys.update (fun row => hasId sshKeyId row.id)
    (fun row => {row with lastUsedAt}) fun _ => rfl
  {s with userSshKeys}

/-- The columns that the insert leaves out take their defaults. -/
def insertAuthSession (session : AuthSessionRecord) (origin : Origin) : Checked State :=
  if !s.hasUser session.userId then foreignKeyViolation
  else match s.authSessions.insert {session with createdAt := s.now.text, revokedAt := ""} with
    | none => uniqueViolation "auth_sessions.token"
    | some authSessions =>
      .ok ({s with authSessions}.record (.session origin session.token session.planeName))

def touchAuthSession (token lastUsedAt : String) : State :=
  let authSessions := s.authSessions.update (·.token = token)
    (fun row => {row with lastUsedAt}) fun _ => rfl
  {s with authSessions}

/-- An existing user keeps the time of the last authorization and of the creation. -/
def upsertSecuredConnectionUser (user : SecuredConnectionUserRecord) : Checked State :=
  if s.securedConnectionUsers.rows.any fun row => row.id ≠ user.id && row.name = user.name then
    uniqueViolation "secured_connection_users.name"
  else if s.securedConnectionUsers.rows.any fun row => row.id ≠ user.id && row.fingerprint = user.fingerprint then
    uniqueViolation "secured_connection_users.fingerprint"
  else match s.securedConnectionUsers.insert {user with createdAt := s.now.text, updatedAt := s.now.text} with
    | some securedConnectionUsers => .ok {s with securedConnectionUsers}
    | none =>
      let securedConnectionUsers := s.securedConnectionUsers.update (·.id = user.id)
        (fun row => {row with
          name := user.name, publicKey := user.publicKey, fingerprint := user.fingerprint
          searchText := user.searchText, updatedAt := s.now.text
          revokedAt := user.revokedAt}) fun _ => rfl
      .ok {s with securedConnectionUsers}

def revokeSecuredConnectionUser (userId revokedAt : String) : State :=
  let securedConnectionUsers := s.securedConnectionUsers.update (fun row => row.id = userId && row.revokedAt = "")
    (fun row => {row with revokedAt, updatedAt := s.now.text}) fun _ => rfl
  {s with securedConnectionUsers}

def touchSecuredConnectionUser (userId lastAuthorizedAt : String) : State :=
  let securedConnectionUsers := s.securedConnectionUsers.update (·.id = userId)
    (fun row => {row with lastAuthorizedAt, updatedAt := s.now.text}) fun _ => rfl
  {s with securedConnectionUsers}

def insertSecuredConnectionSession (session : SecuredConnectionSessionRecord) (origin : Origin) : Checked State :=
  if !s.securedConnectionUsers.rows.any fun user => user.id = session.userId then foreignKeyViolation
  else match s.securedConnectionSessions.insert {session with createdAt := s.now.text, revokedAt := ""} with
    | none => uniqueViolation "secured_connection_sessions.token"
    | some securedConnectionSessions =>
      .ok ({s with securedConnectionSessions}.record
        (.session origin session.token session.planeName))

def touchSecuredConnectionSession (token lastUsedAt : String) : State :=
  let securedConnectionSessions := s.securedConnectionSessions.update (·.token = token)
    (fun row => {row with lastUsedAt}) fun _ => rfl
  {s with securedConnectionSessions}

def insertSecuredConnectionAuthLog (log : SecuredConnectionAuthLogRecord) : State :=
  {s with securedConnectionAuthLog := s.securedConnectionAuthLog ++ [log]}

def savePendingWebAuthnFlow (flow : PendingWebAuthnFlow) : State :=
  {s with pendingWebAuthnFlows := Assoc.set s.pendingWebAuthnFlows flow.flowId flow}

def erasePendingWebAuthnFlow (flowId : String) : State :=
  {s with pendingWebAuthnFlows := Assoc.erase s.pendingWebAuthnFlows flowId}

def savePendingSshChallenge (challenge : PendingSshChallenge) : State :=
  {s with pendingSshChallenges := Assoc.set s.pendingSshChallenges challenge.challengeId challenge}

def erasePendingSshChallenge (challengeId : String) : State :=
  {s with pendingSshChallenges := Assoc.erase s.pendingSshChallenges challengeId}

def cleanupExpiredPendingAuthFlows : State :=
  {s with
    pendingWebAuthnFlows := s.pendingWebAuthnFlows.filter fun entry => s.now.text ≤ entry.2.expiresAt
    pendingSshChallenges := s.pendingSshChallenges.filter fun entry => s.now.text ≤ entry.2.expiresAt}

end State

/-- The accesses of the handlers that change the tables or the pending flows. -/
inductive Statement
  | createBootstrapAdmin (username passwordHash : String)
  | createInvitedUser (inviteToken username passwordHash : String)
  | updateUserLastLoginAt (userId : Int32) (lastLoginAt : String)
  | insertWebAuthnCredential (credential : WebAuthnCredentialRecord Int32)
  | updateWebAuthnCredentialCounter (credentialId : String) (counter : UInt32) (lastUsedAt : String)
  | createRegistrationInvite (createdByUserId : Int32) (token expiresAt : String)
  | revokeRegistrationInvite (inviteId : Int32) (revokedAt : String)
  | insertUserSshKey (key : UserSshKeyRecord Int32)
  | revokeUserSshKey (sshKeyId : Int32) (revokedAt : String)
  | touchUserSshKey (sshKeyId : Int32) (lastUsedAt : String)
  | insertAuthSession (session : AuthSessionRecord) (origin : Origin)
  | touchAuthSession (token lastUsedAt : String)
  | upsertSecuredConnectionUser (user : SecuredConnectionUserRecord)
  | revokeSecuredConnectionUser (userId revokedAt : String)
  | touchSecuredConnectionUser (userId lastAuthorizedAt : String)
  | insertSecuredConnectionSession (session : SecuredConnectionSessionRecord) (origin : Origin)
  | touchSecuredConnectionSession (token lastUsedAt : String)
  | insertSecuredConnectionAuthLog (log : SecuredConnectionAuthLogRecord)
  | savePendingWebAuthnFlow (flow : PendingWebAuthnFlow)
  | erasePendingWebAuthnFlow (flowId : String)
  | savePendingSshChallenge (challenge : PendingSshChallenge)
  | erasePendingSshChallenge (challengeId : String)
  deriving DecidableEq

/-- The tables after the statement, or the error of the constraint that refuses it. -/
def Statement.execute (s : State) : Statement → Checked State
  | createBootstrapAdmin username passwordHash => s.createBootstrapAdmin username passwordHash
  | createInvitedUser inviteToken username passwordHash => s.createInvitedUser inviteToken username passwordHash
  | updateUserLastLoginAt userId lastLoginAt => .ok (s.updateUserLastLoginAt userId lastLoginAt)
  | insertWebAuthnCredential credential => s.insertWebAuthnCredential credential
  | updateWebAuthnCredentialCounter credentialId counter lastUsedAt =>
    .ok (s.updateWebAuthnCredentialCounter credentialId counter lastUsedAt)
  | createRegistrationInvite createdByUserId token expiresAt =>
    s.createRegistrationInvite createdByUserId token expiresAt
  | revokeRegistrationInvite inviteId revokedAt => .ok (s.revokeRegistrationInvite inviteId revokedAt)
  | insertUserSshKey key => s.insertUserSshKey key
  | revokeUserSshKey sshKeyId revokedAt => .ok (s.revokeUserSshKey sshKeyId revokedAt)
  | touchUserSshKey sshKeyId lastUsedAt => .ok (s.touchUserSshKey sshKeyId lastUsedAt)
  | insertAuthSession session origin => s.insertAuthSession session origin
  | touchAuthSession token lastUsedAt => .ok (s.touchAuthSession token lastUsedAt)
  | upsertSecuredConnectionUser user => s.upsertSecuredConnectionUser user
  | revokeSecuredConnectionUser userId revokedAt => .ok (s.revokeSecuredConnectionUser userId revokedAt)
  | touchSecuredConnectionUser userId lastAuthorizedAt => .ok (s.touchSecuredConnectionUser userId lastAuthorizedAt)
  | insertSecuredConnectionSession session origin => s.insertSecuredConnectionSession session origin
  | touchSecuredConnectionSession token lastUsedAt => .ok (s.touchSecuredConnectionSession token lastUsedAt)
  | insertSecuredConnectionAuthLog log => .ok (s.insertSecuredConnectionAuthLog log)
  | savePendingWebAuthnFlow flow => .ok (s.savePendingWebAuthnFlow flow)
  | erasePendingWebAuthnFlow flowId => .ok (s.erasePendingWebAuthnFlow flowId)
  | savePendingSshChallenge challenge => .ok (s.savePendingSshChallenge challenge)
  | erasePendingSshChallenge challengeId => .ok (s.erasePendingSshChallenge challengeId)

def Statement.apply (statement : Statement) (s : State) : State :=
  match statement.execute s with
  | .ok s' => s'
  | .error _ => s

end Naim.Auth
