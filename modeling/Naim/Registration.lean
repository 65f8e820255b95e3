import Naim.AuthRuns

/-!
# Registration of users

A registration writes the user, the mark of the invite, the credential and the
session in statements that are committed one by one. The results below say when a
registration that is not answered with success has changed nothing, and that an
invite and the bootstrap register at most one user each.
-/

namespace Naim.Auth

open Calendar List Rows Runs Tables
open Option hiding map mem_map

variable {s s' : State} {support : AuthHttpSupport} {request : HttpRequest}

/-- An answer other than success comes with the users from before and with invites
that can still be used. -/
def AllOrNothing (handler : Program State HttpResponse) (s : State) : Prop :=
  (handler.run s).2.statusCode ≠ 200 → (handler.run s).1.users = s.users ∧
    ∀ invite ∈ s.registrationInvites.rows, s.usableInvite invite = true →
      invite ∈ (handler.run s).1.registrationInvites.rows ∧ (handler.run s).1.usableInvite invite = true

def namedFlow (support : AuthHttpSupport) (request : HttpRequest) (flowKind : String) (s : State) :
    Option (PendingWebAuthnFlow × Json) := do
  let body ← (parseJsonBody support request).toOption
  let flowId ← (body.value "flow_id" "").toOption
  guard (flowId ≠ "" ∧ body.contains "response" = true)
  let flow ← s.loadPendingWebAuthnFlow flowId
  guard (flow.flowKind = flowKind ∧ s.now.text ≤ flow.expiresAt)
  let response ← (body.member "response").toOption
  some (flow,response)

/-- The flow that the request finishes and the verified answer to it. -/
def verifiedRegistration (support : AuthHttpSupport) (request : HttpRequest) (flowKind : String) (s : State) :
    Option (PendingWebAuthnFlow × Json) := do
  guard (request.method = "POST")
  let (flow,response) ← namedFlow support request flowKind s
  let verification ← (support.runWebAuthnHelper "verify-registration" (.ofFields (expectations flow response))).toOption
  guard (verification.value "verified" false = .ok true)
  some (flow,verification)

def nextUserId (s : State) : Int32 := columnInt (s.users.last + 1)

def webSession (s : State) (token : String) : AuthSessionRecord where
  token
  userId := nextUserId s
  sessionKind := "web"
  expiresAt := sqlTimestamp (s.now.seconds + sessionLifetimeSeconds "web")
  createdAt := s.now.text
  lastUsedAt := s.now.text

/-- What the handler does after the user's transaction goes through: the user is found
again, the credential is new and readable, the token is new, and no access fails. -/
structure Enrols (support : AuthHttpSupport) (flow : PendingWebAuthnFlow) (verification : Json) (s : State) : Prop where
  query : support.queryFails .loadUserById = none
  found : s.users.last + 1 < 2 ^ 31 ∨ s.hasUser (nextUserId s) = true
  credential : ∃ credential, readCredential support verification (nextUserId s) = .ok credential ∧
    support.statementFails (.insertWebAuthnCredential credential) = none ∧
      ∀ row ∈ s.webAuthnCredentials.rows, row.credentialId ≠ credential.credentialId
  session : ∃ token, support.randomTokenBase64 0 = .ok token ∧
    support.statementFails (.insertAuthSession (webSession s token) (.webAuthnFlow flow.flowId)) = none ∧
      ∀ row ∈ s.authSessions.rows, row.token ≠ token
  login : support.statementFails (.updateUserLastLoginAt (nextUserId s) s.now.text) = none
  erase : support.statementFails (.erasePendingWebAuthnFlow flow.flowId) = none

structure Committed (s s' : State) : Prop where
  users : ∃ user : UserRecord ℕ, user.id = s.users.last + 1 ∧ s'.users.rows = s.users.rows ++ [user]
  now : s'.now = s.now
  webAuthnCredentials : s'.webAuthnCredentials = s.webAuthnCredentials
  authSessions : s'.authSessions = s.authSessions

lemma hasUser_committed (h : Committed s s') :
    s'.hasUser (nextUserId s) = true ↔ s.users.last + 1 < 2 ^ 31 ∨ s.hasUser (nextUserId s) = true := by
  obtain ⟨user,hid,hrows⟩ := h.users
  unfold State.hasUser
  rw [hrows,any_append,Bool.or_eq_true,or_comm,any_cons,any_nil,Bool.or_false,hid]
  exact or_congr_left hasId_columnInt

variable {verification payload : Json} {flow : PendingWebAuthnFlow}
  {flowKind missing sessionKind planeName action failed : String} {userId : Int32}
  {credential : WebAuthnCredentialRecord Int32} {origin : Origin} {initial e : ℕ} {c : Controller}

lemma loadUserById_id (h : s.loadUserById userId = some user) : user.id = userId ∧ s.hasUser userId = true := by
  obtain ⟨row,hrow,rfl⟩ := map_eq_some_iff.1 h
  have hid := List.find?_some hrow
  exact ⟨columnInt_of_hasId hid,any_eq_true.2 ⟨row,mem_of_find?_eq_some hrow,hid⟩⟩

lemma insertWebAuthnCredential_iff (huser : s.hasUser credential.userId = true) :
    (∃ s', s.insertWebAuthnCredential credential = .ok s') ↔
      ∀ row ∈ s.webAuthnCredentials.rows, row.credentialId ≠ credential.credentialId := by
  unfold State.insertWebAuthnCredential
  split <;> simp_all [State.uniqueViolation]

lemma insertAuthSession_iff (huser : s.hasUser session.userId = true) :
    (∃ s', s.insertAuthSession session origin = .ok s') ↔ ∀ row ∈ s.authSessions.rows, row.token ≠ session.token := by
  unfold State.insertAuthSession
  rw [huser]
  cases hinsert : s.authSessions.insert {session with createdAt := s.now.text, revokedAt := ""} with
  | none =>
    rw [Keyed.insert_eq_none,mem_map] at hinsert
    obtain ⟨row,hrow,hsame⟩ := hinsert
    simpa [State.uniqueViolation] using ⟨row,hrow,hsame⟩
  | some authSessions =>
    have hnew := (Keyed.insert_eq_some hinsert).1
    simpa using hnew

lemma returns_bind_createControllerSession {β : Type} {Q : β → Prop} {g : String → Handler β} :
    Returns Q (createControllerSession support 0 userId sessionKind planeName origin >>= g) s ↔
      ∃ token, support.randomTokenBase64 0 = .ok token ∧ ∃ s₁, performed support (.insertAuthSession {
        token, userId, sessionKind, planeName
        expiresAt := sqlTimestamp (s.now.seconds + sessionLifetimeSeconds sessionKind), createdAt := s.now.text
        lastUsedAt := s.now.text} origin) s = .ok s₁ ∧ ∃ s₂,
          performed support (.updateUserLastLoginAt userId s.now.text) s₁ = .ok s₂ ∧ Returns Q (g token) s₂ := by
  unfold createControllerSession
  simp only [returns_assoc,returns_bind_utcNow,returns_bind_checked,returns_bind_afterSeconds,returns_bind_perform,
    pure_bind]

lemma returns_bind_createdUser {β : Type} {Q : β → Prop} {g : UserRecord Int32 → Handler β} :
    Returns Q (createdUser support userId >>= g) s ↔ support.queryFails .loadUserById = none ∧
      ∃ user, s.loadUserById userId = some user ∧ Returns Q (g user) s := by
  unfold createdUser
  simp only [returns_assoc,returns_bind_query]
  cases s.loadUserById userId with
  | none => simp [returns_bind_checked,Checked.fail]
  | some user => simp

lemma readCredential_userId (h : readCredential support verification userId = .ok credential) :
    credential.userId = userId := by
  unfold readCredential at h
  simp only [Checked.bind_eq_ok] at h
  obtain ⟨_,-,_,-,_,-,_,-,_,-,_,-,h⟩ := h
  rw [← Except.ok.inj h]

lemma returns_enrol_iff (request : HttpRequest) (h : Committed s s') :
    Returns (fun _ => True) (enrol support request flow verification (nextUserId s)) s' ↔
      Enrols support flow verification s := by
  unfold enrol
  simp only [returns_bind_createdUser,returns_bind_checked,returns_bind_perform,returns_bind_createControllerSession,
    returns_pure,and_true,performed_eq_ok]
  -- The tables between the statements: the credential changes neither the users nor the sessions.
  have hbetween : ∀ {credential s₁}, s'.insertWebAuthnCredential credential = .ok s₁ →
      s₁.hasUser = s'.hasUser ∧ s₁.now = s.now ∧ s₁.authSessions = s.authSessions := by
    intro credential s₁ hinsert
    obtain ⟨rows,rfl⟩ := insertWebAuthnCredential_eq_ok hinsert
    exact ⟨rfl,h.now,h.authSessions⟩
  constructor
  · rintro ⟨hquery,user,huser,credential,hcredential,s₁,⟨hfails₁,hinsert₁⟩,token,htoken,s₂,⟨hfails₂,hinsert₂⟩,s₃,
      ⟨hfails₃,-⟩,s₄,⟨hfails₄,-⟩⟩
    obtain ⟨hid,hhas⟩ := loadUserById_id huser
    obtain ⟨husers,hnow,hsessions⟩ := hbetween hinsert₁
    rw [hid] at hcredential hinsert₂ hfails₂ hfails₃
    rw [hnow] at hfails₂ hfails₃
    refine ⟨hquery,(hasUser_committed h).1 hhas,⟨credential,hcredential,hfails₁,?_⟩,⟨token,htoken,hfails₂,?_⟩,
      hfails₃,hfails₄⟩
    · rw [← h.webAuthnCredentials]
      exact (insertWebAuthnCredential_iff (readCredential_userId hcredential ▸ hhas)).1 ⟨s₁,hinsert₁⟩
    · rw [← hsessions]
      exact (insertAuthSession_iff (husers ▸ hhas)).1 ⟨s₂,hinsert₂⟩
  · rintro ⟨hquery,hfound,⟨credential,hcredential,hfails₁,hnew₁⟩,⟨token,htoken,hfails₂,hnew₂⟩,hlogin,herase⟩
    have hhas := (hasUser_committed h).2 hfound
    obtain ⟨user,huser⟩ := isSome_iff_exists.1 (loadUserById_of_hasUser hhas)
    have hid := (loadUserById_id huser).1
    rw [← h.webAuthnCredentials] at hnew₁
    obtain ⟨s₁,hinsert₁⟩ := (insertWebAuthnCredential_iff (readCredential_userId hcredential ▸ hhas)).2 hnew₁
    obtain ⟨husers,hnow,hsessions⟩ := hbetween hinsert₁
    rw [← hsessions] at hnew₂
    have hsessionUser : s₁.hasUser (webSession s token).userId = true := husers ▸ hhas
    obtain ⟨s₂,hinsert₂⟩ := (insertAuthSession_iff hsessionUser).2 hnew₂
    refine ⟨hquery,user,huser,credential,hid ▸ hcredential,s₁,⟨hfails₁,hinsert₁⟩,token,htoken,s₂,?_,?_⟩
    · rw [hid,hnow]
      exact ⟨hfails₂,hinsert₂⟩
    · rw [hid,hnow]
      exact ⟨_,⟨hlogin,rfl⟩,_,⟨herase,rfl⟩⟩

lemma returns_finishedFlow :
    Returns (· = p) (finishedFlow support request flowKind missing) s ↔
      namedFlow support request flowKind s = some p := by
  unfold finishedFlow namedFlow
  simp only [returns_bind_checked,returns_bind_respondIf,returns_bind_load,bind_eq_bind,bind_eq_some_iff,
    Checked.toOption_eq_some,guard_eq_some',Unique.exists_iff]
  refine exists_congr fun body => and_congr_right fun _ => exists_congr fun flowId => and_congr_right fun _ => ?_
  refine and_congr (by simp) ?_
  cases s.loadPendingWebAuthnFlow flowId with
  | none => simp [Returns]
  | some flow =>
    simp only [returns_bind_utcNow,returns_bind_respondIf,returns_bind_checked,returns_pure,Bool.or_eq_false_iff,
      decide_eq_false_iff_not,ne_eq,not_not,not_lt,some.injEq,exists_eq_left']

lemma returns_verified :
    Returns (· = verification) (verified support action failed payload) s ↔
      support.runWebAuthnHelper action payload = .ok verification ∧ verification.value "verified" false = .ok true := by
  unfold verified
  simp only [returns_bind_checked,returns_bind_respondIf,returns_pure,Bool.not_eq_false']
  constructor
  · rintro ⟨verification,hrun,valid,hvalid,rfl,rfl⟩
    exact ⟨hrun,hvalid⟩
  · rintro ⟨hrun,hvalid⟩
    exact ⟨verification,hrun,true,hvalid,rfl,rfl⟩

lemma verifiedRegistration_eq_some :
    verifiedRegistration support request flowKind s = some (flow,verification) ↔ request.method = "POST" ∧
      ∃ response, namedFlow support request flowKind s = some (flow,response) ∧
        support.runWebAuthnHelper "verify-registration" (.ofFields (expectations flow response)) = .ok verification ∧
          verification.value "verified" false = .ok true := by
  unfold verifiedRegistration
  simp only [bind_eq_bind,bind_eq_some_iff,guard_eq_some',Unique.exists_iff,Checked.toOption_eq_some,
    some.injEq,Prod.mk.injEq,Prod.exists]
  refine and_congr_right fun _ => ?_
  constructor
  · rintro ⟨flow,response,hnamed,verification,hrun,hvalid,rfl,rfl⟩
    exact ⟨response,hnamed,hrun,hvalid⟩
  · rintro ⟨response,hnamed,hrun,hvalid⟩
    exact ⟨flow,response,hnamed,verification,hrun,hvalid,rfl,rfl⟩

inductive Finished (support : AuthHttpSupport) (request : HttpRequest) (flowKind : String)
    (createUser : PendingWebAuthnFlow → Statement) (s : State) : State × Except Stop HttpResponse → Prop
  | unverified (stop : Stop) (h : verifiedRegistration support request flowKind s = none) :
    Finished support request flowKind createUser s (s,.error stop)
  | refused (flow : PendingWebAuthnFlow) (verification : Json) (error : Error)
      (h : verifiedRegistration support request flowKind s = some (flow,verification))
      (hcreate : performed support (createUser flow) s = .error error) :
    Finished support request flowKind createUser s (s,.error (.raise error))
  | committed (flow : PendingWebAuthnFlow) (verification : Json) (s' : State)
      (h : verifiedRegistration support request flowKind s = some (flow,verification))
      (hcreate : performed support (createUser flow) s = .ok s') :
    Finished support request flowKind createUser s (serve (enrol support request flow verification (nextUserId s)) s')

lemma finished_body (flowKind missing : String) (createUser : PendingWebAuthnFlow → Statement) (s : State)
    (hmethod : request.method = "POST") : Finished support request flowKind createUser s (serve (do
      let (flow,response) ← finishedFlow support request flowKind missing
      let verification ← verified support "verify-registration" "WebAuthn registration verification failed"
        (.ofFields (expectations flow response))
      let userId ← performFor support (createUser flow) fun s => columnInt (s.users.last + 1)
      enrol support request flow verification userId) s) := by
  rw [serve_bind,serve_fst (performs_finishedFlow _ _)]
  cases hflow : (serve (finishedFlow support request flowKind missing) s).2 with
  | error stop =>
    refine .unverified stop (eq_none_iff_forall_ne_some.2 fun ⟨flow,verification⟩ h => ?_)
    obtain ⟨-,response,hnamed,-⟩ := verifiedRegistration_eq_some.1 h
    obtain ⟨p,hp,-⟩ := returns_finishedFlow.2 hnamed
    exact absurd (hflow.symm.trans hp) (by simp)
  | ok p =>
    obtain ⟨flow,response⟩ := p
    have hnamed : namedFlow support request flowKind s = some (flow,response) := returns_finishedFlow.1 ⟨_,hflow,rfl⟩
    dsimp only
    rw [serve_bind,serve_fst (performs_verified _ _ _)]
    cases hverified : (serve (verified support "verify-registration" "WebAuthn registration verification failed"
        (.ofFields (expectations flow response))) s).2 with
    | error stop =>
      refine .unverified stop (eq_none_iff_forall_ne_some.2 fun ⟨flow',verification⟩ h => ?_)
      obtain ⟨-,response',hnamed',hvalid⟩ := verifiedRegistration_eq_some.1 h
      obtain ⟨rfl,rfl⟩ := Prod.mk.inj (some.inj (hnamed.symm.trans hnamed'))
      obtain ⟨v,hv,-⟩ := returns_verified.2 hvalid
      exact absurd (hverified.symm.trans hv) (by simp)
    | ok verification =>
      have h : verifiedRegistration support request flowKind s = some (flow,verification) :=
        verifiedRegistration_eq_some.2 ⟨hmethod,response,hnamed,returns_verified.1 ⟨_,hverified,rfl⟩⟩
      dsimp only
      rw [serve_bind,serve_performFor]
      cases hcreate : performed support (createUser flow) s with
      | error error => exact .refused flow verification error h hcreate
      | ok s' => exact .committed flow verification s' h hcreate

lemma enrol_throws (flow : PendingWebAuthnFlow) (verification : Json) (userId : Int32) :
    Throws (enrol support request flow verification userId) := by
  have huser : Throws (createdUser support userId) := by
    refine (throws_query _ _).bind fun user => ?_
    cases user with
    | none => exact throws_checked _
    | some user => exact throws_pure _
  have hsession : ∀ userId, Throws (createControllerSession support 0 userId "web" "" (.webAuthnFlow flow.flowId)) :=
    fun _ => ((throws_load _).bind fun _ => throws_pure _).bind fun _ => (throws_checked _).bind fun _ =>
      ((throws_load _).bind fun _ => throws_pure _).bind fun _ => (throws_perform _).bind fun _ =>
        (throws_perform _).bind fun _ => throws_pure _
  exact huser.bind fun _ => (throws_checked _).bind fun _ => (throws_perform _).bind fun _ => (hsession _).bind fun _ =>
    (throws_perform _).bind fun _ => throws_pure _

lemma enrol_statusCode (h : (serve (enrol support request flow verification userId) s).2 = .ok response) :
    response.statusCode = 200 := by
  have hreturns : Returns (· = response) (enrol support request flow verification userId) s := ⟨response,h,rfl⟩
  unfold enrol at hreturns
  simp only [returns_bind_createdUser,returns_bind_checked,returns_bind_perform,returns_bind_createControllerSession,
    returns_pure] at hreturns
  obtain ⟨-,user,-,credential,-,s₁,-,token,-,s₂,-,s₃,-,s₄,-,rfl⟩ := hreturns
  rfl

lemma enrol_users (h : Committed s s') :
    (serve (enrol support request flow verification (nextUserId s)) s').1.users ≠ s.users := by
  obtain ⟨user,-,hrows⟩ := h.users
  have hlength : (serve (enrol support request flow verification (nextUserId s)) s').1.users.rows.length =
      s.users.rows.length + 1 := by
    refine (((performs_enrol flow verification (nextUserId s)).keeps
      (I := fun s₁ => s₁.users.rows.length = s.users.rows.length + 1) fun st hst s₁ hs₁ => ?_).tame.run ?_).1
    · rw [length_users s₁ (by rintro _ _ rfl; exact hst.elim) (by rintro _ _ _ rfl; exact hst.elim),hs₁]
    · simp [hrows]
  intro heq
  rw [heq] at hlength
  omega

lemma allOrNothing_finish {createUser : PendingWebAuthnFlow → Statement}
    (hcommits : ∀ flow s s', (createUser flow).execute s = .ok s' → Committed s s') :
    AllOrNothing (finishRegistration support request flowKind missing createUser) s ↔
      ∀ flow verification, verifiedRegistration support request flowKind s = some (flow,verification) →
        (performed support (createUser flow) s).isOk = true → Enrols support flow verification s := by
  unfold AllOrNothing finishRegistration onMethod
  by_cases hmethod : request.method = "POST"
  swap
  · rw [if_pos hmethod]
    exact ⟨fun _ flow verification h => absurd (verifiedRegistration_eq_some.1 h).1 hmethod,
      fun _ _ => ⟨rfl,fun _ => .intro⟩⟩
  rw [if_neg (not_not.2 hmethod),run_answering]
  have hbody : Finished support request flowKind createUser s _ := finished_body flowKind missing createUser s hmethod
  generalize serve _ s = outcome at hbody ⊢
  cases hbody with
  | unverified stop h =>
    exact ⟨fun _ flow verification hsome => absurd (h.symm.trans hsome) (by simp),fun _ _ => ⟨rfl,fun _ => .intro⟩⟩
  | refused flow verification error h hcreate =>
    refine ⟨fun _ flow' verification' hsome hok => ?_,fun _ _ => ⟨rfl,fun _ => .intro⟩⟩
    obtain ⟨rfl,rfl⟩ := Prod.mk.inj (some.inj (h.symm.trans hsome))
    rw [hcreate] at hok
    cases hok
  | committed flow verification s' h hcreate =>
    have hcommitted : Committed s s' := hcommits flow s s' (performed_eq_ok.1 hcreate).2
    constructor
    · intro hall flow' verification' hsome _
      obtain ⟨rfl,rfl⟩ := Prod.mk.inj (some.inj (h.symm.trans hsome))
      rw [← returns_enrol_iff request hcommitted]
      match hout : (serve (enrol support request flow verification (nextUserId s)) s').2 with
      | .ok response => exact ⟨response,hout,trivial⟩
      | .error (.respond response) => exact absurd hout (enrol_throws flow verification _ s' response)
      | .error (.raise error) =>
        have hstatus : (internalError support request true error).statusCode ≠ 200 := by simp [internalError]
        rw [hout] at hall
        exact absurd (hall hstatus).1 (enrol_users hcommitted)
    · intro hcondition hstatus
      obtain ⟨response,hout,-⟩ := (returns_enrol_iff request hcommitted).2
        (hcondition flow verification h (by rw [hcreate]; rfl))
      rw [hout] at hstatus
      exact absurd (enrol_statusCode hout) hstatus

/-- A registration is all or nothing exactly when a committed user is always followed
by the credential, the session and the end of the flow. -/
theorem registration_allOrNothing_iff (support : AuthHttpSupport) (request : HttpRequest) (s : State) :
    (AllOrNothing (handleRegisterFinish support request) s ↔ ∀ flow verification,
      verifiedRegistration support request "register" s = some (flow,verification) →
        (performed support (.createInvitedUser flow.inviteToken flow.username flow.passwordHash) s).isOk = true →
          Enrols support flow verification s) ∧
    (AllOrNothing (handleBootstrapFinish support request) s ↔ ∀ flow verification,
      verifiedRegistration support request "bootstrap" s = some (flow,verification) →
        (performed support (.createBootstrapAdmin flow.username flow.passwordHash) s).isOk = true →
          Enrols support flow verification s) :=
  ⟨allOrNothing_finish fun _ _ _ h => by
    obtain ⟨invite,-,-,-,rfl⟩ := createInvitedUser_eq_ok h
    exact ⟨⟨_,rfl,rfl⟩,rfl,rfl,rfl⟩,
  allOrNothing_finish fun _ _ _ h => by
    obtain ⟨-,-,rfl⟩ := createBootstrapAdmin_eq_ok h
    exact ⟨⟨_,rfl,rfl⟩,rfl,rfl,rfl⟩⟩

def guestBody : Json :=
  .obj [("flow_id",.str "flow"),("invite_token",.str "invite"),("password",.str "secret"),("response",.obj []),
    ("username",.str "guest")]

def invitation : List Event :=
  setup ++ [.request (plainSupport guestBody "invite") tokenRequest .invites,
    .request (plainSupport guestBody "flow") {body := "guest"} .registerBegin]

/-- The guest answers with the credential id of the first user: the request fails, and
the guest is registered with the invite used up. -/
theorem registration_halfDone :
    let s := run step {} invitation
    let result := (handleRegisterFinish (plainSupport guestBody "session") {body := "guest"}).run s
    result.2.statusCode = 500 ∧ s.users.rows.map (·.username) = ["root"] ∧
      result.1.users.rows.map (·.username) = ["root","guest"] ∧ s.registrationInvites.rows.map s.usableInvite = [true] ∧
        result.1.registrationInvites.rows.map result.1.usableInvite = [false] := by
  decide +kernel

def Entry.isUser : Entry → Bool
  | session .. => false
  | invitedUser _ => true
  | bootstrapUser => true

/-- Every invite and the bootstrap have registered at most one user, and the table of
users has grown by these users only. -/
structure SingleUse (initial : ℕ) (s : State) : Prop where
  invited : ∀ inviteId, s.history.count (.invitedUser inviteId) ≤ 1
  used : ∀ inviteId, .invitedUser inviteId ∈ s.history →
    ∃ invite ∈ s.registrationInvites.rows, invite.id = inviteId ∧ invite.usedAt ≠ ""
  bootstrap : s.history.count .bootstrapUser ≤ 1
  admin : .bootstrapUser ∈ s.history → ∃ user ∈ s.users.rows, user.role = "admin"
  total : s.users.rows.length = initial + s.history.countP Entry.isUser

lemma singleUse_apply (hs : SingleUse initial s) (hids : s.registrationInvites.last < 2 ^ 31) (st : Statement) :
    SingleUse initial (st.apply s) := by
  obtain ⟨entries,hhistory,hadds⟩ := adds_apply st s
  have hused : ∀ inviteId, .invitedUser inviteId ∈ s.history →
      ∃ invite ∈ (st.apply s).registrationInvites.rows, invite.id = inviteId ∧ invite.usedAt ≠ "" := by
    intro inviteId hmem
    obtain ⟨invite,hinvite,hid,husedAt⟩ := hs.used inviteId hmem
    obtain ⟨invite',hinvite',hid',hkeeps⟩ := kept_invite hinvite st
    exact ⟨invite',hinvite',hid'.trans hid,hkeeps husedAt⟩
  have hadmin : .bootstrapUser ∈ s.history → ∃ user ∈ (st.apply s).users.rows, user.role = "admin" := by
    intro hmem
    obtain ⟨user,huser,hrole⟩ := hs.admin hmem
    obtain ⟨user',huser',-,hrole'⟩ := (users_evolve st s).kept _ huser
    exact ⟨user',huser',hrole'.trans hrole⟩
  cases hadds with
  | nothing hlength =>
    rw [append_nil] at hhistory
    refine ⟨?_,?_,?_,?_,?_⟩ <;> rw [hhistory]
    exacts [hs.invited,hused,hs.bootstrap,hadmin,hlength.trans hs.total]
  | session origin token planeName _ hlength =>
    refine ⟨?_,?_,?_,?_,?_⟩ <;> rw [hhistory]
    · simpa using hs.invited
    · simpa using hused
    · simpa using hs.bootstrap
    · simpa using hadmin
    · simpa [Entry.isUser] using hlength.trans hs.total
  | bootstrap hbefore hafter hlength =>
    have hfirst : .bootstrapUser ∉ s.history := fun hmem => by
      obtain ⟨user,huser,hrole⟩ := hs.admin hmem
      exact hbefore user huser hrole
    refine ⟨?_,?_,?_,?_,?_⟩ <;> rw [hhistory]
    · simpa using hs.invited
    · simpa using hused
    · simp [count_eq_zero_of_not_mem hfirst]
    · exact fun _ => hafter
    · simp [Entry.isUser,hlength,hs.total,Nat.add_assoc]
  | invited invite hinvite husable hmarked hlength =>
    have hfirst : .invitedUser invite.id ∉ s.history := fun hmem => by
      obtain ⟨other,hother,hid,husedAt⟩ := hs.used _ hmem
      obtain rfl := s.registrationInvites.eq_of_id hother hinvite hid
      unfold State.usableInvite at husable
      simp only [Bool.and_eq_true,decide_eq_true_eq] at husable
      exact husedAt husable.1.2
    have hmarked := hmarked ((s.registrationInvites.bounded invite hinvite).trans_lt hids)
    refine ⟨?_,?_,?_,?_,?_⟩ <;> rw [hhistory]
    · intro inviteId
      by_cases hid : inviteId = invite.id
      · simp [hid,count_eq_zero_of_not_mem hfirst]
      · simpa [Ne.symm hid] using hs.invited inviteId
    · intro inviteId hmem
      rcases mem_append.1 hmem with hmem | hmem
      · exact hused inviteId hmem
      · obtain rfl := Entry.invitedUser.inj (mem_singleton.1 hmem)
        exact hmarked
    · simpa using hs.bootstrap
    · simpa using hadmin
    · simp [Entry.isUser,hlength,hs.total,Nat.add_assoc]

lemma singleUse_sameTables (hs : SingleUse initial s) (h : SameTables s s') : SingleUse initial s' := by
  obtain ⟨hinvited,hused,hbootstrap,hadmin,htotal⟩ := hs
  rw [← h.history] at hinvited hused hbootstrap hadmin htotal
  rw [← h.registrationInvites] at hused
  rw [← h.users] at hadmin htotal
  exact ⟨hinvited,hused,hbootstrap,hadmin,htotal⟩

def NarrowIds (c : Controller) (_ : Action) : Prop := c.state.registrationInvites.last < 2 ^ 31

instance (c : Controller) (action : Action) : Decidable (NarrowIds c action) :=
  inferInstanceAs (Decidable (c.state.registrationInvites.last < 2 ^ 31))

lemma singleUse_step (c : Controller) (action : Action) (hc : c.Sound ∧ SingleUse initial c.state)
    (hids : NarrowIds c action) : (c.step action).Sound ∧ SingleUse initial (c.step action).state := by
  refine ⟨c.sound_step action hc.1,?_⟩
  rcases Controller.state_step hc.1 action with h | ⟨st,h⟩ | h
  · rw [h]
    exact hc.2
  · rw [h]
    exact singleUse_apply hc.2 hids st
  · exact singleUse_sameTables hc.2 h

lemma sound_run (hc : c.Sound) (actions : List Action) : (run Controller.step c actions).Sound :=
  run_invariant (fun c action hc _ => c.sound_step action hc) hc (guarded_true actions)

lemma seconds_of_unexpired (h : s.unexpired (sqlTimestamp e) = true) : s.now.seconds ≤ e := by
  rcases lt_or_ge e limit with he | he
  · exact (sqlTimestamp_le_iff s.now.inRange he).1 (of_decide_eq_true h)
  · exact s.now.inRange.le.trans he

/-- A user is registered with an invite only while the invite is neither revoked nor expired. -/
lemma invited_usable (hc : c.Sound) {action : Action} {inviteId : ℕ}
    (hnew : (c.step action).state.history.count (.invitedUser inviteId) ≠
      c.state.history.count (.invitedUser inviteId)) :
    ∃ invite ∈ c.state.registrationInvites.rows, invite.id = inviteId ∧ invite.revokedAt = "" ∧
      c.state.unexpired invite.expiresAt = true := by
  rcases Controller.state_step hc action with h | ⟨st,h⟩ | h
  · exact absurd (by rw [h]) hnew
  · obtain ⟨entries,hhistory,hadds⟩ := adds_apply st c.state
    rw [h,hhistory,count_append] at hnew
    cases hadds with
    | nothing | session | bootstrap => simp at hnew
    | invited invite hinvite husable hmarked hlength =>
      by_cases hid : invite.id = inviteId
      · unfold State.usableInvite at husable
        simp only [Bool.and_eq_true,decide_eq_true_eq] at husable
        exact ⟨invite,hinvite,hid,husable.1.1,husable.2⟩
      · exact absurd (by simp [hid]) hnew
  · exact absurd (by rw [h.history]) hnew

/-- Interleaved requests in a database whose invite ids fit an `int`: an invite registers
at most one user, while it is neither revoked nor expired, the bootstrap registers at
most one, and there are no other new users. -/
theorem registration_singleUse {actions : List Action} (hhistory : s.history = [])
    (hactions : Guarded Controller.step NarrowIds {state := s} actions) :
    (∀ inviteId, (run Controller.step {state := s} actions).state.history.count (.invitedUser inviteId) ≤ 1) ∧
      (run Controller.step {state := s} actions).state.history.count .bootstrapUser ≤ 1 ∧
      (run Controller.step {state := s} actions).state.users.rows.length = s.users.rows.length +
        (run Controller.step {state := s} actions).state.history.countP Entry.isUser ∧
      ∀ before action after inviteId, actions = before ++ action::after →
        let c := run Controller.step {state := s} before
        (c.step action).state.history.count (.invitedUser inviteId) ≠ c.state.history.count (.invitedUser inviteId) →
          ∃ invite ∈ c.state.registrationInvites.rows, invite.id = inviteId ∧ invite.revokedAt = "" ∧
            c.state.unexpired invite.expiresAt = true ∧
              ∀ e, invite.expiresAt = sqlTimestamp e → c.state.now.seconds ≤ e := by
  have hsound : Controller.Sound {state := s} := nofun
  have hstart : SingleUse s.users.rows.length s := by
    refine ⟨?_,?_,?_,?_,?_⟩ <;> rw [hhistory] <;> simp
  obtain ⟨-,hs⟩ := run_invariant singleUse_step (And.intro hsound hstart) hactions
  refine ⟨hs.invited,hs.bootstrap,hs.total,?_⟩
  intro before action after inviteId _ c hnew
  obtain ⟨invite,hinvite,hid,hrevoked,hunexpired⟩ := invited_usable (sound_run hsound before) hnew
  exact ⟨invite,hinvite,hid,hrevoked,hunexpired,fun e he => seconds_of_unexpired (he ▸ hunexpired)⟩

def alone (index : ℕ) (support : AuthHttpSupport) (request : HttpRequest) (endpoint : Endpoint) : List Action :=
  .arrive support request endpoint::List.replicate 16 (.access index)

theorem registration_singleUse_invited :
    let s := {run step {} invitation with history := []}
    let actions := alone 0 (plainSupport guestBody "session") {body := "guest"} .registerFinish
    Guarded Controller.step NarrowIds {state := s} actions ∧
      (run Controller.step {state := s} actions).state.users.rows.length = 2 ∧
        (run Controller.step {state := s} actions).state.history.count (.invitedUser 1) ≤ 1 := by
  intro s actions
  have hactions : Guarded Controller.step NarrowIds {state := s} actions := by decide +kernel
  exact ⟨hactions,by decide +kernel,(registration_singleUse rfl hactions).1 1⟩

def secondGuestBody : Json :=
  .obj [("flow_id",.str "second"),("invite_token",.str "invite"),("password",.str "secret"),("response",.obj []),
    ("username",.str "second")]

/-- The next invite has the id 2147483648, which is read back as a negative `int`: the
invite is not marked and registers two users. -/
theorem registration_twice :
    let s := {run step {} setup with
      history := []
      registrationInvites := ⟨[],2147483647,List.nodup_nil,by simp⟩}
    let actions := alone 0 (plainSupport guestBody "invite") tokenRequest .invites ++
      alone 1 (plainSupport guestBody "flow") {body := "guest"} .registerBegin ++
      alone 2 (plainSupport guestBody "session") {body := "guest"} .registerFinish ++
      alone 3 (plainSupport secondGuestBody "second") {body := "guest"} .registerBegin ++
      alone 4 (plainSupport secondGuestBody "session") {body := "guest"} .registerFinish
    (run Controller.step {state := s} actions).state.history.count (.invitedUser 2147483648) = 2 := by
  decide +kernel

end Naim.Auth
