import Naim.AuthHttp

/-!
# What the handlers of users and sessions write

Each handler runs statements of a few kinds only. An invariant that these
statements keep holds after the request, alone or among others.
-/

namespace Naim.Auth

open Program

variable {α β : Type} {ok : Statement → Prop} {support : AuthHttpSupport} {request : HttpRequest}

structure Performs (ok : Statement → Prop) (x : Handler α) : Prop where
  uses : x.run.Uses fun f => ∃ statement, ok statement ∧ f = statement.apply

structure Executes (ok : Statement → Prop) (p : Program State α) : Prop where
  uses : p.Uses fun f => ∃ statement, ok statement ∧ f = statement.apply

variable {f g : α → Handler β} {failed : Error → HttpResponse} {body : Handler HttpResponse} {c : Bool}
  {response : HttpResponse} {q : Query} {method planeName flowKind missing : String} {st : Statement}
  {challenge : PendingSshChallenge} {x y : Handler α} {v : Checked α} {seconds : ℕ}

section Rules

lemma Performs.bind (hx : Performs ok x) (hf : ∀ a, Performs ok (f a)) : Performs ok (x >>= f) :=
  ⟨Uses.andThen hx.uses fun a => (hf a).uses⟩

lemma Performs.mono {ok' : Statement → Prop} (hx : Performs ok x) (h : ∀ st, ok st → ok' st) : Performs ok' x :=
  ⟨hx.uses.mono fun _ ⟨st,hst,hf⟩ => ⟨st,h st hst,hf⟩⟩

lemma Performs.pure (a : α) : Performs ok (pure a) := ⟨trivial⟩

lemma Performs.respond (response : HttpResponse) : Performs ok (respond response : Handler α) := ⟨trivial⟩

lemma Performs.option {f : Option α → Handler β} (hnone : Performs ok (f none))
    (hsome : ∀ a, Performs ok (f (some a))) :
    ∀ o, Performs ok (f o)
  | none => hnone
  | some a => hsome a

lemma Performs.ite {c : Prop} [Decidable c] (hx : Performs ok x) (hy : Performs ok y) :
    Performs ok (if c then x else y) := by
  split
  · exact hx
  · exact hy

lemma performs_checked (x : Checked α) : Performs ok (checked x) := by cases x <;> exact ⟨trivial⟩

lemma Performs.bind_checked (hf : ∀ a, v = .ok a → Performs ok (f a)) : Performs ok (checked v >>= f) := by
  cases hv : v with
  | error error => exact ⟨trivial⟩
  | ok a => exact hf a hv

lemma Performs.checked (hf : ∀ a, Performs ok (f a)) : Performs ok (checked v >>= f) :=
  .bind_checked fun a _ => hf a

lemma Performs.load {h : State → α} (hf : ∀ a, Performs ok (f a)) : Performs ok (load h >>= f) :=
  ⟨fun s => (hf (h s)).uses⟩

lemma Performs.respondIf {g : Unit → Handler β} (hg : ∀ a, Performs ok (g a)) :
    Performs ok (respondIf c response >>= g) := by
  cases c with
  | false => exact hg ()
  | true => exact ⟨trivial⟩

lemma Performs.bind_query {h : State → α} (hf : ∀ s, Performs ok (f (h s))) :
    Performs ok (query support q h >>= f) := by
  unfold query
  split
  · exact ⟨trivial⟩
  · exact ⟨fun s => (hf s).uses⟩

lemma Performs.query {h : State → α} (hf : ∀ a, Performs ok (f a)) : Performs ok (query support q h >>= f) :=
  .bind_query fun s => hf (h s)

variable {statement entry : Statement}

lemma performs_performFor (report : State → α) (h : ok statement) :
    Performs ok (performFor support statement report) := by
  unfold performFor
  split
  · exact performs_checked _
  · refine ⟨⟨statement,h,rfl⟩,fun s => ?_⟩
    dsimp only
    split <;> trivial

lemma performs_perform (h : ok statement) : Performs ok (perform support statement) :=
  performs_performFor (fun _ => ()) h

lemma Performs.perform {g : Unit → Handler β} (h : ok statement) (hg : ∀ a, Performs ok (g a)) :
    Performs ok (perform support statement >>= g) := (performs_perform h).bind hg

lemma Performs.utcNow {g : String → Handler β} (hg : ∀ now, Performs ok (g now)) :
    Performs ok (utcNowSqlTimestamp >>= g) := ⟨fun s => (hg s.now.text).uses⟩

lemma Performs.afterSeconds {g : String → Handler β} (hg : ∀ time, Performs ok (g time)) :
    Performs ok (sqlTimestampAfterSeconds seconds >>= g) := ⟨fun _ => (hg _).uses⟩

lemma Performs.refuseIf {g : Unit → Handler β} (h : ok entry) (hg : c = false → Performs ok (g ())) :
    Performs ok (refuseIf support c entry response >>= g) := by
  cases c with
  | false => exact hg rfl
  | true =>
    rw [Auth.refuseIf,onlyIf,if_pos rfl,bind_assoc]
    exact (performs_perform h).bind fun _ => ⟨trivial⟩

lemma executes_answering (h : Performs ok body) : Executes ok (answering failed body) := by
  refine ⟨Uses.bind h.uses fun r => ?_⟩
  rcases r with (_ | _) | _ <;> trivial

lemma executes_onMethod (h : Performs ok body) : Executes ok (onMethod request method failed body) := by
  unfold onMethod
  split
  · exact ⟨trivial⟩
  · exact executes_answering h

end Rules

def Origin.sessionKind : Origin → String
  | sshChallenge _ => "ssh"
  | webAuthnFlow _ => "web"

/-- The first token that is drawn for the request; it becomes the token of a session. -/
def AuthHttpSupport.Draws (support : AuthHttpSupport) (token : String) : Prop := support.randomTokenBase64 0 = .ok token

/-- The statements that an endpoint may run for a request, as far as sessions and
challenges go: their token is drawn for the request, and each kind has its endpoint. -/
def Endpoint.Permits (support : AuthHttpSupport) (e : Endpoint) : Statement → Prop
  | .insertAuthSession session origin => support.Draws session.token ∧ session.sessionKind = origin.sessionKind ∧
      (session.sessionKind = "ssh" → e = .sshVerify)
  | .insertSecuredConnectionSession session _ => support.Draws session.token ∧ e = .sshVerify
  | .savePendingSshChallenge _ => e = .sshChallenge
  | _ => True

variable {e : Endpoint}

def Touch : Statement → Prop
  | .touchAuthSession .. | .touchSecuredConnectionSession .. => True
  | _ => False

lemma Touch.permits (h : Touch st) : e.Permits support st := by cases st <;> first | exact h.elim | trivial

lemma touches_authenticate (sessionKind : Option String) :
    Performs Touch (authenticateControllerUserSession support request sessionKind) := by
  unfold authenticateControllerUserSession
  split
  · exact .pure _
  · exact .query (.option (.pure _) fun session => .query (.option (.pure _) fun user =>
      .utcNow fun _ => .perform trivial fun _ => .pure _))

lemma touches_requireAdmin : Performs Touch (requireControllerAdminUser support request) :=
  (touches_authenticate (some "web")).bind fun _ => .pure _

lemma touches_authenticateSecured (token planeName : String) :
    Performs Touch (authenticateSecuredSession support token planeName) :=
  .query (.option (.pure _) fun _ => .query (.option (.pure _) fun _ =>
    .utcNow fun _ => .perform trivial fun _ => .pure _))

lemma touches_authenticateProtected (planeName : String) :
    Performs Touch (authenticateProtectedPlaneRequest support request planeName) := by
  refine (touches_authenticate _).bind fun webSession => ?_
  cases webSession with
  | some webSession => exact .pure _
  | none =>
    dsimp only
    split
    · exact .pure _
    · exact .query (.option (touches_authenticateSecured _ _) fun sshSession => .query (.option (.pure _) fun user =>
        .utcNow fun _ => .perform trivial fun _ => .pure _))

lemma performs_authenticate (sessionKind : Option String) :
    Performs (e.Permits support) (authenticateControllerUserSession support request sessionKind) :=
  (touches_authenticate sessionKind).mono fun _ => Touch.permits

lemma performs_requireAdmin : Performs (e.Permits support) (requireControllerAdminUser support request) :=
  touches_requireAdmin.mono fun _ => Touch.permits

lemma performs_createControllerSession
    (hinsert : ∀ session : AuthSessionRecord, support.Draws session.token → session.userId = userId →
      session.sessionKind = sessionKind → session.planeName = planeName → ok (.insertAuthSession session origin))
    (hlogin : ∀ now, ok (.updateUserLastLoginAt userId now)) :
    Performs ok (createControllerSession support 0 userId sessionKind planeName origin) := by
  refine .utcNow fun now => .bind_checked fun token htoken => .afterSeconds fun expiresAt => .perform ?_ fun _ =>
    .perform (hlogin now) fun _ => .pure _
  exact hinsert _ htoken rfl rfl rfl

lemma performs_newFlow (flowKind username passwordHash inviteToken : String) (userId : Int32) :
    Performs ok (newFlow support request flowKind username passwordHash inviteToken userId) :=
  .checked fun _ => .checked fun _ => .afterSeconds fun _ => .pure _

lemma performs_finishedFlow (flowKind missing : String) :
    Performs ok (finishedFlow support request flowKind missing) :=
  .checked fun _ => .checked fun _ => .respondIf fun _ => .load (.option (.respond _) fun _ =>
    .utcNow fun _ => .respondIf fun _ => .checked fun _ => .pure _)

lemma performs_verified (action failed : String) (payload : Json) :
    Performs ok (verified support action failed payload) :=
  .checked fun _ => .checked fun _ => .respondIf fun _ => .pure _

def Enrolment (support : AuthHttpSupport) : Statement → Prop
  | .insertAuthSession session origin => support.Draws session.token ∧ session.sessionKind = "web" ∧
      ∃ flowId, origin = .webAuthnFlow flowId
  | .insertWebAuthnCredential .. | .updateUserLastLoginAt .. | .erasePendingWebAuthnFlow .. => True
  | _ => False

lemma performs_enrol (flow : PendingWebAuthnFlow) (verification : Json) (userId : Int32) :
    Performs (Enrolment support) (enrol support request flow verification userId) := by
  have huser : Performs (Enrolment support) (createdUser support userId) :=
    .query (.option (performs_checked _) fun user => .pure _)
  have hsession : ∀ userId, Performs (Enrolment support)
      (createControllerSession support 0 userId "web" "" (.webAuthnFlow flow.flowId)) :=
    fun _ => performs_createControllerSession (fun _ hdraws _ hkind _ => ⟨hdraws,hkind,_,rfl⟩) fun _ => trivial
  exact huser.bind fun user => .checked fun _ => .perform trivial fun _ => (hsession _).bind fun _ =>
    .perform trivial fun _ => .pure _

lemma Enrolment.permits (h : Enrolment support st) : e.Permits support st := by
  cases st with
  | insertAuthSession session origin =>
    obtain ⟨hdraws,hkind,flowId,rfl⟩ := h
    exact ⟨hdraws,hkind,fun hssh => absurd (hkind.symm.trans hssh) (by decide)⟩
  | _ => first | exact h.elim | trivial

lemma executes_finishRegistration {createUser : PendingWebAuthnFlow → Statement}
    (hcreate : ∀ flow, e.Permits support (createUser flow)) :
    Executes (e.Permits support) (finishRegistration support request flowKind missing createUser) :=
  executes_onMethod ((performs_finishedFlow _ _).bind fun p => (performs_verified _ _ _).bind fun _ =>
    (performs_performFor _ (hcreate p.1)).bind fun _ => (performs_enrol _ _ _).mono fun _ => Enrolment.permits)

def Login (support : AuthHttpSupport) (flowId : String) : Statement → Prop
  | .insertAuthSession session origin => support.Draws session.token ∧ session.sessionKind = "web" ∧
      origin = .webAuthnFlow flowId
  | .updateWebAuthnCredentialCounter .. | .updateUserLastLoginAt .. | .erasePendingWebAuthnFlow .. => True
  | _ => False

lemma performs_finishLogin (flow : PendingWebAuthnFlow) (response : Json) :
    Performs (Login support flow.flowId) (finishLogin support request flow response) := by
  refine .checked fun credentialId => .query fun credential => ?_
  split
  · exact .respond _
  · refine .checked fun _ => (performs_verified _ _ _).bind fun _ => .checked fun _ => .utcNow fun _ =>
      .perform trivial fun _ => .query (.option (.respond _) fun user => ?_)
    refine (performs_createControllerSession ?_ fun _ => trivial).bind fun _ => .perform trivial fun _ => .pure _
    exact fun _ hdraws _ hkind _ => ⟨hdraws,hkind,rfl⟩

lemma executes_loginFinish : Executes (Endpoint.loginFinish.Permits support) (handleLoginFinish support request) := by
  refine executes_onMethod ((performs_finishedFlow _ _).bind fun p =>
    (performs_finishLogin p.1 p.2).mono fun st h => ?_)
  cases st with
  | insertAuthSession session origin =>
    obtain ⟨hdraws,hkind,rfl⟩ := h
    exact ⟨hdraws,hkind,fun hssh => absurd (hkind.symm.trans hssh) (by decide)⟩
  | _ => first | exact h.elim | trivial

/-- The statements of a request for a challenge: a challenge for a secured user is
for a user that the plane lists. -/
def Issues (planeName : String) (plane : DesiredState) : Statement → Prop
  | .savePendingSshChallenge issued => issued.securedConnection = true → issued.planeName = planeName ∧
      ∃ secured, securedConnectionOf plane = some secured ∧ issued.securedUserId ∈ secured.userIds
  | .insertSecuredConnectionAuthLog _ => True
  | _ => False

section Challenge

lemma performs_issueChallenge (hlogged : Performs ok logged)
    (hsave : ∀ issued : PendingSshChallenge, issued.securedConnection = challenge.securedConnection →
      issued.planeName = challenge.planeName → issued.securedUserId = challenge.securedUserId →
        ok (.savePendingSshChallenge issued)) : Performs ok (issueChallenge support logged challenge) := by
  refine .checked fun _ => .checked fun _ => .afterSeconds fun _ => .perform ?_ fun _ => hlogged.bind fun _ => .pure _
  exact hsave _ rfl rfl rfl

variable {r : ChallengeRequest} {plane : DesiredState}

lemma performs_securedChallenge (hsecured : securedConnectionOf plane = some secured) :
    Performs (Issues r.planeName plane) (securedChallenge support request r secured) := by
  refine .refuseIf trivial fun _ => .query (.option (.perform trivial fun _ => .respond _) fun user => ?_)
  refine .refuseIf trivial fun hlisted => performs_issueChallenge (performs_perform trivial)
    fun issued _ hplane huser _ => ⟨hplane,secured,hsecured,?_⟩
  rw [huser]
  simpa using hlisted

lemma performs_userChallenge : Performs (Issues r.planeName plane) (userChallenge support r) := by
  refine .query (.option (.respond _) fun user => .query (.option (.respond _) fun key => ?_))
  refine performs_issueChallenge (.pure ()) fun issued hkind _ _ h => ?_
  exact absurd (hkind.symm.trans h) Bool.false_ne_true

lemma performs_challengeFor : Performs (Issues r.planeName plane) (match securedConnectionOf plane with
    | some secured => securedChallenge support request r secured
    | none => userChallenge support r) := by
  split
  · exact performs_securedChallenge ‹_›
  · exact performs_userChallenge

end Challenge

lemma executes_sshChallenge :
    Executes (Endpoint.sshChallenge.Permits support) (handleSshChallenge support request) := by
  refine executes_onMethod (.checked fun _ => .checked fun r => .respondIf fun _ => .query fun state => ?_)
  split
  · exact .respond _
  · refine performs_challengeFor.mono fun st h => ?_
    cases st <;> first | exact h.elim | trivial

/-- The statements that answer a challenge: a session is for the plane and the user
of the challenge, and its kind is that of the challenge. -/
def Verifies (support : AuthHttpSupport) (r : VerifyRequest) (challenge : PendingSshChallenge) : Statement → Prop
  | .insertSecuredConnectionSession session origin => challenge.securedConnection = true ∧ support.Draws session.token ∧
      session.userId = challenge.securedUserId ∧ session.planeName = challenge.planeName ∧
        origin = .sshChallenge r.challengeId
  | .insertAuthSession session origin => challenge.securedConnection = false ∧ support.Draws session.token ∧
      session.userId = challenge.userId ∧ session.sessionKind = "ssh" ∧ session.planeName = challenge.planeName ∧
        origin = .sshChallenge r.challengeId
  | .erasePendingSshChallenge challengeId => challengeId = r.challengeId
  | .touchSecuredConnectionUser .. | .insertSecuredConnectionAuthLog .. | .touchUserSshKey .. |
    .updateUserLastLoginAt .. => True
  | _ => False

section Verify

lemma performs_verifySecuredChallenge {r : VerifyRequest} (hsecured : challenge.securedConnection = true) :
    Performs (Verifies support r challenge) (verifySecuredChallenge support request r challenge) := by
  refine .refuseIf trivial fun _ => .bind_query fun s => ?_
  cases hload : s.loadActiveSecuredConnectionUser challenge.securedUserId with
  | none => exact .perform trivial fun _ => .respond _
  | some user =>
    have huser : user.id = challenge.securedUserId := by
      have h := List.find?_some hload
      rw [Bool.and_eq_true] at h
      exact of_decide_eq_true h.1
    refine .checked fun _ => .refuseIf trivial fun _ => .utcNow fun _ => .perform trivial fun _ =>
      .bind_checked fun token htoken => .afterSeconds fun _ => .perform ?_ fun _ => .perform trivial fun _ =>
      .perform (by exact rfl) fun _ => .afterSeconds fun _ => .pure _
    exact ⟨hsecured,htoken,huser,rfl,rfl⟩

lemma performs_verifyUserChallenge {r : VerifyRequest} (hsecured : challenge.securedConnection = false) :
    Performs (Verifies support r challenge) (verifyUserChallenge support request r challenge) := by
  have hsession : Performs (Verifies support r challenge) (createControllerSession support 0 challenge.userId "ssh"
      challenge.planeName (.sshChallenge r.challengeId)) :=
    performs_createControllerSession (fun _ hdraws huser hkind hplane => ⟨hsecured,hdraws,huser,hkind,hplane,rfl⟩)
      fun _ => trivial
  exact .query (.option (.respond _) fun key => .checked fun _ => .respondIf fun _ => .utcNow fun _ =>
    .perform trivial fun _ => hsession.bind fun _ => .perform (by exact rfl) fun _ => .afterSeconds fun _ => .pure _)

lemma performs_verifyChallenge (r : VerifyRequest) (challenge : PendingSshChallenge) :
    Performs (Verifies support r challenge) (verifyChallenge support request r challenge) := by
  unfold verifyChallenge
  split
  · exact performs_verifySecuredChallenge ‹_›
  · exact performs_verifyUserChallenge (Bool.eq_false_iff.2 ‹_›)

end Verify

lemma executes_sshVerify : Executes (Endpoint.sshVerify.Permits support) (handleSshVerify support request) := by
  refine executes_onMethod (.checked fun _ => .checked fun r => .respondIf fun _ =>
    .load (.option (.respond _) fun challenge => .utcNow fun _ => .respondIf fun _ =>
      (performs_verifyChallenge r challenge).mono fun st h => ?_))
  cases st with
  | insertAuthSession session origin =>
    obtain ⟨-,hdraws,-,hkind,-,rfl⟩ := h
    exact ⟨hdraws,hkind,fun _ => rfl⟩
  | insertSecuredConnectionSession session origin => exact ⟨h.2.1,rfl⟩
  | _ => first | exact h.elim | trivial

theorem executes_handle (support : AuthHttpSupport) (request : HttpRequest) (e : Endpoint) :
    Executes (e.Permits support) (e.handle support request) := by
  cases e with
  | state => exact executes_onMethod ((performs_authenticate _).bind fun _ => .query fun _ => .pure _)
  | me => exact executes_onMethod ((performs_authenticate _).bind (.option (.respond _) fun session => .pure _))
  | logout => exact ⟨trivial⟩
  | bootstrapBegin =>
    exact executes_onMethod (.checked fun _ => .checked fun _ => .checked fun _ => .respondIf fun _ => .query fun _ =>
      .respondIf fun _ => .checked fun _ => (performs_newFlow _ _ _ _ _).bind fun _ => .checked fun _ =>
      .perform trivial fun _ => .pure _)
  | bootstrapFinish =>
    unfold Endpoint.handle handleBootstrapFinish
    exact executes_finishRegistration fun _ => trivial
  | inviteLookup => exact executes_onMethod (.query fun _ => .utcNow fun _ => .pure _)
  | registerBegin =>
    exact executes_onMethod (.checked fun _ => .checked fun _ => .checked fun _ => .checked fun _ => .respondIf fun _ =>
      .query fun _ => .utcNow fun _ => .respondIf fun _ => .query fun _ => .respondIf fun _ => .checked fun _ =>
      (performs_newFlow _ _ _ _ _).bind fun _ => .checked fun _ => .perform trivial fun _ => .pure _)
  | registerFinish =>
    unfold Endpoint.handle handleRegisterFinish
    exact executes_finishRegistration fun _ => trivial
  | loginBegin =>
    exact executes_onMethod (.checked fun _ => .checked fun _ => .respondIf fun _ =>
      .query (.option (.respond _) fun _ =>
      .query fun _ => .respondIf fun _ => (performs_newFlow _ _ _ _ _).bind fun _ => .checked fun _ =>
      .perform trivial fun _ => .pure _))
  | loginFinish => exact executes_loginFinish
  | invites =>
    exact executes_answering (performs_requireAdmin.bind (.option (.respond _) fun _ => .ite (.query fun _ => .pure _)
      (.ite (.checked fun _ => .afterSeconds fun _ => .perform trivial fun _ =>
        .query (.option (performs_checked _) fun _ => .pure _)) (.respond _))))
  | inviteDelete =>
    exact executes_onMethod (performs_requireAdmin.bind (.option (.respond _) fun _ =>
      .checked fun _ => .utcNow fun _ => (performs_performFor _ trivial).bind fun _ => .pure _))
  | sshKeys =>
    exact executes_answering ((performs_authenticate _).bind (.option (.respond _) fun _ =>
      .ite (.query fun _ => .pure _)
      (.ite (.checked fun _ => .checked fun _ => .respondIf fun _ => .checked fun _ => .checked fun _ =>
        .perform trivial fun _ => .query fun _ => .pure _) (.respond _))))
  | sshKeyDelete =>
    exact executes_onMethod ((performs_authenticate _).bind (.option (.respond _) fun _ =>
      .checked fun _ => .query fun _ => .respondIf fun _ => .utcNow fun _ =>
      (performs_performFor _ trivial).bind fun _ => .pure _))
  | userStorage =>
    exact executes_answering (performs_requireAdmin.bind (.option (.respond _) fun _ => .ite (.query fun _ => .pure _)
      (.respondIf fun _ => .checked fun _ => .checked fun _ => .checked fun _ => .checked fun _ =>
        .respondIf fun _ => .checked fun _ => .perform trivial fun _ => .query fun _ => .pure _)))
  | userStorageItem userId =>
    exact executes_answering (performs_requireAdmin.bind (.option (.respond _) fun _ => .query (.option (.respond _)
      fun _ => .ite (.utcNow fun _ => .perform trivial fun _ => .pure _)
        (.respondIf fun _ => .checked fun _ => .checked fun _ => .respondIf fun _ =>
          .perform trivial fun _ => .query fun _ => .pure _))))
  | sshChallenge => exact executes_sshChallenge
  | sshVerify => exact executes_sshVerify

variable {I : State → Prop}

structure Keeps (I : State → Prop) (x : Handler α) : Prop where
  tame : x.run.Tame I fun _ => True

section KeepsRules

lemma Performs.keeps (hx : Performs ok x) (hok : ∀ st, ok st → ∀ s, I s → I (st.apply s)) : Keeps I x :=
  ⟨hx.uses.tame (fun _ ⟨st,hst,hf⟩ s hs => hf ▸ hok st hst s hs) fun _ => trivial⟩

lemma Executes.tame {p : Program State α} (hp : Executes ok p) (hok : ∀ st, ok st → ∀ s, I s → I (st.apply s)) :
    p.Tame I fun _ => True := hp.uses.tame (fun _ ⟨st,hst,hf⟩ s hs => hf ▸ hok st hst s hs) fun _ => trivial

lemma keeps_respond (response : HttpResponse) : Keeps I (respond response : Handler α) := ⟨trivial⟩

lemma keeps_bind_checked (hf : ∀ a, v = .ok a → Keeps I (f a)) : Keeps I (checked v >>= f) := by
  cases hv : v with
  | error error => exact ⟨trivial⟩
  | ok a => exact ⟨(hf a hv).tame⟩

lemma keeps_bind_respondIf {f : Unit → Handler β} (hf : c = false → Keeps I (f ())) :
    Keeps I (respondIf c response >>= f) := by
  cases c with
  | false => exact ⟨(hf rfl).tame⟩
  | true => exact ⟨trivial⟩

lemma keeps_bind_load {f : State → α} (hg : ∀ s, I s → Keeps I (g (f s))) : Keeps I (load f >>= g) :=
  ⟨fun s hs => (hg s hs).tame⟩

lemma keeps_bind_query {f : State → α} (hg : ∀ s, I s → Keeps I (g (f s))) : Keeps I (query support q f >>= g) := by
  unfold query
  split
  · exact ⟨trivial⟩
  · exact keeps_bind_load hg

lemma tame_onMethod (h : Keeps I body) : (onMethod request method failed body).Tame I fun _ => True := by
  unfold onMethod
  split
  · trivial
  · refine Tame.bind h.tame fun r _ => ?_
    rcases r with (_ | _) | _ <;> trivial

end KeepsRules

def verifyRequest (support : AuthHttpSupport) (request : HttpRequest) : Checked VerifyRequest := do
  let body ← parseJsonBody support request
  readVerifyRequest body

lemma tame_sshVerify (hnow : ∀ s, I s → s.now = now)
    (hkeep : ∀ r challenge s, verifyRequest support request = .ok r → I s →
      s.loadPendingSshChallenge r.challengeId = some challenge → now.text ≤ challenge.expiresAt →
        ∀ st, Verifies support r challenge st → ∀ s', I s' → I (st.apply s')) :
    (handleSshVerify support request).Tame I fun _ => True := by
  refine tame_onMethod (keeps_bind_checked fun body hbody => keeps_bind_checked fun r hr =>
    keeps_bind_respondIf fun _ => keeps_bind_load fun s hs => ?_)
  have hrequest : verifyRequest support request = .ok r := by
    rw [verifyRequest,hbody]
    exact hr
  cases hload : s.loadPendingSshChallenge r.challengeId with
  | none => exact keeps_respond _
  | some challenge =>
    refine ⟨fun s' hs' => (keeps_bind_respondIf fun hexpired => (performs_verifyChallenge r challenge).keeps ?_).tame⟩
    rw [hnow s' hs'] at hexpired
    exact hkeep r challenge s hrequest hs hload (not_lt.1 (of_decide_eq_false hexpired))

lemma tame_sshChallenge
    (hkeep : ∀ planeName plane s, I s → s.loadDesiredState planeName = some plane →
      ∀ st, Issues planeName plane st → ∀ s', I s' → I (st.apply s')) :
    (handleSshChallenge support request).Tame I fun _ => True := by
  refine tame_onMethod (keeps_bind_checked fun body _ => keeps_bind_checked fun r _ =>
    keeps_bind_respondIf fun _ => keeps_bind_query fun s hs => ?_)
  split
  · exact keeps_respond _
  next plane hplane =>
    exact performs_challengeFor.keeps (hkeep r.planeName plane s hs (Option.filter_eq_some_iff.1 hplane).1)

end Naim.Auth
