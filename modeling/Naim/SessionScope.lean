import Naim.AuthRuns

/-!
# What a session token is good for

A token is looked up by its text; the kind and the plane of its session count only
where a check asks for them. The results below say after which histories a token
still stands for no more than what it was issued for.
-/

namespace Naim.Auth

open Calendar List Runs
open Option hiding map mem_map

variable {s : State} {token planeName : String}

def Ended (token : String) (s : State) : Prop :=
  ∀ row ∈ s.authSessions.rows, row.token = token → row.revokedAt = "" → s.unexpired row.expiresAt = false

lemma ended_iff : Ended token s ↔ s.loadActiveAuthSession token none none = none := by
  unfold Ended State.loadActiveAuthSession
  rw [find?_eq_none]
  simp

lemma loadActive_of_some (h : s.loadActiveAuthSession token sessionKind plane = some session) :
    session ∈ s.authSessions.rows ∧
      session.token = token ∧ session.revokedAt = "" ∧ s.unexpired session.expiresAt = true ∧
        sessionKind.all (session.sessionKind = ·) = true ∧ plane.all (session.planeName = ·) = true := by
  have hfound := find?_some h
  simp only [Bool.and_eq_true,decide_eq_true_eq] at hfound
  exact ⟨mem_of_find?_eq_some h,hfound.1.1.1.1,hfound.1.1.1.2,hfound.1.1.2,hfound.1.2,hfound.2⟩

lemma loadActiveSecured_of_some (h : s.loadActiveSecuredConnectionSession token planeName = some session) :
    session ∈ s.securedConnectionSessions.rows ∧ session.token = token ∧ session.planeName = planeName ∧
      session.revokedAt = "" ∧ s.unexpired session.expiresAt = true := by
  have hfound := find?_some h
  simp only [Bool.and_eq_true,decide_eq_true_eq] at hfound
  exact ⟨mem_of_find?_eq_some h,hfound.1.1.1,hfound.1.1.2,hfound.1.2,hfound.2⟩

variable {st : Statement} {event : Event} {support : AuthHttpSupport} {request : HttpRequest} {endpoint : Endpoint}
  {s' : State} {challengeId planeName' userId : String}

lemma ended_apply (hs : Ended token s)
    (hnew : ∀ session origin, st = .insertAuthSession session origin → session.token ≠ token) :
    Ended token (st.apply s) := by
  intro row' hrow' htoken hrevoked
  unfold State.unexpired
  rw [(apply_frame st s).now]
  rcases (sessions_evolve st s).origin _ hrow' with ⟨row,hrow,htouches⟩ | ⟨session,origin,hst,-,rfl⟩
  · rw [htouches] at htoken hrevoked ⊢
    exact hs row hrow htoken hrevoked
  · exact absurd htoken (hnew session origin hst)

def Later (token : String) (s : State) : Event → Prop
  | .request support _ _ => ¬ support.Draws token
  | .clock now => s.now ≤ now
  | _ => True

lemma ended_step (hs : Ended token s) (hlater : Later token s event) : Ended token (step s event) := by
  refine step_keeps hs (fun st hst s' hs' => ended_apply hs' ?_) fun s' h hnow row hrow htoken hrevoked => ?_
  · rintro session origin rfl rfl
    cases event <;> first | exact hlater hst.1 | exact hst
  · rw [h.authSessions] at hrow
    have hexpired : ¬ s.now.text ≤ row.expiresAt := of_decide_eq_false (hs row hrow htoken hrevoked)
    refine decide_eq_false fun hle => hexpired (le_trans ?_ hle)
    rcases hnow with hnow | rfl
    · rw [hnow]
    · exact Instant.text_le_text.2 hlater

lemma ended_decision (hs : Ended token s) (hcarries : findControllerSessionToken request = some token)
    (sessionKind : Option String) :
    decision (authenticateControllerUserSession support request sessionKind) s = none := by
  refine eq_none_iff_forall_ne_some.2 fun ⟨user,session⟩ h => ?_
  obtain ⟨token',htoken,hload,-⟩ := authenticate_eq_some h
  obtain rfl := some.inj (hcarries.symm.trans htoken)
  obtain ⟨hrow,hsame,hrevoked,hunexpired,-⟩ := loadActive_of_some hload
  rw [hs session hrow hsame hrevoked] at hunexpired
  exact Bool.false_ne_true hunexpired

def LoggedOut (support : AuthHttpSupport) (request : HttpRequest) (token : String) (s : State) : Prop :=
  findControllerSessionToken request = some token ∧ ((Endpoint.logout.handle support request).run s).2.statusCode = 200

instance (support : AuthHttpSupport) (request : HttpRequest) (token : String) (s : State) :
    Decidable (LoggedOut support request token s) := inferInstanceAs (Decidable (_ ∧ _))

/-- The logout leaves the session as it is: a later request with the token is refused
in every continuation exactly when the token had no active session to begin with. -/
theorem logout_ends_session_iff (before : List Event) {support : AuthHttpSupport} {request : HttpRequest}
    (hlogout : LoggedOut support request token (run step {} before)) :
    (∀ later, Guarded step (Later token) (step (run step {} before) (.request support request .logout)) later →
      ∀ support' request' sessionKind, findControllerSessionToken request' = some token →
        decision (authenticateControllerUserSession support' request' sessionKind)
          (run step (step (run step {} before) (.request support request .logout)) later) = none) ↔
      (run step {} before).loadActiveAuthSession token none none = none := by
  rw [← ended_iff]
  have hsame : step (run step {} before) (.request support request .logout) = run step {} before := rfl
  rw [hsame]
  constructor
  · intro h
    by_contra hactive
    obtain ⟨session,hsession⟩ := ne_none_iff_exists'.1 fun hnone => hactive (ended_iff.2 hnone)
    obtain ⟨user,huser⟩ := isSome_iff_exists.1
      (loadUserById_of_hasUser (linked_run before session (loadActive_of_some hsession).1))
    have hrefused := h [] trivial (plainSupport .null) request none hlogout.1
    rw [run_nil,authenticate_accepts (fun _ => rfl) (fun _ => rfl) hlogout.1 hsession huser] at hrefused
    cases hrefused
  · intro hended later hlater support' request' sessionKind hcarries
    exact ended_decision (run_invariant (fun _ _ => ended_step) hended hlater) hcarries sessionKind

/-- The session of the first user has expired before the logout. -/
theorem logout_ends_session_iff_expired :
    let before := setup ++ [.clock {seconds := 50000}]
    (run step {} before).authSessions.rows.map (·.token) = ["token"] ∧
      decision (authenticateControllerUserSession (plainSupport setupBody) tokenRequest (some "web"))
        (run step (step (run step {} before) (.request (plainSupport setupBody) tokenRequest .logout))
          [.clock {seconds := 60000}]) = none := by
  intro before
  have hlogout : LoggedOut (plainSupport setupBody) tokenRequest "token" (run step {} before) := by decide +kernel
  have hexpired : (run step {} before).loadActiveAuthSession "token" none none = none := by decide +kernel
  refine ⟨by decide +kernel,(logout_ends_session_iff before hlogout).2 hexpired _ ?_ _ _ _ hlogout.1⟩
  exact ⟨show (run step {} before).now ≤ {seconds := 60000} by decide +kernel,trivial⟩

/-- The first user logs out and goes on with the same token. -/
theorem logout_keeps_session : LoggedOut (plainSupport setupBody) tokenRequest "token" (run step {} setup) ∧
    (decision (authenticateControllerUserSession (plainSupport setupBody) tokenRequest (some "web"))
      (step (run step {} setup) (.request (plainSupport setupBody) tokenRequest .logout))).isSome := by
  decide +kernel

structure Scoped (s : State) : Prop where
  apart : ∀ row ∈ s.authSessions.rows, ∀ row' ∈ s.securedConnectionSessions.rows, row.token ≠ row'.token
  issued : ∀ challengeId token planeName, .session (.sshChallenge challengeId) token planeName ∈ s.history →
    (∃ row ∈ s.authSessions.rows, row.token = token ∧ row.sessionKind = "ssh" ∧ row.planeName = planeName) ∨
      ∃ row ∈ s.securedConnectionSessions.rows, row.token = token ∧ row.planeName = planeName

lemma scoped_apply (hs : Scoped s)
    (hsession : ∀ session origin, st = .insertAuthSession session origin →
      session.sessionKind = origin.sessionKind ∧
        ∀ row ∈ s.securedConnectionSessions.rows, session.token ≠ row.token)
    (hsecured : ∀ session origin, st = .insertSecuredConnectionSession session origin →
      ∀ row ∈ s.authSessions.rows, row.token ≠ session.token) :
    Scoped (st.apply s) where
  apart row' hrow' other' hother' := by
    rcases (sessions_evolve st s).origin _ hrow' with ⟨row,hrow,htouches⟩ | ⟨session,origin,hst,-,rfl⟩
    · rw [htouches]
      rcases (securedSessions_evolve st s).origin _ hother' with ⟨other,hother,htouches'⟩ | ⟨session,origin,hst,rfl⟩
      · rw [htouches']
        exact hs.apart row hrow other hother
      · exact hsecured session origin hst row hrow
    · rcases (securedSessions_evolve st s).origin _ hother' with ⟨other,hother,htouches'⟩ | ⟨session',origin',hst',-⟩
      · rw [htouches']
        exact (hsession session origin hst).2 other hother
      · exact absurd (hst.symm.trans hst') (by simp)
  issued challengeId token planeName hentry := by
    rcases origin_entry hentry with hold | ⟨row,hrow,session,hst,rfl,rfl,rfl⟩ | ⟨row,hrow,session,hst,rfl,rfl,rfl⟩
    · rcases hs.issued challengeId token planeName hold with ⟨row,hrow,htoken,hkind,hplane⟩ | ⟨row,hrow,htoken,hplane⟩
      · obtain ⟨row',hrow',htouches⟩ := (sessions_evolve st s).kept _ hrow
        refine .inl ⟨row',hrow',?_⟩
        rw [htouches]
        exact ⟨htoken,hkind,hplane⟩
      · obtain ⟨row',hrow',htouches⟩ := (securedSessions_evolve st s).kept _ hrow
        refine .inr ⟨row',hrow',?_⟩
        rw [htouches]
        exact ⟨htoken,hplane⟩
    · exact .inl ⟨_,hrow,rfl,(hsession session _ hst).1,rfl⟩
    · exact .inr ⟨_,hrow,rfl,rfl⟩

def newToken (support : AuthHttpSupport) (s : State) : Bool :=
  match support.randomTokenBase64 0 with
  | .ok token => s.authSessions.rows.all (·.token ≠ token) &&
      s.securedConnectionSessions.rows.all (·.token ≠ token)
  | .error _ => true

lemma newToken_draws (h : newToken support s = true) (hdraws : support.Draws token) :
    (∀ row ∈ s.authSessions.rows, row.token ≠ token) ∧ ∀ row ∈ s.securedConnectionSessions.rows, row.token ≠ token := by
  unfold newToken at h
  rw [hdraws] at h
  simpa using h

def namedChallenge (support : AuthHttpSupport) (request : HttpRequest) (s : State) : Option PendingSshChallenge :=
  match verifyRequest support request with
  | .ok r => s.loadPendingSshChallenge r.challengeId
  | .error _ => none

def drawsNew (s : State) : Event → Bool
  | .request support _ _ => newToken support s
  | _ => true

lemma scoped_request (hs : Scoped s) (hnew : newToken support s = true) (hendpoint : endpoint ≠ .sshVerify) :
    Scoped (step s (.request support request endpoint)) := by
  have htame : (endpoint.handle support request).Tame (fun s => Scoped s ∧ ∀ token, support.Draws token →
      ∀ row ∈ s.securedConnectionSessions.rows, token ≠ row.token) fun _ => True := by
    refine (executes_handle support request endpoint).tame fun st hst s' ⟨hs',hnew'⟩ => ⟨?_,?_⟩
    · refine scoped_apply hs' (fun session origin heq => ?_) fun session origin heq => ?_
      · subst heq
        exact ⟨hst.2.1,hnew' _ hst.1⟩
      · subst heq
        exact absurd hst.2 hendpoint
    · intro token hdraws row' hrow'
      rcases (securedSessions_evolve st s').origin _ hrow' with ⟨row,hrow,htouches⟩ | ⟨session,origin,rfl,-⟩
      · rw [htouches]
        exact hnew' token hdraws row hrow
      · exact absurd hst.2 hendpoint
  exact (htame.run ⟨hs,fun token hdraws row hrow => ((newToken_draws hnew hdraws).2 row hrow).symm⟩).1.1

/-- What holds while a verification runs that began in `s` and whose challenge is for
a secured user or not. -/
structure Verifying (support : AuthHttpSupport) (secured : Bool) (s s' : State) : Prop where
  inScope : Scoped s'
  now : s'.now = s.now
  pending : ∀ challengeId challenge, s'.loadPendingSshChallenge challengeId = some challenge →
    s.loadPendingSshChallenge challengeId = some challenge
  newSession : secured = false → ∀ token, support.Draws token →
    ∀ row ∈ s'.securedConnectionSessions.rows, token ≠ row.token
  newSecured : secured = true → ∀ token, support.Draws token →
    ∀ row ∈ s'.authSessions.rows, row.token ≠ token

lemma verifying_apply (hst : Verifies support r challenge st)
    (h : Verifying support challenge.securedConnection s s') :
    Verifying support challenge.securedConnection s (st.apply s') where
  inScope := by
    refine scoped_apply h.inScope (fun session origin heq => ?_) fun session origin heq => ?_
    · subst heq
      obtain ⟨hsecured,hdraws,hid,hkind,-,rfl⟩ := hst
      exact ⟨hkind,h.newSession hsecured _ hdraws⟩
    · subst heq
      exact h.newSecured hst.1 _ hst.2.1
  now := (apply_frame st s').now.trans h.now
  pending challengeId challenge' hload := by
    rcases origin_challenge hload with hold | rfl
    · exact h.pending _ _ hold
    · exact hst.elim
  newSession hsecured token hdraws row' hrow' := by
    rcases (securedSessions_evolve st s').origin _ hrow' with ⟨row,hrow,htouches⟩ | ⟨session,origin,rfl,-⟩
    · rw [htouches]
      exact h.newSession hsecured token hdraws row hrow
    · exact absurd (hsecured.symm.trans hst.1) Bool.false_ne_true
  newSecured hsecured token hdraws row' hrow' := by
    rcases (sessions_evolve st s').origin _ hrow' with ⟨row,hrow,htouches⟩ | ⟨session,origin,rfl,-,-⟩
    · rw [htouches]
      exact h.newSecured hsecured token hdraws row hrow
    · exact absurd (hst.1.symm.trans hsecured) Bool.false_ne_true

lemma scoped_verify (hs : Scoped s) (hnew : newToken support s = true) :
    Scoped (step s (.request support request .sshVerify)) := by
  have hI : Verifying support ((namedChallenge support request s).any (·.securedConnection)) s s :=
    ⟨hs,rfl,fun _ _ => id,fun _ _ hdraws row hrow => ((newToken_draws hnew hdraws).2 row hrow).symm,
      fun _ _ hdraws => (newToken_draws hnew hdraws).1⟩
  refine ((tame_sshVerify (fun _ h => h.now) fun r challenge s₁ hr h₁ hload _ st hst s' hs' => ?_).run hI).1.inScope
  have hnamed : namedChallenge support request s = some challenge := by
    rw [namedChallenge,hr]
    exact h₁.pending _ _ hload
  have hflag : (namedChallenge support request s).any (·.securedConnection) = challenge.securedConnection := by
    rw [hnamed]
    rfl
  rw [hflag] at hs' ⊢
  exact verifying_apply hst hs'

lemma scoped_step (hs : Scoped s) (hok : drawsNew s event = true) : Scoped (step s event) := by
  cases event with
  | request support request endpoint =>
    by_cases hendpoint : endpoint = .sshVerify
    · subst hendpoint
      exact scoped_verify hs hok
    · exact scoped_request hs hok hendpoint
  | _ =>
    refine step_keeps hs (fun st hst s' hs' => scoped_apply hs' (by rintro _ _ rfl; exact hst.elim)
      (by rintro _ _ rfl; exact hst.elim)) fun s' h _ => ?_
    obtain ⟨hapart,hissued⟩ := hs
    rw [← h.authSessions] at hapart hissued
    rw [← h.securedConnectionSessions] at hapart hissued
    rw [← h.history] at hissued
    exact ⟨hapart,hissued⟩

lemma scoped_requireAdmin (hs : Scoped s)
    (hissued : .session (.sshChallenge challengeId) token planeName ∈ s.history)
    (hcarries : findControllerSessionToken request = some token) :
    decision (requireControllerAdminUser support request) s = none := by
  refine eq_none_iff_forall_ne_some.2 fun user h => ?_
  obtain ⟨-,token',session,htoken,hload,-⟩ := requireAdmin_eq_some h
  obtain rfl := some.inj (hcarries.symm.trans htoken)
  obtain ⟨hmem,hsame,-,-,hweb,-⟩ := loadActive_of_some hload
  rcases hs.issued challengeId token planeName hissued with ⟨row,hrow,htoken,hkind,-⟩ | ⟨row,hrow,htoken,-⟩
  · obtain rfl := s.authSessions.eq_of_key hrow hmem (htoken.trans hsame.symm)
    rw [all_some,decide_eq_true_eq,hkind] at hweb
    exact absurd hweb (by decide)
  · exact hs.apart session hmem row hrow (hsame.trans htoken.symm)

lemma scoped_authenticateProtected (hs : Scoped s)
    (hissued : .session (.sshChallenge challengeId) token planeName ∈ s.history)
    (hcarries : findControllerSessionToken request = some token)
    (haccepted : decision (authenticateProtectedPlaneRequest support request planeName') s ≠ none) :
    planeName' = planeName := by
  obtain ⟨⟨user,session⟩,h⟩ := ne_none_iff_exists'.1 haccepted
  obtain ⟨token',htoken,haccepted⟩ := authenticateProtected_eq_some h
  obtain rfl := some.inj (hcarries.symm.trans htoken)
  rcases hs.issued challengeId token planeName hissued with ⟨row,hrow,htoken,hkind,hplane⟩ | ⟨row,hrow,htoken,hplane⟩
  · cases haccepted with
    | web hload =>
      obtain ⟨hmem,hsame,-,-,hweb,-⟩ := loadActive_of_some hload
      obtain rfl := s.authSessions.eq_of_key hrow hmem (htoken.trans hsame.symm)
      rw [all_some,decide_eq_true_eq,hkind] at hweb
      exact absurd hweb (by decide)
    | ssh hload =>
      obtain ⟨hmem,hsame,-,-,-,hplane'⟩ := loadActive_of_some hload
      obtain rfl := s.authSessions.eq_of_key hrow hmem (htoken.trans hsame.symm)
      rw [all_some,decide_eq_true_eq] at hplane'
      exact hplane'.symm.trans hplane
    | secured other user hload =>
      obtain ⟨hmem,hsame,-⟩ := loadActiveSecured_of_some hload
      exact absurd (htoken.trans hsame.symm) (hs.apart row hrow other hmem)
  · cases haccepted with
    | web hload | ssh hload =>
      obtain ⟨hmem,hsame,-⟩ := loadActive_of_some hload
      exact absurd (hsame.trans htoken.symm) (hs.apart session hmem row hrow)
    | secured other user hload =>
      obtain ⟨hmem,hsame,hplane',-⟩ := loadActiveSecured_of_some hload
      obtain rfl := s.securedConnectionSessions.eq_of_key hrow hmem (htoken.trans hsame.symm)
      exact hplane'.symm.trans hplane

/-- In every history whose sessions get new tokens, a token that was issued for a plane
is no admin's token, whosever key it was issued for, and is accepted for no other plane. -/
theorem sshToken_scoped {events : List Event}
    (hevents : Guarded step (fun s event => drawsNew s event = true) {} events) {challengeId : String}
    (hissued : .session (.sshChallenge challengeId) token planeName ∈ (run step {} events).history)
    {support : AuthHttpSupport} {request : HttpRequest} (hcarries : findControllerSessionToken request = some token) :
    decision (requireControllerAdminUser support request) (run step {} events) = none ∧ ∀ planeName',
      decision (authenticateProtectedPlaneRequest support request planeName') (run step {} events) ≠ none →
        planeName' = planeName := by
  have hstart : Scoped {} := ⟨nofun,nofun⟩
  have hs : Scoped (run step {} events) := run_invariant (fun _ _ => scoped_step) hstart hevents
  exact ⟨scoped_requireAdmin hs hissued hcarries,fun _ => scoped_authenticateProtected hs hissued hcarries⟩

def sshBody : Json :=
  .obj [("challenge_id",.str "id"),("fingerprint",.str "fingerprint"),("name",.str "user"),("plane_name",.str "plane"),
    ("public_key",.str "key"),("signature",.str "signature"),("username",.str "root")]

def sshRequest : HttpRequest where
  headers := [("x-naim-session-token","token"),("x-forwarded-proto","https")]
  body := "ssh"

/-- The first user stores a key through `keys`, and a challenge for the plane is answered with it. -/
def sshEvents (keys : Endpoint) (plane : DesiredState) : List Event :=
  setup ++ [.request (plainSupport sshBody "user") sshRequest keys,.savePlane plane,
    .request (plainSupport sshBody "id") sshRequest .sshChallenge,
    .request (plainSupport sshBody "ssh") sshRequest .sshVerify]

def openPlane : DesiredState where
  planeName := "plane"
  protectedPlane := true

def securedPlane (userIds : List String) : DesiredState where
  planeName := "plane"
  protectedPlane := true
  securedConnection := some {enabled := true, userIds}

def planeRequest : HttpRequest where
  headers := [("x-naim-session-token","ssh"),("x-forwarded-proto","https")]

/-- The admin's own key opens a session for one plane, and its token is not the admin's. -/
theorem sshToken_scoped_admin : Guarded step (fun s event => drawsNew s event = true) {}
      (sshEvents .sshKeys openPlane) ∧
    decision (requireControllerAdminUser (plainSupport sshBody) planeRequest)
      (run step {} (sshEvents .sshKeys openPlane)) = none ∧
    (decision (authenticateProtectedPlaneRequest (plainSupport sshBody) planeRequest "plane")
      (run step {} (sshEvents .sshKeys openPlane))).isSome := by
  have hevents : Guarded step (fun s event => drawsNew s event = true) {} (sshEvents .sshKeys openPlane) := by
    decide +kernel
  have hissued : Entry.session (.sshChallenge "id") "ssh" "plane" ∈
      (run step {} (sshEvents .sshKeys openPlane)).history := by decide +kernel
  exact ⟨hevents,(sshToken_scoped hevents hissued (by decide +kernel)).1,by decide +kernel⟩

def listed (s : State) (planeName userId : String) : Bool :=
  (s.loadDesiredState planeName).any fun plane => plane.securedConnection.any fun secured => userId ∈ secured.userIds

/-- The users with a challenge or a session for the plane that is still good. -/
def engaged (s : State) (planeName : String) : List String :=
  (s.pendingSshChallenges.filter fun entry => entry.2.securedConnection && entry.2.planeName = planeName &&
      s.unexpired entry.2.expiresAt).map (·.2.securedUserId) ++
    (s.securedConnectionSessions.rows.filter fun row => row.planeName = planeName && row.revokedAt = "" &&
      s.unexpired row.expiresAt).map (·.userId)

def Members (s : State) : Prop := ∀ planeName, ∀ userId ∈ engaged s planeName, listed s planeName userId = true

lemma mem_engaged : userId ∈ engaged s planeName ↔
    (∃ entry ∈ s.pendingSshChallenges, entry.2.securedConnection = true ∧ entry.2.planeName = planeName ∧
      s.unexpired entry.2.expiresAt = true ∧ entry.2.securedUserId = userId) ∨
    ∃ row ∈ s.securedConnectionSessions.rows, row.planeName = planeName ∧ row.revokedAt = "" ∧
      s.unexpired row.expiresAt = true ∧ row.userId = userId := by
  simp only [engaged,mem_append,mem_map,mem_filter,Bool.and_eq_true,decide_eq_true_eq,and_assoc]

lemma listed_congr (h : s'.planes = s.planes) (planeName userId : String) :
    listed s' planeName userId = listed s planeName userId := by
  unfold listed State.loadDesiredState
  rw [h]

lemma unexpired_congr (h : s'.now = s.now) (expiresAt : String) :
    s'.unexpired expiresAt = s.unexpired expiresAt := by
  unfold State.unexpired
  rw [h]

lemma members_apply (hs : Members s)
    (hsave : ∀ challenge, st = .savePendingSshChallenge challenge → challenge.securedConnection = true →
      listed s challenge.planeName challenge.securedUserId = true)
    (hinsert : ∀ session origin, st = .insertSecuredConnectionSession session origin →
      listed s session.planeName session.userId = true) :
    Members (st.apply s) := by
  intro planeName userId huser
  have hframe := apply_frame st s
  rw [listed_congr hframe.planes]
  rcases mem_engaged.1 huser with ⟨entry,hentry,hsecured,rfl,hunexpired,rfl⟩ | ⟨row',hrow',rfl,hrevoked,hunexpired,rfl⟩
  · rw [unexpired_congr hframe.now] at hunexpired
    rcases origin_pending hentry with hold | hst
    · exact hs _ _ (mem_engaged.2 (.inl ⟨entry,hold,hsecured,rfl,hunexpired,rfl⟩))
    · exact hsave entry.2 hst hsecured
  · rw [unexpired_congr hframe.now] at hunexpired
    rcases (securedSessions_evolve st s).origin _ hrow' with ⟨row,hrow,htouches⟩ | ⟨session,origin,hst,rfl⟩
    · rw [htouches] at hrevoked hunexpired ⊢
      exact hs _ _ (mem_engaged.2 (.inr ⟨row,hrow,rfl,hrevoked,hunexpired,rfl⟩))
    · exact hinsert session origin hst

/-- The edit of a plane keeps every engaged user in its list, and the clock goes forward. -/
def keepsMembers (s : State) : Event → Bool
  | .savePlane plane => (engaged s plane.planeName).all fun userId =>
      plane.securedConnection.any fun secured => userId ∈ secured.userIds
  | .deletePlane planeName => (engaged s planeName).isEmpty
  | .clock now => s.now ≤ now
  | _ => true

lemma members_request (hs : Members s) : Members (step s (.request support request endpoint)) := by
  by_cases hchallenge : endpoint = .sshChallenge
  · subst hchallenge
    have htame : (handleSshChallenge support request).Tame (fun s' => Members s' ∧ s'.planes = s.planes) fun _ =>
        True := by
      refine tame_sshChallenge fun planeName plane s₁ h₁ hload st hst s' hs' =>
        ⟨?_,(apply_frame st s').planes.trans hs'.2⟩
      refine members_apply hs'.1 (fun challenge heq hsecured => ?_) fun session origin heq => ?_
      · subst heq
        obtain ⟨rfl,secured,hof,hmem⟩ := hst hsecured
        rw [listed_congr (hs'.2.trans h₁.2.symm)]
        unfold listed
        rw [hload]
        have hsome := (filter_eq_some_iff.1 hof).1
        simpa [hsome] using hmem
      · subst heq
        exact hst.elim
    exact (htame.run ⟨hs,rfl⟩).1.1
  · by_cases hverify : endpoint = .sshVerify
    · subst hverify
      have htame : (handleSshVerify support request).Tame (fun s' => Members s' ∧ s'.planes = s.planes ∧ s'.now = s.now)
          fun _ => True := by
        refine tame_sshVerify (fun s' h => h.2.2) fun r challenge s₁ _ h₁ hload hunexpired st hst s' hs' =>
          ⟨?_,(apply_frame st s').planes.trans hs'.2.1,(apply_frame st s').now.trans hs'.2.2⟩
        refine members_apply hs'.1 (fun challenge' heq _ => ?_) fun session origin heq => ?_
        · subst heq
          exact hst.elim
        · subst heq
          obtain ⟨hsecured,-,huser,hplane,-⟩ := hst
          rw [huser,hplane,listed_congr (hs'.2.1.trans h₁.2.1.symm)]
          refine h₁.1 _ _ (mem_engaged.2 (.inl ⟨_,Assoc.mem_of_lookup hload,hsecured,rfl,?_,rfl⟩))
          exact decide_eq_true (h₁.2.2 ▸ hunexpired)
      exact (htame.run ⟨hs,rfl,rfl⟩).1.1
    · refine (((executes_handle support request endpoint).tame fun st hst s' hs' => ?_).run hs).1
      refine members_apply hs' (fun challenge heq _ => ?_) fun session origin heq => ?_
      · subst heq
        exact absurd hst hchallenge
      · subst heq
        exact absurd hst.2 hverify

lemma loadDesiredState_delete (planeName name : String) : (step s (.deletePlane planeName)).loadDesiredState name =
    if name = planeName then none else s.loadDesiredState name := by
  change (s.planes.filter _).find? _ = _
  rw [find?_filter]
  split
  next hname =>
    simp [hname]
  next hname =>
    congr 1
    funext plane
    by_cases h : plane.planeName = name
    · simp [h,hname]
    · simp [h]

lemma loadDesiredState_save (plane : DesiredState) (name : String) : (step s (.savePlane plane)).loadDesiredState name =
    if name = plane.planeName then some plane else s.loadDesiredState name := by
  have hdelete := loadDesiredState_delete (s := s) plane.planeName name
  change (s.planes.filter _).find? _ = _ at hdelete
  change (s.planes.filter _ ++ [plane]).find? _ = _
  rw [find?_append,hdelete]
  by_cases h : name = plane.planeName
  · simp [h]
  · simp [h,Ne.symm h]

lemma members_touch (st : Statement) (hst : Touch st) (s : State) (hs : Members s) : Members (st.apply s) := by
  refine members_apply hs ?_ ?_
  · rintro challenge rfl
    exact hst.elim
  · rintro session origin rfl
    exact hst.elim

lemma members_step (hs : Members s) (hok : keepsMembers s event = true) : Members (step s event) := by
  cases event with
  | request support request endpoint => exact members_request hs
  | adminCheck support request => exact ((touches_requireAdmin.keeps members_touch).tame.run hs).1
  | planeCheck support request planeName =>
    exact (((touches_authenticateProtected planeName).keeps members_touch).tame.run hs).1
  | clock now =>
    intro planeName userId huser
    have hle : ∀ expiresAt, (step s (.clock now)).unexpired expiresAt = true → s.unexpired expiresAt = true :=
      fun expiresAt h => decide_eq_true ((Instant.text_le_text.2 (of_decide_eq_true hok)).trans (of_decide_eq_true h))
    refine hs planeName userId (mem_engaged.2 ?_)
    rcases mem_engaged.1 huser with ⟨entry,hentry,hsecured,hplane,hunexpired,huser⟩ |
      ⟨row,hrow,hplane,hrevoked,hunexpired,huser⟩
    · exact .inl ⟨entry,hentry,hsecured,hplane,hle _ hunexpired,huser⟩
    · exact .inr ⟨row,hrow,hplane,hrevoked,hle _ hunexpired,huser⟩
  | cleanup =>
    intro planeName userId huser
    refine hs planeName userId (mem_engaged.2 ?_)
    rcases mem_engaged.1 huser with ⟨entry,hentry,hrest⟩ | hsession
    · exact .inl ⟨entry,mem_of_mem_filter hentry,hrest⟩
    · exact .inr hsession
  | savePlane plane =>
    intro planeName userId huser
    unfold listed
    rw [loadDesiredState_save]
    by_cases hname : planeName = plane.planeName
    · rw [if_pos hname]
      exact all_eq_true.1 hok userId (hname ▸ huser)
    · rw [if_neg hname]
      exact hs planeName userId huser
  | deletePlane planeName' =>
    intro planeName userId huser
    unfold listed
    rw [loadDesiredState_delete]
    by_cases hname : planeName = planeName'
    · have hempty : engaged s planeName' = [] := isEmpty_iff.1 hok
      rw [← hname] at hempty
      have huser : userId ∈ engaged s planeName := huser
      rw [hempty] at huser
      exact absurd huser (by simp)
    · rw [if_neg hname]
      exact hs planeName userId huser

/-- In a history whose edits keep the engaged users listed, whoever is let in with the
session of a secured user is active and listed by the plane. -/
theorem securedAccess_listed {events : List Event}
    (hevents : Guarded step (fun s event => keepsMembers s event = true) {} events) {support : AuthHttpSupport}
    {request : HttpRequest} {user : UserRecord Int32} {session : AuthSessionRecord}
    (haccepted : decision (authenticateProtectedPlaneRequest support request planeName) (run step {} events) =
      some (user,session)) (hkind : session.sessionKind = "secured_ssh") :
    ∃ row ∈ (run step {} events).securedConnectionSessions.rows, row.token = session.token ∧
      ((run step {} events).loadActiveSecuredConnectionUser row.userId).isSome ∧
        listed (run step {} events) planeName row.userId = true := by
  have hstep : ∀ s event, Members s → keepsMembers s event = true → Members (step s event) := fun _ _ => members_step
  have hs : Members (run step {} events) := run_invariant hstep nofun hevents
  obtain ⟨token,-,haccepted⟩ := authenticateProtected_eq_some haccepted
  cases haccepted with
  | web hload | ssh hload =>
    obtain ⟨-,-,-,-,hother,-⟩ := loadActive_of_some hload
    rw [all_some,decide_eq_true_eq,hkind] at hother
    exact absurd hother (by decide)
  | secured row active hload huser _ hsame =>
    obtain ⟨hrow,-,hplane,hrevoked,hunexpired⟩ := loadActiveSecured_of_some hload
    refine ⟨row,hrow,hsame.symm,isSome_iff_exists.2 ⟨active,huser⟩,?_⟩
    exact hs _ _ (mem_engaged.2 (.inr ⟨row,hrow,hplane,hrevoked,hunexpired,rfl⟩))

def acceptedWith (events : List Event) : Option AuthSessionRecord :=
  (decision (authenticateProtectedPlaneRequest (plainSupport sshBody) planeRequest "plane") (run step {} events)).map
    Prod.snd

theorem securedAccess_listed_member :
    Guarded step (fun s event => keepsMembers s event = true) {} (sshEvents .userStorage (securedPlane ["scu_user"])) ∧
      listed (run step {} (sshEvents .userStorage (securedPlane ["scu_user"]))) "plane" "scu_user" = true := by
  have hevents : Guarded step (fun s event => keepsMembers s event = true) {}
      (sshEvents .userStorage (securedPlane ["scu_user"])) := by decide +kernel
  obtain ⟨⟨user,session⟩,haccepted⟩ := isSome_iff_exists.1 (show (decision (authenticateProtectedPlaneRequest
    (plainSupport sshBody) planeRequest "plane")
      (run step {} (sshEvents .userStorage (securedPlane ["scu_user"])))).isSome by decide +kernel)
  have hkind : (acceptedWith (sshEvents .userStorage (securedPlane ["scu_user"]))).map (·.sessionKind) =
      some "secured_ssh" := by decide +kernel
  rw [acceptedWith,haccepted] at hkind
  have hids : (run step {} (sshEvents .userStorage (securedPlane ["scu_user"]))).securedConnectionSessions.rows.map
      (·.userId) = ["scu_user"] := by decide +kernel
  obtain ⟨row,hrow,-,-,hlisted⟩ := securedAccess_listed hevents haccepted (some.inj hkind)
  have huser : row.userId ∈ ["scu_user"] := hids ▸ mem_map_of_mem hrow
  rw [mem_singleton.1 huser] at hlisted
  exact ⟨hevents,hlisted⟩

/-- The user is taken off the list and is let in with the session from before. -/
theorem securedAccess_unlisted :
    let events := sshEvents .userStorage (securedPlane ["scu_user"]) ++ [.savePlane (securedPlane [])]
    (acceptedWith events).map (·.sessionKind) = some "secured_ssh" ∧
      (run step {} events).securedConnectionSessions.rows.map (·.userId) = ["scu_user"] ∧
        listed (run step {} events) "plane" "scu_user" = false := by
  decide +kernel

end Naim.Auth
