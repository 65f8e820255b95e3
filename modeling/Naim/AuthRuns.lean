import Naim.AuthEffects
import Naim.Runs

/-!
# Histories of requests

The controller serves one request after the other while the clock goes on and the
planes are edited. The tables that were reached this way answer whether a token is
accepted.
-/

namespace Naim.Auth

open Calendar Program Rows Runs Option List

variable {q : Query} {s : State}

section Serve

variable {α β : Type} {support : AuthHttpSupport}

def serve (x : Handler α) (s : State) : State × Except Stop α := x.run.run s

@[simp] lemma serve_pure (a : α) (s : State) : serve (pure a) s = (s,.ok a) := rfl
@[simp] lemma serve_respond (response : HttpResponse) (s : State) :
    serve (respond response : Handler α) s = (s,.error (.respond response)) := rfl
@[simp] lemma serve_ok (a : α) (s : State) : serve (checked (.ok a)) s = (s,.ok a) := rfl
@[simp] lemma serve_error (error : Error) (s : State) :
    serve (checked (.error error) : Handler α) s = (s,.error (.raise error)) := rfl
@[simp] lemma serve_load (f : State → α) (s : State) : serve (load f) s = (s,.ok (f s)) := rfl
@[simp] lemma serve_utcNow (s : State) : serve utcNowSqlTimestamp s = (s,.ok s.now.text) := rfl
@[simp] lemma serve_afterSeconds (seconds : ℕ) (s : State) :
    serve (sqlTimestampAfterSeconds seconds) s = (s,.ok (sqlTimestamp (s.now.seconds + seconds))) := rfl

lemma serve_bind (x : Handler α) (f : α → Handler β) (s : State) :
    serve (x >>= f) s = match (serve x s).2 with
      | .ok a => serve (f a) (serve x s).1
      | .error stop => ((serve x s).1,.error stop) := by
  unfold serve
  rw [ExceptT.run_bind,run_bind]
  cases (x.run.run s).2 <;> rfl

lemma serve_query (q : Query) (f : State → α) (s : State) :
    serve (query support q f) s = (s,match support.queryFails q with
      | some error => .error (.raise error)
      | none => .ok (f s)) := by
  unfold query
  cases support.queryFails q <;> rfl

def performed (support : AuthHttpSupport) (st : Statement) (s : State) : Checked State :=
  match support.statementFails st with
  | some error => .error error
  | none => st.execute s

lemma serve_performFor (st : Statement) (report : State → α) (s : State) :
    serve (performFor support st report) s = match performed support st s with
      | .ok s' => (s',.ok (report s))
      | .error error => (s,.error (.raise error)) := by
  unfold performFor performed
  cases support.statementFails st with
  | some error => rfl
  | none =>
    cases h : st.execute s with
    | ok s' => simp [serve,Statement.apply,ExceptT.run,ExceptT.mk,h]
    | error error => simp [serve,Statement.apply,ExceptT.run,ExceptT.mk,h]

lemma serve_perform (st : Statement) (s : State) :
    serve (perform support st) s = match performed support st s with
      | .ok s' => (s',.ok ())
      | .error error => (s,.error (.raise error)) :=
  serve_performFor st (fun _ => ()) s

/-- The handler neither answers early nor throws, and its result satisfies `Q`. -/
def Returns (Q : α → Prop) (x : Handler α) (s : State) : Prop := ∃ a, (serve x s).2 = .ok a ∧ Q a

variable {Q : α → Prop} {R : β → Prop} {f : State → α} {g : α → Handler β} {s s' : State} {st : Statement}
  {x : Handler α} {v : Checked α} {c : Bool} {response : HttpResponse} {seconds : ℕ}

lemma returns_pure {a : α} : Returns Q (pure a) s ↔ Q a := by simp [Returns]

lemma returns_bind : Returns R (x >>= g) s ↔ ∃ a, (serve x s).2 = .ok a ∧ Returns R (g a) (serve x s).1 := by
  unfold Returns
  rw [serve_bind]
  cases (serve x s).2 <;> simp

lemma returns_assoc {γ : Type} {T : γ → Prop} {h : β → Handler γ} :
    Returns T (x >>= g >>= h) s ↔ Returns T (x >>= fun a => g a >>= h) s := by
  unfold Returns
  rw [serve_bind,serve_bind,serve_bind]
  cases (serve x s).2 with
  | ok a =>
    dsimp only
    rw [serve_bind]
  | error stop => rfl

lemma returns_bind_checked : Returns R (checked v >>= g) s ↔ ∃ a, v = .ok a ∧ Returns R (g a) s := by
  rw [returns_bind]
  cases v <;> simp

lemma returns_bind_respondIf {g : Unit → Handler β} :
    Returns R (respondIf c response >>= g) s ↔ c = false ∧ Returns R (g ()) s := by
  rw [returns_bind]
  cases c with
  | false => simp [respondIf,onlyIf,Unique.exists_iff]
  | true => simp [respondIf,onlyIf]

lemma returns_bind_load : Returns R (load f >>= g) s ↔ Returns R (g (f s)) s := by
  rw [returns_bind]
  simp

lemma returns_bind_query :
    Returns R (query support q f >>= g) s ↔ support.queryFails q = none ∧ Returns R (g (f s)) s := by
  rw [returns_bind,serve_query]
  cases support.queryFails q <;> simp

lemma returns_bind_utcNow {g : String → Handler β} :
    Returns R (utcNowSqlTimestamp >>= g) s ↔ Returns R (g s.now.text) s := by
  rw [returns_bind]
  simp

lemma returns_bind_afterSeconds {g : String → Handler β} :
    Returns R (sqlTimestampAfterSeconds seconds >>= g) s ↔
      Returns R (g (sqlTimestamp (s.now.seconds + seconds))) s := by
  rw [returns_bind]
  simp

lemma returns_bind_perform {g : Unit → Handler β} :
    Returns R (perform support st >>= g) s ↔ ∃ s', performed support st s = .ok s' ∧ Returns R (g ()) s' := by
  rw [returns_bind,serve_perform]
  cases performed support st s with
  | ok s' => simp [Unique.exists_iff]
  | error error => simp

def Throws (x : Handler α) : Prop := ∀ s response, (serve x s).2 ≠ .error (.respond response)

lemma Throws.bind (hx : Throws x) (hg : ∀ a, Throws (g a)) : Throws (x >>= g) := by
  intro s response
  rw [serve_bind]
  cases h : (serve x s).2 with
  | ok a => exact hg a _ response
  | error stop =>
    rintro ⟨rfl⟩
    exact hx s response h

lemma throws_pure (a : α) : Throws (pure a) := fun _ _ => nofun

lemma throws_checked (x : Checked α) : Throws (checked x) := by
  intro s response
  cases x <;> simp

lemma throws_load (f : State → α) : Throws (load f) := fun _ _ => nofun

lemma throws_query (q : Query) (f : State → α) : Throws (query support q f) := by
  unfold query
  split
  · exact throws_checked _
  · exact throws_load f

lemma throws_perform (st : Statement) : Throws (perform support st) := by
  intro s response
  rw [serve_perform]
  cases performed support st s <;> simp

theorem run_answering (failed : Error → HttpResponse) (body : Handler HttpResponse) (s : State) :
    (answering failed body).run s = ((serve body s).1,match (serve body s).2 with
      | .ok response => response
      | .error (.respond response) => response
      | .error (.raise error) => failed error) := by
  unfold answering serve
  change (body.run >>= _).run s = _
  rw [run_bind]
  rcases (body.run.run s).2 with (_ | _) | _ <;> rfl

theorem serve_fst (hx : Performs (fun _ => False) x) (s : State) : (serve x s).1 = s :=
  ((hx.keeps fun _ h => h.elim).tame.run (I := (· = s)) rfl).1

lemma performed_eq_ok :
    performed support st s = .ok s' ↔ support.statementFails st = none ∧ st.execute s = .ok s' := by
  unfold performed
  cases support.statementFails st <;> simp

end Serve

section Decisions

variable {s : State} {α : Type} {support : AuthHttpSupport} {request : HttpRequest} {sessionKind : Option String}

def decision {α : Type} (x : Handler (Option α)) (s : State) : Option α :=
  match (serve x s).2 with
  | .ok result => result
  | .error _ => none

lemma decision_pure (a : Option α) : decision (pure a) s = a := rfl

lemma decision_bind {β : Type} {x : Handler α} {f : α → Handler (Option β)} {b : β}
    (h : decision (x >>= f) s = some b) :
    ∃ a, (serve x s).2 = .ok a ∧ decision (f a) (serve x s).1 = some b := by
  unfold decision at h ⊢
  rw [serve_bind] at h
  cases hx : (serve x s).2 with
  | ok a => exact ⟨a,rfl,by rwa [hx] at h⟩
  | error stop => simp [hx] at h

lemma decision_bind_query {β : Type} {f : State → α} {g : α → Handler (Option β)} {b : β}
    (h : decision (query support q f >>= g) s = some b) : decision (g (f s)) s = some b := by
  rw [decision,serve_bind,serve_query] at h
  cases hfails : support.queryFails q with
  | some error => simp [hfails] at h
  | none => rwa [hfails] at h

lemma decision_bind_found {β : Type} {f : State → Option α} {g : Option α → Handler (Option β)} {b : β}
    (h : decision (query support q f >>= g) s = some b) (hnone : g none = pure none) :
    ∃ a, f s = some a ∧ decision (g (some a)) s = some b := by
  have h := decision_bind_query h
  cases hf : f s with
  | none => simp [hf,hnone,decision_pure] at h
  | some a => exact ⟨a,rfl,hf ▸ h⟩

lemma decision_touch {st : String → Statement} {a b : α}
    (h : decision (do let now ← utcNowSqlTimestamp; perform support (st now); pure (some a)) s = some b) : a = b := by
  obtain ⟨now,-,h⟩ := decision_bind h
  obtain ⟨_,-,h⟩ := decision_bind h
  exact some.inj h

variable {user : UserRecord Int32} {session : AuthSessionRecord}

lemma authenticate_eq_some
    (h : decision (authenticateControllerUserSession support request sessionKind) s = some (user,session)) :
    ∃ token, findControllerSessionToken request = some token ∧
      s.loadActiveAuthSession token sessionKind none = some session ∧ s.loadUserById session.userId = some user := by
  unfold authenticateControllerUserSession at h
  cases htoken : findControllerSessionToken request with
  | none => simp [htoken,decision_pure] at h
  | some token =>
    rw [htoken] at h
    obtain ⟨found,hsession,h⟩ := decision_bind_found h rfl
    obtain ⟨user',huser,h⟩ := decision_bind_found h rfl
    obtain ⟨rfl,rfl⟩ := Prod.mk.inj (decision_touch h)
    exact ⟨token,rfl,hsession,huser⟩

lemma requireAdmin_eq_some (h : decision (requireControllerAdminUser support request) s = some user) :
    user.role = "admin" ∧ ∃ token session, findControllerSessionToken request = some token ∧
      s.loadActiveAuthSession token (some "web") none = some session ∧ s.loadUserById session.userId = some user := by
  obtain ⟨result,hresult,h⟩ := decision_bind h
  obtain ⟨hsome,hrole⟩ := filter_eq_some_iff.1 h
  obtain ⟨⟨user',session⟩,rfl,rfl⟩ := map_eq_some_iff.1 hsome
  have haccepted : decision (authenticateControllerUserSession support request (some "web")) s =
      some (user',session) := by
    rw [decision,hresult]
  obtain ⟨token,htoken,hload⟩ := authenticate_eq_some haccepted
  exact ⟨of_decide_eq_true hrole,token,session,htoken,hload⟩

/-- The session that a request for a plane was accepted with. -/
inductive PlaneSession (s : State) (token planeName : String) (session : AuthSessionRecord) : Prop
  | web (load : s.loadActiveAuthSession token (some "web") none = some session)
  | ssh (load : s.loadActiveAuthSession token (some "ssh") (some planeName) = some session)
  | secured (row : SecuredConnectionSessionRecord) (user : SecuredConnectionUserRecord)
      (load : s.loadActiveSecuredConnectionSession token planeName = some row)
      (loadUser : s.loadActiveSecuredConnectionUser row.userId = some user)
      (kind : session.sessionKind = "secured_ssh") (sameToken : session.token = row.token)

lemma serve_authenticate_none
    (h : (serve (authenticateControllerUserSession support request sessionKind) s).2 = .ok none) :
    (serve (authenticateControllerUserSession support request sessionKind) s).1 = s := by
  unfold authenticateControllerUserSession at h ⊢
  cases htoken : findControllerSessionToken request with
  | none => rfl
  | some token =>
    simp only [htoken,serve_bind,serve_query] at h ⊢
    cases hfails : support.queryFails .loadActiveAuthSession with
    | some error => rfl
    | none =>
      cases hsession : s.loadActiveAuthSession token sessionKind none with
      | none => rfl
      | some session =>
        simp only [hfails,hsession,serve_bind,serve_query] at h ⊢
        cases hfails : support.queryFails .loadUserById with
        | some error => rfl
        | none =>
          cases huser : s.loadUserById session.userId with
          | none => rfl
          | some user =>
            simp only [hfails,huser,serve_bind,serve_utcNow,serve_perform] at h
            split at h
            next hperformed =>
              split at hperformed <;> simp at h hperformed
            · simp at h

lemma authenticateProtected_eq_some {planeName : String}
    (h : decision (authenticateProtectedPlaneRequest support request planeName) s = some (user,session)) :
    ∃ token, findControllerSessionToken request = some token ∧ PlaneSession s token planeName session := by
  obtain ⟨webSession,hweb,h⟩ := decision_bind h
  cases webSession with
  | some webSession =>
    obtain rfl := some.inj h
    have haccepted : decision (authenticateControllerUserSession support request (some "web")) s =
        some (user,session) := by
      rw [decision,hweb]
    obtain ⟨token,htoken,hload,-⟩ := authenticate_eq_some haccepted
    exact ⟨token,htoken,.web hload⟩
  | none =>
    rw [serve_authenticate_none hweb] at h
    cases htoken : findControllerSessionToken request with
    | none => simp [htoken,decision_pure] at h
    | some token =>
      rw [htoken] at h
      refine ⟨token,rfl,?_⟩
      have h := decision_bind_query h
      cases hssh : s.loadActiveAuthSession token (some "ssh") (some planeName) with
      | some sshSession =>
        rw [hssh] at h
        obtain ⟨user',huser,h⟩ := decision_bind_found h rfl
        obtain ⟨-,rfl⟩ := Prod.mk.inj (decision_touch h)
        exact .ssh hssh
      | none =>
        rw [hssh] at h
        obtain ⟨row,hrow,h⟩ := decision_bind_found h rfl
        obtain ⟨user',huser,h⟩ := decision_bind_found h rfl
        obtain ⟨-,rfl⟩ := Prod.mk.inj (decision_touch h)
        exact .secured row user' hrow huser rfl rfl

lemma loadUserById_of_hasUser (h : s.hasUser userId = true) : (s.loadUserById userId).isSome := by
  unfold State.loadUserById
  rw [isSome_map,find?_isSome]
  exact any_eq_true.1 h

/-- Without errors of the database an active session of an existing user is accepted. -/
theorem authenticate_accepts (hqueries : ∀ q, support.queryFails q = none)
    (hstatements : ∀ st, support.statementFails st = none)
    (htoken : findControllerSessionToken request = some token)
    (hsession : s.loadActiveAuthSession token sessionKind none = some session)
    (huser : s.loadUserById session.userId = some user) :
    decision (authenticateControllerUserSession support request sessionKind) s = some (user,session) := by
  unfold authenticateControllerUserSession decision
  simp only [htoken,serve_bind,serve_query,hqueries,hsession,huser,serve_utcNow,serve_perform,performed,hstatements,
    Statement.execute,serve_pure]

end Decisions

def plainSupport (body : Json) (draw : String := "token") : AuthHttpSupport where
  parse _ := .ok body
  dump _ := .ok "[]"
  what _ := ""
  randomTokenBase64 k := .ok (if k = 0 then draw else "challenge")
  hashPassword _ := .ok "hash"
  runWebAuthnHelper _ _ := .ok (.obj [("registrationInfo",.obj []),("verified",.bool true)])
  computeSshPublicKeyFingerprint _ := .ok "fingerprint"
  verifySshDetachedSignature _ _ _ _ := .ok true
  environment _ := none
  like _ _ := true
  queryFails _ := none
  statementFails _ := none

/-- Requests to `AuthHttpService`, the session checks of other services, the clock,
the cleanup in front of each request, and edits of the planes. -/
inductive Event
  | request (support : AuthHttpSupport) (request : HttpRequest) (endpoint : Endpoint)
  | adminCheck (support : AuthHttpSupport) (request : HttpRequest)
  | planeCheck (support : AuthHttpSupport) (request : HttpRequest) (planeName : String)
  | clock (now : Instant)
  | cleanup
  | savePlane (plane : DesiredState)
  | deletePlane (planeName : String)

def step (s : State) : Event → State
  | .request support request endpoint => ((endpoint.handle support request).run s).1
  | .adminCheck support request => (serve (requireControllerAdminUser support request) s).1
  | .planeCheck support request planeName => (serve (authenticateProtectedPlaneRequest support request planeName) s).1
  | .clock now => {s with now}
  | .cleanup => s.cleanupExpiredPendingAuthFlows
  | .savePlane plane =>
    let planes := s.planes.filter (·.planeName ≠ plane.planeName) ++ [plane]
    {s with planes}
  | .deletePlane planeName => {s with planes := s.planes.filter (·.planeName ≠ planeName)}

def Event.Permits : Event → Statement → Prop
  | .request support _ endpoint => endpoint.Permits support
  | .adminCheck .. | .planeCheck .. => Touch
  | _ => fun _ => False

structure SameTables (s s' : State) : Prop where
  pendingWebAuthnFlows : s'.pendingWebAuthnFlows ⊆ s.pendingWebAuthnFlows
  users : s'.users = s.users
  registrationInvites : s'.registrationInvites = s.registrationInvites
  authSessions : s'.authSessions = s.authSessions
  securedConnectionSessions : s'.securedConnectionSessions = s.securedConnectionSessions
  history : s'.history = s.history

/-- An event keeps what its statements keep and what depends on the tables and the clock only. -/
lemma step_keeps {I : State → Prop} (hs : I s) (hok : ∀ st, event.Permits st → ∀ s, I s → I (st.apply s))
    (hother : ∀ s', SameTables s s' → s'.now = s.now ∨ event = .clock s'.now → I s') : I (step s event) := by
  cases event with
  | request support request endpoint => exact (((executes_handle support request endpoint).tame hok).run hs).1
  | adminCheck support request => exact ((touches_requireAdmin.keeps hok).tame.run hs).1
  | planeCheck support request planeName => exact (((touches_authenticateProtected planeName).keeps hok).tame.run hs).1
  | clock now => exact hother _ ⟨List.Subset.refl _,rfl,rfl,rfl,rfl,rfl⟩ (.inr rfl)
  | cleanup => exact hother _ ⟨fun _ => mem_of_mem_filter,rfl,rfl,rfl,rfl,rfl⟩ (.inl rfl)
  | _ => exact hother _ ⟨List.Subset.refl _,rfl,rfl,rfl,rfl,rfl⟩ (.inl rfl)

def setupBody : Json :=
  .obj [("flow_id",.str "token"),("password",.str "secret"),("response",.obj []),("username",.str "root")]

def setup : List Event :=
  [.request (plainSupport setupBody) {body := "setup"} .bootstrapBegin,
    .request (plainSupport setupBody) {body := "setup"} .bootstrapFinish]

def tokenRequest : HttpRequest where
  headers := [("x-naim-session-token","token")]

def Linked (s : State) : Prop := ∀ row ∈ s.authSessions.rows, s.hasUser row.userId = true

lemma linked_apply (hs : Linked s) (st : Statement) : Linked (st.apply s) := by
  intro row' hrow'
  rcases (sessions_evolve st s).origin _ hrow' with ⟨row,hrow,htouches⟩ | ⟨session,origin,-,huser,rfl⟩
  · rw [htouches]
    exact hasUser_apply (hs row hrow) st
  · exact hasUser_apply huser st

lemma linked_step (s : State) (event : Event) (hs : Linked s) : Linked (step s event) := by
  refine step_keeps hs (fun st _ s hs => linked_apply hs st) fun s' h _ => ?_
  unfold Linked State.hasUser
  rw [h.authSessions,h.users]
  exact hs

lemma linked_run (events : List Event) : Linked (run step {} events) :=
  run_invariant (fun s event hs _ => linked_step s event hs) nofun (guarded_true events)

/-- A request on its way; `started` once it has accessed the tables or the pending flows. -/
structure Process where
  support : AuthHttpSupport
  request : HttpRequest
  endpoint : Endpoint
  program : Program State HttpResponse
  started : Bool := false

structure Controller where
  state : State
  processes : List Process := []

inductive Action
  | arrive (support : AuthHttpSupport) (request : HttpRequest) (endpoint : Endpoint)
  | access (index : ℕ)
  | clock (now : Instant)
  | cleanup

namespace Controller

variable (c : Controller)

def arrive (support : AuthHttpSupport) (request : HttpRequest) (endpoint : Endpoint) : Controller where
  state := c.state
  processes := c.processes ++ [⟨support,request,endpoint,endpoint.handle support request,false⟩]

def access (index : ℕ) (p : Process) : Controller where
  state := (p.program.advance c.state).1
  processes := c.processes.set index {p with program := (p.program.advance c.state).2, started := true}

def step : Action → Controller
  | .arrive support request endpoint => c.arrive support request endpoint
  | .access index => match c.processes[index]? with
    | none => c
    | some p => c.access index p
  | .clock now => {c with state := {c.state with now}}
  | .cleanup => {c with state := c.state.cleanupExpiredPendingAuthFlows}

def Sound : Prop :=
  ∀ p ∈ c.processes, p.program.Uses fun f => ∃ st : Statement, True ∧ f = st.apply

lemma sound_step (action : Action) (hc : c.Sound) : (c.step action).Sound := by
  cases action with
  | arrive support request endpoint =>
    intro p hp
    rcases mem_append.1 hp with hp | hp
    · exact hc p hp
    · rw [mem_singleton.1 hp]
      exact (executes_handle support request endpoint).uses.mono fun f ⟨st,_,hf⟩ => ⟨st,trivial,hf⟩
  | access index =>
    unfold step
    dsimp only
    split
    · exact hc
    next p hp =>
      intro p' hp'
      rcases mem_or_eq_of_mem_set hp' with hp' | rfl
      · exact hc p' hp'
      · exact ((hc p (mem_of_getElem? hp)).advance c.state).1
  | clock now => exact hc
  | cleanup => exact hc

/-- A step of the controller leaves the state or runs one statement on it, or it is the
clock or the cleanup. -/
theorem state_step {c : Controller} (hc : c.Sound) (action : Action) : (c.step action).state = c.state ∨
    (∃ st : Statement, (c.step action).state = st.apply c.state) ∨ SameTables c.state (c.step action).state := by
  cases action with
  | arrive support request endpoint => exact .inl rfl
  | access index =>
    unfold step
    dsimp only
    split
    · exact .inl rfl
    next p hp =>
      rcases ((hc p (mem_of_getElem? hp)).advance c.state).2 with h | ⟨f,⟨st,-,rfl⟩,h⟩
      · exact .inl h
      · exact .inr (.inl ⟨st,h⟩)
  | clock now => exact .inr (.inr ⟨List.Subset.refl _,rfl,rfl,rfl,rfl,rfl⟩)
  | cleanup => exact .inr (.inr ⟨fun _ => mem_of_mem_filter,rfl,rfl,rfl,rfl,rfl⟩)

end Controller
end Naim.Auth
