import Naim.HostdSteps

/-!
# Revocation of a host

`RevokeHost` marks the row of a host as revoked and clears its session, while the
controller serves requests of that host on other threads. A request that has
loaded the row before writes its old copy back.
-/

namespace Naim.HostRevocation

open HostdHttp Program Runs Option List

def LeavesHosts (statement : Store → Store) : Prop := ∀ s, (statement s).hosts = s.hosts

/-- The handlers of `HostdHttpService` that write the row of a host, and the shape of
the others, whose own work is on other tables. -/
inductive Endpoint
  | sessionOpen
  | sessionHeartbeat
  | nextAssignment
  | assignmentAction
  | observations (readPayload : Json → Checked String) (record : Json → Handler Unit)
      (inventory : RegisteredHostRecord → Json → Checked Inventory)
      (leavesHosts : ∀ body, (record body).run.Uses LeavesHosts)
  | other (messageType : String) (serve : RegisteredHostRecord → Json → Handler Json)
      (leavesHosts : ∀ host body, (serve host body).run.Uses LeavesHosts)

def Endpoint.handle (support : HostdHttpSupport) (request : HttpRequest) : Endpoint → Program Store Unit
  | sessionOpen => (fun _ => ()) <$> handleSessionOpen support request
  | sessionHeartbeat => (fun _ => ()) <$> handleSessionHeartbeat support request
  | nextAssignment => (fun _ => ()) <$> handleNextAssignment support request
  | assignmentAction => (fun _ => ()) <$> handleAssignmentAction support request
  | observations readPayload record inventory _ =>
    (fun _ => ()) <$> handleObservations support request readPayload record inventory
  | other messageType serve _ => (fun _ => ()) <$> handleEncrypted support request messageType serve

/-- A request on its way; `refreshed` once it has read the database after the revocation. -/
structure Process where
  program : Program Store Unit
  refreshed : Bool := false

structure Controller where
  store : Store
  revocation : Program Store (Except Stop Unit)
  revoked : Bool := false
  processes : List Process := []

inductive Event
  | arrive (support : HostdHttpSupport) (request : HttpRequest) (endpoint : Endpoint)
  | serve (index : ℕ)
  | revoke

def step (c : Controller) : Event → Controller
  | .arrive support request endpoint =>
    {c with processes := c.processes ++ [{program := endpoint.handle support request}]}
  | .serve index => match c.processes[index]? with
    | none => c
    | some p => {c with
        store := (p.program.advance c.store).1
        processes := c.processes.set index
          ⟨(p.program.advance c.store).2,p.refreshed || c.revoked && p.program.isRead⟩}
  | .revoke => {c with
      store := (c.revocation.advance c.store).1, revocation := (c.revocation.advance c.store).2
      revoked := c.revoked || c.revocation.isExec}

def start (nodeName : String) (statusMessage : Option String) (s : Store) : Controller where
  store := s
  revocation := (revokeHost nodeName statusMessage).run

/-- A request that was loaded before the revocation does not change the row of the host after it. -/
def NotStale (nodeName : String) (c : Controller) : Event → Prop
  | .serve index => c.revoked = true → ∀ p, c.processes[index]? = some p → p.refreshed = false →
      (p.program.advance c.store).1.loadRegisteredHost nodeName = c.store.loadRegisteredHost nodeName
  | _ => True

variable {nodeName : String} {s s' : Store}

def Revoked (nodeName : String) (s : Store) : Prop :=
  ∃ host, s.loadRegisteredHost nodeName = some host ∧ host.registrationState = "revoked"

lemma revoked_of_hosts (hs : Revoked nodeName s) (h : s'.hosts = s.hosts) : Revoked nodeName s' := by
  unfold Revoked Store.loadRegisteredHost at hs ⊢
  rwa [h]

lemma permits_revoked (nodeName : String) :
    Permits (Revoked nodeName) fun host => host.nodeName = nodeName → host.registrationState = "revoked" where
  write host hallowed s hs := by
    unfold Revoked
    rw [loadRegisteredHost_upsert]
    by_cases hname : host.nodeName = nodeName
    · rw [if_pos hname]
      exact ⟨_,rfl,hallowed hname⟩
    · rw [if_neg hname]
      exact hs
  session a b ha hname hstate h := by rw [hstate,ha (hname ▸ h)]
  loaded s hs name host hload hname := by
    obtain ⟨row,hrow,hstate⟩ := hs
    rw [loadRegisteredHost_nodeName hload] at hname
    rw [hname,hrow] at hload
    rw [← some.inj hload,hstate]
  missing s hs host hload hname := by
    obtain ⟨row,hrow,-⟩ := hs
    rw [hname,hrow] at hload
    exact absurd hload (by simp)
  unread s s' hs hhosts _ := revoked_of_hosts hs hhosts

lemma latent_handle (support : HostdHttpSupport) (request : HttpRequest) (endpoint : Endpoint) :
    (endpoint.handle support request).Latent (Revoked nodeName) fun _ => True := by
  have hmap : ∀ {α : Type} {p : Program Store α}, p.Settled (Revoked nodeName) True (fun _ => True) →
      ((fun _ => ()) <$> p).Latent (Revoked nodeName) fun _ => True :=
    fun hp => (Settled.bind hp fun _ => .done fun _ => trivial).2
  have hI := permits_revoked nodeName
  have hclaim : ∀ f s, Revoked nodeName s → Revoked nodeName (s.onAssignments f) :=
    fun f s hs => revoked_of_hosts hs rfl
  have hwork : ∀ {α : Type} {x : Handler α}, x.run.Uses LeavesHosts →
      x.run.Settled (Revoked nodeName) True (Yields fun _ => True) :=
    fun hx => hx.settled (fun statement hst s hs => revoked_of_hosts hs (hst s)) fun r => by cases r <;> trivial
  cases endpoint with
  | sessionOpen => exact hmap hI.handleSessionOpen
  | sessionHeartbeat => exact hmap hI.handleSessionHeartbeat
  | nextAssignment => exact hmap (hI.handleNextAssignment hclaim)
  | assignmentAction =>
    exact hmap (hI.handleAssignmentAction fun _ => ⟨fun _ _ => hclaim _,fun _ _ _ => hclaim _⟩)
  | observations readPayload record inventory leavesHosts =>
    exact hmap (hI.handleObservations fun body => hwork (leavesHosts body))
  | other messageType serve leavesHosts =>
    exact hmap (hI.handleEncrypted fun host body => hwork (leavesHosts host body))

lemma establishes_revokeHost (nodeName : String) (statusMessage : Option String) :
    (revokeHost nodeName statusMessage).run.Establishes (Revoked nodeName) := by
  intro s
  simp only [Program.bind,ExceptT.bindCont]
  cases hload : s.loadRegisteredHost nodeName with
  | none => trivial
  | some host =>
    refine fun s' => ⟨?_,trivial⟩
    unfold Revoked
    rw [loadRegisteredHost_upsert,if_pos (loadRegisteredHost_nodeName hload)]
    exact ⟨_,rfl,rfl⟩

/-- Before its write the revocation is on its way to it; after it the row is
revoked, and the requests that read the database since then keep it so. -/
structure Sound (nodeName : String) (c : Controller) : Prop where
  pending : c.revoked = false → c.revocation.Establishes (Revoked nodeName)
  revoked : c.revoked = true → Revoked nodeName c.store ∧ c.revocation.Tame (Revoked nodeName) fun _ => True
  latent : ∀ p ∈ c.processes, p.program.Latent (Revoked nodeName) fun _ => True
  refreshed : ∀ p ∈ c.processes, p.refreshed = true →
    c.revoked = true ∧ p.program.Tame (Revoked nodeName) fun _ => True

variable {c : Controller}

lemma Sound.arrive (h : Sound nodeName c) (support : HostdHttpSupport) (request : HttpRequest)
    (endpoint : Endpoint) : Sound nodeName (step c (.arrive support request endpoint)) where
  pending := h.pending
  revoked := h.revoked
  latent p hp := by
    rcases mem_append.1 hp with hp | hp
    · exact h.latent p hp
    · obtain rfl := mem_singleton.1 hp
      exact latent_handle support request endpoint
  refreshed p hp hfresh := by
    rcases mem_append.1 hp with hp | hp
    · exact h.refreshed p hp hfresh
    · obtain rfl := mem_singleton.1 hp
      cases hfresh

lemma Sound.revoke (h : Sound nodeName c) : Sound nodeName (step c .revoke) := by
  refine ⟨fun hpending => ?_,fun hrevoked => ?_,h.latent,fun p hp hfresh => ?_⟩
  · obtain ⟨hbefore,hexec⟩ := Bool.or_eq_false_iff.1 hpending
    have hon := h.pending hbefore
    simp only [step]
    cases hprogram : c.revocation with
    | done r => trivial
    | read next =>
      rw [hprogram] at hon
      exact hon c.store
    | exec statement next =>
      rw [hprogram] at hexec
      exact absurd hexec (by simp [isExec])
  · cases hbefore : c.revoked with
    | true =>
      obtain ⟨hstore,htame⟩ := h.revoked hbefore
      exact htame.advance hstore
    | false =>
      have hon := h.pending hbefore
      simp only [step,hbefore,Bool.false_or] at hrevoked ⊢
      cases hprogram : c.revocation with
      | done r => exact absurd hrevoked (by simp [hprogram,isExec])
      | read next => exact absurd hrevoked (by simp [hprogram,isExec])
      | exec statement next =>
        rw [hprogram] at hon
        exact hon c.store
  · obtain ⟨hbefore,htame⟩ := h.refreshed p hp hfresh
    exact ⟨by simp [step,hbefore],htame⟩

lemma Sound.serve {index : ℕ} (h : Sound nodeName c) (hstale : NotStale nodeName c (.serve index)) :
    Sound nodeName (step c (.serve index)) := by
  cases hprocess : c.processes[index]? with
  | none =>
    rw [step,hprocess]
    exact h
  | some p =>
    rw [step,hprocess]
    have hmem : p ∈ c.processes := mem_of_getElem? hprocess
    have hstore : c.revoked = true → Revoked nodeName (p.program.advance c.store).1 := by
      intro hrevoked
      obtain ⟨hrow,-⟩ := h.revoked hrevoked
      cases hfresh : p.refreshed with
      | true => exact ((h.refreshed p hmem hfresh).2.advance hrow).1
      | false =>
        obtain ⟨host,hload,hstate⟩ := hrow
        exact ⟨host,by rw [hstale hrevoked p hprocess hfresh,hload],hstate⟩
    refine ⟨h.pending,fun hrevoked => ⟨hstore hrevoked,(h.revoked hrevoked).2⟩,fun q hq => ?_,fun q hq hfresh => ?_⟩
    · rcases mem_or_eq_of_mem_set hq with hq | rfl
      · exact h.latent q hq
      · exact (h.latent p hmem).advance c.store
    · rcases mem_or_eq_of_mem_set hq with hq | rfl
      · exact h.refreshed q hq hfresh
      · rcases Bool.or_eq_true_iff.1 hfresh with hfresh | hread
        · obtain ⟨hrevoked,htame⟩ := h.refreshed p hmem hfresh
          exact ⟨hrevoked,(htame.advance (h.revoked hrevoked).1).2⟩
        · obtain ⟨hrevoked,hread⟩ := Bool.and_eq_true_iff.1 hread
          exact ⟨hrevoked,(h.latent p hmem).advance_read (h.revoked hrevoked).1 hread⟩

lemma sound_run (h : Sound nodeName c) (hevents : Guarded step (NotStale nodeName) c events) :
    Sound nodeName (run step c events) :=
  run_invariant (fun _ e hc he => match e with
    | .arrive support request endpoint => hc.arrive support request endpoint
    | .serve _ => hc.serve he
    | .revoke => hc.revoke) h hevents

lemma authenticate_revoked (hs : Revoked nodeName s) (support : HostdHttpSupport)
    (hnode : request.headers.lookup "x-naim-host-node" = some nodeName) (expected : Option String) :
    authenticate support request expected s = none := by
  by_contra hsome
  obtain ⟨host,hauth⟩ := ne_none_iff_exists'.1 hsome
  obtain ⟨token,name,-,hname,hload,haccepts⟩ := loaded_of_authenticate hauth
  obtain ⟨row,hrow,hstate⟩ := hs
  obtain rfl : nodeName = name := some.inj (hnode.symm.trans hname)
  obtain rfl : row = host := some.inj (hrow.symm.trans hload)
  simp [accepts,hstate] at haccepts

/-- In every run in which no request that was loaded before the revocation's write
changes the row after it, a revoked host is accepted no more. -/
theorem revocation_final (nodeName : String) (statusMessage : Option String) (s : Store) (events : List Event)
    (hevents : Guarded step (NotStale nodeName) (start nodeName statusMessage s) events)
    (hrevoked : (run step (start nodeName statusMessage s) events).revoked = true) (support : HostdHttpSupport)
    (request : HttpRequest) (hnode : request.headers.lookup "x-naim-host-node" = some nodeName)
    (expected : Option String) :
    authenticate support request expected (run step (start nodeName statusMessage s) events).store = none :=
  authenticate_revoked ((sound_run (c := start nodeName statusMessage s)
    ⟨fun _ => establishes_revokeHost nodeName statusMessage,nofun,nofun,nofun⟩ hevents).revoked
    hrevoked).1 support hnode expected

def registered : Store where
  hosts := [{nodeName := "node-a", sessionToken := "token-a"}]

def heartbeatOfA : HttpRequest where
  path := "/api/v1/hostd/session/heartbeat"
  headers := [("x-naim-host-node","node-a"),("x-naim-host-session","token-a")]

/-- The heartbeat loads the row, the host is revoked, and the heartbeat writes its copy back. -/
def crossedRevocation : List Event :=
  [.arrive (plainSupport .null) heartbeatOfA .sessionHeartbeat,.serve 0,.revoke,.revoke,.serve 0]

/-- The old token is accepted after the revocation has returned. -/
theorem crossedRevocation_accepts :
    (run step (start "node-a" none registered) crossedRevocation).revoked = true ∧
    (authenticate (plainSupport .null) heartbeatOfA none
      (run step (start "node-a" none registered) crossedRevocation).store).map (fun host =>
        (host.nodeName,host.registrationState,host.sessionToken)) = some ("node-a","registered","token-a") := by
  decide +kernel

def orderedRevocation : List Event :=
  [.arrive (plainSupport .null) heartbeatOfA .sessionHeartbeat,.serve 0,.serve 0,.revoke,.revoke]

theorem orderedRevocation_rejects :
    authenticate (plainSupport .null) heartbeatOfA none
      (run step (start "node-a" none registered) orderedRevocation).store = none :=
  revocation_final "node-a" none registered orderedRevocation
    ⟨trivial,fun h => absurd h (by decide),fun h => absurd h (by decide),trivial,trivial,trivial⟩ (by decide)
    (plainSupport .null) heartbeatOfA (by decide) none

end Naim.HostRevocation
