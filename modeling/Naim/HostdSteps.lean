import Naim.HostdHttp

/-!
# What the statements of a handler keep

The rules by which an invariant of the database is followed through the handlers
of `HostdHttpService`. A handler writes back rows of hosts that it has loaded, so
an invariant is kept as long as every row it may have loaded is allowed in it.
-/

namespace Naim

variable {c : Bool}

namespace Program

open HostdHttp

variable {α β : Type} {I : Store → Prop} {P : Prop} {R : β → Prop} {f : α → Handler β} {g : Unit → Handler β}
  {response : HttpResponse} {x : Checked α}

lemma Settled.checked (hf : ∀ a, (f a).run.Settled I P (Yields R)) :
    (checked x >>= f).run.Settled I P (Yields R) := by
  cases x with
  | ok a => exact hf a
  | error e => exact .done fun _ => trivial

lemma Settled.respondIf (hg : ∀ a, (g a).run.Settled I P (Yields R)) :
    (respondIf c response >>= g).run.Settled I P (Yields R) := by
  cases c with
  | false => exact hg ()
  | true => exact .done fun _ => trivial

lemma Tame.checked (hf : ∀ a, x = .ok a → (f a).run.Tame I (Yields R)) : (checked x >>= f).run.Tame I (Yields R) := by
  cases hx : x with
  | ok a => exact hf a hx
  | error e => trivial

lemma Tame.respondIf (hg : ∀ a, (g a).run.Tame I (Yields R)) : (respondIf c response >>= g).run.Tame I (Yields R) := by
  cases c with
  | false => exact hg ()
  | true => trivial

end Program

namespace HostdHttp

open Assignments Reconciliation Program

section Rules

variable {α : Type} {I : Store → Prop} {P : Prop} {Q : α → Prop}

lemma settled_pure {a : α} (h : P → Q a) : (pure a : Handler α).run.Settled I P (Yields Q) := .done h

lemma settled_respond (response : HttpResponse) : (respond response : Handler α).run.Settled I P (Yields Q) :=
  .done fun _ => trivial

lemma settled_load {f : Store → α} (h : ∀ s, I s → Q (f s)) : (load f).run.Settled I P (Yields Q) :=
  .read fun s => .done (h s)

lemma settled_exec {statement : Store → Store} (h : P → ∀ s, I s → I (statement s)) :
    (exec statement).run.Settled I P (Yields fun _ => P) := .exec h fun _ => .done id

lemma settled_execFor {statement : Store → Store} {report : Store → α} (h : P → ∀ s, I s → I (statement s)) :
    (execFor statement report).run.Settled I P (Yields fun _ => P) := .exec h fun _ => .done id

lemma settled_checked_eq (x : Checked α) : (checked x).run.Settled I P (Yields fun a => P ∧ x = .ok a) := by
  cases x with
  | ok a => exact .done fun h => ⟨h,rfl⟩
  | error e => exact .done fun _ => trivial

lemma settled_onlyIf (h : body.run.Settled I P (Yields fun _ => P)) :
    (onlyIf c body).run.Settled I P (Yields fun _ => P) := by
  cases c with
  | false => exact .done id
  | true => exact h

end Rules

@[simp] lemma loadRegisteredHost_upsert (s : Store) (host : RegisteredHostRecord) (nodeName : String) :
    (s.upsertRegisteredHost host).loadRegisteredHost nodeName =
      if host.nodeName = nodeName then some host.stored else s.loadRegisteredHost nodeName :=
  Rows.find?_upsert RegisteredHostRecord.nodeName host.stored s.hosts nodeName

variable {s : Store} {support : HostdHttpSupport} {request : HttpRequest} {messageType : String}

lemma loadRegisteredHost_nodeName {nodeName : String} {host : RegisteredHostRecord}
    (h : s.loadRegisteredHost nodeName = some host) : host.nodeName = nodeName := by
  simpa using List.find?_some h

/-- Rows of hosts that may be written while the database satisfies `I`: those that
it holds, those it has no row for, and any other state of the session of such a row. -/
structure Permits (I : Store → Prop) (Allowed : RegisteredHostRecord → Prop) : Prop where
  write : ∀ host, Allowed host → ∀ s, I s → I (s.upsertRegisteredHost host)
  session : ∀ a b, Allowed a → b.nodeName = a.nodeName → b.registrationState = a.registrationState → Allowed b
  loaded : ∀ s, I s → ∀ nodeName host, s.loadRegisteredHost nodeName = some host → Allowed host
  missing : ∀ s, I s → ∀ host, s.loadRegisteredHost host.nodeName = none → Allowed host
  unread : ∀ s s', I s → s'.hosts = s.hosts → s'.assignments = s.assignments → I s'

/-- `I` survives what hostd reports on the assignment. -/
structure KeepsReports (I : Store → Prop) (id : ℕ) : Prop where
  progress : ∀ now progressJson s, I s → I (s.onAssignments (updateHostAssignmentProgress now · id progressJson))
  transition : ∀ now status message s, I s →
    I (s.onAssignments (transitionClaimedHostAssignment now · id status message))

variable {I : Store → Prop} {Allowed : RegisteredHostRecord → Prop} {P : Prop} {host : RegisteredHostRecord}

lemma loaded_of_authenticate (h : authenticate support request expected s = some host) :
    ∃ token nodeName, request.headers.lookup "x-naim-host-session" = some token ∧
      request.headers.lookup "x-naim-host-node" = some nodeName ∧ s.loadRegisteredHost nodeName = some host ∧
      accepts support token expected host = true := by
  unfold authenticate at h
  split at h
  next token nodeName htoken hnode =>
    split at h
    · cases h
    · obtain ⟨hload,haccepts⟩ := Option.filter_eq_some_iff.1 h
      exact ⟨token,nodeName,htoken,hnode,hload,haccepts⟩
  next => cases h

lemma openBody_eq_ok (h : openBody support request host messageType = .ok opened) :
    (∃ body, opened = .inl body) ∨ ∃ sequenceNumber decrypted, host.sessionHostSequence < sequenceNumber ∧
      opened = .inr ({host with
        sessionHostSequence := sequenceNumber
        sessionExpiresAt := support.sqlTimestampAfterSeconds 600},decrypted) := by
  unfold openBody at h
  simp only [Checked.bind_eq_ok] at h
  obtain ⟨body,-,encrypted,-,h⟩ := h
  split at h
  · exact .inl ⟨body,by simpa using h.symm⟩
  · simp only [Checked.bind_eq_ok] at h
    obtain ⟨sequenceNumber,-,h⟩ := h
    split at h
    · exact absurd h (by simp)
    next hlt =>
      simp only [Checked.bind_eq_ok,Except.ok.injEq] at h
      obtain ⟨_,-,_,-,decrypted,-,rfl⟩ := h
      exact .inr ⟨sequenceNumber,decrypted,Int64.not_le.1 hlt,rfl⟩

def session (nodeName : String) (s : Store) : Option (String × Int64) :=
  (s.loadRegisteredHost nodeName).map fun host => (host.sessionToken,host.sessionHostSequence)

namespace Permits

variable (hI : Permits I Allowed) {a : HostAssignment}
include hI

lemma authenticated (expected : Option String) :
    (authenticated support request expected).run.Settled I P (Yields Allowed) := by
  refine .andThen (settled_load fun s hs => ?_ : Settled I P (Yields fun o => ∀ host, o = some host → Allowed host) _)
    fun o => ?_
  · intro host hhost
    obtain ⟨_,nodeName,-,-,hload,-⟩ := loaded_of_authenticate hhost
    exact hI.loaded s hs nodeName host hload
  · cases o with
    | none => exact settled_respond _
    | some host => exact settled_pure fun h => h host rfl

lemma parseEncryptedBody (messageType : String) :
    (parseEncryptedBody support request host messageType).run.Settled I (Allowed host)
      (Yields fun p => Allowed p.1) := by
  refine (settled_checked_eq _).andThen fun opened => ?_
  match opened with
  | .inl body => exact settled_pure And.left
  | .inr (written,decrypted) =>
    have hallowed : Allowed host ∧ openBody support request host messageType = .ok (.inr (written,decrypted)) →
        Allowed written := by
      rintro ⟨hhost,hopen⟩
      obtain ⟨body,hbody⟩ | ⟨_,_,-,hwritten⟩ := openBody_eq_ok hopen
      · exact absurd hbody (by simp)
      · obtain ⟨rfl,-⟩ := Prod.mk.inj (Sum.inr.inj hwritten)
        exact hI.session host _ hhost rfl rfl
    refine (settled_exec fun h => hI.write written (hallowed h)).andThen fun _ => ?_
    exact .checked fun body => settled_pure hallowed

/-- The answer is tame for any row, as it starts from the one that it reloads. -/
lemma encryptedResponse (messageType : String) (payload : Json) :
    (encryptedResponse support host messageType payload).run.Settled I P (Yields fun _ => True) := by
  refine .andThen (settled_load fun s hs => ?_ : Settled I P
    (Yields fun latest => (responseHost host latest).2 = true → Allowed (responseHost host latest).1) _)
    fun latest => .andThen (Q := fun _ => True) ?_ fun _ => .checked fun _ => .checked fun _ => settled_pure fun _ =>
      trivial
  · cases hload : s.loadRegisteredHost host.nodeName with
    | none => exact fun _ => hI.missing s hs host hload
    | some row =>
      by_cases htoken : row.sessionToken = host.sessionToken
      · simpa [responseHost,htoken] using hI.loaded s hs _ row hload
      · simp [responseHost,htoken]
  · cases hwrite : (responseHost host latest).2 with
    | false => exact settled_pure fun _ => trivial
    | true =>
      exact .exec (fun h => hI.write _ (hI.session _ _ (h rfl) rfl rfl)) fun _ => .done fun _ => trivial

omit hI in
lemma onPost (h : body.run.Settled I P (Yields fun _ => True)) :
    (onPost support request body).Settled I P fun _ => True := by
  unfold HostdHttp.onPost
  split
  · exact .done fun _ => trivial
  · refine Settled.bind h fun r => ?_
    rcases r with (_ | _) | _ <;> exact .done fun _ => trivial

lemma handleSessionOpen : (handleSessionOpen support request).Settled I P fun _ => True := by
  refine onPost ?_
  refine .checked fun body => .checked fun nodeName => .respondIf fun _ => ?_
  refine .andThen (settled_load fun s hs => hI.loaded s hs nodeName : Settled I _
    (Yields fun o => ∀ host, o = some host → Allowed host) _) fun o => ?_
  cases o with
  | none => exact settled_respond _
  | some current =>
    refine .checked fun _ => .checked fun _ => .checked fun _ => .respondIf fun _ => .respondIf fun _ =>
      .checked fun _ => .respondIf fun _ => .checked fun _ => .checked fun _ => ?_
    refine (settled_exec fun h => hI.write _ ?_).andThen fun _ => settled_pure fun _ => trivial
    exact hI.session current _ (h current rfl) rfl rfl

lemma handleSessionHeartbeat : (handleSessionHeartbeat support request).Settled I P fun _ => True := by
  refine onPost ?_
  refine (hI.authenticated none).andThen fun host => (hI.parseEncryptedBody _).andThen fun p => ?_
  obtain ⟨current,decrypted⟩ := p
  refine .checked fun _ => .respondIf fun _ => .checked fun _ => .checked fun _ => ?_
  refine (settled_exec fun h => hI.write _ ?_).andThen fun _ => hI.encryptedResponse _ _
  exact hI.session current _ h rfl rfl

lemma updateDownloadJob (a : HostAssignment)
    (f : ModelLibraryDownloadJobRecord → Checked ModelLibraryDownloadJobRecord) :
    (updateDownloadJob support a f).run.Settled I True (Yields fun _ => True) := by
  refine .checked fun jobId => ?_
  split
  · exact settled_pure id
  · refine (settled_load (Q := fun _ => True) fun _ _ => trivial).andThen fun job => ?_
    cases job with
    | none => exact settled_pure id
    | some job => exact .checked fun _ => settled_exec fun _ s hs => hI.unread s _ hs rfl rfl

lemma reportProgress (ha : KeepsReports I a.id) (body : Json) :
    (reportProgress support a body).run.Settled I True (Yields fun _ => True) := by
  exact .checked fun progressJson => (settled_execFor fun _ => ha.progress _ _).andThen fun _ =>
    (settled_onlyIf (hI.updateDownloadJob a _)).andThen fun _ => settled_pure id

lemma reportApplied (ha : KeepsReports I a.id) (statusMessage : String) :
    (reportApplied support a statusMessage).run.Settled I True (Yields fun _ => True) := by
  have hadvance : (advanceAppliedGeneration a).run.Settled I True (Yields fun _ => True) := by
    exact (settled_load (Q := fun _ => True) fun _ _ => trivial).andThen fun _ =>
      settled_onlyIf (settled_exec fun _ s hs => hI.unread s _ hs rfl rfl)
  exact (settled_execFor fun _ => ha.transition _ _ _).andThen fun _ =>
    (settled_onlyIf (hI.updateDownloadJob a _)).andThen fun _ => (settled_onlyIf hadvance).andThen fun _ =>
      settled_pure id

lemma reportFailed (ha : KeepsReports I a.id) (statusMessage : String) (retry : Bool) :
    (reportFailed support a statusMessage retry).run.Settled I True (Yields fun _ => True) := by
  exact (settled_execFor fun _ => ha.transition _ _ _).andThen fun _ =>
    (settled_onlyIf (hI.updateDownloadJob a _)).andThen fun _ => settled_pure id

lemma performAction (ha : KeepsReports I a.id) (id : Int32) (action : String) :
    (performAction support request id action a host).run.Settled I (Allowed host) (Yields fun _ => True) := by
  refine (hI.parseEncryptedBody _).andThen fun p => ?_
  obtain ⟨host,body⟩ := p
  refine .checked fun statusMessage => ?_
  split
  · exact (hI.reportProgress ha body).imp.andThen fun _ => hI.encryptedResponse _ _
  · split
    · exact (hI.reportApplied ha statusMessage).imp.andThen fun _ => hI.encryptedResponse _ _
    · split
      · exact .checked fun retry => (hI.reportFailed ha statusMessage retry).imp.andThen fun _ =>
          hI.encryptedResponse _ _
      · exact settled_pure fun _ => trivial

lemma handleAssignmentAction (hreports : ∀ id, KeepsReports I id) :
    (handleAssignmentAction support request).Settled I P fun _ => True := by
  unfold HostdHttp.handleAssignmentAction
  dsimp only
  split
  · exact .done fun _ => trivial
  · split
    · exact .done fun _ => trivial
    · refine Settled.bind (onPost ?_) fun _ => .done fun _ => trivial
      refine (settled_load (Q := fun _ => True) fun _ _ => trivial).andThen fun a => ?_
      cases a with
      | none => exact settled_respond _
      | some a => exact (hI.authenticated _).andThen fun _ => hI.performAction (hreports a.id) _ _

lemma prepareNext :
    (prepareNext support request).run.Settled I P (Yields fun _ => True) := by
  refine (hI.authenticated none).andThen fun host => (hI.parseEncryptedBody _).andThen fun p => ?_
  exact .checked fun next => .respondIf fun _ => .respondIf fun _ => settled_pure fun _ => trivial

lemma deliverNext (nodeName : String) (next : NextRequest) (claimed : Option HostAssignment) :
    (deliverNext support host nodeName next claimed).run.Settled I P (Yields fun _ => True) := by
  exact .checked fun _ => hI.encryptedResponse _ _

omit hI in
lemma claimLoop (hclaim : ∀ f s, I s → I (s.onAssignments f)) (nodeName : String) (now : ℤ) (later : List ℤ) :
    (claimLoop nodeName now later).Settled I True fun _ => True := by
  have hround : ∀ now otherwise, otherwise.Settled I True (fun _ => True) →
      (claimOr nodeName now otherwise).Settled I True fun _ => True := by
    intro now otherwise h
    refine .exec (fun _ => hclaim _) fun s => ?_
    split
    · exact .done id
    · exact h
  induction later generalizing now with
  | nil => exact hround now _ (.done id)
  | cons next later ih => exact hround now _ (ih next)

lemma handleNextAssignment (hclaim : ∀ f s, I s → I (s.onAssignments f)) :
    (handleNextAssignment support request).Settled I P fun _ => True := by
  unfold HostdHttp.handleNextAssignment
  split
  · exact .done fun _ => trivial
  · refine Settled.bind hI.prepareNext fun r => ?_
    match r with
    | .error (.respond response) => exact .done fun _ => trivial
    | .error (.raise error) => exact .done fun _ => trivial
    | .ok (host,nodeName,next) =>
      refine Settled.bind (claimLoop hclaim _ _ _).imp fun claimed => Settled.bind (hI.deliverNext _ _ _) fun r => ?_
      match r with
      | .ok response => exact .done fun _ => trivial
      | .error (.respond response) => exact .done fun _ => trivial
      | .error (.raise error) =>
        cases claimed with
        | none => exact .done fun _ => trivial
        | some a => exact .exec (fun _ => hclaim _) fun _ => .done fun _ => trivial

lemma handleObservations {readPayload : Json → Checked String} {record : Json → Handler Unit}
    {inventory : RegisteredHostRecord → Json → Checked Inventory}
    (hrecord : ∀ body, (record body).run.Settled I True (Yields fun _ => True)) :
    (handleObservations support request readPayload record inventory).Settled I P fun _ => True := by
  refine onPost ?_
  refine (hI.authenticated none).andThen fun host => (hI.parseEncryptedBody _).andThen fun p => ?_
  obtain ⟨host,body⟩ := p
  refine .checked fun nodeName => .respondIf fun _ => .respondIf fun _ => (hrecord body).imp.andThen fun _ =>
    .andThen (Q := fun _ => True) ?_ fun _ =>
    hI.encryptedResponse _ _
  refine .andThen (settled_load fun s hs => hI.loaded s hs nodeName : Settled I _
    (Yields fun o => ∀ host, o = some host → Allowed host) _) fun o => ?_
  cases o with
  | none => exact settled_pure fun _ => trivial
  | some current =>
    refine .checked fun found => .exec (fun h => hI.write _ ?_) fun _ => .done fun _ => trivial
    exact hI.session current _ (h current rfl) rfl rfl

lemma handleEncrypted {serve : RegisteredHostRecord → Json → Handler Json}
    (hserve : ∀ host body, (serve host body).run.Settled I True (Yields fun _ => True)) :
    (handleEncrypted support request messageType serve).Settled I P fun _ => True := by
  refine onPost ?_
  refine (hI.authenticated none).andThen fun host => (hI.parseEncryptedBody _).andThen fun p => ?_
  obtain ⟨host,body⟩ := p
  exact (hserve host body).imp.andThen fun _ => hI.encryptedResponse _ _

end Permits
end HostdHttp
end Naim
