import Naim.HostRevocation

/-!
# The message that opens a session

A host opens a session with a message that it signs: its name, a time and a nonce.
`HandleSessionOpen` verifies the signature and keeps neither the time nor the nonce.
-/

namespace Naim.SessionOpening

open HostdHttp Program Runs List

structure OpenMessage where
  (nodeName timestamp nonce signature : String)
  deriving DecidableEq

def OpenMessage.signedText (m : OpenMessage) : String :=
  "hostd-session-open\n" ++ m.nodeName ++ "\n" ++ m.timestamp ++ "\n" ++ m.nonce

def carried (support : HostdHttpSupport) (request : HttpRequest) : Option OpenMessage := do
  guard (request.method = "POST")
  let body ← (parseJsonBody support request).toOption
  let nodeName ← (body.value "node_name" "").toOption
  let timestamp ← (body.value "timestamp" "").toOption
  let nonce ← (body.value "nonce" "").toOption
  let signature ← (body.value "signature" "").toOption
  some ⟨nodeName,timestamp,nonce,signature⟩

def complete (support : HostdHttpSupport) (request : HttpRequest) : Bool :=
  (do
    let body ← parseJsonBody support request
    let _ ← support.randomTokenBase64
    body.value "status_message" "session opened").isOk

def verifies (verify : String → String → String → Checked Bool) (m : OpenMessage) (host : RegisteredHostRecord) :
    Bool :=
  m.nodeName ≠ "" && m.timestamp ≠ "" && m.nonce ≠ "" && m.signature ≠ "" && host.publicKeyBase64 ≠ "" &&
    verify m.signedText m.signature host.publicKeyBase64 = .ok true

/-- Requests of hosts and observers; the clock is part of what the process supplies. -/
inductive Event
  | sessionOpen (support : HostdHttpSupport) (request : HttpRequest)
  | sessionHeartbeat (support : HostdHttpSupport) (request : HttpRequest)

structure Controller where
  store : Store
  opened : List OpenMessage := []

def verifying (verify : String → String → String → Checked Bool) (support : HostdHttpSupport) : HostdHttpSupport :=
  {support with verifyDetachedBase64 := verify}

section Step

variable (verify : String → String → String → Checked Bool)

def openSession (support : HostdHttpSupport) (request : HttpRequest) (s : Store) : Store × HttpResponse :=
  (handleSessionOpen (verifying verify support) request).run s

def step (c : Controller) : Event → Controller
  | .sessionOpen support request =>
    let result := openSession verify support request c.store
    ⟨result.1,c.opened ++ if result.2.statusCode = 200 then (carried support request).toList else []⟩
  | .sessionHeartbeat support request =>
    {c with store := ((handleSessionHeartbeat (verifying verify support) request).run c.store).1}

def validMessage (s : Store) : Event → Option OpenMessage
  | .sessionOpen support request => (carried support request).filter fun m =>
      complete support request && (s.loadRegisteredHost m.nodeName).any (verifies verify m)
  | .sessionHeartbeat .. => none

end Step

variable {α : Type} {P : Prop} {s : Store} {support : HostdHttpSupport} {request : HttpRequest}

/-- The handler answers with success under `P`, and otherwise leaves the store as it is. -/
structure Decides (P : Prop) (s : Store) (x : Handler HttpResponse) : Prop where
  opens : P → ∃ s' response, x.run.run s = (s',.ok response) ∧ response.statusCode = 200
  refuses : ¬ P → ∃ stop, x.run.run s = (s,.error stop) ∧ ∀ response, stop = .respond response →
    response.statusCode ≠ 200

variable {c : Controller} {s₀ : Store} {response : HttpResponse} {body : Handler HttpResponse} {m : OpenMessage}

lemma decides_respond (hP : ¬ P) (h : response.statusCode ≠ 200) : Decides P s (respond response) :=
  ⟨fun h => absurd h hP,fun _ => ⟨_,rfl,fun _ heq => Stop.respond.inj heq ▸ h⟩⟩

lemma Decides.checked {f : α → Handler HttpResponse} (herror : ∀ e, x = .error e → ¬ P)
    (hok : ∀ a, x = .ok a → Decides P s (f a)) : Decides P s (checked x >>= f) := by
  cases hx : x with
  | ok a => exact hok a hx
  | error e => exact ⟨fun h => absurd h (herror e hx),fun _ => ⟨_,rfl,fun _ heq => absurd heq (by simp)⟩⟩

lemma Decides.respondIf {c : Bool} {f : Unit → Handler HttpResponse} (hstatus : response.statusCode ≠ 200)
    (hstop : c = true → ¬ P) (hf : c = false → Decides P s (f ())) : Decides P s (respondIf c response >>= f) := by
  cases c with
  | false => exact hf rfl
  | true => exact decides_respond (hstop rfl) hstatus

lemma Decides.load {f : Store → α} {g : α → Handler HttpResponse} (h : Decides P s (g (f s))) :
    Decides P s (load f >>= g) := ⟨h.opens,h.refuses⟩

lemma run_onPost (hmethod : request.method ≠ "POST" → ¬ P) (h : request.method = "POST" → Decides P s body) :
    (P → ((onPost support request body).run s).2.statusCode = 200) ∧
      (¬ P → ((onPost support request body).run s).1 = s ∧
        ((onPost support request body).run s).2.statusCode ≠ 200) := by
  unfold onPost
  split
  · exact ⟨fun hP => absurd hP (hmethod ‹_›),fun _ => ⟨rfl,by simp [methodNotAllowed,statusResponse]⟩⟩
  next hpost =>
    have hbody := h (not_not.1 hpost)
    have hrun : (answering support request body).run s = _ := run_bind body.run _ s
    refine ⟨fun hP => ?_,fun hP => ?_⟩
    · obtain ⟨s',response,hresult,hstatus⟩ := hbody.opens hP
      rw [hrun,hresult]
      exact hstatus
    · obtain ⟨stop,hresult,hstatus⟩ := hbody.refuses hP
      rw [hrun,hresult]
      cases stop with
      | respond response => exact ⟨rfl,hstatus response rfl⟩
      | raise error => exact ⟨rfl,by simp [internalError]⟩

variable {verify : String → String → String → Checked Bool}

def InOrder (verify : String → String → String → Checked Bool) (support : HostdHttpSupport) (request : HttpRequest)
    (s : Store) : Prop :=
  ∃ m host, carried support request = some m ∧ complete support request = true ∧
    s.loadRegisteredHost m.nodeName = some host ∧ verifies verify m host = true

lemma verifies_iff : verifies verify m host = true ↔
    decide (m.nodeName = "") = false ∧
      (decide (m.timestamp = "") || decide (m.nonce = "") || decide (m.signature = "")) = false ∧
      decide (host.publicKeyBase64 = "") = false ∧ verify m.signedText m.signature host.publicKeyBase64 = .ok true := by
  simp [verifies,and_assoc]

lemma inOrder_iff {body : Json} (hpost : request.method = "POST") (hbody : parseJsonBody support request = .ok body) :
    InOrder verify support request s ↔ ∃ nodeName timestamp nonce signature host token statusMessage,
      body.value "node_name" "" = .ok nodeName ∧ body.value "timestamp" "" = .ok timestamp ∧
      body.value "nonce" "" = .ok nonce ∧ body.value "signature" "" = .ok signature ∧
      s.loadRegisteredHost nodeName = some host ∧ verifies verify ⟨nodeName,timestamp,nonce,signature⟩ host = true ∧
      support.randomTokenBase64 = .ok token ∧ body.value "status_message" "session opened" = .ok statusMessage := by
  have hcomplete : complete support request = true ↔ ∃ token statusMessage, support.randomTokenBase64 = .ok token ∧
      body.value "status_message" "session opened" = .ok statusMessage := by
    rw [complete,hbody]
    cases support.randomTokenBase64 with
    | error e => simp [bind,Except.bind,Except.isOk,Except.toBool]
    | ok token =>
      cases hstatus : body.value "status_message" "session opened" <;>
        simp [bind,Except.bind,Except.isOk,Except.toBool,hstatus]
  have hcarried : ∀ m, carried support request = some m ↔ body.value "node_name" "" = .ok m.nodeName ∧
      body.value "timestamp" "" = .ok m.timestamp ∧ body.value "nonce" "" = .ok m.nonce ∧
      body.value "signature" "" = .ok m.signature := by
    intro m
    have hparsed : (parseJsonBody support request).toOption = some body := by rw [hbody]; rfl
    simp only [carried,hpost,hparsed,guard,if_true,Option.pure_def,Option.bind_eq_bind,Option.bind_some,
      Option.bind_eq_some_iff,Checked.toOption_eq_some,Option.some.injEq]
    constructor
    · rintro ⟨_,hn,_,ht,_,ho,_,hs,rfl⟩
      exact ⟨hn,ht,ho,hs⟩
    · rintro ⟨hn,ht,ho,hs⟩
      exact ⟨_,hn,_,ht,_,ho,_,hs,rfl⟩
  unfold InOrder
  simp only [hcarried,hcomplete]
  constructor
  · rintro ⟨m,host,⟨hn,ht,ho,hs⟩,⟨token,statusMessage,htoken,hstatus⟩,hload,hverifies⟩
    exact ⟨_,_,_,_,host,token,statusMessage,hn,ht,ho,hs,hload,hverifies,htoken,hstatus⟩
  · rintro ⟨_,_,_,_,host,token,statusMessage,hn,ht,ho,hs,hload,hverifies,htoken,hstatus⟩
    exact ⟨⟨_,_,_,_⟩,host,⟨hn,ht,ho,hs⟩,⟨token,statusMessage,htoken,hstatus⟩,hload,hverifies⟩

lemma openSession_decides :
    (InOrder verify support request s → (openSession verify support request s).2.statusCode = 200) ∧
    (¬ InOrder verify support request s → (openSession verify support request s).1 = s ∧
      (openSession verify support request s).2.statusCode ≠ 200) := by
  refine run_onPost (fun hmethod ⟨m,host,hm,_⟩ => ?_) fun hpost => ?_
  · simp [carried,hmethod] at hm
  refine .checked (fun e he ⟨m,host,hm,_⟩ => ?_) fun body hbody => ?_
  · have he : parseJsonBody support request = .error e := he
    simp [carried,he,Except.toOption] at hm
  have hbody : parseJsonBody support request = .ok body := hbody
  rw [inOrder_iff hpost hbody]
  refine .checked (fun e he => by simp [he]) fun nodeName hnode => .respondIf (by simp [messageResponse])
    (fun hempty => ?_) fun hname => .load ?_
  · simp [hnode,verifies,of_decide_eq_true hempty]
  cases hload : s.loadRegisteredHost nodeName with
  | none => exact decides_respond (by simp [hnode,hload]) (by simp [messageResponse])
  | some current =>
    refine .checked (fun e he => by simp [he]) fun timestamp htime => .checked
      (fun e he => by simp [he]) fun nonce hnonce => .checked (fun e he => by simp [he]) fun signature hsign => ?_
    simp only [hnode,htime,hnonce,hsign,hload,Except.ok.injEq,Option.some.injEq,exists_and_left,exists_eq_left']
    rw [verifies_iff]
    refine .respondIf (by simp [messageResponse]) (fun hempty h => ?_) fun hparts =>
      .respondIf (by simp [messageResponse]) (fun hempty h => ?_) fun hkey => .checked (fun e he h =>
      ?_) fun verified hverified => .respondIf (by simp [messageResponse]) (fun hbad h => ?_) fun hgood =>
      .checked (fun e he h => ?_) fun token htoken => .checked (fun e he h => ?_)
      fun statusMessage hstatus => ⟨fun _ => ⟨_,_,rfl,rfl⟩,
      absurd ⟨⟨hname,hparts,hkey,?_⟩,token,htoken,statusMessage,hstatus⟩⟩
    · exact absurd (hempty.symm.trans h.1.2.1) (by simp)
    · exact absurd (hempty.symm.trans h.1.2.2.1) (by simp)
    · exact absurd (he.symm.trans h.1.2.2.2) (by simp)
    · obtain rfl := Checked.ok_unique hverified h.1.2.2.2
      exact absurd hbad (by simp)
    · obtain ⟨-,token,htoken,-⟩ := h
      exact absurd (he.symm.trans htoken) (by simp)
    · obtain ⟨-,-,-,statusMessage,hstatus⟩ := h
      exact absurd (he.symm.trans hstatus) (by simp)
    · obtain rfl : verified = true := by simpa using hgood
      exact hverified

def keyOf (nodeName : String) (s : Store) : Option String := (s.loadRegisteredHost nodeName).map (·.publicKeyBase64)

def SameKeys (s₀ s : Store) : Prop := ∀ nodeName, keyOf nodeName s = keyOf nodeName s₀

section Keys

variable {s₀ : Store} {host : RegisteredHostRecord}

def Keyed (s₀ : Store) (host : RegisteredHostRecord) : Prop := keyOf host.nodeName s₀ = some host.publicKeyBase64

lemma keyed_of_load (hs : SameKeys s₀ s) (h : s.loadRegisteredHost nodeName = some host) : Keyed s₀ host := by
  obtain rfl := loadRegisteredHost_nodeName h
  rw [Keyed,← hs,keyOf,h,Option.map_some]

lemma sameKeys_upsert (hs : SameKeys s₀ s) (hhost : Keyed s₀ host) : SameKeys s₀ (s.upsertRegisteredHost host) := by
  intro nodeName
  rw [keyOf,loadRegisteredHost_upsert]
  split
  next hname =>
    rw [← hname]
    exact hhost.symm
  · exact hs nodeName

variable {Q : α → Prop}

lemma tame_upsert (hhost : Keyed s₀ host) :
    (HostdHttp.exec (Store.upsertRegisteredHost host)).run.Tame (SameKeys s₀) (Yields fun _ => True) :=
  fun _ hs => ⟨sameKeys_upsert hs hhost,trivial⟩

lemma tame_onPost (h : body.run.Tame (SameKeys s₀) (Yields fun _ => True)) :
    (onPost support request body).Tame (SameKeys s₀) fun _ => True := by
  unfold onPost
  split
  · trivial
  · refine h.bind fun r _ => ?_
    rcases r with (_ | _) | _ <;> trivial

lemma tame_sessionOpen : (handleSessionOpen support request).Tame (SameKeys s₀) fun _ => True := by
  refine tame_onPost ?_
  refine .checked fun body _ => .checked fun nodeName _ => .respondIf fun _ => Tame.andThen (Q := fun row =>
    ∀ host, row = some host → Keyed s₀ host)
    (fun s hs host hload => keyed_of_load hs hload) fun row hrow => ?_
  cases row with
  | none => trivial
  | some current =>
    have hcurrent := hrow current rfl
    refine .checked fun _ _ => .checked fun _ _ => .checked fun _ _ => .respondIf fun _ => .respondIf fun _ =>
      .checked fun _ _ => .respondIf fun _ => .checked fun _ _ => .checked fun _ _ =>
      (tame_upsert ?_).andThen fun _ _ => trivial
    exact hcurrent

lemma tame_encryptedResponse (hhost : Keyed s₀ host) (messageType : String) (payload : Json) :
    (encryptedResponse support host messageType payload).run.Tame (SameKeys s₀) (Yields fun _ => True) := by
  refine Tame.andThen (Q := fun latest => Keyed s₀ (responseHost host latest).1) (fun s hs => ?_) fun latest hlatest =>
    Tame.andThen (Q := fun _ => True) ?_ fun _ _ => .checked fun _ _ => .checked fun _ _ => trivial
  · change Keyed s₀ (responseHost host (s.loadRegisteredHost host.nodeName)).1
    cases hload : s.loadRegisteredHost host.nodeName with
    | none => exact hhost
    | some row =>
      by_cases htoken : row.sessionToken = host.sessionToken
      · simpa [responseHost,htoken] using keyed_of_load hs hload
      · simpa [responseHost,htoken] using hhost
  · cases (responseHost host latest).2 with
    | false => trivial
    | true => exact tame_upsert hlatest

lemma tame_sessionHeartbeat : (handleSessionHeartbeat support request).Tame (SameKeys s₀) fun _ => True := by
  refine tame_onPost ?_
  refine Tame.andThen (Q := Keyed s₀) ?_ fun host hhost => Tame.andThen (Q := fun p => Keyed s₀ p.1) ?_ fun p hp => ?_
  · refine Tame.andThen (Q := fun o => ∀ host, o = some host → Keyed s₀ host) (fun s hs host hauth => ?_) fun o ho => ?_
    · obtain ⟨_,_,-,-,hload,-⟩ := loaded_of_authenticate hauth
      exact keyed_of_load hs hload
    · cases o with
      | none => trivial
      | some host => exact ho host rfl
  · refine .checked fun opened hopened => ?_
    obtain ⟨body,rfl⟩ | ⟨_,_,-,rfl⟩ := openBody_eq_ok hopened
    · exact hhost
    · refine Tame.andThen (tame_upsert ?_) fun _ _ => .checked fun _ _ => ?_ <;> exact hhost
  · obtain ⟨current,decrypted⟩ := p
    refine .checked fun _ _ => .respondIf fun _ => .checked fun _ _ => .checked fun _ _ =>
      Tame.andThen (tame_upsert ?_) fun _ _ => tame_encryptedResponse ?_ _ _ <;> exact hp

lemma sameKeys_step (h : SameKeys s₀ c.store) (event : Event) : SameKeys s₀ (step verify c event).store := by
  cases event with
  | sessionOpen support request => exact (tame_sessionOpen.run h).1
  | sessionHeartbeat support request => exact (tame_sessionHeartbeat.run h).1

end Keys

lemma any_verifies (hs : SameKeys s₀ s) (m : OpenMessage) :
    (s₀.loadRegisteredHost m.nodeName).any (verifies verify m) =
      (s.loadRegisteredHost m.nodeName).any (verifies verify m) := by
  have hkey : ∀ s : Store, (s.loadRegisteredHost m.nodeName).any (verifies verify m) =
      (keyOf m.nodeName s).any fun key => verifies verify m {publicKeyBase64 := key} := by
    intro s
    rw [keyOf]
    cases s.loadRegisteredHost m.nodeName <;> rfl
  rw [hkey,hkey,hs]

lemma validMessage_eq_some (hs : SameKeys s₀ s) :
    validMessage verify s₀ (.sessionOpen support request) = some m ↔
      carried support request = some m ∧ InOrder verify support request s := by
  rw [validMessage,Option.filter_eq_some_iff,any_verifies hs,Bool.and_eq_true,Option.any_eq_true]
  refine and_congr_right fun hm => ⟨fun ⟨hcomplete,host,hload,hverifies⟩ => ⟨m,host,hm,hcomplete,hload,hverifies⟩,?_⟩
  rintro ⟨m',host,hm',hcomplete,hload,hverifies⟩
  obtain rfl := Option.some.inj (hm.symm.trans hm')
  exact ⟨hcomplete,host,hload,hverifies⟩

lemma opened_step (h : SameKeys s₀ c.store) (event : Event) :
    (step verify c event).opened = c.opened ++ (validMessage verify s₀ event).toList := by
  cases event with
  | sessionHeartbeat support request => exact (append_nil _).symm
  | sessionOpen support request =>
    refine congrArg (c.opened ++ ·) ?_
    by_cases horder : InOrder verify support request c.store
    · obtain ⟨m,host,hm,-⟩ := id horder
      rw [if_pos (openSession_decides.1 horder),hm,(validMessage_eq_some h).2 ⟨hm,horder⟩]
    · have hnone : validMessage verify s₀ (.sessionOpen support request) = none :=
        Option.eq_none_iff_forall_not_mem.2 fun m hm => horder ((validMessage_eq_some h).1 hm).2
      rw [if_neg (openSession_decides.2 horder).2,hnone]
      rfl

lemma opened_run (h : SameKeys s₀ c.store) (events : List Event) :
    (run (step verify) c events).opened = c.opened ++ events.filterMap (validMessage verify s₀) := by
  induction events generalizing c with
  | nil => simp
  | cons event events ih =>
    rw [run_cons,ih (sameKeys_step h event),opened_step h event,append_assoc]
    cases hvalid : validMessage verify s₀ event <;> simp [hvalid]

lemma sameKeys_run (h : SameKeys s₀ c.store) (events : List Event) :
    SameKeys s₀ (run (step verify) c events).store := by
  induction events generalizing c with
  | nil => exact h
  | cons event events ih => exact ih (sameKeys_step h event)

/-- A message opens one session at most, and whoever repeats it is refused and leaves
the database as it is, exactly when no message in order is sent twice. -/
theorem message_opens_once_iff (verify : String → String → String → Checked Bool) (s : Store) (events : List Event) :
    ((∀ m, (run (step verify) {store := s} events).opened.count m ≤ 1) ∧
      ∀ before support request after m, events = before ++ .sessionOpen support request::after →
        carried support request = some m →
        let c := run (step verify) {store := s} before
        m ∈ c.opened → (openSession verify support request c.store).2.statusCode ≠ 200 ∧
          (openSession verify support request c.store).1 = c.store) ↔
      (events.filterMap (validMessage verify s)).Nodup := by
  have hstart : SameKeys s (Controller.mk s []).store := fun _ => rfl
  have hopened : ∀ events, (run (step verify) {store := s} events).opened = events.filterMap (validMessage verify s) :=
    fun events => by simpa using opened_run hstart events
  rw [hopened,nodup_iff_count_le_one]
  refine ⟨fun h => h.1,fun h => ⟨h,?_⟩⟩
  rintro before support request after m rfl hcarried c hm
  have hkeys : SameKeys s c.store := sameKeys_run hstart before
  have hrefused : ¬ InOrder verify support request c.store := by
    intro horder
    have hvalid := (validMessage_eq_some hkeys).2 ⟨hcarried,horder⟩
    have htwice := h m
    rw [filterMap_append,filterMap_cons_some hvalid,count_append,count_cons_self,← hopened] at htwice
    have hpos : 0 < (run (step verify) {store := s} before).opened.count m := count_pos_iff.2 hm
    omega
  exact ⟨(openSession_decides.2 hrefused).2,(openSession_decides.2 hrefused).1⟩

def openBody : Json :=
  .obj [("node_name",.str "node-a"),("nonce",.str "nonce"),("signature",.str "signature"),
    ("timestamp",.str "1767225700")]

def openRequest : HttpRequest where
  path := "/api/v1/hostd/session/open"
  body := "open"

def opening (token : String) : Event :=
  .sessionOpen {plainSupport openBody with randomTokenBase64 := .ok token} openRequest

/-- An observer repeats the message of the host: the observer holds the token of a new
session, and the session of the host has ended. -/
theorem message_opens_twice :
    let s : Store := {hosts := [{nodeName := "node-a", publicKeyBase64 := "key"}]}
    let verify := fun text signature key => .ok (text == "hostd-session-open\nnode-a\n1767225700\nnonce" &&
      signature == "signature" && key == "key")
    session "node-a" (run (step verify) {store := s} [opening "host"]).store = some ("host",0) ∧
      (run (step verify) {store := s} [opening "host",opening "observer"]).opened.count
        ⟨"node-a","1767225700","nonce","signature"⟩ = 2 ∧
      session "node-a" (run (step verify) {store := s} [opening "host",opening "observer"]).store =
        some ("observer",0) := by
  decide +kernel

end Naim.SessionOpening
