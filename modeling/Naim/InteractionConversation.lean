import Naim.Json
import Naim.Runs

/-!
# Conversation sessions

A request that continues a session carries the new messages, alone or after the stored
ones. A completed turn appends them with the answer and summarises all but the last
messages. A session that is not used is archived, and the next request reads it back.
-/

namespace Naim.InteractionConversation

open Json List Runs Checked

instance : Codec ℤ where
  toJson := int
  get
    | int z => .ok z
    | float q => .ok (truncate q)
    | .bool b => .ok (if b then 1 else 0)
    | _ => typeError
  get_toJson _ := rfl

/-- A column that holds the text of a document is the document. -/
structure InteractionMessageRecord where
  seq : ℤ
  role : String
  kind : String
  content : Json
  usage : Json := obj []
  createdAt : String

structure InteractionSummaryRecord where
  turnRangeStart : ℤ := 0
  turnRangeEnd : ℤ := 0
  summary : Json := obj []
  createdAt : String

/-- The rows of one session; `archive` is the payload in its archive file. -/
structure Session where
  archived : Bool := false
  messages : List InteractionMessageRecord := []
  summaries : List InteractionSummaryRecord := []
  archive : Option Json := none

structure InteractionValidationError where
  code : String
  message : String

structure InteractionRequestContext where
  deltaMessages : Json
  promptMessages : Json

/-- The texts of documents, exceptions and summaries. -/
structure Texts where
  jsonString : Json → String
  what : Error → String
  buildSummaryJson : List Json → Json → ℤ → ℤ → Checked Json
  buildSummarySystemInstruction : List InteractionSummaryRecord → String

variable (x : Texts) (now : String) (s : Session)

def messageRecords (createdAt : String) : ℤ → List Json → Checked (List InteractionMessageRecord)
  | _, [] => .ok []
  | seq, message::messages => do
    let role ← message.value "role" ""
    let records ← messageRecords createdAt (seq + 1) messages
    return {seq, role, kind := role, content := message, createdAt}::records

def summaryToJson (r : InteractionSummaryRecord) : Json :=
  ofFields [
    field "turn_range_start" (some r.turnRangeStart),field "turn_range_end" (some r.turnRangeEnd),
    field "summary" (some (if r.summary.isObject then r.summary else obj [])),
    field "created_at" (some r.createdAt)]

def archivePayload : Json :=
  ofFields [
    field "messages" (some (s.messages.map (·.content))),
    field "summaries" (some (s.summaries.map summaryToJson))]

def archiveSession : Session where
  archived := true
  archive := some (archivePayload s)

def restoredSummaryRecord (j : Json) : Checked InteractionSummaryRecord := do
  let turnRangeStart ← j.value "turn_range_start" 0
  let turnRangeEnd ← j.value "turn_range_end" 0
  let summary ← j.value "summary" (obj [])
  let createdAt ← j.value "created_at" now
  return {turnRangeStart, turnRangeEnd, summary, createdAt}

def restoreFailed (message : String) : Option InteractionValidationError := some ⟨"session_restore_failed",message⟩

/-- The session is active again before its messages are read. -/
def restoreArchivedSession : Session × Option InteractionValidationError :=
  match s.archive with
  | none => (s,some ⟨"session_not_found","conversation session was not found"⟩)
  | some payload =>
    match payload.value "messages" (arr []), payload.value "summaries" (arr []) with
    | .ok (arr messages), .ok (arr summaries) =>
      match messageRecords now 0 messages, summaries.mapM (restoredSummaryRecord now) with
      | .ok messages, .ok summaries => ({s with archived := false, messages, summaries},none)
      | .ok messages, .error e => ({s with archived := false, messages},restoreFailed (x.what e))
      | .error e, _ => ({s with archived := false},restoreFailed (x.what e))
    | _, _ => (s,restoreFailed "conversation archive payload is malformed")

def commonPrefixLength : List Json → List Json → ℕ
  | m::ms, n::ns => if x.jsonString m = x.jsonString n then commonPrefixLength ms ns + 1 else 0
  | _, _ => 0

def newMessages (stored : List Json) (client : Json) : Json :=
  let common := commonPrefixLength x stored client.items
  if 0 < common && client.isArray then arr (client.items.drop common) else client

def recentMessageTailCount : ℕ := 8

def tailMessagesWithDelta (stored : List Json) (delta : Json) : List Json :=
  stored.drop (stored.length - min stored.length recentMessageTailCount) ++ delta.items

def summaryMessages (summaries : List InteractionSummaryRecord) : List Json :=
  let instruction := x.buildSummarySystemInstruction summaries
  if instruction = "" then [] else [ofFields [field "role" (some "system"), field "content" (some instruction)]]

def loadSession : Session × Option InteractionValidationError :=
  if s.archived then restoreArchivedSession x now s else (s,none)

def continueSession (clientMessages : Json) : Except InteractionValidationError InteractionRequestContext :=
  let stored := s.messages.map (·.content)
  let delta := newMessages x stored clientMessages
  if !delta.isArray || delta.items = [] then
    .error ⟨"session_delta_invalid","continuation request must include at least one new message"⟩
  else .ok ⟨delta,arr (summaryMessages x s.summaries ++ tailMessagesWithDelta stored delta)⟩

def prepareRequest (clientMessages : Json) : Session × Except InteractionValidationError InteractionRequestContext :=
  let (loaded,error) := loadSession x now s
  (loaded,error.elim (continueSession x loaded clientMessages) .error)

def assistantMessage (text : String) : Json :=
  ofFields [field "role" (some "assistant"), field "content" (some text)]

def appendNewMessageRecords (existing : List InteractionMessageRecord) (delta : Json) (assistantText : String)
    (usage : Json) (createdAt : String) : Checked (List InteractionMessageRecord) := do
  let nextSeq := (existing.getLast?.map (·.seq + 1)).getD 0
  let new ← messageRecords createdAt nextSeq delta.items
  return existing ++ new ++ [{
    seq := nextSeq + new.length, role := "assistant", kind := "assistant"
    content := assistantMessage assistantText, usage, createdAt}]

def estimateTokensForJson (value : Json) : ℤ := max 1 (((x.jsonString value).utf8ByteSize + 3) / 4 : ℕ)

def buildSummaryRecords (all : List Json) (contextState : Json) (createdAt : String) (maxModelLen : ℤ)
    (prompt : Json) : Checked (List InteractionSummaryRecord) := do
  let softLimit := max 1 (maxModelLen * 60 / 100)
  if all.length ≤ recentMessageTailCount ∧ estimateTokensForJson x prompt ≤ softLimit then return []
  let summaryEnd : ℤ := all.length - recentMessageTailCount - 1
  if summaryEnd < 0 then return []
  let summary ← x.buildSummaryJson (all.take (summaryEnd.toNat + 1)) contextState 0 summaryEnd
  return [{turnRangeEnd := summaryEnd, summary, createdAt}]

/-- `PersistResponse` when nobody else writes the session. -/
def persistResponse (assistantText : String) (delta usage contextState prompt : Json) (maxModelLen : ℤ) :
    Checked Session := do
  let messages ← appendNewMessageRecords s.messages delta assistantText usage now
  let summaries ← buildSummaryRecords x (messages.map (·.content)) contextState now (max 1 maxModelLen) prompt
  return {s with archived := false, messages, summaries}

inductive Call
  | sweep
  | prepare (now : String) (clientMessages : Json)
  | persist (now assistantText : String) (delta usage contextState prompt : Json) (maxModelLen : ℤ)

/-- A response that is not stored leaves the session as it is. -/
def step : Call → Session
  | .sweep => if s.archived then s else archiveSession s
  | .prepare now client => (prepareRequest x now s client).1
  | .persist now text delta usage state prompt len =>
    (persistResponse x now s text delta usage state prompt len).toOption.getD s

def Recognises (client new : List Json) : Prop :=
  ∃ context, (prepareRequest x now s (arr client)).2 = .ok context ∧ context.deltaMessages = arr new

variable {x now s} {s' : Session} {new client : List Json}

lemma commonPrefixLength_append (stored new : List Json) :
    commonPrefixLength x stored (stored ++ new) = stored.length := by
  induction stored with
  | nil => cases new <;> rfl
  | cons m stored ih => simp [commonPrefixLength,ih]

lemma newMessages_arr (stored client : List Json) :
    newMessages x stored (arr client) = arr (client.drop (commonPrefixLength x stored client)) := by
  by_cases hpos : 0 < commonPrefixLength x stored client
  · simp [newMessages,items,isArray,hpos]
  · have hz : commonPrefixLength x stored client = 0 := by omega
    simp [newMessages,items,hz]

lemma recognises_iff (h : loadSession x now s = (s',none)) (hnew : new ≠ []) :
    Recognises x now s client new ↔ client.drop (commonPrefixLength x (s'.messages.map (·.content)) client) = new := by
  simp only [Recognises,prepareRequest,h,Option.elim_none,continueSession,newMessages_arr]
  by_cases hnil : client.drop (commonPrefixLength x (s'.messages.map (·.content)) client) = []
  · simp [isArray,items,hnil,hnew.symm]
  · simp [isArray,items,hnil]

/-- New messages are recognised in both forms exactly when the first one is not the first stored one. -/
theorem new_messages_recognised_iff (x : Texts) (now : String) (s s' : Session) (m n : Json) (stored new : List Json)
    (hload : loadSession x now s = (s',none)) (hstored : s'.messages.map (·.content) = m::stored) :
    Recognises x now s (m::stored ++ n::new) (n::new) ∧ Recognises x now s (n::new) (n::new) ↔
      x.jsonString m ≠ x.jsonString n := by
  rw [recognises_iff hload (by simp),recognises_iff hload (by simp),hstored,commonPrefixLength_append,drop_left]
  by_cases hmn : x.jsonString m = x.jsonString n
  · have hshort : ((n::new).drop (commonPrefixLength x (m::stored) (n::new))).length ≠ (n::new).length := by
      simp only [commonPrefixLength,hmn,if_true,length_drop,length_cons]
      omega
    simp only [hmn,ne_eq,not_true_eq_false,iff_false,true_and]
    exact fun h => hshort (congrArg length h)
  · simp [commonPrefixLength,hmn]

def contents : Texts where
  jsonString
    | obj [(_,str content),_] => content
    | _ => ""
  what _ := ""
  buildSummaryJson _ _ _ _ := .ok (obj [])
  buildSummarySystemInstruction _ := ""

def message (role content : String) : Json := obj [("content",str content),("role",str role)]

def answered : Session where
  messages := [⟨0,"user","user",message "user" "a",obj [],"t"⟩,
    ⟨1,"assistant","assistant",message "assistant" "b",obj [("total_tokens",int 3)],"t"⟩]

/-- The same question with other words after it loses its first message. -/
theorem repeated_message_dropped :
    ¬ answered.messages.map (·.content) <+: [message "user" "a",message "user" "c"] ∧
      ¬ Recognises contents "t" answered [message "user" "a",message "user" "c"]
        [message "user" "a",message "user" "c"] := by
  rw [recognises_iff rfl (by simp)]
  simp [answered,contents,message,commonPrefixLength]

theorem new_messages_recognised_answered :
    Recognises contents "t" answered (answered.messages.map (·.content) ++ [message "user" "c"])
        [message "user" "c"] ∧
      Recognises contents "t" answered [message "user" "c"] [message "user" "c"] :=
  (new_messages_recognised_iff contents "t" answered answered (message "user" "a") (message "user" "c")
    [message "assistant" "b"] [] rfl rfl).2 (by simp [contents,message])

def shown (m : InteractionMessageRecord) : String × Json × Json × String := (m.role,m.content,m.usage,m.createdAt)

def summaryRead (r : InteractionSummaryRecord) : InteractionSummaryRecord :=
  {r with summary := if r.summary.isObject then r.summary else obj []}

/-- Archived and restored, the session has its messages as they were and its summaries. -/
def Lossless (x : Texts) (now : String) (s : Session) : Prop :=
  let restored := (restoreArchivedSession x now (archiveSession s)).1
  restored.messages.map shown = s.messages.map shown ∧ restored.summaries = s.summaries

lemma mapM_restoredSummaryRecord (l : List InteractionSummaryRecord) :
    (l.map summaryToJson).mapM (restoredSummaryRecord now) = .ok (l.map summaryRead) := by
  induction l with
  | nil => rfl
  | cons r l ih => simp [restoredSummaryRecord,summaryToJson,summaryRead,ih]

lemma map_summaryRead_eq_iff (l : List InteractionSummaryRecord) :
    l.map summaryRead = l ↔ ∀ r ∈ l, r.summary.isObject = true := by
  have hread : ∀ r, summaryRead r = r ↔ r.summary.isObject = true := by
    intro r
    by_cases h : r.summary.isObject = true
    · simp [summaryRead,h]
    · refine iff_of_false (fun heq => h ?_) h
      rw [← heq,summaryRead,if_neg h]
      rfl
  induction l with
  | nil => simp
  | cons r l ih => simp [hread,ih]

lemma restore_archivePayload (h : s.archive = some (archivePayload s')) :
    restoreArchivedSession x now s =
      match messageRecords now 0 (s'.messages.map (·.content)) with
      | .ok messages => ({s with archived := false, messages, summaries := s'.summaries.map summaryRead},none)
      | .error e => ({s with archived := false},restoreFailed (x.what e)) := by
  have hmessages : (archivePayload s').value "messages" (arr []) = .ok (arr (s'.messages.map (·.content))) := by
    simp [archivePayload,toJson]
  have hsummaries : (archivePayload s').value "summaries" (arr []) = .ok (arr (s'.summaries.map summaryToJson)) := by
    simp [archivePayload,toJson]
  simp only [restoreArchivedSession,h,hmessages,hsummaries,mapM_restoredSummaryRecord]
  split <;> simp_all

lemma messageRecords_shown_iff (l : List InteractionMessageRecord) (seq : ℤ) :
    (∃ r, messageRecords now seq (l.map (·.content)) = .ok r ∧ r.map shown = l.map shown) ↔
      ∀ m ∈ l, m.content.value "role" "" = .ok m.role ∧ m.usage = obj [] ∧ m.createdAt = now := by
  induction l generalizing seq with
  | nil => simp [messageRecords]
  | cons m l ih =>
    rw [forall_mem_cons,← ih (seq + 1)]
    simp only [map_cons,messageRecords,bind_eq_ok,pure_eq_ok]
    constructor
    · rintro ⟨_,⟨role,hrole,records,hrecords,rfl⟩,hshown⟩
      simp only [map_cons,cons.injEq,shown,Prod.mk.injEq,true_and] at hshown
      obtain ⟨⟨rfl,husage,hcreated⟩,hrest⟩ := hshown
      exact ⟨⟨hrole,husage.symm,hcreated.symm⟩,records,hrecords,hrest⟩
    · rintro ⟨⟨hrole,husage,rfl⟩,records,hrecords,hrest⟩
      exact ⟨_,⟨m.role,hrole,records,hrecords,rfl⟩,by simp [shown,husage,hrest]⟩

/-- An archive gives back the conversation exactly when every message has the role of its content, no usage
and the time of the restoring as its creation time, and every summary is an object. -/
theorem archive_lossless_iff (x : Texts) (now : String) (s : Session) :
    Lossless x now s ↔
      (∀ m ∈ s.messages, m.content.value "role" "" = .ok m.role ∧ m.usage = obj [] ∧ m.createdAt = now) ∧
        ∀ r ∈ s.summaries, r.summary.isObject = true := by
  rw [← messageRecords_shown_iff _ 0,← map_summaryRead_eq_iff,Lossless,restore_archivePayload rfl]
  cases hrecords : messageRecords now 0 (s.messages.map (·.content)) with
  | ok messages => simp
  | error e =>
    -- Without messages there is nothing to fail on.
    have hne : s.messages ≠ [] := by
      intro hnil
      simp [hnil,messageRecords] at hrecords
    simp [archiveSession,hne]

/-- The usage of the answer is gone. -/
theorem answered_usage_lost : ¬ Lossless contents "t" answered := by
  rintro ⟨hmessages,-⟩
  have husage : [obj [],obj []] = [obj [],obj [("total_tokens",int 3)]] :=
    congrArg (map fun m : String × Json × Json × String => m.2.2.1) hmessages
  simp at husage

def range (r : InteractionSummaryRecord) : ℤ × ℤ := (r.turnRangeStart,r.turnRangeEnd)

/-- Of more messages than the tail has, all before the tail are summarised. -/
def summaryRanges (count : ℕ) : List (ℤ × ℤ) :=
  if count ≤ recentMessageTailCount then [] else [(0,(count : ℤ) - recentMessageTailCount - 1)]

def Summarised (s : Session) : Prop := s.summaries.map range = summaryRanges s.messages.length

/-- The one summary and the verbatim tail of the prompt divide the stored messages. -/
def CoversOnce (x : Texts) (s : Session) (context : InteractionRequestContext) : Prop :=
  s.summaries.length ≤ 1 ∧ ∃ first,
    context.promptMessages = arr (summaryMessages x s.summaries ++ (s.messages.drop first).map (·.content) ++
      context.deltaMessages.items) ∧
    ∀ k < s.messages.length, Xor (∃ r ∈ s.summaries, r.turnRangeStart ≤ k ∧ k ≤ r.turnRangeEnd) (first ≤ k)

/-- A session with the messages of its completed turns, one after the other. -/
structure Conversation where
  session : Session := {}
  turns : List Json := []

/-- The messages of the turn that the call completes. -/
def completedBy (x : Texts) (s : Session) : Call → List Json
  | .persist now text delta usage state prompt len =>
    if (persistResponse x now s text delta usage state prompt len).toOption.isSome then
      delta.items ++ [assistantMessage text]
    else []
  | _ => []

def Conversation.step (x : Texts) (c : Conversation) (call : Call) : Conversation where
  session := InteractionConversation.step x c.session call
  turns := c.turns ++ completedBy x c.session call

/-- The next request has the messages of all turns, and its prompt covers each of them once. -/
def CoversTurns (x : Texts) (c : Conversation) : Prop :=
  ∀ now client s context, prepareRequest x now c.session client = (s,.ok context) →
    s.messages.map (·.content) = c.turns ∧ CoversOnce x s context

/-- A turn is not completed while the turns before it are in the archive. -/
def FindsActive (x : Texts) (c : Conversation) (call : Call) : Prop :=
  completedBy x c.session call ≠ [] → c.session.archived = true → c.turns = []

def Readable (l : List InteractionMessageRecord) : Prop := ∀ m ∈ l, ∃ role, m.content.value "role" "" = .ok role

/-- The rows and the archive are summarised and can be read; an archived session has no rows. -/
structure Sound (s : Session) : Prop where
  rows : Summarised s
  readable : Readable s.messages
  archive : ∀ payload, s.archive = some payload →
    ∃ s', Summarised s' ∧ Readable s'.messages ∧ payload = archivePayload s'
  archived : s.archived = true → s.messages = [] ∧ s.archive ≠ none

lemma messageRecords_spec {l : List Json} {seq : ℤ} {r : List InteractionMessageRecord}
    (h : messageRecords now seq l = .ok r) : r.map (·.content) = l ∧ Readable r := by
  induction l generalizing seq r with
  | nil =>
    obtain rfl := Except.ok.inj h
    exact ⟨rfl,by simp [Readable]⟩
  | cons m l ih =>
    simp only [messageRecords,bind_eq_ok,pure_eq_ok] at h
    obtain ⟨role,hrole,records,hrecords,rfl⟩ := h
    obtain ⟨hcontent,hreadable⟩ := ih hrecords
    exact ⟨by simp [hcontent],by simpa [Readable] using ⟨⟨role,hrole⟩,hreadable⟩⟩

lemma messageRecords_of_readable {l : List InteractionMessageRecord} (h : Readable l) (seq : ℤ) :
    ∃ r, messageRecords now seq (l.map (·.content)) = .ok r := by
  induction l generalizing seq with
  | nil => exact ⟨[],rfl⟩
  | cons m l ih =>
    obtain ⟨⟨role,hrole⟩,hrest⟩ := forall_mem_cons.1 h
    obtain ⟨records,hrecords⟩ := ih hrest (seq + 1)
    exact ⟨_,by simp only [map_cons,messageRecords,hrole,hrecords]; rfl⟩

lemma Sound.restore (h : Sound s) (harchive : s.archive = some (archivePayload s'))
    (hrows : Summarised s') (hreadable : Readable s'.messages) (x : Texts) (now : String) :
    ∃ loaded, restoreArchivedSession x now s = (loaded,none) ∧ Sound loaded ∧ loaded.archived = false ∧
      loaded.messages.map (·.content) = s'.messages.map (·.content) := by
  obtain ⟨records,hrecords⟩ := @messageRecords_of_readable now _ hreadable 0
  obtain ⟨hcontent,hread⟩ := messageRecords_spec hrecords
  have hlength : records.length = s'.messages.length := by simpa using congrArg length hcontent
  refine ⟨{s with archived := false, messages := records, summaries := s'.summaries.map summaryRead},
    by rw [restore_archivePayload harchive,hrecords],⟨?_,hread,h.archive,by simp⟩,rfl,hcontent⟩
  rw [Summarised,hlength,← hrows,map_map]
  rfl

lemma Sound.load (h : Sound s) (x : Texts) (now : String) :
    ∃ loaded, loadSession x now s = (loaded,none) ∧ Sound loaded ∧ loaded.archived = false := by
  unfold loadSession
  cases harchived : s.archived with
  | false => exact ⟨s,rfl,h,harchived⟩
  | true =>
    obtain ⟨payload,hpayload⟩ := Option.ne_none_iff_exists'.1 (h.archived harchived).2
    obtain ⟨s',hrows,hreadable,rfl⟩ := h.archive payload hpayload
    obtain ⟨loaded,hload,hsound,hactive,-⟩ := h.restore hpayload hrows hreadable x now
    exact ⟨loaded,hload,hsound,hactive⟩

variable {state prompt delta usage : Json} {len : ℤ} {c : Conversation} {text : String}

lemma buildSummaryRecords_ranges {all : List Json} (h : buildSummaryRecords x all state now len prompt = .ok l) :
    l.map range = summaryRanges all.length := by
  simp only [buildSummaryRecords] at h
  split at h
  · next hshort =>
    obtain rfl := pure_eq_ok.1 h
    simp [summaryRanges,hshort.1]
  · split at h
    · obtain rfl := pure_eq_ok.1 h
      simp only [summaryRanges,map_nil]
      rw [if_pos (by omega)]
    · simp only [bind_eq_ok,pure_eq_ok] at h
      obtain ⟨summary,-,rfl⟩ := h
      simp only [summaryRanges,map_cons,map_nil,range]
      rw [if_neg (by omega)]

lemma Sound.persist (h : Sound s) (hs' : persistResponse x now s text delta usage state prompt len = .ok s') :
    Sound s' ∧ s'.archived = false ∧
      s'.messages.map (·.content) = s.messages.map (·.content) ++ (delta.items ++ [assistantMessage text]) := by
  simp only [persistResponse,appendNewMessageRecords,bind_eq_ok,pure_eq_ok] at hs'
  obtain ⟨_,⟨new,hnew,rfl⟩,summaries,hsummaries,rfl⟩ := hs'
  obtain ⟨hcontent,hread⟩ := messageRecords_spec hnew
  have hranges := buildSummaryRecords_ranges hsummaries
  rw [length_map] at hranges
  refine ⟨⟨hranges,?_,h.archive,by simp⟩,rfl,by simp [hcontent]⟩
  simp only [Readable,forall_mem_append,forall_mem_singleton]
  exact ⟨⟨h.readable,hread⟩,"assistant",by simp [assistantMessage]⟩

lemma sound_archiveSession (h : Sound s) : Sound (archiveSession s) where
  rows := rfl
  readable := by simp [Readable,archiveSession]
  archive _ hpayload := ⟨s,h.rows,h.readable,(Option.some.inj hpayload).symm⟩
  archived _ := ⟨rfl,by simp [archiveSession]⟩

lemma Sound.step (h : Sound s) (c : Call) : Sound (step x s c) := by
  cases c with
  | sweep =>
    simp only [InteractionConversation.step]
    split
    · exact h
    · exact sound_archiveSession h
  | prepare now client =>
    obtain ⟨loaded,hload,hsound,-⟩ := h.load x now
    simpa only [InteractionConversation.step,prepareRequest,hload] using hsound
  | persist now text delta usage state prompt len =>
    simp only [InteractionConversation.step]
    cases hs' : persistResponse x now s text delta usage state prompt len with
    | error e => exact h
    | ok s' => exact (h.persist hs').1

lemma Summarised.covers (h : Summarised s) : s.summaries.length ≤ 1 ∧ ∀ k < s.messages.length,
    Xor (∃ r ∈ s.summaries, r.turnRangeStart ≤ k ∧ k ≤ r.turnRangeEnd)
      (s.messages.length - min s.messages.length recentMessageTailCount ≤ k) := by
  unfold Summarised summaryRanges at h
  split at h
  · next hshort =>
    rw [map_eq_nil_iff.1 h,min_eq_left hshort]
    simp
  · next hlong =>
    obtain ⟨r,hr,hrange⟩ := map_eq_singleton_iff.1 h
    obtain ⟨hstart,hend⟩ := Prod.mk.inj hrange
    simp only [hr,mem_singleton,exists_eq_left,hstart,hend,length_singleton,le_refl,true_and,Xor]
    omega

def LoadsTurns (x : Texts) (c : Conversation) : Prop :=
  ∀ now, (loadSession x now c.session).1.messages.map (·.content) = c.turns

lemma loadsTurns_of_active (h : c.session.archived = false) :
    LoadsTurns x c ↔ c.session.messages.map (·.content) = c.turns := by simp [LoadsTurns,loadSession,h]

lemma coversTurns_iff_loadsTurns (h : Sound c.session) : CoversTurns x c ↔ LoadsTurns x c := by
  constructor
  · intro hcovers now
    -- a client that repeats the conversation and adds a message is accepted
    obtain ⟨loaded,hload,-⟩ := h.load x now
    have hnew : Recognises x now c.session (loaded.messages.map (·.content) ++ [null]) [null] :=
      (recognises_iff hload (by simp)).2 (by rw [commonPrefixLength_append,drop_left])
    obtain ⟨context,hcontext,-⟩ := hnew
    have hprepare : (prepareRequest x now c.session (arr (loaded.messages.map (·.content) ++ [null]))).1 = loaded := by
      rw [prepareRequest,hload]
    rw [hload]
    exact (hcovers now _ loaded context (Prod.ext hprepare hcontext)).1
  · intro hloads now client s context hprepare
    obtain ⟨loaded,hload,hsound,-⟩ := h.load x now
    simp only [prepareRequest,hload,Option.elim_none,Prod.mk.injEq] at hprepare
    obtain ⟨rfl,hcontext⟩ := hprepare
    obtain ⟨hone,hcovers⟩ := hsound.rows.covers
    refine ⟨by simpa [hload] using hloads now,hone,_,?_,hcovers⟩
    simp only [continueSession] at hcontext
    split at hcontext
    · simp at hcontext
    · obtain rfl := Except.ok.inj hcontext
      simp [tailMessagesWithDelta,map_drop]

lemma loadsTurns_step_iff (h : Sound c.session) (hloads : LoadsTurns x c) (call : Call) :
    LoadsTurns x (c.step x call) ↔ FindsActive x c call := by
  cases call with
  | sweep =>
    refine iff_of_true ?_ (fun hcompleted => absurd rfl hcompleted)
    simp only [Conversation.step,InteractionConversation.step,completedBy,append_nil]
    split
    · exact hloads
    next hactive =>
      intro now
      have hstored := (loadsTurns_of_active (by simpa using hactive)).1 hloads
      obtain ⟨loaded,hload,-,-,hcontent⟩ :=
        (sound_archiveSession h).restore (rfl : (archiveSession c.session).archive = _) h.rows h.readable x now
      rw [loadSession,if_pos (by rfl),hload]
      exact hcontent.trans hstored
  | prepare now client =>
    refine iff_of_true ?_ (fun hcompleted => absurd rfl hcompleted)
    obtain ⟨loaded,hload,-,hactive⟩ := h.load x now
    have hstored := hloads now
    rw [hload] at hstored
    simp only [Conversation.step,InteractionConversation.step,prepareRequest,hload,completedBy,append_nil]
    exact (loadsTurns_of_active hactive).2 hstored
  | persist now text delta usage state prompt len =>
    simp only [Conversation.step,InteractionConversation.step,FindsActive,completedBy]
    cases hs' : persistResponse x now c.session text delta usage state prompt len with
    | error e => simpa [Except.toOption] using hloads
    | ok s' =>
      obtain ⟨-,hactive,hcontent⟩ := h.persist hs'
      simp only [Except.toOption,Option.isSome_some,if_true,Option.getD_some]
      rw [loadsTurns_of_active hactive,hcontent,append_left_inj]
      cases harchived : c.session.archived with
      | false => simpa using (loadsTurns_of_active harchived).1 hloads
      | true =>
        rw [(h.archived harchived).1,map_nil]
        exact ⟨fun hturns _ _ => hturns.symm,fun hturns => (hturns (by simp) rfl).symm⟩

/-- Along any calls, the next prompt covers all completed turns once exactly when no turn is completed while those
before it are in the archive. -/
theorem turns_covered_iff (x : Texts) (calls : List Call) :
    (∀ n, CoversTurns x (run (Conversation.step x) {} (calls.take n))) ↔
      Guarded (Conversation.step x) (FindsActive x) {} calls := by
  have hsound : Sound ({} : Conversation).session := ⟨rfl,by simp [Readable],by simp,by simp⟩
  have hloads : LoadsTurns x {} := fun _ => rfl
  have hrun : ∀ n, Sound (run (Conversation.step x) {} (calls.take n)).session := fun n =>
    @run_invariant _ _ (Conversation.step x) (fun _ _ => True) (fun c => Sound c.session)
      (fun _ call hs _ => hs.step call) _ _ hsound (guarded_true _)
  rw [forall_congr' fun n => coversTurns_iff_loadsTurns (hrun n)]
  exact @invariant_iff_guarded _ _ (Conversation.step x) (FindsActive x) (LoadsTurns x) (fun c => Sound c.session)
    (fun _ => True) (fun _ call hs _ => hs.step call) (fun _ call hs _ h => loadsTurns_step_iff hs h call) calls _
    (fun _ _ => trivial) hsound hloads

def turn (question answer : String) : List Call :=
  [.prepare "t" (arr [message "user" question]),
    .persist "t" answer (arr [message "user" question]) (obj []) (obj []) (arr []) 1]

def fiveTurns : List Call :=
  turn "a" "b" ++ turn "c" "d" ++ turn "e" "f" ++ turn "g" "h" ++ turn "i" "j" ++ [.sweep]

theorem fiveTurns_covered :
    let c := run (Conversation.step contents) {} fiveTurns
    c.turns.length = 10 ∧ (loadSession contents "u" c.session).1.summaries.map range = [(0,1)] ∧
      CoversTurns contents c := by
  have hquiet : ∀ {c : Conversation} {call : Call}, completedBy contents c.session call = [] →
      FindsActive contents c call := fun h hcompleted => absurd h hcompleted
  have hactive : ∀ {c : Conversation} {call : Call}, c.session.archived = false → FindsActive contents c call :=
    fun h _ harchived => by simp [h] at harchived
  have hguarded : Guarded (Conversation.step contents) (FindsActive contents) {} fiveTurns :=
    ⟨hquiet rfl,hactive rfl,hquiet rfl,hactive rfl,hquiet rfl,hactive rfl,hquiet rfl,hactive rfl,hquiet rfl,hactive rfl,
      hquiet rfl,trivial⟩
  refine ⟨rfl,rfl,?_⟩
  exact (turns_covered_iff contents fiveTurns).2 hguarded fiveTurns.length

/-- A session that is archived during its second turn has lost the first one. -/
theorem archived_turn_lost :
    let calls := turn "a" "b" ++ [.prepare "t" (arr [message "user" "c"]),.sweep,
      .persist "t" "d" (arr [message "user" "c"]) (obj []) (obj []) (arr []) 1]
    let c := run (Conversation.step contents) {} calls
    c.turns.length = 4 ∧ (loadSession contents "u" c.session).1.messages.length = 2 ∧ ¬ CoversTurns contents c := by
  intro calls c
  refine ⟨rfl,rfl,fun h => ?_⟩
  have hlost := (h "u" (arr [message "user" "e"]) _ _ rfl).1
  exact absurd (congrArg length hlost) (by decide)

end Naim.InteractionConversation
