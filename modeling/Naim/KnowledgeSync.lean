import Mathlib.Data.Rat.Defs
import Naim.KnowledgeStore

/-!
# Knowledge that is shared

Connections are handled in threads of their own, and each appends to the one event
log. A client that was offline pushes its writes with the hashes of the records that
they were made on.
-/

namespace Naim.KnowledgeStore

open Assoc Runs

section events

variable {ι ε : Type} [DecidableEq ι]

inductive Append where
  | waiting
  | writing (sequence : Int32)
  | returned (sequence : Int32)

/-- An event stands under its number, which `EventKey` writes in full. -/
structure EventLog (ι ε : Type) where
  latestEventSequence : Int32
  events : List (ℤ × ε) := []
  calls : ι → Append := fun _ => .waiting

def appendEvent (event : ι → ε) (s : EventLog ι ε) (i : ι) : EventLog ι ε :=
  match s.calls i with
  | .waiting => {s with calls := Function.update s.calls i (.writing (s.latestEventSequence + 1))}
  | .writing sequence => {
      latestEventSequence := sequence, events := set s.events sequence.toInt (event i)
      calls := Function.update s.calls i (.returned sequence)}
  | .returned _ => s

variable {event : ι → ε} {n : Int32} {s : EventLog ι ε} {i : ι}

/-- The numbers returned are different and consecutive from the one after `n`, and have their events. -/
structure Lossless (event : ι → ε) (n : Int32) (s : EventLog ι ε) : Prop where
  different : ∀ i j a, s.calls i = .returned a → s.calls j = .returned a → i = j
  consecutive : ∀ a, (∃ i, s.calls i = .returned a) ↔ n < a ∧ a ≤ s.latestEventSequence
  stored : ∀ i a, s.calls i = .returned a → s.events.lookup a.toInt = some (event i)

/-- A call that writes finds the number before its own: it read that number, and adding one
to it has not left the range of an `int`. -/
def Unraced (s : EventLog ι ε) (i : ι) : Prop :=
  ∀ a, s.calls i = .writing a → a.toInt = s.latestEventSequence.toInt + 1

def Begun (n : Int32) (s : EventLog ι ε) : Prop :=
  s.latestEventSequence = n ∨ ∃ i, s.calls i = .returned s.latestEventSequence

lemma begun_appendEvent (h : Begun n s) (i : ι) : Begun n (appendEvent event s i) := by
  unfold appendEvent
  cases hi : s.calls i with
  | waiting =>
    refine h.imp_right fun ⟨j,hj⟩ => ⟨j,?_⟩
    have hij : j ≠ i := by
      rintro rfl
      cases hi.symm.trans hj
    simpa [hij] using hj
  | writing b => exact .inr ⟨i,by simp⟩
  | returned b => exact h

lemma returned_update_iff (hi : ∀ a, s.calls i ≠ .returned a) (c : Append) (j : ι) (a : Int32) :
    Function.update s.calls i c j = .returned a ↔ j = i ∧ c = .returned a ∨ s.calls j = .returned a := by
  by_cases hij : j = i
  · simp [hij,hi a]
  · simp [hij]

lemma lossless_appendEvent_iff (hb : Begun n s) (h : Lossless event n s) (i : ι) :
    Lossless event n (appendEvent event s i) ↔ Unraced s i := by
  have hlatest : n.toInt ≤ s.latestEventSequence.toInt := by
    rcases hb with hlatest | hreturned
    · rw [hlatest]
    · exact (Int32.lt_iff_toInt_lt.1 ((h.consecutive _).1 hreturned).1).le
  unfold appendEvent Unraced
  cases hi : s.calls i with
  | waiting =>
    have hsame := returned_update_iff (fun a => by rw [hi]; nofun) (.writing (s.latestEventSequence + 1))
    simp only [reduceCtorEq,and_false,false_or] at hsame
    exact ⟨nofun,fun _ => ⟨by simpa only [hsame] using h.different,by simpa only [hsame] using h.consecutive,
      by simpa only [hsame] using h.stored⟩⟩
  | returned b => exact ⟨nofun,fun _ => h⟩
  | writing b =>
    have hnew := returned_update_iff (fun a => by rw [hi]; nofun) (.returned b)
    have hold : ∀ j a, s.calls j = .returned a → a.toInt ≤ s.latestEventSequence.toInt := fun j a hj =>
      Int32.le_iff_toInt_le.1 ((h.consecutive a).1 ⟨j,hj⟩).2
    simp only [Append.writing.injEq,forall_eq',Append.returned.injEq] at hnew ⊢
    constructor
    · intro h'
      have hi' := (hnew i b).2 (.inl ⟨rfl,rfl⟩)
      -- a number that is not the next one was returned before, or leaves the next one out
      rcases Int.lt_trichotomy b.toInt (s.latestEventSequence.toInt + 1) with hlt | heq | hgt
      · have hle : b ≤ s.latestEventSequence := Int32.le_iff_toInt_le.2 (Int.le_of_lt_add_one hlt)
        obtain ⟨j,hj⟩ := (h.consecutive b).2 ⟨((h'.consecutive b).1 ⟨i,hi'⟩).1,hle⟩
        obtain rfl := h'.different i j b hi' ((hnew j b).2 (.inr hj))
        cases hi.symm.trans hj
      · exact heq
      · have hnext : (Int32.ofInt (s.latestEventSequence.toInt + 1)).toInt = s.latestEventSequence.toInt + 1 :=
          Int32.toInt_ofInt_of_le (by have := s.latestEventSequence.le_toInt; omega) (by have := b.toInt_lt; omega)
        obtain ⟨j,hj⟩ := (h'.consecutive (.ofInt (s.latestEventSequence.toInt + 1))).2
          ⟨Int32.lt_iff_toInt_lt.2 (by omega),Int32.le_iff_toInt_le.2 (by simp only; omega)⟩
        rcases (hnew _ _).1 hj with ⟨-,heq⟩ | hj
        · exact heq ▸ hnext
        · have := hold j _ hj
          omega
    · intro hb
      refine ⟨fun j k a hj hk => ?_,fun a => ?_,fun j a hj => ?_⟩
      · rcases (hnew j a).1 hj with ⟨rfl,rfl⟩ | hj' <;> rcases (hnew k _).1 hk with ⟨rfl,ha⟩ | hk'
        · rfl
        · exact absurd (hold k b hk') (by omega)
        · exact absurd (hold j a hj') (by rw [← ha]; omega)
        · exact h.different j k a hj' hk'
      · simp only [hnew,exists_or,h.consecutive,exists_eq_left,Int32.lt_iff_toInt_lt,Int32.le_iff_toInt_le,
          ← Int32.toInt_inj]
        omega
      · refine (lookup_set _ _ _ _).trans ?_
        rcases (hnew j a).1 hj with ⟨rfl,rfl⟩ | hj
        · exact if_pos rfl
        · have hle := hold j a hj
          exact (if_neg (by omega)).trans (h.stored j a hj)

/-- Whatever the interleaving, nothing is lost exactly when no other call writes between the two
accesses of one and the numbers stay in the range of an `int`. -/
theorem lossless_iff_unraced (event : ι → ε) (n : Int32) (events : List (ℤ × ε)) (schedule : List ι) :
    (∀ k, Lossless event n (run (appendEvent event) {latestEventSequence := n,events} (schedule.take k))) ↔
      Guarded (appendEvent event) Unraced {latestEventSequence := n,events} schedule := by
  have hempty : Lossless event n {latestEventSequence := n,events} := by
    refine ⟨nofun,fun a => ⟨nofun,fun ⟨hlt,hle⟩ => ?_⟩,nofun⟩
    exact absurd (Int32.le_iff_toInt_le.1 hle) (Int32.lt_iff_toInt_lt.1 hlt).not_ge
  exact @invariant_iff_guarded _ _ (appendEvent event) Unraced (Lossless event n) (Begun n) (fun _ => True)
    (fun _ i hb _ => begun_appendEvent hb i) (fun _ i hb _ h => lossless_appendEvent_iff hb h i) schedule _
    (fun _ _ => trivial) (.inl rfl) hempty

/-- Two calls read the same number, and the second write replaces the first event. -/
theorem overlapping_appends_lose :
    let s := run (appendEvent id) {latestEventSequence := 0} [true,false,true,false]
    s.calls true = .returned 1 ∧ s.calls false = .returned 1 ∧ s.events = [(1,false)] := ⟨rfl,rfl,rfl⟩

end events

structure KnowledgeBlock where
  (blockId knowledgeId versionId : String := "")
  type : String := "note"
  (title body : String := "")
  payload : String := "{}"
  (contentHash createdAt createdBy : String := "")
  (sourceIds scopeIds : List String := [])
  confidence : ℚ := 1

/-- The digest, and the text of a block's JSON, which is what the database holds. -/
structure Codec where
  sha : String → String
  dump : KnowledgeBlock → String

def jsonPayloadHash (codec : Codec) (text : String) : String := "sha256:" ++ codec.sha text

inductive Entity where
  | kvBlock (payload : Option KnowledgeBlock)
  | kvRelation (payload : Option Relation)
  | other

/-- A payload of the wrong type is none. The new id and the time are those that the write would be given. -/
structure ClientWrite where
  outboxId : String
  entity : Entity
  entityId : String
  isDelete : Bool := false
  (baseHash newId utcNow : String := "")

inductive Reason where
  | remoteChanged
  | deleteNotSupported

/-- What the loop over the writes carries; a throw ends it. -/
structure Sync where
  blocks : List (String × String) := []
  (edgesOut edgesIn : List (String × Relation) := [])
  accepted : List String := []
  conflicts : List (ClientWrite × Reason × Option String) := []
  thrown : Bool := false

variable (codec : Codec) (s : Sync) (w : ClientWrite)

def ClientWrite.blockId (block : KnowledgeBlock) : String :=
  if block.blockId = "" then w.newId else block.blockId

def ClientWrite.text (block : KnowledgeBlock) : String :=
  let blockId := w.blockId block
  codec.dump {block with
    blockId
    knowledgeId := if block.knowledgeId = "" then "knowledge." ++ blockId else block.knowledgeId
    versionId := if block.versionId = "" then "v1" else block.versionId
    createdAt := if block.createdAt = "" then w.utcNow else block.createdAt
    createdBy := if block.createdBy = "" then "naim-knowledged" else block.createdBy
    contentHash := if block.contentHash = "" then codec.sha (block.title ++ "\n" ++ block.body) else block.contentHash}

/-- The stored record is the one that the write was made on, or there is none. -/
def Sync.seen : Bool := (s.blocks.lookup w.entityId).all (jsonPayloadHash codec · = w.baseHash)

def clientSyncPush : Sync :=
  if s.thrown then s else
  match w.entity with
  | .kvBlock payload =>
    let remote := s.blocks.lookup w.entityId
    if w.baseHash ≠ "" ∧ !s.seen codec w then {s with conflicts := s.conflicts ++ [(w,.remoteChanged,remote)]} else
    if w.isDelete then {s with conflicts := s.conflicts ++ [(w,.deleteNotSupported,remote)]} else
    match payload with
    | none => {s with thrown := true}
    | some block => {s with
        blocks := set s.blocks (w.blockId block) (w.text codec block)
        accepted := s.accepted ++ [w.outboxId]}
  | .kvRelation payload =>
    if w.isDelete then {s with conflicts := s.conflicts ++ [(w,.deleteNotSupported,none)]} else
    match payload with
    | none => {s with thrown := true}
    | some r =>
      let r := r.named w.newId
      if r.fromBlockId = "" ∨ r.toBlockId = "" then {s with thrown := true} else
      {s with
        edgesOut := set s.edgesOut (edgeOutKey r) r, edgesIn := set s.edgesIn (edgeInKey r) r
        accepted := s.accepted ++ [w.outboxId]}
  | .other => s

def KnowledgeBlock.record (b : KnowledgeBlock) : Block :=
  {blockId := b.blockId, knowledgeId := b.knowledgeId, title := b.title, body := b.body, scopeIds := b.scopeIds}

/-- The call of the store that the loop makes for the write. -/
def Sync.call : Option Operation :=
  if s.thrown then none else
  match w.entity with
  | .kvBlock (some block) =>
    if w.baseHash ≠ "" ∧ !s.seen codec w ∨ w.isDelete then none else some (.writeBlock w.newId block.record)
  | .kvRelation (some r) => if w.isDelete then none else some (.writeRelation w.newId r)
  | _ => none

/-- The loop has the blocks and the relations of the store; `read` is the record of a text. -/
structure Agrees (read : String → Block) (s : Sync) (store : Store) : Prop where
  blocks : ∀ id, store.blocks.lookup ("blocks:" ++ id) = (s.blocks.lookup id).map read
  edgesOut : store.edgesOut = s.edgesOut
  edgesIn : store.edgesIn = s.edgesIn

section Store

variable {codec : Codec} {s : Sync} {read : String → Block} {store : Store}

lemma agrees_writeBlock (hread : ∀ b, read (codec.dump b) = b.record) (h : Agrees read s store)
    (w : ClientWrite) (block : KnowledgeBlock) (accepted : List String) (thrown : Bool) :
    Agrees read {s with blocks := set s.blocks (w.blockId block) (w.text codec block),accepted,thrown}
      (writeBlock w.newId block.record store) where
  blocks id := by
    have hid : ("blocks:" ++ id = "blocks:" ++ w.blockId block) = (id = w.blockId block) := by simp
    simp only [writeBlock,lookup_set]
    refine (if_congr (iff_of_eq hid) rfl (h.blocks id)).trans ?_
    split
    · simp only [ClientWrite.text,hread,Option.map_some]
      rfl
    · rfl
  edgesOut := h.edgesOut
  edgesIn := h.edgesIn

theorem clientSyncPush_agrees (sha : String → String) (hread : ∀ b, read (codec.dump b) = b.record)
    (h : Agrees read s store) (w : ClientWrite) :
    Agrees read (clientSyncPush codec s w) ((s.call codec w).elim store (apply sha store)) := by
  have hsame : ∀ accepted conflicts thrown, Agrees read {s with accepted,conflicts,thrown} store :=
    fun _ _ _ => ⟨h.blocks,h.edgesOut,h.edgesIn⟩
  unfold clientSyncPush Sync.call
  by_cases hthrown : s.thrown
  · simpa only [hthrown,if_true,Option.elim_none] using h
  simp only [hthrown,Bool.false_eq_true,if_false]
  rcases w.entity with (_ | block) | (_ | r) | _
  · dsimp only
    split
    · exact hsame _ _ _
    · split <;> exact hsame _ _ _
  · dsimp only
    by_cases hrefused : w.baseHash ≠ "" ∧ !s.seen codec w
    · rw [if_pos hrefused,if_pos (.inl hrefused)]
      exact hsame _ _ _
    rw [if_neg hrefused]
    by_cases hdelete : w.isDelete
    · rw [if_pos hdelete,if_pos (.inr hdelete)]
      exact hsame _ _ _
    · rw [if_neg hdelete,if_neg (by tauto)]
      exact agrees_writeBlock hread h w block _ _
  · dsimp only
    split <;> exact hsame _ _ _
  · dsimp only
    by_cases hdelete : w.isDelete
    · rw [if_pos hdelete,if_pos hdelete]
      exact hsame _ _ _
    · simp only [hdelete,Bool.false_eq_true,if_false,Option.elim_some,apply,writeRelation]
      split
      · exact hsame _ _ _
      · exact ⟨h.blocks,by rw [h.edgesOut],by rw [h.edgesIn]⟩
  · exact h

theorem push_agrees (sha : String → String) (hread : ∀ b, read (codec.dump b) = b.record)
    (h : Agrees read s store) (writes : List ClientWrite) :
    ∃ calls, Agrees read (run (clientSyncPush codec) s writes) (run (apply sha) store calls) := by
  induction writes generalizing s store with
  | nil => exact ⟨[],h⟩
  | cons w writes ih =>
    obtain ⟨calls,hcalls⟩ := ih (clientSyncPush_agrees sha hread h w)
    cases hcall : s.call codec w with
    | none => exact ⟨calls,by rwa [hcall] at hcalls⟩
    | some call => exact ⟨call::calls,by rwa [hcall] at hcalls⟩

end Store

/-- The write changes no block but its own, and that one only if nobody changed it since. -/
structure Careful (codec : Codec) (s s' : Sync) (w : ClientWrite) : Prop where
  others : ∀ id, id ≠ w.entityId → s'.blocks.lookup id = s.blocks.lookup id
  seen : s.seen codec w = true

/-- Every write of a block that is made on a record and accepted is careful. -/
def PushesCarefully : Prop :=
  ∀ payload, w.entity = .kvBlock payload → w.baseHash ≠ "" →
    (clientSyncPush codec s w).accepted = s.accepted ++ [w.outboxId] → Careful codec s (clientSyncPush codec s w) w

/-- The block of a write that is not refused has the id that the write names, or it is stored as it is. -/
def Addressed : Prop :=
  ∀ block, w.entity = .kvBlock (some block) → w.baseHash ≠ "" → s.seen codec w = true → w.isDelete = false →
    s.thrown = false → w.blockId block = w.entityId ∨ s.blocks.lookup (w.blockId block) = some (w.text codec block)

lemma clientSyncPush_block {codec : Codec} {s : Sync} {w : ClientWrite} {block : KnowledgeBlock}
    (he : w.entity = .kvBlock (some block)) (hseen : s.seen codec w = true) (hdelete : w.isDelete = false)
    (hthrown : s.thrown = false) : clientSyncPush codec s w = {s with
      blocks := set s.blocks (w.blockId block) (w.text codec block)
      accepted := s.accepted ++ [w.outboxId]} := by
  simp [clientSyncPush,he,hseen,hdelete,hthrown]

lemma pushesCarefully_iff : PushesCarefully codec s w ↔ Addressed codec s w := by
  constructor
  · intro h block he hbase hseen hdelete hthrown
    have hpush := clientSyncPush_block he hseen hdelete hthrown
    by_cases hid : w.blockId block = w.entityId
    · exact .inl hid
    · have hsame := (h _ he hbase (by rw [hpush])).others _ hid
      rw [hpush,lookup_set,if_pos rfl] at hsame
      exact .inr hsame.symm
  · intro h payload he hbase haccepted
    have hpassed : s.thrown = false ∧ s.seen codec w = true ∧ w.isDelete = false ∧ ∃ block, payload = some block := by
      cases hthrown : s.thrown <;> cases hseen : s.seen codec w <;> cases hdelete : w.isDelete <;>
        cases payload <;> simp [clientSyncPush,he,hbase,hthrown,hseen,hdelete] at haccepted ⊢
    obtain ⟨hthrown,hseen,hdelete,block,rfl⟩ := hpassed
    refine ⟨fun id hid => ?_,hseen⟩
    rw [clientSyncPush_block he hseen hdelete hthrown,lookup_set]
    rcases h block he hbase hseen hdelete hthrown with hnamed | hstored
    · exact if_neg (hnamed ▸ hid)
    · by_cases heq : id = w.blockId block
      · rw [if_pos heq,heq,hstored]
      · exact if_neg heq

/-- A push is careful throughout exactly when its blocks have the ids that their writes name. -/
theorem push_careful_iff (codec : Codec) (s : Sync) (writes : List ClientWrite) :
    Guarded (clientSyncPush codec) (PushesCarefully codec) s writes ↔
      Guarded (clientSyncPush codec) (Addressed codec) s writes := by
  rw [show PushesCarefully codec = Addressed codec from
    funext₂ fun s w => propext (pushesCarefully_iff codec s w)]

/-- A write that names the block `a` replaces the block `b`. -/
theorem push_replaces_unnamed_block :
    let entity := .kvBlock (some {blockId := "b",title := "new"})
    let s := clientSyncPush ⟨id,(·.title)⟩ {blocks := [("b","theirs")]}
      {outboxId := "1",entity,entityId := "a",baseHash := "sha256:old"}
    s.accepted = ["1"] ∧ s.blocks = [("b","new")] := by decide

end Naim.KnowledgeStore
