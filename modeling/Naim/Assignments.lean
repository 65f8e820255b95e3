import Naim.Runs
import Naim.Rows

/-!
# The `host_assignments` table

The controller queues work for its nodes as rows of one table; hostd claims a
row, works on it under a lease and reports the outcome. This module embeds the
operations of `AssignmentRepository` on that table.
-/

namespace Naim.Assignments

open List Rows

inductive HostAssignmentStatus
  | pending | claimed | applied | failed | superseded
  deriving DecidableEq

structure HostAssignment where
  id : ℕ := 0
  (nodeName planeName : String := "")
  (desiredGeneration attemptCount : ℤ := 0)
  maxAttempts : ℤ := 3
  (assignmentType desiredStateJson artifactsRoot : String := "")
  status : HostAssignmentStatus := .pending
  statusMessage : String := ""
  progressJson : String := "\x7b\x7d"
  deriving DecidableEq

/-- A row: the assignment and its `updated_at` column, in seconds. -/
structure Row extends HostAssignment where
  updatedAt : ℤ
  deriving DecidableEq

structure Table where
  rows : List Row := []
  nextId : ℕ := 1
  deriving DecidableEq

variable (now : ℤ) (t : Table) (id : ℕ) (a : HostAssignment)

def HostAssignment.isLive : Bool := a.status = .pending || a.status = .claimed

def Table.update (p : Row → Bool) (f : Row → Row) : Table :=
  {t with rows := updateWhere p f t.rows}

def supersede (message : String) (r : Row) : Row :=
  {r with status := .superseded, statusMessage := message, updatedAt := now}

def newRow : Row :=
  {a with
    id
    progressJson := if a.progressJson = "" then "\x7b\x7d" else a.progressJson
    updatedAt := now}

@[simp] lemma newRow_id : (newRow now id a).id = id := rfl
@[simp] lemma newRow_nodeName : (newRow now id a).nodeName = a.nodeName := rfl
@[simp] lemma newRow_status : (newRow now id a).status = a.status := rfl
@[simp] lemma newRow_statusMessage : (newRow now id a).statusMessage = a.statusMessage := rfl

def insertAssignment : Table where
  rows := t.rows ++ [newRow now t.nextId a]
  nextId := t.nextId + 1

def replaceHostAssignments : List HostAssignment → Table
  | [] => t
  | front::rest =>
    let message := "superseded by desired generation " ++ toString front.desiredGeneration
    (front::rest).foldl (insertAssignment now)
      (t.update (fun r => r.planeName = front.planeName && r.isLive) (supersede now message))

def enqueueOne (supersedeReason : String) (t : Table) (a : HostAssignment) : Table :=
  let message := if supersedeReason = "" then
      "superseded by manual resync for desired generation " ++ toString a.desiredGeneration
    else supersedeReason
  insertAssignment now
    (t.update (fun r => r.planeName = a.planeName && r.nodeName = a.nodeName && r.isLive)
      (supersede now message)) a

def enqueueHostAssignments (assignments : List HostAssignment) (supersedeReason : String) : Table :=
  assignments.foldl (enqueueOne now supersedeReason) t

def supersedeHostAssignmentsForPlane (planeName message : String) : Table :=
  t.update (fun r => r.planeName = planeName && r.isLive) (supersede now message)

def loadHostAssignment : Option HostAssignment := (t.rows.find? (·.id = id)).map Row.toHostAssignment

def loadHostAssignments (nodeName : Option String) (status : Option HostAssignmentStatus)
    (planeName : Option String) : List HostAssignment :=
  (t.rows.filter fun r => nodeName.all (r.nodeName = ·) && status.all (r.status = ·) &&
    planeName.all (r.planeName = ·)).map Row.toHostAssignment

/-- A claimed row whose lease of 60 seconds ran out goes back to the queue, or
fails when its attempts are used up. -/
def expireLease (r : Row) : Row :=
  if r.attemptCount ≥ r.maxAttempts then
    {r with
      status := .failed, statusMessage := "claimed assignment lease expired after exhausted attempts"
      updatedAt := now}
  else
    {r with
      status := .pending, statusMessage := "claimed assignment lease expired; retrying", updatedAt := now}

def expireProxyRequest (r : Row) : Row :=
  {r with
    status := .failed, statusMessage := "runtime HTTP proxy request expired before hostd claimed it"
    updatedAt := now}

/-- `text LIKE 'pattern%'`; `LIKE` ignores the case of ASCII letters. -/
def likeStart (pattern text : String) : Bool :=
  (pattern.toList.map Char.toLower).isPrefixOf (text.toList.map Char.toLower)

def claimPriority (r : Row) : ℕ :=
  if r.assignmentType ≠ "runtime-http-proxy" then 0
  else if likeStart "runtime-http-proxy:webgateway:" r.planeName then 30
  else if likeStart "runtime-http-proxy:skills:" r.planeName then 20
  else if likeStart "runtime-http-proxy:knowledge-vault:" r.planeName then 20
  else 10

def claimedProgress : String :=
  "\x7b\"phase\":\"queued\",\"title\":\"Assignment claimed\",\"detail\":" ++
    "\"Hostd accepted the assignment and is starting work.\",\"percent\":5\x7d"

def claimRow (r : Row) : Row :=
  {r with
    status := .claimed, statusMessage := "", progressJson := claimedProgress, attemptCount := r.attemptCount + 1
    updatedAt := now}

def expire (nodeName : String) : Table :=
  (t.update (fun r => r.nodeName = nodeName && r.status = .claimed && r.updatedAt ≤ now - 60)
      (expireLease now)).update
    (fun r => r.nodeName = nodeName && r.assignmentType = "runtime-http-proxy" &&
      r.status = .pending && r.updatedAt ≤ now - 45) (expireProxyRequest now)

def nextClaim (nodeName : String) : Option Row :=
  selectFirst (fun r => r.nodeName = nodeName && r.status = .pending && r.attemptCount < r.maxAttempts)
    (fun r => toLex (claimPriority r,r.id)) t.rows

/-- The assignment handed out keeps the message that the row had before the claim. -/
def handOut : HostAssignment :=
  {a with
    status := .claimed, attemptCount := a.attemptCount + 1, progressJson := claimedProgress}

def claimNextHostAssignment (nodeName : String) : Table × Option HostAssignment :=
  let t := expire now t nodeName
  match nextClaim t nodeName with
  | none => (t,none)
  | some r =>
    (t.update (fun r' => r'.id = r.id && r'.status = .pending) (claimRow now),
      some (handOut r.toHostAssignment))

def updateHostAssignmentProgress (progressJson : String) : Table :=
  t.update (fun r => r.id = id && r.status = .claimed) fun r =>
    {r with progressJson := if progressJson = "" then "\x7b\x7d" else progressJson, updatedAt := now}

def transitionClaimedHostAssignment (status : HostAssignmentStatus) (message : String) : Table :=
  t.update (fun r => r.id = id && r.status = .claimed) fun r =>
    {r with status, statusMessage := message, updatedAt := now}

def retryFailedHostAssignment (message : String) : Table :=
  t.update (fun r => r.id = id && r.status = .failed) fun r =>
    {r with
      status := .pending, statusMessage := message
      maxAttempts := if r.maxAttempts < r.attemptCount + 1 then r.attemptCount + 1 else r.maxAttempts
      updatedAt := now}

/-- The statements that reach the table, each run at its own time. -/
inductive Operation
  | replace (assignments : List HostAssignment)
  | enqueue (assignments : List HostAssignment) (supersedeReason : String)
  | supersedePlane (planeName message : String)
  | claimNext (nodeName : String)
  | progress (id : ℕ) (progressJson : String)
  | transitionClaimed (id : ℕ) (status : HostAssignmentStatus) (message : String)
  | retryFailed (id : ℕ) (message : String)
  deriving DecidableEq

def apply : ℤ × Operation → Table
  | (now,.replace assignments) => replaceHostAssignments now t assignments
  | (now,.enqueue assignments reason) => enqueueHostAssignments now t assignments reason
  | (now,.supersedePlane planeName message) => supersedeHostAssignmentsForPlane now t planeName message
  | (now,.claimNext nodeName) => (claimNextHostAssignment now t nodeName).1
  | (now,.progress id progressJson) => updateHostAssignmentProgress now t id progressJson
  | (now,.transitionClaimed id status message) => transitionClaimedHostAssignment now t id status message
  | (now,.retryFailed id message) => retryFailedHostAssignment now t id message

/-- The autoincremented ids are a key and lie below the next one. -/
structure Keyed (t : Table) : Prop where
  nodup : (t.rows.map (·.id)).Nodup
  lt : ∀ r ∈ t.rows, r.id < t.nextId

lemma keyed_empty : Keyed {} := ⟨nodup_nil,by simp⟩

variable {t : Table} {p : Row → Bool} {f : Row → Row} {r : Row} {now : ℤ} {reason nodeName : String}
  {l : List HostAssignment}

lemma Keyed.update (h : Keyed t) (hf : ∀ r, (f r).id = r.id) :
    Keyed (t.update p f) where
  nodup := by
    rw [Table.update,map_updateWhere hf]
    exact h.nodup
  lt r hr := by
    obtain ⟨a,ha,rfl⟩ := mem_updateWhere.1 hr
    have := h.lt a ha
    split <;> simp [Table.update,hf,this]

lemma Keyed.supersede (h : Keyed t) (p : Row → Bool) (now : ℤ) (message : String) :
    Keyed (t.update p (supersede now message)) := h.update fun _ => rfl

lemma Keyed.insertAssignment (h : Keyed t) (now : ℤ) (a : HostAssignment) :
    Keyed (insertAssignment now t a) where
  nodup := by
    simp only [Assignments.insertAssignment,map_append,map_cons,map_nil]
    refine nodup_append.2 ⟨h.nodup,by simp,?_⟩
    rintro x hx y hy rfl
    obtain ⟨r,hr,rfl⟩ := mem_map.1 hx
    have := h.lt r hr
    simp at hy
    omega
  lt r hr := by
    rcases mem_append.1 hr with hr | hr
    · exact (h.lt r hr).trans (Nat.lt_succ_self _)
    · obtain rfl := mem_singleton.1 hr
      exact Nat.lt_succ_self _

lemma Keyed.foldl_insert (now : ℤ) (l : List HostAssignment) :
    ∀ {t : Table}, Keyed t → Keyed (l.foldl (Assignments.insertAssignment now) t) := by
  induction l with
  | nil => exact id
  | cons a l ih => exact fun h => ih (h.insertAssignment now a)

lemma Keyed.enqueue (now : ℤ) (reason : String) (l : List HostAssignment) :
    ∀ {t : Table}, Keyed t → Keyed (enqueueHostAssignments now t l reason) := by
  induction l with
  | nil => exact id
  | cons a l ih => exact fun h => ih ((h.supersede _ now _).insertAssignment now a)

lemma Keyed.expire (h : Keyed t) (now : ℤ) (nodeName : String) : Keyed (expire now t nodeName) := by
  refine (h.update fun r => ?_).update fun _ => rfl
  unfold expireLease
  split <;> rfl

lemma Keyed.claimNext (h : Keyed t) (now : ℤ) (nodeName : String) :
    Keyed (claimNextHostAssignment now t nodeName).1 := by
  unfold claimNextHostAssignment
  dsimp only
  split
  · exact h.expire now nodeName
  · exact (h.expire now nodeName).update fun _ => rfl

lemma Keyed.apply (h : Keyed t) (op : ℤ × Operation) : Keyed (apply t op) := by
  rcases op with ⟨now,_ | _ | _ | _ | _ | _ | _⟩
  case replace l =>
    cases l with
    | nil => exact h
    | cons front rest => exact Keyed.foldl_insert now _ (h.supersede _ now _)
  case enqueue l reason => exact h.enqueue now reason l
  case claimNext nodeName => exact h.claimNext now nodeName
  all_goals exact h.update fun _ => rfl

lemma mem_update_of_not (hr : r ∈ t.rows) (hp : p r = false) : r ∈ (t.update p f).rows :=
  mem_updateWhere.2 ⟨r,hr,by simp [hp]⟩

def Displaces (r : Row) : Prop := r.planeName = a.planeName ∧ r.nodeName = a.nodeName ∧ r.isLive

lemma mem_enqueue (hl : ∀ a ∈ l, ¬ Displaces a r) :
    ∀ {t : Table}, r ∈ t.rows → r ∈ (enqueueHostAssignments now t l reason).rows := by
  induction l with
  | nil => exact id
  | cons a l ih =>
    intro t hr
    refine ih (fun b hb => hl b (by simp [hb])) (mem_append_left _ (mem_update_of_not hr ?_))
    simpa [Displaces,and_assoc] using hl a (by simp)

theorem mem_enqueue_cases :
    ∀ {t : Table}, r ∈ (enqueueHostAssignments now t l reason).rows →
      r ∈ t.rows ∨ r.status = .superseded ∨
        ∃ a ∈ l, r.nodeName = a.nodeName ∧ r.status = a.status ∧ r.statusMessage = a.statusMessage := by
  induction l with
  | nil => exact .inl
  | cons a l ih =>
    intro t hr
    rcases ih hr with hr | hr | ⟨b,hb,h⟩
    · rcases mem_append.1 hr with hr | hr
      · obtain ⟨r₀,hr₀,rfl⟩ := mem_updateWhere.1 hr
        split
        · exact .inr (.inl rfl)
        · exact .inl hr₀
      · obtain rfl := mem_singleton.1 hr
        exact .inr (.inr ⟨a,by simp⟩)
    · exact .inr (.inl hr)
    · exact .inr (.inr ⟨b,by simp [hb],h⟩)

theorem exists_enqueue (hl : (l.map (·.nodeName)).Nodup) {a : HostAssignment} (ha : a ∈ l) :
    ∀ {t : Table}, ∃ r ∈ (enqueueHostAssignments now t l reason).rows, r.nodeName = a.nodeName ∧
      r.assignmentType = a.assignmentType ∧ r.status = a.status ∧ r.statusMessage = a.statusMessage := by
  induction l with
  | nil => simp at ha
  | cons b l ih =>
    intro t
    obtain ⟨hb,hl⟩ := nodup_cons.1 hl
    rcases mem_cons.1 ha with rfl | ha
    · have hnew : newRow now t.nextId a ∈ (enqueueOne now reason t a).rows :=
        mem_append_right _ (mem_singleton_self _)
      have hkeep : newRow now t.nextId a ∈ (enqueueHostAssignments now t (a::l) reason).rows :=
        mem_enqueue (fun c hc h => hb (mem_map.2 ⟨c,hc,h.2.1.symm⟩)) hnew
      exact ⟨_,hkeep,rfl,rfl,rfl,rfl⟩
    · exact ih hl ha

lemma claimNext_snd :
    (claimNextHostAssignment now t nodeName).2 =
      (nextClaim (expire now t nodeName) nodeName).map fun r => handOut r.toHostAssignment := by
  unfold claimNextHostAssignment
  dsimp only
  split <;> simp [*]

lemma mem_claimNext (hr : r ∈ t.rows)
    (hlease : ¬ (r.nodeName = nodeName ∧ r.status = .claimed ∧ r.updatedAt ≤ now - 60))
    (hproxy : r.assignmentType ≠ "runtime-http-proxy")
    (hid : ∀ c, (claimNextHostAssignment now t nodeName).2 = some c → c.id ≠ r.id) :
    r ∈ (claimNextHostAssignment now t nodeName).1.rows := by
  have hexpire : r ∈ (expire now t nodeName).rows := by
    refine mem_update_of_not (mem_update_of_not hr ?_) ?_
    · simpa [and_assoc] using hlease
    · simp [hproxy]
  rw [claimNext_snd] at hid
  unfold claimNextHostAssignment
  dsimp only
  split
  · exact hexpire
  next c hc =>
    have hne : c.id ≠ r.id := hid (handOut c.toHostAssignment) (by rw [hc]; rfl)
    exact mem_update_of_not hexpire (by simp [hne.symm])

def liveAt (planeName nodeName : String) (r : Row) : Bool :=
  r.planeName = planeName && r.nodeName = nodeName && r.isLive

def OneLive (t : Table) : Prop := ∀ planeName nodeName, t.rows.countP (liveAt planeName nodeName) ≤ 1

/-- Callers pass `ReplaceHostAssignments` the assignments of one plane, and both it and
`EnqueueHostAssignments` at most one assignment for each node. -/
def Operation.Admissible : Operation → Prop
  | .replace assignments =>
    (∃ planeName, ∀ a ∈ assignments, a.planeName = planeName) ∧ (assignments.map (·.nodeName)).Nodup
  | .enqueue assignments _ => (assignments.map (·.nodeName)).Nodup
  | _ => True

/-- A retry revives a failed row only where its plane has no live row on its node. -/
def RetryClear (t : Table) : ℤ × Operation → Prop
  | (_,.retryFailed id _) => ∀ r ∈ t.rows, r.id = id → r.status = .failed →
      t.rows.countP (liveAt r.planeName r.nodeName) = 0
  | _ => True

lemma OneLive.update (h : OneLive t)
    (hf : ∀ planeName nodeName r, p r → liveAt planeName nodeName (f r) → liveAt planeName nodeName r) :
    OneLive (t.update p f) :=
  fun planeName nodeName =>
    (countP_updateWhere_le fun r _ => hf planeName nodeName r).trans (h planeName nodeName)

lemma liveAt_supersede (planeName nodeName : String) (now : ℤ) (message : String) (r : Row) :
    liveAt planeName nodeName (supersede now message r) = false := by
  simp [liveAt,supersede,HostAssignment.isLive]

lemma OneLive.supersede (h : OneLive t) (p : Row → Bool) (now : ℤ) (message : String) :
    OneLive (t.update p (supersede now message)) :=
  h.update fun planeName nodeName r _ hr => by simp [liveAt_supersede] at hr

lemma countP_insertAssignment (t : Table) (now : ℤ) (a : HostAssignment) (planeName nodeName : String) :
    (insertAssignment now t a).rows.countP (liveAt planeName nodeName) =
      t.rows.countP (liveAt planeName nodeName) +
        if a.planeName = planeName ∧ a.nodeName = nodeName ∧ a.isLive then 1 else 0 := by
  have hlive : liveAt planeName nodeName (newRow now t.nextId a) =
      (decide (a.planeName = planeName) && decide (a.nodeName = nodeName) && a.isLive) := rfl
  simp [insertAssignment,countP_append,countP_singleton,hlive,and_assoc]

lemma countP_foldl_insert_le (now : ℤ) (l : List HostAssignment) (t : Table) (planeName nodeName : String) :
    (l.foldl (insertAssignment now) t).rows.countP (liveAt planeName nodeName) ≤
      t.rows.countP (liveAt planeName nodeName) +
        l.countP fun a => a.planeName = planeName ∧ a.nodeName = nodeName := by
  induction l generalizing t with
  | nil => simp
  | cons a l ih =>
    refine (ih _).trans ?_
    rw [countP_insertAssignment,countP_cons]
    have : (if a.planeName = planeName ∧ a.nodeName = nodeName ∧ a.isLive then 1 else 0) ≤
        if decide (a.planeName = planeName ∧ a.nodeName = nodeName) then 1 else 0 := by
      split <;> simp_all
    omega

lemma OneLive.replace (h : OneLive t) (now : ℤ) (hl : (Operation.replace l).Admissible) :
    OneLive (replaceHostAssignments now t l) := by
  cases l with
  | nil => exact h
  | cons front rest =>
    intro planeName nodeName
    obtain ⟨⟨plane,hplane⟩,hnodes⟩ := hl
    refine (countP_foldl_insert_le now _ _ planeName nodeName).trans ?_
    by_cases hp : front.planeName = planeName
    · -- the plane's live rows are superseded first, and each node gets at most one new row
      have hzero : (updateWhere (fun r => r.planeName = front.planeName && r.isLive)
          (Assignments.supersede now ("superseded by desired generation " ++ toString front.desiredGeneration))
          t.rows).countP (liveAt planeName nodeName) = 0 :=
        countP_updateWhere_eq_zero (fun r _ _ => by simp [liveAt_supersede])
          fun r _ hr => by simp_all [liveAt]
      have hone := countP_key_le_one (p := fun a : HostAssignment =>
        decide (a.planeName = planeName ∧ a.nodeName = nodeName)) hnodes nodeName (by simp)
      simp only [Table.update]
      omega
    · have hnone : (front::rest).countP (fun a => a.planeName = planeName ∧ a.nodeName = nodeName) = 0 := by
        rw [countP_eq_zero]
        rintro a ha
        have ha := hplane a ha
        simp_all
      have := h.supersede (fun r => r.planeName = front.planeName && r.isLive) now
        ("superseded by desired generation " ++ toString front.desiredGeneration) planeName nodeName
      omega

lemma OneLive.enqueueOne (h : OneLive t) (now : ℤ) (reason : String) (a : HostAssignment) :
    OneLive (enqueueOne now reason t a) := by
  intro planeName nodeName
  unfold Assignments.enqueueOne
  rw [countP_insertAssignment]
  by_cases ha : a.planeName = planeName ∧ a.nodeName = nodeName ∧ a.isLive
  · obtain ⟨rfl,rfl,hlive⟩ := ha
    rw [Table.update,countP_updateWhere_eq_zero (fun r _ _ => by simp [liveAt_supersede])
      fun r _ hr => by simpa [liveAt] using hr]
    simp [hlive]
  · rw [if_neg ha,Nat.add_zero]
    exact h.supersede _ now _ planeName nodeName

lemma OneLive.enqueue (now : ℤ) (reason : String) (l : List HostAssignment) :
    ∀ {t : Table}, OneLive t → OneLive (enqueueHostAssignments now t l reason) := by
  induction l with
  | nil => exact id
  | cons a l ih => exact fun h => ih (h.enqueueOne now reason a)

lemma OneLive.update_live (h : OneLive t) (hp : ∀ r, p r → r.isLive) (hplane : ∀ r, (f r).planeName = r.planeName)
    (hnode : ∀ r, (f r).nodeName = r.nodeName) : OneLive (t.update p f) :=
  h.update fun planeName nodeName r hr hlive => by
    simp only [liveAt,hplane,hnode,Bool.and_eq_true] at hlive ⊢
    exact ⟨hlive.1,hp r hr⟩

lemma OneLive.expire (h : OneLive t) (now : ℤ) (nodeName : String) : OneLive (expire now t nodeName) := by
  refine OneLive.update_live (OneLive.update_live h ?_ ?_ ?_) ?_ (fun _ => rfl) fun _ => rfl
  · intro r hr
    simp_all [HostAssignment.isLive]
  · intro r
    unfold expireLease
    split <;> rfl
  · intro r
    unfold expireLease
    split <;> rfl
  · intro r hr
    simp_all [HostAssignment.isLive]

lemma OneLive.claimNext (h : OneLive t) (now : ℤ) (nodeName : String) :
    OneLive (claimNextHostAssignment now t nodeName).1 := by
  unfold claimNextHostAssignment
  dsimp only
  split
  · exact h.expire now nodeName
  · exact (h.expire now nodeName).update_live (fun r hr => by simp_all [HostAssignment.isLive])
      (fun _ => rfl) fun _ => rfl

lemma OneLive.transitionClaimed (h : OneLive t) (now : ℤ) (id : ℕ) (status : HostAssignmentStatus)
    (message : String) : OneLive (transitionClaimedHostAssignment now t id status message) :=
  h.update_live (fun r hr => by simp_all [HostAssignment.isLive]) (fun _ => rfl) fun _ => rfl

lemma retryFailed_oneLive_iff (h : OneLive t) (hkey : Keyed t) (now : ℤ) (id : ℕ) (message : String) :
    OneLive (retryFailedHostAssignment now t id message) ↔ RetryClear t (now,.retryFailed id message) := by
  constructor
  · intro hlive r hr hid hstatus
    have hlt : t.rows.countP (liveAt r.planeName r.nodeName) <
        (retryFailedHostAssignment now t id message).rows.countP (liveAt r.planeName r.nodeName) := by
      refine countP_updateWhere_lt (fun a _ hq hp => ?_) ⟨r,hr,?_,?_,?_⟩
      · simp_all [liveAt,HostAssignment.isLive]
      · simp [hid,hstatus]
      · simp [liveAt,HostAssignment.isLive,hstatus]
      · simp [liveAt,HostAssignment.isLive]
    have := hlive r.planeName r.nodeName
    omega
  · intro hclear planeName nodeName
    by_cases hex : ∃ r ∈ t.rows, r.id = id ∧ r.status = .failed ∧ r.planeName = planeName ∧
        r.nodeName = nodeName
    · obtain ⟨r,hr,hid,hstatus,rfl,rfl⟩ := hex
      have hzero := hclear r hr hid hstatus
      have hkeyId : t.rows.countP (fun r => r.id = id && r.status = .failed) ≤ 1 :=
        countP_key_le_one hkey.nodup id fun r hr => by simp_all
      have := countP_updateWhere_le_succ (q := liveAt r.planeName r.nodeName) (f := fun r =>
        {r with
          status := .pending, statusMessage := message
          maxAttempts := if r.maxAttempts < r.attemptCount + 1 then r.attemptCount + 1 else r.maxAttempts
          updatedAt := now}) hkeyId
      simp only [retryFailedHostAssignment,Table.update]
      omega
    · refine (countP_updateWhere_le fun r hr hp hq => ?_).trans (h planeName nodeName)
      simp only [liveAt,Bool.and_eq_true,decide_eq_true_eq] at hp hq
      exact absurd ⟨r,hr,hp.1,hp.2,hq.1.1,hq.1.2⟩ hex

/-- Every operation but a retry keeps the property, and a retry keeps it exactly when it is clear. -/
lemma apply_oneLive_iff (h : OneLive t) (hkey : Keyed t) (op : ℤ × Operation) (hop : op.2.Admissible) :
    OneLive (apply t op) ↔ RetryClear t op := by
  rcases op with ⟨now,_ | _ | _ | _ | _ | _ | _⟩
  case retryFailed id message => exact retryFailed_oneLive_iff h hkey now id message
  all_goals refine iff_of_true ?_ trivial
  case replace l => exact h.replace now hop
  case enqueue l reason => exact OneLive.enqueue now reason l h
  case supersedePlane planeName message => exact h.supersede _ now message
  case claimNext nodeName => exact h.claimNext now nodeName
  case progress id progressJson =>
    exact h.update_live (fun r hr => by simp_all [HostAssignment.isLive]) (fun _ => rfl) fun _ => rfl
  case transitionClaimed id status message => exact h.transitionClaimed now id status message

/-- From the empty table, every plane keeps at most one live assignment on every node
exactly when each retry revives a row beside no live one. -/
theorem oneLive_run_iff (ops : List (ℤ × Operation)) (hops : ∀ op ∈ ops, op.2.Admissible) :
    (∀ n, OneLive (Runs.run apply {} (ops.take n))) ↔ Runs.Guarded apply RetryClear {} ops :=
  @Runs.invariant_iff_guarded _ _ apply RetryClear OneLive Keyed (·.2.Admissible)
    (fun _ op hkey _ => hkey.apply op) (fun _ op hkey hop h => apply_oneLive_iff h hkey op hop)
    ops {} hops keyed_empty fun _ _ => by simp

/-- An assignment of the plane's first generation uses up its attempts; a resync queues a
second one for the same node, and the first is then retried. -/
def revivedHistory : List (ℤ × Operation) :=
  let apply : HostAssignment :=
    {nodeName := "node-a", planeName := "alpha", desiredGeneration := 1, assignmentType := "apply-node-state"}
  [(0,.enqueue [apply] ""),
   (1,.claimNext "node-a"),(2,.transitionClaimed 1 .pending "attempt 1/3 failed: no disk"),
   (3,.claimNext "node-a"),(4,.transitionClaimed 1 .pending "attempt 2/3 failed: no disk"),
   (5,.claimNext "node-a"),(6,.transitionClaimed 1 .failed "attempt 3/3 exhausted: no disk"),
   (7,.enqueue [apply] ""),
   (8,.retryFailed 1 "requeued by operator for desired generation 1")]

theorem revivedHistory_two_live :
    (∀ op ∈ revivedHistory, op.2.Admissible) ∧ ¬ OneLive (Runs.run apply {} revivedHistory) := by
  constructor
  · simp [revivedHistory,Operation.Admissible]
  · intro h
    have : ¬ (Runs.run apply {} revivedHistory).rows.countP (liveAt "alpha" "node-a") ≤ 1 := by
      decide +kernel
    exact this (h "alpha" "node-a")

/-- Without the resync the same retry meets no live row, and every state has at most one. -/
theorem oneLive_run_without_resync :
    (∀ op ∈ revivedHistory.eraseIdx 7, op.2.Admissible) ∧
      ∀ n, OneLive (Runs.run apply {} ((revivedHistory.eraseIdx 7).take n)) := by
  have hadm : ∀ op ∈ revivedHistory.eraseIdx 7, op.2.Admissible := by
    simp [revivedHistory,Operation.Admissible]
  have hclear : ∀ r ∈ (Runs.run apply {} (revivedHistory.take 7)).rows, r.id = 1 → r.status = .failed →
      (Runs.run apply {} (revivedHistory.take 7)).rows.countP (liveAt r.planeName r.nodeName) = 0 := by
    decide +kernel
  exact ⟨hadm,(oneLive_run_iff _ hadm).2
    ⟨trivial,trivial,trivial,trivial,trivial,trivial,trivial,hclear,trivial⟩⟩

end Naim.Assignments
