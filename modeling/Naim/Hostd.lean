import Naim.SchedulerExecution
import Naim.Text
import Mathlib.Data.List.DropRight

/-!
# Assignments on the host

How hostd reads the status message of the assignment that it claimed, and the
status and message that it reports back after an attempt.
-/

namespace Naim.Hostd

open Assignments Rows Text

def trim (value : String) : String := String.ofList ((value.toList.dropWhile isSpace).rdropWhile isSpace)

def notBlank (c : Char) : Bool := c ≠ ' '

/-- The value behind the first `key=` in the text, up to the next blank. -/
def parseTaggedValue (text key : String) : Option String :=
  (Text.afterFirst (key ++ "=").toList text.toList).map fun rest =>
    String.ofList (rest.takeWhile notBlank)

/-- The non-empty items between commas; an empty last one is dropped like the others. -/
def csvItems (value : String) : List String :=
  ((value.toList.splitOn ',').map fun item => trim (String.ofList item)).filter (· ≠ "")

def parseTaggedCsv (text key : String) : List String :=
  match parseTaggedValue text key with
  | none => []
  | some value => csvItems value

section

variable (a : HostAssignment)

def assignmentContext : String :=
  if a.statusMessage = "" then "" else " [" ++ a.statusMessage ++ "]"

def attemptText : String := toString a.attemptCount ++ "/" ++ toString a.maxAttempts

/-- The report after an attempt that threw; the attempts decide whether it is requeued. -/
def failureReport (error : String) : HostAssignmentStatus × String :=
  if a.attemptCount < a.maxAttempts then
    (.pending,"attempt " ++ attemptText a ++ " failed: " ++ error ++ assignmentContext a)
  else (.failed,"attempt " ++ attemptText a ++ " exhausted: " ++ error ++ assignmentContext a)

def appliedReport : HostAssignmentStatus × String :=
  let done :=
    if a.assignmentType = "drain-node-state" then "drained node for desired generation "
    else if a.assignmentType = "stop-plane-state" then "stopped plane state for desired generation "
    else if a.assignmentType = "evict-workers" then "evicted rollout workers for desired generation "
    else "applied desired generation "
  (.applied,done ++ toString a.desiredGeneration ++ assignmentContext a ++ " on attempt " ++ attemptText a)

def failAttempt (error : String) : HostAssignment :=
  {handOut a with
    status := (failureReport (handOut a) error).1, statusMessage := (failureReport (handOut a) error).2}

def afterFailures (errors : List String) : HostAssignment := errors.foldl failAttempt a

end

def failedAttempt (nodeName : String) (t : Table) : ℤ × String → Table
  | (now,error) =>
    match claimNextHostAssignment now t nodeName with
    | (t,none) => t
    | (t,some a) =>
      transitionClaimedHostAssignment now t a.id (failureReport a error).1 (failureReport a error).2

/-- The row is pending, and every other pending or claimed row of its node comes after it in
the order in which they are claimed. -/
structure Foremost (t : Table) (r : Row) : Prop where
  mem : r ∈ t.rows
  pending : r.status = .pending
  first : ∀ r' ∈ t.rows, r'.nodeName = r.nodeName → r'.isLive →
    r' = r ∨ toLex (claimPriority r,r.id) < toLex (claimPriority r',r'.id)

/-- A pending row is not expired: only proxy requests wait for less than 45 seconds. -/
def Prompt (assignmentType : String) (before now : ℤ) : Prop :=
  assignmentType = "runtime-http-proxy" → now < before + 45

variable {t : Table} {r : Row} {now : ℤ}

lemma claimPriority_expireLease (now : ℤ) (r : Row) : claimPriority (expireLease now r) = claimPriority r := by
  unfold expireLease
  split <;> rfl

lemma id_expireLease (now : ℤ) (r : Row) : (expireLease now r).id = r.id := by
  unfold expireLease
  split <;> rfl

lemma nodeName_expireLease (now : ℤ) (r : Row) : (expireLease now r).nodeName = r.nodeName := by
  unfold expireLease
  split <;> rfl

lemma Foremost.expire (h : Foremost t r) (hprompt : Prompt r.assignmentType r.updatedAt now) :
    Foremost (expire now t r.nodeName) r where
  mem := by
    have hstays : ¬ (r.assignmentType = "runtime-http-proxy" ∧ r.updatedAt ≤ now - 45) := by
      rintro ⟨hproxy,hlate⟩
      have := hprompt hproxy
      omega
    refine mem_updateWhere.2 ⟨r,mem_updateWhere.2 ⟨r,h.mem,by simp [h.pending]⟩,if_neg ?_⟩
    simpa [h.pending] using hstays
  pending := h.pending
  first r' hr' hnode hlive := by
    obtain ⟨r₁,hr₁,rfl⟩ := mem_updateWhere.1 hr'
    split at hlive
    · simp [HostAssignment.isLive,expireProxyRequest] at hlive
    rw [if_neg ‹_›] at hnode ⊢
    obtain ⟨r₀,hr₀,rfl⟩ := mem_updateWhere.1 hr₁
    split
    next hlease =>
      rw [if_pos hlease,nodeName_expireLease] at hnode
      simp only [Bool.and_eq_true,decide_eq_true_eq] at hlease
      have hlive₀ : r₀.isLive := by simp [HostAssignment.isLive,hlease.1.2]
      rcases h.first r₀ hr₀ hnode hlive₀ with rfl | hlt
      · simp [h.pending] at hlease
      · rw [claimPriority_expireLease,id_expireLease]
        exact .inr hlt
    next hlease =>
      rw [if_neg hlease] at hnode hlive
      exact h.first r₀ hr₀ hnode hlive

lemma Foremost.nextClaim (h : Foremost t r) (hlt : r.attemptCount < r.maxAttempts) :
    nextClaim t r.nodeName = some r := by
  refine selectFirst_eq_some h.mem (by simp [h.pending,hlt]) fun r' hr' hp => ?_
  simp only [Bool.and_eq_true,decide_eq_true_eq] at hp
  exact h.first r' hr' hp.1.1 (by simp [HostAssignment.isLive,hp.1.2])

def failedRow (now : ℤ) (error : String) (r : Row) : Row :=
  {failAttempt r.toHostAssignment error with updatedAt := now}

lemma failedAttempt_rows (hkey : Keyed t) (h : Foremost t r) (hlt : r.attemptCount < r.maxAttempts)
    (hprompt : Prompt r.assignmentType r.updatedAt now) (error : String) :
    (failedAttempt r.nodeName t (now,error)).rows =
      updateWhere (·.id = r.id) (fun _ => failedRow now error r) (Assignments.expire now t r.nodeName).rows := by
  have hexpire := h.expire hprompt
  rw [failedAttempt,claimNextHostAssignment]
  simp only [hexpire.nextClaim hlt,transitionClaimedHostAssignment,Table.update,updateWhere,List.map_map]
  refine List.map_congr_left fun r' hr' => ?_
  by_cases hid : r'.id = r.id
  · obtain rfl := List.inj_on_of_nodup_map (hkey.expire now r.nodeName).nodup hr' hexpire.mem hid
    simp [h.pending,claimRow,handOut,failedRow,failAttempt]
  · simp [hid,handOut]

lemma keyed_failedAttempt (hkey : Keyed t) (nodeName : String) (attempt : ℤ × String) :
    Keyed (failedAttempt nodeName t attempt) := by
  obtain ⟨now,error⟩ := attempt
  have hclaim := hkey.claimNext now nodeName
  rw [failedAttempt]
  generalize claimNextHostAssignment now t nodeName = claim at hclaim
  obtain ⟨t',_ | a⟩ := claim
  · exact hclaim
  · exact hclaim.update fun _ => rfl

lemma Foremost.failedAttempt (hkey : Keyed t) (h : Foremost t r) (hlt : r.attemptCount + 1 < r.maxAttempts)
    (hprompt : Prompt r.assignmentType r.updatedAt now) (error : String) :
    Foremost (failedAttempt r.nodeName t (now,error)) (failedRow now error r) := by
  have hexpire := h.expire hprompt
  have hrows := failedAttempt_rows hkey h (by omega) hprompt error
  refine ⟨?_,by simp [failedRow,failAttempt,failureReport,handOut,hlt],fun r' hr' hnode hlive => ?_⟩
  · rw [hrows]
    exact mem_updateWhere.2 ⟨r,hexpire.mem,by simp⟩
  · rw [hrows] at hr'
    obtain ⟨r₀,hr₀,rfl⟩ := mem_updateWhere.1 hr'
    by_cases hid : r₀.id = r.id
    · simp [hid]
    · simp only [hid,decide_false,Bool.false_eq_true,if_false] at hnode hlive ⊢
      rcases hexpire.first r₀ hr₀ hnode hlive with rfl | hbefore
      · exact absurd rfl hid
      · exact .inr hbefore

/-- A proxy request of a later plane and a row with an expired lease wait behind the assignment;
an older one is for another node. -/
def busyTable : Table where
  rows :=
    [{id := 2, nodeName := "node-b", updatedAt := 0},
      {id := 4, nodeName := "node-a", planeName := "alpha", desiredGeneration := 3, attemptCount := 1,
        maxAttempts := 5, assignmentType := "evict-workers", statusMessage := "evict worker-b", updatedAt := 10},
      {id := 5, nodeName := "node-a", planeName := "beta", status := .claimed, attemptCount := 1, updatedAt := 20},
      {id := 3, nodeName := "node-a", planeName := "runtime-http-proxy:skills:alpha",
        assignmentType := "runtime-http-proxy", updatedAt := 30}]
  nextId := 6

end Naim.Hostd
