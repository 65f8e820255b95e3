import Naim.AttemptBudget
import Naim.HostdSteps
import Mathlib.Algebra.Order.BigOperators.Group.List

/-!
# What a host reaches of the assignments

A request that is accepted as one host reaches the assignments through a poll for
work and through its reports. Reports are matched with the node of the assignment;
a poll claims for whatever node its body names.
-/

namespace Naim.HostIsolation

open Assignments HostdHttp List Program Rows
open Bool hiding and_assoc not_not not_or

variable {t t' t'' : Table} {now : ℤ} {nodeName h : String}

/-- The two tables have the same rows of the other nodes. -/
def Confined (nodeName : String) (t t' : Table) : Prop :=
  t'.rows.filter (·.nodeName ≠ nodeName) = t.rows.filter (·.nodeName ≠ nodeName)

lemma Confined.trans (h₁ : Confined nodeName t t') (h₂ : Confined nodeName t' t'') : Confined nodeName t t'' :=
  Eq.trans h₂ h₁

variable {p : Row → Bool} {f : Row → Row} {a : HostAssignment} {r : Row} {id : ℕ} {later : List ℤ}

lemma confined_update (hp : ∀ r ∈ t.rows, p r → r.nodeName = nodeName) (hf : ∀ r, (f r).nodeName = r.nodeName) :
    Confined nodeName t (t.update p f) := filter_updateWhere fun r hr hpr => by simp [hf,hp r hr hpr]

lemma expireLease_nodeName (now : ℤ) (r : Row) : (expireLease now r).nodeName = r.nodeName := by
  unfold expireLease
  split <;> rfl

lemma confined_expire (now : ℤ) (t : Table) (nodeName : String) : Confined nodeName t (expire now t nodeName) := by
  refine (confined_update (fun r _ hr => ?_) (expireLease_nodeName now)).trans
    (confined_update (fun r _ hr => ?_) fun _ => rfl)
  · simp only [and_eq_true,decide_eq_true_eq] at hr
    exact hr.1.1
  · simp only [and_eq_true,decide_eq_true_eq] at hr
    exact hr.1.1.1

lemma claimNext_fst (now : ℤ) (t : Table) (nodeName : String) :
    (claimNextHostAssignment now t nodeName).1 = (nextClaim (expire now t nodeName) nodeName).elim
      (expire now t nodeName) fun r =>
        (expire now t nodeName).update (fun r' => r'.id = r.id && r'.status = .pending) (claimRow now) := by
  unfold claimNextHostAssignment
  dsimp only
  split <;> simp [*]

lemma confined_claimNext (hkey : Keyed t) (now : ℤ) (nodeName : String) :
    Confined nodeName t (claimNextHostAssignment now t nodeName).1 := by
  rw [claimNext_fst]
  cases hnext : nextClaim (expire now t nodeName) nodeName with
  | none => exact confined_expire now t nodeName
  | some c =>
    obtain ⟨hmem,hnode,-⟩ := nextClaim_spec hnext
    refine (confined_expire now t nodeName).trans (confined_update (fun r hr hid => ?_) fun _ => rfl)
    simp only [and_eq_true,decide_eq_true_eq] at hid
    rw [(hkey.expire now nodeName).eq_of_id hr hmem hid.1,hnode]

/-- A poll of the node at the time acts on the row: its lease or its request ran
out, or it can be claimed. -/
def Due (now : ℤ) (nodeName : String) (r : Row) : Prop :=
  r.nodeName = nodeName ∧ (r.status = .claimed ∧ r.updatedAt ≤ now - 60 ∨
    r.status = .pending ∧ (r.attemptCount < r.maxAttempts ∨
      r.assignmentType = "runtime-http-proxy" ∧ r.updatedAt ≤ now - 45))

instance (now : ℤ) (nodeName : String) (r : Row) : Decidable (Due now nodeName r) :=
  inferInstanceAs (Decidable (_ ∧ _))

def Idle (now : ℤ) (t : Table) (nodeName : String) : Prop := ∀ r ∈ t.rows, ¬ Due now nodeName r

instance (now : ℤ) (t : Table) (nodeName : String) : Decidable (Idle now t nodeName) :=
  inferInstanceAs (Decidable (∀ r ∈ t.rows, _))

lemma nextClaim_eq_none : nextClaim t nodeName = none ↔
    ∀ r ∈ t.rows, ¬ (r.nodeName = nodeName ∧ r.status = .pending ∧ r.attemptCount < r.maxAttempts) := by
  rw [nextClaim,selectFirst_eq_none]
  simp [and_assoc]

lemma update_eq_self (hp : ∀ r ∈ t.rows, ¬ p r) : t.update p f = t := by
  have hrows : updateWhere p f t.rows = t.rows := by
    rw [updateWhere,map_congr_left fun r hr => if_neg (hp r hr),map_id']
  rw [Table.update,hrows]

lemma expire_idle (hidle : Idle now t nodeName) : expire now t nodeName = t := by
  have hlease : t.update (fun r => r.nodeName = nodeName && r.status = .claimed && r.updatedAt ≤ now - 60)
      (expireLease now) = t :=
    update_eq_self fun r hr hp => by
      simp only [and_eq_true,decide_eq_true_eq] at hp
      exact hidle r hr ⟨hp.1.1,.inl ⟨hp.1.2,hp.2⟩⟩
  rw [expire,hlease]
  refine update_eq_self fun r hr hp => ?_
  simp only [and_eq_true,decide_eq_true_eq] at hp
  exact hidle r hr ⟨hp.1.1.1,.inr ⟨hp.1.2,.inr ⟨hp.1.1.2,hp.2⟩⟩⟩

lemma claimNext_idle (hidle : Idle now t nodeName) : claimNextHostAssignment now t nodeName = (t,none) := by
  have hnext : nextClaim t nodeName = none :=
    nextClaim_eq_none.2 fun r hr ⟨hnode,hstatus,hattempts⟩ => hidle r hr ⟨hnode,.inr ⟨hstatus,.inl hattempts⟩⟩
  unfold claimNextHostAssignment
  simp only [expire_idle hidle,hnext]

def effort (r : Row) : ℤ := r.attemptCount + if r.status = .failed then 1 else 0

def effortBeside (nodeName : String) (t : Table) : ℤ := ((t.rows.filter (·.nodeName ≠ nodeName)).map effort).sum

lemma effortBeside_eq (nodeName : String) (t : Table) :
    effortBeside nodeName t = (t.rows.map fun r => if r.nodeName ≠ nodeName then effort r else 0).sum := by
  unfold effortBeside
  induction t.rows with
  | nil => rfl
  | cons r rows ih =>
    rw [filter_cons,map_cons,sum_cons,← ih]
    by_cases hr : r.nodeName = nodeName <;> simp [hr]

section Update

variable {p : Row → Bool} {f : Row → Row} (hf : ∀ r, (f r).nodeName = r.nodeName)
  (hle : ∀ r ∈ t.rows, p r → effort r ≤ effort (f r))

include hf hle

lemma effort_update_le (r : Row) (hr : r ∈ t.rows) :
    (if r.nodeName ≠ h then effort r else 0) ≤
      if (if p r then f r else r).nodeName ≠ h then effort (if p r then f r else r) else 0 := by
  by_cases hp : p r
  · rw [if_pos hp,hf]
    split
    · exact hle r hr hp
    · exact le_rfl
  · rw [if_neg hp]

lemma effortBeside_update : effortBeside h t ≤ effortBeside h (t.update p f) := by
  rw [effortBeside_eq,effortBeside_eq,Table.update,updateWhere,map_map]
  exact sum_le_sum fun r hr => effort_update_le hf hle r hr

lemma effortBeside_update_lt (hr : r ∈ t.rows) (hnode : r.nodeName ≠ h) (hp : p r) (hlt : effort r < effort (f r)) :
    effortBeside h t < effortBeside h (t.update p f) := by
  rw [effortBeside_eq,effortBeside_eq,Table.update,updateWhere,map_map]
  refine sum_lt_sum _ _ (fun r hr => effort_update_le hf hle r hr) ⟨r,hr,?_⟩
  simpa [hp,hf,hnode] using hlt

end Update

lemma effort_expireProxyRequest (hr : r.status = .pending) : effort r < effort (expireProxyRequest now r) := by
  simp [effort,expireProxyRequest,hr]

lemma effort_claimRow (hr : r.status = .pending) : effort r < effort (claimRow now r) := by
  simp [effort,claimRow,hr]

def expireLeases (now : ℤ) (t : Table) (nodeName : String) : Table :=
  t.update (fun r => r.nodeName = nodeName && r.status = .claimed && r.updatedAt ≤ now - 60) (expireLease now)

lemma effort_expireLease (r : Row) (_ : r ∈ t.rows)
    (hp : (r.nodeName = nodeName && r.status = .claimed && r.updatedAt ≤ now - 60 : Bool)) :
    effort r ≤ effort (expireLease now r) := by
  simp only [and_eq_true,decide_eq_true_eq] at hp
  unfold expireLease
  split <;> simp [effort,hp.1.2]

lemma effort_expireProxy (r : Row) (_ : r ∈ t.rows)
    (hp : (r.nodeName = nodeName && r.assignmentType = "runtime-http-proxy" && r.status = .pending &&
      r.updatedAt ≤ now - 45 : Bool)) : effort r ≤ effort (expireProxyRequest now r) := by
  simp only [and_eq_true,decide_eq_true_eq] at hp
  exact (effort_expireProxyRequest hp.1.2).le

lemma effort_claim (r : Row) (_ : r ∈ t.rows) (hp : (r.id = id && r.status = .pending : Bool)) :
    effort r ≤ effort (claimRow now r) := by
  simp only [and_eq_true,decide_eq_true_eq] at hp
  exact (effort_claimRow hp.2).le

section

variable (now : ℤ) (t : Table) (nodeName : String)

lemma effortBeside_expireLeases : effortBeside h t ≤ effortBeside h (expireLeases now t nodeName) :=
  effortBeside_update (expireLease_nodeName now) effort_expireLease

lemma effortBeside_expireProxies :
    effortBeside h (expireLeases now t nodeName) ≤ effortBeside h (expire now t nodeName) :=
  effortBeside_update (fun _ => rfl) effort_expireProxy

lemma effortBeside_expire : effortBeside h t ≤ effortBeside h (expire now t nodeName) :=
  (effortBeside_expireLeases now t nodeName).trans (effortBeside_expireProxies now t nodeName)

lemma effortBeside_claimNext : effortBeside h t ≤ effortBeside h (claimNextHostAssignment now t nodeName).1 := by
  rw [claimNext_fst]
  cases nextClaim (expire now t nodeName) nodeName with
  | none => exact effortBeside_expire now t nodeName
  | some c =>
    exact (effortBeside_expire now t nodeName).trans (effortBeside_update (fun _ => rfl) effort_claim)

end

lemma effortBeside_expire_lt (hnode : nodeName ≠ h) (hbusy : ¬ Idle now t nodeName)
    (hnone : nextClaim (expire now t nodeName) nodeName = none) :
    effortBeside h t < effortBeside h (expire now t nodeName) := by
  simp only [Idle,not_forall,not_not] at hbusy
  obtain ⟨r,hr,hname,hdue⟩ := hbusy
  have hunclaimed := nextClaim_eq_none.1 hnone
  rcases hdue with ⟨hstatus,hlease⟩ | ⟨hstatus,hpending⟩
  · by_cases hattempts : r.attemptCount < r.maxAttempts
    · -- the row went back to the queue, so it would have been claimed
      have hmem : expireLease now r ∈ (expireLeases now t nodeName).rows :=
        mem_updateWhere.2 ⟨r,hr,by simp [hname,hstatus,hlease]⟩
      have hback : expireLease now r = {r with
          status := .pending, statusMessage := "claimed assignment lease expired; retrying", updatedAt := now} :=
        if_neg (by omega)
      have hkept : expireLease now r ∈ (expire now t nodeName).rows := by
        refine mem_update_of_not hmem ?_
        rw [hback]
        simp
      exact absurd ⟨by rw [hback,hname],by rw [hback],by rw [hback]; exact hattempts⟩ (hunclaimed _ hkept)
    · refine lt_of_lt_of_le (effortBeside_update_lt (expireLease_nodeName now) effort_expireLease hr
        (hname ▸ hnode) (by simp [hname,hstatus,hlease]) ?_) (effortBeside_expireProxies now t nodeName)
      rw [expireLease,if_pos (by omega)]
      simp [effort,hstatus]
  · have hmem : r ∈ (expireLeases now t nodeName).rows := mem_update_of_not hr (by simp [hstatus])
    by_cases hproxy : r.assignmentType = "runtime-http-proxy" ∧ r.updatedAt ≤ now - 45
    · exact lt_of_le_of_lt (effortBeside_expireLeases now t nodeName) (effortBeside_update_lt (fun _ => rfl)
        effort_expireProxy hmem (hname ▸ hnode) (by simp [hname,hstatus,hproxy]) (effort_expireProxyRequest hstatus))
    · have hkept : r ∈ (expire now t nodeName).rows := by
        refine mem_update_of_not hmem ?_
        rw [← not_eq_true]
        simp only [and_eq_true,decide_eq_true_eq]
        exact fun hp => hproxy ⟨hp.1.1.2,hp.2⟩
      exact absurd ⟨hname,hstatus,hpending.resolve_right hproxy⟩ (hunclaimed r hkept)

lemma effortBeside_claimNext_lt (hnode : nodeName ≠ h) (hbusy : ¬ Idle now t nodeName) :
    effortBeside h t < effortBeside h (claimNextHostAssignment now t nodeName).1 := by
  rw [claimNext_fst]
  cases hnext : nextClaim (expire now t nodeName) nodeName with
  | none => exact effortBeside_expire_lt hnode hbusy hnext
  | some c =>
    obtain ⟨hmem,hname,hstatus,-⟩ := nextClaim_spec hnext
    exact lt_of_le_of_lt (effortBeside_expire now t nodeName) (effortBeside_update_lt (fun _ => rfl) effort_claim hmem
      (hname ▸ hnode) (by simp [hstatus]) (effort_claimRow hstatus))

variable {s : Store} {support : HostdHttpSupport} {request : HttpRequest} {host host' : RegisteredHostRecord}

def Owned (nodeName : String) (id : ℕ) (t : Table) : Prop := ∀ r ∈ t.rows, r.id = id → r.nodeName = nodeName

lemma Owned.update (howned : Owned nodeName id t) (hid : ∀ r, (f r).id = r.id)
    (hname : ∀ r, (f r).nodeName = r.nodeName) : Owned nodeName id (t.update p f) := by
  intro r hr hrid
  obtain ⟨a,ha,rfl⟩ := mem_updateWhere.1 hr
  by_cases hp : p a
  · rw [if_pos hp] at hrid ⊢
    rw [hname,howned a ha (hid a ▸ hrid)]
  · rw [if_neg hp] at hrid ⊢
    exact howned a ha hrid

lemma owned_claimNext (hkey : Keyed t) (ha : (claimNextHostAssignment now t nodeName).2 = some a) :
    a.nodeName = nodeName ∧ Owned nodeName a.id (claimNextHostAssignment now t nodeName).1 := by
  rw [claimNext_snd] at ha
  obtain ⟨c,hnext,rfl⟩ := Option.map_eq_some_iff.1 ha
  obtain ⟨hmem,hname,-⟩ := nextClaim_spec hnext
  refine ⟨hname,?_⟩
  rw [claimNext_fst,hnext]
  refine Owned.update (fun r hr hid => ?_) (fun _ => rfl) fun _ => rfl
  rw [(hkey.expire now nodeName).eq_of_id hr hmem hid,hname]

lemma claimOr_cases (nodeName : String) (now : ℤ) (otherwise : Program Store (Option HostAssignment)) (s : Store) :
    let polled := s.onAssignments fun t => (claimNextHostAssignment now t nodeName).1
    (∃ a, (claimNextHostAssignment now s.assignments nodeName).2 = some a ∧
      (claimOr nodeName now otherwise).run s = (polled,some a)) ∨
    (claimNextHostAssignment now s.assignments nodeName).2 = none ∧
      (claimOr nodeName now otherwise).run s = otherwise.run polled := by
  unfold claimOr
  rw [run_exec]
  cases (claimNextHostAssignment now s.assignments nodeName).2 with
  | none => exact .inr ⟨rfl,rfl⟩
  | some a => exact .inl ⟨a,rfl,rfl⟩

lemma claimOr_idle (hidle : Idle now s.assignments nodeName) :
    (claimOr nodeName now otherwise).run s = otherwise.run s := by
  have hclaim := claimNext_idle hidle
  have hsame : s.onAssignments (fun t => (claimNextHostAssignment now t nodeName).1) = s := by
    simp [Store.onAssignments,hclaim]
  rw [claimOr,run_exec,hsame]
  simp only [hclaim]

lemma claimLoop_idle (hidle : ∀ m ∈ now::later, Idle m s.assignments nodeName) :
    (claimLoop nodeName now later).run s = (s,none) := by
  induction later generalizing now with
  | nil => exact claimOr_idle (hidle now (by simp))
  | cons next later ih =>
    rw [claimLoop,claimOr_idle (hidle now (by simp)),ih fun m hm => hidle m (mem_cons_of_mem _ hm)]

lemma claimLoop_ends {I : Store → Prop} {P : Store × Option HostAssignment → Prop} (hnone : ∀ s, I s → P (s,none))
    (hclaim : ∀ now s, I s → I (s.onAssignments fun t => (claimNextHostAssignment now t nodeName).1))
    (hsome : ∀ now s a, I s → (claimNextHostAssignment now s.assignments nodeName).2 = some a →
      P (s.onAssignments fun t => (claimNextHostAssignment now t nodeName).1,some a))
    (now : ℤ) (later : List ℤ) (hs : I s) : P ((claimLoop nodeName now later).run s) := by
  induction later generalizing now s with
  | nil =>
    obtain ⟨a,ha,hrun⟩ | ⟨-,hrun⟩ := claimOr_cases nodeName now (.done none) s
    · exact hrun ▸ hsome now s a hs ha
    · exact hrun ▸ hnone _ (hclaim now s hs)
  | cons next later ih =>
    obtain ⟨a,ha,hrun⟩ | ⟨-,hrun⟩ := claimOr_cases nodeName now (claimLoop nodeName next later) s
    · exact hrun ▸ hsome now s a hs ha
    · exact hrun ▸ ih next (hclaim now s hs)

lemma claimLoop_own (hkey : Keyed s.assignments) (now : ℤ) (later : List ℤ) :
    Confined nodeName s.assignments ((claimLoop nodeName now later).run s).1.assignments ∧
      ∀ a, ((claimLoop nodeName now later).run s).2 = some a →
        a.nodeName = nodeName ∧ Owned nodeName a.id ((claimLoop nodeName now later).run s).1.assignments := by
  refine claimLoop_ends (I := fun s' => Keyed s'.assignments ∧ Confined nodeName s.assignments s'.assignments)
    (P := fun claimed => Confined nodeName s.assignments claimed.1.assignments ∧ ∀ a, claimed.2 = some a →
      a.nodeName = nodeName ∧ Owned nodeName a.id claimed.1.assignments) (fun s' hs' => ⟨hs'.2,nofun⟩)
    (fun now s' hs' => ?_) (fun now s' a hs' ha => ?_) now later ⟨hkey,rfl⟩
  · exact ⟨hs'.1.claimNext now nodeName,hs'.2.trans (confined_claimNext hs'.1 now nodeName)⟩
  · refine ⟨hs'.2.trans (confined_claimNext hs'.1 now nodeName),fun b hb => ?_⟩
    obtain rfl := Option.some.inj hb
    exact owned_claimNext hs'.1 ha

lemma claimLoop_effort (nodeName : String) (now : ℤ) (later : List ℤ) (s : Store) :
    effortBeside h s.assignments ≤ effortBeside h ((claimLoop nodeName now later).run s).1.assignments :=
  claimLoop_ends (P := fun claimed => effortBeside h s.assignments ≤ effortBeside h claimed.1.assignments)
    (fun _ hs => hs) (fun now _ hs => hs.trans (effortBeside_claimNext now _ nodeName))
    (fun now _ _ hs _ => hs.trans (effortBeside_claimNext now _ nodeName)) now later le_rfl

lemma claimLoop_effort_lt (hnode : nodeName ≠ h) (hbusy : ∃ m ∈ now::later, ¬ Idle m s.assignments nodeName) :
    effortBeside h s.assignments < effortBeside h ((claimLoop nodeName now later).run s).1.assignments := by
  induction later generalizing now with
  | nil =>
    obtain ⟨m,hm,hbusy⟩ := hbusy
    obtain rfl := mem_singleton.1 hm
    rw [claimLoop]
    obtain ⟨a,-,hrun⟩ | ⟨-,hrun⟩ := claimOr_cases nodeName m (.done none) s
    all_goals
      rw [hrun]
      exact effortBeside_claimNext_lt hnode hbusy
  | cons next later ih =>
    rw [claimLoop]
    by_cases hidle : Idle now s.assignments nodeName
    · rw [claimOr_idle hidle]
      obtain ⟨m,hm,hbusy⟩ := hbusy
      rcases mem_cons.1 hm with rfl | hm
      · exact absurd hidle hbusy
      · exact ih ⟨m,hm,hbusy⟩
    · obtain ⟨a,-,hrun⟩ | ⟨-,hrun⟩ := claimOr_cases nodeName now (claimLoop nodeName next later) s
      · rw [hrun]
        exact effortBeside_claimNext_lt hnode hidle
      · rw [hrun]
        exact lt_of_lt_of_le (effortBeside_claimNext_lt hnode hidle) (claimLoop_effort nodeName next later _)

lemma permits_assignments (t : Table) : Permits (·.assignments = t) fun _ => True where
  write _ _ _ hs := hs
  session _ _ _ _ _ := trivial
  loaded _ _ _ _ _ := trivial
  missing _ _ _ _ := trivial
  unread _ _ hs _ hsame := hsame.trans hs

lemma claimAndDeliver_cases (support : HostdHttpSupport) (request : HttpRequest) (host : RegisteredHostRecord)
    (nodeName : String) (next : NextRequest) (s : Store) :
    let claimed := (claimLoop nodeName support.now support.laterPolls).run s
    let served := (claimAndDeliver support request host nodeName next).run s
    served.1.assignments = claimed.1.assignments ∧ (∀ a, served.2.2 = some a → claimed.2 = some a) ∨
    ∃ a message, claimed.2 = some a ∧ served.2.2 = none ∧ served.1.assignments =
      transitionClaimedHostAssignment support.recoveredAt claimed.1.assignments a.id .pending message := by
  unfold claimAndDeliver
  rw [run_bind,run_bind]
  generalize (claimLoop nodeName support.now support.laterPolls).run s = claimed
  obtain ⟨s₁,claimed⟩ := claimed
  have hsame : ((deliverNext support host nodeName next claimed).run.run s₁).1.assignments = s₁.assignments :=
    (((permits_assignments s₁.assignments).deliverNext (P := True) nodeName next claimed).1 trivial).run rfl |>.1
  generalize (deliverNext support host nodeName next claimed).run.run s₁ = delivered at hsame ⊢
  obtain ⟨s₂,result⟩ := delivered
  match result with
  | .ok response => exact .inl ⟨hsame,fun _ ha => ha⟩
  | .error (.respond response) => exact .inl ⟨hsame,fun _ ha => ha⟩
  | .error (.raise error) =>
    cases claimed with
    | none => exact .inl ⟨hsame,nofun⟩
    | some a =>
      refine .inr ⟨a,"assignment claim response failed before delivery: " ++ support.what error,rfl,rfl,?_⟩
      rw [← hsame]
      rfl

lemma transitionClaimed_confined (howned : Owned nodeName id t) (now : ℤ) (status : HostAssignmentStatus)
    (message : String) : Confined nodeName t (transitionClaimedHostAssignment now t id status message) := by
  refine confined_update (fun r hr hp => ?_) fun _ => rfl
  simp only [and_eq_true,decide_eq_true_eq] at hp
  exact howned r hr hp.1

/-- What a run of a handler may do to the assignments when it serves the host. -/
def Isolated (nodeName : String) (t t' : Table) (handedOut : Option HostAssignment) : Prop :=
  Confined nodeName t t' ∧ ∀ a, handedOut = some a → a.nodeName = nodeName

section Delivery

variable (next : NextRequest)

lemma claimAndDeliver_own (hkey : Keyed s.assignments) :
    Isolated nodeName s.assignments ((claimAndDeliver support request host nodeName next).run s).1.assignments
      ((claimAndDeliver support request host nodeName next).run s).2.2 := by
  obtain ⟨hconfined,howned⟩ := claimLoop_own hkey support.now support.laterPolls
  obtain ⟨htable,hout⟩ | ⟨a,message,hclaimed,hout,htable⟩ :=
    claimAndDeliver_cases support request host nodeName next s
  · rw [htable]
    exact ⟨hconfined,fun a ha => (howned a (hout a ha)).1⟩
  · rw [htable,hout]
    exact ⟨hconfined.trans (transitionClaimed_confined (howned a hclaimed).2 _ _ _),nofun⟩

lemma claimAndDeliver_idle (hidle : ∀ m ∈ support.now::support.laterPolls, Idle m s.assignments nodeName) :
    Isolated h s.assignments ((claimAndDeliver support request host nodeName next).run s).1.assignments
      ((claimAndDeliver support request host nodeName next).run s).2.2 := by
  have hloop := claimLoop_idle hidle
  obtain ⟨htable,hout⟩ | ⟨a,message,hclaimed,-⟩ := claimAndDeliver_cases support request host nodeName next s
  · rw [hloop] at htable hout
    exact ⟨by rw [htable]; rfl,fun a ha => nomatch hout a ha⟩
  · rw [hloop] at hclaimed
    cases hclaimed

lemma claimAndDeliver_busy (hnode : nodeName ≠ h)
    (hbusy : ∃ m ∈ support.now::support.laterPolls, ¬ Idle m s.assignments nodeName) :
    ¬ Confined h s.assignments ((claimAndDeliver support request host nodeName next).run s).1.assignments := by
  intro hconfined
  have hlt := claimLoop_effort_lt hnode hbusy
  have hle : effortBeside h ((claimLoop nodeName support.now support.laterPolls).run s).1.assignments ≤
      effortBeside h ((claimAndDeliver support request host nodeName next).run s).1.assignments := by
    obtain ⟨htable,-⟩ | ⟨a,message,-,-,htable⟩ := claimAndDeliver_cases support request host nodeName next s
    · exact htable ▸ le_rfl
    -- a row that is given back keeps its effort
    · rw [htable]
      refine effortBeside_update (fun _ => rfl) fun r _ hp => ?_
      simp only [and_eq_true,decide_eq_true_eq] at hp
      simp [effort,hp.2]
  have heq : effortBeside h ((claimAndDeliver support request host nodeName next).run s).1.assignments =
      effortBeside h s.assignments := by
    rw [effortBeside,hconfined,effortBeside]
  omega

end Delivery

def bodyOf (support : HostdHttpSupport) (request : HttpRequest) (host : RegisteredHostRecord) (messageType : String) :
    Checked Json :=
  openBody support request host messageType >>= fun
    | .inl body => .ok body
    | .inr (_,decrypted) => parseDecrypted support decrypted

def requestedNode (support : HostdHttpSupport) (request : HttpRequest) (host : RegisteredHostRecord) : Option String :=
  if request.method ≠ "POST" then none
  else match bodyOf support request host "assignments/next" >>= readNextRequest with
    | .error _ => none
    | .ok next => if next.preferredControlTransport = "http-long-poll" then next.nodeName.filter (· ≠ "") else none

section Runs

variable {α β : Type}

lemma run_andThen (x : Handler α) (f : α → Handler β) (s : Store) :
    (x >>= f).run.run s = match x.run.run s with
      | (s',.ok a) => (f a).run.run s'
      | (s',.error stop) => (s',.error stop) := by
  rw [ExceptT.run_bind,run_bind]
  generalize x.run.run s = r
  obtain ⟨s',result⟩ := r
  cases result <;> rfl

lemma run_load (f : Store → α) (s : Store) : (load f).run.run s = (s,.ok (f s)) := rfl

lemma run_statement (statement : Store → Store) (s : Store) :
    (HostdHttp.exec statement).run.run s = (statement s,.ok ()) := rfl

lemma run_checked_ok (a : α) (s : Store) : (checked (.ok a)).run.run s = (s,.ok a) := rfl

lemma run_respondIf (c : Bool) (response : HttpResponse) (s : Store) :
    (respondIf c response).run.run s = (s,if c then .error (.respond response) else .ok ()) := by
  cases c <;> rfl

end Runs

lemma parseEncryptedBody_result (support : HostdHttpSupport) (request : HttpRequest) (host : RegisteredHostRecord)
    (messageType : String) (s : Store) :
    match bodyOf support request host messageType with
    | .ok body => ∃ s' host', (parseEncryptedBody support request host messageType).run.run s = (s',.ok (host',body))
    | .error e => ∃ s', (parseEncryptedBody support request host messageType).run.run s = (s',.error (.raise e)) := by
  unfold bodyOf parseEncryptedBody
  rw [run_andThen]
  cases openBody support request host messageType with
  | error e => exact ⟨s,rfl⟩
  | ok opened =>
    match opened with
    | .inl body => exact ⟨s,host,rfl⟩
    | .inr (written,decrypted) =>
      rw [Checked.ok_bind,run_checked_ok]
      dsimp only
      rw [run_andThen,run_statement]
      dsimp only
      cases parseDecrypted support decrypted with
      | error e => exact ⟨_,rfl⟩
      | ok body => exact ⟨_,written,rfl⟩

lemma prepareNext_result (hauth : authenticate support request none s = some host) (hpost : request.method = "POST") :
    match requestedNode support request host with
    | some nodeName => ∃ host' next, ((prepareNext support request).run.run s).2 = .ok (host',nodeName,next)
    | none => ∃ stop, ((prepareNext support request).run.run s).2 = .error stop := by
  have hbody := parseEncryptedBody_result support request host "assignments/next" s
  unfold requestedNode prepareNext authenticated
  rw [if_neg (by simp [hpost]),run_andThen,run_andThen,run_load,hauth]
  dsimp only
  rw [show (pure host : Handler RegisteredHostRecord).run.run s = (s,.ok host) from rfl]
  dsimp only
  rw [run_andThen]
  cases hbodyOf : bodyOf support request host "assignments/next" with
  | error e =>
    rw [hbodyOf] at hbody
    obtain ⟨s',hrun⟩ := hbody
    rw [hrun]
    exact ⟨_,rfl⟩
  | ok body =>
    rw [hbodyOf] at hbody
    obtain ⟨s',host',hrun⟩ := hbody
    rw [hrun,Checked.ok_bind]
    dsimp only
    rw [run_andThen]
    cases readNextRequest body with
    | error e => exact ⟨_,rfl⟩
    | ok next =>
      rw [run_checked_ok]
      dsimp only
      rw [run_andThen,run_respondIf]
      by_cases htransport : next.preferredControlTransport = "http-long-poll"
      · rw [if_pos htransport,decide_eq_false (by simpa using htransport)]
        rw [if_neg Bool.false_ne_true]
        dsimp only
        by_cases hempty : next.nodeName.getD "" = ""
        · have hnone : next.nodeName.filter (· ≠ "") = none := by
            cases hname : next.nodeName <;> simp_all
          rw [hnone,decide_eq_true hempty]
          exact ⟨_,rfl⟩
        · have hsome : next.nodeName.filter (· ≠ "") = some (next.nodeName.getD "") := by
            cases hname : next.nodeName <;> simp_all
          rw [hsome,decide_eq_false hempty]
          exact ⟨host',next,rfl⟩
      · rw [if_neg htransport,decide_eq_true htransport]
        exact ⟨_,rfl⟩

lemma permits_owned : Permits (fun s => Owned nodeName id s.assignments ∧ Confined nodeName t s.assignments)
    fun _ => True where
  write _ _ _ hs := hs
  session _ _ _ _ _ := trivial
  loaded _ _ _ _ _ := trivial
  missing _ _ _ _ := trivial
  unread _ _ hs _ hsame := hsame ▸ hs

lemma keepsReports_owned (nodeName : String) (t : Table) (id : ℕ) :
    KeepsReports (fun s => Owned nodeName id s.assignments ∧ Confined nodeName t s.assignments) id where
  progress now progressJson s hs := by
    refine ⟨hs.1.update (fun _ => rfl) fun _ => rfl,hs.2.trans (confined_update (fun r hr hp => ?_) fun _ => rfl)⟩
    simp only [and_eq_true,decide_eq_true_eq] at hp
    exact hs.1 r hr hp.1
  transition now status message s hs :=
    ⟨hs.1.update (fun _ => rfl) fun _ => rfl,hs.2.trans (transitionClaimed_confined hs.1 now status message)⟩

lemma authenticate_nodeName (hauth : authenticate support request none s = some host)
    (hauth' : authenticate support request expected s = some host') : host' = host ∧
      expected.all (· = host.nodeName) := by
  obtain ⟨_,_,-,hnode,hload,-⟩ := loaded_of_authenticate hauth
  obtain ⟨_,_,-,hnode',hload',haccepts⟩ := loaded_of_authenticate hauth'
  rw [hnode] at hnode'
  obtain rfl := Option.some.inj hnode'
  rw [hload] at hload'
  obtain rfl := Option.some.inj hload'
  simp only [accepts,and_eq_true] at haccepts
  exact ⟨rfl,haccepts.1.1.1.1⟩

lemma owned_of_loadAssignment (hkey : Keyed s.assignments) {id : Int32} (ha : loadAssignment s id = some a) :
    Owned a.nodeName a.id s.assignments := by
  unfold loadAssignment at ha
  split at ha
  · exact absurd ha (by simp)
  · obtain ⟨r,hfind,rfl⟩ := Option.map_eq_some_iff.1 ha
    intro r' hr' hid
    rw [hkey.eq_of_id hr' (mem_of_find?_eq_some hfind) hid]

lemma assignmentAction_confined (hkey : Keyed s.assignments)
    (hauth : authenticate support request none s = some host) (id : Int32) (action : String) :
    Confined host.nodeName s.assignments ((assignmentAction support request id action).run.run s).1.assignments := by
  unfold assignmentAction
  rw [run_andThen,run_load]
  cases hload : loadAssignment s id with
  | none => exact rfl
  | some a =>
    dsimp only
    unfold authenticated
    rw [run_andThen,run_andThen,run_load]
    cases hauth' : authenticate support request (some a.nodeName) s with
    | none => exact rfl
    | some host' =>
      obtain ⟨rfl,hname⟩ := authenticate_nodeName hauth hauth'
      have hnode : a.nodeName = host'.nodeName := by simpa using hname
      have howned := owned_of_loadAssignment hkey hload
      rw [hnode] at howned
      have hsettled : (performAction support request id action a host').run.Settled
          (fun s' => Owned host'.nodeName a.id s'.assignments ∧ Confined host'.nodeName s.assignments s'.assignments)
          True (Yields fun _ => True) :=
        permits_owned.performAction (keepsReports_owned host'.nodeName s.assignments a.id) id action
      exact ((hsettled.1 trivial).run ⟨howned,rfl⟩).1.2

lemma onPost_store (support : HostdHttpSupport) (request : HttpRequest) (body : Handler HttpResponse) (s : Store) :
    ((onPost support request body).run s).1 = if request.method ≠ "POST" then s else (body.run.run s).1 := by
  unfold onPost answering
  split
  · rfl
  · rw [show body.run.bind _ = body.run >>= _ from rfl,run_bind]
    rcases body.run.run s with ⟨s',(_ | _) | _⟩ <;> rfl

lemma handleNextAssignment_cases (hauth : authenticate support request none s = some host) :
    (∃ s₁ host' nodeName next, requestedNode support request host = some nodeName ∧ s₁.assignments = s.assignments ∧
      (handleNextAssignment support request).run s = (claimAndDeliver support request host' nodeName next).run s₁) ∨
    requestedNode support request host = none ∧
      ((handleNextAssignment support request).run s).1.assignments = s.assignments ∧
      ((handleNextAssignment support request).run s).2.2 = none := by
  by_cases hpost : request.method = "POST"
  · have hresult := prepareNext_result hauth hpost
    have hsame : ((prepareNext support request).run.run s).1.assignments = s.assignments :=
      (((permits_assignments s.assignments).prepareNext (P := True)).1 trivial).run rfl |>.1
    unfold handleNextAssignment
    rw [if_neg (by simp [hpost]),show Program.bind _ _ = (prepareNext support request).run >>= _ from rfl,run_bind]
    generalize (prepareNext support request).run.run s = prepared at hresult hsame ⊢
    obtain ⟨s₁,result⟩ := prepared
    cases hasked : requestedNode support request host with
    | none =>
      rw [hasked] at hresult
      obtain ⟨stop,rfl⟩ := hresult
      refine .inr ⟨rfl,?_⟩
      cases stop with
      | respond response => exact ⟨hsame,rfl⟩
      | raise error => exact ⟨hsame,rfl⟩
    | some nodeName =>
      rw [hasked] at hresult
      obtain ⟨host',next,rfl⟩ := hresult
      exact .inl ⟨s₁,host',nodeName,next,rfl,hsame,rfl⟩
  · refine .inr ⟨?_,?_⟩
    · rw [requestedNode,if_pos hpost]
    · rw [handleNextAssignment,if_pos hpost]
      exact ⟨rfl,rfl⟩

/-- Requests that are accepted as a host reach other nodes' assignments exactly
when a poll names another node that has a row due. -/
theorem requests_isolated_iff (support : HostdHttpSupport) (request : HttpRequest) (s : Store)
    (hkey : Keyed s.assignments) (host : RegisteredHostRecord)
    (hauth : authenticate support request none s = some host) :
    (Isolated host.nodeName s.assignments ((handleNextAssignment support request).run s).1.assignments
        ((handleNextAssignment support request).run s).2.2 ∧
      Isolated host.nodeName s.assignments ((handleAssignmentAction support request).run s).1.assignments none) ↔
    ∀ nodeName, requestedNode support request host = some nodeName → nodeName = host.nodeName ∨
      ∀ now ∈ support.now::support.laterPolls, Idle now s.assignments nodeName := by
  have hreports : Isolated host.nodeName s.assignments
      ((handleAssignmentAction support request).run s).1.assignments none := by
    refine ⟨?_,nofun⟩
    unfold handleAssignmentAction
    dsimp only
    split
    · exact rfl
    · split
      · exact rfl
      · next id _ =>
        rw [run_map,onPost_store]
        split
        · exact rfl
        · exact assignmentAction_confined hkey hauth id _
  obtain ⟨s₁,host',nodeName,next,hasked,hsame,hrun⟩ | ⟨hasked,htable,hout⟩ := handleNextAssignment_cases hauth
  · rw [hrun,hasked,← hsame]
    constructor
    · rintro ⟨hisolated,-⟩ asked hname
      obtain rfl := Option.some.inj hname
      by_contra hcon
      rw [not_or] at hcon
      obtain ⟨hnode,hbusy⟩ := hcon
      push Not at hbusy
      exact claimAndDeliver_busy next hnode hbusy hisolated.1
    · intro hcondition
      refine ⟨?_,hsame ▸ hreports⟩
      rcases hcondition nodeName rfl with rfl | hidle
      · exact claimAndDeliver_own next (hsame ▸ hkey)
      · exact claimAndDeliver_idle next hidle
  · rw [htable,hout,hasked]
    exact ⟨fun _ nodeName h => absurd h (by simp),fun _ => ⟨⟨rfl,nofun⟩,hreports⟩⟩

def twoHosts : Store where
  hosts := [{nodeName := "node-a", sessionToken := "token-a"},{nodeName := "node-b", sessionToken := "token-b"}]
  assignments := {
    rows := [
      {id := 1, nodeName := "node-b", planeName := "demo", assignmentType := "apply-node-state", updatedAt := 90}]
    nextId := 2}

def pollOfA : HttpRequest where
  path := "/api/v1/hostd/assignments/next"
  headers := [("x-naim-host-node","node-a"),("x-naim-host-session","token-a")]
  body := "body"

/-- The first host names the second one in its body and is handed that host's assignment. -/
theorem poll_claims_other_host :
    authenticate (plainSupport (.obj [("node_name",.str "node-b")])) pollOfA none twoHosts =
      some {nodeName := "node-a", sessionToken := "token-a"} ∧
    ((handleNextAssignment (plainSupport (.obj [("node_name",.str "node-b")])) pollOfA).run twoHosts).2.2.map
      (·.nodeName) = some "node-b" ∧
    ((handleNextAssignment (plainSupport (.obj [("node_name",.str "node-b")])) pollOfA).run
      twoHosts).1.assignments.rows.map
      (fun r => (r.nodeName,r.status)) = [("node-b",.claimed)] := by
  decide +kernel

theorem requests_isolated_own_name :
    Isolated "node-a" twoHosts.assignments
        ((handleNextAssignment (plainSupport (.obj [("node_name",.str "node-a")])) pollOfA).run twoHosts).1.assignments
        ((handleNextAssignment (plainSupport (.obj [("node_name",.str "node-a")])) pollOfA).run twoHosts).2.2 ∧
      Isolated "node-a" twoHosts.assignments
        ((handleAssignmentAction (plainSupport (.obj [("node_name",.str "node-a")])) pollOfA).run
          twoHosts).1.assignments
        none :=
  (requests_isolated_iff (plainSupport (.obj [("node_name",.str "node-a")])) pollOfA twoHosts ⟨by decide,by decide⟩
    {nodeName := "node-a", sessionToken := "token-a"} (by decide +kernel)).2 fun nodeName h => by
      have hasked : requestedNode (plainSupport (.obj [("node_name",.str "node-a")])) pollOfA
          {nodeName := "node-a", sessionToken := "token-a"} = some "node-a" := by decide +kernel
      rw [hasked] at h
      exact .inl (Option.some.inj h).symm

end Naim.HostIsolation
