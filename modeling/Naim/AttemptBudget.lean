import Naim.Assignments
import Mathlib.Algebra.GroupWithZero.Nat

/-!
# The attempt budget of an assignment

What a run of the table's operations makes of one row: its claims and retries are
counted along the run, and bound the two counters of the row. The code holds the id
of a row in an `int`, so the last part is about the ids that fit one.
-/

namespace Naim.Assignments

open List Rows Runs Bool

def HostAssignment.isFinal (a : HostAssignment) : Bool := a.status = .applied || a.status = .superseded

structure Evolves (claims retries : ℕ) (r r' : Row) : Prop where
  id : r'.id = r.id
  nodeName : r'.nodeName = r.nodeName
  attemptCount : r'.attemptCount = r.attemptCount + claims
  budget : r.attemptCount ≤ r.maxAttempts →
    r'.attemptCount ≤ r'.maxAttempts ∧ r'.maxAttempts ≤ r.maxAttempts + retries
  final : r.isFinal → r'.isFinal

lemma Evolves.refl (r : Row) : Evolves 0 0 r r where
  id := rfl
  nodeName := rfl
  attemptCount := by simp
  budget h := ⟨h,by simp⟩
  final h := h

variable {r r' r'' : Row} {a : HostAssignment} {c q c' q' : ℕ}

lemma Evolves.trans (h : Evolves c q r r') (h' : Evolves c' q' r' r'') :
    Evolves (c + c') (q + q') r r'' where
  id := h'.id.trans h.id
  nodeName := h'.nodeName.trans h.nodeName
  attemptCount := by
    have h₁ := h.attemptCount
    have h₂ := h'.attemptCount
    omega
  budget hr := by
    obtain ⟨h₁,h₂⟩ := h.budget hr
    obtain ⟨h₃,h₄⟩ := h'.budget h₁
    exact ⟨h₃,by omega⟩
  final hr := h'.final (h.final hr)

lemma Evolves.of_counters (hid : r'.id = r.id) (hnode : r'.nodeName = r.nodeName)
    (hattempt : r'.attemptCount = r.attemptCount) (hmax : r'.maxAttempts = r.maxAttempts) (hr : r.isFinal = false) :
    Evolves 0 0 r r' where
  id := hid
  nodeName := hnode
  attemptCount := by simp [hattempt]
  budget h := by simp only [hattempt,hmax]; exact ⟨h,by simp⟩
  final h := by simp [hr] at h

lemma isFinal_of_isLive (h : a.isLive) : a.isFinal = false := by
  simp only [HostAssignment.isLive,or_eq_true,decide_eq_true_eq] at h
  rcases h with h | h <;> simp [HostAssignment.isFinal,h]

lemma evolves_expireLease (now : ℤ) (h : r.status = .claimed) : Evolves 0 0 r (expireLease now r) := by
  have hr : r.isFinal = false := by simp [HostAssignment.isFinal,h]
  unfold expireLease
  split <;> exact .of_counters rfl rfl rfl rfl hr

lemma evolves_claimRow (now : ℤ) (hs : r.status = .pending) (hlt : r.attemptCount < r.maxAttempts) :
    Evolves 1 0 r (claimRow now r) where
  id := rfl
  nodeName := rfl
  attemptCount := by simp [claimRow]
  budget _ := by simp only [claimRow]; exact ⟨by omega,by simp⟩
  final h := by simp [HostAssignment.isFinal,hs] at h

/-- The rows of the first table, each with its claims and retries, are the first rows of the
second; the others have ids that were not given out yet. -/
structure Lineage (New : Row → Prop) (claims retries : ℕ → ℕ) (t t' : Table) : Prop where
  nextId_le : t.nextId ≤ t'.nextId
  rows : ∃ (f : Row → Row) (new : List Row), t'.rows = t.rows.map f ++ new ∧
    (∀ r ∈ t.rows, Evolves (claims r.id) (retries r.id) r (f r)) ∧
    ∀ r ∈ new, t.nextId ≤ r.id ∧ New r

def Kept (New : Row → Prop) : Prop := ∀ c q r r', New r → Evolves c q r r' → New r'

lemma kept_true : Kept fun _ => True := fun _ _ _ _ _ _ => trivial

variable {New : Row → Prop} {claims retries claims' retries' : ℕ → ℕ} {t t' t'' : Table} {now : ℤ} {nodeName : String}
  {id : ℕ}

lemma Lineage.refl (New : Row → Prop) (t : Table) : Lineage New 0 0 t t :=
  ⟨le_rfl,id,[],by simp,fun r _ => Evolves.refl r,by simp⟩

lemma Lineage.trans (hNew : Kept New)
    (h : Lineage New claims retries t t') (h' : Lineage New claims' retries' t' t'') :
    Lineage New (fun id => claims id + claims' id) (fun id => retries id + retries' id) t t'' := by
  obtain ⟨f,new,hrows,hold,hnew⟩ := h.rows
  obtain ⟨f',new',hrows',hold',hnew'⟩ := h'.rows
  refine ⟨h.nextId_le.trans h'.nextId_le,f' ∘ f,new.map f' ++ new',?_,?_,?_⟩
  · rw [hrows',hrows]
    simp
  · intro r hr
    have h₁ := hold r hr
    have h₂ := hold' (f r) (by rw [hrows]; exact mem_append_left _ (mem_map_of_mem hr))
    rw [h₁.id] at h₂
    exact h₁.trans h₂
  · intro r hr
    rcases mem_append.1 hr with hr | hr
    · obtain ⟨r₀,hr₀,rfl⟩ := mem_map.1 hr
      obtain ⟨h₁,h₂⟩ := hnew r₀ hr₀
      have h₃ := hold' r₀ (by rw [hrows]; exact mem_append_right _ hr₀)
      exact ⟨h₃.id ▸ h₁,hNew _ _ _ _ h₂ h₃⟩
    · exact ⟨h.nextId_le.trans (hnew' r hr).1,(hnew' r hr).2⟩

lemma Lineage.zero_trans (hNew : Kept New) (h : Lineage New 0 0 t t') (h' : Lineage New claims retries t' t'') :
    Lineage New claims retries t t'' := by simpa using h.trans hNew h'

lemma Lineage.update {p : Row → Bool} {f : Row → Row}
    (hreach : ∀ r ∈ t.rows, p r → Evolves (claims r.id) (retries r.id) r (f r))
    (hrest : ∀ r ∈ t.rows, p r = false → claims r.id = 0 ∧ retries r.id = 0) :
    Lineage New claims retries t (t.update p f) := by
  refine ⟨le_rfl,fun r => if p r then f r else r,[],by simp [Table.update,updateWhere],?_,by simp⟩
  intro r hr
  by_cases hp : p r
  · simpa [hp] using hreach r hr hp
  · obtain ⟨hc,hq⟩ := hrest r hr (by simpa using hp)
    simpa [hp,hc,hq] using Evolves.refl r

lemma Lineage.update_zero {p : Row → Bool} {f : Row → Row}
    (h : ∀ r ∈ t.rows, p r → Evolves 0 0 r (f r)) : Lineage New 0 0 t (t.update p f) :=
  .update h fun _ _ _ => ⟨rfl,rfl⟩

lemma Lineage.insertAssignment (ha : New (newRow now t.nextId a)) :
    Lineage New 0 0 t (insertAssignment now t a) :=
  ⟨Nat.le_succ _,id,[newRow now t.nextId a],by simp [Assignments.insertAssignment],
    fun r _ => Evolves.refl r,by simpa using ha⟩

lemma Lineage.foldl {α : Type*} {step : Table → α → Table} {l : List α}
    (hNew : Kept New)
    (h : ∀ t, ∀ a ∈ l, Lineage New 0 0 t (step t a)) (t : Table) : Lineage New 0 0 t (l.foldl step t) := by
  induction l generalizing t with
  | nil => exact .refl New t
  | cons a l ih =>
    have h₁ := h t a (by simp)
    have h₂ := ih (fun t b hb => h t b (by simp [hb])) (step t a)
    exact h₁.zero_trans hNew h₂

def Operation.inserted : Operation → List HostAssignment
  | .replace assignments => assignments
  | .enqueue assignments _ => assignments
  | _ => []

def claimedBy (t : Table) : ℤ × Operation → Option ℕ
  | (now,.claimNext nodeName) => (claimNextHostAssignment now t nodeName).2.map (·.id)
  | _ => none

/-- The id for which `RetryFailedHostAssignment` returns true: one that has a failed row. -/
def retriedBy (t : Table) : ℤ × Operation → Option ℕ
  | (_,.retryFailed id _) => if t.rows.any fun r => r.id = id && r.status = .failed then some id else none
  | _ => none

def once (o : Option ℕ) (id : ℕ) : ℕ := if o = some id then 1 else 0

@[simp] lemma once_none : once none = 0 := by
  funext id
  simp [once]

lemma expire_lineage (now : ℤ) (t : Table) (nodeName : String)
    (hNew : Kept New) :
    Lineage New 0 0 t (expire now t nodeName) := by
  have h₁ : Lineage New 0 0 t (t.update
      (fun r => r.nodeName = nodeName && r.status = .claimed && r.updatedAt ≤ now - 60) (expireLease now)) := by
    refine .update_zero fun r _ hr => evolves_expireLease now ?_
    simp only [and_eq_true,decide_eq_true_eq] at hr
    exact hr.1.2
  refine h₁.zero_trans hNew (.update_zero fun r _ hr => ?_)
  simp only [and_eq_true,decide_eq_true_eq] at hr
  exact .of_counters rfl rfl rfl rfl (by simp [HostAssignment.isFinal,hr.1.2])

lemma nextClaim_spec (h : nextClaim t nodeName = some r) :
    r ∈ t.rows ∧ r.nodeName = nodeName ∧ r.status = .pending ∧ r.attemptCount < r.maxAttempts := by
  obtain ⟨hr,hp⟩ := selectFirst_mem h
  simp only [and_eq_true,decide_eq_true_eq] at hp
  exact ⟨hr,hp.1.1,hp.1.2,hp.2⟩

lemma Keyed.eq_of_id (h : Keyed t) (hr : r ∈ t.rows) (hr' : r' ∈ t.rows) (hid : r.id = r'.id) : r = r' :=
  inj_on_of_nodup_map h.nodup hr hr' hid

lemma claimNext_lineage (hkey : Keyed t) (hNew : Kept New) (now : ℤ) (nodeName : String) :
    Lineage New (once (claimedBy t (now,.claimNext nodeName))) 0 t
      (claimNextHostAssignment now t nodeName).1 := by
  have hexpire := expire_lineage now t nodeName hNew
  have hkey' := hkey.expire now nodeName
  rw [claimedBy,claimNext_snd]
  unfold claimNextHostAssignment
  dsimp only
  split
  next hnone => simpa [hnone] using hexpire
  next r hsome =>
    obtain ⟨hr,-,hs,hlt⟩ := nextClaim_spec hsome
    have hclaim : Lineage New (once (some r.id)) 0 (expire now t nodeName)
        ((expire now t nodeName).update (fun r' => r'.id = r.id && r'.status = .pending) (claimRow now)) := by
      refine .update (fun r' hr' hp => ?_) fun r' hr' hp => ⟨?_,rfl⟩
      · simp only [and_eq_true,decide_eq_true_eq] at hp
        obtain rfl := hkey'.eq_of_id hr' hr hp.1
        simpa [once] using evolves_claimRow now hs hlt
      · have hne : r.id ≠ r'.id := by
          intro hid
          obtain rfl := hkey'.eq_of_id hr hr' hid
          simp [hs] at hp
        simp [once,hne]
    simpa [hsome,handOut] using hexpire.zero_trans hNew hclaim

lemma retryFailed_lineage (hkey : Keyed t) (now : ℤ) (id : ℕ) (message : String) :
    Lineage New 0 (once (retriedBy t (now,.retryFailed id message))) t
      (retryFailedHostAssignment now t id message) := by
  refine .update (fun r hr hp => ?_) fun r hr hp => ⟨rfl,?_⟩
  · simp only [and_eq_true,decide_eq_true_eq] at hp
    obtain ⟨rfl,hs⟩ := hp
    have hany : (t.rows.any fun r' => r'.id = r.id && r'.status = .failed) = true :=
      any_eq_true.2 ⟨r,hr,by simp [hs]⟩
    refine ⟨rfl,rfl,by simp,fun hle => ?_,fun hfinal => ?_⟩
    · -- within its budget the row is given at most one attempt more
      simp only [retriedBy,hany,once,if_true]
      split <;> constructor <;> push_cast <;> omega
    · simp [HostAssignment.isFinal,hs] at hfinal
  · simp only [retriedBy,once]
    split
    next hany =>
      obtain ⟨r',hr',hp'⟩ := any_eq_true.1 hany
      simp only [and_eq_true,decide_eq_true_eq] at hp'
      rw [if_neg]
      rintro h
      obtain rfl := Option.some.inj h
      obtain rfl := hkey.eq_of_id hr' hr hp'.1
      simp [hp'.2] at hp
    · simp

lemma supersede_lineage (now : ℤ) (message : String) (p : Row → Bool) :
    Lineage New 0 0 t (t.update (fun r => p r && r.isLive) (supersede now message)) := by
  refine .update_zero fun r _ hr => .of_counters rfl rfl rfl rfl (isFinal_of_isLive ?_)
  simp only [and_eq_true] at hr
  exact hr.2

/-- Every operation claims at most the row that it hands out and retries at most the one it revives. -/
lemma apply_lineage (hkey : Keyed t) (hNew : Kept New) (op : ℤ × Operation)
    (hop : ∀ a ∈ op.2.inserted, ∀ id, New (newRow op.1 id a)) :
    Lineage New (once (claimedBy t op)) (once (retriedBy t op)) t (apply t op) := by
  rcases op with ⟨now,_ | _ | _ | _ | _ | _ | _⟩
  case replace l =>
    cases l with
    | nil => simpa [claimedBy,retriedBy,apply,replaceHostAssignments] using Lineage.refl New t
    | cons front rest =>
      have hinsert : ∀ t, ∀ a ∈ front::rest, Lineage New 0 0 t (insertAssignment now t a) :=
        fun t a ha => .insertAssignment (hop a ha _)
      simpa [claimedBy,retriedBy,apply,replaceHostAssignments] using
        (supersede_lineage now _ _).zero_trans hNew (.foldl hNew hinsert _)
  case enqueue l reason =>
    have h : Lineage New 0 0 t (l.foldl (enqueueOne now reason) t) :=
      .foldl hNew (fun t a ha => (supersede_lineage now _ _).zero_trans hNew (.insertAssignment (hop a ha _))) t
    simpa [claimedBy,retriedBy,apply,enqueueHostAssignments] using h
  case supersedePlane planeName message =>
    have h : Lineage New 0 0 t (supersedeHostAssignmentsForPlane now t planeName message) :=
      supersede_lineage now message _
    simpa [claimedBy,retriedBy,apply] using h
  case claimNext nodeName => simpa [retriedBy,apply] using claimNext_lineage hkey hNew now nodeName
  case retryFailed id message => simpa [claimedBy,apply] using retryFailed_lineage hkey now id message
  case progress id progressJson =>
    have h : Lineage New 0 0 t (updateHostAssignmentProgress now t id progressJson) := by
      refine .update_zero fun r _ hr => .of_counters rfl rfl rfl rfl ?_
      simp only [and_eq_true,decide_eq_true_eq] at hr
      simp [HostAssignment.isFinal,hr.2]
    simpa [claimedBy,retriedBy,apply] using h
  case transitionClaimed id status message =>
    have h : Lineage New 0 0 t (transitionClaimedHostAssignment now t id status message) := by
      refine .update_zero fun r _ hr => .of_counters rfl rfl rfl rfl ?_
      simp only [and_eq_true,decide_eq_true_eq] at hr
      simp [HostAssignment.isFinal,hr.2]
    simpa [claimedBy,retriedBy,apply] using h

section Counts

variable (step : Table → ℤ × Operation → Table) (id : ℕ) (t : Table) (ops : List (ℤ × Operation))

def claimsOf : ℕ := countSteps step (fun t op => claimedBy t op = some id) t ops

def retriesOf : ℕ := countSteps step (fun t op => retriedBy t op = some id) t ops

end Counts

variable {ops ops' : List (ℤ × Operation)}

lemma run_lineage (hNew : Kept New) (hkey : Keyed t)
    (hops : ∀ op ∈ ops, ∀ a ∈ op.2.inserted, ∀ id, New (newRow op.1 id a)) :
    Lineage New (claimsOf apply · t ops) (retriesOf apply · t ops) t (run apply t ops) := by
  induction ops generalizing t with
  | nil => exact .refl New t
  | cons op ops ih =>
    have hstep := apply_lineage hkey hNew op (hops op (by simp))
    have hrest := ih (hkey.apply op) fun op' h => hops op' (by simp [h])
    simpa [claimsOf,retriesOf,countSteps,once] using hstep.trans hNew hrest

/-- Freshly inserted assignments have no attempts and a positive budget. -/
def Operation.Fresh (op : Operation) : Prop := ∀ a ∈ op.inserted, a.attemptCount = 0 ∧ 1 ≤ a.maxAttempts

def Row.Within (r : Row) : Prop := 0 ≤ r.attemptCount ∧ r.attemptCount ≤ r.maxAttempts

lemma kept_within : Kept Row.Within := by
  intro c q r r' h h'
  have hcount := h'.attemptCount
  have hbudget := h'.budget h.2
  have hnonneg := h.1
  exact ⟨by omega,hbudget.1⟩

lemma keyed_run (hkey : Keyed t) (ops : List (ℤ × Operation)) : Keyed (run apply t ops) := by
  induction ops generalizing t with
  | nil => exact hkey
  | cons op ops ih => exact ih (hkey.apply op)

variable {op : ℤ × Operation}

lemma Operation.Fresh.within (h : op.2.Fresh) : ∀ a ∈ op.2.inserted, ∀ id, (newRow op.1 id a).Within := by
  intro a ha id
  obtain ⟨h₁,h₂⟩ := h a ha
  simp only [Row.Within,newRow]
  constructor <;> omega

lemma Lineage.mem_cases (h : Lineage New claims retries t t') (hr' : r' ∈ t'.rows) :
    (∃ r ∈ t.rows, Evolves (claims r.id) (retries r.id) r r') ∨ t.nextId ≤ r'.id ∧ New r' := by
  obtain ⟨f,new,hrows,hold,hnew⟩ := h.rows
  rw [hrows] at hr'
  rcases mem_append.1 hr' with hr' | hr'
  · obtain ⟨r,hr,rfl⟩ := mem_map.1 hr'
    exact .inl ⟨r,hr,hold r hr⟩
  · exact .inr (hnew r' hr')

lemma Lineage.exists_mem (h : Lineage New claims retries t t') (hr : r ∈ t.rows) :
    ∃ r' ∈ t'.rows, Evolves (claims r.id) (retries r.id) r r' := by
  obtain ⟨f,new,hrows,hold,-⟩ := h.rows
  exact ⟨f r,by rw [hrows]; exact mem_append_left _ (mem_map_of_mem hr),hold r hr⟩

lemma Lineage.evolves (h : Lineage New claims retries t t') (hkey : Keyed t') (hr : r ∈ t.rows)
    (hr' : r' ∈ t'.rows) (hid : r'.id = r.id) : Evolves (claims r.id) (retries r.id) r r' := by
  obtain ⟨r'',hr'',h''⟩ := h.exists_mem hr
  rwa [hkey.eq_of_id hr' hr'' (hid.trans h''.id.symm)]

def emptied (nextId : ℕ) : Table := {nextId}

lemma keyed_emptied (nextId : ℕ) : Keyed (emptied nextId) := ⟨nodup_nil,nofun⟩

lemma within_run {nextId : ℕ} (hops : ∀ op ∈ ops, op.2.Fresh) :
    ∀ r ∈ (run apply (emptied nextId) ops).rows, r.Within := by
  intro r hr
  have h := run_lineage kept_within (keyed_emptied nextId) fun op hop => (hops op hop).within
  rcases h.mem_cases hr with ⟨r₀,hr₀,-⟩ | hnew
  · simp [emptied] at hr₀
  · exact hnew.2

def Has (id : ℕ) (t : Table) : Prop := ∃ r ∈ t.rows, r.id = id

lemma Lineage.has (h : Lineage New claims retries t t') (hid : Has id t) : Has id t' := by
  obtain ⟨r,hr,rfl⟩ := hid
  obtain ⟨r',hr',h'⟩ := h.exists_mem hr
  exact ⟨r',hr',h'.id⟩

lemma has_of_claimedBy (h : claimedBy t op = some id) : Has id t := by
  rcases op with ⟨now,_ | _ | _ | nodeName | _ | _ | _⟩
  case claimNext =>
    rw [claimedBy,claimNext_snd,Option.map_map,Option.map_eq_some_iff] at h
    obtain ⟨r,hsome,rfl⟩ := h
    -- the lease expiry adds no row
    have hexpire : Lineage (fun _ => False) 0 0 t (expire now t nodeName) :=
      expire_lineage now t nodeName fun _ _ _ _ h _ => h
    rcases hexpire.mem_cases (nextClaim_spec hsome).1 with ⟨r₀,hr₀,h₀⟩ | hnew
    · exact ⟨r₀,hr₀,h₀.id.symm⟩
    · exact hnew.2.elim
  all_goals simp [claimedBy] at h

lemma run_lineage_true (hkey : Keyed t) (ops : List (ℤ × Operation)) :
    Lineage (fun _ => True) (claimsOf apply · t ops) (retriesOf apply · t ops) t (run apply t ops) :=
  run_lineage kept_true hkey fun _ _ _ _ _ => trivial

lemma claimsOf_eq_zero (hkey : Keyed t) (hend : ¬ Has id (run apply t ops)) :
    claimsOf apply id t ops = 0 := by
  induction ops generalizing t with
  | nil => rfl
  | cons op ops ih =>
    have hlater := ih (hkey.apply op) hend
    have hnone : claimedBy t op ≠ some id := by
      intro hop
      exact hend ((run_lineage_true hkey (op::ops)).has (has_of_claimedBy hop))
    rw [claimsOf] at hlater ⊢
    simp [countSteps,hlater,hnone]

lemma claimedBy_attemptCount (hkey : Keyed t) (h : claimedBy t op = some id) :
    ∃ r ∈ t.rows, ∃ r' ∈ (apply t op).rows, r.id = id ∧ r'.id = id ∧ r'.attemptCount = r.attemptCount + 1 := by
  obtain ⟨r,hr,hid⟩ := has_of_claimedBy h
  have hlineage := apply_lineage hkey kept_true op fun _ _ _ => trivial
  obtain ⟨r',hr',h'⟩ := hlineage.exists_mem hr
  refine ⟨r,hr,r',hr',hid,h'.id.trans hid,?_⟩
  simpa [h,once,hid] using h'.attemptCount

/-- The claims of a row that the operation inserts stay within its budget and its retries. -/
lemma claimsOf_le {nextId : ℕ} (hops : ∀ o ∈ ops ++ op::ops', o.2.Fresh)
    (hr : r ∈ (apply (run apply (emptied nextId) ops) op).rows) (hnew : ¬ Has r.id (run apply (emptied nextId) ops)) :
    (claimsOf apply r.id (emptied nextId) (ops ++ op::ops') : ℤ) ≤
      r.maxAttempts + retriesOf apply r.id (emptied nextId) (ops ++ op::ops') := by
  have hkey := keyed_run (keyed_emptied nextId) ops
  have hop : claimedBy (run apply (emptied nextId) ops) op ≠ some r.id := fun h => hnew (has_of_claimedBy h)
  have hclaims : claimsOf apply r.id (emptied nextId) (ops ++ op::ops') =
      claimsOf apply r.id (apply (run apply (emptied nextId) ops) op) ops' := by
    rw [show claimsOf apply r.id (emptied nextId) (ops ++ op::ops') = claimsOf apply r.id (emptied nextId) ops + _
      from countSteps_append _ _ _ _,claimsOf_eq_zero (keyed_emptied nextId) hnew]
    simp [claimsOf,countSteps,hop]
  have hretries : retriesOf apply r.id (apply (run apply (emptied nextId) ops) op) ops' ≤
      retriesOf apply r.id (emptied nextId) (ops ++ op::ops') := by
    simp only [retriesOf,countSteps_append,countSteps]
    omega
  have hwithin : r.Within := by
    have hfresh : ∀ o ∈ ops ++ [op], o.2.Fresh := fun o ho => hops o (by simp at ho ⊢; tauto)
    exact within_run hfresh r (by simpa [run_append] using hr)
  -- the counters of the row at the end of the run bound the claims that it went through
  have hlineage := run_lineage kept_within (hkey.apply op)
    fun o (ho : o ∈ ops') => (hops o (by simp [ho])).within
  obtain ⟨r',-,h'⟩ := hlineage.exists_mem hr
  have hcount := h'.attemptCount
  obtain ⟨hle,hmax⟩ := h'.budget hwithin.2
  have hnonneg := hwithin.1
  omega

/-- Along the run every assignment stays within its budget, each claim counts once, the claims
are bounded by the budget and the retries, and a finished assignment stays finished. -/
structure Budgeted (step : Table → ℤ × Operation → Table) (t : Table) (ops : List (ℤ × Operation)) : Prop where
  within : ∀ before after, ops = before ++ after → ∀ r ∈ (run step t before).rows, r.attemptCount ≤ r.maxAttempts
  counted : ∀ before op after, ops = before ++ op::after → ∀ id, claimedBy (run step t before) op = some id →
    ∃ r ∈ (run step t before).rows, ∃ r' ∈ (step (run step t before) op).rows,
      r.id = id ∧ r'.id = id ∧ r'.attemptCount = r.attemptCount + 1
  claims : ∀ before op after, ops = before ++ op::after → ∀ r ∈ (step (run step t before) op).rows,
    ¬ Has r.id (run step t before) → (claimsOf step r.id t ops : ℤ) ≤ r.maxAttempts + retriesOf step r.id t ops
  final : ∀ before after, ops = before ++ after → ∀ r ∈ (run step t before).rows,
    ∀ r' ∈ (run step t ops).rows, r'.id = r.id → r.isFinal → r'.isFinal

lemma budgeted_apply (nextId : ℕ) (hops : ∀ op ∈ ops, op.2.Fresh) : Budgeted apply (emptied nextId) ops where
  within := by
    rintro before after rfl r hr
    exact (within_run (fun op hop => hops op (by simp [hop])) r hr).2
  counted before op after _ id h := claimedBy_attemptCount (keyed_run (keyed_emptied nextId) before) h
  claims := by
    rintro before op after rfl r hr hnew
    exact claimsOf_le hops hr hnew
  final := by
    rintro before after rfl r hr r' hr' hid hfinal
    have hkey := keyed_run (keyed_emptied nextId) before
    rw [run_append] at hr'
    exact ((run_lineage_true hkey after).evolves (keyed_run hkey after) hr hr' hid).final hfinal

lemma Budgeted.congr {step step' : Table → ℤ × Operation → Table} (hb : Budgeted step' t ops)
    (hsame : Guarded step (fun t op => step' t op = step t op) t ops) : Budgeted step t ops := by
  have hrun : ∀ before after, ops = before ++ after → run step t before = run step' t before := by
    rintro before after rfl
    exact (run_congr (guarded_append.1 hsame).1).symm
  have hstep : ∀ before op after, ops = before ++ op::after →
      step (run step' t before) op = step' (run step' t before) op := by
    intro before op after h
    rw [← hrun before _ h]
    exact (guarded_iff_split.1 hsame before op after h).symm
  have hcount : ∀ p, countSteps step p t ops = countSteps step' p t ops := fun p => (countSteps_congr hsame).symm
  refine ⟨fun before after h => ?_,fun before op after h => ?_,fun before op after h => ?_,fun before after h => ?_⟩
  · rw [hrun before after h]
    exact hb.within before after h
  · rw [hrun before _ h,hstep before op after h]
    exact hb.counted before op after h
  · rw [hrun before _ h,hstep before op after h]
    simp only [claimsOf,retriesOf,hcount]
    exact hb.claims before op after h
  · rw [hrun before after h,hrun ops [] (by simp)]
    exact hb.final before after h

/-- `sqlite3_column_int` on the id of a row. -/
def columnInt (id : ℕ) : Int32 := Int32.ofNat id

lemma toInt_columnInt : (id : ℤ) = (columnInt id).toInt ↔ id < 2^31 := by
  rw [columnInt,Int32.toInt_ofNat',Int.bmod_def,show (Int32.size : ℤ) = 4294967296 from rfl]
  omega

/-- `ClaimNextHostAssignment` with the id as the code holds it: it is read into an `int`,
which is handed out with the assignment and which the update is bound to. -/
def claimNextInt (now : ℤ) (t : Table) (nodeName : String) : Table × Option (Int32 × HostAssignment) :=
  let t := expire now t nodeName
  match nextClaim t nodeName with
  | none => (t,none)
  | some r =>
    (t.update (fun r' => r'.id = (columnInt r.id).toInt && r'.status = .pending) (claimRow now),
      some (columnInt r.id,handOut r.toHostAssignment))

/-- The other statements are bound to an `int` of the caller; a negative one finds no row. -/
def applyInt (t : Table) : ℤ × Operation → Table
  | (now,.claimNext nodeName) => (claimNextInt now t nodeName).1
  | op => apply t op

/-- The operation hands out no id beyond the range of an `int`. -/
def NarrowClaim (t : Table) (op : ℤ × Operation) : Prop := ∀ id ∈ claimedBy t op, id < 2^31

instance (t : Table) (op : ℤ × Operation) : Decidable (NarrowClaim t op) :=
  inferInstanceAs (Decidable (∀ id ∈ claimedBy t op, id < 2^31))

lemma claimedBy_of_nextClaim (h : nextClaim (expire now t nodeName) nodeName = some r) :
    claimedBy t (now,.claimNext nodeName) = some r.id := by
  rw [claimedBy,claimNext_snd,h]
  rfl

lemma applyInt_eq (h : NarrowClaim t op) : applyInt t op = apply t op := by
  rcases op with ⟨now,_ | _ | _ | nodeName | _ | _ | _⟩
  case claimNext =>
    unfold applyInt claimNextInt apply claimNextHostAssignment
    dsimp only
    cases hnext : nextClaim (expire now t nodeName) nodeName with
    | none => rfl
    | some r =>
      have hid := toInt_columnInt.2 (h r.id (claimedBy_of_nextClaim hnext))
      simp only [← hid,Int.ofNat_inj]
  all_goals rfl

lemma Keyed.applyInt (h : Keyed t) (op : ℤ × Operation) : Keyed (applyInt t op) := by
  rcases op with ⟨now,_ | _ | _ | nodeName | _ | _ | _⟩
  case claimNext =>
    unfold Assignments.applyInt claimNextInt
    dsimp only
    split
    · exact h.expire now nodeName
    · exact (h.expire now nodeName).update fun _ => rfl
  case replace l => exact h.apply (now,.replace l)
  case enqueue l reason => exact h.apply (now,.enqueue l reason)
  case supersedePlane plane message => exact h.apply (now,.supersedePlane plane message)
  case progress id progressJson => exact h.apply (now,.progress id progressJson)
  case transitionClaimed id status message => exact h.apply (now,.transitionClaimed id status message)
  case retryFailed id message => exact h.apply (now,.retryFailed id message)

lemma applyInt_uncounted (hkey : Keyed t) (h : claimedBy t op = some id) (hwide : ¬ id < 2^31)
    (hr : r ∈ t.rows) (hid : r.id = id) (hr' : r' ∈ (applyInt t op).rows) (hid' : r'.id = id) :
    r'.attemptCount = r.attemptCount := by
  rcases op with ⟨now,_ | _ | _ | nodeName | _ | _ | _⟩
  case claimNext =>
    cases hnext : nextClaim (expire now t nodeName) nodeName with
    | none => simp [claimedBy,claimNext_snd,hnext] at h
    | some next =>
      obtain rfl := Option.some.inj ((claimedBy_of_nextClaim hnext).symm.trans h)
      simp only [applyInt,claimNextInt,hnext] at hr'
      obtain ⟨found,hfound,rfl⟩ := mem_updateWhere.1 hr'
      have hmiss : ¬ (found.id : ℤ) = (columnInt next.id).toInt := by
        intro hhit
        have hid'' : found.id = next.id := by
          split at hid' <;> exact hid'
        exact hwide (toInt_columnInt.1 (hid'' ▸ hhit))
      rw [if_neg (by simp [hmiss])] at hid' ⊢
      have hexpire := expire_lineage now t nodeName kept_true
      have hevolves := hexpire.evolves (hkey.expire now nodeName) hr hfound (hid'.trans hid.symm)
      simpa using hevolves.attemptCount
  all_goals simp [claimedBy] at h

lemma keyed_runInt (hkey : Keyed t) (ops : List (ℤ × Operation)) : Keyed (run applyInt t ops) := by
  induction ops generalizing t with
  | nil => exact hkey
  | cons op ops ih => exact ih (hkey.applyInt op)

/-- The budget holds along a history exactly when it hands out no id beyond an `int`. -/
theorem attempt_budget_iff (nextId : ℕ) (ops : List (ℤ × Operation)) (hops : ∀ op ∈ ops, op.2.Fresh) :
    Budgeted applyInt (emptied nextId) ops ↔ Guarded applyInt NarrowClaim (emptied nextId) ops := by
  constructor
  · intro h
    refine guarded_iff_split.2 fun before op after hsplit id hclaimed => ?_
    obtain ⟨r,hr,r',hr',hid,hid',hcount⟩ := h.counted before op after hsplit id hclaimed
    by_contra hwide
    have hsame := applyInt_uncounted (keyed_runInt (keyed_emptied nextId) before) hclaimed hwide hr hid hr' hid'
    omega
  · intro h
    have hsame : Guarded applyInt (fun t op => apply t op = applyInt t op) (emptied nextId) ops :=
      h.mono fun t op hop => (applyInt_eq hop).symm
    exact (budgeted_apply nextId hops).congr hsame

/-- One assignment fails its only attempt, is retried once and applied. -/
def retriedHistory : List (ℤ × Operation) :=
  [(0,.enqueue [{nodeName := "node-a", planeName := "alpha", maxAttempts := 1}] ""),
   (1,.claimNext "node-a"),(2,.transitionClaimed 1 .failed "attempt 1/1 exhausted: no disk"),
   (3,.retryFailed 1 "requeued by operator for desired generation 1"),
   (4,.claimNext "node-a"),(5,.transitionClaimed 1 .applied "applied desired generation 1")]

/-- The budget of one attempt and the one retry allow exactly the two claims of the history. -/
theorem attempt_budget_retriedHistory :
    (∀ op ∈ retriedHistory, op.2.Fresh) ∧ claimsOf applyInt 1 (emptied 1) retriedHistory = 2 ∧
      retriesOf applyInt 1 (emptied 1) retriedHistory = 1 ∧ Budgeted applyInt (emptied 1) retriedHistory := by
  have hfresh : ∀ op ∈ retriedHistory, op.2.Fresh := by
    simp [retriedHistory,Operation.Fresh,Operation.inserted]
  refine ⟨hfresh,by decide +kernel,by decide +kernel,(attempt_budget_iff 1 retriedHistory hfresh).2 ?_⟩
  decide +kernel

/-- With the id `2^31` an assignment of one attempt is handed out again and again. -/
theorem attempt_uncounted :
    let ops : List (ℤ × Operation) :=
      [(0,.enqueue [{nodeName := "node-a", planeName := "alpha", maxAttempts := 1}] ""),
        (1,.claimNext "node-a"),(2,.claimNext "node-a")]
    (∀ op ∈ ops, op.2.Fresh) ∧ claimsOf applyInt (2^31) (emptied (2^31)) ops = 2 ∧
      ¬ Budgeted applyInt (emptied (2^31)) ops := by
  intro ops
  refine ⟨by simp [ops,Operation.Fresh,Operation.inserted],by decide +kernel,fun h => ?_⟩
  have hle := h.claims [] _ _ rfl
    {id := 2^31, nodeName := "node-a", planeName := "alpha", maxAttempts := 1, updatedAt := 0}
    (by decide +kernel) (by simp [Has,emptied])
  revert hle
  decide +kernel

end Naim.Assignments
