import Mathlib.Data.Prod.Lex
import Naim.SchedulingPolicy

/-!
# The sort orders of the scheduler

Victims and placement candidates are sorted by exact keys and by fractions that count
as equal within a tolerance. Such a comparison is a strict weak order only on rows
without a chain of near-equal fractions.
-/

namespace Naim.SchedulingPolicy

section Tolerant

variable {σ κ τ : Type} [LinearOrder κ] [LinearOrder τ] (rank : σ → κ) (size : σ → ℚ) (tie : σ → τ)

/-- By rank, then the larger size where the sizes are apart, then by tie. -/
def Tolerant (a b : σ) : Prop := rank a < rank b ∨ rank a = rank b ∧ (size b + kFractionEpsilon < size a ∨
  |size a - size b| ≤ kFractionEpsilon ∧ tie a < tie b)

/-- Sizes that grow along the ties by steps within the tolerance stay within it. -/
def Chainless : Prop := ∀ a b c, rank a = rank b → rank b = rank c → |size a - size b| ≤ kFractionEpsilon →
  |size b - size c| ≤ kFractionEpsilon → tie a ≤ tie b → tie b ≤ tie c → size c ≤ size a + kFractionEpsilon

variable {rank size tie} {lt : σ → σ → Prop}

lemma isStrictWeakOrder_iff (hlt : ∀ a b, lt a b ↔ Tolerant rank size tie a b) :
    IsStrictWeakOrder σ lt ↔ Chainless rank size tie := by
  have hpos := kFractionEpsilon_pos
  simp only [Tolerant,abs_le] at hlt
  have hasymm : ∀ a b, lt a b → ¬lt b a := by grind
  constructor
  · intro h a b c hab hbc hnear hnear' htie htie'
    by_contra hfar
    have hca : lt c a := (hlt c a).2 (.inr ⟨by grind,.inl (by linarith)⟩)
    have hcb : ¬lt c b := by grind
    have hba : ¬lt b a := by grind
    have hbc := fun hbc => hba (h.trans b c a hbc hca)
    have hab := fun hab => hcb (h.trans c a b hca hab)
    exact (h.incomp_trans a b c ⟨hab,hba⟩ ⟨hbc,hcb⟩).2 hca
  · intro h
    -- what lies between two rows is after the first or before the second
    have hbetween : ∀ a b c, lt a c → lt a b ∨ lt b c := by
      intro a b c
      have h₁ := h c b a
      have h₂ := h b a c
      have h₃ := h a c b
      simp only [abs_le] at h₁ h₂ h₃
      grind
    exact {
      irrefl := fun a haa => hasymm a a haa haa
      trans := fun a b c hab hbc => (hbetween a c b hab).resolve_right (hasymm b c hbc)
      incomp_trans := fun a b c hab hbc =>
        ⟨fun hac => (hbetween a b c hac).elim hab.1 hbc.1,fun hca => (hbetween c b a hca).elim hbc.2 hab.2⟩}

end Tolerant

def victimTie (w : WorkerAllocationRecord) : ℤ ×ₗ String := toLex (-(w.memoryCapMb.getD 0).toInt,w.workerName)

lemma victimBefore_iff (a b : WorkerAllocationRecord) :
    victimBefore a b ↔ Tolerant (·.priority.toInt) (·.gpuFraction) victimTie a b := by
  have := kFractionEpsilon_pos
  simp only [victimBefore,Tolerant,victimTie,Prod.Lex.toLex_lt_toLex,gt_iff_lt,lt_abs,abs_le,
    Int32.lt_iff_toInt_lt,ne_eq,← Int32.toInt_inj]
  grind

def candidateRank (policy : String) (c : PlacementCandidate) : List ℤ :=
  [placementCandidatePolicyRank policy c,-c.score.toInt,(!c.sameNode).toNat,c.preemptionRequired.toNat,(!c.idle).toNat]

lemma candidateBefore_iff (policy : String) (a b : PlacementCandidate) :
    candidateBefore policy a b ↔ Tolerant (candidateRank policy) (·.freeFraction)
      (fun c => [c.nodeName,c.gpuDevice]) a b := by
  have := kFractionEpsilon_pos
  simp only [candidateBefore,Tolerant,candidateRank,gt_iff_lt,lt_abs,abs_le,Int32.lt_iff_toInt_lt,ne_eq,
    ← Int32.toInt_inj,List.cons_lt_cons_iff]
  grind

/-- The comparators are strict weak orders exactly on the rows without a chain. -/
theorem sortOrders_strictWeak_iff (victims : List WorkerAllocationRecord) (policy : String)
    (candidates : List PlacementCandidate) :
    (IsStrictWeakOrder {w // w ∈ victims} (fun a b => victimBefore a b) ↔
      Chainless (fun w : {w // w ∈ victims} => w.1.priority.toInt) (·.1.gpuFraction) (victimTie ·.1)) ∧
    (IsStrictWeakOrder {c // c ∈ candidates} (fun a b => candidateBefore policy a b) ↔
      Chainless (fun c : {c // c ∈ candidates} => candidateRank policy c) (·.1.freeFraction)
        fun c => [c.1.nodeName,c.1.gpuDevice]) :=
  ⟨isStrictWeakOrder_iff fun a b => victimBefore_iff a b,
    isStrictWeakOrder_iff fun a b => candidateBefore_iff policy a b⟩

/-- Three fractions one tolerance apart make a cycle, and the order of the input decides the result. -/
theorem victims_cycle :
    let worker (n : ℕ) : WorkerAllocationRecord :=
      ⟨"","","",.bestEffort,n*kFractionEpsilon,0,true,some (4 - Int32.ofNat n),true⟩
    ¬IsStrictWeakOrder {w // w ∈ [worker 1,worker 2,worker 3]} (fun a b => victimBefore a b) ∧
      Rows.sortBy victimBefore [worker 1,worker 2,worker 3] ≠
        Rows.sortBy victimBefore [worker 2,worker 3,worker 1] := by
  intro worker
  refine ⟨fun h => ?_,by decide +kernel⟩
  exact absurd (h.trans ⟨worker 1,by simp⟩ ⟨worker 2,by simp⟩ ⟨worker 3,by simp⟩) (by decide +kernel)

end Naim.SchedulingPolicy
