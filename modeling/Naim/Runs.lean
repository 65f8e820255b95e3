import Mathlib.Data.List.Basic

/-!
# Guarded runs of a deterministic system

A system is a step function over operations. A run is guarded when every
operation meets a condition in the state where it is applied.
-/

namespace Naim.Runs

variable {σ α : Type*} {step : σ → α → σ} {ok : σ → α → Prop} {Inv : σ → Prop} {s : σ} {ops ops' : List α}

/-- The state after the operations, taken from left to right. -/
def run (step : σ → α → σ) (s : σ) (ops : List α) : σ := ops.foldl step s

@[simp] lemma run_nil (step : σ → α → σ) (s : σ) : run step s [] = s := rfl
@[simp] lemma run_cons (step : σ → α → σ) (s : σ) (a : α) (ops : List α) :
    run step s (a::ops) = run step (step s a) ops := rfl

/-- Each operation satisfies `ok` in the state that it is applied to. -/
def Guarded (step : σ → α → σ) (ok : σ → α → Prop) : σ → List α → Prop
  | _, [] => True
  | s, a::ops => ok s a ∧ Guarded step ok (step s a) ops

instance decidableGuarded [∀ s a, Decidable (ok s a)] :
    ∀ (ops : List α) (s : σ), Decidable (Guarded step ok s ops)
  | [], _ => isTrue trivial
  | a::ops, s =>
    haveI := decidableGuarded ops (step s a)
    inferInstanceAs (Decidable (ok s a ∧ Guarded step ok (step s a) ops))

lemma Guarded.take (h : Guarded step ok s ops) (n : ℕ) : Guarded step ok s (ops.take n) := by
  induction ops generalizing s n with
  | nil => simpa using h
  | cons a ops ih =>
    cases n with
    | zero => trivial
    | succ n => exact ⟨h.1,ih h.2 n⟩

lemma guarded_true (ops : List α) : Guarded step (fun _ _ => True) s ops := by
  induction ops generalizing s with
  | nil => trivial
  | cons a ops ih => exact ⟨trivial,ih⟩

/-- What every admitted step preserves holds after every guarded run. -/
theorem run_invariant (hstep : ∀ s a, Inv s → ok s a → Inv (step s a)) {ops : List α} {s : σ}
    (hs : Inv s) (hops : Guarded step ok s ops) : Inv (run step s ops) := by
  induction ops generalizing s with
  | nil => exact hs
  | cons a ops ih => exact ih (hstep s a hs hops.1) hops.2

/-- If a step keeps `Inv` exactly when it is admitted, then `Inv` holds in every
state of a run exactly when the run is guarded. -/
theorem invariant_iff_guarded {Aux : σ → Prop} {dom : α → Prop}
    (haux : ∀ s a, Aux s → dom a → Aux (step s a))
    (hiff : ∀ s a, Aux s → dom a → Inv s → (Inv (step s a) ↔ ok s a)) {ops : List α} {s : σ}
    (hdom : ∀ a ∈ ops, dom a) (hx : Aux s) (hs : Inv s) :
    (∀ n, Inv (run step s (ops.take n))) ↔ Guarded step ok s ops := by
  induction ops generalizing s with
  | nil => simpa [Guarded] using hs
  | cons a ops ih =>
    have ha := hdom a (by simp)
    have hrest : Inv (step s a) → ((∀ n, Inv (run step (step s a) (ops.take n))) ↔
        Guarded step ok (step s a) ops) :=
      ih (fun b hb => hdom b (by simp [hb])) (haux s a hx ha)
    constructor
    · intro h
      have h₁ : Inv (step s a) := by simpa using h 1
      exact ⟨(hiff s a hx ha hs).1 h₁,(hrest h₁).1 fun n => by simpa using h (n + 1)⟩
    · rintro ⟨hok,hg⟩ n
      have h₁ := (hiff s a hx ha hs).2 hok
      cases n with
      | zero => exact hs
      | succ n => simpa using (hrest h₁).2 hg n

lemma guarded_append :
    Guarded step ok s (ops ++ ops') ↔ Guarded step ok s ops ∧ Guarded step ok (run step s ops) ops' := by
  induction ops generalizing s with
  | nil => simp [Guarded]
  | cons a ops ih => simp [Guarded,ih,and_assoc]

lemma guarded_concat {a : α} : Guarded step ok s (ops ++ [a]) ↔ Guarded step ok s ops ∧ ok (run step s ops) a := by
  rw [guarded_append]
  simp [Guarded]

lemma guarded_iff_split {ops : List α} {s : σ} : Guarded step ok s ops ↔
    ∀ before a after, ops = before ++ a::after → ok (run step s before) a := by
  induction ops generalizing s with
  | nil => simp [Guarded]
  | cons b ops ih =>
    rw [Guarded,ih]
    constructor
    · rintro ⟨hb,hrest⟩ before a after h
      cases before with
      | nil =>
        obtain ⟨rfl,-⟩ := List.cons.inj h
        exact hb
      | cons c before =>
        obtain ⟨rfl,hops⟩ := List.cons.inj h
        exact hrest before a after hops
    · intro h
      exact ⟨h [] b ops rfl,fun before a after hops => h (b::before) a after (by rw [hops]; rfl)⟩

lemma Guarded.mono {ok' : σ → α → Prop} {ops : List α} {s : σ} (h : Guarded step ok s ops)
    (himp : ∀ s a, ok s a → ok' s a) : Guarded step ok' s ops :=
  guarded_iff_split.2 fun before a after hops => himp _ _ (guarded_iff_split.1 h before a after hops)

lemma run_congr {step' : σ → α → σ} {ops : List α} {s : σ}
    (h : Guarded step (fun s a => step' s a = step s a) s ops) : run step' s ops = run step s ops := by
  induction ops generalizing s with
  | nil => rfl
  | cons a ops ih => rw [run_cons,run_cons,h.1,ih h.2]

/-- The number of steps of the run that meet `p`. -/
def countSteps (step : σ → α → σ) (p : σ → α → Bool) : σ → List α → ℕ
  | _, [] => 0
  | s, a::ops => (if p s a then 1 else 0) + countSteps step p (step s a) ops

@[simp] lemma countSteps_nil (p : σ → α → Bool) (s : σ) : countSteps step p s [] = 0 := rfl

lemma run_append (s : σ) (ops ops' : List α) :
    run step s (ops ++ ops') = run step (run step s ops) ops' := List.foldl_append

lemma countSteps_append (p : σ → α → Bool) (s : σ) (ops ops' : List α) :
    countSteps step p s (ops ++ ops') = countSteps step p s ops + countSteps step p (run step s ops) ops' := by
  induction ops generalizing s with
  | nil => simp
  | cons a ops ih => simp [countSteps,ih,Nat.add_assoc]

lemma countSteps_congr {step' : σ → α → σ} {p : σ → α → Bool} {ops : List α} {s : σ}
    (h : Guarded step (fun s a => step' s a = step s a) s ops) :
    countSteps step' p s ops = countSteps step p s ops := by
  induction ops generalizing s with
  | nil => rfl
  | cons a ops ih => rw [countSteps,countSteps,h.1,ih h.2]

/-- Some operation of the run meets `p`, and none behind it meets `q`. -/
def Since (step : σ → α → σ) (p q : σ → α → Prop) (s : σ) (ops : List α) : Prop :=
  ∃ before a after, ops = before ++ a::after ∧ p (run step s before) a ∧
    Guarded step (fun s a => ¬ q s a) (step (run step s before) a) after

lemma since_concat {p q : σ → α → Prop} {s : σ} {ops : List α} {a : α} : Since step p q s (ops ++ [a]) ↔
    p (run step s ops) a ∨ Since step p q s ops ∧ ¬ q (run step s ops) a := by
  constructor
  · rintro ⟨before,b,after,hops,hp,hafter⟩
    rcases List.eq_nil_or_concat after with rfl | ⟨after,c,rfl⟩
    · obtain ⟨rfl,hb⟩ := List.append_inj' hops rfl
      obtain ⟨rfl,-⟩ := List.cons.inj hb
      exact .inl hp
    · rw [List.concat_eq_append,← List.cons_append,← List.append_assoc] at hops
      obtain ⟨rfl,hc⟩ := List.append_inj' hops rfl
      obtain ⟨rfl,-⟩ := List.cons.inj hc
      rw [List.concat_eq_append,guarded_concat] at hafter
      refine .inr ⟨⟨before,b,after,rfl,hp,hafter.1⟩,?_⟩
      rw [run_append,run_cons]
      exact hafter.2
  · rintro (hp | ⟨⟨before,b,after,rfl,hp,hafter⟩,hq⟩)
    · exact ⟨ops,a,[],rfl,hp,trivial⟩
    · refine ⟨before,b,after ++ [a],by simp,hp,guarded_concat.2 ⟨hafter,?_⟩⟩
      rw [run_append,run_cons] at hq
      exact hq

end Naim.Runs
