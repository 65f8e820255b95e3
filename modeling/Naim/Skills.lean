import Naim.Runs
import Mathlib.Data.Finset.Empty
import Mathlib.Data.List.Induction
import Mathlib.Logic.Function.Basic

/-!
# Partial updates of a skill

`ReplaceSkill` reads the stored skill in one locked section and writes it back,
merged with the update, in another. Sections of other calls may run in between.
-/

namespace Naim.Skills

open List Runs

inductive Field
  | name | description | content | matchTerms | internal | enabled | sessionIds | naimLinks

/-- Session ids and links are rows of tables of their own. -/
def Field.Value : Field → Type
  | .name | .description | .content => String
  | .matchTerms => List String
  | .internal | .enabled => Bool
  | .sessionIds | .naimLinks => Finset String

abbrev Skill := (f : Field) → f.Value

/-- The fields that a normalised partial payload sets. -/
abbrev Update := (f : Field) → Option f.Value

def merged (existing : Skill) (update : Update) : Skill := fun f => (update f).getD (existing f)

lemma merged_of_none {f : Field} {update : Update} (h : update f = none) (s : Skill) : merged s update f = s f := by
  simp [merged,h]

/-- The locked sections of a call that finds the skill. -/
inductive Section (ι : Type)
  | find (call : ι)
  | replace (call : ι)
  deriving DecidableEq

structure Config (ι : Type) where
  stored : Skill
  existing : ι → Skill

variable {ι : Type} {sections : List (Section ι)}

/-- Every section runs at most once, and a call replaces the skill that it has found. -/
structure Interleaved (sections : List (Section ι)) : Prop where
  nodup : sections.Nodup
  ordered : ∀ before rest i, sections = before ++ .replace i::rest → .find i ∈ before

def Isolated (sections : List (Section ι)) : Prop :=
  ∀ before during rest i j, sections = before ++ .find i::(during ++ .replace i::rest) → .replace j ∉ during

def Apart (updates : ι → Update) : Prop := ∀ i j f, i ≠ j → updates i f = none ∨ updates j f = none

variable [DecidableEq ι] {updates : ι → Update} {before during rest : List (Section ι)}

def step (updates : ι → Update) (c : Config ι) : Section ι → Config ι
  | .find i => {c with existing := Function.update c.existing i c.stored}
  | .replace i => {c with stored := merged (c.existing i) (updates i)}

def result (updates : ι → Update) (skill : Skill) (sections : List (Section ι)) : Config ι :=
  run (step updates) ⟨skill,fun _ => skill⟩ sections

def Kept (updates : ι → Update) (skill : Skill) (sections : List (Section ι)) : Prop :=
  ∀ i, .replace i ∈ sections → ∀ f v, updates i f = some v → (result updates skill sections).stored f = v

lemma kept_of_isolated (hsections : Interleaved sections) (h : Isolated sections) (hapart : Apart updates)
    (skill : Skill) : Kept updates skill sections := by
  suffices hdone : ∀ done left, sections = done ++ left → Kept updates skill done ∧ ∀ i, .find i ∈ done →
      .replace i ∈ left → (result updates skill done).existing i = (result updates skill done).stored from
    (hdone sections [] (by simp)).1
  intro done
  induction done using List.reverseRecOn with
  | nil => simp [Kept]
  | append_singleton done s ih =>
    intro left hleft
    rw [append_assoc,singleton_append] at hleft
    obtain ⟨hkept,hcopies⟩ := ih _ hleft
    have hresult : result updates skill (done ++ [s]) = step updates (result updates skill done) s := run_append ..
    cases s with
    | find k =>
      refine ⟨fun i hi f v hv => hresult ▸ hkept i (by simpa using hi) f v hv,fun i hi hr => ?_⟩
      rw [hresult]
      by_cases hik : i = k
      · simp [step,hik]
      · simpa [step,hik] using hcopies i (by simpa [hik] using hi) (by simp [hr])
    | replace k =>
      constructor
      · intro i hi f v hv
        simp only [hresult,step,hcopies k (hsections.ordered _ _ k hleft) (by simp)]
        by_cases hik : i = k
        · simp [merged,← hik,hv]
        · have hnone := (hapart i k f hik).resolve_left (by simp [hv])
          rw [merged_of_none hnone,hkept i (by simpa [hik] using hi) f v hv]
      · intro i hi hr
        obtain ⟨before,during,rfl⟩ := append_of_mem (show .find i ∈ done by simpa using hi)
        obtain ⟨during',rest,rfl⟩ := append_of_mem hr
        exact absurd (by simp) (h before (during ++ .replace k::during') rest i k (by simp [hleft]))

lemma copies_run (updates : ι → Update) (sections : List (Section ι)) (P : Skill → Prop) (calls : Set ι) (c : Config ι)
    (h : P c.stored ∧ ∀ k ∈ calls, P (c.existing k))
    (hkeep : ∀ k, .replace k ∈ sections → k ∈ calls ∧ ∀ s, P s → P (merged s (updates k))) :
    P (run (step updates) c sections).stored ∧ ∀ k ∈ calls, P ((run (step updates) c sections).existing k) := by
  induction sections generalizing c with
  | nil => exact h
  | cons s sections ih =>
    refine ih _ ?_ fun k hk => hkeep k (by simp [hk])
    cases s with
    | find k =>
      refine ⟨h.1,fun j hj => ?_⟩
      by_cases hjk : j = k
      · simpa [step,hjk] using h.1
      · simpa [step,hjk] using h.2 j hj
    | replace k =>
      obtain ⟨hk,hmerged⟩ := hkeep k (by simp)
      exact ⟨hmerged _ (h.2 k hk),h.2⟩

lemma existing_run {i : ι} (h : .find i ∉ sections) (c : Config ι) :
    (run (step updates) c sections).existing i = c.existing i := by
  induction sections generalizing c with
  | nil => rfl
  | cons s sections ih =>
    rw [run_cons,ih (by simp_all)]
    cases s with
    | find k => simp_all [step]
    | replace k => rfl

def blankSkill : Skill
  | .name | .description | .content => ""
  | .matchTerms => []
  | .internal | .enabled => false
  | .sessionIds | .naimLinks => (∅ : Finset String)

def flagUpdates (i j : ι) : ι → Update
  | k, .enabled => if k = i then some true else none
  | k, .internal => if k = j then some true else none
  | _, _ => none

lemma apart_flagUpdates (i j : ι) : Apart (flagUpdates i j) := by
  intro k l f hkl
  cases f <;> simp only [flagUpdates] <;> grind

lemma lost_of_overlap {i j : ι} (hnodup : (before ++ .find i::(during ++ .replace i::rest)).Nodup)
    (hj : .replace j ∈ during) :
    ¬ Kept (flagUpdates i j) blankSkill (before ++ .find i::(during ++ .replace i::rest)) := by
  have hij : i ≠ j := by grind
  have henabled : ∀ k, k ≠ i → flagUpdates i j k .enabled = none := fun k hk => if_neg hk
  have hinternal : ∀ k, k ≠ j → flagUpdates i j k .internal = none := fun k hk => if_neg hk
  let c : Config ι := ⟨blankSkill,fun _ => blankSkill⟩
  have hfound := (copies_run (flagUpdates i j) before (· .internal = false) .univ c
    ⟨rfl,fun _ _ => rfl⟩ fun k hk => ⟨trivial,fun s hs => (merged_of_none (hinternal k (by grind)) s).trans hs⟩).1
  have hothers := (copies_run (flagUpdates i j) (before ++ .find i::during)
    (· .enabled = false) .univ c ⟨rfl,fun _ _ => rfl⟩ fun k hk =>
      ⟨trivial,fun s hs => (merged_of_none (henabled k (by grind)) s).trans hs⟩).2
  intro hkept
  have hrest := (copies_run (flagUpdates i j) rest
    (fun s => s .enabled = true → s .internal = false) {k | k ≠ i ∧ k ≠ j}
    (run (step (flagUpdates i j)) c (before ++ .find i::(during ++ [.replace i]))) ?_ ?_).1
  · rw [← run_append,append_assoc,cons_append,append_assoc,singleton_append] at hrest
    have hi := hkept i (by simp) .enabled true (if_pos rfl)
    have hj := hkept j (by simp [hj]) .internal true (if_pos rfl)
    nomatch hj.symm.trans (hrest hi)
  · simp only [run_append,run_cons,run_nil] at hfound hothers ⊢
    refine ⟨fun _ => (merged_of_none (hinternal i hij) _).trans ?_,fun k _ hk => ?_⟩
    · rw [existing_run (by grind)]
      simpa [step] using hfound
    · nomatch hk.symm.trans (hothers k trivial)
  · intro k hk
    have hkij : k ≠ i ∧ k ≠ j := ⟨by grind,by grind⟩
    refine ⟨hkij,fun s hs => ?_⟩
    rwa [merged_of_none (henabled k hkij.1),merged_of_none (hinternal k hkij.2)]

/-- All updates of different fields are kept exactly when no call replaces the skill within another. -/
theorem updates_kept_iff (hsections : Interleaved sections) :
    (∀ updates, Apart updates → ∀ skill, Kept updates skill sections) ↔ Isolated sections := by
  constructor
  · intro h before during rest i j hsplit hj
    subst hsplit
    exact lost_of_overlap hsections.nodup hj (h _ (apart_flagUpdates i j) blankSkill)
  · exact fun h updates hapart skill => kept_of_isolated hsections h hapart skill

/-- One call after the other. -/
theorem serial_updates_kept : Kept (flagUpdates 0 1) blankSkill [.find 0,.replace 0,.find 1,.replace 1] := by
  have hserial : Interleaved [.find 0,.replace 0,.find 1,.replace 1] := by
    refine ⟨by decide,fun before rest i hsplit => ?_⟩
    rcases before with _ | ⟨_,_ | ⟨_,_ | ⟨_,_ | ⟨_,before⟩⟩⟩⟩ <;> simp at hsplit ⊢ <;> grind
  refine (updates_kept_iff hserial).2 ?_ _ (apart_flagUpdates 0 1) _
  intro before during rest i j hsplit
  rcases before with _ | ⟨_,_ | ⟨_,_ | ⟨_,_ | ⟨_,before⟩⟩⟩⟩ <;>
    rcases during with _ | ⟨_,_ | ⟨_,_ | ⟨_,_ | ⟨_,during⟩⟩⟩⟩ <;> simp at hsplit ⊢
  grind

/-- Both calls find the skill before either replaces it: the flag of the first is lost. -/
theorem overlapping_update_lost : Interleaved [.find 0,.find 1,.replace 0,.replace 1] ∧ Apart (flagUpdates 0 1) ∧
    ¬ Kept (flagUpdates 0 1) blankSkill [.find 0,.find 1,.replace 0,.replace 1] := by
  refine ⟨⟨by decide,fun before rest i hsplit => ?_⟩,apart_flagUpdates 0 1,
    fun h => nomatch h 0 (by decide) .enabled true rfl⟩
  rcases before with _ | ⟨_,_ | ⟨_,_ | ⟨_,_ | ⟨_,before⟩⟩⟩⟩ <;> simp at hsplit ⊢ <;> grind

end Naim.Skills
