import Mathlib.Data.List.Infix
import Mathlib.Data.List.Nodup
import Mathlib.Order.Lattice

/-!
# Ordered association lists

A sorted map from keys to values as the list of its entries. Reading takes the
first entry of a key, so that the laws below hold for every list.
-/

namespace Naim.Assoc

open List Option

variable {κ α β : Type*} [LinearOrder κ]

/-- Assign a key; a new key goes before the first larger one. -/
def set : List (κ × α) → κ → α → List (κ × α)
  | [], k, v => [(k,v)]
  | (k',v')::m, k, v =>
    if k < k' then (k,v)::(k',v')::m
    else if k = k' then (k,v)::m
    else (k',v')::set m k v

def erase (m : List (κ × α)) (k : κ) : List (κ × α) := m.filter (·.1 ≠ k)

def insert [BEq κ] (m : List (κ × α)) (k : κ) (v : α) : List (κ × α) :=
  if (m.lookup k).isSome then m else set m k v

/-- The map of an initializer list; the first entry of a key counts. -/
def ofList [BEq κ] (entries : List (κ × α)) : List (κ × α) := entries.foldl (fun m e => insert m e.1 e.2) []

section Lookup

variable [BEq κ] [LawfulBEq κ]

omit [LinearOrder κ] in
lemma lookup_cons_eq [DecidableEq κ] (e : κ × α) (m : List (κ × α)) (k : κ) :
    (e::m).lookup k = if k = e.1 then some e.2 else m.lookup k := by
  obtain ⟨l,w⟩ := e
  by_cases h : k = l
  · simp [h]
  · have hne : (k == l) = false := by simpa using h
    simp [lookup_cons,hne,h]

lemma lookup_set (m : List (κ × α)) (k k' : κ) (v : α) :
    (set m k v).lookup k' = if k' = k then some v else m.lookup k' := by
  induction m with
  | nil => simp [set,lookup_cons_eq]
  | cons e m ih =>
    obtain ⟨l,w⟩ := e
    unfold set
    split
    · simp only [lookup_cons_eq]
    · split
      · subst_vars
        simp only [lookup_cons_eq]
        split <;> rfl
      · simp only [lookup_cons_eq,ih]
        by_cases h : k' = l
        · subst h
          simp [Ne.symm ‹¬ k = k'›]
        · simp [h]

lemma lookup_insert (m : List (κ × α)) (k k' : κ) (v : α) :
    (insert m k v).lookup k' = (m.lookup k').or (if k' = k then some v else none) := by
  unfold insert
  split
  next hsome =>
    obtain ⟨w,hw⟩ := isSome_iff_exists.1 hsome
    by_cases h : k' = k
    · simp [h,hw]
    · simp [h]
  next hnone =>
    have hnone : m.lookup k = none := not_isSome_iff_eq_none.1 hnone
    rw [lookup_set]
    by_cases h : k' = k
    · simp [h,hnone]
    · simp [h]

lemma lookup_ofList (entries : List (κ × α)) (k : κ) : (ofList entries).lookup k = entries.lookup k := by
  suffices h : ∀ m, (entries.foldl (fun m (e : κ × α) => insert m e.1 e.2) m).lookup k =
      (m.lookup k).or (entries.lookup k) by
    exact h []
  intro m
  induction entries generalizing m with
  | nil => simp
  | cons e entries ih =>
    rw [foldl_cons,ih,lookup_insert,lookup_cons_eq,Option.or_assoc]
    by_cases h : k = e.1 <;> simp [h]

lemma lookup_erase [DecidableEq κ] (m : List (κ × α)) (k k' : κ) :
    (erase m k).lookup k' = if k' = k then none else m.lookup k' := by
  induction m with
  | nil => simp [erase]
  | cons e m ih =>
    rw [erase] at ih ⊢
    by_cases he : e.1 = k
    · rw [filter_cons_of_neg (by simpa using he),ih,lookup_cons_eq,he]
      split <;> rfl
    · rw [filter_cons_of_pos (by simpa using he),lookup_cons_eq,lookup_cons_eq,ih]
      by_cases hk : k' = e.1
      · simp [hk,he]
      · simp [hk]

end Lookup

def Sorted (m : List (κ × α)) : Prop := m.Pairwise fun e e' => e.1 < e'.1

variable {m : List (κ × α)} {k : κ} {v : α} {e : κ × α}

lemma key_mem_set (h : e ∈ set m k v) : e = (k,v) ∨ e ∈ m := by
  induction m with
  | nil => simpa [set] using h
  | cons e' m ih =>
    unfold set at h
    split at h
    · simpa using h
    · split at h
      · rcases mem_cons.1 h with h | h
        · exact .inl h
        · exact .inr (by simp [h])
      · rcases mem_cons.1 h with h | h
        · exact .inr (by simp [h])
        · exact (ih h).imp_right (by simp +contextual)

lemma Sorted.set (h : Sorted m) (k : κ) (v : α) : Sorted (set m k v) := by
  induction m with
  | nil => simp [Assoc.set,Sorted]
  | cons e m ih =>
    obtain ⟨he,hm⟩ := pairwise_cons.1 h
    unfold Assoc.set
    split
    next hlt =>
      refine pairwise_cons.2 ⟨fun e' h' => ?_,h⟩
      rcases mem_cons.1 h' with rfl | h'
      · exact hlt
      · exact hlt.trans (he e' h')
    · split
      · subst_vars
        exact pairwise_cons.2 ⟨he,hm⟩
      · refine pairwise_cons.2 ⟨fun e' h' => ?_,ih hm⟩
        rcases key_mem_set h' with rfl | h'
        · exact lt_of_le_of_ne (not_lt.1 ‹_›) (Ne.symm ‹_›)
        · exact he e' h'

theorem Sorted.pairwise_iff (h : Sorted m) {R : κ × α → κ × α → Prop} :
    m.Pairwise R ↔ ∀ e ∈ m, ∀ e' ∈ m, e.1 < e'.1 → R e e' := by
  induction m with
  | nil => simp
  | cons e m ih =>
    obtain ⟨hlt,hm⟩ := pairwise_cons.1 h
    rw [pairwise_cons,ih hm]
    constructor
    · rintro ⟨hhead,htail⟩ a ha b hb hab
      rcases mem_cons.1 ha with rfl | ha' <;> rcases mem_cons.1 hb with rfl | hb'
      · exact absurd hab (lt_irrefl _)
      · exact hhead b hb'
      · exact absurd (hab.trans (hlt a ha')) (lt_irrefl _)
      · exact htail a ha' b hb' hab
    · intro hall
      exact ⟨fun b hb => hall e (by simp) b (by simp [hb]) (hlt b hb),
        fun a ha b hb hab => hall a (by simp [ha]) b (by simp [hb]) hab⟩

section Lookup

variable [BEq κ]

lemma Sorted.lookup_of_mem [LawfulBEq κ] (h : Sorted m) (he : e ∈ m) : m.lookup e.1 = some e.2 := by
  induction m with
  | nil => simp at he
  | cons e' m ih =>
    obtain ⟨hlt,hm⟩ := pairwise_cons.1 h
    rw [lookup_cons_eq]
    rcases mem_cons.1 he with rfl | he
    · simp
    · rw [if_neg (hlt e he).ne',ih hm he]

/-- Add every element to the entry of its key, which starts from `init`. -/
def accumulate (key : β → κ) (add : α → β → α) (init : α) (xs : List β) : List (κ × α) :=
  xs.foldl (fun m x => set m (key x) (add ((m.lookup (key x)).getD init) x)) []

lemma lookup_accumulate [LawfulBEq κ] (key : β → κ) (add : α → β → α) (init : α) (xs : List β) (k : κ) :
    (accumulate key add init xs).lookup k =
      if (xs.filter fun x => key x = k) = [] then none
      else some ((xs.filter fun x => key x = k).foldl add init) := by
  induction xs using List.reverseRecOn with
  | nil => rfl
  | append_singleton xs x ih =>
    rw [accumulate,foldl_append,foldl_cons,foldl_nil,lookup_set,← accumulate]
    by_cases h : k = key x
    · subst h
      rw [if_pos rfl,ih]
      simp only [filter_append,filter_cons,decide_true,if_true,filter_nil,
        foldl_append,foldl_cons,foldl_nil,append_eq_nil_iff,cons_ne_nil,
        and_false,if_false]
      by_cases hnil : (xs.filter fun y => key y = key x) = []
      · rw [if_pos hnil,hnil]
        rfl
      · rw [if_neg hnil]
        rfl
    · have hx : (List.filter (fun y => decide (key y = k)) [x]) = [] := by simp [Ne.symm h]
      rw [if_neg h,filter_append,hx,append_nil,ih]

lemma Sorted.accumulate (key : β → κ) (add : α → β → α) (init : α) (xs : List β) :
    Sorted (accumulate key add init xs) := by
  induction xs using List.reverseRecOn with
  | nil => exact Pairwise.nil
  | append_singleton xs x ih =>
    rw [Assoc.accumulate,foldl_append]
    exact ih.set _ _

section

variable [LawfulBEq κ] {xs ys : List β} {x : β}

omit [LinearOrder κ] in
lemma mem_of_lookup [DecidableEq κ] (h : m.lookup k = some v) : (k,v) ∈ m := by
  induction m with
  | nil => simp at h
  | cons e m ih =>
    rw [lookup_cons_eq] at h
    split at h
    · obtain rfl := some.inj h
      simp [*]
    · simp [ih h]

lemma Sorted.mem_iff_lookup (h : Sorted m) : (k,v) ∈ m ↔ m.lookup k = some v :=
  ⟨fun hm => h.lookup_of_mem hm,mem_of_lookup⟩

omit [LinearOrder κ] in
lemma lookup_map_snd [DecidableEq κ] (f : α → β) (m : List (κ × α)) (k : κ) :
    (m.map fun e => (e.1,f e.2)).lookup k = (m.lookup k).map f := by
  induction m with
  | nil => rfl
  | cons e m ih =>
    rw [map_cons,lookup_cons_eq,lookup_cons_eq,ih]
    split <;> rfl

/-- Assign every element to its key in turn, so that the last one of a key counts. -/
def index (key : β → κ) (f : β → α) (xs : List β) : List (κ × α) := xs.foldl (fun m x => set m (key x) (f x)) []

omit [BEq κ] in
lemma Sorted.index (key : β → κ) (f : β → α) (xs : List β) : Sorted (index key f xs) := by
  induction xs using List.reverseRecOn with
  | nil => exact Pairwise.nil
  | append_singleton xs x ih =>
    rw [Assoc.index,foldl_append]
    exact ih.set _ _

lemma lookup_index_append (key : β → κ) (f : β → α) (xs : List β) (x : β) (k : κ) :
    (index key f (xs ++ [x])).lookup k = if k = key x then some (f x) else (index key f xs).lookup k := by
  rw [index,foldl_append,foldl_cons,foldl_nil,lookup_set,← index]

lemma exists_of_lookup_index {key : β → κ} {f : β → α} (h : (index key f xs).lookup k = some v) :
    ∃ x ∈ xs, key x = k ∧ f x = v := by
  induction xs using List.reverseRecOn with
  | nil => simp [index] at h
  | append_singleton xs x ih =>
    rw [lookup_index_append] at h
    split at h
    · exact ⟨x,by simp,Eq.symm ‹_›,some.inj h⟩
    · obtain ⟨y,hy,hyk⟩ := ih h
      exact ⟨y,by simp [hy],hyk⟩

lemma isSome_lookup_index (key : β → κ) (f : β → α) (h : x ∈ xs) :
    ((index key f xs).lookup (key x)).isSome := by
  induction xs using List.reverseRecOn with
  | nil => simp at h
  | append_singleton xs y ih =>
    rw [lookup_index_append]
    by_cases hk : key x = key y
    · rw [if_pos hk]
      rfl
    · have hx : x ∈ xs := by
        rcases mem_append.1 h with h | h
        · exact h
        · exact absurd (by rw [mem_singleton.1 h]) hk
      rw [if_neg hk,ih hx]

lemma lookup_index_of_mem {key : β → κ} {f : β → α} (hnodup : (xs.map key).Nodup) (h : x ∈ xs) :
    (index key f xs).lookup (key x) = some (f x) := by
  obtain ⟨v,hv⟩ := isSome_iff_exists.1 (isSome_lookup_index key f h)
  obtain ⟨y,hy,hkey,rfl⟩ := exists_of_lookup_index hv
  rw [hv,inj_on_of_nodup_map hnodup hy h hkey]

/-- Two lists whose maps have the same keys, with related values, have the same keys and related elements. -/
theorem perm_of_index {key : β → κ} {R : β → β → Prop} (hxs : (xs.map key).Nodup)
    (hys : (ys.map key).Nodup)
    (hsame : ∀ e ∈ index key id ys, ∃ old, (index key id xs).lookup e.1 = some old ∧ R old e.2)
    (hkept : ∀ e ∈ index key id xs, ((index key id ys).lookup e.1).isSome) :
    (xs.map key).Perm (ys.map key) ∧ ∀ x ∈ xs, ∀ y ∈ ys, key x = key y → R x y := by
  have hback : ∀ y ∈ ys, ∃ x ∈ xs, key x = key y ∧ R x y := by
    intro y hy
    obtain ⟨old,hold,hR⟩ := hsame _ (mem_of_lookup (lookup_index_of_mem (f := id) hys hy))
    obtain ⟨x,hx,hkey,rfl⟩ := exists_of_lookup_index hold
    exact ⟨x,hx,hkey,hR⟩
  refine ⟨(perm_ext_iff_of_nodup hxs hys).2 fun k => ?_,fun x hx y hy hkey => ?_⟩
  · simp only [List.mem_map]
    constructor
    · rintro ⟨x,hx,rfl⟩
      obtain ⟨new,hnew⟩ := isSome_iff_exists.1 (hkept _ (mem_of_lookup (lookup_index_of_mem (f := id) hxs hx)))
      obtain ⟨y,hy,hkey,-⟩ := exists_of_lookup_index hnew
      exact ⟨y,hy,hkey⟩
    · rintro ⟨y,hy,rfl⟩
      obtain ⟨x,hx,hkey,-⟩ := hback y hy
      exact ⟨x,hx,hkey⟩
  · obtain ⟨x',hx',hkey',hR⟩ := hback y hy
    rwa [inj_on_of_nodup_map hxs hx' hx (hkey'.trans hkey.symm)] at hR

end

end Lookup
end Naim.Assoc
