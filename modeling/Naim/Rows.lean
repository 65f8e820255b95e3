import Mathlib.Data.List.Dedup
import Mathlib.Data.List.Nodup
import Mathlib.Data.List.MinMax
import Mathlib.Data.Prod.Lex
import Mathlib.Data.List.Sort

/-!
# Tables of rows

The statements of a relational store on a list of rows in insertion order:
`UPDATE … SET f WHERE p` and `SELECT … ORDER BY key LIMIT 1`.
-/

namespace Naim.Rows

open List

variable {ρ κ : Type*} {p q : ρ → Bool} {f : ρ → ρ} {rows : List ρ} {r a : ρ}

def updateWhere (p : ρ → Bool) (f : ρ → ρ) (rows : List ρ) : List ρ := rows.map fun r => if p r then f r else r

@[simp] lemma updateWhere_nil (p : ρ → Bool) (f : ρ → ρ) : updateWhere p f [] = [] := rfl

@[simp] lemma updateWhere_cons (p : ρ → Bool) (f : ρ → ρ) (r : ρ) (rows : List ρ) :
    updateWhere p f (r::rows) = (if p r then f r else r)::updateWhere p f rows := rfl

lemma mem_updateWhere : r ∈ updateWhere p f rows ↔ ∃ a ∈ rows, (if p a then f a else a) = r := by
  simp [updateWhere]

variable {g key : ρ → κ} {α γ : Type*} {l : List α} {k e : κ} {rows' rs : List ρ}

theorem map_updateWhere (h : ∀ r, g (f r) = g r) : (updateWhere p f rows).map g = rows.map g := by
  induction rows with
  | nil => rfl
  | cons r rows ih =>
    rw [updateWhere_cons,map_cons,map_cons,ih]
    split <;> simp [h]

theorem filter_updateWhere (h : ∀ r ∈ rows, p r → q r = false ∧ q (f r) = false) :
    (updateWhere p f rows).filter q = rows.filter q := by
  induction rows with
  | nil => rfl
  | cons r rows ih =>
    have ih := ih fun a ha => h a (by simp [ha])
    rw [updateWhere_cons,filter_cons,filter_cons,ih]
    by_cases hp : p r
    · obtain ⟨h₁,h₂⟩ := h r (by simp) hp
      rw [if_pos hp,h₁,h₂]
      rfl
    · rw [if_neg hp]

lemma countP_updateWhere_le (h : ∀ r ∈ rows, p r → q (f r) → q r) :
    (updateWhere p f rows).countP q ≤ rows.countP q := by
  induction rows with
  | nil => simp
  | cons r rows ih =>
    have ih := ih fun a ha => h a (by simp [ha])
    rw [updateWhere_cons,countP_cons,countP_cons]
    by_cases hp : p r
    · have hone : (if q (f r) then 1 else 0) ≤ if q r then 1 else 0 := by
        split <;> simp_all
      simp only [hp,if_true]
      omega
    · simp only [hp,Bool.false_eq_true,if_false]
      omega

theorem countP_updateWhere_eq_zero (hout : ∀ r ∈ rows, p r → ¬ q (f r)) (hall : ∀ r ∈ rows, q r → p r) :
    (updateWhere p f rows).countP q = 0 := by
  rw [countP_eq_zero]
  intro r hr
  obtain ⟨a,ha,rfl⟩ := mem_updateWhere.1 hr
  split
  · exact hout a ha ‹_›
  · exact fun hq => ‹¬ _› (hall a ha hq)

/-- An update that reaches at most one row raises the number of rows in `q` by at most one. -/
theorem countP_updateWhere_le_succ (h : rows.countP p ≤ 1) :
    (updateWhere p f rows).countP q ≤ rows.countP q + 1 := by
  induction rows with
  | nil => simp
  | cons r rows ih =>
    rw [countP_cons] at h
    rw [updateWhere_cons,countP_cons,countP_cons]
    by_cases hp : p r
    · have hrest : (updateWhere p f rows).countP q ≤ rows.countP q :=
        countP_updateWhere_le fun a ha hpa _ => by
          have hpos := countP_pos_iff.2 ⟨a,ha,hpa⟩
          simp only [hp,if_true] at h
          omega
      split <;> split <;> omega
    · have := ih (by simpa [hp] using h)
      simp only [hp,Bool.false_eq_true,if_false]
      omega

theorem countP_updateWhere_lt (hkeep : ∀ r ∈ rows, q r → p r → q (f r))
    (hnew : ∃ r ∈ rows, p r ∧ ¬ q r ∧ q (f r)) : rows.countP q < (updateWhere p f rows).countP q := by
  induction rows with
  | nil => simp at hnew
  | cons r rows ih =>
    have hle : ∀ l : List ρ, (∀ a ∈ l, q a → p a → q (f a)) → l.countP q ≤ (updateWhere p f l).countP q := by
      intro l hl
      rw [updateWhere,countP_map]
      refine countP_mono_left fun a ha hq => ?_
      simp only [Function.comp_apply]
      split
      · exact hl a ha hq ‹_›
      · exact hq
    have hrest := hle rows fun a ha => hkeep a (by simp [ha])
    rw [updateWhere_cons,countP_cons,countP_cons]
    obtain ⟨a,ha,hpa,hqa,hqfa⟩ := hnew
    rcases mem_cons.1 ha with rfl | ha
    · simp only [hpa,hqa,hqfa,if_true,Bool.false_eq_true,if_false]
      omega
    · have := ih (fun b hb => hkeep b (by simp [hb])) ⟨a,ha,hpa,hqa,hqfa⟩
      have hone : (if q r then 1 else 0) ≤ if q (if p r then f r else r) then 1 else 0 := by
        by_cases hp : p r <;> by_cases hq : q r <;> simp_all
      omega

/-- A key column holds each value in at most one row. -/
theorem countP_key_le_one [DecidableEq κ] (h : (rows.map g).Nodup) (k : κ) (hp : ∀ r, p r → g r = k) :
    rows.countP p ≤ 1 := by
  calc rows.countP p ≤ rows.countP (fun r => g r == k) :=
        countP_mono_left fun r _ hr => by simpa using hp r hr
    _ = (rows.map g).count k := by rw [List.count,countP_map]; rfl
    _ ≤ 1 := nodup_iff_count_le_one.1 h k

/-- Change the first row in `p`, as a write through `std::find_if` does. -/
def updateFirst (p : ρ → Bool) (f : ρ → ρ) : List ρ → List ρ
  | [] => []
  | r::rows => if p r then f r::rows else r::updateFirst p f rows

theorem updateFirst_eq_updateWhere (h : rows.countP p ≤ 1) : updateFirst p f rows = updateWhere p f rows := by
  induction rows with
  | nil => rfl
  | cons r rows ih =>
    rw [countP_cons] at h
    rw [updateFirst,updateWhere_cons]
    by_cases hp : p r
    · rw [if_pos hp,if_pos hp]
      have hnone : ∀ a ∈ rows, ¬ p a := by
        rw [← countP_eq_zero]
        simp only [hp,if_true] at h
        omega
      have hrest : updateWhere p f rows = rows := by
        refine (map_congr_left fun a ha => ?_).trans (map_id rows)
        rw [if_neg (hnone a ha)]
        rfl
      rw [hrest]
    · rw [if_neg hp,if_neg hp,ih (by omega)]

theorem mem_updateFirst (h : r ∈ updateFirst p f rows) : r ∈ rows ∨ ∃ r₀, rows.find? p = some r₀ ∧ r = f r₀ := by
  induction rows with
  | nil => simp [updateFirst] at h
  | cons a rows ih =>
    rw [updateFirst] at h
    by_cases hp : p a
    · rw [if_pos hp] at h
      rcases mem_cons.1 h with rfl | h
      · exact .inr ⟨a,by simp [hp],rfl⟩
      · exact .inl (mem_cons_of_mem _ h)
    · rw [if_neg hp] at h
      rcases mem_cons.1 h with rfl | h
      · exact .inl (by simp)
      · rcases ih h with h | ⟨r₀,h₀,rfl⟩
        · exact .inl (mem_cons_of_mem _ h)
        · exact .inr ⟨r₀,by simpa [hp] using h₀,rfl⟩

lemma mem_updateFirst_of_find? (h : rows.find? p = some r) : f r ∈ updateFirst p f rows := by
  induction rows with
  | nil => simp at h
  | cons a rows ih =>
    rw [updateFirst]
    by_cases hp : p a
    · obtain rfl : a = r := by simpa [hp] using h
      simp [hp]
    · rw [if_neg hp]
      exact mem_cons_of_mem _ (ih (by simpa [hp] using h))

theorem map_updateFirst (h : ∀ r, rows.find? p = some r → g (f r) = g r) :
    (updateFirst p f rows).map g = rows.map g := by
  induction rows with
  | nil => rfl
  | cons a rows ih =>
    rw [updateFirst]
    by_cases hp : p a
    · rw [if_pos hp,map_cons,map_cons,h a (by simp [hp])]
    · rw [if_neg hp,map_cons,map_cons,ih fun r hr => h r (by simpa [hp] using hr)]

/-- `INSERT … ON CONFLICT(key) DO UPDATE` of all columns. -/
def upsert [DecidableEq κ] (key : ρ → κ) (r : ρ) (rows : List ρ) : List ρ :=
  if rows.any fun a => key a = key r then updateWhere (fun a => key a = key r) (fun _ => r) rows else rows ++ [r]

lemma mem_upsert [DecidableEq κ] (h : a ∈ upsert key r rows) : a = r ∨ a ∈ rows := by
  unfold upsert at h
  split at h
  · obtain ⟨b,hb,rfl⟩ := mem_updateWhere.1 h
    split
    · exact .inl rfl
    · exact .inr hb
  · simpa [or_comm] using h

lemma find?_updateWhere_key [DecidableEq κ] (key : ρ → κ) (r : ρ) (rows : List ρ) (k : κ) :
    (updateWhere (fun a => key a = key r) (fun _ => r) rows).find? (fun a => key a = k) =
      if key r = k then (rows.find? fun a => key a = k).map fun _ => r else rows.find? fun a => key a = k := by
  induction rows with
  | nil => simp
  | cons a rows ih =>
    rw [updateWhere_cons,find?_cons,find?_cons]
    by_cases hr : key r = k
    · by_cases ha : key a = k <;> simp_all
    · by_cases ha : key a = key r <;> simp_all

lemma find?_upsert [DecidableEq κ] (key : ρ → κ) (r : ρ) (rows : List ρ) (k : κ) :
    (upsert key r rows).find? (fun a => key a = k) =
      if key r = k then some r else rows.find? fun a => key a = k := by
  unfold upsert
  split
  next h =>
    rw [find?_updateWhere_key]
    by_cases hr : key r = k
    · obtain ⟨a,ha⟩ : ∃ a, rows.find? (fun a => key a = k) = some a := by
        rw [← Option.isSome_iff_exists,find?_isSome]
        simpa [hr] using h
      rw [if_pos hr,if_pos hr,ha,Option.map_some]
    · rw [if_neg hr,if_neg hr]
  next h =>
    rw [find?_append]
    by_cases hr : key r = k
    · have hnone : rows.find? (fun a => key a = k) = none := by
        simpa [hr] using h
      rw [hnone,if_pos hr]
      simp [hr]
    · simp [hr]

lemma foldl_eq_self {σ : Type*} {step : σ → ρ → σ} {s : σ} (h : ∀ r ∈ rows, step s r = s) : rows.foldl step s = s := by
  induction rows with
  | nil => rfl
  | cons r rows ih =>
    rw [forall_mem_cons] at h
    rw [foldl_cons,h.1,ih h.2]

section AddNew

variable [DecidableEq ρ] {init : List ρ}

lemma mem_foldl_addNew :
    a ∈ rows.foldl (fun seen r => if r ∈ seen then seen else seen ++ [r]) init ↔ a ∈ init ∨ a ∈ rows := by
  induction rows generalizing init with
  | nil => simp
  | cons r rows ih =>
    rw [foldl_cons,ih,mem_cons]
    by_cases hr : r ∈ init
    · rw [if_pos hr]
      exact ⟨.imp_right .inr,fun h => h.elim .inl (.elim · (· ▸ .inl hr) .inr)⟩
    · rw [if_neg hr,mem_append,mem_singleton,or_assoc]

/-- Adding each row that is not there yet keeps one of each. -/
theorem nodup_foldl_addNew (h : init.Nodup) :
    (rows.foldl (fun seen r => if r ∈ seen then seen else seen ++ [r]) init).Nodup := by
  induction rows generalizing init with
  | nil => exact h
  | cons r rows ih =>
    refine ih ?_
    dsimp only
    split
    next => exact h
    next hr => exact nodup_append'.2 ⟨h,nodup_singleton r,by simpa using hr⟩

end AddNew

/-- `std::sort` with a comparator, as the stable insertion of one element after the other. -/
def sortBy (before : ρ → ρ → Bool) (rows : List ρ) : List ρ := rows.insertionSort fun a b => !before b a

lemma sortBy_perm (before : ρ → ρ → Bool) (rows : List ρ) : (sortBy before rows).Perm rows :=
  perm_insertionSort _ _

@[simp] lemma mem_sortBy {before : ρ → ρ → Bool} : r ∈ sortBy before rows ↔ r ∈ rows :=
  (sortBy_perm before rows).mem_iff

@[simp] lemma length_sortBy (before : ρ → ρ → Bool) (rows : List ρ) :
    (sortBy before rows).length = rows.length := (sortBy_perm before rows).length_eq

/-- The elements of a `std::set` of keys, in their order. -/
def sortedSet [LinearOrder κ] (keys : List κ) : List κ := keys.dedup.insertionSort (· ≤ ·)

@[simp] lemma mem_sortedSet [LinearOrder κ] {keys : List κ} : k ∈ sortedSet keys ↔ k ∈ keys := by
  simp [sortedSet]

lemma sortedSet_eq_iff [LinearOrder κ] {keys keys' : List κ} :
    sortedSet keys = sortedSet keys' ↔ ∀ k, k ∈ keys ↔ k ∈ keys' := by
  constructor
  · intro h k
    rw [← mem_sortedSet,h,mem_sortedSet]
  · intro h
    refine @List.Perm.eq_of_pairwise _ (· ≤ ·) _ _ (fun a b _ _ => le_antisymm)
      (pairwise_insertionSort _ _) (pairwise_insertionSort _ _) ?_
    have hp : keys.dedup.Perm keys'.dedup :=
      (perm_ext_iff_of_nodup (nodup_dedup _) (nodup_dedup _)).2 (by simpa using h)
    exact (perm_insertionSort _ _).trans (hp.trans (perm_insertionSort _ _).symm)

/-- `SELECT … WHERE p ORDER BY key LIMIT 1`; the first of the least rows. -/
def selectFirst [Preorder κ] [DecidableLT κ] (p : ρ → Bool) (key : ρ → κ) (rows : List ρ) : Option ρ :=
  (rows.filter p).argmin key

lemma selectFirst_eq_none [LinearOrder κ] : selectFirst p key rows = none ↔ ∀ r ∈ rows, ¬ p r := by
  simp [selectFirst]

lemma selectFirst_mem [LinearOrder κ] (h : selectFirst p key rows = some r) : r ∈ rows ∧ p r := by
  have := argmin_mem (f := key) h
  simpa using this

lemma selectFirst_eq_some [LinearOrder κ] {key : ρ → κ} (hr : r ∈ rows) (hp : p r)
    (hfirst : ∀ r' ∈ rows, p r' → r' = r ∨ key r < key r') : selectFirst p key rows = some r := by
  cases h : selectFirst p key rows with
  | none => exact absurd hp (selectFirst_eq_none.1 h r hr)
  | some r' =>
    obtain ⟨hr',hp'⟩ := selectFirst_mem h
    have hle : key r' ≤ key r := le_of_mem_argmin (mem_filter.2 ⟨hr,hp⟩) h
    rcases hfirst r' hr' hp' with rfl | hlt
    · rfl
    · exact absurd hle (not_le.2 hlt)

/-- Two lists of the same keys in the same order, with equal values at equal keys. -/
theorem map_eq_map_of_key {β : Type*} {key : α → κ} {f : α → β} {l' : List α} (hkeys : l.map key = l'.map key)
    (h : ∀ a ∈ l, ∀ b ∈ l', key a = key b → f a = f b) : l.map f = l'.map f := by
  induction l generalizing l' with
  | nil => rw [map_eq_nil_iff.1 hkeys.symm]
  | cons a l ih =>
    cases l' with
    | nil => simp at hkeys
    | cons b l' =>
      rw [map_cons,map_cons,cons.injEq] at hkeys
      rw [map_cons,map_cons,h a (by simp) b (by simp) hkeys.1,
        ih hkeys.2 fun x hx y hy => h x (by simp [hx]) y (by simp [hy])]

lemma map_range_eq_map_iff {n : ℕ} {f : ℕ → γ} {g : α → γ} :
    (List.range n).map f = l.map g ↔ l.length = n ∧ ∀ k a, l[k]? = some a → f k = g a := by
  constructor
  · intro h
    have hlength : l.length = n := by simpa using (congrArg List.length h).symm
    refine ⟨hlength,fun k a ha => ?_⟩
    have hlt : k < n := hlength ▸ (List.getElem?_eq_some_iff.1 ha).1
    have := congrArg (·[k]?) h
    simpa [getElem?_range hlt,ha] using this
  · rintro ⟨rfl,h⟩
    refine ext_getElem? fun k => ?_
    cases ha : l[k]? with
    | none => simp [getElem?_eq_none_iff.1 ha]
    | some a =>
      have hlt := (List.getElem?_eq_some_iff.1 ha).1
      simp [ha,getElem?_range hlt,h k a ha]

lemma zipIdx_map_eq_map_iff {f : α × ℕ → γ} {g : α → γ} :
    l.zipIdx.map f = l.map g ↔ ∀ k a, l[k]? = some a → f (a,k) = g a := by
  constructor
  · intro h k a ha
    have := congrArg (·[k]?) h
    simpa [getElem?_zipIdx,ha] using this
  · intro h
    refine ext_getElem? fun k => ?_
    cases ha : l[k]? with
    | none => simp [getElem?_zipIdx,ha]
    | some a => simp [getElem?_zipIdx,ha,h k a ha]

lemma zipIdx_map_eq_iff {f : α × ℕ → γ} {m : List γ} (hlength : l.length = m.length) :
    l.zipIdx.map f = m ↔ ∀ k a c, l[k]? = some a → m[k]? = some c → f (a,k) = c := by
  constructor
  · rintro rfl k a c ha hc
    simpa [getElem?_zipIdx,ha] using hc
  · intro h
    refine ext_getElem (by simpa using hlength) fun k hk hk' => ?_
    have hlt : k < l.length := hlength ▸ hk'
    rw [getElem_map,getElem_zipIdx,Nat.zero_add]
    exact h k l[k] m[k] (getElem?_eq_getElem hlt) (getElem?_eq_getElem hk')

lemma filter_flatMap_key [DecidableEq κ] {order : List κ} (hnodup : order.Nodup) {group : κ → List ρ}
    (h : ∀ k, ∀ r ∈ group k, key r = k) {k : κ} (hk : k ∈ order) :
    (order.flatMap group).filter (fun r => key r = k) = group k := by
  have hone : ∀ k', (group k').filter (fun r => key r = k) = if k' = k then group k' else [] := by
    intro k'
    split
    next heq => exact filter_eq_self.2 fun r hr => by simp [h k' r hr,heq]
    next hne => exact filter_eq_nil_iff.2 fun r hr => by simp [h k' r hr,hne]
  rw [filter_flatMap]
  induction order with
  | nil => simp at hk
  | cons k' order ih =>
    obtain ⟨hnotin,hnodup⟩ := nodup_cons.1 hnodup
    rw [flatMap_cons,hone]
    by_cases heq : k' = k
    · have hrest : order.flatMap (fun k' => (group k').filter fun r => key r = k) = [] := by
        rw [flatMap_eq_nil_iff]
        intro k'' hk''
        have hne : k'' ≠ k := fun h => hnotin (heq.trans h.symm ▸ hk'')
        rw [hone,if_neg hne]
      rw [if_pos heq,hrest,append_nil,heq]
    · rw [if_neg heq,nil_append]
      exact ih hnodup ((mem_cons.1 hk).resolve_left fun h => heq h.symm)

/-- Tables that list their rows by group agree when they agree group by group. -/
theorem flatMap_eq_iff_of_key [DecidableEq κ] {order : List κ} (hnodup : order.Nodup) {group group' : κ → List ρ}
    (h : ∀ k, ∀ r ∈ group k, key r = k) (h' : ∀ k, ∀ r ∈ group' k, key r = k) :
    order.flatMap group = order.flatMap group' ↔ ∀ k ∈ order, group k = group' k := by
  constructor
  · intro heq k hk
    rw [← filter_flatMap_key hnodup h hk,heq,filter_flatMap_key hnodup h' hk]
  · intro hall
    exact flatMap_congr hall

/-- Rows that may share the text `e` and otherwise have one of their own. -/
theorem nodup_map_ite {p : ρ → Bool} (he : ∀ r, g r ≠ e) (rows : List ρ) :
    (rows.map fun r => if p r then e else g r).Nodup ↔
      (rows.filter p).length ≤ 1 ∧ ((rows.filter fun r => !p r).map g).Nodup := by
  induction rows with
  | nil => simp
  | cons r rows ih =>
    rw [map_cons,nodup_cons,ih]
    cases hr : p r with
    | true =>
      have hmem : e ∉ (rows.map fun r => if p r then e else g r) ↔ (rows.filter p).length = 0 := by
        simp only [mem_map,not_exists,not_and,length_eq_zero_iff,filter_eq_nil_iff]
        refine forall₂_congr fun r' _ => ?_
        cases p r' <;> simp [he]
      simp only [hr,if_true,hmem,filter_cons,length_cons,Bool.not_true,Bool.false_eq_true,if_false]
      exact ⟨fun h => ⟨by omega,h.2.2⟩,fun h => ⟨by omega,by omega,h.2⟩⟩
    | false =>
      have hmem : g r ∉ (rows.map fun r => if p r then e else g r) ↔ g r ∉ (rows.filter fun r => !p r).map g := by
        simp only [mem_map,mem_filter,not_exists,not_and,and_imp]
        refine forall₂_congr fun r' _ => ?_
        cases p r' <;> simp [(he r).symm]
      simp only [hr,Bool.false_eq_true,if_false,hmem,filter_cons,Bool.not_false,if_true,map_cons,nodup_cons]
      tauto

theorem nodup_flatMap_map {ι : Type*} {order : List ι} (hnodup : order.Nodup) {group : ι → List ρ}
    (h : ∀ a b, ∀ r ∈ group a, ∀ r' ∈ group b, key r = key r' → a = b) :
    ((order.flatMap group).map key).Nodup ↔ ∀ a ∈ order, ((group a).map key).Nodup := by
  rw [map_flatMap,nodup_flatMap]
  refine ⟨And.left,fun hall => ⟨hall,hnodup.pairwise_of_forall_ne fun a _ b _ hne k ha hb => ?_⟩⟩
  obtain ⟨r,hr,rfl⟩ := mem_map.1 ha
  obtain ⟨r',hr',heq⟩ := mem_map.1 hb
  exact hne (h a b r hr r' hr' heq.symm)

/-- `INSERT` into a table whose rows have distinct keys and meet `ok`. -/
def insertNew [DecidableEq κ] (ok : ρ → Bool) (key : ρ → κ) (rows : List ρ) (r : ρ) : Option (List ρ) :=
  if ok r ∧ key r ∉ rows.map key then some (rows ++ [r]) else none

lemma foldlM_insertNew [DecidableEq κ] {ok : ρ → Bool} :
    rs.foldlM (insertNew ok key) rows = some rows' ↔
      (∀ r ∈ rs, ok r) ∧ (rs.map key).Nodup ∧ (∀ r ∈ rs, key r ∉ rows.map key) ∧ rows' = rows ++ rs := by
  induction rs generalizing rows with
  | nil =>
    simp only [foldlM_nil,not_mem_nil,false_implies,implies_true,map_nil,nodup_nil,true_and,
      append_nil]
    exact ⟨fun h => (Option.some.inj h).symm,fun h => h ▸ rfl⟩
  | cons r rs ih =>
    rw [foldlM_cons,Option.bind_eq_bind,insertNew]
    by_cases hr : ok r ∧ key r ∉ rows.map key
    · rw [if_pos hr,Option.bind_some,ih]
      simp only [map_append,map_cons,map_nil,mem_append,mem_singleton,not_or,nodup_cons,
        forall_mem_cons,append_assoc,singleton_append]
      refine ⟨fun ⟨hok,hnodup,hfresh,heq⟩ => ?_,fun ⟨hok,hnodup,hfresh,heq⟩ => ?_⟩
      · refine ⟨⟨hr.1,hok⟩,⟨fun hmem => ?_,hnodup⟩,⟨hr.2,fun r' hr' => (hfresh r' hr').1⟩,heq⟩
        obtain ⟨r',hr',hkey⟩ := mem_map.1 hmem
        exact (hfresh r' hr').2 hkey
      · refine ⟨hok.2,hnodup.2,fun r' hr' => ⟨hfresh.2 r' hr',fun hkey => ?_⟩,heq⟩
        exact hnodup.1 (hkey ▸ mem_map_of_mem hr')
    · rw [if_neg hr,Option.bind_none]
      simp only [reduceCtorEq,false_iff]
      rintro ⟨hok,-,hfresh,-⟩
      exact hr ⟨hok r (by simp),hfresh r (by simp)⟩

end Naim.Rows
