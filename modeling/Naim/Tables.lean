import Naim.Rows

/-!
# Tables with a key

A table keeps the constraint of its key with its rows, so that no statement can
break it: `Keyed` for a primary key that the statement supplies, `Serial` for an
`AUTOINCREMENT` key that the table counts up and never gives out twice.
-/

namespace Naim.Tables

open Rows List

variable {ρ κ : Type} {a b : ρ}

/-- Each row goes on in a row of the second list, and each row of that comes from one of
the first or is new. -/
structure Evolves (R : ρ → ρ → Prop) (New : ρ → Prop) (rows rows' : List ρ) : Prop where
  kept : ∀ r ∈ rows, ∃ r' ∈ rows', R r r'
  origin : ∀ r' ∈ rows', (∃ r ∈ rows, R r r') ∨ New r'

namespace Evolves

variable {R : ρ → ρ → Prop} {New : ρ → Prop} {rows : List ρ} (hR : ∀ r, R r r)

include hR

lemma same : Evolves R New rows rows := ⟨fun r hr => ⟨r,hr,hR r⟩,fun r hr => .inl ⟨r,hr,hR r⟩⟩

lemma append {r : ρ} (h : New r) : Evolves R New rows (rows ++ [r]) where
  kept a ha := ⟨a,mem_append_left _ ha,hR a⟩
  origin a ha := by
    rcases mem_append.1 ha with ha | ha
    · exact .inl ⟨a,ha,hR a⟩
    · exact .inr (mem_singleton.1 ha ▸ h)

lemma updateWhere {p : ρ → Bool} {f : ρ → ρ} (hf : ∀ r, R r (f r)) :
    Evolves R New rows (updateWhere p f rows) := by
  have hrow : ∀ r, R r (if p r then f r else r) := by
    intro r
    split
    · exact hf r
    · exact hR r
  constructor
  · exact fun r hr => ⟨_,mem_updateWhere.2 ⟨r,hr,rfl⟩,hrow r⟩
  · intro r' hr'
    obtain ⟨r,hr,rfl⟩ := mem_updateWhere.1 hr'
    exact .inl ⟨r,hr,hrow r⟩

end Evolves

structure Keyed (ρ : Type) {κ : Type} (key : ρ → κ) where
  rows : List ρ := []
  distinct : (rows.map key).Nodup := by decide

namespace Keyed

variable {key : ρ → κ} {t t' : Keyed ρ key} {r : ρ}

instance : EmptyCollection (Keyed ρ key) := ⟨⟨[],nodup_nil⟩⟩

lemma eq_of_key (ha : a ∈ t.rows) (hb : b ∈ t.rows) (h : key a = key b) : a = b :=
  inj_on_of_nodup_map t.distinct ha hb h

/-- `UPDATE … SET f WHERE p`, for an `f` that does not assign the key. -/
def update (p : ρ → Bool) (f : ρ → ρ) (hf : ∀ r, key (f r) = key r) (t : Keyed ρ key) : Keyed ρ key where
  rows := updateWhere p f t.rows
  distinct := by
    rw [map_updateWhere hf]
    exact t.distinct

variable [DecidableEq κ]

def insert (r : ρ) (t : Keyed ρ key) : Option (Keyed ρ key) :=
  if h : key r ∈ t.rows.map key then none
  else some ⟨t.rows ++ [r],by
    rw [map_append,nodup_append]
    exact ⟨t.distinct,nodup_singleton _,fun a ha b hb => by
      rw [map_singleton,mem_singleton] at hb
      exact fun heq => h (hb ▸ heq ▸ ha)⟩⟩

lemma insert_eq_none : t.insert r = none ↔ key r ∈ t.rows.map key := by
  unfold insert
  split <;> simp_all

lemma insert_eq_some (h : t.insert r = some t') : key r ∉ t.rows.map key ∧ t'.rows = t.rows ++ [r] := by
  unfold insert at h
  split at h
  · exact absurd h (by simp)
  · obtain rfl := Option.some.inj h
    exact ⟨‹_›,rfl⟩

end Keyed

structure Serial (ρ : Type) (id : ρ → ℕ) where
  rows : List ρ := []
  last : ℕ := 0
  distinct : (rows.map id).Nodup := by decide
  bounded : ∀ r ∈ rows, id r ≤ last := by decide

namespace Serial

variable {id : ρ → ℕ} {t : Serial ρ id} {r : ρ}

instance : EmptyCollection (Serial ρ id) := ⟨⟨[],0,nodup_nil,by simp⟩⟩

lemma eq_of_id (ha : a ∈ t.rows) (hb : b ∈ t.rows) (h : id a = id b) : a = b :=
  inj_on_of_nodup_map t.distinct ha hb h

def update (p : ρ → Bool) (f : ρ → ρ) (hf : ∀ r, id (f r) = id r) (t : Serial ρ id) : Serial ρ id where
  rows := updateWhere p f t.rows
  last := t.last
  distinct := by
    rw [map_updateWhere hf]
    exact t.distinct
  bounded r hr := by
    obtain ⟨a,ha,rfl⟩ := mem_updateWhere.1 hr
    have hid : id (if p a then f a else a) = id a := by
      split
      · exact hf a
      · rfl
    exact hid ▸ t.bounded a ha

def add (make : ℕ → ρ) (hmake : ∀ n, id (make n) = n) (t : Serial ρ id) : Serial ρ id where
  rows := t.rows ++ [make (t.last + 1)]
  last := t.last + 1
  distinct := by
    rw [map_append,nodup_append]
    refine ⟨t.distinct,nodup_singleton _,fun a ha b hb => ?_⟩
    obtain ⟨r,hr,rfl⟩ := mem_map.1 ha
    rw [map_singleton,mem_singleton,hmake] at hb
    have := t.bounded r hr
    omega
  bounded r hr := by
    rcases mem_append.1 hr with hr | hr
    · exact (t.bounded r hr).trans (Nat.le_succ _)
    · rw [mem_singleton.1 hr,hmake]

end Serial
end Naim.Tables
