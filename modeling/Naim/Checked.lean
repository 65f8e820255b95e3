import Mathlib.Data.List.Basic
import Mathlib.Data.List.Forall2

/-!
# Computations that may throw

A throwing function returns an `Except`; a caller that lets an exception pass
is the bind of the monad.
-/

namespace Naim

open List

/-- The exceptions that the modelled code can raise, with the texts of its own ones. -/
inductive Error
  | runtimeError (what : String)
  | invalidArgument (what : String)
  | outOfRange (what : String)
  | jsonException (id : ℕ)
  deriving DecidableEq

abbrev Checked := Except Error

namespace Checked

variable {ε α β : Type}

def fail (what : String) : Checked α := .error (.runtimeError what)

/-- `if (c) throw std::runtime_error(what);` -/
def throwIf (c : Bool) (what : String) : Checked Unit := if c then fail what else .ok ()

/-- `if (c) { … }` around statements that only throw. -/
def when (c : Bool) (body : Checked Unit) : Checked Unit := if c then body else .ok ()

def each (items : List α) (body : α → Checked Unit) : Checked Unit :=
  items.foldr (fun a rest => (body a).bind fun _ => rest) (.ok ())

/-- `if (x != nullptr) { … }` around statements that only throw. -/
def onSome (o : Option α) (body : α → Checked Unit) : Checked Unit :=
  match o with
  | some a => body a
  | none => .ok ()

def mapOption (o : Option α) (f : α → Checked β) : Checked (Option β) :=
  match o with
  | some a => some <$> f a
  | none => .ok none

def getOr (x : Checked (Option α)) (fallback : Checked α) : Checked α :=
  x.bind fun
    | some a => .ok a
    | none => fallback

/-- Whether a computation has a result with some property is found by running it. -/
instance {x : Checked α} {P : α → Prop} [DecidablePred P] : Decidable (∃ a, x = .ok a ∧ P a) :=
  match x with
  | .ok a => decidable_of_iff (P a) (by simp)
  | .error _ => .isFalse (by simp)

instance {x : Checked α} {f : α → Checked β} {P : α → β → Prop} [∀ a b, Decidable (P a b)] :
    Decidable (∃ a b, x = .ok a ∧ f a = .ok b ∧ P a b) :=
  decidable_of_iff (∃ a, x = .ok a ∧ ∃ b, f a = .ok b ∧ P a b) (by simp only [exists_and_left])

variable {x : Except ε α} {f : α → Except ε β} {a : α} {l items : List α} {r : List β} {R : α → β → Prop}
  {what : String}
  {c : Bool} {u : Unit} {γ : Type} {o : Option α}

@[simp] lemma bind_eq_ok {b : β} : (x >>= f) = .ok b ↔ ∃ a, x = .ok a ∧ f a = .ok b := by
  cases x <;> simp [bind,Except.bind]

lemma ok_bind (a : α) (f : α → Except ε β) : ((.ok a : Except ε α) >>= f) = f a := rfl

lemma map_ok (f : α → β) (a : α) : f <$> (.ok a : Except ε α) = .ok (f a) := rfl

@[simp] lemma map_eq_ok {b : β} {f : α → β} : (f <$> x) = .ok b ↔ ∃ a, x = .ok a ∧ f a = b := by
  cases x <;> simp [Functor.map,Except.map]

@[simp] lemma pure_eq_ok {b : α} : (pure a : Except ε α) = .ok b ↔ a = b := by simp [pure,Except.pure]

lemma ok_unique {b : α} (h : x = .ok a) (h' : x = .ok b) : a = b := Except.ok.inj (h.symm.trans h')

lemma toOption_eq_some : x.toOption = some a ↔ x = .ok a := by cases x <;> simp [Except.toOption]

@[simp] lemma fail_ne_ok : (fail what : Checked α) ≠ .ok a := by simp [fail]

lemma of_ite_fail {c : Prop} [Decidable c] {x : Checked α} (h : (if c then fail what else x) = .ok a) :
    ¬ c ∧ x = .ok a := by
  split at h
  · exact absurd h fail_ne_ok
  · next hc => exact ⟨hc,h⟩

@[simp] lemma throwIf_eq_ok : throwIf c what = .ok u ↔ c = false := by cases c <;> simp [throwIf]

@[simp] lemma exists_ok_unit {x : Checked Unit} : (∃ u, x = .ok u) ↔ x = .ok () := by simp [Unique.exists_iff]

@[simp] lemma when_eq_ok : when c body = .ok u ↔ (c = true → body = .ok ()) := by cases c <;> simp [when]

@[simp] lemma onSome_eq_ok {body : α → Checked Unit} :
    onSome o body = .ok u ↔ ∀ a, o = some a → body a = .ok () := by cases o <;> simp [onSome]

lemma mapOption_eq_ok {f : α → Checked β} {r : Option β} :
    mapOption o f = .ok r ↔ o = none ∧ r = none ∨ ∃ a b, o = some a ∧ f a = .ok b ∧ r = some b := by
  cases o with
  | none => simp [mapOption,eq_comm]
  | some a => simp [mapOption,@eq_comm _ r]

lemma mapOption_if_eq_ok {f : α → Checked β} {r : Option β} :
    (flag >>= fun c => mapOption (if c then some a else none) f) = .ok r ↔
      flag = .ok false ∧ r = none ∨ flag = .ok true ∧ ∃ b, f a = .ok b ∧ r = some b := by
  simp only [bind_eq_ok,mapOption_eq_ok,Bool.exists_bool]
  simp

lemma mapOption_succeeds {f : α → Checked β} (h : ∀ a, o = some a → ∃ b, f a = .ok b) :
    ∃ r, mapOption o f = .ok r := by
  cases o with
  | none => exact ⟨none,rfl⟩
  | some a =>
    obtain ⟨b,hb⟩ := h a rfl
    exact ⟨some b,by rw [mapOption,hb,map_ok]⟩

lemma getOr_eq_ok {x : Checked (Option α)} {fallback : Checked α} :
    getOr x fallback = .ok a ↔ x = .ok (some a) ∨ x = .ok none ∧ fallback = .ok a := by
  cases x with
  | error e => simp [getOr,Except.bind]
  | ok o => cases o <;> simp [getOr,Except.bind]

@[simp] lemma each_eq_ok {body : α → Checked Unit} : each items body = .ok u ↔ ∀ a ∈ items, body a = .ok () := by
  induction items with
  | nil => simp [each]
  | cons a items ih =>
    rw [forall_mem_cons,← ih]
    show (body a >>= fun _ => each items body) = .ok u ↔ _
    rw [bind_eq_ok]
    exact ⟨fun ⟨_,h⟩ => h,fun h => ⟨(),h⟩⟩

theorem forall₂_map_iff {R : β → γ → Prop} {f : α → β} {g : α → γ} {r : List γ} {P : α → Prop}
    (h : ∀ a ∈ l, ∀ c, R (f a) c ↔ c = g a ∧ P a) : Forall₂ R (l.map f) r ↔ r = l.map g ∧ ∀ a ∈ l, P a := by
  induction l generalizing r with
  | nil => simp
  | cons a l ih =>
    rw [forall_mem_cons] at h
    simp only [map_cons,forall₂_cons_left_iff,ih h.2,h.1,forall_mem_cons]
    constructor
    · rintro ⟨c,r,⟨rfl,hp⟩,⟨rfl,hall⟩,rfl⟩
      exact ⟨rfl,hp,hall⟩
    · rintro ⟨rfl,hp,hall⟩
      exact ⟨g a,_,⟨rfl,hp⟩,⟨rfl,hall⟩,rfl⟩

lemma mapM_eq_ok : l.mapM f = .ok r ↔ Forall₂ (fun a b => f a = .ok b) l r := by
  induction l generalizing r with
  | nil =>
    rw [mapM_nil,pure_eq_ok,forall₂_nil_left_iff,eq_comm]
  | cons a l ih =>
    rw [mapM_cons,forall₂_cons_left_iff]
    simp only [bind_eq_ok,pure_eq_ok,ih]
    constructor
    · rintro ⟨b,hb,bs,hbs,rfl⟩
      exact ⟨b,bs,hb,hbs,rfl⟩
    · rintro ⟨b,bs,hb,hbs,rfl⟩
      exact ⟨b,hb,bs,hbs,rfl⟩

lemma mapM_succeeds (h : ∀ a ∈ l, ∃ b, f a = .ok b) : ∃ r, l.mapM f = .ok r := by
  induction l with
  | nil => exact ⟨[],rfl⟩
  | cons a l ih =>
    rw [forall_mem_cons] at h
    obtain ⟨b,hb⟩ := h.1
    obtain ⟨r,hr⟩ := ih h.2
    exact ⟨b::r,by rw [mapM_cons,hb,hr]; rfl⟩

lemma mapM_congr {g : α → Except ε β} (h : ∀ a ∈ l, f a = g a) : l.mapM f = l.mapM g := by
  induction l with
  | nil => rfl
  | cons a l ih =>
    rw [forall_mem_cons] at h
    rw [mapM_cons,mapM_cons,h.1,ih h.2]

lemma forall₂_mem_right (h : Forall₂ R l r) {b : β} (hb : b ∈ r) : ∃ a ∈ l, R a b := by
  induction h with
  | nil => simp at hb
  | cons hx _ ih =>
    rcases mem_cons.1 hb with rfl | hb
    · exact ⟨_,by simp,hx⟩
    · obtain ⟨a,ha,hab⟩ := ih hb
      exact ⟨a,by simp [ha],hab⟩

lemma forall₂_mem_left (h : Forall₂ R l r) (ha : a ∈ l) : ∃ b ∈ r, R a b :=
  forall₂_mem_right (R := flip R) h.flip ha

lemma forall₂_imp_mem {S : α → β → Prop} (h : Forall₂ R l r) (himp : ∀ a ∈ l, ∀ b, R a b → S a b) :
    Forall₂ S l r := by
  induction h with
  | nil => exact .nil
  | cons hab _ ih =>
    rw [forall_mem_cons] at himp
    exact .cons (himp.1 _ hab) (ih himp.2)

lemma forall₂_map_eq {f : α → γ} {g : β → γ} (h : Forall₂ R l r) (heq : ∀ a b, R a b → g b = f a) :
    r.map g = l.map f := by
  induction h with
  | nil => rfl
  | cons hab _ ih => rw [map_cons,map_cons,heq _ _ hab,ih]

theorem mapM_map {g : β → γ} {k : α → γ} (hf : ∀ a b, f a = .ok b → g b = k a) (h : l.mapM f = .ok r) :
    r.map g = l.map k := forall₂_map_eq (mapM_eq_ok.1 h) hf

lemma forall₂_getElem? (h : Forall₂ R l r) {k : ℕ} {b : β} (ha : l[k]? = some a) (hb : r[k]? = some b) :
    R a b := by
  obtain ⟨hlt,rfl⟩ := List.getElem?_eq_some_iff.1 ha
  obtain ⟨hlt',rfl⟩ := List.getElem?_eq_some_iff.1 hb
  exact h.get hlt hlt'

lemma forall₂_range_getElem? {R : ℕ → β → Prop} {l : List β} {n k : ℕ} (h : Forall₂ R (List.range n) l) {b : β}
    (hb : l[k]? = some b) : R k b := by
  have hlt : k < n := by
    have := (List.getElem?_eq_some_iff.1 hb).1
    rwa [← h.length_eq,length_range] at this
  exact forall₂_getElem? h (List.getElem?_range hlt) hb

lemma mapM_mem_right (h : l.mapM f = .ok r) {b : β} (hb : b ∈ r) : ∃ a ∈ l, f a = .ok b :=
  forall₂_mem_right (mapM_eq_ok.1 h) hb

lemma mapM_mem_left (h : l.mapM f = .ok r) (ha : a ∈ l) : ∃ b ∈ r, f a = .ok b :=
  forall₂_mem_left (mapM_eq_ok.1 h) ha

end Checked
end Naim
