import Mathlib.Data.List.Basic

/-!
# Programs over a shared store

A program reads the store or runs one statement on it, and goes on with what it
saw. It runs alone, or interleaved with other programs one access at a time. The
rules below follow what a program may still write after others have changed the
store under it.
-/

namespace Naim

/-- A statement hands on the store that it was run in. -/
inductive Program (σ ρ : Type) where
  | done (result : ρ)
  | read (next : σ → Program σ ρ)
  | exec (statement : σ → σ) (next : σ → Program σ ρ)

namespace Program

variable {σ α β : Type}

protected def bind (p : Program σ α) (f : α → Program σ β) : Program σ β :=
  match p with
  | done a => f a
  | read next => read fun s => (next s).bind f
  | exec statement next => exec statement fun s => (next s).bind f

instance : Monad (Program σ) where
  pure := done
  bind := Program.bind

lemma bind_bind {γ : Type} (p : Program σ α) (f : α → Program σ β) (g : β → Program σ γ) :
    (p.bind f).bind g = p.bind fun a => (f a).bind g := by
  induction p with
  | done a => rfl
  | read next ih => exact congrArg read (funext ih)
  | exec statement next ih => exact congrArg (exec statement) (funext ih)

lemma bind_done (p : Program σ α) : p.bind done = p := by
  induction p with
  | done a => rfl
  | read next ih => exact congrArg read (funext ih)
  | exec statement next ih => exact congrArg (exec statement) (funext ih)

instance : LawfulMonad (Program σ) := .mk' (Program σ) bind_done (fun _ _ => rfl) bind_bind

def run : Program σ α → σ → σ × α
  | done a, s => (s,a)
  | read next, s => (next s).run s
  | exec statement next, s => (next s).run (statement s)

@[simp] lemma run_done (a : α) (s : σ) : (done a : Program σ α).run s = (s,a) := rfl
@[simp] lemma run_exec (statement : σ → σ) (next : σ → Program σ α) (s : σ) :
    (exec statement next).run s = (next s).run (statement s) := rfl

@[simp] lemma run_bind (p : Program σ α) (f : α → Program σ β) (s : σ) :
    (p >>= f).run s = (f (p.run s).2).run (p.run s).1 := by
  induction p generalizing s with
  | done a => rfl
  | read next ih => exact ih s s
  | exec statement next ih => exact ih s (statement s)

@[simp] lemma run_map (f : α → β) (p : Program σ α) (s : σ) : (f <$> p).run s = ((p.run s).1,f (p.run s).2) :=
  run_bind p (fun a => done (f a)) s

variable {I : σ → Prop}

/-- While the store keeps `I` the program keeps it too, and its result satisfies `Q`. -/
def Tame (I : σ → Prop) (Q : α → Prop) : Program σ α → Prop
  | done a => Q a
  | read next => ∀ s, I s → (next s).Tame I Q
  | exec statement next => ∀ s, I s → I (statement s) ∧ (next s).Tame I Q

/-- Once the program reads a store that satisfies `I` it is tame; what it writes before that is left open. -/
def Latent (I : σ → Prop) (Q : α → Prop) : Program σ α → Prop
  | done _ => True
  | read next => ∀ s, (I s → (next s).Tame I Q) ∧ (next s).Latent I Q
  | exec _ next => ∀ s, (next s).Latent I Q

variable {Q : α → Prop} {R : β → Prop} {p : Program σ α} {P : Prop} {ok : (σ → σ) → Prop} {s : σ}

lemma Tame.bind {f : α → Program σ β} (hp : p.Tame I Q) (hf : ∀ a, Q a → (f a).Tame I R) :
    (p >>= f).Tame I R := by
  induction p with
  | done a => exact hf a hp
  | read next ih => exact fun s hs => ih s (hp s hs)
  | exec statement next ih => exact fun s hs => ⟨(hp s hs).1,ih s (hp s hs).2⟩

lemma Tame.run (hp : p.Tame I Q) (hs : I s) : I (p.run s).1 ∧ Q (p.run s).2 := by
  induction p generalizing s with
  | done a => exact ⟨hs,hp⟩
  | read next ih => exact ih s (hp s hs) hs
  | exec statement next ih => exact ih s (hp s hs).2 (hp s hs).1

lemma Latent.bind {f : α → Program σ β} (hp : p.Latent I Q) (hf : ∀ a, Q a → (f a).Tame I R)
    (hf' : ∀ a, (f a).Latent I R) : (p >>= f).Latent I R := by
  induction p with
  | done a => exact hf' a
  | read next ih => exact fun s => ⟨fun hs => Tame.bind ((hp s).1 hs) hf,ih s (hp s).2⟩
  | exec statement next ih => exact fun s => ih s (hp s)

/-- The program is tame when it starts under `P`, and tame in any case once it has read a store with `I`. -/
def Settled (I : σ → Prop) (P : Prop) (Q : α → Prop) (p : Program σ α) : Prop := (P → p.Tame I Q) ∧ p.Latent I Q

lemma Settled.bind {f : α → Program σ β} (hp : p.Settled I P Q) (hf : ∀ a, (f a).Settled I (Q a) R) :
    (p >>= f).Settled I P R :=
  ⟨fun h => (hp.1 h).bind fun a => (hf a).1,hp.2.bind (fun a => (hf a).1) fun a => (hf a).2⟩

lemma Settled.imp (hp : p.Settled I True Q) : p.Settled I P Q := ⟨fun _ => hp.1 trivial,hp.2⟩

lemma Settled.read {next : σ → Program σ α} (h : ∀ s, (next s).Settled I (I s) Q) : (read next).Settled I P Q :=
  ⟨fun _ s => (h s).1,h⟩

lemma Settled.exec {statement : σ → σ} {next : σ → Program σ α} (hkeep : P → ∀ s, I s → I (statement s))
    (h : ∀ s, (next s).Settled I P Q) : (exec statement next).Settled I P Q :=
  ⟨fun hp s hs => ⟨hkeep hp s hs,(h s).1 hp⟩,fun s => (h s).2⟩

lemma Settled.done {a : α} (h : P → Q a) : (done a : Program σ α).Settled I P Q := ⟨h,trivial⟩

variable {ε : Type} {Q : α → Prop} {R : β → Prop} {x : ExceptT ε (Program σ) α} {f : α → ExceptT ε (Program σ) β}

/-- A program that did not stop early has a result that satisfies `Q`. -/
def Yields (Q : α → Prop) : Except ε α → Prop
  | .ok a => Q a
  | .error _ => True

lemma Settled.andThen (hx : x.run.Settled I P (Yields Q)) (hf : ∀ a, (f a).run.Settled I (Q a) (Yields R)) :
    (x >>= f).run.Settled I P (Yields R) := by
  refine hx.bind fun r => ?_
  cases r with
  | ok a => exact hf a
  | error e => exact .done fun _ => trivial

lemma Tame.andThen (hx : x.run.Tame I (Yields Q)) (hf : ∀ a, Q a → (f a).run.Tame I (Yields R)) :
    (x >>= f).run.Tame I (Yields R) := by
  refine hx.bind fun r hr => ?_
  cases r with
  | ok a => exact hf a hr
  | error e => trivial

def advance : Program σ α → σ → σ × Program σ α
  | done a, s => (s,done a)
  | read next, s => (s,next s)
  | exec statement next, s => (statement s,next s)

def isRead : Program σ α → Bool
  | read _ => true
  | _ => false

def isExec : Program σ α → Bool
  | exec _ _ => true
  | _ => false

lemma Tame.advance (hp : p.Tame I Q) (hs : I s) : I (p.advance s).1 ∧ (p.advance s).2.Tame I Q := by
  cases p with
  | done a => exact ⟨hs,hp⟩
  | read next => exact ⟨hs,hp s hs⟩
  | exec statement next => exact hp s hs

lemma Latent.advance (hp : p.Latent I Q) (s : σ) : (p.advance s).2.Latent I Q := by
  cases p with
  | done a => exact hp
  | read next => exact (hp s).2
  | exec statement next => exact hp s

lemma Latent.advance_read (hp : p.Latent I Q) (hs : I s) (hread : p.isRead = true) : (p.advance s).2.Tame I Q := by
  cases p with
  | done a => exact absurd hread (by simp [isRead])
  | read next => exact (hp s).1 hs
  | exec statement next => exact absurd hread (by simp [isRead])

/-- The first statement of the program brings about `I`, and the program keeps it from there. -/
def Establishes (I : σ → Prop) : Program σ α → Prop
  | done _ => True
  | read next => ∀ s, (next s).Establishes I
  | exec statement next => ∀ s, I (statement s) ∧ (next s).Tame I fun _ => True

def Uses (ok : (σ → σ) → Prop) : Program σ α → Prop
  | done _ => True
  | read next => ∀ s, (next s).Uses ok
  | exec statement next => ok statement ∧ ∀ s, (next s).Uses ok

lemma Uses.bind {f : α → Program σ β} (hp : p.Uses ok) (hf : ∀ a, (f a).Uses ok) : (p >>= f).Uses ok := by
  induction p with
  | done a => exact hf a
  | read next ih => exact fun s => ih s (hp s)
  | exec statement next ih => exact ⟨hp.1,fun s => ih s (hp.2 s)⟩

lemma Uses.mono {ok' : (σ → σ) → Prop} (hp : p.Uses ok) (h : ∀ statement, ok statement → ok' statement) :
    p.Uses ok' := by
  induction p with
  | done a => trivial
  | read next ih => exact fun s => ih s (hp s)
  | exec statement next ih => exact ⟨h statement hp.1,fun s => ih s (hp.2 s)⟩

lemma Uses.andThen (hx : x.run.Uses ok) (hf : ∀ a, (f a).run.Uses ok) : (x >>= f).run.Uses ok := by
  refine hx.bind fun r => ?_
  cases r with
  | ok a => exact hf a
  | error e => trivial

lemma Uses.advance (hp : p.Uses ok) (s : σ) :
    (p.advance s).2.Uses ok ∧ ((p.advance s).1 = s ∨ ∃ statement, ok statement ∧ (p.advance s).1 = statement s) := by
  cases p with
  | done a => exact ⟨hp,.inl rfl⟩
  | read next => exact ⟨hp s,.inl rfl⟩
  | exec statement next => exact ⟨hp.2 s,.inr ⟨statement,hp.1,rfl⟩⟩

lemma Uses.tame (hp : p.Uses ok) (hok : ∀ statement, ok statement → ∀ s, I s → I (statement s)) (hQ : ∀ a, Q a) :
    p.Tame I Q := by
  induction p with
  | done a => exact hQ a
  | read next ih => exact fun s _ => ih s (hp s)
  | exec statement next ih => exact fun s hs => ⟨hok statement hp.1 s hs,ih s (hp.2 s)⟩

lemma Uses.settled (hp : p.Uses ok) (hok : ∀ statement, ok statement → ∀ s, I s → I (statement s)) (hQ : ∀ a, Q a) :
    p.Settled I True Q := by
  induction p with
  | done a => exact .done fun _ => hQ a
  | read next ih => exact .read fun s => (ih s (hp s)).imp
  | exec statement next ih => exact .exec (fun _ => hok statement hp.1) fun s => ih s (hp.2 s)

end Program
end Naim
