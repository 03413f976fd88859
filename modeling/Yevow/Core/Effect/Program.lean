import Yevow.Core.Control.Except

/-!
# Programs that call a store

An asynchronous function is a tree of calls: it ends with a value or an error, or it makes
one call and goes on with whatever the call returns or throws. What the calls do is left to
a handler, so one program can be run to the end, interrupted, suspended or interleaved.
-/

/-- A program over the calls `Op`, each answered by a value of type `Ret op` or an error. -/
inductive Program (Op : Type) (Ret : Op → Type) (ε α : Type)
  | done (result : Except ε α)
  | call (op : Op) (next : Except ε (Ret op) → Program Op Ret ε α)

/-- What a call does to the state and what it answers. -/
abbrev Handler (Op : Type) (Ret : Op → Type) (ε σ : Type) : Type :=
  (op : Op) → σ → Except ε (Ret op) × σ

namespace Program

variable {Op : Type} {Ret : Op → Type} {ε α β γ σ : Type}

/-- The calls of the first program, then those of the second. -/
def bind : Program Op Ret ε α → (α → Program Op Ret ε β) → Program Op Ret ε β
  | done (.ok a), f => f a
  | done (.error e), _ => done (.error e)
  | call op next, f => call op fun answer => (next answer).bind f

instance : Monad (Program Op Ret ε) where
  pure a := done (.ok a)
  bind := bind

/-- The program has ended. -/
def isDone : Program Op Ret ε α → Bool
  | done _ => true
  | call _ _ => false

/-- Go on with a handler where the program throws. -/
def tryCatch : Program Op Ret ε α → (ε → Program Op Ret ε α) → Program Op Ret ε α
  | done (.ok a), _ => done (.ok a)
  | done (.error e), handle => handle e
  | call op next, handle => call op fun answer => (next answer).tryCatch handle

/-- A single call. -/
def perform (op : Op) : Program Op Ret ε (Ret op) := call op done

@[simp] theorem pure_eq (a : α) : (pure a : Program Op Ret ε α) = done (.ok a) := rfl

@[simp] theorem ok_bind (a : α) (f : α → Program Op Ret ε β) : (done (.ok a) >>= f) = f a := rfl

@[simp] theorem error_bind (e : ε) (f : α → Program Op Ret ε β) :
    (done (.error e) >>= f) = done (.error e) := rfl

@[simp] theorem call_bind (op : Op) (next : Except ε (Ret op) → Program Op Ret ε α)
    (f : α → Program Op Ret ε β) :
    (call op next >>= f) = call op fun answer => next answer >>= f := rfl

theorem perform_bind (op : Op) (f : Ret op → Program Op Ret ε β) :
    (perform op >>= f) = call op fun answer => done answer >>= f := rfl

/-- Sequencing is associative. -/
theorem bind_assoc (p : Program Op Ret ε α) (f : α → Program Op Ret ε β)
    (g : β → Program Op Ret ε γ) : p >>= f >>= g = p >>= fun a => f a >>= g := by
  induction p with
  | done result =>
    cases result with
    | ok a => rfl
    | error e => rfl
  | call op next ih =>
    simp only [call_bind, ih]

/-! ## Running to the end -/

/-- Run a program, passing the state through its calls. -/
def run (h : Handler Op Ret ε σ) : Program Op Ret ε α → σ → Except ε α × σ
  | done result, s => (result, s)
  | call op next, s => run h (next (h op s).1) (h op s).2

variable {h : Handler Op Ret ε σ}

@[simp] theorem run_done (result : Except ε α) (s : σ) :
    run h (done result : Program Op Ret ε α) s = (result, s) := rfl

@[simp] theorem run_call (op : Op) (next : Except ε (Ret op) → Program Op Ret ε α) (s : σ) :
    run h (call op next) s = run h (next (h op s).1) (h op s).2 := rfl

@[simp] theorem run_perform (op : Op) (s : σ) :
    run h (perform op : Program Op Ret ε (Ret op)) s = h op s := rfl

/-- A sequence runs its first part and then the rest from the value and state it left. -/
theorem run_bind (p : Program Op Ret ε α) (f : α → Program Op Ret ε β) (s : σ) :
    run h (p >>= f) s = match run h p s with
      | (.ok a, s') => run h (f a) s'
      | (.error e, s') => (.error e, s') := by
  induction p generalizing s with
  | done result => cases result <;> rfl
  | call op next ih => exact ih (h op s).1 (h op s).2

/-- A program that succeeds hands on its value and its state. -/
theorem run_bind_of_ok {p : Program Op Ret ε α} {s s' : σ} {a : α}
    (hp : run h p s = (.ok a, s')) (f : α → Program Op Ret ε β) :
    run h (p >>= f) s = run h (f a) s' := by
  rw [run_bind, hp]

/-- A program that fails ends the whole. -/
theorem run_bind_of_error {p : Program Op Ret ε α} {s s' : σ} {e : ε}
    (hp : run h p s = (.error e, s')) (f : α → Program Op Ret ε β) :
    run h (p >>= f) s = (.error e, s') := by
  rw [run_bind, hp]

theorem run_perform_bind (op : Op) (f : Ret op → Program Op Ret ε β) (s : σ) :
    run h (perform op >>= f) s = match h op s with
      | (.ok a, s') => run h (f a) s'
      | (.error e, s') => (.error e, s') := by
  rw [run_bind, run_perform]
  obtain ⟨answer, s'⟩ := h op s
  cases answer <;> rfl

/-! ## Embedding a program into one with more calls -/

section Embed

variable {Op' : Type} {Ret' : Op' → Type} {τ : Type}

/-- The same program with each call renamed. -/
def embed (inj : Op → Op') (ret : ∀ op, Ret' (inj op) → Ret op) :
    Program Op Ret ε α → Program Op' Ret' ε α
  | done result => done result
  | call op next => call (inj op) fun answer => (next (answer.map (ret op))).embed inj ret

end Embed

/-! ## Calls a program never makes -/

/-- Whatever its calls answer, the program makes no call of a kind. -/
def Avoids (bad : Op → Prop) : Program Op Ret ε α → Prop
  | done _ => True
  | call op next => ¬bad op ∧ ∀ answer, (next answer).Avoids bad

variable {bad : Op → Prop}

@[simp] theorem avoids_done (result : Except ε α) :
    (done result : Program Op Ret ε α).Avoids bad := trivial

theorem avoids_perform {op : Op} (hop : ¬bad op) :
    (perform op : Program Op Ret ε (Ret op)).Avoids bad := ⟨hop, fun _ => trivial⟩

/-- What avoids more operations avoids fewer. -/
theorem Avoids.mono {bad' : Op → Prop} {p : Program Op Ret ε α} (hp : p.Avoids bad)
    (hbad : ∀ op, bad' op → bad op) : p.Avoids bad' := by
  induction p with
  | done result => trivial
  | call op next ih => exact ⟨fun h => hp.1 (hbad op h), fun answer => ih answer (hp.2 answer)⟩

theorem avoids_false (p : Program Op Ret ε α) : p.Avoids fun _ => False := by
  induction p with
  | done result => trivial
  | call op next ih => exact ⟨id, ih⟩

/-- What every other call keeps, a run keeps. -/
theorem Avoids.run_preserves {P : σ → Prop} (hP : ∀ op s, ¬bad op → P s → P (h op s).2)
    {p : Program Op Ret ε α} (hp : p.Avoids bad) {s : σ} (hs : P s) : P (run h p s).2 := by
  induction p generalizing s with
  | done result => exact hs
  | call op next ih => exact ih (h op s).1 (hp.2 _) (hP op s hp.1 hs)

/-- Sequencing calls no other operations. -/
theorem Avoids.bind {p : Program Op Ret ε α} {f : α → Program Op Ret ε β} (hp : p.Avoids bad)
    (hf : ∀ a, (f a).Avoids bad) : (p >>= f).Avoids bad := by
  induction p with
  | done result =>
    cases result with
    | ok a => exact hf a
    | error e => trivial
  | call op next ih => exact ⟨hp.1, fun answer => ih answer (hp.2 answer)⟩

/-- A handler that avoids the operations keeps a program from them. -/
theorem Avoids.tryCatch {p : Program Op Ret ε α} {handle : ε → Program Op Ret ε α}
    (hp : p.Avoids bad) (hhandle : ∀ e, (handle e).Avoids bad) :
    (p.tryCatch handle).Avoids bad := by
  induction p with
  | done result =>
    cases result with
    | ok a => trivial
    | error e => exact hhandle e
  | call op next ih => exact ⟨hp.1, fun answer => ih answer (hp.2 answer)⟩

end Program
