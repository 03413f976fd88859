import Yevow.Core.Effect.Program

/-!
# A program among the actions of others

An asynchronous function whose calls all go outside leaves the shared state alone until it has
ended. Each of its calls suspends it, for as long as others may act, and is answered in any way.
What it does to the state at its end rests on what it read at its start and on the answers.
-/

namespace Program

variable {Op : Type} {Ret : Op → Type} {ε α β σ A : Type} (act : σ → A → σ)

/-- A run of a program to its end: what others did meanwhile, the result and the state. -/
inductive Interleaved :
    Program Op Ret ε α → σ → List A → Except ε α → σ → Prop
  | done (result : Except ε α) (s : σ) : Interleaved (done result) s [] result s
  | act {op : Op} {next : Except ε (Ret op) → Program Op Ret ε α} {s s' : σ} {a : A}
      {actions : List A} {result : Except ε α} :
      Interleaved (call op next) (act s a) actions result s' →
      Interleaved (call op next) s (a :: actions) result s'
  | answer {op : Op} {next : Except ε (Ret op) → Program Op Ret ε α} {s s' : σ}
      {actions : List A} {result : Except ε α} (answer : Except ε (Ret op)) :
      Interleaved (next answer) s actions result s' →
      Interleaved (call op next) s actions result s'

/-- Whatever the answers, a value that the program returns is as the postcondition says. -/
def Ensures (post : α → Prop) : Program Op Ret ε α → Prop
  | done (.ok a) => post a
  | done (.error _) => True
  | call _ next => ∀ answer, (next answer).Ensures post

variable {act} {p : Program Op Ret ε α} {s s' : σ} {actions : List A}

/-- What a program ensures holds of its interleaved results. -/
theorem Interleaved.ensures {post : α → Prop} {a : α} (hp : p.Ensures post)
    (h : Interleaved act p s actions (.ok a) s') : post a := by
  generalize hresult : (Except.ok a : Except ε α) = result at h
  induction h with
  | done result =>
    subst hresult
    exact hp
  | act _ ih => exact ih hp hresult
  | answer x _ ih => exact ih (hp x) hresult

/-- The end of a sequence ensures what the second program does. -/
theorem ensures_bind {post : β → Prop} {f : α → Program Op Ret ε β}
    (hf : ∀ a, (f a).Ensures post) : (p >>= f).Ensures post := by
  induction p with
  | done result =>
    cases result with
    | ok a => exact hf a
    | error e => exact trivial
  | call op next ih => exact fun answer => ih answer

end Program
