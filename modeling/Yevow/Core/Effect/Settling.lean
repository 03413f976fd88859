import Yevow.Core.Effect.Asynchrony

/-!
# Functions between two awaited calls

What holds once a function has run to its next awaited call is found call by call. An isolate
keeps what every such stretch keeps.
-/

namespace Program

variable {Op : Type} {Ret : Op → Type} {ε α σ ω : Type} {host : Host Op Ret ε σ ω}

/-- What holds of the state and of what is left of a program at its next awaited call. -/
def Rests (host : Host Op Ret ε σ ω) (Q : σ → Program Op Ret ε α → Prop)
    (p : Program Op Ret ε α) (s : σ) : Prop :=
  Q (p.settle host s).2.1 (p.settle host s).1

variable {Q : σ → Program Op Ret ε α → Prop} {s : σ}

/-- A function rests at a call that it awaits. -/
theorem rests_awaited {op : Op} {next : Except ε (Ret op) → Program Op Ret ε α}
    (hop : host.awaited op = true) : (call op next).Rests host Q s ↔ Q s (call op next) := by
  rw [Rests, settle, if_pos hop]

/-- A call that is served at once is passed over. -/
theorem rests_served {op : Op} {next : Except ε (Ret op) → Program Op Ret ε α}
    (hop : host.awaited op = false) : (call op next).Rests host Q s ↔
      (next (host.serve op s).1).Rests host Q (host.serve op s).2 := by
  rw [Rests, settle, if_neg (by simp [hop])]
  rfl

/-- A weaker resting place is met as well. -/
theorem Rests.mono {Q' : σ → Program Op Ret ε α → Prop} {p : Program Op Ret ε α}
    (h : p.Rests host Q s) (himp : ∀ s p, Q s p → Q' s p) : p.Rests host Q' s :=
  himp _ _ h

/-- A program that makes awaited calls only. -/
def Idle (host : Host Op Ret ε σ ω) (p : Program Op Ret ε α) : Prop :=
  p.Avoids fun op => host.awaited op = false

theorem Idle.rests_iff {p : Program Op Ret ε α} (hp : p.Idle host) :
    p.Rests host Q s ↔ Q s p := by
  cases p with
  | done result => rfl
  | call op next => exact rests_awaited (by simpa using hp.1)

/-- An idle function stays idle after an answer. -/
theorem Idle.answer {op : Op} {next : Except ε (Ret op) → Program Op Ret ε α}
    (hp : (call op next).Idle host) (answer : Except ε (Ret op)) : (next answer).Idle host :=
  hp.2 answer

end Program

namespace Isolate

variable {ι Op : Type} {Ret : Op → Type} {ε α σ ω A : Type}

/-- What every stretch between two awaited calls keeps: an invariant of the state, what is
known of the functions at rest, and how the state may change. -/
structure Sustains (setting : Setting ι Op Ret ε α σ ω A)
    (condition : Isolate ι Op Ret ε α σ ω → Event ι Op Ret ε A → Prop) (I : σ → Prop)
    (T : σ → ι → Program Op Ret ε α → Prop) (R : σ → σ → Prop) : Prop where
  refl : ∀ s, R s s
  trans : ∀ s s' s'', R s s' → R s' s'' → R s s''
  frame : ∀ s s' request p, I s → R s s' → T s request p → T s' request p
  act : ∀ isolate a, condition isolate (.act a) → I isolate.state →
    R isolate.state (setting.act a isolate.state) ∧ I (setting.act a isolate.state)
  start : ∀ isolate request, condition isolate (.start request) → I isolate.state →
    (setting.program request).Rests setting.host
      (fun s p => R isolate.state s ∧ I s ∧ T s request p) isolate.state
  resume : ∀ isolate i request op next answer, condition isolate (.resume i answer) →
    isolate.threads[i]? = some (request, .call op next) → setting.host.awaited op = true →
    I isolate.state → T isolate.state request (.call op next) →
    (next (answer op)).Rests setting.host
      (fun s p => R isolate.state s ∧ I s ∧ T s request p) isolate.state

variable {setting : Setting ι Op Ret ε α σ ω A}
  {condition : Isolate ι Op Ret ε α σ ω → Event ι Op Ret ε A → Prop} {start I : σ → Prop}
  {T : σ → ι → Program Op Ret ε α → Prop} {R : σ → σ → Prop}

/-- The state and all functions at rest are as the invariants say. -/
def Sustained (I : σ → Prop) (T : σ → ι → Program Op Ret ε α → Prop)
    (isolate : Isolate ι Op Ret ε α σ ω) : Prop :=
  I isolate.state ∧ ∀ (i : ℕ) (request : ι) (p : Program Op Ret ε α),
    isolate.threads[i]? = some (request, p) → T isolate.state request p

/-- One event. -/
theorem Sustains.after (h : Sustains setting condition I T R) {isolate : Isolate ι Op Ret ε α σ ω}
    {event : Event ι Op Ret ε A} (hevent : condition isolate event)
    (hisolate : isolate.Sustained I T) :
    R isolate.state (isolate.after setting event).state ∧
      (isolate.after setting event).Sustained I T := by
  obtain ⟨hI, hT⟩ := hisolate
  -- The function that runs rests as described, the others are framed.
  have hsettle : ∀ i request (p : Program Op Ret ε α) notes, i ≤ isolate.threads.length →
      p.Rests setting.host (fun s p => R isolate.state s ∧ I s ∧ T s request p) isolate.state →
      R isolate.state (isolate.settleThread setting i request p notes).state ∧
        (isolate.settleThread setting i request p notes).Sustained I T := by
    intro i request p notes hi hrests
    obtain ⟨hR, hI', hT'⟩ := hrests
    refine ⟨hR, hI', fun j request' q hj => ?_⟩
    rw [getElem?_settleThread hi] at hj
    split_ifs at hj
    · obtain ⟨rfl, rfl⟩ := Prod.mk.inj (Option.some.inj hj)
      exact hT'
    · exact h.frame _ _ _ _ hI hR (hT j request' q hj)
  cases event with
  | start request => exact hsettle _ _ _ _ (Nat.le_refl _) (h.start isolate request hevent hI)
  | act a =>
    obtain ⟨hR, hI'⟩ := h.act isolate a hevent hI
    exact ⟨hR, hI', fun i request p hi => h.frame _ _ _ _ hI hR (hT i request p hi)⟩
  | resume i answer =>
    rw [Isolate.after]
    split
    · rename_i request op next hi
      split_ifs with hop
      · exact hsettle _ _ _ _ (Nat.le_of_lt (List.getElem?_eq_some_iff.mp hi).1)
          (h.resume isolate i request op next answer hevent hi hop hI (hT i request _ hi))
      · exact ⟨h.refl _, hI, hT⟩
    · exact ⟨h.refl _, hI, hT⟩

/-- Every isolate that is reached is as the invariants say. -/
theorem Sustains.reaches (h : Sustains setting condition I T R) (hstart : ∀ s, start s → I s)
    {isolate : Isolate ι Op Ret ε α σ ω} (hreach : Reaches setting condition start isolate) :
    isolate.Sustained I T := by
  induction hreach with
  | start s hs => exact ⟨hstart s hs, fun i request p hi => by simp at hi⟩
  | step event _ hevent ih => exact (h.after hevent ih).2

/-- The events that follow change the state as they may. -/
theorem Sustains.along (h : Sustains setting condition I T R)
    {events : List (Event ι Op Ret ε A)} {isolate : Isolate ι Op Ret ε α σ ω}
    (hisolate : isolate.Sustained I T) (hevents : Along setting condition events isolate) :
    R isolate.state (events.foldl (Isolate.after setting) isolate).state := by
  induction events generalizing isolate with
  | nil => exact h.refl _
  | cons event events ih =>
    obtain ⟨hR, hnext⟩ := h.after hevents.1 hisolate
    exact h.trans _ _ _ hR (ih hnext hevents.2)

end Isolate
