import Yevow.Core.Effect.Program

/-!
# Interrupted programs

A call may throw without doing anything. `runFault` runs a program whose call of a given
number throws, and `callAt` names the call a run makes under a number.
-/

namespace Program

variable {Op : Type} {Ret : Op → Type} {ε α β σ : Type} (h : Handler Op Ret ε σ)

/-- Run a program whose call number `n` throws and does nothing. -/
def runFault (fault : ε) : ℕ → Program Op Ret ε α → σ → Except ε α × σ
  | _, done result, s => (result, s)
  | 0, call _ next, s => run h (next (.error fault)) s
  | n + 1, call op next, s => runFault fault n (next (h op s).1) (h op s).2

/-- The call a run makes under number `n`, if it makes that many. -/
def callAt : ℕ → Program Op Ret ε α → σ → Option Op
  | _, done _, _ => none
  | 0, call op _, _ => some op
  | n + 1, call op next, s => callAt n (next (h op s).1) (h op s).2

variable {h} {fault : ε}

@[simp] theorem runFault_done (n : ℕ) (result : Except ε α) (s : σ) :
    runFault h fault n (done result : Program Op Ret ε α) s = (result, s) := by
  cases n <;> rfl

@[simp] theorem runFault_zero (op : Op) (next : Except ε (Ret op) → Program Op Ret ε α) (s : σ) :
    runFault h fault 0 (call op next) s = run h (next (.error fault)) s := rfl

@[simp] theorem runFault_succ (n : ℕ) (op : Op)
    (next : Except ε (Ret op) → Program Op Ret ε α) (s : σ) :
    runFault h fault (n + 1) (call op next) s =
      runFault h fault n (next (h op s).1) (h op s).2 := rfl

@[simp] theorem callAt_done (n : ℕ) (result : Except ε α) (s : σ) :
    callAt h n (done result : Program Op Ret ε α) s = none := by
  cases n <;> rfl

@[simp] theorem callAt_zero (op : Op) (next : Except ε (Ret op) → Program Op Ret ε α) (s : σ) :
    callAt h 0 (call op next) s = some op := rfl

@[simp] theorem callAt_succ (n : ℕ) (op : Op) (next : Except ε (Ret op) → Program Op Ret ε α)
    (s : σ) : callAt h (n + 1) (call op next) s = callAt h n (next (h op s).1) (h op s).2 := rfl

/-- A run that makes fewer calls than the number of the faulty one is not disturbed. -/
theorem runFault_of_callAt_eq_none {n : ℕ} {p : Program Op Ret ε α} {s : σ}
    (hnone : callAt h n p s = none) : runFault h fault n p s = run h p s := by
  induction p generalizing n s with
  | done result => rw [runFault_done, run_done]
  | call op next ih =>
    cases n with
    | zero => simp at hnone
    | succ n =>
      rw [callAt_succ] at hnone
      rw [runFault_succ, run_call]
      exact ih _ hnone

/-- How many calls a run makes. -/
def calls (h : Handler Op Ret ε σ) : Program Op Ret ε α → σ → ℕ
  | done _, _ => 0
  | call op next, s => calls h (next (h op s).1) (h op s).2 + 1

/-- The calls of a sequence are those of its first part and then those of the rest. -/
theorem callAt_bind (n : ℕ) (p : Program Op Ret ε α) (f : α → Program Op Ret ε β) (s : σ) :
    callAt h n (p >>= f) s = if n < calls h p s then callAt h n p s else
      match run h p s with
      | (.ok a, s') => callAt h (n - calls h p s) (f a) s'
      | (.error _, _) => none := by
  induction p generalizing n s with
  | done result =>
    cases result with
    | ok a => simp [calls]
    | error e => simp [calls]
  | call op next ih =>
    cases n with
    | zero => simp [calls]
    | succ n =>
      simp only [call_bind, callAt_succ, calls, run_call, ih, Nat.add_lt_add_iff_right,
        Nat.add_sub_add_right]

/-- A fault in a sequence strikes its first part or, once that has run, the rest. -/
theorem runFault_bind (n : ℕ) (p : Program Op Ret ε α) (f : α → Program Op Ret ε β) (s : σ) :
    runFault h fault n (p >>= f) s = if n < calls h p s then
      match runFault h fault n p s with
      | (.ok a, s') => run h (f a) s'
      | (.error e, s') => (.error e, s')
    else
      match run h p s with
      | (.ok a, s') => runFault h fault (n - calls h p s) (f a) s'
      | (.error e, s') => (.error e, s') := by
  induction p generalizing n s with
  | done result =>
    cases result with
    | ok a => simp [calls]
    | error e => simp [calls]
  | call op next ih =>
    cases n with
    | zero =>
      have hlt : 0 < calls h (call op next) s := Nat.succ_pos _
      rw [if_pos hlt]
      exact run_bind (next (.error fault)) f s
    | succ n =>
      simp only [call_bind, runFault_succ, calls, run_call, ih, Nat.add_lt_add_iff_right,
        Nat.add_sub_add_right]

/-- The numbers below the count of a run's calls are those a call is made under. -/
theorem callAt_eq_none_iff {n : ℕ} {p : Program Op Ret ε α} {s : σ} :
    callAt h n p s = none ↔ calls h p s ≤ n := by
  induction p generalizing n s with
  | done result => simp [calls]
  | call op next ih =>
    cases n with
    | zero => simp [calls]
    | succ n =>
      rw [callAt_succ, ih]
      simp [calls]

theorem runFault_perform_bind_succ (n : ℕ) (op : Op) (f : Ret op → Program Op Ret ε β) (s : σ) :
    runFault h fault (n + 1) (perform op >>= f) s = match h op s with
      | (.ok a, s') => runFault h fault n (f a) s'
      | (.error e, s') => (.error e, s') := by
  rw [perform_bind, runFault_succ]
  obtain ⟨answer, s'⟩ := h op s
  cases answer with
  | ok a => rfl
  | error e => simp

theorem callAt_perform_bind_zero (op : Op) (f : Ret op → Program Op Ret ε β) (s : σ) :
    callAt h 0 (perform op >>= f) s = some op := by
  rw [perform_bind, callAt_zero]

theorem callAt_perform_bind_succ (n : ℕ) (op : Op) (f : Ret op → Program Op Ret ε β) (s : σ) :
    callAt h (n + 1) (perform op >>= f) s = match h op s with
      | (.ok a, s') => callAt h n (f a) s'
      | (.error _, _) => none := by
  rw [perform_bind, callAt_succ]
  obtain ⟨answer, s'⟩ := h op s
  cases answer with
  | ok a => rfl
  | error e => simp

/-! ## Sequences that end with a plain value -/

section Value

variable (g : α → β)

/-- A value computed from a result changes no state. -/
theorem run_bind_done (p : Program Op Ret ε α) (s : σ) :
    run h (p >>= fun a => done (.ok (g a))) s = ((run h p s).1.map g, (run h p s).2) := by
  induction p generalizing s with
  | done result => cases result <;> rfl
  | call op next ih => exact ih (h op s).1 (h op s).2

/-- A value computed from a result moves no fault. -/
theorem runFault_bind_done (n : ℕ) (p : Program Op Ret ε α) (s : σ) :
    runFault h fault n (p >>= fun a => done (.ok (g a))) s =
      ((runFault h fault n p s).1.map g, (runFault h fault n p s).2) := by
  induction p generalizing n s with
  | done result =>
    cases result with
    | ok a => simp [Except.map]
    | error e => simp [Except.map]
  | call op next ih =>
    cases n with
    | zero => exact run_bind_done g _ s
    | succ n => exact ih (h op s).1 n (h op s).2

theorem callAt_bind_done (n : ℕ) (p : Program Op Ret ε α) (s : σ) :
    callAt h n (p >>= fun a => (done (.ok (g a)) : Program Op Ret ε β)) s = callAt h n p s := by
  induction p generalizing n s with
  | done result =>
    cases result with
    | ok a => simp
    | error e => simp
  | call op next ih =>
    cases n with
    | zero => rfl
    | succ n => exact ih (h op s).1 n (h op s).2

end Value

/-! ## Programs that pass every error on -/

/-- No error a call throws is caught. -/
def Propagates : Program Op Ret ε α → Prop
  | done _ => True
  | call _ next => (∀ e, next (.error e) = done (.error e)) ∧ ∀ a, (next (.ok a)).Propagates

theorem propagates_perform (op : Op) : (perform op : Program Op Ret ε (Ret op)).Propagates :=
  ⟨fun _ => rfl, fun _ => trivial⟩

/-- Programs that pass on a fault compose. -/
theorem Propagates.bind {p : Program Op Ret ε α} {f : α → Program Op Ret ε β}
    (hp : p.Propagates) (hf : ∀ a, (f a).Propagates) : (p >>= f).Propagates := by
  induction p with
  | done result =>
    cases result with
    | ok a => exact hf a
    | error e => trivial
  | call op next ih =>
    refine ⟨fun e => ?_, fun a => ih (.ok a) (hp.2 a)⟩
    show next (.error e) >>= f = done (.error e)
    rw [hp.1 e, error_bind]

/-- A fault ends a program that passes errors on. -/
theorem Propagates.runFault {n : ℕ} {p : Program Op Ret ε α} (hp : p.Propagates) (fault : ε)
    {s : σ} (hn : n < calls h p s) : (runFault h fault n p s).1 = .error fault := by
  induction p generalizing n s with
  | done result => simp [calls] at hn
  | call op next ih =>
    cases n with
    | zero => rw [runFault_zero, hp.1, run_done]
    | succ n =>
      simp only [calls, Nat.add_lt_add_iff_right] at hn
      rw [runFault_succ]
      cases hcall : h op s with
      | mk answer s' =>
        simp only [hcall] at hn ⊢
        cases answer with
        | ok a => exact ih (.ok a) (hp.2 a) hn
        | error e =>
          rw [hp.1 e] at hn
          simp [calls] at hn

/-! ## Where a fault strikes -/

/-- Some call of a run throws, and the run goes on to a state. -/
def Struck (h : Handler Op Ret ε σ) (fault : ε) (p : Program Op Ret ε α) (s : σ) (op : Op) (t : σ) :
    Prop :=
  ∃ n, callAt h n p s = some op ∧ (runFault h fault n p s).2 = t

section Struck

variable {p : Program Op Ret ε α} {f : α → Program Op Ret ε β} {op op' : Op} {s t : σ}

theorem not_struck_done {result : Except ε α} :
    ¬Struck h fault (done result : Program Op Ret ε α) s op t := by
  rintro ⟨n, hcall, -⟩
  rw [callAt_done] at hcall
  cases hcall

/-- A fault strikes a sequence in its first part or, once that has run, in the rest. -/
theorem Struck.bind (hp : p.Propagates) (hs : Struck h fault (p >>= f) s op t) :
    Struck h fault p s op t ∨
      ∃ a s', run h p s = (.ok a, s') ∧ Struck h fault (f a) s' op t := by
  obtain ⟨n, hcall, hstate⟩ := hs
  rw [callAt_bind] at hcall
  rw [runFault_bind] at hstate
  by_cases hn : n < calls h p s
  · rw [if_pos hn] at hcall hstate
    have herror := hp.runFault fault hn
    rcases hfault : runFault h fault n p s with ⟨result, u⟩
    rw [hfault] at herror hstate
    obtain rfl := herror
    exact Or.inl ⟨n, hcall, by rw [hfault]; exact hstate⟩
  · rw [if_neg hn] at hcall hstate
    rcases hrun : run h p s with ⟨_ | a, s'⟩
    · rw [hrun] at hcall
      cases hcall
    · rw [hrun] at hcall hstate
      exact Or.inr ⟨a, s', rfl, _, hcall, hstate⟩

/-- A single call is struck at itself. -/
theorem Struck.perform (hs : Struck h fault (perform op' : Program Op Ret ε (Ret op')) s op t) :
    op = op' ∧ t = s := by
  obtain ⟨n, hcall, hstate⟩ := hs
  cases n with
  | zero => exact ⟨(Option.some.inj hcall).symm, hstate.symm⟩
  | succ n =>
    have hnone : callAt h n (done (h op' s).1 : Program Op Ret ε (Ret op')) (h op' s).2 = some op :=
      hcall
    rw [callAt_done] at hnone
    cases hnone

/-- A fault strikes a call or, once that was served, what comes after it. -/
theorem Struck.perform_bind {f : Ret op' → Program Op Ret ε β}
    (hs : Struck h fault (Program.perform op' >>= f) s op t) : (op = op' ∧ t = s) ∨
      ∃ a s', h op' s = (.ok a, s') ∧ Struck h fault (f a) s' op t := by
  rcases hs.bind (propagates_perform op') with hfirst | ⟨a, s', hrun, hrest⟩
  · exact Or.inl hfirst.perform
  · exact Or.inr ⟨a, s', hrun, hrest⟩

end Struck

/-! ## Calling again -/

/-- The states in which calling again until the program succeeds may end. -/
inductive Retried (h : Handler Op Ret ε σ) (p : Program Op Ret ε α) : σ → σ → Prop
  | success {a : α} {s s' : σ} (hrun : run h p s = (.ok a, s')) : Retried h p s s'
  | again {e : ε} {s t s' : σ} (hrun : run h p s = (.error e, t)) (hrest : Retried h p t s') :
      Retried h p s s'

/-- What a run keeps, calling again keeps. -/
theorem Retried.invariant {p : Program Op Ret ε α} {P : σ → Prop}
    (hP : ∀ s, P s → P (run h p s).2) {s s' : σ} (hretried : Retried h p s s') (hs : P s) :
    P s' := by
  induction hretried with
  | success hrun =>
    have hnext := hP _ hs
    rw [hrun] at hnext
    exact hnext
  | again hrun _ ih =>
    have hnext := hP _ hs
    rw [hrun] at hnext
    exact ih hnext

/-- Where the next run succeeds, it is the last one. -/
theorem Retried.eq_of_run {p : Program Op Ret ε α} {a : α} {s s' t : σ}
    (hretried : Retried h p s s') (hrun : run h p s = (.ok a, t)) : s' = t := by
  cases hretried with
  | success hrun' => exact (Prod.mk.inj (hrun'.symm.trans hrun)).2
  | again herror _ => cases (Prod.mk.inj (herror.symm.trans hrun)).1

/-- The calls of a program that avoids a kind are not of that kind. -/
theorem Avoids.callAt {bad : Op → Prop} {p : Program Op Ret ε α} (hp : p.Avoids bad) {n : ℕ} {s : σ}
    {op : Op} (hcall : callAt h n p s = some op) : ¬bad op := by
  induction p generalizing n s with
  | done result =>
    rw [callAt_done] at hcall
    cases hcall
  | call op' next ih =>
    cases n with
    | zero =>
      obtain rfl := Option.some.inj hcall
      exact hp.1
    | succ n => exact ih _ (hp.2 _) hcall

/-- What every other call keeps, a faulty run keeps. -/
theorem Avoids.runFault_preserves {bad : Op → Prop} {P : σ → Prop}
    (hP : ∀ op s, ¬bad op → P s → P (h op s).2) {p : Program Op Ret ε α} (hp : p.Avoids bad) (n : ℕ)
    {s : σ} (hs : P s) : P (runFault h fault n p s).2 := by
  induction p generalizing n s with
  | done result =>
    rw [runFault_done]
    exact hs
  | call op next ih =>
    cases n with
    | zero => exact (hp.2 _).run_preserves hP hs
    | succ n => exact ih _ (hp.2 _) n (hP op s hp.1 hs)

/-! ## A kind of call that comes last -/

/-- Nothing comes after a call of the kind. -/
def OnlyLast (last : Op → Prop) : Program Op Ret ε α → Prop
  | done _ => True
  | call op next => (last op → ∀ answer, ∃ result, next answer = done result) ∧
      ∀ answer, (next answer).OnlyLast last

variable {last : Op → Prop}

theorem onlyLast_perform (op : Op) : (perform op : Program Op Ret ε (Ret op)).OnlyLast last :=
  ⟨fun _ answer => ⟨answer, rfl⟩, fun _ => trivial⟩

/-- The last operation may follow a program that avoids it. -/
theorem Avoids.bind_onlyLast {p : Program Op Ret ε α} {f : α → Program Op Ret ε β}
    (hp : p.Avoids last) (hf : ∀ a, (f a).OnlyLast last) : (p >>= f).OnlyLast last := by
  induction p with
  | done result =>
    cases result with
    | ok a => exact hf a
    | error e => trivial
  | call op next ih => exact ⟨fun hop => absurd hop hp.1, fun answer => ih answer (hp.2 answer)⟩

/-- A fault that strikes comes before or at the last call. -/
theorem OnlyLast.runFault_preserves {P : σ → Prop} (hP : ∀ op s, ¬last op → P s → P (h op s).2)
    {p : Program Op Ret ε α} (hlast : p.OnlyLast last) (hp : p.Propagates) {n : ℕ} {s : σ} {op : Op}
    (hcall : callAt h n p s = some op) (hs : P s) : P (runFault h fault n p s).2 := by
  induction p generalizing n s with
  | done result =>
    rw [callAt_done] at hcall
    cases hcall
  | call op' next ih =>
    cases n with
    | zero =>
      rw [runFault_zero, hp.1]
      exact hs
    | succ n =>
      rw [callAt_succ] at hcall
      rw [runFault_succ]
      by_cases hop : last op'
      · obtain ⟨result, hdone⟩ := hlast.1 hop (h op' s).1
        rw [hdone, callAt_done] at hcall
        cases hcall
      · have hpropagates : (next (h op' s).1).Propagates := by
          cases hanswer : (h op' s).1 with
          | ok a => exact hp.2 a
          | error e =>
            rw [hp.1 e]
            trivial
        exact ih _ (hlast.2 _) hpropagates hcall (hP op' s hop hs)

/-! ## What a fault leaves alone -/

/-- No forbidden operation is struck. -/
theorem Struck.avoids {bad : Op → Prop} {p : Program Op Ret ε α} {op : Op} {s t : σ}
    (hs : Struck h fault p s op t) (hp : p.Avoids bad) : ¬bad op := by
  obtain ⟨n, hcall, -⟩ := hs
  exact hp.callAt hcall

/-- What the allowed operations keep holds where the fault strikes. -/
theorem Struck.preserves {bad : Op → Prop} {P : σ → Prop} {p : Program Op Ret ε α} {op : Op}
    {s t : σ} (hs : Struck h fault p s op t) (hP : ∀ op s, ¬bad op → P s → P (h op s).2)
    (hp : p.Avoids bad) (h₀ : P s) : P t := by
  obtain ⟨n, -, rfl⟩ := hs
  exact hp.runFault_preserves hP n h₀

/-- At the last operation nothing has changed yet. -/
theorem Struck.onlyLast {P : σ → Prop} {p : Program Op Ret ε α} {op : Op} {s t : σ}
    (hs : Struck h fault p s op t) (hP : ∀ op s, ¬last op → P s → P (h op s).2)
    (hlast : p.OnlyLast last) (hp : p.Propagates) (h₀ : P s) : P t := by
  obtain ⟨n, hcall, rfl⟩ := hs
  exact hlast.runFault_preserves hP hp hcall h₀

/-! ## Runs in related states -/

/-- Calls that answer alike in related states and leave related states make runs do so. -/
theorem run_congr {R : σ → σ → Prop}
    (hR : ∀ op s s', R s s' → (h op s).1 = (h op s').1 ∧ R (h op s).2 (h op s').2)
    (p : Program Op Ret ε α) {s s' : σ} (hs : R s s') :
    (run h p s).1 = (run h p s').1 ∧ R (run h p s).2 (run h p s').2 := by
  induction p generalizing s s' with
  | done result => exact ⟨rfl, hs⟩
  | call op next ih =>
    obtain ⟨hanswer, hstate⟩ := hR op s s' hs
    rw [run_call, run_call, hanswer]
    exact ih _ hstate

end Program
