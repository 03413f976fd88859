import Yevow.Core.Effect.Concurrency

/-!
# Runs in which calls fail

Any call of a program may fail and leave the state alone; the program goes on with the error.
An invariant that the calls of a discipline keep holds at the end of every such run. Two
stores that answer the calls of a discipline alike stay so along a run, and the run returns
the same.
-/

namespace Program

variable {Op : Type} {Ret : Op → Type} {ε α σ K : Type}

/-- The states that running a program may end in when any of its calls may fail. -/
inductive EndsIn (h : Handler Op Ret ε σ) : Program Op Ret ε α → σ → σ → Prop
  | done (result : Except ε α) (s : σ) : EndsIn h (done result) s s
  | served {op : Op} {next : Except ε (Ret op) → Program Op Ret ε α} {s s' : σ}
      (hrest : EndsIn h (next (h op s).1) (h op s).2 s') : EndsIn h (call op next) s s'
  | failed {op : Op} {next : Except ε (Ret op) → Program Op Ret ε α} {s s' : σ} (error : ε)
      (hrest : EndsIn h (next (.error error)) s s') : EndsIn h (call op next) s s'

variable {h : Handler Op Ret ε σ} {D : Discipline Op Ret ε K}
  {post : K → Except ε α → Prop} {p : Program Op Ret ε α} {s s' : σ}

/-- A run without failures is one of them. -/
theorem endsIn_run (p : Program Op Ret ε α) (s : σ) : EndsIn h p s (run h p s).2 := by
  induction p generalizing s with
  | done result => exact .done result s
  | call op next ih => exact .served (ih _ _)

/-- A run ends in a state that the calls of its discipline lead to. -/
theorem Follows.endsIn {I : K → σ → Prop}
    (hserved : ∀ k op s, D.may k op → I k s → D.expects k op (h op s).1 ∧
      ∀ k', D.leads k op (h op s).1 k' → I k' (h op s).2)
    (hfailed : ∀ k op s e, D.may k op → I k s → D.expects k op (.error e) ∧
      ∀ k', D.leads k op (.error e) k' → I k' s)
    {k : K} (hp : p.Follows D post k) (hs : I k s) (hend : EndsIn h p s s') :
    ∃ k', I k' s' := by
  induction hend generalizing k with
  | done result s => exact ⟨k, hs⟩
  | served _ ih =>
    obtain ⟨hexpects, hkeeps⟩ := hserved k _ _ hp.1 hs
    obtain ⟨k', hleads, hrest⟩ := hp.2 _ hexpects
    exact ih hrest (hkeeps k' hleads)
  | failed e _ ih =>
    obtain ⟨hexpects, hkeeps⟩ := hfailed k _ _ e hp.1 hs
    obtain ⟨k', hleads, hrest⟩ := hp.2 _ hexpects
    exact ih hrest (hkeeps k' hleads)

/-- A run ends as its discipline says, when the calls are answered as it expects. -/
theorem Follows.run_post (hexpects : ∀ k op s, D.may k op → D.expects k op (h op s).1) {k : K}
    (hp : p.Follows D post k) : ∃ k', post k' (run h p s).1 := by
  induction p generalizing k s with
  | done result => exact ⟨k, hp⟩
  | call op next ih =>
    obtain ⟨k', -, hrest⟩ := hp.2 _ (hexpects k op s hp.1)
    exact ih _ hrest

/-- Two states that answer the calls of a discipline alike. -/
theorem Follows.run_related {R : σ → σ → Prop}
    (hcall : ∀ k op s t, D.may k op → R s t → D.expects k op (h op s).1 ∧
      (h op t).1 = (h op s).1 ∧ R (h op s).2 (h op t).2)
    {k : K} {t : σ} (hp : p.Follows D post k) (hst : R s t) :
    (run h p t).1 = (run h p s).1 ∧ R (run h p s).2 (run h p t).2 := by
  induction p generalizing k s t with
  | done result => exact ⟨rfl, hst⟩
  | call op next ih =>
    obtain ⟨hexpects, hanswer, hrelated⟩ := hcall k op s t hp.1 hst
    obtain ⟨k', -, hrest⟩ := hp.2 _ hexpects
    simp only [run_call]
    rw [hanswer]
    exact ih _ hrest hrelated

end Program
