import Mathlib.Logic.Function.Basic
import Yevow.Core.Effect.Program

/-!
# Programs that run side by side

Several programs share one state. Every call is atomic, and between two calls of one program
any calls of the others may happen. A call may also fail without touching the state.

What a program will still do is described by phases: a discipline says which calls each
phase may make and where the answers lead. A program that follows a discipline keeps its
phase along any interleaving, so an invariant over the state and the phases is all that is
left to prove.
-/

/-- Which calls a program may make in each phase, which answers it expects there and to which
phases they may lead. -/
structure Discipline (Op : Type) (Ret : Op → Type) (ε K : Type) where
  may : K → Op → Prop
  expects : (k : K) → (op : Op) → Except ε (Ret op) → Prop
  leads : (k : K) → (op : Op) → Except ε (Ret op) → K → Prop

namespace Program

variable {Op : Type} {Ret : Op → Type} {ε α β K : Type}

/-- The program keeps to the discipline from a phase on and ends as the postcondition says. -/
def Follows (D : Discipline Op Ret ε K) (post : K → Except ε α → Prop) :
    K → Program Op Ret ε α → Prop
  | k, done result => post k result
  | k, call op next => D.may k op ∧ ∀ answer, D.expects k op answer →
      ∃ k', D.leads k op answer k' ∧ (next answer).Follows D post k'

variable {D : Discipline Op Ret ε K} {post : K → Except ε α → Prop} {k : K}

/-- A weaker end is met as well. -/
theorem Follows.mono {post' : K → Except ε α → Prop} {p : Program Op Ret ε α}
    (hpost : ∀ k result, post k result → post' k result) (hp : p.Follows D post k) :
    p.Follows D post' k := by
  induction p generalizing k with
  | done result => exact hpost k result hp
  | call op next ih =>
    refine ⟨hp.1, fun answer hanswer => ?_⟩
    obtain ⟨k', hleads, hfollows⟩ := hp.2 answer hanswer
    exact ⟨k', hleads, ih answer hfollows⟩

/-- A sequence follows a discipline when its first part leads to where the rest does. -/
theorem Follows.bind {post : K → Except ε β → Prop} {p : Program Op Ret ε α}
    {f : α → Program Op Ret ε β}
    (hp : p.Follows D (fun k result => match result with
      | .ok a => (f a).Follows D post k
      | .error e => post k (.error e)) k) : (p >>= f).Follows D post k := by
  induction p generalizing k with
  | done result =>
    cases result with
    | ok a => exact hp
    | error e => exact hp
  | call op next ih =>
    obtain ⟨hmay, hnext⟩ := hp
    refine ⟨hmay, fun answer hanswer => ?_⟩
    obtain ⟨k', hleads, hfollows⟩ := hnext answer hanswer
    exact ⟨k', hleads, ih answer hfollows⟩

/-- A call and what comes after it. -/
theorem follows_perform_bind {post : K → Except ε β → Prop} {op : Op}
    {f : Ret op → Program Op Ret ε β} (hmay : D.may k op)
    (hok : ∀ a, D.expects k op (.ok a) →
      ∃ k', D.leads k op (.ok a) k' ∧ (f a).Follows D post k')
    (herror : ∀ e, D.expects k op (.error e) →
      ∃ k', D.leads k op (.error e) k' ∧ post k' (.error e)) :
    (perform op >>= f).Follows D post k := by
  refine ⟨hmay, fun answer hanswer => ?_⟩
  cases answer with
  | ok a => exact hok a hanswer
  | error e => exact herror e hanswer

/-- An embedded program follows a discipline that agrees with its own on the renamed calls. -/
theorem Follows.embed {Op' : Type} {Ret' : Op' → Type} {inj : Op → Op'}
    {ret : ∀ op, Ret' (inj op) → Ret op} {D' : Discipline Op' Ret' ε K}
    (hmay : ∀ k op, D.may k op → D'.may k (inj op))
    (hexpects : ∀ k op answer, D'.expects k (inj op) answer → D.expects k op (answer.map (ret op)))
    (hleads : ∀ k op answer k', D.leads k op (answer.map (ret op)) k' →
      D'.leads k (inj op) answer k') {p : Program Op Ret ε α} (hp : p.Follows D post k) :
    (p.embed inj ret).Follows D' post k := by
  induction p generalizing k with
  | done result => exact hp
  | call op next ih =>
    obtain ⟨hcall, hnext⟩ := hp
    refine ⟨hmay k op hcall, fun answer hanswer => ?_⟩
    obtain ⟨k', hk', hfollows⟩ := hnext _ (hexpects k op answer hanswer)
    exact ⟨k', hleads k op answer k' hk', ih _ hfollows⟩

end Program

/-- Requests with what is left of their programs, and the state they share. -/
structure ThreadPool (ι Op : Type) (Ret : Op → Type) (ε α σ : Type) where
  state : σ
  threads : List (ι × Program Op Ret ε α)

namespace ThreadPool

/-- A request arrives, the next call of a thread is served, or that call fails. -/
inductive Event (ι ε : Type)
  | start (request : ι)
  | serve (i : ℕ)
  | fail (i : ℕ) (error : ε)

variable {ι Op : Type} {Ret : Op → Type} {ε α σ K : Type}

/-- The pool after an event; a thread that has ended has no call to serve. -/
def after (program : ι → Program Op Ret ε α) (h : Handler Op Ret ε σ)
    (pool : ThreadPool ι Op Ret ε α σ) : Event ι ε → ThreadPool ι Op Ret ε α σ
  | .start request => { pool with threads := pool.threads ++ [(request, program request)] }
  | .serve i =>
    match pool.threads[i]? with
    | some (request, .call op next) =>
      ⟨(h op pool.state).2, pool.threads.set i (request, next (h op pool.state).1)⟩
    | _ => pool
  | .fail i error =>
    match pool.threads[i]? with
    | some (request, .call _ next) =>
      { pool with threads := pool.threads.set i (request, next (.error error)) }
    | _ => pool

/-- The pools that events meeting a condition lead to. -/
inductive Run (program : ι → Program Op Ret ε α) (h : Handler Op Ret ε σ)
    (condition : ThreadPool ι Op Ret ε α σ → Event ι ε → Prop)
    (start : ThreadPool ι Op Ret ε α σ → Prop) :
    ThreadPool ι Op Ret ε α σ → Prop
  | start (pool : ThreadPool ι Op Ret ε α σ) (hstart : start pool) :
      Run program h condition start pool
  | step {pool : ThreadPool ι Op Ret ε α σ} (event : Event ι ε)
      (hrun : Run program h condition start pool) (hevent : condition pool event) :
      Run program h condition start (pool.after program h event)

/-- An invariant that holds at the start and that every event meeting the condition keeps. -/
theorem Run.invariant {program : ι → Program Op Ret ε α} {h : Handler Op Ret ε σ}
    {condition : ThreadPool ι Op Ret ε α σ → Event ι ε → Prop}
    {start I : ThreadPool ι Op Ret ε α σ → Prop} (hstart : ∀ pool, start pool → I pool)
    (hstep : ∀ pool event, I pool → condition pool event → I (pool.after program h event))
    {pool : ThreadPool ι Op Ret ε α σ} (hrun : Run program h condition start pool) : I pool := by
  induction hrun with
  | start pool hpool => exact hstart pool hpool
  | step event _ hevent ih => exact hstep _ event ih hevent

/-- A condition on each event of a list, in the pool it happens in. -/
def Along (program : ι → Program Op Ret ε α) (h : Handler Op Ret ε σ)
    (condition : ThreadPool ι Op Ret ε α σ → Event ι ε → Prop) :
    List (Event ι ε) → ThreadPool ι Op Ret ε α σ → Prop
  | [], _ => True
  | event :: events, pool =>
    condition pool event ∧ Along program h condition events (pool.after program h event)

instance decidableAlong (program : ι → Program Op Ret ε α) (h : Handler Op Ret ε σ)
    (condition : ThreadPool ι Op Ret ε α σ → Event ι ε → Prop)
    [∀ pool event, Decidable (condition pool event)] :
    ∀ (events : List (Event ι ε)) (pool : ThreadPool ι Op Ret ε α σ),
      Decidable (Along program h condition events pool)
  | [], _ => inferInstanceAs (Decidable True)
  | event :: events, pool =>
    have : Decidable (Along program h condition events (pool.after program h event)) :=
      decidableAlong program h condition events _
    inferInstanceAs (Decidable (_ ∧ _))

/-- A run that meets a condition meets a weaker one. -/
theorem Along.mono {program : ι → Program Op Ret ε α} {h : Handler Op Ret ε σ}
    {condition condition' : ThreadPool ι Op Ret ε α σ → Event ι ε → Prop}
    (himp : ∀ pool event, condition pool event → condition' pool event)
    {events : List (Event ι ε)} {pool : ThreadPool ι Op Ret ε α σ}
    (hevents : Along program h condition events pool) :
    Along program h condition' events pool := by
  induction events generalizing pool with
  | nil => exact trivial
  | cons event events ih => exact ⟨himp pool event hevents.1, ih hevents.2⟩

/-- Events that all meet the condition continue a run. -/
theorem Run.along {program : ι → Program Op Ret ε α} {h : Handler Op Ret ε σ}
    {condition : ThreadPool ι Op Ret ε α σ → Event ι ε → Prop}
    {start : ThreadPool ι Op Ret ε α σ → Prop} {events : List (Event ι ε)}
    {pool : ThreadPool ι Op Ret ε α σ} (hrun : Run program h condition start pool)
    (hevents : Along program h condition events pool) :
    Run program h condition start (events.foldl (after program h) pool) := by
  induction events generalizing pool with
  | nil => exact hrun
  | cons event events ih => exact ih (hrun.step event hevents.1) hevents.2

/-- Every thread follows the discipline from its phase on. -/
def Tracks (D : Discipline Op Ret ε K) (post : K → Except ε α → Prop)
    (pool : ThreadPool ι Op Ret ε α σ) (phase : ℕ → K) : Prop :=
  ∀ i request (p : Program Op Ret ε α), pool.threads[i]? = some (request, p) →
    p.Follows D post (phase i)

variable {program : ι → Program Op Ret ε α} {h : Handler Op Ret ε σ}
  {pool : ThreadPool ι Op Ret ε α σ} {D : Discipline Op Ret ε K} {post : K → Except ε α → Prop}
  {phase : ℕ → K}

/-- Without threads nothing has to be followed. -/
theorem tracks_nil (h : pool.threads = []) : pool.Tracks D post phase := by
  intro i request p hi
  rw [h] at hi
  simp at hi

variable (program h pool) in
/-- What an event does: nothing, a new thread, or one call with its answer. -/
theorem after_cases (event : Event ι ε) :
    pool.after program h event = pool ∨
      (∃ request, event = .start request ∧
        pool.after program h event =
          { pool with threads := pool.threads ++ [(request, program request)] }) ∨
      ∃ i request op next answer s, pool.threads[i]? = some (request, .call op next) ∧
        ((event = .serve i ∧ (answer, s) = h op pool.state) ∨
          ∃ error, event = .fail i error ∧ (answer, s) = (.error error, pool.state)) ∧
        pool.after program h event = ⟨s, pool.threads.set i (request, next answer)⟩ := by
  cases event with
  | start request => exact Or.inr (Or.inl ⟨request, rfl, rfl⟩)
  | serve i =>
    rcases hi : pool.threads[i]? with _ | ⟨request, _ | ⟨op, next⟩⟩
    · exact Or.inl (by rw [after, hi])
    · exact Or.inl (by rw [after, hi])
    · exact Or.inr (Or.inr ⟨i, request, op, next, _, _, hi, Or.inl ⟨rfl, rfl⟩, by rw [after, hi]⟩)
  | fail i error =>
    rcases hi : pool.threads[i]? with _ | ⟨request, _ | ⟨op, next⟩⟩
    · exact Or.inl (by rw [after, hi])
    · exact Or.inl (by rw [after, hi])
    · exact Or.inr (Or.inr ⟨i, request, op, next, _, _, hi, Or.inr ⟨error, rfl, rfl⟩,
        by rw [after, hi]⟩)

theorem getElem?_append_thread {i : ℕ} {t t' : ι × Program Op Ret ε α}
    (hi : (pool.threads ++ [t])[i]? = some t') :
    pool.threads[i]? = some t' ∨ i = pool.threads.length ∧ t' = t := by
  rcases Nat.lt_trichotomy i pool.threads.length with hlt | rfl | hgt
  · rw [List.getElem?_append_left hlt] at hi
    exact Or.inl hi
  · rw [List.getElem?_concat_length] at hi
    exact Or.inr ⟨rfl, (Option.some.inj hi).symm⟩
  · rw [List.getElem?_eq_none (by simp; omega)] at hi
    contradiction

theorem getElem?_set_thread {i j : ℕ} {t t' : ι × Program Op Ret ε α}
    (hj : (pool.threads.set i t)[j]? = some t') :
    j = i ∧ t' = t ∨ j ≠ i ∧ pool.threads[j]? = some t' := by
  rw [List.getElem?_set] at hj
  split_ifs at hj with hij hlt
  · exact Or.inl ⟨hij.symm, (Option.some.inj hj).symm⟩
  · exact Or.inr ⟨fun h => hij h.symm, hj⟩

/-- A new thread starts in a phase of its own. -/
theorem Tracks.start (htracks : pool.Tracks D post phase) {request : ι} {k : K}
    {p : Program Op Ret ε α} (hk : p.Follows D post k) :
    ({ pool with threads := pool.threads ++ [(request, p)] } : ThreadPool ι Op Ret ε α σ).Tracks D
      post
      (Function.update phase pool.threads.length k) := by
  intro i request' p' hi
  rcases getElem?_append_thread hi with hi | ⟨rfl, hp⟩
  · have hlt := (List.getElem?_eq_some_iff.mp hi).1
    rw [Function.update_of_ne (Nat.ne_of_lt hlt)]
    exact htracks i request' p' hi
  · obtain ⟨-, rfl⟩ := Prod.mk.inj hp
    rw [Function.update_self]
    exact hk

/-- A thread whose call is answered goes on in the phase the answer leads to. -/
theorem Tracks.answer (htracks : pool.Tracks D post phase) {i : ℕ} {request : ι} {s : σ} {k : K}
    {p : Program Op Ret ε α} (hk : p.Follows D post k) :
    (⟨s, pool.threads.set i (request, p)⟩ : ThreadPool ι Op Ret ε α σ).Tracks D post
      (Function.update phase i k) := by
  intro j request' p' hj
  rcases getElem?_set_thread hj with ⟨rfl, hp⟩ | ⟨hne, hj⟩
  · obtain ⟨-, rfl⟩ := Prod.mk.inj hp
    rw [Function.update_self]
    exact hk
  · rw [Function.update_of_ne hne]
    exact htracks j request' p' hj

/-! ## Calls that no thread makes -/

/-- No thread will make a call of a kind. -/
def Guarded (bad : Op → Prop) (pool : ThreadPool ι Op Ret ε α σ) : Prop :=
  ∀ (i : ℕ) (request : ι) (p : Program Op Ret ε α), pool.threads[i]? = some (request, p) →
    p.Avoids bad

/-- An event starts no forbidden operation. -/
theorem Guarded.after {bad : Op → Prop} (hguarded : pool.Guarded bad)
    (hprogram : ∀ request, (program request).Avoids bad) (event : Event ι ε) :
    (pool.after program h event).Guarded bad := by
  rcases after_cases program h pool event with hsame | ⟨request, -, hafter⟩ |
    ⟨i, request, op, next, answer, s, hi, -, hafter⟩
  · rwa [hsame]
  · rw [hafter]
    intro j request' p hj
    rcases getElem?_append_thread hj with hj | ⟨-, hp⟩
    · exact hguarded j request' p hj
    · rw [(Prod.mk.inj hp).2]
      exact hprogram request
  · rw [hafter]
    intro j request' p hj
    rcases getElem?_set_thread hj with ⟨-, hp⟩ | ⟨-, hj⟩
    · rw [(Prod.mk.inj hp).2]
      exact (hguarded i request _ hi).2 answer
    · exact hguarded j request' p hj

/-- Only a call that is served changes the state. -/
theorem state_after_cases (event : Event ι ε) :
    (pool.after program h event).state = pool.state ∨
      ∃ i request op next, event = .serve i ∧ pool.threads[i]? = some (request, .call op next) ∧
        (pool.after program h event).state = (h op pool.state).2 := by
  rcases after_cases program h pool event with hsame | ⟨request, -, hafter⟩ |
    ⟨i, request, op, next, answer, s, hi, hserved | ⟨e, -, hfailed⟩, hafter⟩
  · exact Or.inl (by rw [hsame])
  · exact Or.inl (by rw [hafter])
  · refine Or.inr ⟨i, request, op, next, hserved.1, hi, ?_⟩
    rw [hafter]
    exact (Prod.mk.inj hserved.2).2
  · refine Or.inl ?_
    rw [hafter]
    exact (Prod.mk.inj hfailed).2

end ThreadPool
