import Mathlib.Algebra.BigOperators.Group.Finset.Piecewise
import Mathlib.Algebra.Order.BigOperators.Group.Finset
import Yevow.Core.Effect.Concurrency

/-!
# Asynchronous functions in one isolate

Several asynchronous functions share one state and one thread of execution. Some of their
calls are awaited and give way to the others until they are answered, in any way; the rest
are served at once. From one awaited call to the next a function runs without interruption.
What the calls of a function were and how they were answered is kept in a history.
-/

/-- Which calls are awaited, how the others are served, and what is noted of a call. -/
structure Host (Op : Type) (Ret : Op → Type) (ε σ ω : Type) where
  awaited : Op → Bool
  serve : Handler Op Ret ε σ
  note : (op : Op) → Except ε (Ret op) → σ → List ω

namespace Program

variable {Op : Type} {Ret : Op → Type} {ε α σ ω : Type}

/-- Run a program up to its next awaited call: what is left of it, the state, and what was
noted. -/
def settle (host : Host Op Ret ε σ ω) :
    Program Op Ret ε α → σ → Program Op Ret ε α × σ × List ω
  | done result, s => (done result, s, [])
  | call op next, s =>
    if host.awaited op then (call op next, s, [])
    else
      let served := host.serve op s
      let rest := (next served.1).settle host served.2
      (rest.1, rest.2.1, host.note op served.1 s ++ rest.2.2)

/-- What a program ends with, as a value. -/
def attempt : Program Op Ret ε α → Program Op Ret ε (Except ε α)
  | done result => done (.ok result)
  | call op next => call op fun answer => (next answer).attempt

/-- A caught program calls no other operations. -/
theorem Avoids.attempt {bad : Op → Prop} {p : Program Op Ret ε α} (hp : p.Avoids bad) :
    p.attempt.Avoids bad := by
  induction p with
  | done result => trivial
  | call op next ih => exact ⟨hp.1, fun answer => ih answer (hp.2 answer)⟩

/-- A caught program keeps to the discipline. -/
theorem Follows.attempt {K : Type} {D : Discipline Op Ret ε K}
    {post : K → Except ε (Except ε α) → Prop} {p : Program Op Ret ε α} {k : K}
    (hp : p.Follows D (fun k result => post k (.ok result)) k) : p.attempt.Follows D post k := by
  induction p generalizing k with
  | done result => exact hp
  | call op next ih =>
    refine ⟨hp.1, fun answer hanswer => ?_⟩
    obtain ⟨k', hleads, hfollows⟩ := hp.2 answer hanswer
    exact ⟨k', hleads, ih answer hfollows⟩

end Program

/-- The functions started so far, with what is left of them, and the history of their calls
by their number. -/
structure Isolate (ι Op : Type) (Ret : Op → Type) (ε α σ ω : Type) where
  state : σ
  threads : List (ι × Program Op Ret ε α)
  history : List (ℕ × ω)

namespace Isolate

variable {ι Op : Type} {Ret : Op → Type} {ε α σ ω A K : Type}

/-- A function is called, the call a function awaits is answered, or time passes. -/
inductive Event (ι Op : Type) (Ret : Op → Type) (ε A : Type)
  | start (request : ι)
  | resume (i : ℕ) (answer : (op : Op) → Except ε (Ret op))
  | act (a : A)

/-- What surrounds the functions: their programs, the host and what time does to the state. -/
structure Setting (ι Op : Type) (Ret : Op → Type) (ε α σ ω A : Type) where
  program : ι → Program Op Ret ε α
  host : Host Op Ret ε σ ω
  act : A → σ → σ

variable (setting : Setting ι Op Ret ε α σ ω A)

/-- Run a function to its next awaited call, from what it has noted so far on. -/
def settleThread (isolate : Isolate ι Op Ret ε α σ ω) (i : ℕ) (request : ι)
    (p : Program Op Ret ε α) (notes : List ω) : Isolate ι Op Ret ε α σ ω :=
  let settled := p.settle setting.host isolate.state
  { state := settled.2.1
    threads := (isolate.threads.take i ++ (request, settled.1) :: isolate.threads.drop (i + 1))
    history := isolate.history ++ (notes ++ settled.2.2).map (i, ·) }

/-- The isolate after an event. -/
def after (isolate : Isolate ι Op Ret ε α σ ω) :
    Event ι Op Ret ε A → Isolate ι Op Ret ε α σ ω
  | .start request =>
    isolate.settleThread setting isolate.threads.length request (setting.program request) []
  | .resume i answer =>
    match isolate.threads[i]? with
    | some (request, .call op next) =>
      if setting.host.awaited op then
        isolate.settleThread setting i request (next (answer op))
          (setting.host.note op (answer op) isolate.state)
      else isolate
    | _ => isolate
  | .act a => { isolate with state := setting.act a isolate.state }

/-- The isolates that events meeting a condition lead to. -/
inductive Reaches (condition : Isolate ι Op Ret ε α σ ω → Event ι Op Ret ε A → Prop)
    (start : σ → Prop) : Isolate ι Op Ret ε α σ ω → Prop
  | start (s : σ) (hs : start s) : Reaches condition start ⟨s, [], []⟩
  | step {isolate : Isolate ι Op Ret ε α σ ω} (event : Event ι Op Ret ε A)
      (hreach : Reaches condition start isolate) (hevent : condition isolate event) :
      Reaches condition start (isolate.after setting event)

/-- A condition on each event of a list, in the isolate it happens in. -/
def Along (condition : Isolate ι Op Ret ε α σ ω → Event ι Op Ret ε A → Prop) :
    List (Event ι Op Ret ε A) → Isolate ι Op Ret ε α σ ω → Prop
  | [], _ => True
  | event :: events, isolate =>
    condition isolate event ∧ Along condition events (isolate.after setting event)

instance decidableAlong (condition : Isolate ι Op Ret ε α σ ω → Event ι Op Ret ε A → Prop)
    [∀ isolate event, Decidable (condition isolate event)] :
    ∀ (events : List (Event ι Op Ret ε A)) (isolate : Isolate ι Op Ret ε α σ ω),
      Decidable (Along setting condition events isolate)
  | [], _ => inferInstanceAs (Decidable True)
  | event :: events, isolate =>
    have : Decidable (Along setting condition events (isolate.after setting event)) :=
      decidableAlong condition events _
    inferInstanceAs (Decidable (_ ∧ _))

variable {setting} {condition : Isolate ι Op Ret ε α σ ω → Event ι Op Ret ε A → Prop}
  {start : σ → Prop}

/-- Events that all meet the condition lead on. -/
theorem Reaches.along {events : List (Event ι Op Ret ε A)} {isolate : Isolate ι Op Ret ε α σ ω}
    (hreach : Reaches setting condition start isolate)
    (hevents : Along setting condition events isolate) :
    Reaches setting condition start (events.foldl (after setting) isolate) := by
  induction events generalizing isolate with
  | nil => exact hreach
  | cons event events ih => exact ih (hreach.step event hevents.1) hevents.2

/-- What an event adds to the history. -/
def news (setting : Setting ι Op Ret ε α σ ω A) (isolate : Isolate ι Op Ret ε α σ ω)
    (event : Event ι Op Ret ε A) : List (ℕ × ω) :=
  (isolate.after setting event).history.drop isolate.history.length

/-! ## Phases -/

/-- One call of a function in some phase: what it does to the state and where it leads. -/
structure Move (host : Host Op Ret ε σ ω) (D : Discipline Op Ret ε K) (s : σ) (k : K) (op : Op)
    (answer : Except ε (Ret op)) (s' : σ) (k' : K) : Prop where
  may : D.may k op
  expected : D.expects k op answer
  leads : D.leads k op answer k'
  state_eq : s' = if host.awaited op then s else (host.serve op s).2
  answer_eq : host.awaited op = false → answer = (host.serve op s).1

/-- What is left of every function follows the discipline from its phase on. -/
def Tracks (D : Discipline Op Ret ε K) (post : K → Except ε α → Prop)
    (isolate : Isolate ι Op Ret ε α σ ω) (phase : ℕ → K) : Prop :=
  ∀ i request (p : Program Op Ret ε α), isolate.threads[i]? = some (request, p) →
    p.Follows D post (phase i)

/-- What a host promises of its answers. -/
structure Keeps (host : Host Op Ret ε σ ω) (D : Discipline Op Ret ε K) : Prop where
  awaited : ∀ k op answer, host.awaited op = true → D.expects k op answer
  served : ∀ k op s, host.awaited op = false → D.expects k op (host.serve op s).1

variable {host : Host Op Ret ε σ ω} {D : Discipline Op Ret ε K} {post : K → Except ε α → Prop}

/-- What the calls served at once preserve holds up to the next awaited one. -/
theorem settle_induction (hkeeps : Keeps host D) {P : σ → K → List ω → Prop} {C : ω → Prop}
    (hmove : ∀ s k notes op answer s' k', host.awaited op = false →
      Move host D s k op answer s' k' → (∀ note ∈ host.note op answer s, C note) →
      P s k notes → P s' k' (notes ++ host.note op answer s))
    {p : Program Op Ret ε α} {s : σ} {k : K} {notes : List ω} (hp : p.Follows D post k)
    (hC : ∀ note ∈ (p.settle host s).2.2, C note) (h : P s k notes) :
    ∃ k', (p.settle host s).1.Follows D post k' ∧
      P (p.settle host s).2.1 k' (notes ++ (p.settle host s).2.2) := by
  induction p generalizing s k notes with
  | done result => exact ⟨k, hp, by simpa [Program.settle] using h⟩
  | call op next ih =>
    obtain ⟨hmay, hnext⟩ := hp
    rw [Program.settle] at *
    split_ifs at * with hawaited
    · exact ⟨k, ⟨hmay, hnext⟩, by simpa using h⟩
    · have hserved : host.awaited op = false := by simpa using hawaited
      have hexpected := hkeeps.served k op s hserved
      obtain ⟨k', hleads, hrest⟩ := hnext _ hexpected
      have hfirst := hmove s k notes op _ _ k' hserved
        ⟨hmay, hexpected, hleads, by rw [if_neg hawaited], fun _ => rfl⟩
        (fun note hnote => hC note (List.mem_append_left _ hnote)) h
      have hlater := ih (host.serve op s).1 hrest
        (fun note hnote => hC note (List.mem_append_right _ hnote)) hfirst
      rwa [List.append_assoc] at hlater

/-- The thread that ran is in its place, the others are as before. -/
theorem getElem?_settleThread {isolate : Isolate ι Op Ret ε α σ ω} {i : ℕ} {request : ι}
    {p : Program Op Ret ε α} {notes : List ω} (hi : i ≤ isolate.threads.length) (j : ℕ) :
    (isolate.settleThread setting i request p notes).threads[j]? =
      if j = i then some (request, (p.settle setting.host isolate.state).1)
      else isolate.threads[j]? := by
  have hlength : (isolate.threads.take i).length = i := List.length_take_of_le hi
  rw [settleThread]
  rcases Nat.lt_trichotomy j i with hlt | rfl | hgt
  · rw [List.getElem?_append_left (by omega), List.getElem?_take_of_lt hlt,
      if_neg (by omega)]
  · rw [List.getElem?_append_right (by omega), hlength, Nat.sub_self, if_pos rfl]
    rfl
  · rw [List.getElem?_append_right (by omega), hlength, if_neg (by omega)]
    obtain ⟨d, rfl⟩ := Nat.exists_eq_add_of_lt hgt
    rw [show i + d + 1 - i = d + 1 by omega, List.getElem?_cons_succ, List.getElem?_drop]
    congr 1
    omega

theorem length_settleThread {isolate : Isolate ι Op Ret ε α σ ω} {i : ℕ} {request : ι}
    {p : Program Op Ret ε α} {notes : List ω} (hi : i ≤ isolate.threads.length) :
    (isolate.settleThread setting i request p notes).threads.length =
      max (i + 1) isolate.threads.length := by
  simp only [settleThread, List.length_append, List.length_cons, List.length_drop,
    List.length_take_of_le hi]
  omega

/-- The rule for a run: an invariant over the state, the phases and the history holds where
every call of a function keeps it. A call may rely on what is known of the function's phase
and the states since the last event. -/
theorem Reaches.invariant_since (hkeeps : Keeps setting.host D) {absent : K} {initial : ι → K}
    (hprogram : ∀ request, (setting.program request).Follows D post (initial request))
    {J : σ → σ → K → Prop} (hrefl : ∀ s k, J s s k)
    (hsince : ∀ s₀ s k op answer s' k', Move setting.host D s k op answer s' k' → J s₀ s k →
      J s₀ s' k')
    {I : σ → (ℕ → K) → List (ℕ × ω) → Prop} (hstart : ∀ s, start s → I s (fun _ => absent) [])
    (hact : ∀ isolate a phase, condition isolate (.act a) →
      I isolate.state phase isolate.history →
      I (setting.act a isolate.state) phase isolate.history)
    (hbirth : ∀ isolate phase n request, condition isolate (.start request) → phase n = absent →
      I isolate.state phase isolate.history →
      I isolate.state (Function.update phase n (initial request)) isolate.history)
    (hmove : ∀ isolate event i s phase recent op answer s' k', condition isolate event →
      (∀ j ≠ i, ∀ request (p : Program Op Ret ε α),
        isolate.threads[j]? = some (request, p) → p.Follows D post (phase j)) →
      Move setting.host D s (phase i) op answer s' k' →
      (∀ note ∈ setting.host.note op answer s, (i, note) ∈ news setting isolate event) →
      J isolate.state s (phase i) → I s phase (isolate.history ++ recent.map (i, ·)) →
      I s' (Function.update phase i k')
        (isolate.history ++ (recent ++ setting.host.note op answer s).map (i, ·)))
    {isolate : Isolate ι Op Ret ε α σ ω} (hreach : Reaches setting condition start isolate) :
    ∃ phase, isolate.Tracks D post phase ∧
      (∀ n, isolate.threads.length ≤ n → phase n = absent) ∧
      I isolate.state phase isolate.history := by
  induction hreach with
  | start s hs =>
    refine ⟨fun _ => absent, ?_, fun _ _ => rfl, hstart s hs⟩
    intro i request p hi
    simp at hi
  | @step isolate event hreach hevent ih =>
    obtain ⟨phase, htracks, habsent, hI⟩ := ih
    -- A function that goes on in some phase keeps the invariant to its next awaited call.
    have hsettle : ∀ i request (p : Program Op Ret ε α) notes phase',
        i ≤ isolate.threads.length → (∀ j ≠ i, phase' j = phase j) →
        isolate.after setting event = isolate.settleThread setting i request p notes →
        p.Follows D post (phase' i) → J isolate.state isolate.state (phase' i) →
        I isolate.state phase' (isolate.history ++ notes.map (i, ·)) →
        ∃ phase'', (isolate.after setting event).Tracks D post phase'' ∧
          (∀ n, (isolate.after setting event).threads.length ≤ n → phase'' n = absent) ∧
          I (isolate.after setting event).state phase'' (isolate.after setting event).history := by
      intro i request p notes phase' hi hsame hafter hp hJ hI'
      have hnews : news setting isolate event =
          (notes ++ (p.settle setting.host isolate.state).2.2).map (i, ·) := by
        rw [news, hafter, settleThread, List.drop_left]
      have hnote : ∀ note ∈ (p.settle setting.host isolate.state).2.2,
          (i, note) ∈ news setting isolate event := by
        intro note hnote
        rw [hnews]
        exact List.mem_map_of_mem (List.mem_append_right _ hnote)
      obtain ⟨k, hfollows, hlast⟩ := settle_induction hkeeps
        (P := fun s k notes => J isolate.state s k ∧ I s (Function.update phase' i k)
          (isolate.history ++ notes.map (i, ·)))
        (C := fun note => (i, note) ∈ news setting isolate event)
        (fun s k notes op answer s' k' _ hstep hC hIs => by
          have hnext := hmove isolate event i s (Function.update phase' i k) notes op answer s' k'
            hevent
            (fun j hj request p hjp => by
              rw [Function.update_of_ne hj, hsame j hj]
              exact htracks j request p hjp)
            (by rwa [Function.update_self]) hC (by rw [Function.update_self]; exact hIs.1) hIs.2
          rw [Function.update_idem] at hnext
          exact ⟨hsince _ _ _ _ _ _ _ hstep hIs.1, hnext⟩)
        hp hnote ⟨hJ, by rwa [Function.update_eq_self]⟩
      refine ⟨Function.update phase' i k, ?_, ?_, ?_⟩
      · intro j request' p' hj
        rw [hafter, getElem?_settleThread hi] at hj
        by_cases hji : j = i
        · subst hji
          rw [if_pos rfl] at hj
          obtain ⟨-, rfl⟩ := Prod.mk.inj (Option.some.inj hj)
          rwa [Function.update_self]
        · rw [if_neg hji] at hj
          rw [Function.update_of_ne hji, hsame j hji]
          exact htracks j request' p' hj
      · intro n hn
        rw [hafter, length_settleThread hi] at hn
        have hni : n ≠ i := by omega
        rw [Function.update_of_ne hni, hsame n hni]
        exact habsent n (by omega)
      · rw [hafter]
        exact hlast.2
    cases event with
    | start request =>
      refine hsettle isolate.threads.length request (setting.program request) []
        (Function.update phase isolate.threads.length (initial request)) (Nat.le_refl _)
        (fun j hj => Function.update_of_ne hj _ _) rfl ?_ (hrefl _ _) ?_
      · rw [Function.update_self]
        exact hprogram request
      · rw [List.map_nil, List.append_nil]
        exact hbirth isolate phase _ request hevent (habsent _ (Nat.le_refl _)) hI
    | act a => exact ⟨phase, htracks, habsent, hact isolate a phase hevent hI⟩
    | resume i answer =>
      rcases hi : isolate.threads[i]? with _ | ⟨request, _ | ⟨op, next⟩⟩
      · have hafter : isolate.after setting (.resume i answer) = isolate := by rw [after, hi]
        rw [hafter]
        exact ⟨phase, htracks, habsent, hI⟩
      · have hafter : isolate.after setting (.resume i answer) = isolate := by rw [after, hi]
        rw [hafter]
        exact ⟨phase, htracks, habsent, hI⟩
      · by_cases hawaited : setting.host.awaited op = true
        · have hafter : isolate.after setting (.resume i answer) =
              isolate.settleThread setting i request (next (answer op))
                (setting.host.note op (answer op) isolate.state) := by
            rw [after, hi]
            exact if_pos hawaited
          have hlt := (List.getElem?_eq_some_iff.mp hi).1
          obtain ⟨hmay, hnext⟩ := htracks i request _ hi
          have hexpected := hkeeps.awaited (phase i) op (answer op) hawaited
          obtain ⟨k, hleads, hrest⟩ := hnext _ hexpected
          refine hsettle i request (next (answer op))
            (setting.host.note op (answer op) isolate.state) (Function.update phase i k)
            (Nat.le_of_lt hlt) (fun j hj => Function.update_of_ne hj _ _) hafter ?_ (hrefl _ _) ?_
          · rwa [Function.update_self]
          · have hfirst := hmove isolate (.resume i answer) i isolate.state phase [] op (answer op)
              isolate.state k hevent
              (fun j _ request p hj => htracks j request p hj)
              ⟨hmay, hexpected, hleads, by rw [if_pos hawaited], fun hserved => by simp_all⟩
              (fun note hnote => by
                rw [news, hafter, settleThread, List.drop_left]
                exact List.mem_map_of_mem (List.mem_append_left _ hnote))
              (hrefl _ _) (by rwa [List.map_nil, List.append_nil])
            rwa [List.nil_append] at hfirst
        · have hafter : isolate.after setting (.resume i answer) = isolate := by
            rw [after, hi]
            exact if_neg hawaited
          rw [hafter]
          exact ⟨phase, htracks, habsent, hI⟩

/-- The rule where a call relies on the invariant alone. -/
theorem Reaches.invariant (hkeeps : Keeps setting.host D) {absent : K} {initial : ι → K}
    (hprogram : ∀ request, (setting.program request).Follows D post (initial request))
    {I : σ → (ℕ → K) → List (ℕ × ω) → Prop} (hstart : ∀ s, start s → I s (fun _ => absent) [])
    (hact : ∀ isolate a phase, condition isolate (.act a) →
      I isolate.state phase isolate.history →
      I (setting.act a isolate.state) phase isolate.history)
    (hbirth : ∀ isolate phase n request, condition isolate (.start request) → phase n = absent →
      I isolate.state phase isolate.history →
      I isolate.state (Function.update phase n (initial request)) isolate.history)
    (hmove : ∀ history i s phase recent op answer s' k',
      Move setting.host D s (phase i) op answer s' k' →
      I s phase (history ++ recent.map (i, ·)) →
      I s' (Function.update phase i k')
        (history ++ (recent ++ setting.host.note op answer s).map (i, ·)))
    {isolate : Isolate ι Op Ret ε α σ ω} (hreach : Reaches setting condition start isolate) :
    ∃ phase, isolate.Tracks D post phase ∧
      (∀ n, isolate.threads.length ≤ n → phase n = absent) ∧
      I isolate.state phase isolate.history :=
  hreach.invariant_since hkeeps hprogram (J := fun _ _ _ => True) (fun _ _ => trivial)
    (fun _ _ _ _ _ _ _ _ _ => trivial) hstart hact hbirth
    fun isolate _ i s phase recent op answer s' k' _ _ hstep _ _ h =>
      hmove isolate.history i s phase recent op answer s' k' hstep h

/-! ## Functions at rest -/

/-- The program has ended or awaits an answer. -/
def AtRest (host : Host Op Ret ε σ ω) : Program Op Ret ε α → Prop
  | .done _ => True
  | .call op _ => host.awaited op = true

/-- A settled function awaits a call or has ended. -/
theorem atRest_settle (p : Program Op Ret ε α) (s : σ) : AtRest host (p.settle host s).1 := by
  induction p generalizing s with
  | done result => trivial
  | call op next ih =>
    rw [Program.settle]
    split_ifs with hawaited
    · exact hawaited
    · exact ih _ _

/-- Between two events every function is at rest. -/
theorem Reaches.atRest {isolate : Isolate ι Op Ret ε α σ ω}
    (hreach : Reaches setting condition start isolate) {i : ℕ} {request : ι}
    {p : Program Op Ret ε α} (hi : isolate.threads[i]? = some (request, p)) :
    AtRest setting.host p := by
  induction hreach generalizing i request p with
  | start s hs => simp at hi
  | @step isolate event hreach hevent ih =>
    have hsettle : ∀ n request' (p' : Program Op Ret ε α) notes, n ≤ isolate.threads.length →
        isolate.after setting event = isolate.settleThread setting n request' p' notes →
        AtRest setting.host p := by
      intro n request' p' notes hn hafter
      rw [hafter, getElem?_settleThread hn] at hi
      split_ifs at hi
      · obtain ⟨-, rfl⟩ := Prod.mk.inj (Option.some.inj hi)
        exact atRest_settle _ _
      · exact ih hi
    cases event with
    | start request' => exact hsettle _ _ _ _ (Nat.le_refl _) rfl
    | act a => exact ih hi
    | resume n answer =>
      rw [after] at hi
      split at hi
      · rename_i request' op next hn
        split_ifs at hi with hawaited
        · refine hsettle n request' (next (answer op))
            (setting.host.note op (answer op) isolate.state)
            (Nat.le_of_lt (List.getElem?_eq_some_iff.mp hn).1) ?_
          rw [after, hn]
          exact if_pos hawaited
        · exact ih hi
      · exact ih hi

/-! ## What one function noted -/

/-- What the function with a number noted, in order. -/
def trail (history : List (ℕ × ω)) (i : ℕ) : List ω :=
  (history.filter fun entry => entry.1 == i).map Prod.snd

@[simp] theorem trail_nil (i : ℕ) : trail ([] : List (ℕ × ω)) i = [] := rfl

@[simp] theorem trail_append (history later : List (ℕ × ω)) (i : ℕ) :
    trail (history ++ later) i = trail history i ++ trail later i := by
  simp only [trail, List.filter_append, List.map_append]

@[simp] theorem trail_map_self (notes : List ω) (i : ℕ) :
    trail (notes.map (i, ·)) i = notes := by
  induction notes with
  | nil => rfl
  | cons note notes ih =>
    rw [List.map_cons, trail, List.filter_cons_of_pos (by simp)]
    exact congrArg (note :: ·) ih

theorem trail_map_of_ne {i j : ℕ} (hij : i ≠ j) (notes : List ω) :
    trail (notes.map (i, ·)) j = [] := by
  induction notes with
  | nil => rfl
  | cons note notes ih =>
    rw [List.map_cons, trail, List.filter_cons_of_neg (by simpa using hij)]
    exact ih

theorem mem_trail {history : List (ℕ × ω)} {i : ℕ} {note : ω} :
    note ∈ trail history i ↔ (i, note) ∈ history := by
  simp only [trail, List.mem_map, List.mem_filter, beq_iff_eq, Prod.exists]
  constructor
  · rintro ⟨j, note, ⟨hmem, rfl⟩, rfl⟩
    exact hmem
  · intro hmem
    exact ⟨i, note, ⟨hmem, rfl⟩, rfl⟩

/-- What is counted in a history is counted function by function. -/
theorem countP_eq_sum_trail (p : ℕ × ω → Bool) {history : List (ℕ × ω)} {s : Finset ℕ}
    (hs : ∀ entry ∈ history, entry.1 ∈ s) :
    history.countP p = ∑ i ∈ s, (trail history i).countP fun note => p (i, note) := by
  induction history with
  | nil => simp
  | cons entry history ih =>
    obtain ⟨j, note⟩ := entry
    have hj : j ∈ s := hs _ (List.mem_cons_self ..)
    have hfirst : ∀ i, (trail ((j, note) :: history) i).countP (fun note => p (i, note)) =
        (if i = j then (if p (j, note) then 1 else 0) else 0) +
          (trail history i).countP fun note => p (i, note) := by
      intro i
      rw [← List.singleton_append, trail_append, List.countP_append]
      by_cases hij : i = j
      · subst hij
        have hself := trail_map_self [note] i
        rw [List.map_singleton] at hself
        rw [hself, List.countP_singleton, if_pos rfl]
      · have hother := trail_map_of_ne (Ne.symm hij) [note]
        rw [List.map_singleton] at hother
        rw [hother, List.countP_nil, if_neg hij]
    rw [List.countP_cons, ih fun entry h => hs entry (List.mem_cons_of_mem _ h),
      Finset.sum_congr rfl fun i _ => hfirst i, Finset.sum_add_distrib, Finset.sum_ite_eq',
      if_pos hj, Nat.add_comm]

/-- A bound for what each function noted is a bound for all of them. -/
theorem countP_le_countP_of_trail {p q : ℕ × ω → Bool} {history : List (ℕ × ω)}
    (h : ∀ i, ((trail history i).countP fun note => p (i, note)) ≤
      (trail history i).countP fun note => q (i, note)) :
    history.countP p ≤ history.countP q := by
  have hs : ∀ entry ∈ history, entry.1 ∈ (history.map Prod.fst).toFinset := by
    intro entry hentry
    exact List.mem_toFinset.mpr (List.mem_map_of_mem hentry)
  rw [countP_eq_sum_trail p hs, countP_eq_sum_trail q hs]
  exact Finset.sum_le_sum fun i _ => h i
/-- A shape of what each function noted, across one call of a function. -/
theorem forall_trail_append {S : K → List ω → Prop} {phase : ℕ → K} {history : List (ℕ × ω)}
    {i : ℕ} {k' : K} {later : List ω} (h : ∀ j, S (phase j) (trail history j))
    (hk : S (phase i) (trail history i) → S k' (trail history i ++ later)) (j : ℕ) :
    S (Function.update phase i k' j) (trail (history ++ later.map (i, ·)) j) := by
  rw [trail_append]
  by_cases hij : i = j
  · subst hij
    rw [trail_map_self, Function.update_self]
    exact hk (h i)
  · rw [trail_map_of_ne hij, List.append_nil, Function.update_of_ne (Ne.symm hij)]
    exact h j

/-- The rule for what each function noted: a shape that every call keeps, whatever the state
and whatever the other functions did. -/
theorem Reaches.trails (hkeeps : Keeps setting.host D) {absent : K} {initial : ι → K}
    (hprogram : ∀ request, (setting.program request).Follows D post (initial request))
    {S : K → List ω → Prop} (habsent : ∀ notes, S absent notes ↔ notes = [])
    (hinitial : ∀ request, S (initial request) [])
    (hmove : ∀ s k notes op answer s' k', Move setting.host D s k op answer s' k' →
      S k notes → S k' (notes ++ setting.host.note op answer s))
    {isolate : Isolate ι Op Ret ε α σ ω} (hreach : Reaches setting condition start isolate) :
    ∃ phase, isolate.Tracks D post phase ∧
      (∀ n, isolate.threads.length ≤ n → phase n = absent) ∧
      ∀ i, S (phase i) (trail isolate.history i) := by
  obtain ⟨phase, htracks, hlength, hshape⟩ := hreach.invariant hkeeps hprogram 
    (I := fun _ phase history => ∀ i, S (phase i) (trail history i))
    (fun _ _ _ => (habsent _).mpr rfl) (fun _ _ _ _ h => h)
    (fun isolate phase n request _ hn h i => by
      by_cases hi : i = n
      · subst hi
        have hnil := h i
        rw [hn, habsent] at hnil
        rw [Function.update_self, hnil]
        exact hinitial request
      · rw [Function.update_of_ne hi]
        exact h i)
    (fun history i s phase recent op answer s' k' hstep h => by
      rw [List.map_append, ← List.append_assoc]
      exact forall_trail_append h (hmove s _ _ op answer s' k' hstep))
  exact ⟨phase, htracks, hlength, hshape⟩

end Isolate
