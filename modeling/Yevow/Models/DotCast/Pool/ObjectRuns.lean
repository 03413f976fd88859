import Yevow.Models.DotCast.Pool.ObjectSteps

/-!
# Runs of a pool object

Requests, polls and alarms interleave wherever a service is awaited. What is stored is still what
some sequence of operations leads to, since a poll that comes back late finds the entries it
left; what such a poll can undo is how the pool ended.
-/

namespace Yevow.DotCast

open JavaScript (Runtime Returned)

/-! ## What no write takes back -/

/-- An entry as it was placed. -/
def Entry.placement (entry : Entry) : Entry := { entry with payout := none, refunded := false }

/-- What a pool is created with, but for its totals. -/
def Pool.terms (pool : Pool) : Pool :=
  { pool with status := .open, pools := ⟨0, 0⟩, settledAt := none, outcome := none }

/-- The later snapshot has the terms and the placed entries of the earlier one, and takes no more
entries where that one takes none. -/
structure PoolSnapshot.Keeps (earlier later : PoolSnapshot) : Prop where
  terms : later.pool.terms = earlier.pool.terms
  entries : earlier.entries.map Entry.placement <+: later.entries.map Entry.placement
  closed : earlier.pool.status ≠ .open → later.pool.status ≠ .open ∧
    later.entries.map Entry.placement = earlier.entries.map Entry.placement

variable {js : Runtime} {snapshot next earlier later : PoolSnapshot} {now : String}

namespace PoolSnapshot.Keeps

private theorem refl (snapshot : PoolSnapshot) : snapshot.Keeps snapshot :=
  ⟨rfl, List.prefix_rfl, fun h => ⟨h, rfl⟩⟩

private theorem trans (h : earlier.Keeps later) (h' : later.Keeps next) : earlier.Keeps next where
  terms := h'.terms.trans h.terms
  entries := h.entries.trans h'.entries
  closed hclosed := by
    obtain ⟨hlater, hentries⟩ := h.closed hclosed
    obtain ⟨hnext, hsame⟩ := h'.closed hlater
    exact ⟨hnext, hsame.trans hentries⟩

/-- Two snapshots that come after a closed one agree in what is kept. -/
theorem of_closed (hclosed : earlier.pool.status ≠ .open) (h : earlier.Keeps later)
    (h' : earlier.Keeps next) : later.Keeps next := by
  obtain ⟨-, hlater⟩ := h.closed hclosed
  obtain ⟨hnext, hentries⟩ := h'.closed hclosed
  have hsame := hentries.trans hlater.symm
  exact ⟨h'.terms.trans h.terms.symm, hsame ▸ List.prefix_rfl, fun _ => ⟨hnext, hsame⟩⟩

/-- A write that keeps the placed entries as they are. -/
theorem step (h : earlier.Keeps snapshot) (hterms : next.pool.terms = snapshot.pool.terms)
    (hentries : next.entries.map Entry.placement = snapshot.entries.map Entry.placement)
    (hstatus : snapshot.pool.status ≠ .open → next.pool.status ≠ .open) : earlier.Keeps next :=
  h.trans ⟨hterms, hentries ▸ List.prefix_rfl, fun hclosed => ⟨hstatus hclosed, hentries⟩⟩

end PoolSnapshot.Keeps

/-- A loop over the entries that keeps each placement keeps them all. -/
theorem mapEntries_placement {body : Balances → Entry → Except String (Entry × Balances)}
    (hbody : ∀ balances entry result, body balances entry = .ok result →
      result.1.placement = entry.placement) {entries : List Entry} {balances : Balances}
    {result : List Entry × Balances} (h : mapEntries body balances entries = .ok result) :
    result.1.map Entry.placement = entries.map Entry.placement := by
  induction entries generalizing balances result with
  | nil =>
    obtain rfl := Except.ok.inj h
    rfl
  | cons entry rest ih =>
    obtain ⟨first, hfirst, h₁⟩ := Except.bind_eq_ok.mp h
    obtain ⟨final, hfinal, hout⟩ := Except.bind_eq_ok.mp h₁
    obtain rfl := Except.ok.inj hout
    simp only [List.map_cons, hbody _ _ _ hfirst, ih hfinal]

private theorem refundEntry_placement {balances : Balances}
    {entry : Entry} {result : Entry × Balances}
    (h : refundEntry js balances entry = .ok result) :
    result.1.placement = entry.placement := by
  unfold refundEntry at h
  split_ifs at h
  · obtain rfl := Except.ok.inj h
    rfl
  · dsimp only at h
    split at h <;>
    · obtain ⟨_, -, hout⟩ := Except.bind_eq_ok.mp h
      obtain rfl := Except.ok.inj hout
      rfl

private theorem settleEntry_placement {payouts : Table String SettlementPayout} {unit : StakeUnit}
    {balances : Balances} {entry : Entry} {result : Entry × Balances}
    (h : settleEntry js payouts unit balances entry = .ok result) :
    result.1.placement = entry.placement := by
  unfold settleEntry at h
  split at h
  · simp at h
  · dsimp only at h
    split at h
    · obtain ⟨_, -, hout⟩ := Except.bind_eq_ok.mp h
      obtain rfl := Except.ok.inj hout
      rfl
    · split_ifs at h <;>
      · obtain ⟨_, -, hout⟩ := Except.bind_eq_ok.mp h
        obtain rfl := Except.ok.inj hout
        rfl

private theorem PoolSnapshot.Keeps.void (h : earlier.Keeps snapshot) {reason : VoidReason}
    {outcome : Option PoolOutcome}
    (hvoid : voidPoolSnapshot js snapshot reason now outcome = .ok next) :
    earlier.Keeps next := by
  rcases voidPoolSnapshot_eq_ok hvoid with ⟨-, rfl⟩ | ⟨-, entries, balances, hloop, rfl⟩
  · exact h
  · exact h.step rfl (mapEntries_placement (fun _ _ _ => refundEntry_placement) hloop) (by simp)

/-- The steps of a resolution keep what is kept. -/
theorem preservedBySteps_keeps (earlier : PoolSnapshot) : PreservedBySteps js earlier.Keeps where
  withResolution _ _ h := ⟨h.terms, h.entries, h.closed⟩
  lock h hlock := by
    rcases lockSnapshotIfNeeded_eq_ok hlock with hsame | ⟨hopen, -, hlocked⟩ | ⟨-, reason, hvoid⟩
    · rwa [hsame]
    · rw [hlocked]
      exact h.step rfl rfl (by simp)
    · exact h.void hvoid
  void h hvoid := h.void hvoid
  settle {s _ _ _} h hsettle := by
    rcases settlePoolSnapshot_eq_ok hsettle with ⟨-, rfl⟩ | ⟨-, -, hvoid⟩ |
      ⟨_, _, _, -, -, rfl, -, ⟨_, -, hvoid⟩ | ⟨_, -, hdivide⟩⟩
    · exact h
    · exact h.void hvoid
    · have hresolving : earlier.Keeps { s with pool := { s.pool with status := .resolving } } :=
        h.step rfl rfl (by simp)
      exact hresolving.void hvoid
    · obtain ⟨entries, balances, hloop, rfl⟩ := settledSnapshot_eq_ok hdivide
      exact h.step rfl (mapEntries_placement (fun _ _ _ => settleEntry_placement) hloop) (by simp)

/-! ## Sequential runs -/

/-- The states of a pool that operations and the router's resolutions lead to one by one. -/
inductive PoolRun.Sequential (js : Runtime) : PoolRun → Prop
  | start : Sequential js ⟨none, 0⟩
  | operation {state next : PoolRun} {op : PoolOperation} (hstate : Sequential js state)
      (hop : op.Admissible state) (hrun : op.run js state = .ok next) : Sequential js next
  | resolution {input : ResolutionIntakeInput} {result : ResolutionIntakeResult} {reserved : ℤ}
      (hstate : Sequential js ⟨some input.snapshot, reserved⟩)
      (happly : applyRouterResolution js input = .ok result) :
      Sequential js ⟨some result.snapshot, reserved⟩

private theorem PoolRun.Sequential.sound (hA : js.arithmetic.Exact) {state : PoolRun}
    (h : state.Sequential js) : state.Sound := by
  induction h with
  | start => exact ⟨fun _ => rfl, by simp⟩
  | operation _ hop hrun ih => exact ih.run hA hop hrun
  | resolution _ happly ih =>
    refine ⟨by simp, ?_⟩
    rintro snapshot ⟨⟩
    exact (preservedBySteps_invariant hA _).applyResolution (ih.2 _ rfl) happly

namespace DotCastPool

/-- What every operation on a stored snapshot preserves. -/
theorem Written.preserves {P : PoolSnapshot → Prop} (hP : PreservedBySteps js P)
    (hplaced : ∀ {payload now freshId result funding},
      AcceptedPlacement js payload now freshId snapshot result funding →
      P (placedSnapshot snapshot result result.entry.userId now))
    (hsnapshot : P snapshot) (h : Written js (some snapshot) next) : P next := by
  cases h with
  | placed _ hplan =>
    obtain ⟨haccepted, returned, hlock, rfl⟩ := planPlacement_eq_placed hplan
    exact hP.lock (hplaced haccepted) hlock
  | locked hlock => exact hP.lock hsnapshot hlock
  | settled hplan =>
    obtain ⟨outcome, -, hsettle⟩ := Except.bind_eq_ok.mp hplan
    exact hP.settle hsnapshot hsettle
  | resolved hplan =>
    obtain ⟨resolution, -, hrest⟩ := Except.bind_eq_ok.mp hplan
    obtain ⟨maxGraceMs, -, happly⟩ := Except.bind_eq_ok.mp hrest
    exact hP.applyResolution hsnapshot happly
  | voided hplan =>
    obtain ⟨reason, -, hvoid⟩ := Except.bind_eq_ok.mp hplan
    exact hP.void hsnapshot hvoid

private theorem Written.keeps (h : Written js (some snapshot) next) : snapshot.Keeps next := by
  refine h.preserves (preservedBySteps_keeps snapshot) (fun haccepted => ?_) (.refl snapshot)
  refine ⟨?_, ?_, fun hclosed => absurd haccepted.status_open hclosed⟩
  · simp only [placedSnapshot, haccepted.pool_eq, Pool.terms]
  · simp only [placedSnapshot, List.map_append, List.prefix_append]

/-! ## What every run keeps -/

section Sustaining

variable {env : Env}

/-- A request at rest makes no more use of storage, or it polls with a snapshot it has kept. -/
def Resting (js : Runtime) (env : Env) (Held : Storage → PoolSnapshot → Prop) (s : Storage)
    (request : Request) (p : PoolProgram Reply) : Prop :=
  p.Idle host ∨ request.Polls ∧ ∃ held now, Polling js env held now p ∧ Held s held

/-- The call that a request awaits. -/
def awaitedCall (isolate : Object) (i : ℕ) : Option (Request × Call) :=
  match isolate.threads[i]? with
  | some (request, .call call _) => some (request, call)
  | _ => none

/-- A placement that arrives brings an entry id that is not in use. -/
def Admissible (isolate : Object) : Event → Prop
  | .start request => request.Admissible isolate.state
  | _ => True

/-- Whatever is stored stays, as the relation says. -/
def Carries (P : PoolSnapshot → PoolSnapshot → Prop) (s s' : Storage) : Prop :=
  ∀ stored, s.snapshot = some stored → ∃ next, s'.snapshot = some next ∧ P stored next

private theorem carries_of_eq {P : PoolSnapshot → PoolSnapshot → Prop} (hrefl : ∀ s, P s s)
    {s s' : Storage} (h : s'.snapshot = s.snapshot) : Carries P s s' :=
  fun stored hstored => ⟨stored, h.trans hstored, hrefl stored⟩

/-- An invariant is sustained where it is kept by alarms, by writes and by the answers of the
router. -/
theorem sustains_of {condition : Object → Event → Prop} {I : Storage → Prop}
    {Held : Storage → PoolSnapshot → Prop} {P : PoolSnapshot → PoolSnapshot → Prop}
    (hadmissible : ∀ isolate event, condition isolate event → Admissible isolate event)
    (hrefl : ∀ s, P s s) (htrans : ∀ s s' s'', P s s' → P s' s'' → P s s'')
    (hheld : ∀ s s' held, Carries P s s' → Held s held → Held s' held)
    (hstart : ∀ isolate request alarm, condition isolate (.start request) → I isolate.state →
      alarm = isolate.state.alarm ∨ FiresInVain js request isolate.state →
      I ⟨isolate.state.snapshot, alarm⟩)
    (hresume : ∀ isolate i request call held answer alarm, condition isolate (.resume i answer) →
      awaitedCall isolate i = some (request, call) → request.Polls → I isolate.state →
      ((isolate.state.alarm.isSome → alarm.isSome) ∨
        call.subject = some held ∧ ¬held.pool.status.AwaitsResolution) →
      I ⟨isolate.state.snapshot, alarm⟩)
    (hwrote : ∀ s next alarm, I s → Written js s.snapshot next → Scheduled js env next alarm →
      (∀ stored, s.snapshot = some stored → P stored next) ∧ I ⟨some next, alarm⟩ ∧
        Held ⟨some next, alarm⟩ next)
    (hresolved : ∀ isolate i request marketId answer input result alarm,
      condition isolate (.resume i answer) →
      awaitedCall isolate i = some (request, .fetchRouterResolution marketId input.now) →
      Held isolate.state input.snapshot → input.snapshot.pool.status.AwaitsResolution →
      applyRouterResolution js input = .ok result → Scheduled js env result.snapshot alarm →
      (∀ stored, isolate.state.snapshot = some stored → P stored result.snapshot) ∧
        I ⟨some result.snapshot, alarm⟩) :
    Isolate.Sustains (setting js env) condition I (Resting js env Held) (Carries P) where
  refl s := carries_of_eq hrefl rfl
  trans s s' s'' h h' stored hstored := by
    obtain ⟨later, hlater, hP⟩ := h stored hstored
    obtain ⟨next, hnext, hP'⟩ := h' later hlater
    exact ⟨next, hnext, htrans _ _ _ hP hP'⟩
  frame s s' request p _ hR hp := hp.imp_right fun ⟨hpolls, held, now, hpolling, h⟩ =>
    ⟨hpolls, held, now, hpolling, hheld s s' held hR h⟩
  act isolate a := a.elim
  start isolate request hevent hI := by
    refine (fetch_outcome (hadmissible isolate _ hevent)).mono ?_
    rintro _ p (⟨halarm, hp⟩ | ⟨hwritten, halarm, hp⟩)
    · exact ⟨carries_of_eq hrefl rfl, hstart isolate request _ hevent hI halarm, Or.inl hp⟩
    · obtain ⟨hP, hI', hnext⟩ := hwrote _ _ _ hI hwritten halarm
      exact ⟨fun stored h => ⟨_, rfl, hP stored h⟩, hI',
        hp.imp_right fun ⟨hpolls, now, hpolling⟩ => ⟨hpolls, _, now, hpolling, hnext⟩⟩
  resume isolate i request call rest answer hevent hi _ hI hp := by
    rcases hp with hidle | ⟨hpolls, held, now, hpolling, hkept⟩
    · have hrest := hidle.answer (answer call)
      exact hrest.rests_iff.mpr ⟨carries_of_eq hrefl rfl, hI, Or.inl hrest⟩
    · have hcall : awaitedCall isolate i = some (request, call) := by simp only [awaitedCall, hi]
      refine (polling_resumed hpolling (answer call)).mono ?_
      rintro _ p (⟨halarm, hp⟩ | ⟨hp, rfl, hawaits, happly, halarm⟩)
      · exact ⟨carries_of_eq hrefl rfl,
          hresume isolate i request call held answer _ hevent hcall hpolls hI halarm,
          hp.imp_right fun h => ⟨hpolls, _, _, h,
            hheld isolate.state _ _ (carries_of_eq hrefl rfl) hkept⟩⟩
      · obtain ⟨hP, hI'⟩ :=
          hresolved isolate i request _ answer _ _ _ hevent hcall hkept hawaits happly halarm
        exact ⟨fun stored h => ⟨_, rfl, hP stored h⟩, hI', Or.inl hp⟩

end Sustaining

/-! ## Refinement of the sequential machine -/

/-- The kept snapshot was stored in some sequential run, and what is stored now comes after it. -/
def HeldBack (js : Runtime) (s : Storage) (held : PoolSnapshot) : Prop :=
  (∃ reserved, PoolRun.Sequential js ⟨some held, reserved⟩) ∧
    ∃ stored, s.snapshot = some stored ∧ held.Keeps stored

private theorem Written.sequential {stored : Option PoolSnapshot} {reserved : ℤ}
    (h : Written js stored next) (hstored : PoolRun.Sequential js ⟨stored, reserved⟩) :
    ∃ reserved', PoolRun.Sequential js ⟨some next, reserved'⟩ := by
  have hstep (op : PoolOperation) (reserved' : ℤ) (hop : op.Admissible ⟨stored, reserved⟩)
      (hrun : op.run js ⟨stored, reserved⟩ = .ok ⟨some next, reserved'⟩) :
      ∃ reserved', PoolRun.Sequential js ⟨some next, reserved'⟩ :=
    ⟨reserved', .operation hstored hop hrun⟩
  cases h with
  | @created payload now _ hplan =>
    exact hstep (.create payload now) reserved trivial (Except.bind_eq_ok.mpr ⟨_, hplan, rfl⟩)
  | @placed _ _ payload now freshId _ _ hop hplan =>
    exact hstep (.placeEntry payload now freshId) _ hop
      (Except.bind_eq_ok.mpr ⟨_, rfl, Except.bind_eq_ok.mpr ⟨_, hplan, rfl⟩⟩)
  | @locked _ _ now hlock =>
    exact hstep (.lock now) reserved trivial
      (Except.bind_eq_ok.mpr ⟨_, rfl, Except.bind_eq_ok.mpr ⟨_, hlock, rfl⟩⟩)
  | @settled _ _ payload now hplan =>
    exact hstep (.settle payload now) reserved trivial
      (Except.bind_eq_ok.mpr ⟨_, rfl, Except.bind_eq_ok.mpr ⟨_, hplan, rfl⟩⟩)
  | @resolved _ payload now _ hplan =>
    exact hstep (.applyResolution payload now) reserved trivial
      (Except.bind_eq_ok.mpr ⟨_, rfl, Except.bind_eq_ok.mpr ⟨_, hplan, rfl⟩⟩)
  | @voided _ _ payload now hplan =>
    exact hstep (.void payload now) reserved trivial
      (Except.bind_eq_ok.mpr ⟨_, rfl, Except.bind_eq_ok.mpr ⟨_, hplan, rfl⟩⟩)

private theorem sustains_sequential (js : Runtime) (env : Env) :
    Isolate.Sustains (setting js env) Admissible
      (fun s => ∃ reserved, PoolRun.Sequential js ⟨s.snapshot, reserved⟩)
      (Resting js env (HeldBack js)) (Carries PoolSnapshot.Keeps) := by
  refine sustains_of (fun _ _ h => h) .refl (fun _ _ _ => .trans) ?_ (fun _ _ _ _ h _ => h)
    (fun _ _ _ _ _ _ _ _ _ _ h _ => h) ?_ ?_
  · rintro s s' held hcarries ⟨hsequential, stored, hstored, hkeeps⟩
    obtain ⟨next, hnext, hkeeps'⟩ := hcarries stored hstored
    exact ⟨hsequential, next, hnext, hkeeps.trans hkeeps'⟩
  · rintro s next alarm ⟨reserved, hI⟩ hwritten -
    have hnext := hwritten.sequential hI
    exact ⟨fun stored hstored => (hstored ▸ hwritten).keeps, hnext, hnext, next, rfl, .refl next⟩
  · rintro isolate i request marketId answer input result alarm - - ⟨⟨reserved, hsequential⟩,
      stored, hstored, hkeeps⟩ hawaits happly -
    have hresult := (preservedBySteps_keeps input.snapshot).applyResolution (.refl _) happly
    refine ⟨fun current hcurrent => ?_, reserved, .resolution hsequential happly⟩
    obtain rfl := Option.some.inj (hstored.symm.trans hcurrent)
    exact .of_closed (by rcases hawaits with h | h <;> simp [h]) hkeeps hresult

variable {env : Env} {isolate : Object}

/-- Before it is created a pool has neither a snapshot nor an alarm. -/
def Uncreated (s : Storage) : Prop := s = ⟨none, none⟩

private theorem sustained_sequential
    (hreach : Isolate.Reaches (setting js env) Admissible Uncreated isolate) :
    isolate.Sustained (fun s => ∃ reserved, PoolRun.Sequential js ⟨s.snapshot, reserved⟩)
      (Resting js env (HeldBack js)) := by
  refine (sustains_sequential js env).reaches (fun s hs => ⟨0, ?_⟩) hreach
  rw [show s = ⟨none, none⟩ from hs]
  exact .start

/-- Whatever the interleaving, what is stored comes of a sequential run, and its accounts are in
order where amounts are exact. -/
theorem stored_sequential
    (hreach : Isolate.Reaches (setting js env) Admissible Uncreated isolate)
    (hstored : isolate.state.snapshot = some snapshot) :
    ∃ reserved, PoolRun.Sequential js ⟨some snapshot, reserved⟩ ∧
      (js.arithmetic.Exact → PoolInvariant snapshot reserved) := by
  obtain ⟨reserved, hsequential⟩ := (sustained_sequential hreach).1
  rw [hstored] at hsequential
  exact ⟨reserved, hsequential, fun hA => (hsequential.sound hA).2 snapshot rfl⟩

/-- Whatever happens to a pool, its terms stay, no placed entry is lost or altered, and once it
is closed no entry is added. -/
theorem stored_keeps {events : List Event}
    (hreach : Isolate.Reaches (setting js env) Admissible Uncreated isolate)
    (hevents : Isolate.Along (setting js env) Admissible events isolate)
    (hstored : isolate.state.snapshot = some snapshot) :
    ∃ next, (events.foldl (Isolate.after (setting js env)) isolate).state.snapshot = some next ∧
      snapshot.Keeps next :=
  (sustains_sequential js env).along (sustained_sequential hreach) hevents snapshot hstored

private def sampleMarket : MarketSnapshot :=
  ⟨"market", .kalshi, "Will it snow?", .open, "2026-07-02T00:00:00.000Z", none⟩

private def sampleSetting : Isolate.Setting Request Call Call.Ret String Reply Storage Unit Empty :=
  setting (JavaScript.reference .exact) ⟨false, false, none, none⟩

/-- A pool is opened and two users bet against each other. -/
private def opening : List Event :=
  [.start (.create ⟨none, sampleMarket, .points, none, "2026-07-01T12:00:00.000Z", .finite 0, 10,
      none, none, none, none⟩ "2026-07-01T00:00:00.000Z"),
    .start (.placeEntry ⟨.string "ann", .string "yes", .number (.finite 100), none, some "a", none⟩
      "2026-07-01T01:00:00.000Z" ""),
    .start (.placeEntry ⟨.string "bob", .string "no", .number (.finite 50), none, some "b", none⟩
      "2026-07-01T02:00:00.000Z" "")]

private def opened : Object := opening.foldl (Isolate.after sampleSetting) ⟨⟨none, none⟩, [], []⟩

private theorem opened_reaches {condition : Object → Event → Prop}
    (h : ∀ isolate request, request.Admissible isolate.state → (∀ now, request ≠ .alarm now) →
      condition isolate (.start request)) :
    Isolate.Reaches sampleSetting condition Uncreated opened :=
  Isolate.Reaches.along (.start _ rfl) ⟨h _ _ trivial (by simp),
    h _ _ ⟨by decide, fun h => absurd h (by decide)⟩ (by simp),
    h _ _ ⟨by decide, fun h => absurd h (by decide)⟩ (by simp), trivial⟩

/-- The pool of the two bets is in order. -/
theorem stored_sequential_opening : ∃ snapshot reserved,
    opened.state.snapshot = some snapshot ∧ snapshot.entries.length = 2 ∧
      PoolInvariant snapshot reserved := by
  obtain ⟨snapshot, hstored, hentries⟩ : ∃ snapshot, opened.state.snapshot = some snapshot ∧
      snapshot.entries.length = 2 := Option.map_eq_some_iff.mp (by decide +kernel)
  obtain ⟨reserved, -, hinvariant⟩ := stored_sequential (opened_reaches fun _ _ h _ => h) hstored
  exact ⟨snapshot, reserved, hstored, hentries, hinvariant Arithmetic.exact_exact⟩

private def closing : Event := .start (.lock ⟨none⟩ "2026-07-01T13:00:00.000Z")

private def closed : Object := opened.after sampleSetting closing

/-- The two bets outlast the lock. -/
theorem stored_keeps_closing : ∃ earlier later, opened.state.snapshot = some earlier ∧
    closed.state.snapshot = some later ∧ earlier.Keeps later := by
  obtain ⟨earlier, hstored⟩ := Option.isSome_iff_exists.mp
    (show opened.state.snapshot.isSome by decide +kernel)
  have hevents : Isolate.Along sampleSetting Admissible [closing] opened := ⟨trivial, trivial⟩
  obtain ⟨later, hlater, hkeeps⟩ :=
    stored_keeps (opened_reaches fun _ _ h _ => h) hevents hstored
  exact ⟨earlier, later, hstored, hlater, hkeeps⟩

/-! ## How a pool ended -/

/-- No answer of the router arrives at a poll once the stored pool has ended. -/
def Timely (isolate : Object) (event : Event) : Prop :=
  Admissible isolate event ∧ ∀ i answer request marketId now, event = .resume i answer →
    awaitedCall isolate i = some (request, .fetchRouterResolution marketId now) →
    ∀ stored, isolate.state.snapshot = some stored → ¬stored.pool.status.Terminal

/-- A request comes in time. -/
theorem Admissible.timely {request : Request} (h : Admissible isolate (.start request)) :
    Timely isolate (.start request) := ⟨h, fun _ _ _ _ _ he => by cases he⟩

/-- The snapshot but for the note of the last resolution. -/
def SameBut (stored next : PoolSnapshot) : Prop :=
  ∃ resolution updatedAt,
    next = { stored with lastResolution := resolution, updatedAt := updatedAt }

private theorem preservedBySteps_ended (stored : PoolSnapshot) : PreservedBySteps js fun s =>
    s.pool.status.Terminal ∧ SameBut stored s where
  withResolution resolution now h := by
    obtain ⟨hterminal, _, _, rfl⟩ := h
    exact ⟨hterminal, _, _, rfl⟩
  lock h hlock := by
    rcases lockSnapshotIfNeeded_eq_ok hlock with hsame | ⟨hopen, -⟩ | ⟨hopen, -⟩
    · rwa [hsame]
    all_goals exact absurd h.1 (by simp [hopen, PoolStatus.Terminal])
  void h hvoid := by
    rcases voidPoolSnapshot_eq_ok hvoid with ⟨-, rfl⟩ | ⟨hactive, -⟩
    · exact h
    · exact absurd h.1 hactive
  settle h hsettle := by
    rcases settlePoolSnapshot_eq_ok hsettle with ⟨-, rfl⟩ | ⟨-, hactive, -⟩ |
      ⟨_, _, _, -, hstatus, -⟩
    · exact h
    · exact absurd h.1 hactive
    · exact absurd h.1 (PoolStatus.AwaitsResolution.not_terminal hstatus)

private theorem sustains_ended (js : Runtime) (env : Env) :
    Isolate.Sustains (setting js env) Timely (fun _ => True) (Resting js env fun _ _ => True)
      (Carries fun stored next => stored.pool.status.Terminal → SameBut stored next) := by
  refine sustains_of (fun _ _ h => h.1) (fun _ _ => ⟨_, _, rfl⟩) ?_ (fun _ _ _ _ h => h)
    (fun _ _ _ _ _ _ => trivial) (fun _ _ _ _ _ _ _ _ _ _ _ _ => trivial) ?_ ?_
  · intro s s' s'' h h' hterminal
    obtain ⟨_, _, rfl⟩ := h hterminal
    obtain ⟨_, _, rfl⟩ := h' hterminal
    exact ⟨_, _, rfl⟩
  · refine fun s next alarm _ hwritten _ => ⟨fun stored hstored hterminal => ?_, trivial, trivial⟩
    rw [hstored] at hwritten
    refine (hwritten.preserves (preservedBySteps_ended stored) (fun haccepted => ?_)
      ⟨hterminal, _, _, rfl⟩).2
    exact absurd hterminal (by simp [haccepted.status_open, PoolStatus.Terminal])
  · refine fun isolate i request marketId answer input result alarm htimely hcall _ _ _ _ =>
      ⟨fun stored hstored hterminal => ?_, trivial⟩
    exact absurd hterminal (htimely.2 i answer request _ _ rfl hcall stored hstored)

/-- While no answer of the router arrives at a pool that has ended, how it ended stays: its
entries, balances, house ledger, settlement and reason. -/
theorem terminal_final {events : List Event}
    (hreach : Isolate.Reaches (setting js env) Admissible Uncreated isolate)
    (hevents : Isolate.Along (setting js env) Timely events isolate)
    (hstored : isolate.state.snapshot = some snapshot) (hterminal : snapshot.pool.status.Terminal) :
    ∃ resolution updatedAt,
      (events.foldl (Isolate.after (setting js env)) isolate).state.snapshot =
        some { snapshot with lastResolution := resolution, updatedAt := updatedAt } := by
  have hresting : isolate.Sustained (fun _ => True) (Resting js env fun _ _ => True) :=
    ⟨trivial, fun i request p hi => ((sustained_sequential hreach).2 i request p hi).imp_right
      fun ⟨hpolls, held, now, hpolling, _⟩ => ⟨hpolls, held, now, hpolling, trivial⟩⟩
  obtain ⟨next, hnext, hsame⟩ := (sustains_ended js env).along hresting hevents snapshot hstored
  obtain ⟨resolution, updatedAt, rfl⟩ := hsame hterminal
  exact ⟨resolution, updatedAt, hnext⟩

private def cancelling : Event :=
  .start (.void ⟨.string "ADMIN_VOID", none⟩ "2026-07-01T13:00:00.000Z")

private def cancelled : Object := opened.after sampleSetting cancelling

private def rereading : Event := .start (.read "2026-07-03T00:00:00.000Z")

/-- A read leaves the cancelled pool as it is. -/
theorem terminal_final_cancelling : ∃ snapshot resolution updatedAt,
    cancelled.state.snapshot = some snapshot ∧
      (cancelled.after sampleSetting rereading).state.snapshot =
        some { snapshot with lastResolution := resolution, updatedAt := updatedAt } := by
  obtain ⟨snapshot, hstored, hstatus⟩ : ∃ snapshot, cancelled.state.snapshot = some snapshot ∧
      snapshot.pool.status = .voided := Option.map_eq_some_iff.mp (by decide +kernel)
  have hreach : Isolate.Reaches sampleSetting Admissible Uncreated cancelled :=
    (opened_reaches fun _ _ h _ => h).step cancelling trivial
  have hevents : Isolate.Along sampleSetting Timely [rereading] cancelled :=
    ⟨Admissible.timely trivial, trivial⟩
  obtain ⟨resolution, updatedAt, hfinal⟩ :=
    terminal_final hreach hevents hstored (Or.inr hstatus)
  exact ⟨snapshot, resolution, updatedAt, hstored, hfinal⟩

/-! ## The alarm -/

/-- An alarm fires at a time that can be read, and no poll that waits to report a pool that awaits
no resolution is answered once the stored one does. -/
def Punctual (js : Runtime) (isolate : Object) (event : Event) : Prop :=
  Admissible isolate event ∧
    (∀ now, event = .start (.alarm now) → ∃ ms, js.dateParse now = some ms) ∧
    ∀ i answer request call held, event = .resume i answer →
      awaitedCall isolate i = some (request, call) → request.Polls → call.subject = some held →
      ¬held.pool.status.AwaitsResolution →
      ∀ stored, isolate.state.snapshot = some stored → ¬stored.pool.status.AwaitsResolution

private theorem Admissible.punctual {request : Request} (h : Admissible isolate (.start request))
    (hrequest : ∀ now, request ≠ .alarm now) : Punctual js isolate (.start request) :=
  ⟨h, fun now he => by cases he; exact absurd rfl (hrequest now), fun _ _ _ _ _ he => by cases he⟩

def HasCloseTime (js : Runtime) (snapshot : PoolSnapshot) : Prop :=
  ∃ ms, js.dateParse snapshot.pool.entryClosesAt = some ms

/-- A stored pool has a time at which it closes, and an alarm where it awaits a resolution. -/
def Watched (js : Runtime) (s : Storage) : Prop :=
  ∀ stored, s.snapshot = some stored →
    HasCloseTime js stored ∧ (stored.pool.status.AwaitsResolution → s.alarm.isSome)

private theorem HasCloseTime.kept (hcloses : HasCloseTime js snapshot) (h : snapshot.Keeps next) :
    HasCloseTime js next := by
  have hsame := congrArg Pool.entryClosesAt h.terms
  rwa [HasCloseTime, show next.pool.entryClosesAt = snapshot.pool.entryClosesAt from hsame]

private theorem Written.hasCloseTime {stored : Option PoolSnapshot} (h : Written js stored next)
    (hstored : ∀ s, stored = some s → HasCloseTime js s) : HasCloseTime js next := by
  cases stored with
  | some s => exact (hstored s rfl).kept h.keeps
  | none =>
    obtain ⟨hplan⟩ := h
    obtain ⟨pool, hpool, hcreated⟩ := Except.bind_eq_ok.mp hplan
    obtain rfl := Except.ok.inj hcreated
    exact (createPoolFromMarket_eq_ok hpool).2.2.2.2.1

/-- Nothing keeps a closed pool from being locked again. -/
theorem lockSnapshotIfNeeded_closed (hawaits : snapshot.pool.status.AwaitsResolution)
    (hcloses : HasCloseTime js snapshot) {ms : ℤ} (hnow : js.dateParse now = some ms) :
    lockSnapshotIfNeeded js snapshot now = .ok (.fresh snapshot) := by
  obtain ⟨closes, hcloses⟩ := hcloses
  have hclosed : snapshot.pool.status ≠ .open := by rcases hawaits with h | h <;> simp [h]
  have hlock : lockPoolIfNeeded js snapshot.pool now = .ok .same := by
    simp only [lockPoolIfNeeded, assertIso, hnow, hcloses, Except.bind_ok]
    rw [if_pos (Or.inl hclosed)]
    rfl
  simp only [lockSnapshotIfNeeded, hlock, Except.bind_ok]
  rfl

private theorem sustains_watched
    (hinterval : ∃ ms, resolvePollIntervalMs js env.routerResolutionPollMs = .ok ms) :
    Isolate.Sustains (setting js env) (Punctual js) (Watched js)
      (Resting js env fun _ held => HasCloseTime js held) (Carries fun _ _ => True) := by
  refine sustains_of (fun _ _ h => h.1) (fun _ => trivial) (fun _ _ _ _ _ => trivial)
    (fun _ _ _ _ h => h) ?_ ?_ ?_ ?_
  · intro isolate request alarm hpunctual hI halarm stored hstored
    obtain ⟨hcloses, hawaits⟩ := hI stored hstored
    rcases halarm with rfl | ⟨now, rfl, hfails⟩
    · exact ⟨hcloses, hawaits⟩
    · refine ⟨hcloses, fun h => ?_⟩
      obtain ⟨ms, hnow⟩ := hpunctual.2.1 now rfl
      obtain ⟨e, he⟩ := hfails stored hstored
      simp [lockSnapshotIfNeeded_closed h hcloses hnow] at he
  · intro isolate i request call held answer alarm hpunctual hcall hpolls hI halarm stored hstored
    refine ⟨(hI stored hstored).1, fun h => ?_⟩
    rcases halarm with halarm | ⟨hsubject, hawaits⟩
    · exact halarm ((hI stored hstored).2 h)
    · exact absurd h (hpunctual.2.2 i answer request call held rfl hcall hpolls hsubject hawaits
        stored hstored)
  · intro s next alarm hI hwritten halarm
    have hcloses := hwritten.hasCloseTime fun stored hstored => (hI stored hstored).1
    refine ⟨fun _ _ => trivial, ?_, hcloses⟩
    rintro stored ⟨⟩
    exact ⟨hcloses, fun h => halarm h hinterval⟩
  · intro isolate i request marketId answer input result alarm _ _ hheld _ happly halarm
    refine ⟨fun _ _ => trivial, ?_⟩
    rintro stored ⟨⟩
    have hkeeps := (preservedBySteps_keeps input.snapshot).applyResolution (.refl _) happly
    exact ⟨hheld.kept hkeeps, fun h => halarm h hinterval⟩

/-- A pool that awaits its resolution has an alarm to poll for it. -/
theorem alarm_scheduled
    (hinterval : ∃ ms, resolvePollIntervalMs js env.routerResolutionPollMs = .ok ms)
    (hreach : Isolate.Reaches (setting js env) (Punctual js) Uncreated isolate)
    (hstored : isolate.state.snapshot = some snapshot)
    (hawaits : snapshot.pool.status.AwaitsResolution) : isolate.state.alarm.isSome := by
  have hsustained := (sustains_watched hinterval).reaches (fun s hs stored hstored => by
    simp [show s = ⟨none, none⟩ from hs] at hstored) hreach
  exact (hsustained.1 snapshot hstored).2 hawaits

/-- The locked pool of the two bets has an alarm. -/
theorem alarm_scheduled_closing : closed.state.alarm.isSome := by
  obtain ⟨snapshot, hstored, hstatus⟩ : ∃ snapshot, closed.state.snapshot = some snapshot ∧
      snapshot.pool.status = .locked := Option.map_eq_some_iff.mp (by decide +kernel)
  have hinterval : ∃ ms, resolvePollIntervalMs (JavaScript.reference .exact) none = .ok ms :=
    ⟨_, rfl⟩
  have hreach : Isolate.Reaches sampleSetting (Punctual (JavaScript.reference .exact)) Uncreated
      closed := (opened_reaches fun _ _ => Admissible.punctual).step closing
    (Admissible.punctual trivial (by simp))
  exact alarm_scheduled hinterval hreach hstored (Or.inl hstatus)

end DotCastPool

end Yevow.DotCast
