import Yevow.Models.DotCast.Pool.Progress

/-!
# Runs to a resolvable pool

A market's resolution date is stored unchecked, and a placement checks its own amount but
not the sums it adds to. A run in which neither goes wrong leads to pools that accept every
valid resolution.
-/

namespace Yevow.DotCast

open Arithmetic (maxSafeInteger)
open JavaScript (Runtime Returned)

variable {js : Runtime} {snapshot : PoolSnapshot}

/-- The states of a pool reachable by operations that are each allowed where they are made. -/
inductive PoolRun.ReachableBy (js : Runtime) (Allowed : PoolRun → PoolOperation → Prop) :
    PoolRun → Prop
  | start : ReachableBy js Allowed ⟨none, 0⟩
  | step {state next : PoolRun} {op : PoolOperation} : ReachableBy js Allowed state →
      Allowed state op → op.run js state = .ok next → ReachableBy js Allowed next

/-- The side's total and the user's own stakes stay safe integers with the new entry. -/
def PlaceEntryPayload.Fits (js : Runtime) (snapshot : PoolSnapshot) (payload : PlaceEntryPayload) :
    Prop :=
  ∀ userId side amount, parseUserId payload.userId = .ok userId →
    parseSide payload.side = .ok side → parseAmount js payload.amount = .ok amount →
    stakedOn snapshot.entries side + amount ≤ maxSafeInteger ∧
      stakeOf snapshot.entries userId + amount ≤ maxSafeInteger

/-- An operation that brings in neither a date nor a sum a resolution trips over. -/
def PoolOperation.KeepsResolvable (js : Runtime) (state : PoolRun) : PoolOperation → Prop
  | .create payload _ => ∀ text, payload.market.expectedResolveAt = some text → text ≠ "" →
      ∃ ms, js.dateParse text = some ms
  | .placeEntry payload _ _ => ∀ snapshot, state.stored = some snapshot → payload.Fits js snapshot
  | _ => True

private theorem planCreation_resolvable {payload : CreatePoolPayload} {now : String}
    (h : planCreation js payload now = .ok snapshot)
    (hexpected : ∀ text, payload.market.expectedResolveAt = some text → text ≠ "" →
      ∃ ms, js.dateParse text = some ms) : Resolvable js snapshot := by
  obtain ⟨pool, hpool, hout⟩ := Except.bind_eq_ok.mp h
  obtain rfl := Except.ok.inj hout
  obtain ⟨-, -, -, hresolve, hcloses, hrake⟩ := createPoolFromMarket_eq_ok hpool
  right
  constructor
  · simp [createdSnapshot]
  · simp [createdSnapshot]
  · simp [createdSnapshot, stakedOn, maxSafeInteger]
  · simp [createdSnapshot, stakeOf, maxSafeInteger]
  · simp [createdSnapshot]
  · simp [createdSnapshot]
  · exact hrake
  · exact hcloses
  · intro text htext hne
    exact hexpected text (hresolve.symm.trans htext) hne

section Placement

variable {payload : PlaceEntryPayload} {now freshId : String} {result : PlaceEntryResult}
  {funding : Option SettlementFunding}

/-- The locked balance of the entry's user is what the user has staked, the entry included. -/
private theorem placed_locked_of_fits (h : ActiveAccounts js snapshot)
    (ha : AcceptedPlacement js payload now freshId snapshot result funding)
    (hfits : payload.Fits js snapshot) :
    result.balance.locked = stakeOf (snapshot.entries ++ [result.entry]) result.entry.userId := by
  have hsum := (hfits _ _ _ ha.user_parsed ha.side_parsed ha.amount_parsed).2
  have hstake : 0 ≤ stakeOf snapshot.entries result.entry.userId :=
    userTotal_nonneg (fun e he => (h.stakes e he).2.1.le) _
  have hcurrent : (currentBalance snapshot.balances result.entry.userId
      snapshot.pool.unit).locked = stakeOf snapshot.entries result.entry.userId := by
    rcases currentBalance_cases ha.userId_ne ha.current_user with hlookup | ⟨hlookup, hseed⟩
    · exact (h.balances _ _ hlookup).2
    · rw [hseed, stakeOf_eq_zero]
      · rfl
      · intro e he heq
        obtain ⟨balance, hbalance⟩ := h.funded e he
        rw [heq, hlookup] at hbalance
        exact absurd hbalance (by simp)
  have hamount := ha.amount_pos
  rw [ha.balance_eq _ rfl, fundedBalance_locked, hcurrent, stakeOf_append, if_pos rfl]
  exact js.arithmetic.integer_of_le (by omega) hsum

private theorem ActiveAccounts.placed (h : ActiveAccounts js snapshot)
    (ha : AcceptedPlacement js payload now freshId snapshot result funding)
    (hfits : payload.Fits js snapshot) (hid : result.entry.id ∉ snapshot.entries.map Entry.id) :
    ActiveAccounts js (placedSnapshot snapshot result result.entry.userId now) := by
  have hsums := hfits _ _ _ ha.user_parsed ha.side_parsed ha.amount_parsed
  constructor
  · simp only [placedSnapshot, List.map_append, List.map_cons, List.map_nil]
    rw [List.nodup_append]
    refine ⟨h.ids, by simp, ?_⟩
    rintro a ha' b hb rfl
    rw [List.mem_singleton] at hb
    exact hid (hb ▸ ha')
  · intro e he
    rcases List.mem_append.mp he with he | he
    · exact h.stakes e he
    · rw [List.mem_singleton] at he
      subst he
      have hentry := ha.entry_eq
      exact ⟨by rw [hentry], ha.amount_pos, by rw [hentry]⟩
  · intro side
    simp only [placedSnapshot, stakedOn_append]
    split_ifs with hside
    · rw [← hside]
      exact hsums.1
    · rw [add_zero]
      exact h.sides side
  · intro userId
    simp only [placedSnapshot, stakeOf_append]
    split_ifs with huser
    · rw [← huser]
      exact hsums.2
    · rw [add_zero]
      exact h.users userId
  · intro userId balance hlookup
    simp only [placedSnapshot, Table.lookup_insert] at hlookup ⊢
    split_ifs at hlookup with huser
    · obtain rfl := Option.some.inj hlookup
      rw [huser]
      refine ⟨?_, placed_locked_of_fits h ha hfits⟩
      have hfunds := ha.sufficient
      rw [ha.balance_eq _ rfl]
      exact js.arithmetic.integer_nonneg (sub_nonneg.mpr hfunds)
    · obtain ⟨havailable, hlocked⟩ := h.balances userId balance hlookup
      rw [stakeOf_append, if_neg (Ne.symm huser), add_zero]
      exact ⟨havailable, hlocked⟩
  · intro e he
    simp only [placedSnapshot, Table.lookup_insert]
    split_ifs with huser
    · exact ⟨_, rfl⟩
    · rcases List.mem_append.mp he with he | he
      · exact h.funded e he
      · rw [List.mem_singleton] at he
        exact absurd (congrArg Entry.userId he) huser
  · simp only [placedSnapshot, ha.pool_eq]
    exact h.rake
  · simp only [placedSnapshot, ha.pool_eq]
    exact h.closes
  · simp only [placedSnapshot, ha.pool_eq]
    exact h.resolves

end Placement

/-- One operation keeps a pool resolvable. -/
theorem Resolvable.step {state next : PoolRun} {op : PoolOperation}
    (h : ∀ snapshot, state.stored = some snapshot → Resolvable js snapshot)
    (hadmissible : op.Admissible state) (hkeeps : op.KeepsResolvable js state)
    (hrun : op.run js state = .ok next) :
    ∀ snapshot, next.stored = some snapshot → Resolvable js snapshot := by
  have hsteps : PreservedBySteps js (Resolvable js) := preservedBySteps_resolvable
  cases op with
  | create payload now =>
    unfold PoolOperation.run at hrun
    cases hstored : state.stored with
    | some snapshot =>
      simp only [hstored] at hrun
      obtain rfl := Except.ok.inj hrun
      exact h
    | none =>
      simp only [hstored] at hrun
      obtain ⟨snapshot, hplan, hout⟩ := Except.bind_eq_ok.mp hrun
      obtain rfl := Except.ok.inj hout
      rintro s ⟨⟩
      exact planCreation_resolvable hplan hkeeps
  | placeEntry payload now freshId =>
    obtain ⟨snapshot, hsnapshot, hrest⟩ := Except.bind_eq_ok.mp hrun
    obtain ⟨placement, hplan, hout⟩ := Except.bind_eq_ok.mp hrest
    obtain rfl := Except.ok.inj hout
    have hstored := requireSnapshot_eq_ok hsnapshot
    rintro s ⟨⟩
    cases placement with
    | duplicate entry balance => exact h snapshot hstored
    | placed result funding placed =>
      obtain ⟨haccepted, returned, hlock, rfl⟩ := planPlacement_eq_placed hplan
      have hid : result.entry.id ∉ snapshot.entries.map Entry.id :=
        existingEntry_eq_none haccepted.not_existing hadmissible.1
          (fun hnone => hadmissible.2 hnone snapshot hstored) (by rw [haccepted.entry_eq])
      have hactive := (h snapshot hstored).resolve_left
        (by simp [haccepted.status_open, PoolStatus.Terminal])
      exact hsteps.lock (Or.inr (hactive.placed haccepted (hkeeps snapshot hstored) hid)) hlock
  | lock now =>
    obtain ⟨snapshot, hsnapshot, hrest⟩ := Except.bind_eq_ok.mp hrun
    obtain ⟨returned, hlock, hout⟩ := Except.bind_eq_ok.mp hrest
    obtain rfl := Except.ok.inj hout
    rintro s ⟨⟩
    exact hsteps.lock (h snapshot (requireSnapshot_eq_ok hsnapshot)) hlock
  | settle payload now =>
    obtain ⟨snapshot, hsnapshot, hrest⟩ := Except.bind_eq_ok.mp hrun
    obtain ⟨settled, hplan, hout⟩ := Except.bind_eq_ok.mp hrest
    obtain rfl := Except.ok.inj hout
    obtain ⟨outcome, -, hsettle⟩ := Except.bind_eq_ok.mp hplan
    rintro s ⟨⟩
    exact hsteps.settle (h snapshot (requireSnapshot_eq_ok hsnapshot)) hsettle
  | applyResolution payload now =>
    obtain ⟨snapshot, hsnapshot, hrest⟩ := Except.bind_eq_ok.mp hrun
    obtain ⟨result, hplan, hout⟩ := Except.bind_eq_ok.mp hrest
    obtain rfl := Except.ok.inj hout
    obtain ⟨resolution, -, hparsed⟩ := Except.bind_eq_ok.mp hplan
    obtain ⟨maxGraceMs, -, happly⟩ := Except.bind_eq_ok.mp hparsed
    rintro s ⟨⟩
    exact hsteps.applyResolution (h snapshot (requireSnapshot_eq_ok hsnapshot)) happly
  | void payload now =>
    obtain ⟨snapshot, hsnapshot, hrest⟩ := Except.bind_eq_ok.mp hrun
    obtain ⟨voided, hplan, hout⟩ := Except.bind_eq_ok.mp hrest
    obtain rfl := Except.ok.inj hout
    obtain ⟨reason, -, hvoid⟩ := Except.bind_eq_ok.mp hplan
    rintro s ⟨⟩
    exact hsteps.void (h snapshot (requireSnapshot_eq_ok hsnapshot)) hvoid

/-- Every run of such operations leads to resolvable pools. -/
theorem PoolRun.ReachableBy.resolvable {state : PoolRun}
    (h : state.ReachableBy js fun state op => op.Admissible state ∧ op.KeepsResolvable js state) :
    ∀ snapshot, state.stored = some snapshot → Resolvable js snapshot := by
  induction h with
  | start => simp
  | step _ hop hrun ih => exact Resolvable.step ih hop.1 hop.2 hrun

/-- No pool of such a run is stuck: every valid resolution gets a result. -/
theorem reachable_pool_resolves {state : PoolRun}
    (h : state.ReachableBy js fun state op => op.Admissible state ∧ op.KeepsResolvable js state)
    {input : ResolutionIntakeInput} (hstored : state.stored = some input.snapshot)
    (hvalid : input.Valid js) : ∃ result, applyRouterResolution js input = .ok result :=
  (h.resolvable input.snapshot hstored).applyRouterResolution_returns hvalid

/-! ## Runs on fixed inputs -/

/-- Creating a pool, placing entries and locking. -/
def PoolOperation.Enters : PoolOperation → Prop
  | .create _ _ | .placeEntry _ _ _ | .lock _ => True
  | _ => False

private theorem PoolRun.ReachableBy.perform {Allowed : PoolRun → PoolOperation → Prop}
    {state : PoolRun} (h : state.ReachableBy js Allowed) {op : PoolOperation}
    (hop : Allowed state op) : (op.perform js state).ReachableBy js Allowed := by
  unfold PoolOperation.perform
  cases hrun : op.run js state with
  | ok next => exact .step h hop hrun
  | error e => exact h

private def performAll (ops : List PoolOperation) (state : PoolRun) : PoolRun :=
  ops.foldl (PoolOperation.perform (JavaScript.reference .double)) state

private theorem reachableBy_performAll {Allowed : PoolRun → PoolOperation → Prop}
    {ops : List PoolOperation} {state : PoolRun}
    (h : state.ReachableBy (JavaScript.reference .double) Allowed)
    (hops : ∀ op ∈ ops, ∀ state, Allowed state op) :
    (performAll ops state).ReachableBy (JavaScript.reference .double) Allowed := by
  induction ops generalizing state with
  | nil => exact h
  | cons op rest ih =>
    exact ih (h.perform (hops op (List.mem_cons_self ..) state))
      fun o ho => hops o (List.mem_cons_of_mem op ho)

private def rainMarket (expectedResolveAt : Option String) : MarketSnapshot :=
  ⟨"rain", .kalshi, "Will it rain?", .open, "2026-07-02T00:00:00.000Z", expectedResolveAt⟩

private def rainPool (unit : StakeUnit) (expectedResolveAt : Option String) : PoolOperation :=
  .create ⟨some "pool", rainMarket expectedResolveAt, unit, none, "2026-07-01T12:00:00.000Z",
    .finite (1 / 20), 10, none, none, some ⟨"route", "rain", none, .locked⟩, none⟩
    "2026-07-01T00:00:00.000Z"

private def bet (unit : StakeUnit) (id user side : String) (amount : ℤ) : PoolOperation :=
  .placeEntry ⟨.string user, .string side, .number (.finite amount), none, some id,
    if unit = .usdc then
      some ⟨.string "solana-usdc-devnet", .string id, .number (.finite amount)⟩
    else none⟩ "2026-07-01T01:00:00.000Z" ""

private def lockDue : PoolOperation := .lock "2026-07-01T13:00:00.000Z"

private def rainAnswer (outcome : ResolutionOutcome) (stale : Bool) : RouterResolution :=
  ⟨"rain", outcome, none, "2026-07-02T13:00:00.000Z", stale, none⟩

private def rainIntake (snapshot : PoolSnapshot) (resolution : RouterResolution) :
    ResolutionIntakeInput :=
  ⟨snapshot, resolution, "2026-07-02T13:00:00.000Z", none⟩

private theorem dateParse_answer : (JavaScript.reference .double).dateParse
    "2026-07-02T13:00:00.000Z" = some 1782997200000 := by
  decide +kernel

private theorem valid_rainIntake {snapshot : PoolSnapshot} (outcome : ResolutionOutcome)
    (stale : Bool) (h : snapshot.pool.marketId = "rain") :
    (rainIntake snapshot (rainAnswer outcome stale)).Valid (JavaScript.reference .double) where
  market := h.symm
  now := ⟨_, dateParse_answer⟩
  fetchedAt := ⟨_, dateParse_answer⟩
  resolvedAt := by simp [rainIntake, rainAnswer]
  maxGraceMs := by simp [rainIntake]

private def emptyRain : PoolRun :=
  PoolOperation.perform (JavaScript.reference .double) ⟨none, 0⟩
    (rainPool .points (some "2026-07-02T12:00:00.000Z"))

private def annsRain : PoolRun :=
  PoolOperation.perform (JavaScript.reference .double) emptyRain (bet .points "a" "ann" "yes" 100)

/-- The first bet on an empty pool leaves it resolvable. -/
theorem reachable_pool_resolves_annsRain : ∃ snapshot, annsRain.stored = some snapshot ∧
    ∃ result, applyRouterResolution (JavaScript.reference .double)
      (rainIntake snapshot (rainAnswer (.side .yes) false)) = .ok result := by
  have hempty : emptyRain.ReachableBy (JavaScript.reference .double) fun state op =>
      op.Admissible state ∧ op.KeepsResolvable (JavaScript.reference .double) state := by
    refine PoolRun.ReachableBy.start.perform ⟨trivial, ?_⟩
    rintro text ⟨⟩ -
    exact ⟨1782993600000, by decide +kernel⟩
  have hstored : emptyRain.stored.map PoolSnapshot.entries = some [] := by
    decide +kernel
  have hbet : annsRain.ReachableBy (JavaScript.reference .double) fun state op =>
      op.Admissible state ∧ op.KeepsResolvable (JavaScript.reference .double) state := by
    refine hempty.perform ⟨⟨by decide, fun hnone => absurd hnone (by decide)⟩, ?_⟩
    intro snapshot hsnapshot userId side amount _ _ hamount
    rw [hsnapshot, Option.map_some, Option.some.injEq] at hstored
    have hhundred : parseAmount (JavaScript.reference .double) (.number (.finite 100)) =
        .ok 100 := by
      decide +kernel
    obtain rfl := Except.ok.inj (hhundred.symm.trans hamount)
    rw [hstored]
    simp [stakedOn, stakeOf, maxSafeInteger]
  obtain ⟨snapshot, hsnapshot⟩ : ∃ snapshot, annsRain.stored = some snapshot :=
    Option.isSome_iff_exists.mp (by decide +kernel)
  have hmarket : annsRain.stored.map (fun s => s.pool.marketId) = some "rain" := by
    decide +kernel
  rw [hsnapshot, Option.map_some, Option.some.injEq] at hmarket
  exact ⟨snapshot, hsnapshot,
    reachable_pool_resolves hbet hsnapshot (valid_rainIntake (.side .yes) false hmarket)⟩

/-- The market carries no date but a remark. -/
private def undatedRun : List PoolOperation :=
  [rainPool .points (some "tbd"), bet .points "a" "ann" "yes" 100, bet .points "b" "bob" "no" 50,
    lockDue]

/-- One side's total passes the safe integers. -/
private def hugeSideRun : List PoolOperation :=
  [rainPool .usdc none, bet .usdc "a" "ann" "yes" 9007199254740991, bet .usdc "b" "bob" "yes" 1,
    bet .usdc "c" "cat" "no" 5, lockDue]

/-- One user's stakes pass the safe integers, and the sum is rounded. -/
private def hugeStakeRun : List PoolOperation :=
  [rainPool .usdc none, bet .usdc "a" "ann" "yes" 9007199254740991, bet .usdc "b" "ann" "no" 2,
    lockDue]

/-- A run ends in a locked pool that throws at a valid resolution. -/
private def StuckOn (ops : List PoolOperation) (outcome : ResolutionOutcome) (stale : Bool) :
    Prop :=
  ∃ snapshot, (performAll ops ⟨none, 0⟩).stored = some snapshot ∧
    snapshot.pool.status = .locked ∧ snapshot.pool.marketId = "rain" ∧
      ∀ result, applyRouterResolution (JavaScript.reference .double)
        (rainIntake snapshot (rainAnswer outcome stale)) ≠ .ok result

private theorem stuckOn_of_check {ops : List PoolOperation} {outcome : ResolutionOutcome}
    {stale : Bool}
    (h : (performAll ops ⟨none, 0⟩).stored.any (fun snapshot =>
      decide (snapshot.pool.status = .locked) && decide (snapshot.pool.marketId = "rain") &&
        (applyRouterResolution (JavaScript.reference .double)
          (rainIntake snapshot (rainAnswer outcome stale))).toOption.isNone) = true) :
    StuckOn ops outcome stale := by
  cases hstored : (performAll ops ⟨none, 0⟩).stored with
  | none => simp [hstored] at h
  | some snapshot =>
    rw [hstored] at h
    simp only [Option.any_some, Bool.and_eq_true, decide_eq_true_eq] at h
    refine ⟨snapshot, hstored, h.1.1, h.1.2, fun result hresult => ?_⟩
    rw [hresult] at h
    simp [Except.toOption] at h

theorem resolution_throws :
    (¬∀ (state : PoolRun) (input : ResolutionIntakeInput),
      state.ReachableBy (JavaScript.reference .double)
        (fun state op => op.Admissible state ∧ op.Enters) →
      state.stored = some input.snapshot → input.snapshot.pool.status = .locked →
      input.Valid (JavaScript.reference .double) →
      ∃ result, applyRouterResolution (JavaScript.reference .double) input = .ok result) ∧
    StuckOn undatedRun .pending true ∧ StuckOn hugeSideRun (.side .yes) false ∧
      StuckOn hugeStakeRun .invalid false := by
  have hundated : StuckOn undatedRun .pending true := stuckOn_of_check (by decide +kernel)
  refine ⟨fun h => ?_, hundated, stuckOn_of_check (by decide +kernel),
    stuckOn_of_check (by decide +kernel)⟩
  have hreachable : (performAll undatedRun ⟨none, 0⟩).ReachableBy (JavaScript.reference .double)
      fun state op => op.Admissible state ∧ op.Enters := by
    refine reachableBy_performAll .start fun op hop state => ?_
    simp only [undatedRun, List.mem_cons, List.not_mem_nil, or_false] at hop
    rcases hop with rfl | rfl | rfl | rfl
    · exact ⟨trivial, trivial⟩
    · exact ⟨⟨by decide, fun hnone => absurd hnone (by decide)⟩, trivial⟩
    · exact ⟨⟨by decide, fun hnone => absurd hnone (by decide)⟩, trivial⟩
    · exact ⟨trivial, trivial⟩
  obtain ⟨snapshot, hstored, hlocked, hmarket, hthrows⟩ := hundated
  obtain ⟨result, hresult⟩ := h _ (rainIntake snapshot (rainAnswer .pending true)) hreachable
    hstored hlocked (valid_rainIntake _ _ hmarket)
  exact hthrows result hresult

end Yevow.DotCast
