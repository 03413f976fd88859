import Yevow.Models.DotCast.Pool.Requests

/-!
# What each operation on a snapshot can do

Every operation either throws or takes one of a few shapes. These lemmas name the shapes,
so that later proofs never unfold an operation again.
-/

namespace Yevow.DotCast

open JavaScript (Runtime Returned)

variable {js : Runtime}

theorem assertIso_eq_ok {value label : String} {ms : ℤ} :
    assertIso js value label = .ok ms ↔ js.dateParse value = some ms := by
  unfold assertIso
  cases js.dateParse value <;> simp

/-- A transition that goes through is legal and changes the status fields alone. -/
theorem transitionPool_eq_ok {pool next : Pool} {status : PoolStatus} {now : String}
    {outcome : Option PoolOutcome} (h : transitionPool js pool status now outcome = .ok next) :
    status ∈ legalTransitions pool.status ∧
      next = { pool with
        status := status
        outcome := if status.Terminal then outcome else pool.outcome
        settledAt := if status.Terminal then some now else pool.settledAt } := by
  obtain ⟨nowMs, -, hlegal⟩ := Except.bind_eq_ok.mp h
  obtain ⟨_, hguard, hrest⟩ := Except.bind_eq_ok.mp hlegal
  rw [Except.throwIf_eq_ok, not_not] at hguard
  obtain ⟨_, -, hout⟩ := Except.bind_eq_ok.mp hrest
  exact ⟨hguard, (Except.ok.inj hout).symm⟩

/-- Locking leaves a pool alone or moves it from open to locked. -/
theorem lockPoolIfNeeded_eq_fresh {pool next : Pool} {now : String}
    (h : lockPoolIfNeeded js pool now = .ok (.fresh next)) :
    pool.status = .open ∧ next = { pool with status := .locked } := by
  obtain ⟨nowMs, -, hrest⟩ := Except.bind_eq_ok.mp h
  obtain ⟨closesMs, -, hrun⟩ := Except.bind_eq_ok.mp hrest
  split_ifs at hrun with hskip
  · simp at hrun
  · obtain ⟨locked, htransition, hout⟩ := Except.bind_eq_ok.mp hrun
    have hlocked : locked = next := by simpa using hout
    subst hlocked
    push Not at hskip
    obtain ⟨-, rfl⟩ := transitionPool_eq_ok htransition
    exact ⟨hskip.1, by simp [PoolStatus.Terminal]⟩

/-- A void leaves a voided pool alone and refuses a settled one; otherwise it refunds. -/
theorem voidPoolSnapshot_eq_ok {snapshot next : PoolSnapshot} {reason : VoidReason}
    {now : String} {outcome : Option PoolOutcome}
    (h : voidPoolSnapshot js snapshot reason now outcome = .ok next) :
    (snapshot.pool.status = .voided ∧ next = snapshot) ∨
      (¬snapshot.pool.status.Terminal ∧ ∃ entries balances,
        mapEntries (refundEntry js) snapshot.balances snapshot.entries =
          .ok (entries, balances) ∧
        next = { snapshot with
          pool := { snapshot.pool with
            status := .voided
            outcome := outcome
            settledAt := some now }
          entries := entries
          balances := balances
          settlement := none
          voidReason := some reason
          updatedAt := now }) := by
  unfold voidPoolSnapshot at h
  split_ifs at h with hvoided hsettled
  · exact Or.inl ⟨hvoided, (Except.ok.inj h).symm⟩
  · obtain ⟨⟨entries, balances⟩, hloop, hrest⟩ := Except.bind_eq_ok.mp h
    obtain ⟨pool, htransition, hout⟩ := Except.bind_eq_ok.mp hrest
    obtain ⟨-, rfl⟩ := transitionPool_eq_ok htransition
    refine Or.inr ⟨?_, entries, balances, hloop, ?_⟩
    · rintro (h' | h')
      · exact hsettled h'
      · exact hvoided h'
    · simpa [PoolStatus.Terminal, eq_comm] using hout

/-- Locking a snapshot keeps it, locks its pool, or voids it. -/
theorem lockSnapshotIfNeeded_eq_ok {snapshot : PoolSnapshot} {now : String}
    {returned : Returned PoolSnapshot}
    (h : lockSnapshotIfNeeded js snapshot now = .ok returned) :
    returned.value snapshot = snapshot ∨
      (snapshot.pool.status = .open ∧ lockVoidReason js { snapshot.pool with status := .locked } =
          none ∧
        returned.value snapshot =
          { snapshot with pool := { snapshot.pool with status := .locked }, updatedAt := now }) ∨
      (snapshot.pool.status = .open ∧ ∃ reason, voidPoolSnapshot js snapshot reason now
        snapshot.pool.outcome = .ok (returned.value snapshot)) := by
  obtain ⟨lock, hlock, hrest⟩ := Except.bind_eq_ok.mp h
  cases lock with
  | same =>
    obtain rfl := Except.ok.inj hrest
    exact Or.inl rfl
  | fresh pool =>
    obtain ⟨hopen, rfl⟩ := lockPoolIfNeeded_eq_fresh hlock
    simp only at hrest
    cases hreason : lockVoidReason js { snapshot.pool with status := .locked } with
    | none =>
      rw [hreason] at hrest
      obtain rfl := Except.ok.inj hrest
      exact Or.inr (Or.inl ⟨hopen, rfl, rfl⟩)
    | some reason =>
      rw [hreason] at hrest
      obtain ⟨next, hvoid, hout⟩ := Except.bind_eq_ok.mp hrest
      obtain rfl := Except.ok.inj hout
      exact Or.inr (Or.inr ⟨hopen, reason, hvoid⟩)

/-- A division of the pool that goes through. -/
theorem settledSnapshot_eq_ok {snapshot next : PoolSnapshot} {pool : Pool} {outcome : Side}
    {result : SettledParimutuelResult} {now : String}
    (h : settledSnapshot js snapshot pool outcome result now = .ok next) :
    ∃ entries balances,
      mapEntries (settleEntry js (Table.ofList SettlementPayout.entryId id result.payouts)
        snapshot.pool.unit) snapshot.balances snapshot.entries = .ok (entries, balances) ∧
      next = {
        pool := { pool with
          status := .settled
          outcome := some (.side outcome)
          settledAt := some now }
        entries := entries
        balances := balances
        houseLedger := if result.rakeAmount > 0 then
            snapshot.houseLedger ++ [houseRakeEntry js snapshot.pool result.rakeAmount now]
          else snapshot.houseLedger
        settlement := some (settlementRecord js snapshot.pool outcome result now)
        voidReason := none
        lastResolution := snapshot.lastResolution
        updatedAt := now } := by
  obtain ⟨⟨entries, balances⟩, hloop, hrest⟩ := Except.bind_eq_ok.mp h
  obtain ⟨settled, htransition, hout⟩ := Except.bind_eq_ok.mp hrest
  obtain ⟨-, rfl⟩ := transitionPool_eq_ok htransition
  exact ⟨entries, balances, hloop, by simpa [PoolStatus.Terminal, eq_comm] using hout⟩

theorem startResolving_eq_ok {pool next : Pool} {now : String}
    (hstatus : pool.status = .locked ∨ pool.status = .resolving)
    (h : startResolving js pool now = .ok next) : next = { pool with status := .resolving } := by
  unfold startResolving at h
  split_ifs at h with hlocked
  · obtain ⟨-, rfl⟩ := transitionPool_eq_ok h
    simp [PoolStatus.Terminal]
  · obtain rfl := Except.ok.inj h
    rw [← hstatus.resolve_left hlocked]

/-- Settling leaves a terminal pool alone; otherwise it voids or divides the pool. -/
theorem settlePoolSnapshot_eq_ok {snapshot next : PoolSnapshot} {outcome : PoolOutcome}
    {now : String} (h : settlePoolSnapshot js snapshot outcome now = .ok next) :
    (snapshot.pool.status.Terminal ∧ next = snapshot) ∨
      (outcome = .invalid ∧ ¬snapshot.pool.status.Terminal ∧
        voidPoolSnapshot js snapshot .invalidResolution now (some .invalid) = .ok next) ∨
      ∃ side pool settlement, outcome = .side side ∧
        (snapshot.pool.status = .locked ∨ snapshot.pool.status = .resolving) ∧
        pool = { snapshot.pool with status := .resolving } ∧
        settleParimutuel js (snapshot.entries.map toSettlementEntry) side snapshot.pool.rake =
          .ok settlement ∧
        ((∃ refused, settlement = .voidRequired refused ∧
            voidPoolSnapshot js { snapshot with pool := pool } .noWinningEntries now
              snapshot.pool.outcome = .ok next) ∨
          ∃ result, settlement = .settled result ∧
            settledSnapshot js snapshot pool side result now = .ok next) := by
  unfold settlePoolSnapshot at h
  split_ifs at h with hterminal
  · exact Or.inl ⟨hterminal, (Except.ok.inj h).symm⟩
  · cases outcome with
    | invalid => exact Or.inr (Or.inl ⟨rfl, hterminal, h⟩)
    | side side =>
      obtain ⟨_, hguard, hrest⟩ := Except.bind_eq_ok.mp h
      rw [Except.throwIf_eq_ok] at hguard
      have hstatus : snapshot.pool.status = .locked ∨ snapshot.pool.status = .resolving := by
        by_contra hno
        push Not at hno
        exact hguard hno
      obtain ⟨resolving, hresolving, hrun⟩ := Except.bind_eq_ok.mp hrest
      obtain rfl := startResolving_eq_ok hstatus hresolving
      obtain ⟨settlement, hsettle, hout⟩ := Except.bind_eq_ok.mp hrun
      refine Or.inr (Or.inr ⟨side, _, settlement, rfl, hstatus, rfl, hsettle, ?_⟩)
      cases settlement with
      | voidRequired refused => exact Or.inl ⟨refused, rfl, hout⟩
      | settled result => exact Or.inr ⟨result, rfl, hout⟩

/-! ## Placements -/

/-- What a placement that adds an entry has checked and computed. -/
structure AcceptedPlacement (js : Runtime) (payload : PlaceEntryPayload) (now freshId : String)
    (snapshot : PoolSnapshot) (result : PlaceEntryResult) (funding : Option SettlementFunding) :
    Prop where
  user_parsed : parseUserId payload.userId = .ok result.entry.userId
  side_parsed : parseSide payload.side = .ok result.entry.side
  amount_parsed : parseAmount js payload.amount = .ok result.entry.amount
  status_open : snapshot.pool.status = .open
  userId_ne : result.entry.userId ≠ ""
  amount_pos : 0 < result.entry.amount
  amount_safe : js.arithmetic.isSafeInteger result.entry.amount = true
  not_existing : existingEntry snapshot payload.entryId = none
  funding_points : snapshot.pool.unit ≠ .usdc → funding = none
  funding_usdc : snapshot.pool.unit = .usdc →
    ∃ f, funding = some f ∧ f.reservedAmount = result.entry.amount
  current_user : (currentBalance snapshot.balances result.entry.userId
    snapshot.pool.unit).userId = result.entry.userId
  current_unit : (currentBalance snapshot.balances result.entry.userId
    snapshot.pool.unit).unit = snapshot.pool.unit
  sufficient : result.entry.amount ≤ (fundedBalance js (currentBalance snapshot.balances
    result.entry.userId snapshot.pool.unit) funding).available
  entry_eq : result.entry = {
    id := payload.entryId.getD freshId
    poolId := snapshot.pool.id
    userId := result.entry.userId
    side := result.entry.side
    amount := result.entry.amount
    funding := .user
    placedAt := now
    payout := none
    refunded := false }
  pool_eq : result.pool = { snapshot.pool with
    pools := snapshot.pool.pools.set result.entry.side
      (js.arithmetic.integer (snapshot.pool.pools.get result.entry.side + result.entry.amount)) }
  balance_eq : ∀ funded, funded = fundedBalance js (currentBalance snapshot.balances
      result.entry.userId snapshot.pool.unit) funding →
    result.balance = { funded with
      available := js.arithmetic.integer (funded.available - result.entry.amount)
      locked := js.arithmetic.integer (funded.locked + result.entry.amount) }

private theorem parseRequiredString_eq_ok {value : JavaScript.Value} {label text : String}
    (h : parseRequiredString value label = .ok text) : text ≠ "" := by
  cases value with
  | string s =>
    simp only [parseRequiredString] at h
    split_ifs at h with hblank
    obtain rfl := Except.ok.inj h
    exact hblank
  | _ => simp [parseRequiredString] at h

private theorem parseAmount_eq_ok {value : JavaScript.Value} {amount : ℤ}
    (h : parseAmount js value = .ok amount) :
    0 < amount ∧ js.arithmetic.isSafeInteger amount = true := by
  cases value with
  | number n =>
    simp only [parseAmount] at h
    cases hsafe : JavaScript.safeInteger? js.arithmetic n with
    | none => simp [hsafe] at h
    | some v =>
      simp only [hsafe] at h
      split_ifs at h with hpos
      obtain rfl := Except.ok.inj h
      exact ⟨not_le.mp hpos, JavaScript.isSafeInteger_of_safeInteger? hsafe⟩
  | _ => simp [parseAmount] at h

/-- In a points pool nothing is reserved, in a usdc pool exactly the amount is. -/
theorem parseSettlementFunding_eq_ok {value : Option SettlementFundingPayload} {unit : StakeUnit}
    {amount : ℤ} {funding : Option SettlementFunding}
    (h : parseSettlementFunding js value unit amount = .ok funding) :
    (unit ≠ .usdc → funding = none) ∧
      (unit = .usdc → ∃ f, funding = some f ∧ f.reservedAmount = amount) := by
  unfold parseSettlementFunding at h
  split_ifs at h with hunit
  · obtain rfl := Except.ok.inj h
    exact ⟨fun _ => rfl, fun h' => absurd h' hunit⟩
  · refine ⟨fun h' => absurd h' hunit, fun _ => ?_⟩
    cases value with
    | none => simp at h
    | some payload =>
      obtain ⟨rail, -, h₁⟩ := Except.bind_eq_ok.mp h
      obtain ⟨lockId, -, h₂⟩ := Except.bind_eq_ok.mp h₁
      obtain ⟨reserved, -, h₃⟩ := Except.bind_eq_ok.mp h₂
      obtain ⟨_, -, h₄⟩ := Except.bind_eq_ok.mp h₃
      obtain ⟨_, hequal, h₅⟩ := Except.bind_eq_ok.mp h₄
      rw [Except.throwIf_eq_ok, not_not] at hequal
      exact ⟨_, (Except.ok.inj h₅).symm, hequal⟩

/-- The checks an accepted entry has passed. -/
theorem placeEntry_eq_ok {input : PlaceEntryInput} {result : PlaceEntryResult}
    (h : placeEntry js input = .ok result) :
    input.pool.status = .open ∧ input.balance.userId = input.userId ∧
      input.balance.unit = input.pool.unit ∧ input.amount ≤ input.balance.available ∧
      result = {
        pool := { input.pool with
          pools := input.pool.pools.set input.side
            (js.arithmetic.integer (input.pool.pools.get input.side + input.amount)) }
        entry := {
          id := input.entryId.getD (deriveEntryId js input.pool.id input.userId input.now)
          poolId := input.pool.id
          userId := input.userId
          side := input.side
          amount := input.amount
          funding := .user
          placedAt := input.now
          payout := none
          refunded := false }
        balance := { input.balance with
          available := js.arithmetic.integer (input.balance.available - input.amount)
          locked := js.arithmetic.integer (input.balance.locked + input.amount) } } := by
  obtain ⟨nowMs, -, h₁⟩ := Except.bind_eq_ok.mp h
  obtain ⟨opensMs, -, h₂⟩ := Except.bind_eq_ok.mp h₁
  obtain ⟨closesMs, -, h₃⟩ := Except.bind_eq_ok.mp h₂
  obtain ⟨_, hopen, h₄⟩ := Except.bind_eq_ok.mp h₃
  obtain ⟨_, -, h₅⟩ := Except.bind_eq_ok.mp h₄
  obtain ⟨_, -, h₆⟩ := Except.bind_eq_ok.mp h₅
  obtain ⟨_, huser, h₇⟩ := Except.bind_eq_ok.mp h₆
  obtain ⟨_, hunit, h₈⟩ := Except.bind_eq_ok.mp h₇
  obtain ⟨_, -, h₉⟩ := Except.bind_eq_ok.mp h₈
  obtain ⟨_, hfunds, hout⟩ := Except.bind_eq_ok.mp h₉
  rw [Except.throwIf_eq_ok] at hopen huser hunit hfunds
  exact ⟨not_not.mp hopen, not_not.mp huser, not_not.mp hunit, not_lt.mp hfunds,
    (Except.ok.inj hout).symm⟩

@[simp] theorem fundedBalance_userId (balance : StakeBalance)
    (funding : Option SettlementFunding) :
    (fundedBalance js balance funding).userId = balance.userId := by
  cases funding <;> rfl

@[simp] theorem fundedBalance_unit (balance : StakeBalance)
    (funding : Option SettlementFunding) :
    (fundedBalance js balance funding).unit = balance.unit := by
  cases funding <;> rfl

@[simp] theorem fundedBalance_locked (balance : StakeBalance)
    (funding : Option SettlementFunding) :
    (fundedBalance js balance funding).locked = balance.locked := by
  cases funding <;> rfl

/-- A placement that adds an entry passed every check and then locked what was due. -/
theorem planPlacement_eq_placed {payload : PlaceEntryPayload} {now freshId : String}
    {snapshot next : PoolSnapshot} {result : PlaceEntryResult}
    {funding : Option SettlementFunding}
    (h : planPlacement js payload now freshId snapshot = .ok (.placed result funding next)) :
    AcceptedPlacement js payload now freshId snapshot result funding ∧
      ∃ returned, lockSnapshotIfNeeded js
          (placedSnapshot snapshot result result.entry.userId now) now = .ok returned ∧
        next = returned.value (placedSnapshot snapshot result result.entry.userId now) := by
  obtain ⟨userId, huser, h₁⟩ := Except.bind_eq_ok.mp h
  obtain ⟨side, hside, h₂⟩ := Except.bind_eq_ok.mp h₁
  obtain ⟨amount, hamount, h₃⟩ := Except.bind_eq_ok.mp h₂
  obtain ⟨parsed, hfunding, h₄⟩ := Except.bind_eq_ok.mp h₃
  obtain ⟨hpos, hsafe⟩ := parseAmount_eq_ok hamount
  obtain ⟨hpoints, husdc⟩ := parseSettlementFunding_eq_ok hfunding
  cases hexisting : existingEntry snapshot payload.entryId with
  | some entry =>
    rw [hexisting] at h₄
    simp at h₄
  | none =>
    rw [hexisting] at h₄
    obtain ⟨placed, hplace, h₅⟩ := Except.bind_eq_ok.mp h₄
    obtain ⟨returned, hlock, hout⟩ := Except.bind_eq_ok.mp h₅
    obtain ⟨hopen, huserEq, hunit, hfunds, rfl⟩ := placeEntry_eq_ok hplace
    obtain ⟨rfl, rfl, rfl⟩ := Placement.placed.inj (Except.ok.inj hout)
    rw [fundedBalance_userId] at huserEq
    rw [fundedBalance_unit] at hunit
    exact ⟨⟨huser, hside, hamount, hopen, parseRequiredString_eq_ok huser, hpos, hsafe, hexisting,
      hpoints, husdc, huserEq, hunit, hfunds, rfl, rfl, fun funded hfunded => by rw [hfunded]⟩,
      returned, hlock, rfl⟩

/-! ## Resolutions -/

/-- A property of snapshots that the four steps a resolution is made of preserve. -/
structure PreservedBySteps (js : Runtime) (P : PoolSnapshot → Prop) : Prop where
  withResolution : ∀ {s} resolution now, P s → P (withResolution s resolution now)
  lock : ∀ {s now r}, P s → lockSnapshotIfNeeded js s now = .ok r → P (r.value s)
  void : ∀ {s s' reason now outcome}, P s → voidPoolSnapshot js s reason now outcome = .ok s' → P s'
  settle : ∀ {s s' outcome now}, P s → settlePoolSnapshot js s outcome now = .ok s' → P s'

namespace PreservedBySteps

variable {P : PoolSnapshot → Prop}

private theorem holdOrTimeOut (hP : PreservedBySteps js P) {s : PoolSnapshot}
    {reason : ResolutionIntakeReason} {now : String} {nowMs maxGraceMs : ℤ}
    {result : ResolutionIntakeResult} (hs : P s)
    (h : holdOrTimeOut js s reason now nowMs maxGraceMs = .ok result) : P result.snapshot := by
  obtain ⟨past, -, hrest⟩ := Except.bind_eq_ok.mp h
  cases past with
  | true =>
    obtain ⟨next, hvoid, hout⟩ := Except.bind_eq_ok.mp hrest
    obtain rfl := Except.ok.inj hout
    exact hP.void hs hvoid
  | false =>
    obtain rfl := Except.ok.inj hrest
    exact hs

private theorem resolveLocked (hP : PreservedBySteps js P) {s : PoolSnapshot}
    {resolution : RouterResolution} {now : String} {nowMs maxGraceMs : ℤ}
    {result : ResolutionIntakeResult} (hs : P s)
    (h : resolveLockedSnapshot js s resolution now nowMs maxGraceMs = .ok result) :
    P result.snapshot := by
  unfold resolveLockedSnapshot at h
  split_ifs at h with hstale
  · exact hP.holdOrTimeOut hs h
  · cases houtcome : resolution.outcome with
    | pending =>
      rw [houtcome] at h
      exact hP.holdOrTimeOut hs h
    | invalid =>
      rw [houtcome] at h
      obtain ⟨next, hsettle, hout⟩ := Except.bind_eq_ok.mp h
      obtain rfl := Except.ok.inj hout
      exact hP.settle hs hsettle
    | side side =>
      rw [houtcome] at h
      obtain ⟨next, hsettle, hout⟩ := Except.bind_eq_ok.mp h
      obtain rfl := Except.ok.inj hout
      exact hP.settle hs hsettle

/-- What the steps preserve, applying a resolution preserves. -/
theorem applyResolution (hP : PreservedBySteps js P) {input : ResolutionIntakeInput}
    {result : ResolutionIntakeResult} (hs : P input.snapshot)
    (h : applyRouterResolution js input = .ok result) : P result.snapshot := by
  obtain ⟨nowMs, -, h₁⟩ := Except.bind_eq_ok.mp h
  obtain ⟨_, -, h₂⟩ := Except.bind_eq_ok.mp h₁
  obtain ⟨_, -, h₃⟩ := Except.bind_eq_ok.mp h₂
  obtain ⟨_, -, h₄⟩ := Except.bind_eq_ok.mp h₃
  obtain ⟨_, -, h₅⟩ := Except.bind_eq_ok.mp h₄
  have hnormalized := hP.withResolution input.resolution input.now hs
  simp only at h₅
  split_ifs at h₅ with hterminal
  · obtain rfl := Except.ok.inj h₅
    exact hnormalized
  · obtain ⟨returned, hlock, h₆⟩ := Except.bind_eq_ok.mp h₅
    have hlocked := hP.lock hnormalized hlock
    split_ifs at h₆ with hvoided hheld
    · obtain rfl := Except.ok.inj h₆
      exact hlocked
    · obtain rfl := Except.ok.inj h₆
      exact hlocked
    · exact hP.resolveLocked hlocked h₆

end PreservedBySteps

end Yevow.DotCast
