import Yevow.Models.DotCast.Parimutuel.Progress
import Yevow.Models.DotCast.Pool.Machine

/-!
# Pools that can always be resolved

A resolution throws where it meets a date it cannot parse, a side total it does not accept,
or a locked balance that rounding has made too small. A pool without these is resolvable,
and every operation that brings none of them in keeps it so.
-/

namespace Yevow.DotCast

open Arithmetic (maxSafeInteger)
open Except (throwIf)
open JavaScript (Runtime Returned)

/-- The accounts of a pool whose entries can be paid or refunded: no sum was rounded. -/
structure ActiveAccounts (js : Runtime) (snapshot : PoolSnapshot) : Prop where
  ids : (snapshot.entries.map Entry.id).Nodup
  stakes : ∀ e ∈ snapshot.entries, e.funding = .user ∧ 0 < e.amount ∧ e.refunded = false
  sides : ∀ side, stakedOn snapshot.entries side ≤ maxSafeInteger
  users : ∀ userId, stakeOf snapshot.entries userId ≤ maxSafeInteger
  balances : ∀ userId balance, snapshot.balances.lookup userId = some balance →
    0 ≤ balance.available ∧ balance.locked = stakeOf snapshot.entries userId
  funded : ∀ e ∈ snapshot.entries, ∃ balance, snapshot.balances.lookup e.userId = some balance
  rake : ∃ r, snapshot.pool.rake = .finite r ∧ 0 ≤ r ∧ r ≤ 1
  closes : ∃ ms, js.dateParse snapshot.pool.entryClosesAt = some ms
  resolves : ∀ text, snapshot.pool.expectedResolveAt = some text → text ≠ "" →
    ∃ ms, js.dateParse text = some ms

/-- The pool has ended, or its accounts are in order. -/
def Resolvable (js : Runtime) (snapshot : PoolSnapshot) : Prop :=
  snapshot.pool.status.Terminal ∨ ActiveAccounts js snapshot

variable {js : Runtime} {snapshot : PoolSnapshot}

/-! ## Releasing returns -/

private theorem releaseStake_returns {balances : Balances} {entry : Entry} {credit : ℤ}
    {balance : StakeBalance} (hlookup : balances.lookup entry.userId = some balance)
    (havailable : 0 ≤ balance.available) (hcredit : 0 ≤ credit) (hamount : 0 < entry.amount)
    (hlocked : entry.amount ≤ balance.locked) (hmax : balance.locked ≤ maxSafeInteger) :
    releaseStake js balances entry credit = .ok (balances.insert entry.userId { balance with
      available := js.arithmetic.integer (balance.available + credit)
      locked := balance.locked - entry.amount }) := by
  have hstored : js.arithmetic.integer (balance.locked - entry.amount) =
      balance.locked - entry.amount := js.arithmetic.integer_of_le (by omega) (by omega)
  have hnonneg : 0 ≤ js.arithmetic.integer (balance.available + credit) :=
    js.arithmetic.integer_nonneg (by omega)
  have hcheck : ¬(js.arithmetic.integer (balance.available + credit) < 0 ∨
      balance.locked - entry.amount < 0) := by
    omega
  simp only [releaseStake, requireBalance, hlookup, if_neg (not_lt.mpr hlocked), Except.bind_ok,
    hstored, assertNonNegativeBalance, Except.throwIf_of_not _ hcheck, Except.pure_eq_ok]

/-- The loop over the entries returns while every user's lock covers what is left to release. -/
theorem mapEntries_returns {body : Balances → Entry → Except String (Entry × Balances)}
    {credit : Entry → ℤ} {mark : Entry → Entry} {entries : List Entry} {balances : Balances}
    (hbody : Releases js body credit mark entries) (hcredit : ∀ e ∈ entries, 0 ≤ credit e)
    (hamount : ∀ e ∈ entries, 0 < e.amount)
    (hmax : ∀ userId, stakeOf entries userId ≤ maxSafeInteger)
    (hbalances : ∀ userId balance, balances.lookup userId = some balance →
      0 ≤ balance.available ∧ balance.locked = stakeOf entries userId)
    (hfunded : ∀ e ∈ entries, ∃ balance, balances.lookup e.userId = some balance) :
    ∃ result, mapEntries body balances entries = .ok result := by
  induction entries generalizing balances with
  | nil => exact ⟨_, rfl⟩
  | cons entry rest ih =>
    have hentry := hamount entry (List.mem_cons_self ..)
    have hrest : ∀ e ∈ rest, 0 < e.amount := fun e he => hamount e (List.mem_cons_of_mem entry he)
    obtain ⟨balance, hlookup⟩ := hfunded entry (List.mem_cons_self ..)
    obtain ⟨havailable, hlocked⟩ := hbalances entry.userId balance hlookup
    have hleft := userTotal_nonneg (fun e he => (hrest e he).le) entry.userId
    have hmaxEntry := hmax entry.userId
    rw [stakeOf_cons, if_pos rfl] at hlocked hmaxEntry
    have hcover : entry.amount ≤ balance.locked := by
      rw [hlocked, stakeOf]
      omega
    have hrelease := @releaseStake_returns js _ _ _ _ hlookup havailable
      (hcredit entry (List.mem_cons_self ..)) hentry hcover (hlocked.trans_le hmaxEntry)
    obtain ⟨⟨rest', final⟩, hresult⟩ : ∃ result, mapEntries body (balances.insert entry.userId
        { balance with
          available := js.arithmetic.integer (balance.available + credit entry)
          locked := balance.locked - entry.amount }) rest = .ok result := by
      refine ih (fun b e he => hbody b e (List.mem_cons_of_mem entry he))
        (fun e he => hcredit e (List.mem_cons_of_mem entry he)) hrest ?_ ?_ ?_
      · intro userId
        have hall := hmax userId
        rw [stakeOf_cons] at hall
        split_ifs at hall <;> omega
      · intro userId b hb
        rw [Table.lookup_insert] at hb
        split_ifs at hb with hsame
        · obtain rfl := Option.some.inj hb
          have hcreditEntry := hcredit entry (List.mem_cons_self ..)
          rw [hsame]
          exact ⟨js.arithmetic.integer_nonneg (by omega), by rw [hlocked]; ring⟩
        · obtain ⟨hb₀, hstake⟩ := hbalances userId b hb
          rw [stakeOf_cons, if_neg (Ne.symm hsame), zero_add] at hstake
          exact ⟨hb₀, hstake⟩
      · intro e he
        rw [Table.lookup_insert]
        split_ifs
        · exact ⟨_, rfl⟩
        · exact hfunded e (List.mem_cons_of_mem entry he)
    rw [mapEntries, hbody balances entry (List.mem_cons_self ..), hrelease]
    simp only [Except.bind_ok, Except.pure_eq_ok, hresult]
    exact ⟨_, rfl⟩

/-! ## The operations return -/

namespace ActiveAccounts

private theorem withPool (h : ActiveAccounts js snapshot) (status : PoolStatus) :
    ActiveAccounts js { snapshot with pool := { snapshot.pool with status := status } } :=
  ⟨h.ids, h.stakes, h.sides, h.users, h.balances, h.funded, h.rake, h.closes, h.resolves⟩

private theorem refunds (h : ActiveAccounts js snapshot) :
    ∃ result, mapEntries (refundEntry js) snapshot.balances snapshot.entries = .ok result :=
  mapEntries_returns
    (releases_refundEntry (fun e he => (h.stakes e he).1) fun e he => (h.stakes e he).2.2)
    (fun e he => (h.stakes e he).2.1.le) (fun e he => (h.stakes e he).2.1) h.users h.balances
    h.funded

end ActiveAccounts

private theorem transitionPool_returns {pool : Pool} {status : PoolStatus} {now : String}
    (hnow : ∃ ms, js.dateParse now = some ms) (hlegal : status ∈ legalTransitions pool.status)
    (hstatus : status ≠ .locked) (outcome : Option PoolOutcome) :
    ∃ next, transitionPool js pool status now outcome = .ok next := by
  obtain ⟨ms, hms⟩ := hnow
  have hiso : assertIso js now "now" = .ok ms := assertIso_eq_ok.mpr hms
  simp only [transitionPool, hiso, Except.bind_ok, hlegal, not_true, Except.throwIf, if_false,
    assertLockable, hstatus, and_false, Except.pure_eq_ok]
  exact ⟨_, rfl⟩

private theorem voidPoolSnapshot_returns (h : Resolvable js snapshot) {now : String}
    (hnow : ∃ ms, js.dateParse now = some ms) (hstatus : snapshot.pool.status ≠ .settled)
    (reason : VoidReason) (outcome : Option PoolOutcome) :
    ∃ next, voidPoolSnapshot js snapshot reason now outcome = .ok next := by
  unfold voidPoolSnapshot
  split_ifs with hvoided
  · exact ⟨snapshot, rfl⟩
  · have haccounts : ActiveAccounts js snapshot := by
      rcases h with (hterminal | hterminal) | haccounts
      · exact absurd hterminal hstatus
      · exact absurd hterminal hvoided
      · exact haccounts
    obtain ⟨⟨entries, balances⟩, hloop⟩ := haccounts.refunds
    have hlegal : PoolStatus.voided ∈ legalTransitions snapshot.pool.status := by
      cases hs : snapshot.pool.status <;> simp_all [legalTransitions]
    obtain ⟨pool, hpool⟩ := transitionPool_returns hnow hlegal (by simp) outcome
    simp only [hloop, hpool, Except.bind_ok, Except.pure_eq_ok]
    exact ⟨_, rfl⟩

private theorem payoutOf_of_lookup {payouts : List SettlementPayout} {entry : Entry}
    {p : SettlementPayout}
    (hlookup : (Table.ofList SettlementPayout.entryId id payouts).lookup entry.id = some p) :
    payoutOf payouts entry = p.payout := by
  rw [payoutOf, hlookup]
  rfl

private theorem releases_paysEvery {entries : List Entry} {payouts : List SettlementPayout}
    {unit : StakeUnit} (huser : ∀ e ∈ entries, e.funding = .user)
    (hpays : PaysEvery (entries.map toSettlementEntry) payouts) :
    Releases js (settleEntry js (Table.ofList SettlementPayout.entryId id payouts) unit)
      (payoutOf payouts) (paidOut payouts) entries := by
  intro balances e he
  obtain ⟨p, hlookup, -⟩ := hpays (toSettlementEntry e) (List.mem_map.mpr ⟨e, he, rfl⟩)
  change (Table.ofList SettlementPayout.entryId id payouts).lookup e.id = some p at hlookup
  simp only [settleEntry, hlookup, huser e he, paidOut, payoutOf_of_lookup hlookup]

namespace ActiveAccounts

private theorem pays (h : ActiveAccounts js snapshot) {payouts : List SettlementPayout}
    (hpays : PaysEvery (snapshot.entries.map toSettlementEntry) payouts) (unit : StakeUnit) :
    ∃ result, mapEntries (settleEntry js (Table.ofList SettlementPayout.entryId id payouts) unit)
      snapshot.balances snapshot.entries = .ok result := by
  refine mapEntries_returns (releases_paysEvery (fun e he => (h.stakes e he).1) hpays)
    (fun e he => ?_) (fun e he => (h.stakes e he).2.1) h.users h.balances h.funded
  obtain ⟨p, hlookup, hnonneg⟩ := hpays (toSettlementEntry e) (List.mem_map.mpr ⟨e, he, rfl⟩)
  rw [payoutOf_of_lookup hlookup]
  exact hnonneg

private theorem lock_returns (h : ActiveAccounts js snapshot) {now : String}
    (hnow : ∃ ms, js.dateParse now = some ms) :
    ∃ returned, lockSnapshotIfNeeded js snapshot now = .ok returned := by
  obtain ⟨nowMs, hnowMs⟩ := hnow
  obtain ⟨closesMs, hcloses⟩ := h.closes
  have hnowIso : assertIso js now "now" = .ok nowMs := assertIso_eq_ok.mpr hnowMs
  have hclosesIso : assertIso js snapshot.pool.entryClosesAt "entryClosesAt" = .ok closesMs :=
    assertIso_eq_ok.mpr hcloses
  simp only [lockSnapshotIfNeeded, lockPoolIfNeeded, hnowIso, hclosesIso, Except.bind_ok]
  split_ifs with hkeep
  · exact ⟨_, rfl⟩
  · push Not at hkeep
    obtain ⟨hopen, hdue⟩ := hkeep
    have hlocked : ∃ pool, transitionPool js snapshot.pool .locked now snapshot.pool.outcome =
        .ok pool := by
      simp only [transitionPool, hnowIso, Except.bind_ok, hopen, legalTransitions, assertLockable,
        hclosesIso, Except.throwIf_of_not _ (not_lt.mpr hdue)]
      exact ⟨_, rfl⟩
    obtain ⟨pool, hpool⟩ := hlocked
    simp only [hpool, Except.bind_ok, Except.pure_eq_ok]
    cases lockVoidReason js pool with
    | none => exact ⟨_, rfl⟩
    | some reason =>
      obtain ⟨next, hvoid⟩ := voidPoolSnapshot_returns (Or.inr h) ⟨nowMs, hnowMs⟩
        (by simp [hopen]) reason snapshot.pool.outcome
      simp only [hvoid, Except.bind_ok]
      exact ⟨_, rfl⟩

private theorem settle_returns (h : ActiveAccounts js snapshot) {now : String}
    (hnow : ∃ ms, js.dateParse now = some ms)
    (hstatus : snapshot.pool.status = .locked ∨ snapshot.pool.status = .resolving)
    (outcome : PoolOutcome) : ∃ next, settlePoolSnapshot js snapshot outcome now = .ok next := by
  have hactive : ¬snapshot.pool.status.Terminal := by
    rcases hstatus with hs | hs <;> simp [hs, PoolStatus.Terminal]
  unfold settlePoolSnapshot
  rw [if_neg hactive]
  cases outcome with
  | invalid =>
    exact voidPoolSnapshot_returns (Or.inr h) hnow (fun hs => hactive (Or.inl hs)) _ _
  | side side =>
    obtain ⟨pool, hpool⟩ : ∃ pool, startResolving js snapshot.pool now = .ok pool := by
      unfold startResolving
      split_ifs with hlocked
      · exact transitionPool_returns hnow (by simp [hlocked, legalTransitions]) (by simp) _
      · exact ⟨_, rfl⟩
    have hresolving := startResolving_eq_ok hstatus hpool
    obtain ⟨r, hrake, hr₀, hr₁⟩ := h.rake
    have hids : ((snapshot.entries.map toSettlementEntry).map SettlementEntry.id).Nodup := by
      rw [List.map_map]
      exact h.ids
    have hpos : ∀ e ∈ snapshot.entries.map toSettlementEntry, 0 < e.amount := by
      intro e he
      obtain ⟨e', he', rfl⟩ := List.mem_map.mp he
      exact (h.stakes e' he').2.1
    obtain ⟨settlement, hsettle, hpays⟩ := @settleParimutuel_of_safe js _ side r hids hpos
      (fun s => (sideStake_map_toSettlementEntry _ s).trans_le (h.sides s)) hr₀ hr₁
    rw [← hrake] at hsettle
    have hguard : ¬(snapshot.pool.status ≠ .locked ∧ snapshot.pool.status ≠ .resolving) := by
      rintro ⟨hlocked, hnot⟩
      exact hstatus.elim hlocked hnot
    simp only [Except.throwIf_of_not _ hguard, hpool, Except.bind_ok, hresolving, hsettle]
    cases settlement with
    | voidRequired refused =>
      exact voidPoolSnapshot_returns (Or.inr (h.withPool .resolving)) hnow (by simp) _ _
    | settled result =>
      obtain ⟨⟨entries, balances⟩, hloop⟩ := h.pays (hpays result rfl) snapshot.pool.unit
      obtain ⟨settled, hsettled⟩ : ∃ settled, transitionPool js
          { snapshot.pool with status := .resolving } .settled now (some (.side side)) =
            .ok settled :=
        transitionPool_returns hnow (by simp [legalTransitions]) (by simp) _
      simp only [settledSnapshot, hloop, hsettled, Except.bind_ok, Except.pure_eq_ok]
      exact ⟨_, rfl⟩

end ActiveAccounts

/-! ## Resolutions return -/

/-- A resolution as the router and the request parser deliver it: for the pool's market, with
dates that parse. -/
structure ResolutionIntakeInput.Valid (js : Runtime) (input : ResolutionIntakeInput) : Prop where
  market : input.resolution.marketId = input.snapshot.pool.marketId
  now : ∃ ms, js.dateParse input.now = some ms
  fetchedAt : ∃ ms, js.dateParse input.resolution.fetchedAt = some ms
  resolvedAt : ∀ text, input.resolution.resolvedAt = some text →
    ∃ ms, js.dateParse text = some ms
  maxGraceMs : ∀ ms, input.maxGraceMs = some ms → js.arithmetic.isSafeInteger ms = true ∧ 0 ≤ ms

private theorem holdOrTimeOut_returns (h : ActiveAccounts js snapshot)
    (hactive : ¬snapshot.pool.status.Terminal) {now : String}
    (hnow : ∃ ms, js.dateParse now = some ms) (reason : ResolutionIntakeReason)
    (nowMs maxGraceMs : ℤ) :
    ∃ result, holdOrTimeOut js snapshot reason now nowMs maxGraceMs = .ok result := by
  obtain ⟨past, hpast⟩ : ∃ past, isPastResolutionGrace js snapshot.pool nowMs maxGraceMs =
      .ok past := by
    unfold isPastResolutionGrace
    cases hexpected : snapshot.pool.expectedResolveAt with
    | none => exact ⟨_, rfl⟩
    | some text =>
      dsimp only
      split_ifs with hempty
      · exact ⟨_, rfl⟩
      · obtain ⟨ms, hms⟩ := h.resolves text hexpected hempty
        have hiso : assertIso js text "expectedResolveAt" = .ok ms := assertIso_eq_ok.mpr hms
        simp only [hiso, Except.bind_ok]
        exact ⟨_, rfl⟩
  unfold holdOrTimeOut
  rw [hpast, Except.bind_ok]
  cases past with
  | false => exact ⟨_, rfl⟩
  | true =>
    obtain ⟨next, hvoid⟩ := voidPoolSnapshot_returns (Or.inr h) hnow
      (fun hs => hactive (Or.inl hs)) .graceTimeout snapshot.pool.outcome
    rw [if_pos rfl, hvoid, Except.bind_ok]
    exact ⟨_, rfl⟩

private theorem resolveLockedSnapshot_returns (h : ActiveAccounts js snapshot)
    (hstatus : snapshot.pool.status = .locked ∨ snapshot.pool.status = .resolving)
    {now : String} (hnow : ∃ ms, js.dateParse now = some ms) (resolution : RouterResolution)
    (nowMs maxGraceMs : ℤ) :
    ∃ result, resolveLockedSnapshot js snapshot resolution now nowMs maxGraceMs = .ok result := by
  have hactive : ¬snapshot.pool.status.Terminal := by
    rcases hstatus with hs | hs <;> simp [hs, PoolStatus.Terminal]
  unfold resolveLockedSnapshot
  split_ifs with hstale
  · exact holdOrTimeOut_returns h hactive hnow _ _ _
  · cases resolution.outcome with
    | pending => exact holdOrTimeOut_returns h hactive hnow _ _ _
    | invalid =>
      obtain ⟨next, hsettle⟩ := h.settle_returns hnow hstatus .invalid
      simp only [hsettle, Except.bind_ok]
      exact ⟨_, rfl⟩
    | side side =>
      obtain ⟨next, hsettle⟩ := h.settle_returns hnow hstatus (.side side)
      simp only [hsettle, Except.bind_ok]
      exact ⟨_, rfl⟩

/-- The four steps of a resolution keep a pool resolvable. -/
theorem preservedBySteps_resolvable : PreservedBySteps js (Resolvable js) where
  withResolution resolution now h := h.imp id fun h =>
    ⟨h.ids, h.stakes, h.sides, h.users, h.balances, h.funded, h.rake, h.closes, h.resolves⟩
  lock {s now r} h hlock := by
    rcases lockSnapshotIfNeeded_eq_ok hlock with hsame | ⟨hopen, -, hlocked⟩ | ⟨-, reason, hvoid⟩
    · rw [hsame]
      exact h
    · rw [hlocked]
      have haccounts := (h.resolve_left (by simp [hopen, PoolStatus.Terminal])).withPool .locked
      exact Or.inr ⟨haccounts.ids, haccounts.stakes, haccounts.sides, haccounts.users,
        haccounts.balances, haccounts.funded, haccounts.rake, haccounts.closes,
        haccounts.resolves⟩
    · rcases voidPoolSnapshot_eq_ok hvoid with ⟨-, hsame⟩ | ⟨-, entries, balances, -, hnext⟩
      · rw [hsame]
        exact h
      · rw [hnext]
        exact Or.inl (Or.inr rfl)
  void h hvoid := by
    rcases voidPoolSnapshot_eq_ok hvoid with ⟨-, rfl⟩ | ⟨-, entries, balances, -, rfl⟩
    · exact h
    · exact Or.inl (Or.inr rfl)
  settle h hsettle := by
    rcases settlePoolSnapshot_eq_ok hsettle with ⟨-, rfl⟩ | ⟨-, hactive, hvoid⟩ |
      ⟨side, pool, settlement, -, hstatus, rfl, -, ⟨refused, -, hvoid⟩ | ⟨result, -, hdivide⟩⟩
    · exact h
    · rcases voidPoolSnapshot_eq_ok hvoid with ⟨-, rfl⟩ | ⟨-, entries, balances, -, rfl⟩
      · exact h
      · exact Or.inl (Or.inr rfl)
    · rcases voidPoolSnapshot_eq_ok hvoid with ⟨hvoided, -⟩ | ⟨-, entries, balances, -, rfl⟩
      · simp at hvoided
      · exact Or.inl (Or.inr rfl)
    · obtain ⟨entries, balances, -, rfl⟩ := settledSnapshot_eq_ok hdivide
      exact Or.inl (Or.inl rfl)

/-- A resolvable pool accepts every valid resolution. -/
theorem Resolvable.applyRouterResolution_returns {input : ResolutionIntakeInput}
    (h : Resolvable js input.snapshot) (hvalid : input.Valid js) :
    ∃ result, applyRouterResolution js input = .ok result := by
  obtain ⟨nowMs, hnow⟩ := hvalid.now
  obtain ⟨fetchedMs, hfetched⟩ := hvalid.fetchedAt
  have hnowIso : assertIso js input.now "now" = .ok nowMs := assertIso_eq_ok.mpr hnow
  have hfetchedIso : assertIso js input.resolution.fetchedAt "resolution.fetchedAt" =
      .ok fetchedMs := assertIso_eq_ok.mpr hfetched
  have hresolved : assertOptionalIso js input.resolution.resolvedAt "resolution.resolvedAt" =
      .ok () := by
    cases hat : input.resolution.resolvedAt with
    | none => rfl
    | some text =>
      obtain ⟨ms, hms⟩ := hvalid.resolvedAt text hat
      have hiso : assertIso js text "resolution.resolvedAt" = .ok ms := assertIso_eq_ok.mpr hms
      simp only [assertOptionalIso, hiso, Except.bind_ok, Except.pure_eq_ok]
  have hgrace : ¬(js.arithmetic.isSafeInteger (input.maxGraceMs.getD defaultResolutionMaxGraceMs) =
      false ∨ input.maxGraceMs.getD defaultResolutionMaxGraceMs < 0) := by
    have hsafe : js.arithmetic.isSafeInteger
        (input.maxGraceMs.getD defaultResolutionMaxGraceMs) = true ∧
          0 ≤ input.maxGraceMs.getD defaultResolutionMaxGraceMs := by
      cases hms : input.maxGraceMs with
      | none => exact ⟨js.arithmetic.safe_of_le (by decide) (by decide), by decide⟩
      | some ms => exact hvalid.maxGraceMs ms hms
    rintro (hrefused | hneg)
    · simp [hsafe.1] at hrefused
    · omega
  have hmarket : ¬(withResolution input.snapshot input.resolution input.now).pool.marketId ≠
      input.resolution.marketId := by
    rw [hvalid.market, not_not]
    rfl
  have hnormalized := preservedBySteps_resolvable.withResolution input.resolution input.now h
  simp only [applyRouterResolution, hnowIso, hfetchedIso, hresolved, Except.bind_ok,
    Except.throwIf_of_not _ hgrace, Except.throwIf_of_not _ hmarket]
  split_ifs with hterminal
  · exact ⟨_, rfl⟩
  · have haccounts := hnormalized.resolve_left hterminal
    obtain ⟨returned, hlock⟩ := haccounts.lock_returns ⟨nowMs, hnow⟩
    have hlocked := preservedBySteps_resolvable.lock hnormalized hlock
    rw [hlock, Except.bind_ok]
    split_ifs with hvoided hheld
    · exact ⟨_, rfl⟩
    · exact ⟨_, rfl⟩
    · have hstatus : (returned.value (withResolution input.snapshot input.resolution
          input.now)).pool.status = .locked ∨ (returned.value (withResolution input.snapshot
          input.resolution input.now)).pool.status = .resolving := by
        by_contra hno
        push Not at hno
        exact hheld hno
      refine resolveLockedSnapshot_returns (hlocked.resolve_left ?_) hstatus ⟨nowMs, hnow⟩ _ _ _
      rcases hstatus with hs | hs <;> simp [hs, PoolStatus.Terminal]

end Yevow.DotCast
