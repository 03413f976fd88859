import Yevow.Models.DotCast.Pool.Inversion
import Yevow.Models.DotCast.Pool.Stakes

/-!
# The invariant of a stored pool

Four parts of a snapshot are updated separately: the side totals, the entries, the users'
balances and the house ledger. The invariant ties them together. Each operation keeps it
wherever the sums it stores are exact.
-/

namespace Yevow.DotCast

open JavaScript (Runtime Returned)

/-- Everything put into a pool: a fixed seed for every user, or the reserved amounts. -/
def seededTotal (snapshot : PoolSnapshot) (reserved : ℤ) : ℤ :=
  match snapshot.pool.unit with
  | .points => defaultPointsBalance * snapshot.balances.keys.card
  | .usdc => reserved

/-- The books of a pool agree. -/
structure PoolInvariant (snapshot : PoolSnapshot) (reserved : ℤ) : Prop where
  totals : ∀ side, snapshot.pool.pools.get side = stakedOn snapshot.entries side
  ids : (snapshot.entries.map Entry.id).Nodup
  stakes : ∀ e ∈ snapshot.entries, e.funding = .user ∧ 0 < e.amount
  owners : ∀ userId balance, snapshot.balances.lookup userId = some balance →
    balance.userId = userId ∧ balance.unit = snapshot.pool.unit
  nonneg : ∀ userId balance, snapshot.balances.lookup userId = some balance →
    0 ≤ balance.available ∧ 0 ≤ balance.locked
  funded : ∀ e ∈ snapshot.entries, ∃ balance, snapshot.balances.lookup e.userId = some balance
  locked_active : ¬snapshot.pool.status.Terminal → ∀ userId balance,
    snapshot.balances.lookup userId = some balance →
    balance.locked = stakeOf snapshot.entries userId
  locked_terminal : snapshot.pool.status.Terminal → ∀ userId balance,
    snapshot.balances.lookup userId = some balance → balance.locked = 0
  conserved : heldTotal snapshot.balances +
    (snapshot.houseLedger.map HouseLedgerEntry.amount).sum = seededTotal snapshot reserved
  settled_iff : snapshot.pool.status = .settled ↔ snapshot.settlement.isSome
  settled : ∀ record, snapshot.settlement = some record →
    record.payoutTotal + record.rakeAmount = record.totalStaked ∧
      ∀ e ∈ snapshot.entries, e.payout.isSome ∧ e.refunded = false
  voided_iff : snapshot.pool.status = .voided ↔ snapshot.voidReason.isSome
  voided : snapshot.pool.status = .voided →
    ∀ e ∈ snapshot.entries, e.refunded = true ∧ e.payout = none
  active : ¬snapshot.pool.status.Terminal →
    ∀ e ∈ snapshot.entries, e.payout = none ∧ e.refunded = false
  rake : ∃ r, snapshot.pool.rake = .finite r ∧ 0 ≤ r ∧ r ≤ 1

variable {js : Runtime} {snapshot : PoolSnapshot} {reserved : ℤ}

/-! ## Creation -/

theorem createPoolFromMarket_eq_ok {input : CreatePoolInput} {pool : Pool}
    (h : createPoolFromMarket js input = .ok pool) :
    pool.status = .open ∧ pool.pools = ⟨0, 0⟩ ∧ pool.unit = input.unit ∧
      pool.expectedResolveAt = input.market.expectedResolveAt ∧
      (∃ ms, js.dateParse pool.entryClosesAt = some ms) ∧
      ∃ r, pool.rake = .finite r ∧ 0 ≤ r ∧ r ≤ 1 := by
  obtain ⟨_, -, h₁⟩ := Except.bind_eq_ok.mp h
  obtain ⟨_, -, h₂⟩ := Except.bind_eq_ok.mp h₁
  obtain ⟨_, -, h₃⟩ := Except.bind_eq_ok.mp h₂
  obtain ⟨_, -, h₄⟩ := Except.bind_eq_ok.mp h₃
  obtain ⟨_, -, h₅⟩ := Except.bind_eq_ok.mp h₄
  obtain ⟨_, hcloses, h₆⟩ := Except.bind_eq_ok.mp h₅
  obtain ⟨_, -, h₇⟩ := Except.bind_eq_ok.mp h₆
  obtain ⟨_, -, h₈⟩ := Except.bind_eq_ok.mp h₇
  obtain ⟨_, -, h₉⟩ := Except.bind_eq_ok.mp h₈
  obtain ⟨_, hrake, h₁₀⟩ := Except.bind_eq_ok.mp h₉
  obtain ⟨_, -, hout⟩ := Except.bind_eq_ok.mp h₁₀
  obtain rfl := Except.ok.inj hout
  refine ⟨rfl, rfl, rfl, rfl, ⟨_, assertIso_eq_ok.mp hcloses⟩, ?_⟩
  show ∃ r, input.rake = .finite r ∧ 0 ≤ r ∧ r ≤ 1
  cases hr : input.rake with
  | finite r =>
    rw [hr, assertRake, Except.throwIf_eq_ok] at hrake
    push Not at hrake
    exact ⟨r, rfl, hrake.1, hrake.2⟩
  | infinite negative => simp [hr, assertRake] at hrake
  | nan => simp [hr, assertRake] at hrake

/-- A pool starts with nothing in it. -/
theorem PoolInvariant.created {payload : CreatePoolPayload} {now : String}
    (h : planCreation js payload now = .ok snapshot) : PoolInvariant snapshot 0 := by
  obtain ⟨pool, hpool, hout⟩ := Except.bind_eq_ok.mp h
  obtain rfl := Except.ok.inj hout
  obtain ⟨hopen, hzero, -, -, -, hrake⟩ := createPoolFromMarket_eq_ok hpool
  have hactive : ¬pool.status.Terminal := by simp [hopen, PoolStatus.Terminal]
  constructor
  · intro side
    cases side <;> simp [createdSnapshot, hzero, SideTotals.get, stakedOn]
  · simp [createdSnapshot]
  · simp [createdSnapshot]
  · simp [createdSnapshot]
  · simp [createdSnapshot]
  · simp [createdSnapshot]
  · simp [createdSnapshot]
  · simp [createdSnapshot]
  · cases hunit : pool.unit <;> simp [createdSnapshot, heldTotal, seededTotal, hunit]
  · simp [createdSnapshot, hopen]
  · simp [createdSnapshot]
  · simp [createdSnapshot, hopen]
  · simp [createdSnapshot]
  · simp [createdSnapshot]
  · exact hrake

/-! ## Placing an entry -/

/-- What an accepted placement adds to the reserved amounts. -/
def reservedBy (funding : Option SettlementFunding) : ℤ :=
  funding.elim 0 SettlementFunding.reservedAmount

/-- The sums a placement stores are exact. -/
structure ExactPlacement (js : Runtime) (snapshot : PoolSnapshot) (result : PlaceEntryResult)
    (funding : Option SettlementFunding) (current : StakeBalance) : Prop where
  funded : fundedBalance js current funding =
    { current with available := current.available + reservedBy funding }
  available : js.arithmetic.integer
      (current.available + reservedBy funding - result.entry.amount) =
    current.available + reservedBy funding - result.entry.amount
  locked : js.arithmetic.integer (current.locked + result.entry.amount) =
    current.locked + result.entry.amount
  side : js.arithmetic.integer
      (snapshot.pool.pools.get result.entry.side + result.entry.amount) =
    snapshot.pool.pools.get result.entry.side + result.entry.amount

theorem ExactPlacement.of_exact (hA : js.arithmetic.Exact) (result : PlaceEntryResult)
    (funding : Option SettlementFunding) (current : StakeBalance) :
    ExactPlacement js snapshot result funding current := by
  refine ⟨?_, hA _, hA _, hA _⟩
  cases funding with
  | none => simp [fundedBalance, reservedBy]
  | some f => simp [fundedBalance, reservedBy, hA _]

/-- The balance a placement starts from: the stored one, or a fresh seed for a new user. -/
theorem currentBalance_cases {balances : Balances} {userId : String} {unit : StakeUnit}
    (hne : userId ≠ "") (huser : (currentBalance balances userId unit).userId = userId) :
    balances.lookup userId = some (currentBalance balances userId unit) ∨
      (balances.lookup userId = none ∧
        currentBalance balances userId unit = seedBalance userId unit) := by
  unfold currentBalance at *
  cases hlookup : balances.lookup userId with
  | some balance => exact Or.inl rfl
  | none =>
    rw [hlookup] at huser
    simp only at huser ⊢
    split_ifs at huser ⊢ with hinherited
    · exact absurd huser.symm hne
    · exact Or.inr ⟨trivial, rfl⟩

/-- The ids of a snapshot that finds no existing entry do not hold a non-empty one. -/
theorem existingEntry_eq_none {entryId freshId : String} {chosen : Option String}
    (hnone : existingEntry snapshot chosen = none) (hne : chosen ≠ some "")
    (hfresh : chosen = none → freshId ∉ snapshot.entries.map Entry.id)
    (hid : entryId = chosen.getD freshId) : entryId ∉ snapshot.entries.map Entry.id := by
  subst hid
  cases chosen with
  | none => exact hfresh rfl
  | some given =>
    have hgiven : given ≠ "" := fun h => hne (congrArg some h)
    simp only [existingEntry, if_neg hgiven, List.find?_eq_none, decide_eq_true_eq] at hnone
    rintro hmem
    obtain ⟨e, he, heq⟩ := List.mem_map.mp hmem
    exact hnone e he heq

section Placement

variable {payload : PlaceEntryPayload} {now freshId : String} {result : PlaceEntryResult}
  {funding : Option SettlementFunding}

/-- The placed entry's user holds what was there, plus the reservation, minus nothing. -/
private theorem placed_balance
    (ha : AcceptedPlacement js payload now freshId snapshot result funding)
    (hx : ExactPlacement js snapshot result funding
      (currentBalance snapshot.balances result.entry.userId snapshot.pool.unit)) :
    result.balance = ⟨result.entry.userId, snapshot.pool.unit,
      (currentBalance snapshot.balances result.entry.userId snapshot.pool.unit).available +
        reservedBy funding - result.entry.amount,
      (currentBalance snapshot.balances result.entry.userId snapshot.pool.unit).locked +
        result.entry.amount⟩ := by
  rw [ha.balance_eq _ rfl, hx.funded]
  simp only [hx.available, hx.locked, ha.current_user, ha.current_unit]

private theorem placed_available_nonneg
    (ha : AcceptedPlacement js payload now freshId snapshot result funding)
    (hx : ExactPlacement js snapshot result funding
      (currentBalance snapshot.balances result.entry.userId snapshot.pool.unit)) :
    0 ≤ result.balance.available := by
  have hfunds := ha.sufficient
  rw [hx.funded] at hfunds
  rw [placed_balance ha hx]
  show 0 ≤ _ - result.entry.amount
  simp only at hfunds
  omega

private theorem placed_locked (h : PoolInvariant snapshot reserved)
    (ha : AcceptedPlacement js payload now freshId snapshot result funding)
    (hx : ExactPlacement js snapshot result funding
      (currentBalance snapshot.balances result.entry.userId snapshot.pool.unit)) :
    result.balance.locked = stakeOf (snapshot.entries ++ [result.entry]) result.entry.userId := by
  have hactive : ¬snapshot.pool.status.Terminal := by
    simp [ha.status_open, PoolStatus.Terminal]
  rw [placed_balance ha hx, stakeOf_append, if_pos rfl]
  show _ + result.entry.amount = _
  congr 1
  rcases currentBalance_cases ha.userId_ne ha.current_user with hlookup | ⟨hlookup, hseed⟩
  · exact h.locked_active hactive _ _ hlookup
  · rw [hseed, stakeOf_eq_zero]
    · rfl
    · intro e he heq
      obtain ⟨balance, hbalance⟩ := h.funded e he
      rw [heq, hlookup] at hbalance
      exact absurd hbalance (by simp)

private theorem placed_conserved (h : PoolInvariant snapshot reserved)
    (ha : AcceptedPlacement js payload now freshId snapshot result funding)
    (hx : ExactPlacement js snapshot result funding
      (currentBalance snapshot.balances result.entry.userId snapshot.pool.unit)) :
    heldTotal (snapshot.balances.insert result.entry.userId result.balance) +
        (snapshot.houseLedger.map HouseLedgerEntry.amount).sum =
      seededTotal (placedSnapshot snapshot result result.entry.userId now)
        (reserved + reservedBy funding) := by
  have hconserved := h.conserved
  have hunit : result.pool.unit = snapshot.pool.unit := by rw [ha.pool_eq]
  have hpoints : snapshot.pool.unit = .points → reservedBy funding = 0 := fun hp => by
    rw [ha.funding_points (by simp [hp])]
    rfl
  simp only [seededTotal, placedSnapshot, hunit] at hconserved ⊢
  rcases currentBalance_cases ha.userId_ne ha.current_user with hlookup | ⟨hlookup, hseed⟩
  · have hinsert := Table.total_insert_of_lookup
      (fun (_ : String) (b : StakeBalance) => b.available + b.locked) hlookup result.balance
    rw [Table.keys_insert_of_lookup hlookup]
    rw [placed_balance ha hx] at hinsert ⊢
    simp only [heldTotal] at *
    cases hu : snapshot.pool.unit with
    | points =>
      have := hpoints hu
      simp only [hu] at hconserved hinsert ⊢
      linarith
    | usdc =>
      simp only [hu] at hconserved hinsert ⊢
      linarith
  · have hinsert := Table.total_insert_of_lookup_none
      (fun (_ : String) (b : StakeBalance) => b.available + b.locked) hlookup result.balance
    rw [Table.card_keys_insert hlookup]
    rw [placed_balance ha hx, hseed] at hinsert ⊢
    simp only [heldTotal] at *
    cases hu : snapshot.pool.unit with
    | points =>
      have := hpoints hu
      simp only [hu, seedBalance, if_true] at hconserved hinsert ⊢
      push_cast
      linarith
    | usdc =>
      simp only [hu, seedBalance, reduceCtorEq, if_false] at hconserved hinsert ⊢
      linarith

/-- An accepted placement whose sums are exact keeps the invariant. -/
theorem PoolInvariant.placed (h : PoolInvariant snapshot reserved)
    (ha : AcceptedPlacement js payload now freshId snapshot result funding)
    (hx : ExactPlacement js snapshot result funding
      (currentBalance snapshot.balances result.entry.userId snapshot.pool.unit))
    (hid : result.entry.id ∉ snapshot.entries.map Entry.id) :
    PoolInvariant (placedSnapshot snapshot result result.entry.userId now)
      (reserved + reservedBy funding) := by
  have hopen := ha.status_open
  have hactive : ¬snapshot.pool.status.Terminal := by simp [hopen, PoolStatus.Terminal]
  have hstatus : result.pool.status = .open := by rw [ha.pool_eq]; exact hopen
  have hnotSettled : snapshot.settlement.isSome ↔ False := by
    rw [← h.settled_iff, hopen]
    simp
  have hnotVoided : snapshot.voidReason.isSome ↔ False := by
    rw [← h.voided_iff, hopen]
    simp
  have hnotTerminal : ¬result.pool.status.Terminal := by simp [hstatus, PoolStatus.Terminal]
  constructor
  · intro side
    have := h.totals side
    simp only [placedSnapshot, stakedOn_append, ha.pool_eq, hx.side]
    by_cases hs : result.entry.side = side
    · subst hs
      rw [SideTotals.get_set_self, if_pos rfl, this]
    · rw [SideTotals.get_set_of_ne _ (Ne.symm hs), if_neg hs, this, add_zero]
  · simp only [placedSnapshot, List.map_append, List.map_cons, List.map_nil]
    rw [List.nodup_append]
    refine ⟨h.ids, by simp, ?_⟩
    rintro a ha' b hb rfl
    rw [List.mem_singleton] at hb
    exact hid (hb ▸ ha')
  · intro e he
    rcases List.mem_append.mp he with he | he
    · exact h.stakes e he
    · rw [List.mem_singleton] at he
      subst he
      exact ⟨by rw [ha.entry_eq], ha.amount_pos⟩
  · intro userId balance hlookup
    have hunit : result.pool.unit = snapshot.pool.unit := by rw [ha.pool_eq]
    simp only [placedSnapshot, Table.lookup_insert] at hlookup ⊢
    split_ifs at hlookup with hu
    · obtain rfl := Option.some.inj hlookup
      rw [placed_balance ha hx, hu, hunit]
      exact ⟨rfl, rfl⟩
    · rw [hunit]
      exact h.owners userId balance hlookup
  · intro userId balance hlookup
    simp only [placedSnapshot, Table.lookup_insert] at hlookup
    split_ifs at hlookup with hu
    · obtain rfl := Option.some.inj hlookup
      refine ⟨placed_available_nonneg ha hx, ?_⟩
      rw [placed_locked h ha hx]
      refine userTotal_nonneg (fun e he => ?_) _
      rcases List.mem_append.mp he with he | he
      · exact (h.stakes e he).2.le
      · rw [List.mem_singleton] at he
        exact he ▸ ha.amount_pos.le
    · exact h.nonneg userId balance hlookup
  · intro e he
    simp only [placedSnapshot, Table.lookup_insert]
    split_ifs with hu
    · exact ⟨_, rfl⟩
    · rcases List.mem_append.mp he with he | he
      · exact h.funded e he
      · rw [List.mem_singleton] at he
        exact absurd (congrArg Entry.userId he) hu
  · intro _ userId balance hlookup
    simp only [placedSnapshot, Table.lookup_insert] at hlookup ⊢
    split_ifs at hlookup with hu
    · obtain rfl := Option.some.inj hlookup
      rw [hu]
      exact placed_locked h ha hx
    · rw [stakeOf_append, if_neg (Ne.symm hu), add_zero]
      exact h.locked_active hactive userId balance hlookup
  · exact fun hterminal => absurd hterminal hnotTerminal
  · exact placed_conserved h ha hx
  · simp only [placedSnapshot, hstatus, hnotSettled]
    simp
  · intro record hrecord
    have : snapshot.settlement.isSome := by
      rw [show snapshot.settlement = some record from hrecord]
      rfl
    exact absurd this hnotSettled.mp
  · simp only [placedSnapshot, hstatus, hnotVoided]
    simp
  · intro hvoided
    exact absurd (Or.inr hvoided) hnotTerminal
  · intro _ e he
    rcases List.mem_append.mp he with he | he
    · exact h.active hactive e he
    · rw [List.mem_singleton] at he
      subst he
      rw [ha.entry_eq]
      exact ⟨rfl, rfl⟩
  · simp only [placedSnapshot, ha.pool_eq]
    exact h.rake

end Placement

end Yevow.DotCast
