import Yevow.Models.DotCast.Pool.Preservation

/-!
# Runs of a pool

A pool as a state machine over its stored snapshot. An operation that throws stores nothing;
one that returns stores the snapshot its handler computed.
-/

namespace Yevow.DotCast

open JavaScript (Runtime)

/-- What is asked of a pool. -/
inductive PoolOperation
  | create (payload : CreatePoolPayload) (now : String)
  | placeEntry (payload : PlaceEntryPayload) (now freshId : String)
  | lock (now : String)
  | settle (payload : SettlePoolPayload) (now : String)
  | applyResolution (payload : RouterResolutionPayload) (now : String)
  | void (payload : VoidPoolPayload) (now : String)

/-- The pool must be stored. -/
def requireSnapshot (stored : Option PoolSnapshot) : Except String PoolSnapshot :=
  match stored with
  | some snapshot => .ok snapshot
  | none => .error "pool has not been created"

/-- What is stored after a placement. -/
def Placement.stored (snapshot : PoolSnapshot) : Placement → PoolSnapshot
  | .duplicate _ _ => snapshot
  | .placed _ _ next => next

/-- What a placement reserved on its entry's behalf. -/
def Placement.reserved : Placement → ℤ
  | .duplicate _ _ => 0
  | .placed _ funding _ => reservedBy funding

/-- A stored pool together with the amounts reserved for its entries so far. -/
structure PoolRun where
  stored : Option PoolSnapshot
  reserved : ℤ

/-- One operation that returns. -/
def PoolOperation.run (js : Runtime) (state : PoolRun) : PoolOperation → Except String PoolRun
  | .create payload now =>
    match state.stored with
    | some _ => .ok state
    | none => do
      let snapshot ← planCreation js payload now
      return { state with stored := some snapshot }
  | .placeEntry payload now freshId => do
    let snapshot ← requireSnapshot state.stored
    let placement ← planPlacement js payload now freshId snapshot
    return ⟨some (placement.stored snapshot), state.reserved + placement.reserved⟩
  | .lock now => do
    let snapshot ← requireSnapshot state.stored
    let returned ← lockSnapshotIfNeeded js snapshot now
    return { state with stored := some (returned.value snapshot) }
  | .settle payload now => do
    let snapshot ← requireSnapshot state.stored
    let next ← planSettlement js payload now snapshot
    return { state with stored := some next }
  | .applyResolution payload now => do
    let snapshot ← requireSnapshot state.stored
    let result ← planResolution js payload now snapshot
    return { state with stored := some result.snapshot }
  | .void payload now => do
    let snapshot ← requireSnapshot state.stored
    let next ← planVoid js payload now snapshot
    return { state with stored := some next }

/-- One operation, whether it returns or throws. -/
def PoolOperation.perform (js : Runtime) (state : PoolRun) (op : PoolOperation) : PoolRun :=
  match op.run js state with
  | .ok next => next
  | .error _ => state

/-- An entry id is absent or not empty, and an id made up for an absent one is new. -/
def PoolOperation.Admissible (state : PoolRun) : PoolOperation → Prop
  | .placeEntry payload _ freshId => payload.entryId ≠ some "" ∧
      (payload.entryId = none → ∀ snapshot, state.stored = some snapshot →
        freshId ∉ snapshot.entries.map Entry.id)
  | _ => True

/-- The states of a pool reachable by operations in any order. -/
inductive PoolRun.Reachable (js : Runtime) : PoolRun → Prop
  | start : Reachable js ⟨none, 0⟩
  | step {state next : PoolRun} {op : PoolOperation} : Reachable js state →
      op.Admissible state → op.run js state = .ok next → Reachable js next

variable {js : Runtime}

theorem requireSnapshot_eq_ok {stored : Option PoolSnapshot} {snapshot : PoolSnapshot}
    (h : requireSnapshot stored = .ok snapshot) : stored = some snapshot := by
  cases stored with
  | none => simp [requireSnapshot] at h
  | some s =>
    obtain rfl := Except.ok.inj h
    rfl

private theorem PoolRun.Reachable.perform {state : PoolRun} (h : state.Reachable js)
    {op : PoolOperation}
    (hop : op.Admissible state) : (op.perform js state).Reachable js := by
  unfold PoolOperation.perform
  cases hrun : op.run js state with
  | ok next => exact .step h hop hrun
  | error e => exact h

/-- The invariant of a run: nothing is stored yet, or what is stored is in order. -/
def PoolRun.Sound (state : PoolRun) : Prop :=
  (state.stored = none → state.reserved = 0) ∧
    ∀ snapshot, state.stored = some snapshot → PoolInvariant snapshot state.reserved

private theorem sound_some {snapshot : PoolSnapshot} {reserved : ℤ}
    (h : PoolInvariant snapshot reserved) : PoolRun.Sound ⟨some snapshot, reserved⟩ := by
  constructor
  · simp
  · rintro s ⟨⟩
    exact h

/-- A placement keeps the invariant. -/
theorem PoolInvariant.planPlacement (hA : js.arithmetic.Exact) {snapshot : PoolSnapshot}
    {reserved : ℤ} (h : PoolInvariant snapshot reserved) {payload : PlaceEntryPayload}
    {now freshId : String} {placement : Placement} (hne : payload.entryId ≠ some "")
    (hfresh : payload.entryId = none → freshId ∉ snapshot.entries.map Entry.id)
    (hplan : planPlacement js payload now freshId snapshot = .ok placement) :
    PoolInvariant (placement.stored snapshot) (reserved + placement.reserved) := by
  cases placement with
  | duplicate entry balance => simpa [Placement.stored, Placement.reserved] using h
  | placed result funding next =>
    obtain ⟨haccepted, returned, hlock, rfl⟩ := planPlacement_eq_placed hplan
    have hid : result.entry.id ∉ snapshot.entries.map Entry.id := by
      refine existingEntry_eq_none haccepted.not_existing hne hfresh ?_
      rw [haccepted.entry_eq]
    exact (h.placed haccepted (.of_exact hA _ _ _) hid).lock hA hlock

/-- One operation keeps the invariant. -/
theorem PoolRun.Sound.run (hA : js.arithmetic.Exact) {state next : PoolRun} {op : PoolOperation}
    (hs : state.Sound) (hop : op.Admissible state) (h : op.run js state = .ok next) :
    next.Sound := by
  cases op with
  | create payload now =>
    unfold PoolOperation.run at h
    cases hstored : state.stored with
    | some snapshot =>
      simp only [hstored] at h
      obtain rfl := Except.ok.inj h
      exact hs
    | none =>
      simp only [hstored] at h
      obtain ⟨snapshot, hplan, hout⟩ := Except.bind_eq_ok.mp h
      obtain rfl := Except.ok.inj hout
      rw [hs.1 hstored]
      exact sound_some (.created hplan)
  | placeEntry payload now freshId =>
    obtain ⟨snapshot, hsnapshot, hrest⟩ := Except.bind_eq_ok.mp h
    obtain ⟨placement, hplan, hout⟩ := Except.bind_eq_ok.mp hrest
    obtain rfl := Except.ok.inj hout
    have hstored := requireSnapshot_eq_ok hsnapshot
    exact sound_some ((hs.2 snapshot hstored).planPlacement hA hop.1
      (fun hnone => hop.2 hnone snapshot hstored) hplan)
  | lock now =>
    obtain ⟨snapshot, hsnapshot, hrest⟩ := Except.bind_eq_ok.mp h
    obtain ⟨returned, hlock, hout⟩ := Except.bind_eq_ok.mp hrest
    obtain rfl := Except.ok.inj hout
    exact sound_some ((hs.2 snapshot (requireSnapshot_eq_ok hsnapshot)).lock hA hlock)
  | settle payload now =>
    obtain ⟨snapshot, hsnapshot, hrest⟩ := Except.bind_eq_ok.mp h
    obtain ⟨settled, hplan, hout⟩ := Except.bind_eq_ok.mp hrest
    obtain rfl := Except.ok.inj hout
    obtain ⟨outcome, -, hsettle⟩ := Except.bind_eq_ok.mp hplan
    exact sound_some ((hs.2 snapshot (requireSnapshot_eq_ok hsnapshot)).settle hA hsettle)
  | applyResolution payload now =>
    obtain ⟨snapshot, hsnapshot, hrest⟩ := Except.bind_eq_ok.mp h
    obtain ⟨result, hplan, hout⟩ := Except.bind_eq_ok.mp hrest
    obtain rfl := Except.ok.inj hout
    obtain ⟨resolution, -, hparsed⟩ := Except.bind_eq_ok.mp hplan
    obtain ⟨maxGraceMs, -, happly⟩ := Except.bind_eq_ok.mp hparsed
    exact sound_some ((preservedBySteps_invariant hA state.reserved).applyResolution
      (hs.2 snapshot (requireSnapshot_eq_ok hsnapshot)) happly)
  | void payload now =>
    obtain ⟨snapshot, hsnapshot, hrest⟩ := Except.bind_eq_ok.mp h
    obtain ⟨voided, hplan, hout⟩ := Except.bind_eq_ok.mp hrest
    obtain rfl := Except.ok.inj hout
    obtain ⟨reason, -, hvoid⟩ := Except.bind_eq_ok.mp hplan
    exact sound_some ((hs.2 snapshot (requireSnapshot_eq_ok hsnapshot)).void hA hvoid)

/-- Every run keeps the invariant. -/
theorem PoolRun.Reachable.sound (hA : js.arithmetic.Exact) {state : PoolRun}
    (h : state.Reachable js) : state.Sound := by
  induction h with
  | start => exact ⟨fun _ => rfl, by simp⟩
  | step _ hop hrun ih => exact ih.run hA hop hrun

/-- The accounts of every reachable pool: the side totals and the locked balances are sums
over the entries, nobody is in debt, nothing is created or lost, and exactly the terminal
pools carry the record of how they ended. -/
theorem reachable_pool_accounts (hA : js.arithmetic.Exact) {snapshot : PoolSnapshot}
    {reserved : ℤ} (h : PoolRun.Reachable js ⟨some snapshot, reserved⟩) :
    (snapshot.pool.pools.yes = stakedOn snapshot.entries .yes ∧
      snapshot.pool.pools.no = stakedOn snapshot.entries .no) ∧
    (∀ userId balance, snapshot.balances.lookup userId = some balance →
      0 ≤ balance.available ∧ 0 ≤ balance.locked) ∧
    (∀ e ∈ snapshot.entries, ∃ balance, snapshot.balances.lookup e.userId = some balance) ∧
    (snapshot.pool.status = .open ∨ snapshot.pool.status = .locked ∨
        snapshot.pool.status = .resolving →
      ∀ userId balance, snapshot.balances.lookup userId = some balance →
        balance.locked = stakeOf snapshot.entries userId) ∧
    (snapshot.pool.status = .settled ∨ snapshot.pool.status = .voided →
      ∀ userId balance, snapshot.balances.lookup userId = some balance → balance.locked = 0) ∧
    heldTotal snapshot.balances + (snapshot.houseLedger.map HouseLedgerEntry.amount).sum =
      seededTotal snapshot reserved ∧
    ((snapshot.pool.status = .settled ↔ snapshot.settlement ≠ none) ∧
      ∀ record, snapshot.settlement = some record →
        record.payoutTotal + record.rakeAmount = record.totalStaked ∧
          ∀ e ∈ snapshot.entries, e.payout ≠ none ∧ e.refunded = false) ∧
    ((snapshot.pool.status = .voided ↔ snapshot.voidReason ≠ none) ∧
      (snapshot.pool.status = .voided → snapshot.settlement = none ∧
        ∀ e ∈ snapshot.entries, e.refunded = true ∧ e.payout = none)) := by
  have hi := (h.sound hA).2 snapshot rfl
  refine ⟨⟨hi.totals .yes, hi.totals .no⟩, hi.nonneg, hi.funded, fun hs => hi.locked_active ?_,
    hi.locked_terminal, hi.conserved, ⟨?_, fun record hrecord => ?_⟩, ?_, fun hs =>
      ⟨?_, hi.voided hs⟩⟩
  · rcases hs with hs | hs | hs <;> simp [hs, PoolStatus.Terminal]
  · rw [hi.settled_iff, ← Option.isSome_iff_ne_none]
  · obtain ⟨hsum, hentries⟩ := hi.settled record hrecord
    exact ⟨hsum, fun e he => ⟨Option.isSome_iff_ne_none.mp (hentries e he).1, (hentries e he).2⟩⟩
  · rw [hi.voided_iff, ← Option.isSome_iff_ne_none]
  · rw [← Option.not_isSome_iff_eq_none, ← hi.settled_iff, hs]
    simp

private def pointsMarket : MarketSnapshot :=
  ⟨"market", .kalshi, "Will it rain?", .open, "2026-07-02T00:00:00.000Z",
    some "2026-07-02T12:00:00.000Z"⟩

private def pointsPool : CreatePoolPayload :=
  ⟨some "pool", pointsMarket, .points, none, "2026-07-01T12:00:00.000Z", .finite (1 / 20), 10,
    none, none, none, none⟩

private def pointsEntry (id user side : String) (amount : ℤ) : PlaceEntryPayload :=
  ⟨.string user, .string side, .number (.finite amount), none, some id, none⟩

/-- Two users bet against each other and the pool settles. -/
private def settledPoints : PoolRun :=
  let js := JavaScript.reference .exact
  let created := PoolOperation.perform js ⟨none, 0⟩
    (.create pointsPool "2026-07-01T00:00:00.000Z")
  let first := PoolOperation.perform js created
    (.placeEntry (pointsEntry "a" "ann" "yes" 100) "2026-07-01T01:00:00.000Z" "")
  let second := PoolOperation.perform js first
    (.placeEntry (pointsEntry "b" "bob" "no" 50) "2026-07-01T02:00:00.000Z" "")
  let locked := PoolOperation.perform js second (.lock "2026-07-01T13:00:00.000Z")
  PoolOperation.perform js locked
    (.settle ⟨.string "yes", none⟩ "2026-07-02T13:00:00.000Z")

/-- The settled pool of two users holds the twenty thousand points it was seeded with. -/
theorem reachable_pool_accounts_settledPoints : ∃ snapshot,
    settledPoints = ⟨some snapshot, 0⟩ ∧ snapshot.pool.status = .settled ∧
      heldTotal snapshot.balances + (snapshot.houseLedger.map HouseLedgerEntry.amount).sum =
        20000 := by
  have hreachable : settledPoints.Reachable (JavaScript.reference .exact) := by
    unfold settledPoints
    refine .perform (.perform (.perform (.perform (.perform .start ?_) ?_) ?_) ?_) ?_
    · trivial
    · exact ⟨by decide, fun h => absurd h (by decide)⟩
    · exact ⟨by decide, fun h => absurd h (by decide)⟩
    · trivial
    · trivial
  obtain ⟨snapshot, hstored⟩ : ∃ snapshot, settledPoints.stored = some snapshot :=
    Option.isSome_iff_exists.mp (by decide +kernel)
  have hrun : settledPoints = ⟨some snapshot, 0⟩ := by
    rw [← hstored, ← show settledPoints.reserved = 0 by decide +kernel]
  have hstatus : settledPoints.stored.map (fun s => s.pool.status) = some .settled := by
    decide +kernel
  have husers : settledPoints.stored.map (fun s => seededTotal s 0) = some 20000 := by
    decide +kernel
  rw [hstored] at hstatus husers
  refine ⟨snapshot, hrun, Option.some.inj hstatus, ?_⟩
  rw [hrun] at hreachable
  have haccounts := reachable_pool_accounts Arithmetic.exact_exact hreachable
  exact haccounts.2.2.2.2.2.1.trans (Option.some.inj husers)

end Yevow.DotCast
