import Mathlib.Tactic.Abel
import Yevow.Models.Shadow.GhostBook

/-!
# Where ghost fills go

A ghost fill stays in its slot until the trade on which its drift is due, unless an order is
written over it, which happens where every slot holds a pending fill. The counters of the
book account for all fills returned.
-/

namespace Yevow.Shadow

/-! ## Runs -/

/-- A call of the ghost book. -/
inductive Call
  | injectBbo (book : InternalOrderBook)
  | observeTrade (tick : MarketTick) (book : InternalOrderBook)

/-- The valid trades of an instrument. -/
def Call.counts (instrumentCode : String) : Call → Bool
  | .injectBbo _ => false
  | .observeTrade tick book => isValidTrade tick book && tick.instrumentCode == instrumentCode

/-- The instrument and sequence number of a valid trade. -/
def Call.tradeKey? : Call → Option (String × Number)
  | .injectBbo _ => none
  | .observeTrade tick book =>
    if isValidTrade tick book then some (tick.instrumentCode, tick.sequence) else none

/-- The identifier of a slot's pending fill. -/
def GhostSlot.pendingId (slot : GhostSlot) : Option FillId :=
  if slot.state = .pendingDrift then slot.fillId else none

namespace GhostBook

variable {config : GhostBookConfig}

/-- A book after a call, with what the call returns. -/
def call (ghost : GhostBook config) : Call → GhostBook config × GhostBookObservation
  | .injectBbo book => (ghost.injectBbo book, ⟨[], []⟩)
  | .observeTrade tick book => ghost.observeTrade tick book

/-- A book after a run of calls. -/
def after (ghost : GhostBook config) (calls : List Call) : GhostBook config :=
  calls.foldl (fun ghost c => (ghost.call c).1) ghost

/-- The identifiers of the fills a call returns. -/
def fillIdsOf (ghost : GhostBook config) (c : Call) : List FillId :=
  (ghost.call c).2.fills.map ShadowQueueFill.fillId

/-- The fills that the decisions of a call are on. -/
def decisionIdsOf (ghost : GhostBook config) (c : Call) : List FillId :=
  (ghost.call c).2.decisions.map ShadowQueueDecision.fillId

/-- The fill that an order of such a top size is written over: the one at the cursor, where
every slot holds a pending fill. -/
def displaced (ghost : GhostBook config) (topDepth : Number) : Option FillId :=
  if topDepth.isPositive ∧ ∀ slot, (ghost.slots slot).state = .pendingDrift then
    (ghost.slots ghost.writeCursor).fillId
  else none

/-- The fills a call writes over. -/
def displacedIdsOf (ghost : GhostBook config) : Call → List FillId
  | .injectBbo book =>
    ((bestPrice? book.bestBid).bind fun _ => ghost.displaced (topLevelSize book.bids)).toList ++
      ((bestPrice? book.bestAsk).bind fun _ =>
        (ghost.injectBid book).displaced (topLevelSize book.asks)).toList
  | .observeTrade _ _ => []

/-- What a run brings out, call by call. -/
def along (ids : GhostBook config → Call → List FillId) (ghost : GhostBook config) :
    List Call → List FillId
  | [] => []
  | c :: calls => ids ghost c ++ along ids (ghost.call c).1 calls

/-- The fills that wait for their decision. -/
def pendingIds (ghost : GhostBook config) : List FillId :=
  (List.finRange config.capacity).filterMap fun slot => (ghost.slots slot).pendingId

/-- A book that has seen no call. -/
def IsFresh (ghost : GhostBook config) : Prop :=
  ghost = new config ∨ ∃ used : GhostBook config, ghost = used.reset

/-- The fate of a fill, from the book its trade leaves behind. -/
structure IsFollowedUp (ghost : GhostBook config) (id : FillId) : Prop where
  /-- Fewer trades of its instrument than the delay leave it pending. -/
  waits : ∀ later, id ∉ along displacedIdsOf ghost later →
    later.countP (Call.counts id.instrumentCode) < config.driftTradeDelay →
    id ∈ (ghost.after later).pendingIds ∧ id ∉ along decisionIdsOf ghost later
  /-- The trade that completes the delay brings its decision. -/
  decided : ∀ later trade, id ∉ along displacedIdsOf ghost later →
    trade.counts id.instrumentCode →
    later.countP (Call.counts id.instrumentCode) + 1 = config.driftTradeDelay →
    ((ghost.after later).decisionIdsOf trade).count id = 1 ∧
      id ∉ along decisionIdsOf ghost later

/-- What a run of calls makes of the fills it returns. -/
structure FillsAccounted (start : GhostBook config) (calls : List Call) : Prop where
  ghostFills_eq : (start.after calls).ghostFills =
    (start.after calls).pendingDrifts + (start.after calls).greenLights +
      (start.after calls).redLights + (start.after calls).noEdgeSignals +
      (along displacedIdsOf start calls).length
  confirmed_eq : (start.after calls).confirmedSignals = (start.after calls).greenLights
  inverted_eq : (start.after calls).invertedSignals = (start.after calls).redLights
  /-- Every fill is decided, pending or written over. -/
  fates : (along fillIdsOf start calls).Perm
    (along decisionIdsOf start calls ++ (start.after calls).pendingIds ++
      along displacedIdsOf start calls)
  /-- Where no sequence number of an instrument repeats, its identifier tells which. -/
  once : (calls.filterMap Call.tradeKey?).Nodup → ∀ id ∈ along fillIdsOf start calls,
    (along decisionIdsOf start calls).count id + (start.after calls).pendingIds.count id +
      (along displacedIdsOf start calls).count id = 1
  followed : ∀ before c later, calls = before ++ c :: later →
    ∀ id ∈ (start.after before).fillIdsOf c,
      (start.after (before ++ [c])).IsFollowedUp id

end GhostBook

/-! ## Pending slots -/

/-- A valid trade shows a mid price above zero. -/
theorem midPrice_of_isValidTrade {tick : MarketTick} {book : InternalOrderBook}
    (h : isValidTrade tick book) :
    ∃ midPrice, book.midPrice = some midPrice ∧ midPrice.le (.finite 0) = false := by
  unfold isValidTrade at h
  cases hmid : book.midPrice with
  | none => simp [hmid] at h
  | some midPrice =>
    simp only [hmid, Bool.and_eq_true, Bool.not_eq_true'] at h
    exact ⟨midPrice, rfl, h.1.2⟩

namespace GhostSlot

/-- A slot that holds a pending fill after some trades of its instrument. -/
structure IsWaiting (config : GhostBookConfig) (index : ℕ) (slot : GhostSlot) (id : FillId)
    (age : ℕ) : Prop where
  state_eq : slot.state = .pendingDrift
  fillId_eq : slot.fillId = some id
  trades_eq : slot.tradesSinceFill = .finite age
  age_lt : age < config.driftTradeDelay
  instrument_eq : id.instrumentCode = slot.instrumentCode
  slot_eq : id.slot = index

/-- A pending slot holds its fill. -/
def IsSound (config : GhostBookConfig) (index : ℕ) (slot : GhostSlot) : Prop :=
  slot.state = .pendingDrift → ∃ id age, slot.IsWaiting config index id age

/-- A slot under a trade: advanced, then consumed. -/
def observe (config : GhostBookConfig) (tick : MarketTick) (book : InternalOrderBook)
    (index : ℕ) (slot : GhostSlot) :
    GhostSlot × Option ShadowQueueFill × Option ShadowQueueDecision :=
  let advanced := slot.advance config tick book index
  let consumed := advanced.1.consume tick book index
  (consumed.1, consumed.2, advanced.2)

variable {config : GhostBookConfig} {tick : MarketTick} {book : InternalOrderBook}
  {index : ℕ} {slot : GhostSlot}

private theorem IsWaiting.pendingId_eq {id : FillId} {age : ℕ}
    (h : slot.IsWaiting config index id age) : slot.pendingId = some id := by
  rw [pendingId, if_pos h.state_eq, h.fillId_eq]

private theorem pendingId_eq_none (h : slot.state ≠ .pendingDrift) :
    slot.pendingId = none := if_neg h

private theorem advance_of_not_pending (h : slot.state ≠ .pendingDrift) :
    slot.advance config tick book index = (slot, none) := by
  unfold advance
  split
  · rfl
  · rw [if_pos (Or.inl h)]

private theorem advance_of_other (h : slot.instrumentCode ≠ tick.instrumentCode) :
    slot.advance config tick book index = (slot, none) := by
  unfold advance
  split
  · rfl
  · rw [if_pos (Or.inr (Or.inl h))]

/-- A trade of its instrument advances a pending fill. -/
theorem advance_of_waiting {id : FillId} {age : ℕ} (hdelay : config.driftTradeDelay ≤ 2 ^ 24 + 1)
    (hvalid : isValidTrade tick book) (h : slot.IsWaiting config index id age)
    (hinstrument : slot.instrumentCode = tick.instrumentCode) :
    (age + 1 < config.driftTradeDelay ∧ slot.advance config tick book index =
      ({ slot with tradesSinceFill := .finite (age + 1 : ℕ) }, none)) ∨
    (age + 1 = config.driftTradeDelay ∧ ∃ slot' d,
      slot.advance config tick book index = (slot', some d) ∧ d.fillId = id ∧
        slot'.state = .empty) := by
  obtain ⟨midPrice, hmid, hpositive⟩ := midPrice_of_isValidTrade hvalid
  have hage := h.age_lt
  have hnext : slot.tradesSinceFill.add round (.finite 1) = .finite (age + 1 : ℕ) := by
    rw [h.trades_eq, round, Number.add_one_natCast (by omega), Nat.cast_add_one]
  have hguard : ¬(slot.state ≠ .pendingDrift ∨ slot.instrumentCode ≠ tick.instrumentCode ∨
      midPrice.le (.finite 0)) := by
    simp [h.state_eq, hinstrument, hpositive]
  have hlt : (Number.finite (age + 1 : ℕ)).lt (.finite config.driftTradeDelay) =
      decide (age + 1 < config.driftTradeDelay) := by
    simp only [Number.lt, Nat.cast_lt]
  rcases Nat.lt_or_eq_of_le (Nat.succ_le_of_lt hage) with hearly | hdue
  · left
    refine ⟨hearly, ?_⟩
    simp only [advance, hmid, if_neg hguard, hnext, hlt, decide_eq_true hearly, if_true]
    rw [cell, Number.fround_natCast (by omega)]
  · right
    have hdecision : (slot.decision index book midPrice (.finite (age + 1 : ℕ))).fillId = id := by
      simp only [decision, h.fillId_eq, Option.getD_some]
    refine ⟨hdue, ?_⟩
    simp only [advance, hmid, if_neg hguard, hnext, hlt, decide_eq_true_eq,
      if_neg (show ¬age + 1 < config.driftTradeDelay by omega)]
    exact ⟨_, _, rfl, hdecision, rfl⟩

private theorem consume_of_not_active (h : slot.state ≠ .active) :
    slot.consume tick book index = (slot, none) := by
  unfold consume
  split
  · rfl
  · rw [if_pos (Or.inl h)]

/-- An active order stays one or becomes a pending fill of the trade. -/
theorem consume_of_active (hactive : slot.state = .active) :
    ((slot.consume tick book index).1.state = .active ∧
      (slot.consume tick book index).2 = none) ∨
    ∃ fill, (slot.consume tick book index).2 = some fill ∧
      fill.fillId = ⟨tick.instrumentCode, tick.sequence, index⟩ ∧
      (slot.consume tick book index).1.IsWaiting config index fill.fillId 0 := by
  unfold consume
  split
  · exact Or.inl ⟨hactive, rfl⟩
  · dsimp only
    split_ifs with hguard
    · exact Or.inl ⟨hactive, rfl⟩
    · exact Or.inl ⟨hactive, rfl⟩
    · exact Or.inl ⟨hactive, rfl⟩
    · have hinstrument : slot.instrumentCode = tick.instrumentCode := by
        by_contra hne
        exact hguard (Or.inr (Or.inl hne))
      refine Or.inr ⟨_, rfl, ?_, ?_⟩
      · rw [hinstrument]
      · have hzero : cell (.finite 0) = .finite (0 : ℕ) := by
          have := Number.fround_natCast (Nat.zero_le (2 ^ 24))
          simpa [cell] using this
        exact ⟨rfl, rfl, hzero, config.delay_pos, rfl, rfl⟩

/-- What a valid trade does to a slot. -/
inductive Observed (config : GhostBookConfig) (tick : MarketTick) (index : ℕ)
    (slot : GhostSlot) :
    GhostSlot × Option ShadowQueueFill × Option ShadowQueueDecision → Prop
  | idle {slot' : GhostSlot} (hbefore : slot.state ≠ .pendingDrift)
      (hafter : slot'.state ≠ .pendingDrift) : Observed config tick index slot (slot', none, none)
  | filled {slot' : GhostSlot} {fill : ShadowQueueFill} (hbefore : slot.state ≠ .pendingDrift)
      (hid : fill.fillId = ⟨tick.instrumentCode, tick.sequence, index⟩)
      (hafter : slot'.IsWaiting config index fill.fillId 0) :
      Observed config tick index slot (slot', some fill, none)
  | waiting {slot' : GhostSlot} {id : FillId} {age : ℕ}
      (hbefore : slot.IsWaiting config index id age)
      (hafter : slot'.IsWaiting config index id
        (if id.instrumentCode = tick.instrumentCode then age + 1 else age)) :
      Observed config tick index slot (slot', none, none)
  | decided {slot' : GhostSlot} {d : ShadowQueueDecision} {age : ℕ}
      (hbefore : slot.IsWaiting config index d.fillId age)
      (hinstrument : d.fillId.instrumentCode = tick.instrumentCode)
      (hdue : age + 1 = config.driftTradeDelay) (hafter : slot'.state ≠ .pendingDrift) :
      Observed config tick index slot (slot', none, some d)

/-- The cases of a valid trade. -/
theorem observe_cases (hdelay : config.driftTradeDelay ≤ 2 ^ 24 + 1)
    (hvalid : isValidTrade tick book) (hsound : slot.IsSound config index) :
    Observed config tick index slot (slot.observe config tick book index) := by
  by_cases hpending : slot.state = .pendingDrift
  · obtain ⟨id, age, hwaiting⟩ := hsound hpending
    by_cases hinstrument : slot.instrumentCode = tick.instrumentCode
    · have hid : id.instrumentCode = tick.instrumentCode :=
        hwaiting.instrument_eq.trans hinstrument
      rcases advance_of_waiting hdelay hvalid hwaiting hinstrument with
        ⟨hearly, hadvance⟩ | ⟨hdue, slot', d, hadvance, hd, hempty⟩
      · have hidle : ({ slot with tradesSinceFill := .finite (age + 1 : ℕ) } :
            GhostSlot).state ≠ .active := by
          simp [hpending]
        rw [observe, hadvance]
        simp only [consume_of_not_active hidle]
        refine .waiting hwaiting ?_
        rw [if_pos hid]
        exact ⟨hpending, hwaiting.fillId_eq, rfl, hearly, hwaiting.instrument_eq,
          hwaiting.slot_eq⟩
      · have hidle : slot'.state ≠ .active := by
          simp [hempty]
        rw [observe, hadvance]
        simp only [consume_of_not_active hidle]
        subst hd
        exact .decided hwaiting hid hdue (by simp [hempty])
    · have hidle : slot.state ≠ .active := by
        simp [hpending]
      have hid : id.instrumentCode ≠ tick.instrumentCode := by
        rwa [hwaiting.instrument_eq]
      rw [observe, advance_of_other hinstrument]
      simp only [consume_of_not_active hidle]
      refine .waiting hwaiting ?_
      rwa [if_neg hid]
  · rw [observe, advance_of_not_pending hpending]
    by_cases hactive : slot.state = .active
    · rcases @consume_of_active config tick book index slot hactive with
        ⟨hstate, hnone⟩ | ⟨fill, hfill, hid, hafter⟩
      · simp only [hnone]
        exact .idle hpending (by simp [hstate])
      · simp only [hfill]
        exact .filled hpending hid hafter
    · simp only [consume_of_not_active hactive]
      exact .idle hpending hpending

end GhostSlot

/-! ## Balance of a call -/

namespace GhostBook

variable {config : GhostBookConfig}

/-- Every pending slot holds its fill. -/
def IsSound (ghost : GhostBook config) : Prop :=
  ∀ slot, (ghost.slots slot).IsSound config slot

section Trade

variable {tick : MarketTick} {book : InternalOrderBook} (ghost : GhostBook config)

/-- What the slot of a number makes of a trade. -/
private abbrev observed (tick : MarketTick) (book : InternalOrderBook) (ghost : GhostBook config)
    (slot : Fin config.capacity) :=
  (ghost.slots slot).observe config tick book slot

private theorem slots_observeTrade (hvalid : isValidTrade tick book) (slot : Fin config.capacity) :
    (ghost.observeTrade tick book).1.slots slot = (observed tick book ghost slot).1 := by
  rw [observeTrade, if_pos hvalid]
  dsimp only
  rw [Slots.slots_sweep (isLocal_consumeActiveSlot tick book),
    Slots.slots_sweep (isLocal_advancePendingDrift tick book)]
  rfl

private theorem fills_observeTrade (hvalid : isValidTrade tick book) :
    (ghost.observeTrade tick book).2.fills =
      (List.finRange config.capacity).filterMap fun slot =>
        (observed tick book ghost slot).2.1 := by
  rw [observeTrade, if_pos hvalid]
  dsimp only
  rw [Slots.outputs_sweep (isLocal_consumeActiveSlot tick book),
    Slots.slots_sweep (isLocal_advancePendingDrift tick book)]
  rfl

private theorem decisions_observeTrade (hvalid : isValidTrade tick book) :
    (ghost.observeTrade tick book).2.decisions =
      (List.finRange config.capacity).filterMap fun slot =>
        (observed tick book ghost slot).2.2 := by
  rw [observeTrade, if_pos hvalid]
  exact Slots.outputs_sweep (isLocal_advancePendingDrift tick book) ghost

variable {ghost}

private theorem observed_cases (hdelay : config.driftTradeDelay ≤ 2 ^ 24 + 1)
    (hvalid : isValidTrade tick book) (hsound : ghost.IsSound) (slot : Fin config.capacity) :
    GhostSlot.Observed config tick slot (ghost.slots slot) (observed tick book ghost slot) :=
  GhostSlot.observe_cases hdelay hvalid (hsound slot)

private theorem isSound_observeTrade (hdelay : config.driftTradeDelay ≤ 2 ^ 24 + 1)
    (hsound : ghost.IsSound) : (ghost.observeTrade tick book).1.IsSound := by
  by_cases hvalid : isValidTrade tick book
  · intro slot hpending
    rw [slots_observeTrade ghost hvalid] at *
    have hcases := observed_cases hdelay hvalid hsound slot
    generalize observed tick book ghost slot = out at hcases hpending
    cases hcases with
    | idle hbefore hafter => exact absurd hpending hafter
    | filled hbefore hid hafter => exact ⟨_, _, hafter⟩
    | waiting hbefore hafter => exact ⟨_, _, hafter⟩
    | decided hbefore hinstrument hdue hafter => exact absurd hpending hafter
  · rwa [observeTrade, if_neg hvalid]

private theorem balance_observeTrade (hdelay : config.driftTradeDelay ≤ 2 ^ 24 + 1)
    (hsound : ghost.IsSound) :
    (ghost.pendingIds ++ (ghost.observeTrade tick book).2.fills.map ShadowQueueFill.fillId).Perm
      ((ghost.observeTrade tick book).1.pendingIds ++
        (ghost.observeTrade tick book).2.decisions.map ShadowQueueDecision.fillId) := by
  by_cases hvalid : isValidTrade tick book
  · rw [fills_observeTrade ghost hvalid, decisions_observeTrade ghost hvalid,
      List.map_filterMap, List.map_filterMap]
    apply Slots.perm_filterMap
    intro slot _
    rw [slots_observeTrade ghost hvalid]
    generalize hout : observed tick book ghost slot = out
    have hcases := observed_cases hdelay hvalid hsound slot
    rw [hout] at hcases
    cases hcases with
    | idle hbefore hafter =>
      rw [GhostSlot.pendingId_eq_none hbefore, GhostSlot.pendingId_eq_none hafter]
      rfl
    | filled hbefore hid hafter =>
      rw [GhostSlot.pendingId_eq_none hbefore, hafter.pendingId_eq]
      rfl
    | waiting hbefore hafter =>
      rw [hbefore.pendingId_eq, hafter.pendingId_eq]
      rfl
    | decided hbefore hinstrument hdue hafter =>
      rw [hbefore.pendingId_eq, GhostSlot.pendingId_eq_none hafter]
      rfl
  · rw [observeTrade, if_neg hvalid]
    exact List.Perm.refl _

end Trade

section Inject

variable {ghost : GhostBook config}

private theorem exists_slotAfter (cursor slot : Fin config.capacity) :
    ∃ attempt < config.capacity, slotAfter cursor attempt = slot := by
  have hcursor := cursor.isLt
  have hslot := slot.isLt
  rcases le_total cursor.val slot.val with hle | hle
  · refine ⟨slot - cursor, by omega, Fin.ext ?_⟩
    have : (cursor + (slot - cursor) : ℕ) = slot := by omega
    simp [slotAfter, this, Nat.mod_eq_of_lt hslot]
  · rcases hle.eq_or_lt with heq | hlt
    · refine ⟨0, by omega, Fin.ext ?_⟩
      simp [slotAfter, Nat.mod_eq_of_lt hcursor, heq]
    · refine ⟨config.capacity - cursor + slot, by omega, Fin.ext ?_⟩
      have : (cursor + (config.capacity - cursor + slot) : ℕ) = slot + config.capacity := by
        omega
      simp [slotAfter, this, Nat.mod_eq_of_lt hslot]

/-- A slot is written to that holds no pending fill, or the one at the cursor of a full
table. -/
theorem nextWritableSlot_cases (ghost : GhostBook config) :
    (ghost.slots ghost.nextWritableSlot).state ≠ .pendingDrift ∨
      (ghost.nextWritableSlot = ghost.writeCursor ∧
        ∀ slot, (ghost.slots slot).state = .pendingDrift) := by
  unfold nextWritableSlot
  dsimp only
  cases hfind : ((List.range config.capacity).map (slotAfter ghost.writeCursor)).find?
      fun slot => (ghost.slots slot).state ≠ .pendingDrift with
  | some slot =>
    left
    have := List.find?_some hfind
    simpa using this
  | none =>
    right
    refine ⟨rfl, ?_⟩
    intro slot
    obtain ⟨attempt, hattempt, rfl⟩ := exists_slotAfter ghost.writeCursor slot
    have := List.find?_eq_none.mp hfind (slotAfter ghost.writeCursor attempt)
      (List.mem_map_of_mem (List.mem_range.mpr hattempt))
    simpa using this

private theorem isSound_injectOne (hsound : ghost.IsSound) (instrumentCode : String)
    (side : SideCode) (price topDepth sequence : Number) :
    (ghost.injectOne instrumentCode side price topDepth sequence).IsSound := by
  unfold injectOne
  split_ifs with hdepth
  · intro slot hpending
    dsimp only at *
    by_cases hslot : slot = ghost.nextWritableSlot
    · rw [hslot, Function.update_self] at hpending
      exact absurd hpending (by simp [GhostSlot.injected])
    · rw [Function.update_of_ne hslot] at *
      exact hsound slot hpending
  · exact hsound

/-- Writing an order moves no pending fill but the one displaced. -/
theorem balance_injectOne (ghost : GhostBook config) (instrumentCode : String)
    (side : SideCode) (price topDepth sequence : Number) :
    ghost.pendingIds.Perm
      ((ghost.injectOne instrumentCode side price topDepth sequence).pendingIds ++
        (ghost.displaced topDepth).toList) := by
  by_cases hdepth : topDepth.isPositive
  · rw [← Slots.filterMap_single (ghost.displaced topDepth) ghost.nextWritableSlot]
    have hbalance := Slots.perm_filterMap (f := fun slot => (ghost.slots slot).pendingId)
      (g := fun _ => none)
      (h := fun slot =>
        ((ghost.injectOne instrumentCode side price topDepth sequence).slots slot).pendingId)
      (k := fun slot => if slot = ghost.nextWritableSlot then ghost.displaced topDepth else none)
      (List.finRange config.capacity) ?_
    · rwa [List.filterMap_none, List.append_nil] at hbalance
    · intro slot _
      rw [injectOne, if_pos hdepth]
      dsimp only
      by_cases hslot : slot = ghost.nextWritableSlot
      · rw [hslot, Function.update_self, if_pos rfl,
          @GhostSlot.pendingId_eq_none (GhostSlot.injected _ _ _ _ _ _)
            (by simp [GhostSlot.injected])]
        rcases nextWritableSlot_cases ghost with hfree | ⟨hcursor, hfull⟩
        · have hnone : ghost.displaced topDepth = none := by
            rw [displaced, if_neg]
            rintro ⟨-, hfull⟩
            exact hfree (hfull _)
          rw [GhostSlot.pendingId_eq_none hfree, hnone]
        · rw [displaced, if_pos ⟨hdepth, hfull⟩, hcursor, GhostSlot.pendingId,
            if_pos (hfull _)]
          simp
      · rw [Function.update_of_ne hslot, if_neg hslot]
  · have hnone : ghost.displaced topDepth = none := by
      rw [displaced, if_neg]
      rintro ⟨hpositive, -⟩
      exact hdepth hpositive
    rw [injectOne, if_neg hdepth, hnone]
    simp

end Inject

/-! ## Balance of a run -/

section Run

variable {ghost : GhostBook config}

private theorem isSound_injectBid (hsound : ghost.IsSound) (book : InternalOrderBook) :
    (ghost.injectBid book).IsSound := by
  unfold injectBid
  split
  · exact hsound
  · exact isSound_injectOne hsound _ _ _ _ _

private theorem isSound_injectAsk (hsound : ghost.IsSound) (book : InternalOrderBook) :
    (ghost.injectAsk book).IsSound := by
  unfold injectAsk
  split
  · exact hsound
  · exact isSound_injectOne hsound _ _ _ _ _

private theorem isSound_call (hdelay : config.driftTradeDelay ≤ 2 ^ 24 + 1) (hsound : ghost.IsSound)
    (c : Call) : (ghost.call c).1.IsSound := by
  cases c with
  | injectBbo book => exact isSound_injectAsk (isSound_injectBid hsound book) book
  | observeTrade tick book => exact isSound_observeTrade hdelay hsound

private theorem balance_injectBid (ghost : GhostBook config) (book : InternalOrderBook) :
    ghost.pendingIds.Perm ((ghost.injectBid book).pendingIds ++
      ((bestPrice? book.bestBid).bind fun _ =>
        ghost.displaced (topLevelSize book.bids)).toList) := by
  unfold injectBid
  cases bestPrice? book.bestBid with
  | none => simp
  | some bestBid => exact balance_injectOne ghost _ _ _ _ _

private theorem balance_injectAsk (ghost : GhostBook config) (book : InternalOrderBook) :
    ghost.pendingIds.Perm ((ghost.injectAsk book).pendingIds ++
      ((bestPrice? book.bestAsk).bind fun _ =>
        ghost.displaced (topLevelSize book.asks)).toList) := by
  unfold injectAsk
  cases bestPrice? book.bestAsk with
  | none => simp
  | some bestAsk => exact balance_injectOne ghost _ _ _ _ _

/-- Fills come in, decisions and displaced fills go out. -/
theorem balance_call (hdelay : config.driftTradeDelay ≤ 2 ^ 24 + 1) (hsound : ghost.IsSound)
    (c : Call) :
    (ghost.pendingIds ++ ghost.fillIdsOf c).Perm
      (ghost.decisionIdsOf c ++ (ghost.call c).1.pendingIds ++ ghost.displacedIdsOf c) := by
  cases c with
  | injectBbo book =>
    have hbid := balance_injectBid ghost book
    have hask := balance_injectAsk (ghost.injectBid book) book
    simp only [fillIdsOf, decisionIdsOf, call, List.map_nil, List.append_nil, List.nil_append,
      displacedIdsOf]
    refine hbid.trans ((hask.append_right _).trans ?_)
    rw [List.append_assoc]
    exact (List.perm_append_comm).append_left _
  | observeTrade tick book =>
    have htrade := @balance_observeTrade config tick book ghost hdelay hsound
    simp only [displacedIdsOf, List.append_nil]
    exact htrade.trans List.perm_append_comm

@[simp] theorem after_nil (ghost : GhostBook config) : ghost.after [] = ghost := (rfl)

private theorem after_cons (ghost : GhostBook config) (c : Call) (calls : List Call) :
    ghost.after (c :: calls) = (ghost.call c).1.after calls := (rfl)

private theorem after_append (ghost : GhostBook config) (calls later : List Call) :
    ghost.after (calls ++ later) = (ghost.after calls).after later := List.foldl_append

private theorem isSound_after (hdelay : config.driftTradeDelay ≤ 2 ^ 24 + 1)
    (hsound : ghost.IsSound)
    (calls : List Call) : (ghost.after calls).IsSound := by
  induction calls generalizing ghost with
  | nil => exact hsound
  | cons c calls ih => exact ih (isSound_call hdelay hsound c)

/-- Over a run every fill that was pending or came in is decided, pending or displaced. -/
theorem balance_after (hdelay : config.driftTradeDelay ≤ 2 ^ 24 + 1) (hsound : ghost.IsSound)
    (calls : List Call) :
    (ghost.pendingIds ++ along fillIdsOf ghost calls).Perm
      (along decisionIdsOf ghost calls ++ (ghost.after calls).pendingIds ++
        along displacedIdsOf ghost calls) := by
  induction calls generalizing ghost with
  | nil => simp [along]
  | cons c calls ih =>
    have hcall := Multiset.coe_eq_coe.mpr (balance_call hdelay hsound c)
    have hrest := Multiset.coe_eq_coe.mpr (ih (isSound_call hdelay hsound c))
    simp only [← Multiset.coe_add] at hcall hrest
    rw [← Multiset.coe_eq_coe]
    simp only [along, after_cons, ← Multiset.coe_add]
    rw [← add_assoc, hcall, add_right_comm, add_assoc _ _ (along fillIdsOf _ _ : Multiset FillId),
      hrest]
    abel

end Run

/-! ## Counters -/

section Counters

/-- The counters of a book that has returned some fills and decisions. -/
structure HasCounted (ghost : GhostBook config) (fills decisions : ℕ) : Prop where
  fills_eq : ghost.ghostFills = fills
  decisions_eq : ghost.greenLights + ghost.redLights + ghost.noEdgeSignals = decisions
  confirmed_eq : ghost.confirmedSignals = ghost.greenLights
  inverted_eq : ghost.invertedSignals = ghost.redLights

variable {ghost : GhostBook config} {fills decisions : ℕ}

private theorem hasCounted_countDecision (h : ghost.HasCounted fills decisions)
    (d : Option ShadowQueueDecision) :
    (ghost.countDecision d).HasCounted fills (decisions + d.toList.length) := by
  obtain ⟨hfills, hdecisions, hconfirmed, hinverted⟩ := h
  cases d with
  | none => exact ⟨hfills, hdecisions, hconfirmed, hinverted⟩
  | some d =>
    simp only [countDecision, Option.toList_some, List.length_singleton]
    cases d.action <;> constructor <;> dsimp only <;> omega

private theorem hasCounted_advancePendingDrift (tick : MarketTick) (book : InternalOrderBook)
    (slot : Fin config.capacity) (h : ghost.HasCounted fills decisions) :
    (advancePendingDrift tick book ghost slot).1.HasCounted fills
      (decisions + (advancePendingDrift tick book ghost slot).2.toList.length) := by
  obtain ⟨hfills, hdecisions, hconfirmed, hinverted⟩ := h
  unfold advancePendingDrift
  dsimp only
  apply hasCounted_countDecision
  exact ⟨hfills, hdecisions, hconfirmed, hinverted⟩

private theorem hasCounted_consumeActiveSlot (tick : MarketTick) (book : InternalOrderBook)
    (slot : Fin config.capacity) (h : ghost.HasCounted fills decisions) :
    (consumeActiveSlot tick book ghost slot).1.HasCounted
      (fills + (consumeActiveSlot tick book ghost slot).2.toList.length) decisions := by
  obtain ⟨hfills, hdecisions, hconfirmed, hinverted⟩ := h
  unfold consumeActiveSlot
  dsimp only
  cases ((ghost.slots slot).consume tick book slot).2 with
  | none => exact ⟨hfills, hdecisions, hconfirmed, hinverted⟩
  | some fill => exact ⟨congrArg (· + 1) hfills, hdecisions, hconfirmed, hinverted⟩

private theorem hasCounted_observeTrade (tick : MarketTick) (book : InternalOrderBook)
    (h : ghost.HasCounted fills decisions) :
    (ghost.observeTrade tick book).1.HasCounted
      (fills + (ghost.observeTrade tick book).2.fills.length)
      (decisions + (ghost.observeTrade tick book).2.decisions.length) := by
  unfold observeTrade
  split_ifs with hvalid
  · have hadvanced := Slots.sweep_induction
      (fun (ghost : GhostBook config) out => ghost.HasCounted fills (decisions + out.length))
      (fun ghost slot out hout => by
        rw [List.length_append, ← Nat.add_assoc]
        exact hasCounted_advancePendingDrift tick book slot hout) h
    exact Slots.sweep_induction
      (fun (ghost : GhostBook config) out => ghost.HasCounted (fills + out.length) _)
      (fun ghost slot out hout => by
        rw [List.length_append, ← Nat.add_assoc]
        exact hasCounted_consumeActiveSlot tick book slot hout) hadvanced
  · exact h

private theorem hasCounted_injectOne (h : ghost.HasCounted fills decisions)
    (instrumentCode : String) (side : SideCode) (price topDepth sequence : Number) :
    (ghost.injectOne instrumentCode side price topDepth sequence).HasCounted fills decisions := by
  unfold injectOne
  split_ifs
  · exact ⟨h.fills_eq, h.decisions_eq, h.confirmed_eq, h.inverted_eq⟩
  · exact h

private theorem hasCounted_injectBbo (h : ghost.HasCounted fills decisions)
    (book : InternalOrderBook) : (ghost.injectBbo book).HasCounted fills decisions := by
  have hbid : (ghost.injectBid book).HasCounted fills decisions := by
    unfold injectBid
    split
    · exact h
    · exact hasCounted_injectOne h _ _ _ _ _
  unfold injectBbo injectAsk
  split
  · exact hbid
  · exact hasCounted_injectOne hbid _ _ _ _ _

/-- A call counts what it returns. -/
theorem hasCounted_call (h : ghost.HasCounted fills decisions) (c : Call) :
    (ghost.call c).1.HasCounted (fills + (ghost.fillIdsOf c).length)
      (decisions + (ghost.decisionIdsOf c).length) := by
  unfold fillIdsOf decisionIdsOf
  rw [List.length_map, List.length_map]
  cases c with
  | injectBbo book => exact hasCounted_injectBbo h book
  | observeTrade tick book => exact hasCounted_observeTrade tick book h

private theorem hasCounted_after (h : ghost.HasCounted fills decisions) (calls : List Call) :
    (ghost.after calls).HasCounted (fills + (along fillIdsOf ghost calls).length)
      (decisions + (along decisionIdsOf ghost calls).length) := by
  induction calls generalizing ghost fills decisions with
  | nil => exact h
  | cons c calls ih =>
    have hrest := ih (hasCounted_call h c)
    simpa only [along, List.length_append, after_cons, Nat.add_assoc] using hrest

end Counters

/-! ## Following a fill -/

section Following

variable {ghost : GhostBook config} {i : Fin config.capacity} {id : FillId} {age : ℕ}

private theorem isWaiting_injectOne (h : (ghost.slots i).IsWaiting config i id age)
    (instrumentCode : String) (side : SideCode) (price topDepth sequence : Number)
    (hkept : id ∉ (ghost.displaced topDepth).toList) :
    ((ghost.injectOne instrumentCode side price topDepth sequence).slots i).IsWaiting config i id
      age := by
  unfold injectOne
  split_ifs with hdepth
  · have hslot : i ≠ ghost.nextWritableSlot := by
      intro hi
      rcases nextWritableSlot_cases ghost with hfree | ⟨hcursor, hfull⟩
      · exact hfree (hi ▸ h.state_eq)
      · apply hkept
        rw [displaced, if_pos ⟨hdepth, hfull⟩, ← hcursor, ← hi, h.fillId_eq]
        exact List.mem_singleton_self id
    dsimp only
    rwa [Function.update_of_ne hslot]
  · exact h

private theorem isWaiting_injectBid (h : (ghost.slots i).IsWaiting config i id age)
    (book : InternalOrderBook)
    (hkept : id ∉ ((bestPrice? book.bestBid).bind fun _ =>
      ghost.displaced (topLevelSize book.bids)).toList) :
    ((ghost.injectBid book).slots i).IsWaiting config i id age := by
  unfold injectBid
  cases hbest : bestPrice? book.bestBid with
  | none => exact h
  | some bestBid =>
    rw [hbest] at hkept
    exact isWaiting_injectOne h _ _ _ _ _ hkept

private theorem isWaiting_injectAsk (h : (ghost.slots i).IsWaiting config i id age)
    (book : InternalOrderBook)
    (hkept : id ∉ ((bestPrice? book.bestAsk).bind fun _ =>
      ghost.displaced (topLevelSize book.asks)).toList) :
    ((ghost.injectAsk book).slots i).IsWaiting config i id age := by
  unfold injectAsk
  cases hbest : bestPrice? book.bestAsk with
  | none => exact h
  | some bestAsk =>
    rw [hbest] at hkept
    exact isWaiting_injectOne h _ _ _ _ _ hkept

private theorem isWaiting_unique {slot : GhostSlot} {index index' : ℕ} {id' : FillId} {age' : ℕ}
    (h : slot.IsWaiting config index id age) (h' : slot.IsWaiting config index' id' age') :
    id = id' ∧ age = age' := by
  constructor
  · exact Option.some.inj (h.fillId_eq.symm.trans h'.fillId_eq)
  · have htrades := h.trades_eq.symm.trans h'.trades_eq
    simpa using htrades

variable {tick : MarketTick} {book : InternalOrderBook}

/-- The decisions of a trade are on the pending fills of their slots. -/
private theorem waiting_of_mem_decisionIds (hdelay : config.driftTradeDelay ≤ 2 ^ 24 + 1)
    (hsound : ghost.IsSound) (hvalid : isValidTrade tick book) (slot : Fin config.capacity)
    {d : ShadowQueueDecision} (hd : (observed tick book ghost slot).2.2 = some d) :
    ∃ age, (ghost.slots slot).IsWaiting config slot d.fillId age ∧
      d.fillId.instrumentCode = tick.instrumentCode ∧ age + 1 = config.driftTradeDelay := by
  have hcases := observed_cases hdelay hvalid hsound slot
  generalize observed tick book ghost slot = out at hcases hd
  cases hcases with
  | idle hbefore hafter => simp at hd
  | filled hbefore hid hafter => simp at hd
  | waiting hbefore hafter => simp at hd
  | decided hbefore hinstrument hdue hafter =>
    obtain rfl : _ = d := Option.some.inj hd
    exact ⟨_, hbefore, hinstrument, hdue⟩

private theorem mem_decisionIdsOf (hdelay : config.driftTradeDelay ≤ 2 ^ 24 + 1)
    (hsound : ghost.IsSound) (h : (ghost.slots i).IsWaiting config i id age)
    (hmem : id ∈ ghost.decisionIdsOf (.observeTrade tick book)) :
    Call.counts id.instrumentCode (.observeTrade tick book) = true ∧
      age + 1 = config.driftTradeDelay := by
  rw [decisionIdsOf, call] at hmem
  by_cases hvalid : isValidTrade tick book
  · rw [decisions_observeTrade ghost hvalid, List.map_filterMap, List.mem_filterMap] at hmem
    obtain ⟨j, -, hj⟩ := hmem
    obtain ⟨d, hd, rfl⟩ := Option.map_eq_some_iff.mp hj
    obtain ⟨age', hwaiting, hinstrument, hdue⟩ :=
      waiting_of_mem_decisionIds hdelay hsound hvalid j hd
    have hij : i = j := Fin.ext (h.slot_eq.symm.trans hwaiting.slot_eq)
    subst hij
    obtain ⟨-, rfl⟩ := isWaiting_unique h hwaiting
    refine ⟨?_, hdue⟩
    simp [Call.counts, hvalid, hinstrument]
  · rw [observeTrade, if_neg hvalid] at hmem
    simp at hmem

/-- A call that is not the last of the delay leaves a fill pending. -/
private theorem isWaiting_call (hdelay : config.driftTradeDelay ≤ 2 ^ 24 + 1)
    (hsound : ghost.IsSound) (h : (ghost.slots i).IsWaiting config i id age) (c : Call)
    (hkept : id ∉ ghost.displacedIdsOf c)
    (hearly : age + (if c.counts id.instrumentCode then 1 else 0) < config.driftTradeDelay) :
    (((ghost.call c).1.slots i).IsWaiting config i id
      (age + if c.counts id.instrumentCode then 1 else 0)) ∧
      id ∉ ghost.decisionIdsOf c := by
  cases c with
  | injectBbo book =>
    simp only [displacedIdsOf, List.mem_append, not_or] at hkept
    refine ⟨isWaiting_injectAsk (isWaiting_injectBid h book hkept.1) book hkept.2, ?_⟩
    simp [decisionIdsOf, call]
  | observeTrade tick book =>
    constructor
    · by_cases hvalid : isValidTrade tick book
      · rw [call, slots_observeTrade ghost hvalid]
        have hcases := observed_cases hdelay hvalid hsound i
        generalize observed tick book ghost i = out at hcases
        cases hcases with
        | idle hbefore hafter => exact absurd h.state_eq hbefore
        | filled hbefore hid hafter => exact absurd h.state_eq hbefore
        | waiting hbefore hafter =>
          obtain ⟨rfl, rfl⟩ := isWaiting_unique h hbefore
          have hage : (if id.instrumentCode = tick.instrumentCode then age + 1 else age) =
              age + if Call.counts id.instrumentCode (.observeTrade tick book) then 1 else 0 := by
            by_cases heq : id.instrumentCode = tick.instrumentCode
            · simp [Call.counts, hvalid, heq]
            · simp [Call.counts, heq, Ne.symm heq]
          rwa [hage] at hafter
        | decided hbefore hinstrument hdue hafter =>
          obtain ⟨rfl, rfl⟩ := isWaiting_unique h hbefore
          simp only [Call.counts, hvalid, hinstrument, beq_self_eq_true, Bool.and_self,
            if_true] at hearly
          omega
      · rw [call, observeTrade, if_neg hvalid]
        simpa [Call.counts, hvalid] using h
    · intro hmem
      obtain ⟨hcounts, hdue⟩ := mem_decisionIdsOf hdelay hsound h hmem
      rw [if_pos hcounts] at hearly
      omega

/-- A fill waits through a run with too few trades of its instrument. -/
theorem isWaiting_after (hdelay : config.driftTradeDelay ≤ 2 ^ 24 + 1) (hsound : ghost.IsSound)
    (h : (ghost.slots i).IsWaiting config i id age) (calls : List Call)
    (hkept : id ∉ along displacedIdsOf ghost calls)
    (hearly : age + calls.countP (Call.counts id.instrumentCode) < config.driftTradeDelay) :
    (((ghost.after calls).slots i).IsWaiting config i id
      (age + calls.countP (Call.counts id.instrumentCode))) ∧
      id ∉ along decisionIdsOf ghost calls := by
  induction calls generalizing ghost age with
  | nil => exact ⟨h, List.not_mem_nil⟩
  | cons c calls ih =>
    rw [along, List.mem_append, not_or] at hkept
    rw [List.countP_cons] at *
    obtain ⟨hwaiting, hundecided⟩ := isWaiting_call hdelay hsound h c hkept.1 (by omega)
    have hsum : age + (calls.countP (Call.counts id.instrumentCode) +
        if Call.counts id.instrumentCode c then 1 else 0) =
        age + (if Call.counts id.instrumentCode c then 1 else 0) +
          calls.countP (Call.counts id.instrumentCode) := by
      omega
    rw [hsum] at hearly ⊢
    obtain ⟨hlast, hrest⟩ := ih (isSound_call hdelay hsound c) hwaiting hkept.2 hearly
    refine ⟨hlast, ?_⟩
    rw [along, List.mem_append, not_or]
    exact ⟨hundecided, hrest⟩

/-- The trade that completes the delay decides a fill once. -/
theorem count_decisionIdsOf (hdelay : config.driftTradeDelay ≤ 2 ^ 24 + 1)
    (hsound : ghost.IsSound) (h : (ghost.slots i).IsWaiting config i id age) (trade : Call)
    (hcounts : trade.counts id.instrumentCode) (hdue : age + 1 = config.driftTradeDelay) :
    (ghost.decisionIdsOf trade).count id = 1 := by
  cases trade with
  | injectBbo book => simp [Call.counts] at hcounts
  | observeTrade tick book =>
    simp only [Call.counts, Bool.and_eq_true, beq_iff_eq] at hcounts
    obtain ⟨hvalid, hinstrument⟩ := hcounts
    rw [decisionIdsOf, call, decisions_observeTrade ghost hvalid, List.map_filterMap]
    apply List.count_eq_one_of_mem
    · apply (List.nodup_finRange config.capacity).filterMap
      intro j j' id' hj hj'
      obtain ⟨d, hd, rfl⟩ := Option.map_eq_some_iff.mp hj
      obtain ⟨d', hd', heq⟩ := Option.map_eq_some_iff.mp hj'
      obtain ⟨_, hwaiting, -, -⟩ := waiting_of_mem_decisionIds hdelay hsound hvalid j hd
      obtain ⟨_, hwaiting', -, -⟩ := waiting_of_mem_decisionIds hdelay hsound hvalid j' hd'
      apply Fin.ext
      rw [← hwaiting.slot_eq, ← hwaiting'.slot_eq, heq]
    · rw [List.mem_filterMap]
      refine ⟨i, List.mem_finRange i, ?_⟩
      have hcases := observed_cases hdelay hvalid hsound i
      generalize observed tick book ghost i = out at hcases
      cases hcases with
      | idle hbefore hafter => exact absurd h.state_eq hbefore
      | filled hbefore hid hafter => exact absurd h.state_eq hbefore
      | waiting hbefore hafter =>
        obtain ⟨rfl, rfl⟩ := isWaiting_unique h hbefore
        rw [if_pos hinstrument.symm] at hafter
        have := hafter.age_lt
        omega
      | decided hbefore hinstrument' hdue' hafter =>
        obtain ⟨rfl, -⟩ := isWaiting_unique h hbefore
        rfl

/-- A fill comes from a valid trade and then waits in its slot. -/
private theorem isWaiting_of_mem_fillIdsOf (hdelay : config.driftTradeDelay ≤ 2 ^ 24 + 1)
    (hsound : ghost.IsSound) {c : Call} (hmem : id ∈ ghost.fillIdsOf c) :
    c.tradeKey? = some (id.instrumentCode, id.sequence) ∧
      ∃ i, ((ghost.call c).1.slots i).IsWaiting config i id 0 := by
  cases c with
  | injectBbo book => simp [fillIdsOf, call] at hmem
  | observeTrade tick book =>
    rw [fillIdsOf, call] at hmem
    by_cases hvalid : isValidTrade tick book
    · rw [fills_observeTrade ghost hvalid, List.map_filterMap, List.mem_filterMap] at hmem
      obtain ⟨i, -, hi⟩ := hmem
      obtain ⟨fill, hfill, rfl⟩ := Option.map_eq_some_iff.mp hi
      have hslot := slots_observeTrade ghost hvalid i
      have hcases := observed_cases hdelay hvalid hsound i
      generalize observed tick book ghost i = out at hcases hfill hslot
      cases hcases with
      | idle hbefore hafter => simp at hfill
      | waiting hbefore hafter => simp at hfill
      | decided hbefore hinstrument hdue hafter => simp at hfill
      | filled hbefore hid hafter =>
        obtain rfl : _ = fill := Option.some.inj hfill
        constructor
        · rw [Call.tradeKey?, if_pos hvalid, hid]
        · refine ⟨i, ?_⟩
          rwa [call, hslot]
    · rw [observeTrade, if_neg hvalid] at hmem
      simp at hmem

private theorem nodup_fillIdsOf (hdelay : config.driftTradeDelay ≤ 2 ^ 24 + 1)
    (hsound : ghost.IsSound) (c : Call) : (ghost.fillIdsOf c).Nodup := by
  cases c with
  | injectBbo book => exact List.nodup_nil
  | observeTrade tick book =>
    rw [fillIdsOf, call]
    by_cases hvalid : isValidTrade tick book
    · rw [fills_observeTrade ghost hvalid, List.map_filterMap]
      apply (List.nodup_finRange config.capacity).filterMap
      have hslot : ∀ (slot : Fin config.capacity) fill,
          (observed tick book ghost slot).2.1 = some fill → fill.fillId.slot = slot := by
        intro slot fill hfill
        have hcases := observed_cases hdelay hvalid hsound slot
        generalize observed tick book ghost slot = out at hcases hfill
        cases hcases with
        | idle hbefore hafter => simp at hfill
        | waiting hbefore hafter => simp at hfill
        | decided hbefore hinstrument hdue hafter => simp at hfill
        | filled hbefore hid hafter =>
          obtain rfl : _ = fill := Option.some.inj hfill
          exact hafter.slot_eq
      intro j j' id' hj hj'
      obtain ⟨fill, hfill, rfl⟩ := Option.map_eq_some_iff.mp hj
      obtain ⟨fill', hfill', heq⟩ := Option.map_eq_some_iff.mp hj'
      apply Fin.ext
      rw [← hslot j fill hfill, ← hslot j' fill' hfill', heq]
    · rw [observeTrade, if_neg hvalid]
      exact List.nodup_nil

private theorem tradeKey_of_mem_over (hdelay : config.driftTradeDelay ≤ 2 ^ 24 + 1)
    (hsound : ghost.IsSound) {calls : List Call} (hmem : id ∈ along fillIdsOf ghost calls) :
    (id.instrumentCode, id.sequence) ∈ calls.filterMap Call.tradeKey? := by
  induction calls generalizing ghost with
  | nil => exact absurd hmem List.not_mem_nil
  | cons c calls ih =>
    rw [along, List.mem_append] at hmem
    rcases hmem with hnow | hlater
    · obtain ⟨hkey, -⟩ := isWaiting_of_mem_fillIdsOf hdelay hsound hnow
      exact List.mem_filterMap.mpr ⟨c, List.mem_cons_self, hkey⟩
    · obtain ⟨trade, htrade, hkey⟩ :=
        List.mem_filterMap.mp (ih (isSound_call hdelay hsound c) hlater)
      exact List.mem_filterMap.mpr ⟨trade, List.mem_cons_of_mem c htrade, hkey⟩

/-- Trades under distinct sequence numbers bring fills under distinct identifiers. -/
private theorem nodup_over_fillIdsOf (hdelay : config.driftTradeDelay ≤ 2 ^ 24 + 1)
    (hsound : ghost.IsSound) {calls : List Call}
    (hkeys : (calls.filterMap Call.tradeKey?).Nodup) : (along fillIdsOf ghost calls).Nodup := by
  induction calls generalizing ghost with
  | nil => exact List.nodup_nil
  | cons c calls ih =>
    have hnext := isSound_call hdelay hsound c
    have htail : (calls.filterMap Call.tradeKey?).Nodup := by
      rw [List.filterMap_cons] at hkeys
      split at hkeys
      · exact hkeys
      · exact (List.nodup_cons.mp hkeys).2
    rw [along, List.nodup_append]
    refine ⟨nodup_fillIdsOf hdelay hsound c, ih hnext htail, ?_⟩
    rintro id hnow _ hlater rfl
    obtain ⟨hkey, -⟩ := isWaiting_of_mem_fillIdsOf hdelay hsound hnow
    rw [List.filterMap_cons_some hkey] at hkeys
    exact (List.nodup_cons.mp hkeys).1 (tradeKey_of_mem_over hdelay hnext hlater)

/-- What is known of a fill that waits from its first trade on. -/
theorem isFollowedUp_of_isWaiting (hdelay : config.driftTradeDelay ≤ 2 ^ 24 + 1)
    (hsound : ghost.IsSound) (h : (ghost.slots i).IsWaiting config i id 0) :
    ghost.IsFollowedUp id where
  waits later hkept hearly := by
    obtain ⟨hwaiting, hundecided⟩ := isWaiting_after hdelay hsound h later hkept (by omega)
    refine ⟨?_, hundecided⟩
    exact List.mem_filterMap.mpr ⟨i, List.mem_finRange i, hwaiting.pendingId_eq⟩
  decided later trade hkept hcounts hdue := by
    obtain ⟨hwaiting, hundecided⟩ := isWaiting_after hdelay hsound h later hkept (by omega)
    refine ⟨?_, hundecided⟩
    exact count_decisionIdsOf hdelay (isSound_after hdelay hsound later) hwaiting trade hcounts
      (by omega)

end Following

/-! ## Every fill is accounted for -/

private theorem pendingIds_new (config : GhostBookConfig) : (new config).pendingIds = [] := by
  simp [pendingIds, new, emptySlot, GhostSlot.pendingId]

private theorem isSound_new (config : GhostBookConfig) : (new config).IsSound := by
  intro slot hpending
  simp [new, emptySlot] at hpending

private theorem length_pendingIds {ghost : GhostBook config} (hsound : ghost.IsSound) :
    ghost.pendingIds.length = ghost.pendingDrifts := by
  rw [pendingIds, pendingDrifts, List.length_filterMap_eq_countP]
  apply List.countP_congr
  intro slot _
  by_cases hpending : (ghost.slots slot).state = .pendingDrift
  · obtain ⟨id, age, hwaiting⟩ := hsound slot hpending
    simp [hwaiting.pendingId_eq, hpending]
  · simp [GhostSlot.pendingId_eq_none hpending, hpending]

/-- Every fill is pending, decided at the trade that completes the delay, or written over
where the whole table was pending, and the counters say so. -/
theorem fills_accounted {start : GhostBook config} (hfresh : start.IsFresh)
    (hdelay : config.driftTradeDelay ≤ 2 ^ 24 + 1) (calls : List Call) :
    start.FillsAccounted calls := by
  obtain rfl : start = new config := by
    rcases hfresh with rfl | ⟨used, rfl⟩
    · rfl
    · exact reset_eq_new used
  have hsound := isSound_new config
  have hfates := balance_after hdelay hsound calls
  rw [pendingIds_new, List.nil_append] at hfates
  have hcounted : (new config).HasCounted 0 0 := ⟨rfl, rfl, rfl, rfl⟩
  obtain ⟨hfills, hdecisions, hconfirmed, hinverted⟩ := hasCounted_after hcounted calls
  constructor
  · have hlength := hfates.length_eq
    rw [List.length_append, List.length_append,
      length_pendingIds (isSound_after hdelay hsound calls)] at hlength
    omega
  · exact hconfirmed
  · exact hinverted
  · exact hfates
  · intro hkeys id hid
    have hcount := hfates.count_eq id
    rw [List.count_append, List.count_append,
      (nodup_over_fillIdsOf hdelay hsound hkeys).count, if_pos hid] at hcount
    exact hcount.symm
  · intro before c later _ id hid
    have hbefore := isSound_after hdelay hsound before
    obtain ⟨-, i, hwaiting⟩ := isWaiting_of_mem_fillIdsOf hdelay hbefore hid
    rw [after_append]
    exact isFollowedUp_of_isWaiting hdelay (isSound_call hdelay hbefore c) hwaiting

/-- A table of one slot and a delay of one trade. -/
private def oneSlot : GhostBookConfig := ⟨1, 1, .finite 0, .finite (1 / 100), le_rfl, le_rfl⟩

private def bidOnly : InternalOrderBook :=
  ⟨"btc-usd", [.finite 10], [], some (.finite 100), none, some (.finite 100), .finite 1, .finite 1⟩

/-- An order is written and filled, and another written while the fill is pending. -/
private def crowdedRun : List Call :=
  [.injectBbo bidOnly,
    .observeTrade ⟨"btc-usd", .finite 100, .finite 12, .sell, .finite 2⟩ bidOnly,
    .injectBbo bidOnly]

theorem crowded_fill_accounted : (new oneSlot).FillsAccounted crowdedRun :=
  fills_accounted (Or.inl rfl) (by decide) crowdedRun

/-- In a full table the pending fill is lost without a decision, and the counters differ. -/
theorem crowded_fill_dropped :
    along fillIdsOf (new oneSlot) crowdedRun = [⟨"btc-usd", .finite 2, 0⟩] ∧
      ((new oneSlot).after crowdedRun).pendingIds = [] ∧
      along decisionIdsOf (new oneSlot) crowdedRun = [] ∧
      ((new oneSlot).after crowdedRun).ghostFills ≠
        ((new oneSlot).after crowdedRun).pendingDrifts +
          ((new oneSlot).after crowdedRun).greenLights +
          ((new oneSlot).after crowdedRun).redLights +
          ((new oneSlot).after crowdedRun).noEdgeSignals := by
  decide +kernel

end GhostBook

end Yevow.Shadow
