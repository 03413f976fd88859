import Yevow.Core.JavaScript.Reference
import Yevow.Models.Engine.Book.Reference
import Yevow.Models.Engine.Book.Runs

/-!
# A book that follows its reference

The reference of a market starts from a snapshot and is edited by the accepted deltas. As
long as no reset intervenes, the two sides hold it, the accepted sequence numbers continue
the snapshot's, and no accepted book is crossed.
-/

namespace Yevow.Engine

/-! ## The reference of a market -/

/-- The size at each raw price of both sides. -/
abbrev BookReference : Type := OrderBookSide → ℤ →₀ ℚ

/-- The number of units of a price that is a whole number of them. -/
def priceUnits (price : ℚ) : ℤ := Arithmetic.mathRound (price * 10 ^ 8)

/-- A side of the reference once a raw price has a new size; size zero removes the price. -/
noncomputable def setReferenceLevel (reference : ℤ →₀ ℚ) (price size : ℚ) : ℤ →₀ ℚ :=
  reference.update (priceUnits price) size

/-- The levels of a snapshot. -/
noncomputable def snapshotReference (snapshot : OrderBookSnapshot) : BookReference
  | .bid => snapshot.bids.foldl (fun r level => setReferenceLevel r level.price level.size) 0
  | .ask => snapshot.asks.foldl (fun r level => setReferenceLevel r level.price level.size) 0

/-- The reference after an accepted delta. -/
noncomputable def BookReference.accept (reference : BookReference) (delta : BookDelta) :
    BookReference :=
  Function.update reference delta.side
    (setReferenceLevel (reference delta.side) delta.price delta.size)

/-- Deltas whose sequence numbers continue an earlier one: they increase, and those of
Hyperliquid are contiguous. -/
def ContinuesFrom : ℤ → List BookDelta → Prop
  | _, [] => True
  | last, delta :: deltas =>
    last < delta.sequence ∧ (delta.source = .hyperliquid → delta.sequence = last + 1) ∧
      ContinuesFrom delta.sequence deltas

private theorem priceUnits_of_inUnits {price : ℚ} {units : ℤ} (h : InUnits price units) :
    priceUnits price = units := by
  rw [priceUnits, h, div_mul_cancel₀ _ (by norm_num), mathRound_intCast]

/-- An `upsert` that does not throw sets a level of the reference. -/
theorem Represents.upsert_level {tickSize : ℚ} {book book' : SortedBookSide}
    {reference : ℤ →₀ ℚ} (h : Represents tickSize book reference) {price size : ℚ}
    (hprice : ∃ units, InUnits price units) {updatedAt : String}
    (hok : book.upsert .unrounded price size updatedAt tickSize = .ok book') :
    Represents tickSize book' (setReferenceLevel reference price size) ∧
      book'.side = book.side := by
  obtain ⟨units, hunits⟩ := hprice
  rw [setReferenceLevel, priceUnits_of_inUnits hunits]
  exact h.upsert hunits hok

private theorem represents_upsertLevels {tickSize : ℚ} {levels : List OrderBookSnapshotLevel}
    {updatedAt : String} {start book : SortedBookSide} {reference : ℤ →₀ ℚ}
    (hstart : Represents tickSize start reference)
    (hunits : ∀ level ∈ levels, ∃ units, InUnits level.price units)
    (hok : upsertLevels .unrounded start levels updatedAt tickSize = .ok book) :
    Represents tickSize book
      (levels.foldl (fun r level => setReferenceLevel r level.price level.size) reference) ∧
      book.side = start.side := by
  unfold upsertLevels at hok
  induction levels generalizing start reference with
  | nil =>
    obtain rfl := Except.ok.inj hok
    exact ⟨hstart, rfl⟩
  | cons level levels ih =>
    rw [List.foldlM_cons] at hok
    obtain ⟨next, hnext, hrest⟩ := Except.bind_eq_ok.mp hok
    obtain ⟨hrepresents, hside⟩ := hstart.upsert_level (hunits level List.mem_cons_self) hnext
    obtain ⟨hfinal, hsame⟩ := ih hrepresents
      (fun l hl => hunits l (List.mem_cons_of_mem _ hl)) hrest
    exact ⟨hfinal, hsame.trans hside⟩

/-! ## What a delta does to the sides -/

namespace OrderBookStores

/-- The last sequence number of a market. -/
def lastSequence (stores : OrderBookStores) (key : String) : Option ℤ :=
  (stores.sync.get? key).bind BookSyncState.lastSequence

/-- Two stores show the same of a market. -/
def SameMarket (stores stores' : OrderBookStores) (key : String) : Prop :=
  (∀ side, stores'.getInstrumentBook key side = stores.getInstrumentBook key side) ∧
    stores'.lastSequence key = stores.lastSequence key

variable {stores : OrderBookStores} {key k : String}

@[simp] theorem getInstrumentBook_setSync (syncState : BookSyncState) (side : OrderBookSide) :
    (stores.setSync key syncState).getInstrumentBook k side =
      stores.getInstrumentBook k side := by
  cases side <;> rfl

private theorem getInstrumentBook_setSide (book : SortedBookSide) (side s : OrderBookSide) :
    (stores.setSide key book side).getInstrumentBook k s =
      if k = key ∧ s = side then book else stores.getInstrumentBook k s := by
  cases side <;> cases s <;>
    simp only [setSide, getInstrumentBook, Rows.get?_set, and_true, reduceCtorEq, and_false,
      if_false] <;> split_ifs <;> rfl

private theorem getInstrumentBook_rebuildBookSnapshot {config : OrderBookReconstructorConfig}
    {market : OrderBookMarketContext} {source : MarketDataSource} {syncState : BookSyncState}
    {sequence : ℤ} {updatedAt : String} {timeToBookMs : ℤ} (side : OrderBookSide) :
    (stores.rebuildBookSnapshot config market source syncState sequence updatedAt
      timeToBookMs).getInstrumentBook k side = stores.getInstrumentBook k side := by
  cases side <;> simp only [rebuildBookSnapshot, getInstrumentBook, Rows.get?_set] <;>
    split_ifs with hk
  · rw [hk]
    rfl
  · rfl
  · rw [hk]
    rfl
  · rfl

private theorem lastSequence_set {sync : Rows String BookSyncState}
    {orderBook : Rows String InternalOrderBook}
    {bids asks : Rows String SortedBookSide} {syncState : BookSyncState} :
    (OrderBookStores.mk orderBook bids asks (sync.set key syncState)).lastSequence k =
      if k = key then syncState.lastSequence
      else (sync.get? k).bind BookSyncState.lastSequence := by
  simp only [lastSequence, Rows.get?_set]
  split_ifs <;> rfl

section EditBook

variable {config : OrderBookReconstructorConfig} {market : OrderBookMarketContext}
  {delta : BookDelta} {syncState : BookSyncState} {side : SortedBookSide} {updatedAt : String}
  {timeToBookMs : ℤ}

private theorem getInstrumentBook_editBook (s : OrderBookSide) :
    (stores.editBook config market delta syncState side updatedAt
      timeToBookMs).2.getInstrumentBook k s =
        if k = market.marketKey ∧ s = delta.side then side else stores.getInstrumentBook k s := by
  simp [editBook, getInstrumentBook_rebuildBookSnapshot, getInstrumentBook_setSide]

private theorem sync_editBook :
    (stores.editBook config market delta syncState side updatedAt timeToBookMs).2.sync =
      stores.sync.set market.marketKey syncState := by
  simp [editBook]

private theorem top_editBook :
    (stores.editBook config market delta syncState side updatedAt timeToBookMs).1.bids =
      ((stores.editBook config market delta syncState side updatedAt
        timeToBookMs).2.getInstrumentBook market.marketKey .bid).top config.topLevels ∧
    (stores.editBook config market delta syncState side updatedAt timeToBookMs).1.asks =
      ((stores.editBook config market delta syncState side updatedAt
        timeToBookMs).2.getInstrumentBook market.marketKey .ask).top config.topLevels := by
  simp only [editBook, getInstrumentBook_rebuildBookSnapshot]
  exact ⟨rfl, rfl⟩

end EditBook

end OrderBookStores

private theorem lastSequence_getOrCreateBookSyncState (stores : OrderBookStores)
    (market : OrderBookMarketContext) (source : MarketDataSource) :
    (getOrCreateBookSyncState stores.sync market source).lastSequence =
      stores.lastSequence market.marketKey := by
  unfold getOrCreateBookSyncState OrderBookStores.lastSequence
  cases stores.sync.get? market.marketKey <;> rfl

namespace AppliedBookUpdate

/-- The book of an accepted delta. -/
def acceptedBook? : Except String AppliedBookUpdate → Option InternalOrderBook
  | .ok (.accepted book ..) => some book
  | _ => none

/-- The delta was answered by a reset. -/
def resets : Except String AppliedBookUpdate → Bool
  | .ok (.rejected .sequenceGap ..) | .ok (.rejected .crossedBook ..) => true
  | _ => false

/-- The delta was a duplicate or came out of order. -/
def isDuplicate : Except String AppliedBookUpdate → Bool
  | .ok (.rejected .duplicateOrOutOfOrder ..) => true
  | _ => false

end AppliedBookUpdate

open AppliedBookUpdate OrderBookStores

/-- An accepted delta: it continues the market's sequence and edits one side, and the book
built from the two sides is not crossed. -/
structure AcceptedDelta (ar : EngineArithmetic) (config : OrderBookReconstructorConfig)
    (host : BookHost) (delta : BookDelta) (updatedAt : String) (book : InternalOrderBook)
    (after : BookHost) : Prop where
  increases : ∀ last, host.stores.lastSequence
    (resolveBookMarketContext config delta.toBookMessage).marketKey = some last →
    last < delta.sequence ∧ (delta.source = .hyperliquid → delta.sequence ≤ last + 1)
  edited : ∃ side, (host.stores.getInstrumentBook
      (resolveBookMarketContext config delta.toBookMessage).marketKey delta.side).upsert ar
      delta.price delta.size updatedAt
      (resolveBookMarketContext config delta.toBookMessage).tickSize = .ok side ∧
    ∀ s, after.stores.getInstrumentBook
        (resolveBookMarketContext config delta.toBookMessage).marketKey s =
      if s = delta.side then side
      else host.stores.getInstrumentBook
        (resolveBookMarketContext config delta.toBookMessage).marketKey s
  lastSequence : after.stores.lastSequence
    (resolveBookMarketContext config delta.toBookMessage).marketKey = some delta.sequence
  others : ∀ key, key ≠ (resolveBookMarketContext config delta.toBookMessage).marketKey →
    host.stores.SameMarket after.stores key
  bids : book.bids = (after.stores.getInstrumentBook
    (resolveBookMarketContext config delta.toBookMessage).marketKey .bid).top config.topLevels
  asks : book.asks = (after.stores.getInstrumentBook
    (resolveBookMarketContext config delta.toBookMessage).marketKey .ask).top config.topLevels
  bestBid : book.bestBid = book.bids.head?.map PriceLevel.price
  bestAsk : book.bestAsk = book.asks.head?.map PriceLevel.price
  uncrossed : isCrossedBook book = false

/-- What a delta can do: be answered by a reset, be left out, or be accepted. -/
inductive DeltaEffect (ar : EngineArithmetic) (config : OrderBookReconstructorConfig)
    (host : BookHost) (delta : BookDelta) (updatedAt : String) :
    Except String AppliedBookUpdate → BookHost → Prop
  | purged {update : Except String AppliedBookUpdate} {after : BookHost}
      (h : resets update = true) : DeltaEffect ar config host delta updatedAt update after
  | leftOut {update : Except String AppliedBookUpdate} {after : BookHost}
      (h : acceptedBook? update = none)
      (hsame : ∀ key, host.stores.SameMarket after.stores key)
      (hduplicate : isDuplicate update = true → after.stores.bids = host.stores.bids ∧
        after.stores.asks = host.stores.asks ∧ after.stores.orderBook = host.stores.orderBook) :
      DeltaEffect ar config host delta updatedAt update after
  | accepted {book : InternalOrderBook} {status : CrossCheckStatus} {timeToBookMs : ℤ}
      {after : BookHost} (h : AcceptedDelta ar config host delta updatedAt book after) :
      DeltaEffect ar config host delta updatedAt (.ok (.accepted book status timeToBookMs)) after

section Effect

variable {ar : EngineArithmetic} {config : OrderBookReconstructorConfig}

private theorem sameMarket_getOrCreate (stores : OrderBookStores)
    (market : OrderBookMarketContext) (source : MarketDataSource) (key : String) :
    stores.SameMarket (stores.setSync market.marketKey
      (getOrCreateBookSyncState stores.sync market source)) key := by
  refine ⟨fun side => by simp, ?_⟩
  rw [setSync, lastSequence_set, lastSequence_getOrCreateBookSyncState]
  split_ifs with hk
  · rw [hk]
  · rfl

private theorem sameMarket_opened (stores : OrderBookStores) (key k : String)
    (side : OrderBookSide) :
    stores.SameMarket (stores.setSide key (stores.getInstrumentBook key side) side) k := by
  constructor
  · intro s
    rw [getInstrumentBook_setSide]
    split_ifs with hk
    · rw [hk.1, hk.2]
    · rfl
  · cases side <;> rfl

private theorem sameMarket_trans {first second third : OrderBookStores} {key : String}
    (h : first.SameMarket second key) (h' : second.SameMarket third key) :
    first.SameMarket third key :=
  ⟨fun side => (h'.1 side).trans (h.1 side), h'.2.trans h.2⟩

private theorem continues_of_gate {lastSequence : Option ℤ} {source : MarketDataSource}
    {sequence last : ℤ} (hgap : opensSequenceGap lastSequence source sequence ≠ true)
    (hduplicate : isDuplicateOrOutOfOrder lastSequence sequence ≠ true)
    (hlast : lastSequence = some last) :
    last < sequence ∧ (source = .hyperliquid → sequence ≤ last + 1) := by
  subst hlast
  simp [opensSequenceGap, isDuplicateOrOutOfOrder] at hgap hduplicate
  exact ⟨hduplicate, hgap⟩

private theorem lastSequence_crossCheck {next : BookSyncState} (status : CrossCheckStatus)
    (time : CrossCheckTime) :
    (applyTopOfBookCrossCheckSync next status time).lastSequence = next.lastSequence := by
  cases status <;> rfl

/-- A delta is answered by a reset, left out, or accepted. -/
theorem applyDelta_effect (host : BookHost) (delta : BookDelta) (updatedAt : String)
    (time : CrossCheckTime) (storageAnswers : Bool) :
    DeltaEffect ar config host delta updatedAt
      (host.applyDelta ar config delta updatedAt time storageAnswers).1
      (host.applyDelta ar config delta updatedAt time storageAnswers).2 := by
  have hopened := sameMarket_getOrCreate host.stores
    (resolveBookMarketContext config delta.toBookMessage) delta.source
  have hlast := lastSequence_getOrCreateBookSyncState host.stores
    (resolveBookMarketContext config delta.toBookMessage) delta.source
  unfold BookHost.applyDelta
  simp only
  split
  · exact .leftOut rfl hopened (fun h => Bool.noConfusion h)
  · split
    · exact .purged rfl
    · next hgap =>
      split
      · exact .leftOut rfl hopened (fun _ => ⟨rfl, rfl, rfl⟩)
      · next hduplicate =>
        unfold BookHost.applyGatedDelta
        simp only
        split
        · exact .leftOut rfl (fun key =>
            sameMarket_trans (hopened key) (sameMarket_opened _ _ key _))
            (fun h => Bool.noConfusion h)
        · next side hside =>
          split
          · exact .purged rfl
          · next hcrossed =>
            rw [getInstrumentBook_setSync] at hside
            refine .accepted ⟨fun last hmarket => ?_, ⟨side, hside, fun s => ?_⟩, ?_,
              fun key hkey => ⟨fun s => ?_, ?_⟩, ?_, ?_, rfl, rfl, ?_⟩
            · exact continues_of_gate hgap hduplicate (hlast.trans hmarket)
            · simp [getInstrumentBook_editBook]
            · simp only [setSync, lastSequence_set, if_true, lastSequence_crossCheck]
              rfl
            · simp [getInstrumentBook_editBook, hkey]
            · simp only [setSync, lastSequence_set, if_neg hkey, sync_editBook, Rows.get?_set]
              rfl
            · rw [getInstrumentBook_setSync]
              exact top_editBook.1
            · rw [getInstrumentBook_setSync]
              exact top_editBook.2
            · simpa using hcrossed

end Effect

/-! ## Sequences of deltas -/

/-- A call of `applyDelta`. -/
structure DeltaCall where
  delta : BookDelta
  updatedAt : String
  time : CrossCheckTime
  storageAnswers : Bool

/-- A call of `applyDelta`, what it answered and the hosts around it. -/
structure DeltaStep where
  before : BookHost
  call : DeltaCall
  update : Except String AppliedBookUpdate
  after : BookHost

variable (ar : EngineArithmetic) (config : OrderBookReconstructorConfig)

/-- The market of a delta. -/
def DeltaCall.market (call : DeltaCall) : OrderBookMarketContext :=
  resolveBookMarketContext config call.delta.toBookMessage

/-- A call on a host. -/
def DeltaCall.step (call : DeltaCall) (host : BookHost) : DeltaStep :=
  let (update, after) :=
    host.applyDelta ar config call.delta call.updatedAt call.time call.storageAnswers
  ⟨host, call, update, after⟩

/-- The calls of a sequence, one after the other. -/
def BookHost.deltaSteps (host : BookHost) : List DeltaCall → List DeltaStep
  | [] => []
  | call :: calls =>
    call.step ar config host :: (call.step ar config host).after.deltaSteps calls

/-- The host after a sequence of calls. -/
def BookHost.afterDeltas (host : BookHost) (calls : List DeltaCall) : BookHost :=
  calls.foldl (fun host call => (call.step ar config host).after) host

/-- The delta of a step, if a market accepted it. -/
def DeltaStep.accepted? (key : String) (step : DeltaStep) : Option BookDelta :=
  if (step.call.market config).marketKey = key ∧ (acceptedBook? step.update).isSome then
    some step.call.delta
  else none

/-- A market's sides hold a reference and its sync state an accepted sequence number. -/
structure Tracks (stores : OrderBookStores) (key : String) (tickSize : ℚ)
    (reference : BookReference) (last : ℤ) : Prop where
  represents : ∀ side, Represents tickSize (stores.getInstrumentBook key side) (reference side)
  side : ∀ side, (stores.getInstrumentBook key side).side = side
  sequence : stores.lastSequence key = some last

variable {config}

private theorem Tracks.of_same {stores stores' : OrderBookStores} {key : String} {tickSize : ℚ}
    {reference : BookReference} {last : ℤ} (h : Tracks stores key tickSize reference last)
    (hsame : stores.SameMarket stores' key) : Tracks stores' key tickSize reference last := by
  refine ⟨fun side => ?_, fun side => ?_, hsame.2.trans h.sequence⟩
  · rw [hsame.1]
    exact h.represents side
  · rw [hsame.1]
    exact h.side side

/-- An accepted delta edits the reference and continues its sequence. -/
theorem Tracks.accept {host after : BookHost} {delta : BookDelta} {updatedAt : String}
    {book : InternalOrderBook} {tickSize : ℚ} {reference : BookReference} {last : ℤ}
    (h : Tracks host.stores (resolveBookMarketContext config delta.toBookMessage).marketKey
      tickSize reference last)
    (haccepted : AcceptedDelta .unrounded config host delta updatedAt book after)
    (htick : (resolveBookMarketContext config delta.toBookMessage).tickSize = tickSize)
    (hunits : ∃ units, InUnits delta.price units) :
    Tracks after.stores (resolveBookMarketContext config delta.toBookMessage).marketKey tickSize
      (reference.accept delta) delta.sequence := by
  obtain ⟨side, hupsert, hedited⟩ := haccepted.edited
  rw [htick] at hupsert
  obtain ⟨hrepresents, hside⟩ := (h.represents delta.side).upsert_level hunits hupsert
  refine ⟨fun s => ?_, fun s => ?_, haccepted.lastSequence⟩
  · rw [hedited, BookReference.accept]
    split_ifs with hs
    · subst hs
      rw [Function.update_self]
      exact hrepresents
    · rw [Function.update_of_ne hs]
      exact h.represents s
  · rw [hedited]
    split_ifs with hs
    · rw [hside, h.side, hs]
    · exact h.side s

/-- A snapshot starts the reference. -/
theorem tracks_applySnapshot {stores : OrderBookStores} {snapshot : OrderBookSnapshot}
    {updatedAt : String}
    (h : (stores.applySnapshot .unrounded config snapshot updatedAt).1.isOk = true)
    (hunits : ∀ level ∈ snapshot.bids ++ snapshot.asks, ∃ units, InUnits level.price units) :
    Tracks (stores.applySnapshot .unrounded config snapshot updatedAt).2
      (resolveBookMarketContext config snapshot.toBookMessage).marketKey
      (resolveBookMarketContext config snapshot.toBookMessage).tickSize
      (snapshotReference snapshot) snapshot.sequence := by
  unfold applySnapshot at h ⊢
  simp only at h ⊢
  split at h
  · cases h
  · next bidBook askBook hsides =>
    split at h
    · cases h
    · obtain ⟨bid, hbid, hrest⟩ := Except.bind_eq_ok.mp hsides
      obtain ⟨ask, hask, hpair⟩ := Except.bind_eq_ok.mp hrest
      obtain ⟨rfl, rfl⟩ := Prod.mk.inj (Except.ok.inj hpair)
      obtain ⟨hbids, hbidSide⟩ := represents_upsertLevels (represents_empty _ .bid)
        (fun level hl => hunits level (List.mem_append_left _ hl)) hbid
      obtain ⟨hasks, haskSide⟩ := represents_upsertLevels (represents_empty _ .ask)
        (fun level hl => hunits level (List.mem_append_right _ hl)) hask
      refine ⟨fun side => ?_, fun side => ?_, ?_⟩
      · cases side with
        | bid =>
          simpa [getInstrumentBook_rebuildBookSnapshot, getInstrumentBook_setSide,
            snapshotReference] using hbids
        | ask =>
          simpa [getInstrumentBook_rebuildBookSnapshot, getInstrumentBook_setSide,
            snapshotReference] using hasks
      · cases side with
        | bid =>
          simpa [getInstrumentBook_rebuildBookSnapshot, getInstrumentBook_setSide,
            SortedBookSide.empty] using hbidSide
        | ask =>
          simpa [getInstrumentBook_rebuildBookSnapshot, getInstrumentBook_setSide,
            SortedBookSide.empty] using haskSide
      · simp only [rebuildBookSnapshot, lastSequence_set, setSync, if_true]
        rfl

/-- The effect of a call. -/
theorem DeltaCall.effect (call : DeltaCall) (host : BookHost) :
    DeltaEffect ar config host call.delta call.updatedAt (call.step ar config host).update
      (call.step ar config host).after :=
  applyDelta_effect host call.delta call.updatedAt call.time call.storageAnswers

/-- A call that keeps to the conditions of a market: whole units and the market's tick. -/
def DeltaCall.InMarket (config : OrderBookReconstructorConfig) (key : String) (tickSize : ℚ)
    (call : DeltaCall) : Prop :=
  (call.market config).marketKey = key →
    (call.market config).tickSize = tickSize ∧ ∃ units, InUnits call.delta.price units

/-- What a call that no reset answers does to a tracked market. -/
theorem Tracks.step {host : BookHost} {key : String} {tickSize : ℚ} {reference : BookReference}
    {last : ℤ} (h : Tracks host.stores key tickSize reference last) {call : DeltaCall}
    (hcall : call.InMarket config key tickSize)
    (hreset : resets (call.step .unrounded config host).update = false) :
    match (call.step .unrounded config host).accepted? config key with
    | some delta =>
      Tracks (call.step .unrounded config host).after.stores key tickSize
          (reference.accept delta) delta.sequence ∧
        last < delta.sequence ∧ (delta.source = .hyperliquid → delta.sequence = last + 1)
    | none =>
      Tracks (call.step .unrounded config host).after.stores key tickSize reference last := by
  have heffect := @DeltaCall.effect .unrounded config call host
  unfold DeltaStep.accepted?
  rw [show (call.step .unrounded config host).call = call from rfl]
  generalize (call.step .unrounded config host).update = update at heffect hreset ⊢
  generalize (call.step .unrounded config host).after = after at heffect ⊢
  cases heffect with
  | purged hresets => exact Bool.noConfusion (hreset.symm.trans hresets)
  | leftOut hnone hsame _ =>
    rw [if_neg (by simp [hnone])]
    exact h.of_same (hsame key)
  | accepted haccepted =>
    by_cases hkey : (call.market config).marketKey = key
    · rw [if_pos ⟨hkey, rfl⟩]
      obtain ⟨htick, hunits⟩ := hcall hkey
      subst hkey
      obtain ⟨hlast, hnext⟩ := haccepted.increases last h.sequence
      refine ⟨h.accept haccepted htick hunits, hlast, fun hsource => ?_⟩
      have := hnext hsource
      omega
    · rw [if_neg (fun hboth => hkey hboth.1)]
      exact h.of_same (haccepted.others key (Ne.symm hkey))

/-- A market whose sides and accepted deltas follow a reference. -/
structure FollowsReference (config : OrderBookReconstructorConfig) (key : String) (tickSize : ℚ)
    (snapshot : OrderBookSnapshot) (steps : List DeltaStep) (final : BookHost) : Prop where
  /-- The levels of a side are those of the reference. -/
  levels : ∀ side limit,
    ((final.stores.getInstrumentBook key side).top limit).map
        (fun level => (level.price, level.size)) =
      (ReferenceSide.levels tickSize side (((steps.filterMap (·.accepted? config key)).foldl
        BookReference.accept (snapshotReference snapshot)) side)).take limit
  /-- The size kept at a raw price is that of the reference. -/
  rawSizes : ∀ side units,
    (rawSize? tickSize (final.stores.getInstrumentBook key side) units).getD 0 =
      ((steps.filterMap (·.accepted? config key)).foldl BookReference.accept
        (snapshotReference snapshot)) side units
  descending : ∀ limit, (((final.stores.getInstrumentBook key .bid).top limit).map
    PriceLevel.price).Pairwise (· > ·)
  ascending : ∀ limit, (((final.stores.getInstrumentBook key .ask).top limit).map
    PriceLevel.price).Pairwise (· < ·)
  continues : ContinuesFrom snapshot.sequence (steps.filterMap (·.accepted? config key))
  /-- An accepted book of the market is sorted and not crossed. -/
  accepted : ∀ step ∈ steps, (step.call.market config).marketKey = key →
    ∀ book, acceptedBook? step.update = some book →
      (book.bids.map PriceLevel.price).Pairwise (· > ·) ∧
      (book.asks.map PriceLevel.price).Pairwise (· < ·) ∧
      ∀ bestBid bestAsk, book.bids.head?.map PriceLevel.price = some bestBid →
        book.asks.head?.map PriceLevel.price = some bestAsk → bestBid < bestAsk
  duplicates : ∀ step ∈ steps, isDuplicate step.update = true →
    step.after.stores.bids = step.before.stores.bids ∧
      step.after.stores.asks = step.before.stores.asks ∧
      step.after.stores.orderBook = step.before.stores.orderBook ∧
      ∀ k, step.after.stores.lastSequence k = step.before.stores.lastSequence k

/-- Tracking goes on along a sequence of calls that no reset answers. -/
theorem Tracks.afterDeltas {key : String} {tickSize : ℚ} (calls : List DeltaCall)
    {host : BookHost} {reference : BookReference} {last : ℤ}
    (h : Tracks host.stores key tickSize reference last)
    (hcalls : ∀ call ∈ calls, call.InMarket config key tickSize)
    (hreset : ∀ step ∈ host.deltaSteps .unrounded config calls, resets step.update = false) :
    (∃ last', Tracks (host.afterDeltas .unrounded config calls).stores key tickSize
      (((host.deltaSteps .unrounded config calls).filterMap (·.accepted? config key)).foldl
        BookReference.accept reference) last') ∧
    ContinuesFrom last
      ((host.deltaSteps .unrounded config calls).filterMap (·.accepted? config key)) ∧
    ∀ step ∈ host.deltaSteps .unrounded config calls, ∃ reference' last',
      Tracks step.after.stores key tickSize reference' last' := by
  induction calls generalizing host reference last with
  | nil => exact ⟨⟨last, h⟩, trivial, fun step hstep => by cases hstep⟩
  | cons call calls ih =>
    have hcall := hcalls call List.mem_cons_self
    have hrest := fun c hc => hcalls c (List.mem_cons_of_mem call hc)
    have hstep := h.step hcall (hreset _ List.mem_cons_self)
    have hresets := fun s hs => hreset s (List.mem_cons_of_mem _ hs)
    simp only [BookHost.deltaSteps, BookHost.afterDeltas, List.foldl_cons]
    cases haccepted : (call.step .unrounded config host).accepted? config key with
    | none =>
      rw [haccepted] at hstep
      rw [List.filterMap_cons_none haccepted]
      obtain ⟨hfinal, hcontinues, htracks⟩ := ih hstep hrest hresets
      exact ⟨hfinal, hcontinues, List.forall_mem_cons.mpr ⟨⟨_, _, hstep⟩, htracks⟩⟩
    | some delta =>
      rw [haccepted] at hstep
      obtain ⟨htracks, hlast, hnext⟩ := hstep
      rw [List.filterMap_cons_some haccepted, List.foldl_cons]
      obtain ⟨hfinal, hcontinues, hsteps⟩ := ih htracks hrest hresets
      exact ⟨hfinal, ⟨hlast, hnext, hcontinues⟩,
        List.forall_mem_cons.mpr ⟨⟨_, _, htracks⟩, hsteps⟩⟩

private theorem mem_deltaSteps {calls : List DeltaCall} {host : BookHost} {step : DeltaStep}
    (h : step ∈ host.deltaSteps ar config calls) :
    DeltaEffect ar config step.before step.call.delta step.call.updatedAt step.update
      step.after := by
  induction calls generalizing host with
  | nil => cases h
  | cons call calls ih =>
    rcases List.mem_cons.mp h with rfl | hrest
    · exact @DeltaCall.effect ar config call host
    · exact ih hrest

/-- The first levels of a tracked market's sides are sorted by price. -/
private theorem Tracks.sorted {stores : OrderBookStores} {key : String} {tickSize : ℚ}
    {reference : BookReference} {last : ℤ} (h : Tracks stores key tickSize reference last)
    (limit : ℕ) :
    (((stores.getInstrumentBook key .bid).top limit).map PriceLevel.price).Pairwise (· > ·) ∧
      (((stores.getInstrumentBook key .ask).top limit).map PriceLevel.price).Pairwise
        (· < ·) := by
  constructor
  · rw [(h.represents .bid).prices_eq limit, h.side .bid]
    exact (ReferenceSide.levels_descend _ _).take
  · rw [(h.represents .ask).prices_eq limit, h.side .ask]
    exact (ReferenceSide.levels_ascend _ _).take

/-- From a snapshot on, as long as no delta is answered by a reset, a market with a fixed tick
follows the reference that its accepted deltas define. -/
theorem book_follows_reference (config : OrderBookReconstructorConfig) (host : BookHost)
    (snapshot : OrderBookSnapshot) (updatedAt : String)
    (hsnapshot : (host.stores.applySnapshot .unrounded config snapshot updatedAt).1.isOk = true)
    (hunits : ∀ level ∈ snapshot.bids ++ snapshot.asks, ∃ units, InUnits level.price units)
    (calls : List DeltaCall)
    (hcalls : ∀ call ∈ calls,
      call.InMarket config (resolveBookMarketContext config snapshot.toBookMessage).marketKey
        (resolveBookMarketContext config snapshot.toBookMessage).tickSize)
    (hreset : ∀ step ∈ BookHost.deltaSteps .unrounded config
      { host with
        stores := (host.stores.applySnapshot .unrounded config snapshot updatedAt).2 } calls,
      resets step.update = false) :
    FollowsReference config (resolveBookMarketContext config snapshot.toBookMessage).marketKey
      (resolveBookMarketContext config snapshot.toBookMessage).tickSize snapshot
      (BookHost.deltaSteps .unrounded config
        { host with
          stores := (host.stores.applySnapshot .unrounded config snapshot updatedAt).2 } calls)
      (BookHost.afterDeltas .unrounded config
        { host with
          stores := (host.stores.applySnapshot .unrounded config snapshot updatedAt).2 }
        calls) := by
  have hstart := tracks_applySnapshot hsnapshot hunits
  generalize (host.stores.applySnapshot .unrounded config snapshot updatedAt).2 = stores
    at hstart hreset ⊢
  obtain ⟨⟨last, htracks⟩, hcontinues, hsteps⟩ := Tracks.afterDeltas calls
    (show Tracks { host with stores := stores }.stores _ _ _ _ from hstart) hcalls hreset
  refine ⟨fun side limit => ?_, fun side units => ?_, fun limit => (htracks.sorted limit).1,
    fun limit => (htracks.sorted limit).2, hcontinues, fun step hstep hkey book hbook => ?_,
    fun step hstep hduplicate => ?_⟩
  · rw [(htracks.represents side).top_eq limit, htracks.side side]
  · rw [(htracks.represents side).rawSize?_eq]
    split_ifs with hzero
    · exact hzero.symm
    · rfl
  · have heffect := mem_deltaSteps .unrounded hstep
    obtain ⟨reference, last, hafter⟩ := hsteps step hstep
    obtain ⟨before, call, update, after⟩ := step
    cases heffect with
    | purged hresets => exact Bool.noConfusion ((hreset _ hstep).symm.trans hresets)
    | leftOut hnone _ _ => exact absurd (hbook.symm.trans hnone) (by simp)
    | accepted haccepted =>
      obtain rfl := Option.some.inj hbook
      have hsorted := hafter.sorted config.topLevels
      rw [← hkey] at hsorted
      refine ⟨haccepted.bids ▸ hsorted.1, haccepted.asks ▸ hsorted.2,
        fun bestBid bestAsk hbid hask => ?_⟩
      have huncrossed := haccepted.uncrossed
      rw [isCrossedBook, haccepted.bestBid, haccepted.bestAsk, hbid, hask] at huncrossed
      exact not_le.mp (of_decide_eq_false huncrossed)
  · have heffect := mem_deltaSteps .unrounded hstep
    obtain ⟨before, call, update, after⟩ := step
    cases heffect with
    | purged hresets => exact Bool.noConfusion ((hreset _ hstep).symm.trans hresets)
    | leftOut _ hsame hkept =>
      obtain ⟨hbids, hasks, hbooks⟩ := hkept hduplicate
      exact ⟨hbids, hasks, hbooks, fun key => (hsame key).2⟩
    | accepted _ => exact Bool.noConfusion hduplicate

private def btcConfig : OrderBookReconstructorConfig :=
  createTradingOrderBookReconstructor (JavaScript.reference .double) fun _ => 1

private def btcMessage (sequence : ℤ) : BookMessage :=
  ⟨none, "hl", "btc", none, none, sequence, "2026-07-01T12:00:00.000Z", none⟩

private def btcSnapshot : OrderBookSnapshot :=
  ⟨btcMessage 1, .market .hyperliquid, [⟨100, 1, none⟩], [⟨102, 1, none⟩]⟩

private def btcCall (sequence : ℤ) (price size : ℚ) : DeltaCall :=
  ⟨⟨btcMessage sequence, .hyperliquid, .bid, price, size, none, none⟩,
    "2026-07-01T12:00:00.000Z", ⟨0, "2026-07-01T12:00:00.000Z"⟩, true⟩

/-- Two bids of one group, the first of them sent twice. -/
theorem book_follows_reference_btc :
    FollowsReference btcConfig
      (resolveBookMarketContext btcConfig btcSnapshot.toBookMessage).marketKey
      (resolveBookMarketContext btcConfig btcSnapshot.toBookMessage).tickSize btcSnapshot
      (BookHost.deltaSteps .unrounded btcConfig
        { BookHost.initial with
          stores := (BookHost.initial.stores.applySnapshot .unrounded btcConfig btcSnapshot
            "2026-07-01T12:00:00.000Z").2 }
        [btcCall 2 (199 / 2) 3, btcCall 2 (199 / 2) 3, btcCall 3 99 1])
      (BookHost.afterDeltas .unrounded btcConfig
        { BookHost.initial with
          stores := (BookHost.initial.stores.applySnapshot .unrounded btcConfig btcSnapshot
            "2026-07-01T12:00:00.000Z").2 }
        [btcCall 2 (199 / 2) 3, btcCall 2 (199 / 2) 3, btcCall 3 99 1]) := by
  refine book_follows_reference btcConfig .initial btcSnapshot "2026-07-01T12:00:00.000Z"
    (by decide +kernel) ?_ _ ?_ (by decide +kernel)
  · intro level hlevel
    simp only [btcSnapshot, List.cons_append, List.nil_append, List.mem_cons, List.not_mem_nil,
      or_false] at hlevel
    rcases hlevel with rfl | rfl
    · exact ⟨10000000000, by norm_num [InUnits]⟩
    · exact ⟨10200000000, by norm_num [InUnits]⟩
  · intro call hcall _
    simp only [List.mem_cons, List.not_mem_nil, or_false] at hcall
    rcases hcall with rfl | rfl | rfl
    · exact ⟨rfl, 9950000000, by norm_num [InUnits, btcCall]⟩
    · exact ⟨rfl, 9950000000, by norm_num [InUnits, btcCall]⟩
    · exact ⟨rfl, 9900000000, by norm_num [InUnits, btcCall]⟩

end Yevow.Engine
