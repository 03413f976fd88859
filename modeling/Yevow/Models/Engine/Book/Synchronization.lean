import Yevow.Core.Control.Except
import Yevow.Core.JavaScript.Reference
import Yevow.Models.Engine.Book.Runs

/-!
# Synchronized markets

A market counts as synchronized when its last snapshot is still good: no gap, crossed book
or top-of-book mismatch came after it, and no reset. A delta takes the market as synchronized
whenever some snapshot was ever recorded for it, a mismatch leaves the stored book as it was,
and a purge resets the market of an instrument and an exchange, whichever market it marked.
-/

namespace Yevow.Engine

open JavaScript (Runtime)
open BookEvent (snapshotSince isDesyncOf isResetOf)

/-! ## The events of a market -/

/-- The market received a snapshot after its last desynchronization and its last reset. -/
def SyncedBySnapshot (events : List BookEvent) (key : String) : Prop :=
  snapshotSince (isDesyncOf key) key events = true ∧ snapshotSince (isResetOf key) key events = true

/-- A reset with this scope is about the market. -/
def Covers (scope : Option String) (key : String) : Prop := scope = some key ∨ scope = none

instance (scope : Option String) (key : String) : Decidable (Covers scope key) :=
  inferInstanceAs (Decidable (_ ∨ _))

section Events

variable {events : List BookEvent} {key k : String}

private theorem syncedBySnapshot_snapshot : SyncedBySnapshot (.snapshot key :: events) key := by
  simp [SyncedBySnapshot, snapshotSince]

private theorem SyncedBySnapshot.snapshot (h : SyncedBySnapshot events k) (key : String) :
    SyncedBySnapshot (.snapshot key :: events) k := by
  obtain ⟨hdesync, hreset⟩ := h
  constructor
  · simp [snapshotSince, isDesyncOf, hdesync]
  · simp [snapshotSince, isResetOf, hreset]

private theorem SyncedBySnapshot.desync (h : SyncedBySnapshot events k) (hk : k ≠ key) :
    SyncedBySnapshot (.desync key :: events) k := by
  obtain ⟨hdesync, hreset⟩ := h
  constructor
  · simp [snapshotSince, isDesyncOf, hdesync, Ne.symm hk]
  · simp [snapshotSince, isResetOf, hreset]

private theorem SyncedBySnapshot.reset {scope : Option String} (h : SyncedBySnapshot events k)
    (hk : ¬Covers scope k) : SyncedBySnapshot (.reset scope :: events) k := by
  obtain ⟨hdesync, hreset⟩ := h
  have hscope : scope ≠ some k ∧ scope ≠ none := not_or.mp hk
  constructor
  · simp [snapshotSince, isDesyncOf, hdesync]
  · simp [snapshotSince, isResetOf, hreset, hscope.1, hscope.2]

end Events

/-! ## What holds of a market -/

/-- A synchronized market owes it to a snapshot, and the stored book shows the same flag. -/
structure Synchronized (run : BookRun) : Prop where
  snapshot : ∀ key syncState, run.host.stores.sync.get? key = some syncState →
    syncState.isSynced = true → SyncedBySnapshot run.events key
  book : ∀ key book, run.host.stores.orderBook.get? key = some book →
    ∃ syncState, run.host.stores.sync.get? key = some syncState ∧
      syncState.isSynced = book.isSynced

/-- A book is kept under its own market key, which is normalized. -/
def InternalOrderBook.KeptUnder (book : InternalOrderBook) (key : String) : Prop :=
  book.marketKey = key ∧ normalizeMarketKey key = key

/-- The invariant of one market; the persisted book owes its flag to a snapshot too. -/
structure MarketInvariant (host : BookHost) (events : List BookEvent) (key : String) : Prop where
  snapshot : ∀ syncState, host.stores.sync.get? key = some syncState →
    syncState.isSynced = true → SyncedBySnapshot events key
  book : ∀ book, host.stores.orderBook.get? key = some book → book.KeptUnder key ∧
    ∃ syncState, host.stores.sync.get? key = some syncState ∧ syncState.isSynced = book.isSynced
  persisted : ∀ book, host.persisted.get? key = some book → book.KeptUnder key ∧
    (book.isSynced = true → SyncedBySnapshot events key)

section Invariant

variable {host host' : BookHost} {events events' : List BookEvent} {key k : String}

/-- An operation that leaves a market's rows alone, and its snapshot good, keeps them so. -/
theorem MarketInvariant.frame (h : MarketInvariant host events k)
    (hsync : host'.stores.sync.get? k = host.stores.sync.get? k)
    (hbook : host'.stores.orderBook.get? k = host.stores.orderBook.get? k)
    (hpersisted : host'.persisted.get? k = host.persisted.get? k)
    (hevents : SyncedBySnapshot events k → SyncedBySnapshot events' k) :
    MarketInvariant host' events' k where
  snapshot syncState hs hsynced := hevents (h.snapshot syncState (hsync ▸ hs) hsynced)
  book book hb := by
    rw [hbook] at hb
    rw [hsync]
    exact h.book book hb
  persisted book hb := by
    rw [hpersisted] at hb
    exact ⟨(h.persisted book hb).1, fun hs => hevents ((h.persisted book hb).2 hs)⟩

/-- The key of a book has been normalized once. -/
theorem normalizeMarketKey_idem (key : String) :
    normalizeMarketKey (normalizeMarketKey key) = normalizeMarketKey key :=
  JavaScript.toLower_toLower key

end Invariant

/-! ## Snapshots and resets -/

variable {ar : EngineArithmetic} {config : OrderBookReconstructorConfig} {host : BookHost}
  {events : List BookEvent}

private theorem normalizeMarketKey_resolved
    (hconfig : config.normalizeMarketKey = normalizeMarketKey)
    (message : BookMessage) :
    normalizeMarketKey (resolveBookMarketContext config message).marketKey =
      (resolveBookMarketContext config message).marketKey := by
  simp only [resolveBookMarketContext, hconfig]
  exact normalizeMarketKey_idem _

private theorem markets_applySnapshot (hconfig : config.normalizeMarketKey = normalizeMarketKey)
    (h : ∀ k, MarketInvariant host events k) (snapshot : OrderBookSnapshot) (updatedAt : String)
    (k : String) :
    MarketInvariant
      { host with stores := (host.stores.applySnapshot ar config snapshot updatedAt).2 }
      (snapshotEvents (host.stores.applySnapshot ar config snapshot updatedAt).1 ++ events) k := by
  have hnormal := normalizeMarketKey_resolved hconfig snapshot.toBookMessage
  unfold OrderBookStores.applySnapshot
  simp only
  split
  · exact (h k).frame rfl rfl rfl id
  · split
    · exact (h k).frame (by simp) (by simp) rfl id
    · simp only [snapshotEvents, List.singleton_append]
      set key := (resolveBookMarketContext config snapshot.toBookMessage).marketKey with hkey
      by_cases hk : k = key
      · subst hk
        refine ⟨fun _ _ _ => syncedBySnapshot_snapshot, fun book hb => ?_, fun book hb =>
          ⟨((h _).persisted book hb).1, fun _ => syncedBySnapshot_snapshot⟩⟩
        simp only [OrderBookStores.orderBook_rebuildBookSnapshot, ← hkey, Rows.get?_set_self,
          Option.some.injEq] at hb
        subst hb
        refine ⟨⟨rfl, hnormal⟩, _, ?_, rfl⟩
        simp only [OrderBookStores.sync_rebuildBookSnapshot, OrderBookStores.sync_setSync,
          Rows.get?_set_self]
      · refine (h k).frame ?_ ?_ rfl (fun hs => hs.snapshot key)
        · simp [Rows.get?_set, hk]
        · simp [Rows.get?_set, ← hkey, hk]

/-- The persisted book of a market counts as synchronized. -/
def BookHost.PersistedSynced (host : BookHost) (key : String) : Prop :=
  ∃ book, host.persisted.get? key = some book ∧ book.isSynced = true

/-- A reset reaches the storage, or no book that it would delete counts as synchronized. -/
def BookHost.ResetReaches (host : BookHost) (scope : Option String) (storageAnswers : Bool) :
    Prop :=
  storageAnswers = true ∨ ∀ key, Covers scope key → ¬host.PersistedSynced key

private theorem get?_reset {stores : OrderBookStores} {scope : Option String} {k : String} :
    (stores.reset scope).sync.get? k = (if Covers scope k then none else stores.sync.get? k) ∧
      (stores.reset scope).orderBook.get? k =
        if Covers scope k then none else stores.orderBook.get? k := by
  cases scope with
  | none => simp [OrderBookStores.reset, Covers]
  | some key => simp [OrderBookStores.reset, Covers, Rows.get?_delete, eq_comm]

/-- The books that a reset leaves in the storage. -/
theorem persisted_of_reset {instrumentCode sourceExchange : Option String}
    {storageAnswers : Bool} {k : String} {book : InternalOrderBook}
    (h : (host.resetOrderBook instrumentCode sourceExchange storageAnswers).persisted.get? k =
      some book) :
    host.persisted.get? k = some book ∧
      (Covers (resolveResetMarketKey instrumentCode sourceExchange) k →
        storageAnswers = false) := by
  unfold BookHost.resetOrderBook at h
  simp only at h
  cases storageAnswers with
  | false => exact ⟨h, fun _ => rfl⟩
  | true =>
    simp only [if_true] at h
    cases hscope : resolveResetMarketKey instrumentCode sourceExchange with
    | none =>
      rw [hscope] at h
      simp at h
    | some key =>
      rw [hscope] at h
      simp only [Rows.get?_delete] at h
      split_ifs at h with hk
      exact ⟨h, by simp [Covers, Ne.symm hk]⟩

/-- A reset that reaches the storage keeps what holds of every market, provided that a market
which it is not about keeps it. -/
theorem markets_resetOrderBook {before : List BookEvent}
    {instrumentCode sourceExchange : Option String} {storageAnswers : Bool} {k : String}
    (hpersisted : ∀ book, host.persisted.get? k = some book → book.KeptUnder k)
    (hreset : host.ResetReaches (resolveResetMarketKey instrumentCode sourceExchange)
      storageAnswers)
    (h : ¬Covers (resolveResetMarketKey instrumentCode sourceExchange) k →
      MarketInvariant host before k) :
    MarketInvariant (host.resetOrderBook instrumentCode sourceExchange storageAnswers)
      (.reset (resolveResetMarketKey instrumentCode sourceExchange) :: before) k := by
  set scope := resolveResetMarketKey instrumentCode sourceExchange with hscope
  obtain ⟨hsync, hbook⟩ := @get?_reset host.stores scope k
  by_cases hk : Covers scope k
  · rw [if_pos hk] at hsync hbook
    refine ⟨fun syncState hs => ?_, fun book hb => ?_, fun book hb => ?_⟩
    · exact absurd (hsync.symm.trans hs) (by simp)
    · exact absurd (hbook.symm.trans hb) (by simp)
    · obtain ⟨hold, hanswers⟩ := persisted_of_reset hb
      refine ⟨hpersisted book hold, fun hsynced => ?_⟩
      rcases hreset with hyes | hnone
      · exact absurd hyes (by simp [hanswers hk])
      · exact absurd ⟨book, hold, hsynced⟩ (hnone k hk)
  · rw [if_neg hk] at hsync hbook
    have hold := h hk
    refine ⟨fun syncState hs hsynced => ?_, fun book hb => ?_, fun book hb => ?_⟩
    · exact (hold.snapshot syncState (hsync.symm.trans hs) hsynced).reset hk
    · obtain ⟨hkept, syncState, hs, hflag⟩ := hold.book book (hbook.symm.trans hb)
      exact ⟨hkept, syncState, hsync.trans hs, hflag⟩
    · obtain ⟨hkept, hgood⟩ := hold.persisted book (persisted_of_reset hb).1
      exact ⟨hkept, fun hsynced => (hgood hsynced).reset hk⟩

/-! ## Purges -/

/-- The reset of a purge reaches the storage, and it is about the purged market unless neither
the stored nor the persisted book of that market counts as synchronized. -/
structure BookHost.PurgeReaches (host : BookHost) (key : String) (bookSynced : Bool)
    (scope : Option String) (storageAnswers : Bool) : Prop where
  storage : host.ResetReaches scope storageAnswers
  market : ¬Covers scope key → bookSynced = false ∧ ¬host.PersistedSynced key

/-- A purge keeps the invariant of every market. -/
theorem markets_desyncAndReset {key k : String} {syncState : BookSyncState}
    {reason : DeltaRejection} {observedAt : String} {timeToBookMs : ℤ}
    {instrumentCode sourceExchange : String} {storageAnswers bookSynced : Bool}
    (hpersisted : ∀ book, host.persisted.get? k = some book → book.KeptUnder k)
    (hother : k ≠ key → MarketInvariant host events k)
    (hsame : ∀ book, host.stores.orderBook.get? key = some book →
      book.KeptUnder key ∧ book.isSynced = bookSynced)
    (hpurge : host.PurgeReaches key bookSynced
      (resolveResetMarketKey (some instrumentCode) (some sourceExchange)) storageAnswers) :
    MarketInvariant
      (host.desyncAndReset key syncState reason observedAt timeToBookMs instrumentCode
        sourceExchange storageAnswers)
      (.reset (resolveResetMarketKey (some instrumentCode) (some sourceExchange)) ::
        .desync key :: events) k := by
  let marked : BookHost := { host with
    stores := host.stores.setSync key
      (markBookDesynced syncState reason.text observedAt (some timeToBookMs)) }
  have hstorage : marked.ResetReaches
      (resolveResetMarketKey (some instrumentCode) (some sourceExchange)) storageAnswers :=
    hpurge.storage
  refine markets_resetOrderBook (show ∀ book, marked.persisted.get? k = some book → _ from
    hpersisted) hstorage fun hk => ?_
  by_cases hkey : k = key
  · subst hkey
    obtain ⟨hflag, hnone⟩ := hpurge.market hk
    refine ⟨fun s hs hsynced => ?_, fun book hb => ?_, fun book hb => ?_⟩
    · simp only [OrderBookStores.sync_setSync, Rows.get?_set_self, Option.some.injEq] at hs
      subst hs
      exact absurd hsynced (by simp [markBookDesynced])
    · obtain ⟨hkept, hb⟩ := hsame book hb
      refine ⟨hkept, _, Rows.get?_set_self .., ?_⟩
      rw [hb, hflag]
      rfl
    · exact ⟨hpersisted book hb, fun hsynced => absurd ⟨book, hb, hsynced⟩ hnone⟩
  · refine (hother hkey).frame ?_ rfl rfl (fun hs => hs.desync hkey)
    simp [Rows.get?_set, hkey]

/-! ## Deltas -/

/-- A stored book, if the market has one, counts as synchronized. -/
def BookHost.bookSynced (host : BookHost) (key : String) : Bool :=
  (host.stores.orderBook.get? key).any InternalOrderBook.isSynced

private theorem isSynced_getOrCreateBookSyncState (sync : Rows String BookSyncState)
    (market : OrderBookMarketContext) (source : MarketDataSource) :
    (getOrCreateBookSyncState sync market source).isSynced =
      (sync.get? market.marketKey).any BookSyncState.isSynced := by
  unfold getOrCreateBookSyncState
  cases sync.get? market.marketKey <;> rfl

private theorem markets_getOrCreateBookSyncState (h : ∀ k, MarketInvariant host events k)
    (market : OrderBookMarketContext) (source : MarketDataSource) (k : String) :
    MarketInvariant
      { host with
        stores := host.stores.setSync market.marketKey
          (getOrCreateBookSyncState host.stores.sync market source) } events k := by
  have hflag := isSynced_getOrCreateBookSyncState host.stores.sync market source
  by_cases hk : k = market.marketKey
  · subst hk
    refine ⟨fun s hs hsynced => ?_, fun book hb => ?_, (h _).persisted⟩
    · simp only [OrderBookStores.sync_setSync, Rows.get?_set_self, Option.some.injEq] at hs
      rw [← hs, hflag, Option.any_eq_true] at hsynced
      obtain ⟨s', hs', hsynced⟩ := hsynced
      exact (h _).snapshot s' hs' hsynced
    · obtain ⟨hkept, s', hs', hsame⟩ := (h _).book book hb
      refine ⟨hkept, _, Rows.get?_set_self .., ?_⟩
      rw [hflag, hs', ← hsame]
      rfl
  · refine (h k).frame ?_ rfl rfl id
    simp [Rows.get?_set, hk]

/-- What a delta behind the sequence gate must not meet: a market that lost its
synchronization after its last snapshot, a purge that misses the market, or a mismatch on a
market that counts as synchronized. -/
structure GatedDeltaKeepsSync (ar : EngineArithmetic) (config : OrderBookReconstructorConfig)
    (run : BookRun) (market : OrderBookMarketContext) (delta : BookDelta)
    (syncState : BookSyncState) (next : BookSyncState) (book : InternalOrderBook)
    (time : CrossCheckTime) (storageAnswers : Bool) : Prop where
  fresh : syncState.wasSnapshotSeeded = true →
    syncState.isSynced = true ∨ SyncedBySnapshot run.events market.marketKey
  crossed : isCrossedBook book = true →
    run.host.PurgeReaches market.marketKey syncState.wasSnapshotSeeded
      (resolveResetMarketKey (some market.instrumentCode) (some market.sourceExchange))
      storageAnswers
  mismatch : isCrossedBook book = false →
    evaluateTopOfBookCrossCheck ar config next delta book time.checkedAtMs = .mismatch →
    syncState.wasSnapshotSeeded = false ∧ ¬run.host.PersistedSynced market.marketKey

/-- A delta that keeps the synchronization of its market honest. -/
def DeltaKeepsSync (ar : EngineArithmetic) (config : OrderBookReconstructorConfig)
    (run : BookRun) (delta : BookDelta) (updatedAt : String) (time : CrossCheckTime)
    (storageAnswers : Bool) : Prop :=
  let market := resolveBookMarketContext config delta.toBookMessage
  let key := market.marketKey
  let syncState := getOrCreateBookSyncState run.host.stores.sync market delta.source
  let stores := run.host.stores.setSync key syncState
  ∀ timeToBookMs, config.calculateTimeToBookMs delta.exchangeTimestamp updatedAt =
      .ok timeToBookMs →
    (opensSequenceGap syncState.lastSequence delta.source delta.sequence = true →
      run.host.PurgeReaches key (run.host.bookSynced key)
        (resolveResetMarketKey (some market.instrumentCode) (some market.sourceExchange))
        storageAnswers) ∧
    (opensSequenceGap syncState.lastSequence delta.source delta.sequence = false →
      isDuplicateOrOutOfOrder syncState.lastSequence delta.sequence = false →
      ∀ side, (stores.getInstrumentBook key delta.side).upsert ar delta.price delta.size
        updatedAt market.tickSize = .ok side →
      let next := applyDeltaBookSyncState syncState market delta.sequence updatedAt
        syncState.wasSnapshotSeeded timeToBookMs
      GatedDeltaKeepsSync ar config run market delta syncState next
        (stores.editBook config market delta next side updatedAt timeToBookMs).1 time
        storageAnswers)

/-- A delta of a synchronized market that is not cross-checked needs only that a purge would
reach its market and the storage. -/
theorem deltaKeepsSync_of_skip {run : BookRun} {delta : BookDelta} {updatedAt : String}
    {time : CrossCheckTime}
    (hscope : Covers (resolveResetMarketKey
      (some (resolveBookMarketContext config delta.toBookMessage).instrumentCode)
      (some (resolveBookMarketContext config delta.toBookMessage).sourceExchange))
      (resolveBookMarketContext config delta.toBookMessage).marketKey)
    (hsynced : (getOrCreateBookSyncState run.host.stores.sync
      (resolveBookMarketContext config delta.toBookMessage) delta.source).isSynced = true)
    (hskip : time.checkedAtMs - (getOrCreateBookSyncState run.host.stores.sync
      (resolveBookMarketContext config delta.toBookMessage) delta.source).lastCrossCheckAt <
        config.topOfBookCrossCheckIntervalMs) :
    DeltaKeepsSync ar config run delta updatedAt time true := by
  refine fun timeToBookMs _ => ⟨fun _ => ?_, fun _ _ side _ => ?_⟩
  · exact ⟨Or.inl rfl, fun h => absurd hscope h⟩
  · refine ⟨fun _ => Or.inl hsynced, fun _ => ⟨Or.inl rfl, fun h => absurd hscope h⟩,
      fun _ hmismatch => ?_⟩
    unfold evaluateTopOfBookCrossCheck at hmismatch
    rw [if_pos (by exact hskip)] at hmismatch
    exact absurd hmismatch (by decide)

private theorem isSynced_crossCheck {next : BookSyncState} {status : CrossCheckStatus}
    {time : CrossCheckTime} (h : status ≠ .mismatch) :
    (applyTopOfBookCrossCheckSync next status time).isSynced = next.isSynced := by
  cases status with
  | mismatch => exact absurd rfl h
  | _ => rfl

private theorem events_accepted {book : InternalOrderBook} {status : CrossCheckStatus}
    {timeToBookMs : ℤ} (market : OrderBookMarketContext) (h : status ≠ .mismatch) :
    deltaEvents market (.ok (.accepted book status timeToBookMs)) = [] := by
  cases status with
  | mismatch => exact absurd rfl h
  | _ => rfl

variable {run : BookRun}

/-- An accepted delta, cross-checked or not, keeps the invariant of every market. -/
private theorem markets_acceptedDelta {market : OrderBookMarketContext}
    {syncState next : BookSyncState} {book : InternalOrderBook} {stores : OrderBookStores}
    {status : CrossCheckStatus} {time : CrossCheckTime} {timeToBookMs : ℤ}
    (h : ∀ k, MarketInvariant run.host run.events k) (hkept : book.KeptUnder market.marketKey)
    (hbook : book.isSynced = syncState.wasSnapshotSeeded)
    (hnext : next.isSynced = syncState.wasSnapshotSeeded)
    (hsyncs : stores.sync = run.host.stores.sync.set market.marketKey next)
    (hbooks : stores.orderBook = run.host.stores.orderBook.set market.marketKey book)
    (hgood : syncState.wasSnapshotSeeded = true → SyncedBySnapshot run.events market.marketKey)
    (hmismatch : status = .mismatch →
      syncState.wasSnapshotSeeded = false ∧ ¬run.host.PersistedSynced market.marketKey)
    (k : String) :
    MarketInvariant
      { run.host with
        stores := stores.setSync market.marketKey
          (applyTopOfBookCrossCheckSync next status time) }
      (deltaEvents market (.ok (.accepted book status timeToBookMs)) ++ run.events) k := by
  by_cases hstatus : status = .mismatch
  · obtain ⟨hseeded, hnone⟩ := hmismatch hstatus
    subst hstatus
    by_cases hk : k = market.marketKey
    · subst hk
      refine ⟨fun s hs hsynced => ?_, fun b hb => ?_, fun b hb => ?_⟩
      · simp only [OrderBookStores.sync_setSync, Rows.get?_set_self, Option.some.injEq] at hs
        subst hs
        exact absurd hsynced (by simp [applyTopOfBookCrossCheckSync, markBookDesynced])
      · simp only [OrderBookStores.orderBook_setSync, hbooks, Rows.get?_set_self,
          Option.some.injEq] at hb
        subst hb
        refine ⟨hkept, _, Rows.get?_set_self .., ?_⟩
        rw [hbook, hseeded]
        rfl
      · exact ⟨((h _).persisted b hb).1, fun hsynced => absurd ⟨b, hb, hsynced⟩ hnone⟩
    · refine (h k).frame ?_ ?_ rfl (fun hs => hs.desync hk)
      · simp [hsyncs, Rows.get?_set, hk]
      · simp [hbooks, Rows.get?_set, hk]
  · rw [events_accepted market hstatus, List.nil_append]
    have hflag := @isSynced_crossCheck next status time hstatus
    by_cases hk : k = market.marketKey
    · subst hk
      refine ⟨fun s hs hsynced => ?_, fun b hb => ?_, (h _).persisted⟩
      · simp only [OrderBookStores.sync_setSync, Rows.get?_set_self, Option.some.injEq] at hs
        rw [← hs, hflag, hnext] at hsynced
        exact hgood hsynced
      · simp only [OrderBookStores.orderBook_setSync, hbooks, Rows.get?_set_self,
          Option.some.injEq] at hb
        subst hb
        exact ⟨hkept, _, Rows.get?_set_self .., by rw [hflag, hnext, hbook]⟩
    · refine (h k).frame ?_ ?_ rfl id
      · simp [hsyncs, Rows.get?_set, hk]
      · simp [hbooks, Rows.get?_set, hk]

/-- The part of a delta behind the sequence gate keeps the invariant of every market. -/
theorem markets_applyGatedDelta {market : OrderBookMarketContext}
    (hnormal : normalizeMarketKey market.marketKey = market.marketKey)
    {delta : BookDelta} {syncState : BookSyncState} {updatedAt : String} {timeToBookMs : ℤ}
    {time : CrossCheckTime} {storageAnswers : Bool}
    (h : ∀ k, MarketInvariant run.host run.events k)
    (hsync : run.host.stores.sync.get? market.marketKey = some syncState)
    (hkeeps : ∀ side, (run.host.stores.getInstrumentBook market.marketKey delta.side).upsert ar
        delta.price delta.size updatedAt market.tickSize = .ok side →
      let next := applyDeltaBookSyncState syncState market delta.sequence updatedAt
        syncState.wasSnapshotSeeded timeToBookMs
      GatedDeltaKeepsSync ar config run market delta syncState next
        (run.host.stores.editBook config market delta next side updatedAt timeToBookMs).1 time
        storageAnswers) (k : String) :
    MarketInvariant
      (run.host.applyGatedDelta ar config market delta syncState updatedAt timeToBookMs time
        storageAnswers).2
      (deltaEvents market (run.host.applyGatedDelta ar config market delta syncState updatedAt
        timeToBookMs time storageAnswers).1 ++ run.events) k := by
  unfold BookHost.applyGatedDelta
  simp only
  split
  · exact (h k).frame (by simp) (by simp) rfl id
  · next side hside =>
    obtain ⟨hfresh, hcrossed, hmismatch⟩ := hkeeps side hside
    set next := applyDeltaBookSyncState syncState market delta.sequence updatedAt
      syncState.wasSnapshotSeeded timeToBookMs with hnext
    set edited := run.host.stores.editBook config market delta next side updatedAt timeToBookMs
      with hedited
    have hbooks : edited.2.orderBook = run.host.stores.orderBook.set market.marketKey edited.1 := by
      simp [hedited, OrderBookStores.editBook]
    have hsyncs : edited.2.sync = run.host.stores.sync.set market.marketKey next := by
      simp [hedited, OrderBookStores.editBook]
    have hflag : edited.1.isSynced = syncState.wasSnapshotSeeded := rfl
    have hkept : edited.1.KeptUnder market.marketKey := ⟨rfl, hnormal⟩
    have hother : k ≠ market.marketKey →
        MarketInvariant { run.host with stores := edited.2 } run.events k := by
      intro hk
      refine (h k).frame ?_ ?_ rfl id
      · rw [hsyncs, Rows.get?_set, if_neg hk]
      · rw [hbooks, Rows.get?_set, if_neg hk]
    split
    · next hcross =>
      have hpurge : BookHost.PurgeReaches { run.host with stores := edited.2 } market.marketKey
          syncState.wasSnapshotSeeded
          (resolveResetMarketKey (some market.instrumentCode) (some market.sourceExchange))
          storageAnswers := ⟨(hcrossed hcross).storage, (hcrossed hcross).market⟩
      refine markets_desyncAndReset (fun book hb => ((h k).persisted book hb).1) hother
        (fun book hb => ?_) hpurge
      rw [hbooks, Rows.get?_set_self] at hb
      obtain rfl := Option.some.inj hb
      exact ⟨hkept, hflag⟩
    · next hcross =>
      have hgood : syncState.wasSnapshotSeeded = true →
          SyncedBySnapshot run.events market.marketKey := by
        intro hseeded
        rcases hfresh hseeded with hsynced | hgood
        · exact (h _).snapshot syncState hsync hsynced
        · exact hgood
      exact markets_acceptedDelta h hkept hflag rfl hsyncs hbooks hgood
        (hmismatch (Bool.not_eq_true _ ▸ hcross)) k

/-- A stored book shows the flag that a purge of its market asks about. -/
private theorem book_of_bookSynced {key : String} (h : MarketInvariant host events key) :
    ∀ book, host.stores.orderBook.get? key = some book →
      book.KeptUnder key ∧ book.isSynced = host.bookSynced key := by
  intro book hb
  refine ⟨(h.book book hb).1, ?_⟩
  rw [BookHost.bookSynced, hb]
  rfl

/-- A delta keeps the invariant of every market. -/
theorem markets_applyDelta (hconfig : config.normalizeMarketKey = normalizeMarketKey)
    (h : ∀ k, MarketInvariant run.host run.events k) {delta : BookDelta} {updatedAt : String}
    {time : CrossCheckTime} {storageAnswers : Bool}
    (hkeeps : DeltaKeepsSync ar config run delta updatedAt time storageAnswers) (k : String) :
    MarketInvariant (run.host.applyDelta ar config delta updatedAt time storageAnswers).2
      (deltaEvents (resolveBookMarketContext config delta.toBookMessage)
        (run.host.applyDelta ar config delta updatedAt time storageAnswers).1 ++ run.events) k := by
  have hnormal := normalizeMarketKey_resolved hconfig delta.toBookMessage
  have hopened := markets_getOrCreateBookSyncState h
    (resolveBookMarketContext config delta.toBookMessage) delta.source
  unfold BookHost.applyDelta
  simp only
  split
  · exact hopened k
  · next timeToBookMs htime =>
    obtain ⟨hgap, hgated⟩ := hkeeps timeToBookMs htime
    split
    · next hopen =>
      refine markets_desyncAndReset (fun book hb => ((hopened k).persisted book hb).1)
        (fun _ => hopened k) (book_of_bookSynced (hopened _)) ?_
      exact ⟨(hgap hopen).storage, (hgap hopen).market⟩
    · next hopen =>
      split
      · exact hopened k
      · next hduplicate =>
        rw [Bool.not_eq_true] at hopen hduplicate
        let opened : BookRun :=
          ⟨⟨run.host.stores.setSync (resolveBookMarketContext config delta.toBookMessage).marketKey
            (getOrCreateBookSyncState run.host.stores.sync
              (resolveBookMarketContext config delta.toBookMessage) delta.source),
            run.host.persisted⟩, run.events⟩
        refine @markets_applyGatedDelta ar config opened _ hnormal delta _ updatedAt timeToBookMs
          time storageAnswers hopened (Rows.get?_set_self ..) (fun side hside => ?_) k
        obtain ⟨hfresh, hcrossed, hmismatch⟩ := hgated hopen hduplicate side hside
        exact ⟨hfresh, fun hc => ⟨(hcrossed hc).storage, (hcrossed hc).market⟩, hmismatch⟩

/-! ## Restarts -/

/-- What a restart rebuilds: each market's rows come from a persisted book of that market. -/
private structure HydratedMarket (records : List InternalOrderBook) (stores : OrderBookStores)
    (key : String) : Prop where
  snapshot : ∀ syncState, stores.sync.get? key = some syncState → syncState.isSynced = true →
    ∃ value ∈ records, normalizeMarketKey value.marketKey = key ∧ value.isSynced = true
  book : ∀ book, stores.orderBook.get? key = some book → book.KeptUnder key ∧
    ∃ syncState, stores.sync.get? key = some syncState ∧ syncState.isSynced = book.isSynced

private theorem hydratedMarkets {records : List InternalOrderBook} {stores : OrderBookStores}
    (h : hydrateOrderBooks ar records = .ok stores) (key : String) :
    HydratedMarket records stores key := by
  refine @Except.foldlM_induction _ _ _ (fun stores => HydratedMarket records stores key) _ _ _ _
    h ?_ fun before hbefore value hvalue after hstep => ?_
  · constructor
    · intro syncState hs
      simp [OrderBookStores.empty] at hs
    · intro book hb
      simp [OrderBookStores.empty] at hb
  · unfold hydrateOrderBook at hstep
    obtain ⟨bidBook, _, hstep⟩ := Except.bind_eq_ok.mp hstep
    obtain ⟨askBook, _, hstep⟩ := Except.bind_eq_ok.mp hstep
    obtain rfl := Except.ok.inj hstep
    constructor
    · intro syncState hs hsynced
      simp only [Rows.get?_set] at hs
      split_ifs at hs with hk
      · obtain rfl := Option.some.inj hs
        exact ⟨value, hvalue, hk.symm, hsynced⟩
      · exact hbefore.snapshot syncState hs hsynced
    · intro book hb
      simp only [Rows.get?_set] at hb ⊢
      split_ifs at hb ⊢ with hk
      · obtain rfl := Option.some.inj hb
        refine ⟨⟨hk.symm, ?_⟩, _, rfl, rfl⟩
        rw [hk, normalizeMarketKey_idem]
      · exact hbefore.book book hb

/-- A restart keeps the invariant of every market. -/
theorem markets_restart (h : ∀ k, MarketInvariant host events k) (k : String) :
    MarketInvariant (host.restart ar) events k := by
  unfold BookHost.restart
  simp only
  split
  · next stores hstores =>
    obtain ⟨hsnapshot, hbook⟩ := hydratedMarkets hstores k
    refine ⟨fun syncState hs hsynced => ?_, hbook, (h k).persisted⟩
    obtain ⟨value, hvalue, hkey, hflag⟩ := hsnapshot syncState hs hsynced
    obtain ⟨row, hrow⟩ := Rows.mem_rows_iff.mp (List.mem_filter.mp hvalue).1
    obtain ⟨⟨hmarket, hnormal⟩, hgood⟩ := (h row).persisted value hrow
    rw [hmarket, hnormal] at hkey
    rw [← hkey]
    exact hgood hflag
  · refine ⟨fun syncState hs => ?_, fun book hb => ?_, (h k).persisted⟩
    · simp [OrderBookStores.empty] at hs
    · simp [OrderBookStores.empty] at hb

/-- Writing a market's book keeps the invariant of every market. -/
theorem markets_persist (h : ∀ k, MarketInvariant host events k) (marketKey k : String) :
    MarketInvariant (host.persist marketKey) events k := by
  unfold BookHost.persist
  split
  · next book hbook =>
    obtain ⟨⟨hkey, hnormal⟩, syncState, hs, hflag⟩ := (h marketKey).book book hbook
    refine ⟨(h k).snapshot, (h k).book, fun b hb => ?_⟩
    rw [hkey, Rows.get?_set] at hb
    split_ifs at hb with hk
    · obtain rfl := Option.some.inj hb
      subst hk
      exact ⟨⟨hkey, hnormal⟩, fun hsynced => (h _).snapshot syncState hs (hflag.trans hsynced)⟩
    · exact (h k).persisted b hb
  · exact h k

/-! ## Runs -/

/-- An operation that keeps the synchronization of every market honest. -/
def OperationKeepsSync (ar : EngineArithmetic) (config : OrderBookReconstructorConfig)
    (run : BookRun) : BookOperation → Prop
  | .applyDelta delta updatedAt time storageAnswers =>
    DeltaKeepsSync ar config run delta updatedAt time storageAnswers
  | .handleCrossedBookSnapshot book _ _ storageAnswers =>
    run.host.PurgeReaches book.marketKey (run.host.bookSynced book.marketKey)
      (resolveResetMarketKey (some book.instrumentCode) (some book.sourceExchange))
      storageAnswers
  | .resetOrderBook instrumentCode sourceExchange storageAnswers =>
    run.host.ResetReaches (resolveResetMarketKey instrumentCode sourceExchange) storageAnswers
  | _ => True

/-- The runs of a reconstructor whose operations all keep the synchronization honest. -/
inductive SyncKeepingRun (ar : EngineArithmetic) (config : OrderBookReconstructorConfig) :
    BookRun → Prop
  | initial : SyncKeepingRun ar config .initial
  | step {run : BookRun} (operation : BookOperation) (h : SyncKeepingRun ar config run)
      (hkeeps : OperationKeepsSync ar config run operation) :
      SyncKeepingRun ar config (run.step ar config operation)

private theorem markets_step (hconfig : config.normalizeMarketKey = normalizeMarketKey)
    (h : ∀ k, MarketInvariant run.host run.events k) (operation : BookOperation)
    (hkeeps : OperationKeepsSync ar config run operation) (k : String) :
    MarketInvariant (run.step ar config operation).host (run.step ar config operation).events
      k := by
  cases operation with
  | applySnapshot snapshot updatedAt => exact markets_applySnapshot hconfig h snapshot updatedAt k
  | applyDelta delta updatedAt time storageAnswers => exact markets_applyDelta hconfig h hkeeps k
  | handleCrossedBookSnapshot book timeToBookMs observedAt storageAnswers =>
    exact markets_desyncAndReset (fun b hb => ((h k).persisted b hb).1) (fun _ => h k)
      (book_of_bookSynced (h _)) hkeeps
  | resetOrderBook instrumentCode sourceExchange storageAnswers =>
    exact markets_resetOrderBook (fun b hb => ((h k).persisted b hb).1) hkeeps fun _ => h k
  | persist marketKey => exact markets_persist h marketKey k
  | restart => exact markets_restart h k

private theorem SyncKeepingRun.markets (hconfig : config.normalizeMarketKey = normalizeMarketKey)
    (h : SyncKeepingRun ar config run) (k : String) :
    MarketInvariant run.host run.events k := by
  induction h generalizing k with
  | initial =>
    refine ⟨fun s hs => ?_, fun b hb => ?_, fun b hb => ?_⟩
    · simp [BookRun.initial, BookHost.initial, OrderBookStores.empty] at hs
    · simp [BookRun.initial, BookHost.initial, OrderBookStores.empty] at hb
    · simp [BookRun.initial, BookHost.initial] at hb
  | step operation _ hkeeps ih => exact markets_step hconfig ih operation hkeeps k

/-- In a run of the engine's reconstructor whose operations keep the synchronization honest,
every synchronized market received a snapshot after its last desynchronization and its last
reset, and its stored book shows the same flag. -/
theorem synced_after_snapshot (js : Runtime) (configured : String → ℚ) {run : BookRun}
    (h : SyncKeepingRun ar (createTradingOrderBookReconstructor js configured) run) :
    Synchronized run := by
  have hmarkets := h.markets rfl
  constructor
  · intro key syncState hs hsynced
    exact (hmarkets key).snapshot syncState hs hsynced
  · intro key book hb
    exact ((hmarkets key).book book hb).2

/-! ## A forgotten mismatch -/

private def tradingConfig : OrderBookReconstructorConfig :=
  createTradingOrderBookReconstructor (JavaScript.reference .double) fun _ => 1

private def exchangeTime : String := "2026-07-01T12:00:00.000Z"

private def hyperliquidMessage (sequence : ℤ) : BookMessage :=
  ⟨none, "hl", "btc", none, none, sequence, exchangeTime, none⟩

private def snapshotOperation : BookOperation :=
  .applySnapshot ⟨hyperliquidMessage 1, .market .hyperliquid, [⟨100, 1, none⟩], [⟨101, 1, none⟩]⟩
    exchangeTime

private def bidOperation (sequence : ℤ) (bestBid : Option ℚ) (checkedAtMs : ℤ) : BookOperation :=
  .applyDelta ⟨hyperliquidMessage sequence, .hyperliquid, .bid, 99, 1, bestBid, none⟩ exchangeTime
    ⟨checkedAtMs, exchangeTime⟩ true

/-- A snapshot, a delta whose cross-check finds a mismatch, and one more delta. -/
def mismatchRun : BookRun :=
  [snapshotOperation, bidOperation 2 (some 50) 60000, bidOperation 3 none 60001].foldl
    (BookRun.step .binary64 tradingConfig) .initial

/-- A market whose top of book was found wrong counts as synchronized again after the next
delta, although no snapshot came in between. -/
theorem mismatch_forgotten_by_delta : ¬Synchronized mismatchRun := by
  intro h
  have hsync : ∃ syncState ∈ mismatchRun.host.stores.sync.get? "hl:btc",
      syncState.isSynced = true := by
    decide +kernel
  have hevents : snapshotSince (isDesyncOf "hl:btc") "hl:btc"
      mismatchRun.events = false := by
    decide +kernel
  obtain ⟨syncState, hs, hsynced⟩ := hsync
  have hgood := (h.snapshot _ syncState (Option.mem_def.mp hs) hsynced).1
  exact absurd (hgood.symm.trans hevents) (by decide)

/-- A snapshot and a delta that is not cross-checked yet. -/
theorem synced_after_snapshot_and_delta :
    Synchronized ((BookRun.initial.step .binary64 tradingConfig snapshotOperation).step .binary64
      tradingConfig (bidOperation 2 (some 50) 1)) := by
  refine synced_after_snapshot (JavaScript.reference .double) (fun _ => 1)
    (.step _ (.step _ .initial trivial) (deltaKeepsSync_of_skip ?_ ?_ ?_))
  · decide +kernel
  · decide +kernel
  · decide +kernel

end Yevow.Engine
