import Yevow.Models.Cascade.AbsorptionAnalyzer
import Yevow.Models.Cascade.Closing

/-!
# Isolation of watched cascades

All cascades share the map of an analyzer, the loop over it and the pass that prunes it. An
observation that confirms a cascade is not shown to the cascades behind it; where no cascade of
the instrument stands behind a confirmed one, each is judged as if it were watched alone.
-/

namespace Yevow.Cascade

/-- A call of the analyzer. -/
inductive AnalyzerCall (N : Type) where
  | track (cascade : CascadeEvent (CascadeDetail N))
  | observe (observation : AbsorptionObservation N)

namespace AnalyzerCall

variable {N : Type} (dateParse : String → Option ℤ)

/-- The moment of a call, where its text is a date. -/
def time : AnalyzerCall N → Option ℤ
  | .track cascade => dateParse cascade.detectedAt
  | .observe observation => dateParse observation.observedAt

/-- The cascade that a call starts to watch. -/
def trackedId : AnalyzerCall N → Option String
  | .track cascade => some cascade.cascadeId
  | .observe _ => none

/-- The calls of the run that tracks one cascade only. -/
def solo (cascadeId : String) (calls : List (AnalyzerCall N)) : List (AnalyzerCall N) :=
  calls.filter fun call => call.trackedId.all (· = cascadeId)

/-- Calls at valid times that never go back, under cascade ids that are used once. -/
structure Timely (calls : List (AnalyzerCall N)) : Prop where
  valid : ∀ call ∈ calls, (call.time dateParse).isSome
  ordered : calls.Pairwise fun call later =>
    ∀ s ∈ call.time dateParse, ∀ t ∈ later.time dateParse, s ≤ t
  distinct : (calls.filterMap trackedId).Nodup

end AnalyzerCall

section Run

variable {N : Type} [Field N] [LinearOrder N] (ar : CascadeArithmetic N N)
  (dateParse : String → Option ℤ) (config : AbsorptionAnalyzerConfig N)

/-- What a call leaves behind, and the report of an observation. -/
def AbsorptionAnalyzer.step (analyzer : AbsorptionAnalyzer N) :
    AnalyzerCall N →
      AbsorptionAnalyzer N × List (Option (AbsorptionConfirmed (AbsorptionDetail N)))
  | .track cascade => (analyzer.trackCascade dateParse config cascade, [])
  | .observe observation =>
    let after := analyzer.observe ar dateParse config observation
    (after.1, [after.2])

/-- The state of a new analyzer after some calls, and one report for each observation. -/
def afterCalls (calls : List (AnalyzerCall N)) :
    AbsorptionAnalyzer N × List (Option (AbsorptionConfirmed (AbsorptionDetail N))) :=
  calls.foldl (fun before call =>
    let after := before.1.step ar dateParse config call
    (after.1, before.2 ++ after.2)) (AbsorptionAnalyzer.new, [])

private theorem afterCalls_append_singleton (calls : List (AnalyzerCall N))
    (call : AnalyzerCall N) :
    afterCalls ar dateParse config (calls ++ [call]) =
      (((afterCalls ar dateParse config calls).1.step ar dateParse config call).1,
        (afterCalls ar dateParse config calls).2 ++
          ((afterCalls ar dateParse config calls).1.step ar dateParse config call).2) := by
  unfold afterCalls
  rw [List.foldl_append]
  rfl

/-- The reports about one cascade; the others count as none. -/
def reportsOf (cascadeId : String)
    (reports : List (Option (AbsorptionConfirmed (AbsorptionDetail N)))) :
    List (Option (AbsorptionConfirmed (AbsorptionDetail N))) :=
  reports.map (Option.filter fun report => report.cascadeId = cascadeId)

namespace ActiveAbsorption

/-- The absorption window of a watched cascade is not over. -/
def InWindow (active : ActiveAbsorption N) (nowMs : ℤ) : Prop :=
  ((nowMs - active.startedAtMs : ℤ) : N) ≤ config.absorptionWindowMs

instance (active : ActiveAbsorption N) (nowMs : ℤ) : Decidable (active.InWindow config nowMs) :=
  inferInstanceAs (Decidable (_ ≤ _))

/-- Unconfirmed, and in its window. -/
def Pending (active : ActiveAbsorption N) (nowMs : ℤ) : Prop :=
  active.confirmed = false ∧ active.InWindow config nowMs

instance (active : ActiveAbsorption N) (nowMs : ℤ) : Decidable (active.Pending config nowMs) :=
  inferInstanceAs (Decidable (_ ∧ _))

/-- An observation of its instrument that finds a cascade pending. -/
def Watches (active : ActiveAbsorption N) (observation : AbsorptionObservation N) (nowMs : ℤ) :
    Prop :=
  active.Pending config nowMs ∧
    active.cascade.instrumentCode = observation.instrumentCode.toLower

instance (active : ActiveAbsorption N) (observation : AbsorptionObservation N) (nowMs : ℤ) :
    Decidable (active.Watches config observation nowMs) :=
  inferInstanceAs (Decidable (_ ∧ _))

/-- With the observation, the criteria of a confirmation are met. -/
def Confirms (active : ActiveAbsorption N) (observation : AbsorptionObservation N) (nowMs : ℤ) :
    Bool :=
  let criteria :=
    absorptionCriteria ar config (updateActive ar config active observation nowMs) nowMs
  criteria.priceHeld && hasAnyExhaustion criteria

/-- An entry after an observation that is shown to it. -/
def shown (active : ActiveAbsorption N) (observation : AbsorptionObservation N) (nowMs : ℤ) :
    ActiveAbsorption N :=
  if active.Watches config observation nowMs then
    { updateActive ar config active observation nowMs with
      confirmed := active.Confirms ar config observation nowMs }
  else active

/-- The report on an entry that an observation confirms. -/
def report? (active : ActiveAbsorption N) (observation : AbsorptionObservation N) (nowMs : ℤ) :
    Option (AbsorptionConfirmed (AbsorptionDetail N)) :=
  let after := updateActive ar config active observation nowMs
  if active.Watches config observation nowMs ∧ active.Confirms ar config observation nowMs then
    some
      { cascadeId := active.cascade.cascadeId
        instrumentCode := active.cascade.instrumentCode
        confirmedAt := observation.observedAt
        rest :=
          { direction := active.cascade.rest.direction
            elapsedMs := max 0 (nowMs - active.startedAtMs)
            price := observation.price
            criteria := absorptionCriteria ar config after nowMs
            observations := after.observations } }
  else none

end ActiveAbsorption

/-- No entry that an observation confirms stands before another one that watches it. -/
def AbsorptionAnalyzer.Unobstructed (analyzer : AbsorptionAnalyzer N)
    (observation : AbsorptionObservation N) : Prop :=
  ∀ nowMs, dateParse observation.observedAt = some nowMs →
    analyzer.active.entries.Pairwise fun entry later =>
      entry.2.Watches config observation nowMs →
        entry.2.Confirms ar config observation nowMs = true →
          ¬ later.2.Watches config observation nowMs

/-- A further cascade may be tracked besides those that are pending at its time. -/
def AbsorptionAnalyzer.HasRoom (analyzer : AbsorptionAnalyzer N)
    (cascade : CascadeEvent (CascadeDetail N)) : Prop :=
  ∀ nowMs, dateParse cascade.detectedAt = some nowMs →
    (analyzer.active.entries.filter fun entry => entry.2.Pending config nowMs).length + 1 ≤
      config.maxActiveCascades

/-- An observation of the instrument of a cascade, inside its window. -/
def isObservationOf (cascade : CascadeEvent (CascadeDetail N)) : AnalyzerCall N → Bool
  | .track _ => false
  | .observe observation =>
    cascade.instrumentCode = observation.instrumentCode.toLower &&
      (dateParse cascade.detectedAt).any fun startedAtMs =>
        (dateParse observation.observedAt).any fun observedAtMs =>
          ((observedAtMs - startedAtMs : ℤ) : N) ≤ config.absorptionWindowMs

/-! ## One call -/

namespace ActiveAbsorption

variable {ar dateParse config} {active : ActiveAbsorption N} {nowMs later : ℤ}
  {observation : AbsorptionObservation N}

@[simp] theorem shown_cascade :
    (active.shown ar config observation nowMs).cascade = active.cascade := by
  unfold shown
  split_ifs <;> rfl

@[simp] theorem shown_startedAtMs :
    (active.shown ar config observation nowMs).startedAtMs = active.startedAtMs := by
  unfold shown
  split_ifs <;> rfl

private theorem shown_observations :
    (active.shown ar config observation nowMs).observations =
      active.observations + if active.Watches config observation nowMs then 1 else 0 := by
  unfold shown
  split_ifs <;> rfl

private theorem shown_of_not_watches (h : ¬ active.Watches config observation nowMs) :
    active.shown ar config observation nowMs = active := if_neg h

private theorem report?_of_not_watches (h : ¬ active.Watches config observation nowMs) :
    active.report? ar config observation nowMs = none := if_neg fun hconfirms => h hconfirms.1

private theorem report?_of_not_confirms (h : active.Confirms ar config observation nowMs = false) :
    active.report? ar config observation nowMs = none :=
  if_neg fun hconfirms => Bool.eq_false_iff.mp h hconfirms.2

private theorem watches_of_report? {report : AbsorptionConfirmed (AbsorptionDetail N)}
    (h : active.report? ar config observation nowMs = some report) :
    active.Watches config observation nowMs ∧ active.Confirms ar config observation nowMs ∧
      report.cascadeId = active.cascade.cascadeId := by
  unfold report? at h
  split_ifs at h with hconfirms
  obtain rfl := Option.some.inj h
  exact ⟨hconfirms.1, hconfirms.2, rfl⟩

private theorem inWindow_shown :
    (active.shown ar config observation nowMs).InWindow config later ↔
      active.InWindow config later := by
  unfold InWindow
  rw [shown_startedAtMs]

variable [IsStrictOrderedRing N]

/-- A window does not open again. -/
theorem InWindow.earlier (h : active.InWindow config later) (hle : nowMs ≤ later) :
    active.InWindow config nowMs := by
  have hcast : ((nowMs - active.startedAtMs : ℤ) : N) ≤ ((later - active.startedAtMs : ℤ) : N) :=
    Int.cast_le.mpr (by omega)
  exact hcast.trans h

/-- What was started later leaves its window later. -/
theorem InWindow.of_started {other : ActiveAbsorption N} (h : active.InWindow config nowMs)
    (hle : active.startedAtMs ≤ other.startedAtMs) : other.InWindow config nowMs := by
  have hcast : ((nowMs - other.startedAtMs : ℤ) : N) ≤ ((nowMs - active.startedAtMs : ℤ) : N) :=
    Int.cast_le.mpr (by omega)
  exact hcast.trans h

end ActiveAbsorption

section Call

variable {ar dateParse config}

section Entry

variable {observation : AbsorptionObservation N} {nowMs : ℤ} {active : ActiveAbsorption N}

private theorem passed_iff_not_watches :
    (active.confirmed ∨ active.cascade.instrumentCode ≠ observation.instrumentCode.toLower ∨
      config.absorptionWindowMs < ((nowMs - active.startedAtMs : ℤ) : N)) ↔
      ¬ active.Watches config observation nowMs := by
  unfold ActiveAbsorption.Watches ActiveAbsorption.Pending ActiveAbsorption.InWindow
  rw [not_and_or, not_and_or, not_le, Bool.not_eq_false, or_assoc, or_comm (b := _ < _)]

variable (cascadeId : String) (entries : List (String × ActiveAbsorption N))
  (rows : Rows String (ActiveAbsorption N))

private theorem observeActive_of_not_watches (h : ¬ active.Watches config observation nowMs) :
    observeActive ar config observation nowMs ((cascadeId, active) :: entries) rows =
      observeActive ar config observation nowMs entries rows := by
  rw [observeActive, if_pos (passed_iff_not_watches.mpr h)]

private theorem observeActive_of_confirms (h : active.Watches config observation nowMs)
    (hconfirms : active.Confirms ar config observation nowMs = true) :
    observeActive ar config observation nowMs ((cascadeId, active) :: entries) rows =
      (rows.set cascadeId (active.shown ar config observation nowMs),
        active.report? ar config observation nowMs) := by
  rw [observeActive, if_neg fun hpassed => passed_iff_not_watches.mp hpassed h]
  refine (if_pos hconfirms).trans ?_
  rw [ActiveAbsorption.report?, if_pos ⟨h, hconfirms⟩, ActiveAbsorption.shown, if_pos h, hconfirms]
  rfl

private theorem observeActive_of_not_confirms (h : active.Watches config observation nowMs)
    (hconfirms : active.Confirms ar config observation nowMs = false) :
    observeActive ar config observation nowMs ((cascadeId, active) :: entries) rows =
      observeActive ar config observation nowMs entries
        (rows.set cascadeId (active.shown ar config observation nowMs)) := by
  have hshown : active.shown ar config observation nowMs =
      updateActive ar config active observation nowMs := by
    rw [ActiveAbsorption.shown, if_pos h, hconfirms, ← h.1.1]
    rfl
  rw [observeActive, if_neg fun hpassed => passed_iff_not_watches.mp hpassed h, hshown]
  exact if_neg (Bool.eq_false_iff.mp hconfirms)

end Entry

/-- The loop over the watched cascades, where the one that is confirmed is the last that
watches. -/
private theorem observeActive_spec {observation : AbsorptionObservation N} {nowMs : ℤ}
    {entries : List (String × ActiveAbsorption N)} :
    ∀ (before : List (String × ActiveAbsorption N)) (rows : Rows String (ActiveAbsorption N)),
      rows.entries = before ++ entries →
      (entries.Pairwise fun entry later => entry.2.Watches config observation nowMs →
        entry.2.Confirms ar config observation nowMs = true →
          ¬ later.2.Watches config observation nowMs) →
      (observeActive ar config observation nowMs entries rows).1.entries =
          before ++ entries.map
            (fun entry => (entry.1, entry.2.shown ar config observation nowMs)) ∧
        (observeActive ar config observation nowMs entries rows).2 =
          (entries.filterMap fun entry => entry.2.report? ar config observation nowMs).head? := by
  induction entries with
  | nil =>
    intro before rows hrows _
    exact ⟨hrows, rfl⟩
  | cons entry entries ih =>
    obtain ⟨cascadeId, active⟩ := entry
    intro before rows hrows hclear
    obtain ⟨hfirst, hclear⟩ := List.pairwise_cons.mp hclear
    have hset := Rows.entries_set_append hrows (active.shown ar config observation nowMs)
    rw [List.map_cons, List.filterMap_cons]
    dsimp only at hfirst ⊢
    by_cases hwatches : active.Watches config observation nowMs
    · cases hconfirms : active.Confirms ar config observation nowMs with
      | true =>
        -- the loop ends here, and no entry behind would have been shown the observation
        have hrest : entries.map (fun entry =>
            (entry.1, entry.2.shown ar config observation nowMs)) = entries.map id := by
          apply List.map_congr_left
          intro entry hentry
          rw [ActiveAbsorption.shown_of_not_watches (hfirst entry hentry hwatches hconfirms), id]
        rw [observeActive_of_confirms _ _ _ hwatches hconfirms, hrest, List.map_id]
        refine ⟨hset, ?_⟩
        rw [ActiveAbsorption.report?, if_pos ⟨hwatches, hconfirms⟩]
        rfl
      | false =>
        rw [observeActive_of_not_confirms _ _ _ hwatches hconfirms,
          ActiveAbsorption.report?_of_not_confirms hconfirms]
        rw [← List.singleton_append, ← List.append_assoc] at hset ⊢
        exact ih _ _ hset hclear
    · rw [observeActive_of_not_watches _ _ _ hwatches,
        ActiveAbsorption.report?_of_not_watches hwatches,
        ActiveAbsorption.shown_of_not_watches hwatches]
      rw [← List.singleton_append, ← List.append_assoc] at hrows ⊢
      exact ih _ _ hrows hclear

variable [IsStrictOrderedRing N]

private def pruneEntry (config : AbsorptionAnalyzerConfig N) (nowMs : ℤ)
    (rows : Rows String (ActiveAbsorption N)) (entry : String × ActiveAbsorption N) :
    Rows String (ActiveAbsorption N) :=
  if entry.2.confirmed ∨
      config.absorptionWindowMs < ((nowMs - entry.2.startedAtMs : ℤ) : N) ∨
      config.maxActiveCascades < rows.entries.length
  then rows.delete entry.1 else rows

private theorem foldl_pruneEntry {nowMs : ℤ} {entries : List (String × ActiveAbsorption N)} :
    ∀ (kept : List (String × ActiveAbsorption N)) (rows : Rows String (ActiveAbsorption N)),
      rows.entries = kept ++ entries →
      (entries.Pairwise fun entry later => entry.2.startedAtMs ≤ later.2.startedAtMs) →
      kept.length + (entries.filter fun entry => entry.2.InWindow config nowMs).length ≤
        config.maxActiveCascades →
      (entries.foldl (pruneEntry config nowMs) rows).entries =
        kept ++ entries.filter fun entry => entry.2.Pending config nowMs := by
  induction entries with
  | nil =>
    intro kept rows hrows _ _
    exact hrows
  | cons entry entries ih =>
    intro kept rows hrows hordered hroom
    obtain ⟨hfirst, hordered⟩ := List.pairwise_cons.mp hordered
    rw [List.foldl_cons]
    by_cases hpending : entry.2.Pending config nowMs
    · -- what was started later is in its window too, so that the rows are not too many
      have hwindow : (entries.filter fun entry => entry.2.InWindow config nowMs) = entries := by
        rw [List.filter_eq_self]
        intro later hlater
        exact decide_eq_true (hpending.2.of_started (hfirst later hlater))
      rw [List.filter_cons, if_pos (decide_eq_true hpending.2), hwindow, List.length_cons] at hroom
      have hkept : pruneEntry config nowMs rows entry = rows := by
        refine if_neg ?_
        rintro (hconfirmed | hexpired | hmany)
        · rw [hpending.1] at hconfirmed
          exact Bool.false_ne_true hconfirmed
        · exact absurd hpending.2 (not_le.mpr hexpired)
        · rw [hrows, List.length_append, List.length_cons] at hmany
          omega
      rw [hkept, List.filter_cons, if_pos (decide_eq_true hpending)]
      rw [← List.singleton_append, ← List.append_assoc] at hrows ⊢
      refine ih _ _ hrows hordered ?_
      rw [hwindow, List.length_append, List.length_singleton]
      omega
    · have hcount : kept.length +
          (entries.filter fun entry => entry.2.InWindow config nowMs).length ≤
            config.maxActiveCascades := by
        have hle := ((List.sublist_cons_self entry entries).filter fun entry =>
          decide (entry.2.InWindow config nowMs)).length_le
        omega
      have hdeleted : pruneEntry config nowMs rows entry = rows.delete entry.1 := by
        refine if_pos ?_
        by_contra hnot
        rw [not_or, not_or, not_lt] at hnot
        exact hpending ⟨Bool.eq_false_iff.mpr hnot.1, hnot.2.1⟩
      rw [hdeleted, List.filter_cons_of_neg (by simpa using hpending)]
      exact ih _ _ (Rows.entries_delete_append hrows) hordered hcount

/-- In the order of their starts, pruning keeps what is pending, unless that is too much. -/
theorem entries_prune {analyzer : AbsorptionAnalyzer N} {nowMs : ℤ}
    (hordered : analyzer.active.entries.Pairwise fun entry later =>
      entry.2.startedAtMs ≤ later.2.startedAtMs)
    (hroom : (analyzer.active.entries.filter fun entry =>
      entry.2.InWindow config nowMs).length ≤ config.maxActiveCascades) :
    (analyzer.prune config nowMs).active.entries =
      analyzer.active.entries.filter fun entry => entry.2.Pending config nowMs := by
  have hfold := foldl_pruneEntry [] analyzer.active rfl hordered
    (by rwa [List.length_nil, Nat.zero_add])
  exact hfold

/-- What the calls so far leave to be true of the watched cascades. -/
structure Watched (config : AbsorptionAnalyzerConfig N) (dateParse : String → Option ℤ)
    (calls : List (AnalyzerCall N)) (entries : List (String × ActiveAbsorption N)) : Prop where
  keyed : ∀ entry ∈ entries, entry.1 = entry.2.cascade.cascadeId
  tracked : ∀ entry ∈ entries, .track entry.2.cascade ∈ calls
  started : ∀ entry ∈ entries, dateParse entry.2.cascade.detectedAt = some entry.2.startedAtMs
  unconfirmed : ∀ entry ∈ entries, entry.2.confirmed = false
  ordered : entries.Pairwise fun entry later => entry.2.startedAtMs ≤ later.2.startedAtMs
  room : entries.length ≤ config.maxActiveCascades

/-- An entry that no observation was shown to. -/
def ActiveAbsorption.new (cascade : CascadeEvent (CascadeDetail N)) (startedAtMs : ℤ) :
    ActiveAbsorption N where
  cascade
  startedAtMs
  holdStartedAtMs := none
  observations := 0
  firstCvd := none
  latestCvd := none
  takerBuckets := Rows.empty
  openInterestValues := []
  confirmed := false

section Step

variable {calls : List (AnalyzerCall N)} {analyzer : AbsorptionAnalyzer N} {nowMs : ℤ}

/-- What an observation leaves of the watched cascades, and what it reports. -/
theorem Watched.observe (h : Watched config dateParse calls analyzer.active.entries)
    {observation : AbsorptionObservation N} (htime : dateParse observation.observedAt = some nowMs)
    (hclear : analyzer.Unobstructed ar dateParse config observation) :
    (analyzer.observe ar dateParse config observation).1.active.entries =
        (analyzer.active.entries.map fun entry =>
          (entry.1, entry.2.shown ar config observation nowMs)).filter (fun entry =>
            entry.2.Pending config nowMs) ∧
      (analyzer.observe ar dateParse config observation).2 =
        (analyzer.active.entries.filterMap fun entry =>
          entry.2.report? ar config observation nowMs).head? := by
  obtain ⟨hentries, hreport⟩ := observeActive_spec [] analyzer.active rfl (hclear nowMs htime)
  rw [AbsorptionAnalyzer.observe, htime]
  refine ⟨?_, hreport⟩
  rw [List.nil_append] at hentries
  rw [← hentries]
  apply entries_prune
  · rw [hentries, List.pairwise_map]
    simp only [ActiveAbsorption.shown_startedAtMs]
    exact h.ordered
  · refine (List.length_filter_le _ _).trans ?_
    rw [hentries, List.length_map]
    exact h.room

omit [IsStrictOrderedRing N] in
private theorem Watched.after_observe {entries : List (String × ActiveAbsorption N)}
    (h : Watched config dateParse calls entries) (observation : AbsorptionObservation N) :
    Watched config dateParse (calls ++ [.observe observation])
      ((entries.map fun entry => (entry.1, entry.2.shown ar config observation nowMs)).filter
        fun entry => entry.2.Pending config nowMs) := by
  have hmem : ∀ entry ∈ (entries.map fun entry =>
      (entry.1, entry.2.shown ar config observation nowMs)).filter (fun entry =>
        entry.2.Pending config nowMs), entry.2.confirmed = false ∧
          ∃ before ∈ entries, before.1 = entry.1 ∧ before.2.cascade = entry.2.cascade ∧
            before.2.startedAtMs = entry.2.startedAtMs := by
    intro entry hentry
    obtain ⟨hentry, hpending⟩ := List.mem_filter.mp hentry
    obtain ⟨before, hbefore, rfl⟩ := List.mem_map.mp hentry
    exact ⟨(of_decide_eq_true hpending).1, before, hbefore, rfl,
      ActiveAbsorption.shown_cascade.symm, ActiveAbsorption.shown_startedAtMs.symm⟩
  constructor
  · intro entry hentry
    obtain ⟨-, before, hbefore, hkey, hcascade, -⟩ := hmem entry hentry
    rw [← hkey, h.keyed before hbefore, hcascade]
  · intro entry hentry
    obtain ⟨-, before, hbefore, -, hcascade, -⟩ := hmem entry hentry
    rw [← hcascade]
    exact List.mem_append_left _ (h.tracked before hbefore)
  · intro entry hentry
    obtain ⟨-, before, hbefore, -, hcascade, hstarted⟩ := hmem entry hentry
    rw [← hcascade, h.started before hbefore, hstarted]
  · intro entry hentry
    exact (hmem entry hentry).1
  · refine List.Pairwise.filter _ ?_
    rw [List.pairwise_map]
    simp only [ActiveAbsorption.shown_startedAtMs]
    exact h.ordered
  · refine (List.length_filter_le _ _).trans ?_
    rw [List.length_map]
    exact h.room

variable {cascade : CascadeEvent (CascadeDetail N)}

omit [IsStrictOrderedRing N] in
private theorem length_tracked {entries : List (String × ActiveAbsorption N)}
    (entry : String × ActiveAbsorption N)
    (hroom : (entries.filter fun entry => entry.2.Pending config nowMs).length + 1 ≤
      config.maxActiveCascades) :
    ((entries ++ [entry]).filter fun entry => entry.2.Pending config nowMs).length ≤
      config.maxActiveCascades := by
  have hle := List.length_filter_le
    (fun entry : String × ActiveAbsorption N => decide (entry.2.Pending config nowMs)) [entry]
  rw [List.length_singleton] at hle
  rw [List.filter_append, List.length_append]
  omega

omit [Field N] [LinearOrder N] [IsStrictOrderedRing N] in
private theorem ordered_tracked {entries : List (String × ActiveAbsorption N)}
    (hordered : entries.Pairwise fun entry later => entry.2.startedAtMs ≤ later.2.startedAtMs)
    (hpast : ∀ entry ∈ entries, entry.2.startedAtMs ≤ nowMs) :
    (entries ++ [(cascade.cascadeId, ActiveAbsorption.new cascade nowMs)]).Pairwise
      fun entry later => entry.2.startedAtMs ≤ later.2.startedAtMs := by
  rw [List.pairwise_append]
  refine ⟨hordered, List.pairwise_singleton _ _, ?_⟩
  intro entry hentry later hlater
  rw [List.mem_singleton.mp hlater]
  exact hpast entry hentry

/-- What the tracking of a further cascade leaves of the watched ones. -/
theorem Watched.track (h : Watched config dateParse calls analyzer.active.entries)
    (htime : dateParse cascade.detectedAt = some nowMs)
    (hfresh : ∀ entry ∈ analyzer.active.entries, entry.1 ≠ cascade.cascadeId)
    (hpast : ∀ entry ∈ analyzer.active.entries, entry.2.startedAtMs ≤ nowMs)
    (hroom : (analyzer.active.entries.filter fun entry =>
      entry.2.Pending config nowMs).length + 1 ≤ config.maxActiveCascades) :
    (analyzer.trackCascade dateParse config cascade).active.entries =
      (analyzer.active.entries ++
        [(cascade.cascadeId, ActiveAbsorption.new cascade nowMs)]).filter fun entry =>
          entry.2.Pending config nowMs := by
  have hnone : analyzer.active.get? cascade.cascadeId = none := by
    rw [Rows.get?_eq_none_iff]
    rintro hmem
    obtain ⟨entry, hentry, hkey⟩ := List.mem_map.mp hmem
    exact hfresh entry hentry hkey
  have hset := Rows.entries_set_of_get?_eq_none hnone (ActiveAbsorption.new cascade nowMs)
  have hconfirmed : ∀ entry ∈ analyzer.active.entries ++
      [(cascade.cascadeId, ActiveAbsorption.new cascade nowMs)], entry.2.confirmed = false := by
    intro entry hentry
    rcases List.mem_append.mp hentry with hentry | hentry
    · exact h.unconfirmed entry hentry
    · rw [List.mem_singleton.mp hentry]
      rfl
  have hwindow : ((analyzer.active.entries ++
      [(cascade.cascadeId, ActiveAbsorption.new cascade nowMs)]).filter fun entry =>
        entry.2.InWindow config nowMs) =
      (analyzer.active.entries ++
        [(cascade.cascadeId, ActiveAbsorption.new cascade nowMs)]).filter fun entry =>
          entry.2.Pending config nowMs := by
    apply List.filter_congr
    intro entry hentry
    exact decide_eq_decide.mpr ⟨fun hin => ⟨hconfirmed entry hentry, hin⟩, And.right⟩
  rw [AbsorptionAnalyzer.trackCascade, htime, ← hset]
  apply entries_prune
  · show (analyzer.active.set cascade.cascadeId
      (ActiveAbsorption.new cascade nowMs)).entries.Pairwise _
    rw [hset]
    exact ordered_tracked h.ordered hpast
  · show ((analyzer.active.set cascade.cascadeId
      (ActiveAbsorption.new cascade nowMs)).entries.filter _).length ≤ _
    rw [hset, hwindow]
    exact length_tracked _ hroom

omit [IsStrictOrderedRing N] in
private theorem Watched.after_track {entries : List (String × ActiveAbsorption N)}
    (h : Watched config dateParse calls entries)
    (htime : dateParse cascade.detectedAt = some nowMs)
    (hpast : ∀ entry ∈ entries, entry.2.startedAtMs ≤ nowMs)
    (hroom : (entries.filter fun entry => entry.2.Pending config nowMs).length + 1 ≤
      config.maxActiveCascades) :
    Watched config dateParse (calls ++ [.track cascade])
      ((entries ++ [(cascade.cascadeId, ActiveAbsorption.new cascade nowMs)]).filter fun entry =>
        entry.2.Pending config nowMs) := by
  have hmem : ∀ entry ∈ (entries ++
      [(cascade.cascadeId, ActiveAbsorption.new cascade nowMs)]).filter (fun entry =>
        entry.2.Pending config nowMs), entry.2.confirmed = false ∧
          (entry ∈ entries ∨ entry = (cascade.cascadeId, ActiveAbsorption.new cascade nowMs)) := by
    intro entry hentry
    obtain ⟨hentry, hpending⟩ := List.mem_filter.mp hentry
    rw [List.mem_append, List.mem_singleton] at hentry
    exact ⟨(of_decide_eq_true hpending).1, hentry⟩
  constructor
  · intro entry hentry
    obtain ⟨-, hentry | rfl⟩ := hmem entry hentry
    · exact h.keyed entry hentry
    · rfl
  · intro entry hentry
    obtain ⟨-, hentry | rfl⟩ := hmem entry hentry
    · exact List.mem_append_left _ (h.tracked entry hentry)
    · exact List.mem_append_right _ List.mem_cons_self
  · intro entry hentry
    obtain ⟨-, hentry | rfl⟩ := hmem entry hentry
    · exact h.started entry hentry
    · exact htime
  · intro entry hentry
    exact (hmem entry hentry).1
  · exact (ordered_tracked h.ordered hpast).filter _
  · exact length_tracked _ hroom

end Step

end Call

/-! ## All calls -/

section Calls

variable {ar dateParse config} {calls : List (AnalyzerCall N)} {call : AnalyzerCall N}

namespace AnalyzerCall.Timely

omit [Field N] [LinearOrder N] in
private theorem init (h : Timely dateParse (calls ++ [call])) : Timely dateParse calls where
  valid earlier hearlier := h.valid earlier (List.mem_append_left _ hearlier)
  ordered := (List.pairwise_append.mp h.ordered).1
  distinct := by
    have hdistinct := h.distinct
    rw [List.filterMap_append] at hdistinct
    exact hdistinct.of_append_left

omit [Field N] [LinearOrder N] in
private theorem le_last {nowMs : ℤ} (h : Timely dateParse (calls ++ [call]))
    (htime : call.time dateParse = some nowMs) {earlier : AnalyzerCall N}
    (hearlier : earlier ∈ calls) {s : ℤ} (hs : earlier.time dateParse = some s) : s ≤ nowMs :=
  (List.pairwise_append.mp h.ordered).2.2 earlier hearlier call List.mem_cons_self s hs nowMs htime

omit [Field N] [LinearOrder N] in
private theorem id_ne {cascade earlier : CascadeEvent (CascadeDetail N)}
    (h : Timely dateParse (calls ++ [.track cascade])) (hearlier : .track earlier ∈ calls) :
    earlier.cascadeId ≠ cascade.cascadeId := by
  have hdistinct := h.distinct
  rw [List.filterMap_append, List.nodup_append] at hdistinct
  exact hdistinct.2.2 _ (List.mem_filterMap.mpr ⟨_, hearlier, rfl⟩) _ List.mem_cons_self

end AnalyzerCall.Timely

omit [Field N] [LinearOrder N] in
private theorem Watched.past {tracked : List (AnalyzerCall N)} (hsub : tracked ⊆ calls)
    {entries : List (String × ActiveAbsorption N)}
    (h : Watched config dateParse tracked entries)
    (htimely : AnalyzerCall.Timely dateParse (calls ++ [call])) {nowMs : ℤ}
    (htime : call.time dateParse = some nowMs) :
    ∀ entry ∈ entries, entry.2.startedAtMs ≤ nowMs := fun entry hentry =>
  htimely.le_last htime (hsub (h.tracked entry hentry)) (h.started entry hentry)

omit [Field N] [LinearOrder N] in
private theorem Watched.fresh {tracked : List (AnalyzerCall N)} (hsub : tracked ⊆ calls)
    {entries : List (String × ActiveAbsorption N)}
    (h : Watched config dateParse tracked entries) {cascade : CascadeEvent (CascadeDetail N)}
    (htimely : AnalyzerCall.Timely dateParse (calls ++ [.track cascade])) :
    ∀ entry ∈ entries, entry.1 ≠ cascade.cascadeId := by
  intro entry hentry
  rw [h.keyed entry hentry]
  exact htimely.id_ne (hsub (h.tracked entry hentry))

variable [IsStrictOrderedRing N]

/-- What is in its window at a later time is not lost to pruning. -/
theorem filter_pending {nowMs later : ℤ} (hle : nowMs ≤ later)
    {entries : List (String × ActiveAbsorption N)}
    (hentries : ∀ entry ∈ entries, entry.2.confirmed = false)
    {p : String × ActiveAbsorption N → Bool}
    (hp : ∀ entry, p entry = true → entry.2.InWindow config later) :
    (entries.filter fun entry => entry.2.Pending config nowMs).filter p = entries.filter p := by
  rw [List.filter_filter]
  apply List.filter_congr
  intro entry hentry
  cases hkept : p entry with
  | false => rfl
  | true =>
    rw [Bool.true_and]
    exact decide_eq_true ⟨hentries entry hentry, (hp entry hkept).earlier hle⟩

omit [Field N] [LinearOrder N] [IsStrictOrderedRing N] in
private theorem watched_nil :
    Watched config dateParse [] (AbsorptionAnalyzer.new : AbsorptionAnalyzer N).active.entries := by
  constructor
  · exact fun entry hentry => absurd hentry List.not_mem_nil
  · exact fun entry hentry => absurd hentry List.not_mem_nil
  · exact fun entry hentry => absurd hentry List.not_mem_nil
  · exact fun entry hentry => absurd hentry List.not_mem_nil
  · exact List.Pairwise.nil
  · exact Nat.zero_le _

/-- A call keeps the account of the watched cascades. -/
theorem Watched.step {tracked : List (AnalyzerCall N)} (hsub : tracked ⊆ calls)
    {analyzer : AbsorptionAnalyzer N}
    (h : Watched config dateParse tracked analyzer.active.entries)
    (htimely : AnalyzerCall.Timely dateParse (calls ++ [call]))
    (hroom : ∀ cascade, call = .track cascade → analyzer.HasRoom dateParse config cascade)
    (hclear : ∀ observation, call = .observe observation →
      analyzer.Unobstructed ar dateParse config observation) :
    Watched config dateParse (tracked ++ [call])
      (analyzer.step ar dateParse config call).1.active.entries := by
  obtain ⟨nowMs, htime⟩ := Option.isSome_iff_exists.mp
    (htimely.valid call (List.mem_append_right _ List.mem_cons_self))
  cases call with
  | track cascade =>
    have hpast := h.past hsub htimely htime
    have hspace := hroom cascade rfl nowMs htime
    show Watched _ _ _ (analyzer.trackCascade dateParse config cascade).active.entries
    rw [h.track htime (h.fresh hsub htimely) hpast hspace]
    exact h.after_track htime hpast hspace
  | observe observation =>
    show Watched _ _ _ (analyzer.observe ar dateParse config observation).1.active.entries
    rw [(h.observe htime (hclear observation rfl)).1]
    exact h.after_observe observation

omit [Field N] [LinearOrder N] [IsStrictOrderedRing N] in
private theorem append_singleton_eq_cons {before after : List (AnalyzerCall N)}
    {last middle : AnalyzerCall N} (h : calls ++ [last] = before ++ middle :: after) :
    (calls = before ∧ last = middle ∧ after = []) ∨
      ∃ rest, after = rest ++ [last] ∧ calls = before ++ middle :: rest := by
  rcases List.eq_nil_or_concat after with rfl | ⟨rest, final, rfl⟩
  · obtain ⟨hcalls, hlast⟩ := List.append_inj' h rfl
    exact .inl ⟨hcalls, List.singleton_inj.mp hlast, rfl⟩
  · rw [List.concat_eq_append, ← List.cons_append, ← List.append_assoc] at h
    obtain ⟨hcalls, hlast⟩ := List.append_inj' h rfl
    refine .inr ⟨rest, ?_, hcalls⟩
    rw [List.concat_eq_append, hlast]

omit [IsStrictOrderedRing N] in
/-- A pending cascade watches what is an observation of it. -/
theorem isObservationOf_eq {active : ActiveAbsorption N} {observation : AbsorptionObservation N}
    {nowMs : ℤ} (hstarted : dateParse active.cascade.detectedAt = some active.startedAtMs)
    (htime : dateParse observation.observedAt = some nowMs)
    (hpending : active.Pending config nowMs) :
    isObservationOf dateParse config active.cascade (.observe observation) =
      decide (active.Watches config observation nowMs) := by
  have hwindow : decide (((nowMs - active.startedAtMs : ℤ) : N) ≤ config.absorptionWindowMs) =
      true := decide_eq_true hpending.2
  rw [isObservationOf, hstarted, htime, Option.any_some, Option.any_some, hwindow, Bool.and_true]
  exact decide_eq_decide.mpr ⟨fun hinstrument => ⟨hpending, hinstrument⟩, And.right⟩

/-- Each watched cascade has been shown every observation of its instrument in its window. -/
theorem Watched.counted {analyzer : AbsorptionAnalyzer N}
    (h : Watched config dateParse calls analyzer.active.entries)
    (htimely : AnalyzerCall.Timely dateParse (calls ++ [call]))
    (hroom : ∀ cascade, call = .track cascade → analyzer.HasRoom dateParse config cascade)
    (hclear : ∀ observation, call = .observe observation →
      analyzer.Unobstructed ar dateParse config observation)
    (hcounted : ∀ before cascade after, calls = before ++ .track cascade :: after →
      ∀ entry ∈ analyzer.active.entries, entry.1 = cascade.cascadeId →
        entry.2.cascade = cascade ∧
          entry.2.observations = (after.filter (isObservationOf dateParse config cascade)).length) :
    ∀ before cascade after, calls ++ [call] = before ++ .track cascade :: after →
      ∀ entry ∈ (analyzer.step ar dateParse config call).1.active.entries,
        entry.1 = cascade.cascadeId →
          entry.2.cascade = cascade ∧
            entry.2.observations =
              (after.filter (isObservationOf dateParse config cascade)).length := by
  obtain ⟨nowMs, htime⟩ := Option.isSome_iff_exists.mp
    (htimely.valid call (List.mem_append_right _ List.mem_cons_self))
  intro before cascade after hsplit entry hentry hkey
  cases call with
  | track tracked =>
    have hfresh := h.fresh (List.Subset.refl _) htimely
    rw [AbsorptionAnalyzer.step, h.track htime hfresh (h.past (List.Subset.refl _) htimely htime)
      (hroom tracked rfl nowMs htime), List.mem_filter, List.mem_append, List.mem_singleton]
      at hentry
    rcases append_singleton_eq_cons hsplit with ⟨-, hlast, rfl⟩ | ⟨rest, rfl, rfl⟩
    · obtain rfl := AnalyzerCall.track.inj hlast
      rcases hentry.1 with hmem | rfl
      · exact absurd hkey (hfresh entry hmem)
      · exact ⟨rfl, rfl⟩
    · rcases hentry.1 with hmem | rfl
      · obtain ⟨hcascade, hcount⟩ := hcounted before cascade rest rfl entry hmem hkey
        refine ⟨hcascade, ?_⟩
        rw [hcount, List.filter_append, List.filter_cons_of_neg Bool.false_ne_true,
          List.filter_nil, List.append_nil]
      · exact absurd hkey.symm (htimely.id_ne
          (List.mem_append_right _ List.mem_cons_self))
  | observe observation =>
    rw [AbsorptionAnalyzer.step, (h.observe htime (hclear observation rfl)).1, List.mem_filter,
      List.mem_map] at hentry
    obtain ⟨⟨old, hold, rfl⟩, hpending⟩ := hentry
    have hwindow := ActiveAbsorption.inWindow_shown.mp (of_decide_eq_true hpending).2
    rcases append_singleton_eq_cons hsplit with ⟨-, hlast, -⟩ | ⟨rest, rfl, rfl⟩
    · exact nomatch hlast
    · obtain ⟨rfl, hcount⟩ := hcounted before cascade rest rfl old hold hkey
      refine ⟨ActiveAbsorption.shown_cascade, ?_⟩
      have hshown : isObservationOf dateParse config old.2.cascade (.observe observation) =
          decide (old.2.Watches config observation nowMs) :=
        isObservationOf_eq (h.started old hold) htime ⟨h.unconfirmed old hold, hwindow⟩
      rw [ActiveAbsorption.shown_observations, hcount, List.filter_append, List.length_append,
        List.filter_singleton, hshown]
      by_cases hwatches : old.2.Watches config observation nowMs
      · simp only [hwatches, if_true, decide_true, cond_true, List.length_singleton]
      · simp only [hwatches, if_false, decide_false, cond_false, List.length_nil]

/-! ## The run of one cascade -/

omit [Field N] [LinearOrder N] [IsStrictOrderedRing N] in
private theorem solo_append_of_true {cascadeId : String}
    (h : call.trackedId.all (· = cascadeId) = true) :
    AnalyzerCall.solo cascadeId (calls ++ [call]) =
      AnalyzerCall.solo cascadeId calls ++ [call] := by
  rw [AnalyzerCall.solo, List.filter_append, List.filter_singleton, h]
  rfl

omit [Field N] [LinearOrder N] [IsStrictOrderedRing N] in
private theorem solo_append_of_ne {cascade : CascadeEvent (CascadeDetail N)} {cascadeId : String}
    (h : cascade.cascadeId ≠ cascadeId) :
    AnalyzerCall.solo cascadeId (calls ++ [.track cascade]) =
      AnalyzerCall.solo cascadeId calls := by
  have hfalse : (AnalyzerCall.track cascade).trackedId.all (· = cascadeId) = false := by
    simpa [AnalyzerCall.trackedId] using h
  rw [AnalyzerCall.solo, List.filter_append, List.filter_singleton, hfalse, cond_false,
    List.append_nil]
  rfl

omit [Field N] [LinearOrder N] [IsStrictOrderedRing N] in
/-- The run of one cascade watches at most that one. -/
theorem Watched.eq_nil_or_singleton {cascadeId : String} {analyzer : AbsorptionAnalyzer N}
    (h : Watched config dateParse (AnalyzerCall.solo cascadeId calls) analyzer.active.entries) :
    analyzer.active.entries = [] ∨
      ∃ active, analyzer.active.entries = [(cascadeId, active)] := by
  have hkey : ∀ entry ∈ analyzer.active.entries, entry.1 = cascadeId := by
    intro entry hentry
    have htracked := (List.mem_filter.mp (h.tracked entry hentry)).2
    rw [h.keyed entry hentry]
    simpa [AnalyzerCall.trackedId] using htracked
  have hnodup := analyzer.active.nodup
  cases hentries : analyzer.active.entries with
  | nil => exact .inl rfl
  | cons first rest =>
    rw [hentries] at hkey hnodup
    cases rest with
    | nil =>
      refine .inr ⟨first.2, ?_⟩
      rw [← hkey first List.mem_cons_self]
    | cons second rest =>
      refine absurd ?_ (List.nodup_cons.mp hnodup).1
      rw [hkey first List.mem_cons_self,
        ← hkey second (List.mem_cons_of_mem _ List.mem_cons_self)]
      exact List.mem_cons_self

omit [IsStrictOrderedRing N] in
/-- Where one cascade is watched, no other is passed over. -/
theorem Watched.unobstructed {cascadeId : String} {analyzer : AbsorptionAnalyzer N}
    (h : Watched config dateParse (AnalyzerCall.solo cascadeId calls) analyzer.active.entries)
    (observation : AbsorptionObservation N) :
    analyzer.Unobstructed ar dateParse config observation := by
  intro nowMs _
  rcases h.eq_nil_or_singleton with hentries | ⟨active, hentries⟩
  · rw [hentries]
    exact List.Pairwise.nil
  · rw [hentries]
    exact List.pairwise_singleton _ _

/-- The first report of entries of which at most one reports. -/
private theorem head?_filterMap_eq_some {α β : Type} {f : α → Option β} {entries : List α}
    (h : entries.Pairwise fun entry later => ∀ report, f entry = some report → f later = none)
    {report : β} :
    (entries.filterMap f).head? = some report ↔ ∃ entry ∈ entries, f entry = some report := by
  induction entries with
  | nil => simp
  | cons entry entries ih =>
    obtain ⟨hfirst, hrest⟩ := List.pairwise_cons.mp h
    cases hentry : f entry with
    | none =>
      rw [List.filterMap_cons_none hentry, ih hrest]
      simp [hentry]
    | some first =>
      rw [List.filterMap_cons_some hentry, List.head?_cons]
      constructor
      · intro heq
        exact ⟨entry, List.mem_cons_self, hentry.trans heq⟩
      · rintro ⟨other, hother, hreport⟩
        rcases List.mem_cons.mp hother with rfl | hmem
        · exact hentry.symm.trans hreport
        · rw [hfirst other hmem first hentry] at hreport
          exact nomatch hreport

/-- The entries of a cascade in its window, which the run that tracks it alone has as well. -/
def Agree (config : AbsorptionAnalyzerConfig N) (dateParse : String → Option ℤ)
    (calls : List (AnalyzerCall N)) (cascadeId : String)
    (entries alone : List (String × ActiveAbsorption N)) : Prop :=
  ∀ later, (∀ call ∈ calls, ∀ s, call.time dateParse = some s → s ≤ later) →
    (entries.filter fun entry => entry.1 = cascadeId ∧ entry.2.InWindow config later) =
      alone.filter fun entry => entry.2.InWindow config later

variable {cascadeId : String} {analyzer alone : AbsorptionAnalyzer N} {nowMs : ℤ}

omit [IsStrictOrderedRing N] in
private theorem filter_shown {observation : AbsorptionObservation N}
    {entries : List (String × ActiveAbsorption N)} {p : String × ActiveAbsorption N → Bool}
    (hp : ∀ entry, p (entry.1, entry.2.shown ar config observation nowMs) = p entry) :
    ((entries.map fun entry => (entry.1, entry.2.shown ar config observation nowMs)).filter
        fun entry => entry.2.Pending config nowMs).filter p =
      ((entries.filter p).map fun entry =>
        (entry.1, entry.2.shown ar config observation nowMs)).filter fun entry =>
          entry.2.Pending config nowMs := by
  rw [List.filter_filter, List.filter_map, List.filter_map, List.filter_filter]
  congr 1
  apply List.filter_congr
  intro entry _
  simp only [Function.comp_apply, hp, Bool.and_comm]

omit [IsStrictOrderedRing N] in
/-- An observation keeps the agreement. -/
theorem Agree.observe {observation : AbsorptionObservation N}
    {entries others : List (String × ActiveAbsorption N)}
    (h : Agree config dateParse calls cascadeId entries others) :
    Agree config dateParse (calls ++ [.observe observation]) cascadeId
      ((entries.map fun entry => (entry.1, entry.2.shown ar config observation nowMs)).filter
        fun entry => entry.2.Pending config nowMs)
      ((others.map fun entry => (entry.1, entry.2.shown ar config observation nowMs)).filter
        fun entry => entry.2.Pending config nowMs) := by
  intro later hlater
  have hagree := h later fun call hcall => hlater call (List.mem_append_left _ hcall)
  rw [filter_shown, filter_shown, hagree]
  · intro entry
    simp only [ActiveAbsorption.inWindow_shown]
  · intro entry
    simp only [ActiveAbsorption.inWindow_shown]

section Track

variable {cascade : CascadeEvent (CascadeDetail N)}
  {entries others : List (String × ActiveAbsorption N)}

omit [Field N] [LinearOrder N] [IsStrictOrderedRing N] in
private theorem unconfirmed_tracked
    (h : ∀ entry ∈ entries, entry.2.confirmed = false) :
    ∀ entry ∈ entries ++ [(cascade.cascadeId, ActiveAbsorption.new cascade nowMs)],
      entry.2.confirmed = false := by
  intro entry hentry
  rcases List.mem_append.mp hentry with hmem | hnew
  · exact h entry hmem
  · rw [List.mem_singleton.mp hnew]
    rfl

/-- Tracking the cascade in both runs keeps the agreement. -/
theorem Agree.track (h : Agree config dateParse calls cascade.cascadeId entries others)
    (hentries : ∀ entry ∈ entries, entry.2.confirmed = false)
    (hothers : ∀ entry ∈ others, entry.2.confirmed = false)
    (htime : dateParse cascade.detectedAt = some nowMs) :
    Agree config dateParse (calls ++ [.track cascade]) cascade.cascadeId
      ((entries ++ [(cascade.cascadeId, ActiveAbsorption.new cascade nowMs)]).filter
        fun entry => entry.2.Pending config nowMs)
      ((others ++ [(cascade.cascadeId, ActiveAbsorption.new cascade nowMs)]).filter
        fun entry => entry.2.Pending config nowMs) := by
  intro later hlater
  have hagree := h later fun call hcall => hlater call (List.mem_append_left _ hcall)
  have hle : nowMs ≤ later :=
    hlater (.track cascade) (List.mem_append_right _ List.mem_cons_self) nowMs htime
  rw [filter_pending hle (unconfirmed_tracked hentries),
    filter_pending hle (unconfirmed_tracked hothers), List.filter_append, List.filter_append,
    hagree]
  · simp only [List.filter_singleton, true_and]
  · intro entry hentry
    exact of_decide_eq_true hentry
  · intro entry hentry
    exact (of_decide_eq_true hentry).2

/-- Tracking another cascade keeps the agreement with the run that leaves it out. -/
theorem Agree.track_other {cascadeId : String}
    (h : Agree config dateParse calls cascadeId entries others)
    (hentries : ∀ entry ∈ entries, entry.2.confirmed = false)
    (htime : dateParse cascade.detectedAt = some nowMs) (hne : cascade.cascadeId ≠ cascadeId) :
    Agree config dateParse (calls ++ [.track cascade]) cascadeId
      ((entries ++ [(cascade.cascadeId, ActiveAbsorption.new cascade nowMs)]).filter
        fun entry => entry.2.Pending config nowMs) others := by
  intro later hlater
  have hagree := h later fun call hcall => hlater call (List.mem_append_left _ hcall)
  have hle : nowMs ≤ later :=
    hlater (.track cascade) (List.mem_append_right _ List.mem_cons_self) nowMs htime
  rw [filter_pending hle (unconfirmed_tracked hentries), List.filter_append, hagree]
  · simp only [List.filter_singleton, hne, false_and, decide_false, cond_false, List.append_nil]
  · intro entry hentry
    exact (of_decide_eq_true hentry).2

end Track

/-- Both runs report the same of the cascade on an observation. -/
theorem Agree.report (h : Agree config dateParse calls cascadeId analyzer.active.entries
      alone.active.entries)
    (hanalyzer : Watched config dateParse calls analyzer.active.entries)
    (halone : Watched config dateParse (AnalyzerCall.solo cascadeId calls) alone.active.entries)
    {observation : AbsorptionObservation N}
    (htimely : AnalyzerCall.Timely dateParse (calls ++ [.observe observation]))
    (htime : dateParse observation.observedAt = some nowMs)
    (hclear : analyzer.Unobstructed ar dateParse config observation) :
    ((analyzer.observe ar dateParse config observation).2.filter
        fun report => report.cascadeId = cascadeId) =
      (alone.observe ar dateParse config observation).2 := by
  have hone : ∀ {watched : AbsorptionAnalyzer N},
      watched.Unobstructed ar dateParse config observation →
      watched.active.entries.Pairwise fun entry later =>
        ∀ report, entry.2.report? ar config observation nowMs = some report →
          later.2.report? ar config observation nowMs = none := by
    intro watched hwatched
    refine (hwatched nowMs htime).imp ?_
    intro entry later hpair report hreport
    obtain ⟨hwatches, hconfirms, -⟩ := ActiveAbsorption.watches_of_report? hreport
    exact ActiveAbsorption.report?_of_not_watches (hpair hwatches hconfirms)
  have hagree := h nowMs fun call hcall s hs => htimely.le_last htime hcall hs
  have hunobstructed : alone.Unobstructed ar dateParse config observation :=
    halone.unobstructed observation
  rw [(hanalyzer.observe htime hclear).2, (halone.observe htime hunobstructed).2]
  ext report
  rw [Option.filter_eq_some_iff, head?_filterMap_eq_some (hone hclear),
    head?_filterMap_eq_some (hone hunobstructed)]
  constructor
  · rintro ⟨⟨entry, hentry, hreport⟩, hid⟩
    obtain ⟨hwatches, -, hcascade⟩ := ActiveAbsorption.watches_of_report? hreport
    have hkey : entry.1 = cascadeId := by
      rw [hanalyzer.keyed entry hentry, ← hcascade]
      exact of_decide_eq_true hid
    have hmem : entry ∈ alone.active.entries.filter fun entry =>
        entry.2.InWindow config nowMs := by
      rw [← hagree]
      exact List.mem_filter.mpr ⟨hentry, decide_eq_true ⟨hkey, hwatches.1.2⟩⟩
    exact ⟨entry, (List.mem_filter.mp hmem).1, hreport⟩
  · rintro ⟨entry, hentry, hreport⟩
    obtain ⟨hwatches, -, hcascade⟩ := ActiveAbsorption.watches_of_report? hreport
    have hmem : entry ∈ analyzer.active.entries.filter fun entry =>
        entry.1 = cascadeId ∧ entry.2.InWindow config nowMs := by
      rw [hagree]
      exact List.mem_filter.mpr ⟨hentry, decide_eq_true hwatches.1.2⟩
    obtain ⟨hmem, hkept⟩ := List.mem_filter.mp hmem
    refine ⟨⟨entry, hmem, hreport⟩, decide_eq_true ?_⟩
    rw [hcascade, ← hanalyzer.keyed entry hmem]
    exact (of_decide_eq_true hkept).1

/-- What all calls so far leave to be true of a run and of the run of one of its cascades. -/
structure Isolated (ar : CascadeArithmetic N N) (dateParse : String → Option ℤ)
    (config : AbsorptionAnalyzerConfig N) (cascadeId : String) (calls : List (AnalyzerCall N)) :
    Prop where
  watched : Watched config dateParse calls (afterCalls ar dateParse config calls).1.active.entries
  alone : Watched config dateParse (AnalyzerCall.solo cascadeId calls)
    (afterCalls ar dateParse config (AnalyzerCall.solo cascadeId calls)).1.active.entries
  agree : Agree config dateParse calls cascadeId
    (afterCalls ar dateParse config calls).1.active.entries
    (afterCalls ar dateParse config (AnalyzerCall.solo cascadeId calls)).1.active.entries
  reports : reportsOf cascadeId (afterCalls ar dateParse config calls).2 =
    (afterCalls ar dateParse config (AnalyzerCall.solo cascadeId calls)).2
  counted : ∀ before cascade after, calls = before ++ .track cascade :: after →
    ∀ entry ∈ (afterCalls ar dateParse config calls).1.active.entries,
      entry.1 = cascade.cascadeId → entry.2.cascade = cascade ∧
        entry.2.observations = (after.filter (isObservationOf dateParse config cascade)).length

omit [IsStrictOrderedRing N] in
private theorem isolated_nil (cascadeId : String) :
    Isolated ar dateParse config cascadeId [] where
  watched := watched_nil
  alone := watched_nil
  agree _ _ := rfl
  reports := rfl
  counted _ _ _ _ _ hentry := absurd hentry List.not_mem_nil

/-- A call keeps a run and the run of one of its cascades together. -/
theorem Isolated.step (h : Isolated ar dateParse config cascadeId calls)
    (htimely : AnalyzerCall.Timely dateParse (calls ++ [call]))
    (hroom : ∀ cascade, call = .track cascade →
      (afterCalls ar dateParse config calls).1.HasRoom dateParse config cascade)
    (hclear : ∀ observation, call = .observe observation →
      (afterCalls ar dateParse config calls).1.Unobstructed ar dateParse config observation) :
    Isolated ar dateParse config cascadeId (calls ++ [call]) := by
  have hsub : AnalyzerCall.solo cascadeId calls ⊆ calls := List.filter_sublist.subset
  have hwatched := h.watched.step (List.Subset.refl _) htimely hroom hclear
  have hcounted := h.watched.counted htimely hroom hclear h.counted
  have hlast := afterCalls_append_singleton ar dateParse config
  obtain ⟨nowMs, htime⟩ := Option.isSome_iff_exists.mp
    (htimely.valid call (List.mem_append_right _ List.mem_cons_self))
  cases call with
  | track cascade =>
    have hspace := hroom cascade rfl nowMs htime
    have hfull := h.watched.track htime (h.watched.fresh (List.Subset.refl _) htimely)
      (h.watched.past (List.Subset.refl _) htimely htime) hspace
    by_cases hid : cascade.cascadeId = cascadeId
    · subst hid
      have hsolo : AnalyzerCall.solo cascade.cascadeId (calls ++ [.track cascade]) =
          AnalyzerCall.solo cascade.cascadeId calls ++ [.track cascade] :=
        solo_append_of_true (decide_eq_true rfl)
      -- nothing is watched yet in the run of this cascade alone
      have hroomAlone : (afterCalls ar dateParse config
          (AnalyzerCall.solo cascade.cascadeId calls)).1.HasRoom dateParse config cascade := by
        intro _ _
        rcases h.alone.eq_nil_or_singleton with hentries | ⟨active, hentries⟩
        · rw [hentries, List.filter_nil, List.length_nil]
          omega
        · exact absurd rfl (h.alone.fresh hsub htimely (cascade.cascadeId, active)
            (by rw [hentries]; exact List.mem_cons_self))
      have halone := h.alone.track htime (h.alone.fresh hsub htimely)
        (h.alone.past hsub htimely htime) (hroomAlone nowMs htime)
      refine ⟨?_, ?_, ?_, ?_, ?_⟩
      · rw [hlast]
        exact hwatched
      · rw [hsolo, hlast]
        show Watched _ _ _ (AbsorptionAnalyzer.trackCascade _ _ _ _).active.entries
        rw [halone]
        exact h.alone.after_track htime (h.alone.past hsub htimely htime) (hroomAlone nowMs htime)
      · rw [hsolo, hlast, hlast]
        show Agree _ _ _ _ (AbsorptionAnalyzer.trackCascade _ _ _ _).active.entries
          (AbsorptionAnalyzer.trackCascade _ _ _ _).active.entries
        rw [hfull, halone]
        exact h.agree.track h.watched.unconfirmed h.alone.unconfirmed htime
      · rw [hsolo, hlast, hlast]
        show reportsOf _ (_ ++ []) = _ ++ []
        rw [List.append_nil, List.append_nil]
        exact h.reports
      · rw [hlast]
        exact hcounted
    · have hsolo : AnalyzerCall.solo cascadeId (calls ++ [.track cascade]) =
          AnalyzerCall.solo cascadeId calls := solo_append_of_ne hid
      refine ⟨?_, ?_, ?_, ?_, ?_⟩
      · rw [hlast]
        exact hwatched
      · rw [hsolo]
        exact h.alone
      · rw [hsolo, hlast]
        show Agree _ _ _ _ (AbsorptionAnalyzer.trackCascade _ _ _ _).active.entries _
        rw [hfull]
        exact h.agree.track_other h.watched.unconfirmed htime hid
      · rw [hsolo, hlast]
        show reportsOf _ (_ ++ []) = _
        rw [List.append_nil]
        exact h.reports
      · rw [hlast]
        exact hcounted
  | observe observation =>
    have hsolo : AnalyzerCall.solo cascadeId (calls ++ [.observe observation]) =
        AnalyzerCall.solo cascadeId calls ++ [.observe observation] := solo_append_of_true rfl
    have hunobstructed : (afterCalls ar dateParse config
        (AnalyzerCall.solo cascadeId calls)).1.Unobstructed ar dateParse config observation :=
      h.alone.unobstructed observation
    refine ⟨?_, ?_, ?_, ?_, ?_⟩
    · rw [hlast]
      exact hwatched
    · rw [hsolo, hlast]
      refine h.alone.step hsub htimely (fun cascade heq => nomatch heq) ?_
      rintro _ heq
      rw [← AnalyzerCall.observe.inj heq]
      exact hunobstructed
    · rw [hsolo, hlast, hlast]
      show Agree _ _ _ _ (AbsorptionAnalyzer.observe _ _ _ _ _).1.active.entries
        (AbsorptionAnalyzer.observe _ _ _ _ _).1.active.entries
      rw [(h.watched.observe htime (hclear observation rfl)).1,
        (h.alone.observe htime hunobstructed).1]
      exact h.agree.observe
    · rw [hsolo, hlast, hlast]
      show reportsOf _ (_ ++ [_]) = _ ++ [_]
      rw [reportsOf, List.map_append, List.map_singleton,
        h.agree.report h.watched h.alone htimely htime (hclear observation rfl), ← h.reports,
        reportsOf]
    · rw [hlast]
      exact hcounted

/-- Where no observation confirms a cascade before another one that watches it, every cascade is
reported as if it were watched alone, and every observation of it is counted. -/
theorem watched_as_alone (htimely : AnalyzerCall.Timely dateParse calls)
    (hroom : ∀ before cascade after, calls = before ++ .track cascade :: after →
      (afterCalls ar dateParse config before).1.HasRoom dateParse config cascade)
    (hclear : ∀ before observation after, calls = before ++ .observe observation :: after →
      (afterCalls ar dateParse config before).1.Unobstructed ar dateParse config observation) :
    (∀ cascadeId, reportsOf cascadeId (afterCalls ar dateParse config calls).2 =
      (afterCalls ar dateParse config (AnalyzerCall.solo cascadeId calls)).2) ∧
      ∀ before cascade after, calls = before ++ .track cascade :: after → ∀ active,
        (afterCalls ar dateParse config calls).1.active.get? cascade.cascadeId = some active →
          active.observations =
            (after.filter (isObservationOf dateParse config cascade)).length := by
  have hisolated : ∀ cascadeId, Isolated ar dateParse config cascadeId calls := by
    intro cascadeId
    induction calls using List.reverseRecOn with
    | nil => exact isolated_nil cascadeId
    | append_singleton calls call ih =>
      have hcalls := ih htimely.init
        (fun before cascade after heq => hroom before cascade (after ++ [call]) (by rw [heq]; simp))
        (fun before observation after heq =>
          hclear before observation (after ++ [call]) (by rw [heq]; simp))
      refine hcalls.step htimely ?_ ?_
      · rintro cascade rfl
        exact hroom calls cascade [] rfl
      · rintro observation rfl
        exact hclear calls observation [] rfl
  refine ⟨fun cascadeId => (hisolated cascadeId).reports, ?_⟩
  intro before cascade after hsplit active hactive
  exact ((hisolated cascade.cascadeId).counted before cascade after hsplit
    (cascade.cascadeId, active) (Rows.mem_entries_iff.mpr hactive) rfl).2

end Calls

end Run

/-! ## Two cascades -/

section Samples

open CascadeArithmetic (unrounded)

/-- The minutes of a day that the sample calls are dated by. -/
private def clockParse (text : String) : Option ℤ :=
  if text = "2024-01-01T00:00:00.000Z" then some 1704067200000
  else if text = "2024-01-01T00:01:00.000Z" then some 1704067260000
  else if text = "2024-01-01T00:02:00.000Z" then some 1704067320000
  else none

private def threeMinutes : AbsorptionAnalyzerConfig ℚ where
  absorptionWindowMs := 180000
  priceBandBps := 30
  minHoldSeconds := 60
  oiStabilityBps := 5
  maxActiveCascades := 24

private def soldOff (cascadeId instrumentCode detectedAt : String) :
    CascadeEvent (CascadeDetail ℚ) where
  cascadeId
  instrumentCode
  detectedAt
  rest :=
    { direction := .longLiquidation
      priceAtPeak := 100
      liquidationNotional := 60000000
      liquidationCount := 40
      zScore := 5
      priceMoveAtr := 2
      directionalPct := 1 }

private def bitcoinAt (observedAt : String) (cumulativeVolumeDelta : ℚ) :
    AbsorptionObservation ℚ where
  instrumentCode := "btc-perp"
  observedAt
  price := 100
  takerBuyVolume := 5
  takerSellVolume := 5
  cumulativeVolumeDelta
  openInterest := none

/-- Two cascades within a minute, and a price that holds until the volume delta turns. -/
def twoCascades (instrumentCode : String) : List (AnalyzerCall ℚ) :=
  [.track (soldOff "first" "btc-perp" "2024-01-01T00:00:00.000Z"),
    .track (soldOff "second" instrumentCode "2024-01-01T00:01:00.000Z"),
    .observe (bitcoinAt "2024-01-01T00:01:00.000Z" (-1)),
    .observe (bitcoinAt "2024-01-01T00:02:00.000Z" 1)]

private theorem timely_twoCascades {instrumentCode : String}
    (h : instrumentCode = "btc-perp" ∨ instrumentCode = "eth-perp") :
    AnalyzerCall.Timely clockParse (twoCascades instrumentCode) := by
  rcases h with rfl | rfl
  · exact ⟨by decide +kernel, by decide +kernel, by decide +kernel⟩
  · exact ⟨by decide +kernel, by decide +kernel, by decide +kernel⟩

private theorem eq_take_of_split {calls before after : List (AnalyzerCall ℚ)}
    {call : AnalyzerCall ℚ} (h : calls = before ++ call :: after) :
    before = calls.take before.length ∧ before.length < calls.length := by
  subst h
  refine ⟨List.take_left.symm, ?_⟩
  rw [List.length_append, List.length_cons]
  omega

private theorem room_twoCascades {instrumentCode : String}
    (h : instrumentCode = "btc-perp" ∨ instrumentCode = "eth-perp") :
    ∀ before cascade after, twoCascades instrumentCode = before ++ .track cascade :: after →
      (afterCalls (unrounded ℚ) clockParse threeMinutes before).1.HasRoom clockParse threeMinutes
        cascade := by
  have hroom : ∀ count < 4, (afterCalls (unrounded ℚ) clockParse threeMinutes
      ((twoCascades instrumentCode).take count)).1.active.entries.length ≤ 23 := by
    rcases h with rfl | rfl
    · decide +kernel
    · decide +kernel
  intro before cascade after hsplit nowMs _
  obtain ⟨hbefore, hlength⟩ := eq_take_of_split hsplit
  have hle := List.length_filter_le (fun entry : String × ActiveAbsorption ℚ =>
    decide (entry.2.Pending threeMinutes nowMs))
    (afterCalls (unrounded ℚ) clockParse threeMinutes before).1.active.entries
  have hentries := hroom before.length hlength
  rw [← hbefore] at hentries
  have hmax : threeMinutes.maxActiveCascades = 24 := rfl
  omega

/-- The second cascade never sees the observation that confirms the first one. -/
theorem second_cascade_passed_over :
    AnalyzerCall.Timely clockParse (twoCascades "btc-perp") ∧
      (∀ before cascade after, twoCascades "btc-perp" = before ++ .track cascade :: after →
        (afterCalls (unrounded ℚ) clockParse threeMinutes before).1.HasRoom clockParse
          threeMinutes cascade) ∧
      reportsOf "second" (afterCalls (unrounded ℚ) clockParse threeMinutes
          (twoCascades "btc-perp")).2 ≠
        (afterCalls (unrounded ℚ) clockParse threeMinutes
          (AnalyzerCall.solo "second" (twoCascades "btc-perp"))).2 := by
  refine ⟨timely_twoCascades (.inl rfl), room_twoCascades (.inl rfl), ?_⟩
  intro hsame
  have hreports := congrArg (List.map Option.isSome) hsame
  revert hreports
  decide +kernel

/-- The second of two instruments is reported as if it were watched alone. -/
theorem second_instrument_as_alone :
    reportsOf "second" (afterCalls (unrounded ℚ) clockParse threeMinutes
        (twoCascades "eth-perp")).2 =
      (afterCalls (unrounded ℚ) clockParse threeMinutes
        (AnalyzerCall.solo "second" (twoCascades "eth-perp"))).2 := by
  refine (watched_as_alone (timely_twoCascades (.inr rfl)) (room_twoCascades (.inr rfl))
    ?_).1 "second"
  have hlater : ∀ count < 4, (afterCalls (unrounded ℚ) clockParse threeMinutes
      ((twoCascades "eth-perp").take count)).1.active.entries.Pairwise fun _ later =>
        later.2.cascade.instrumentCode = "eth-perp" := by
    decide +kernel
  intro before observation after hsplit nowMs _
  have hmem : .observe observation ∈ twoCascades "eth-perp" := by
    rw [hsplit]
    exact List.mem_append_right _ List.mem_cons_self
  have hbitcoin : observation.instrumentCode = "btc-perp" := by
    simp only [twoCascades, List.mem_cons, reduceCtorEq, AnalyzerCall.observe.injEq, false_or,
      List.not_mem_nil, or_false] at hmem
    rcases hmem with rfl | rfl <;> rfl
  obtain ⟨hbefore, hlength⟩ := eq_take_of_split hsplit
  rw [hbefore]
  refine (hlater before.length hlength).imp ?_
  intro entry later hinstrument _ _ hwatches
  have hsame := hwatches.2
  rw [hinstrument, hbitcoin] at hsame
  exact absurd hsame (by decide +kernel)

end Samples

end Yevow.Cascade
