import Yevow.Core.JavaScript.Reference
import Yevow.Models.DotCast.Resolution.PanelStatus
import Yevow.Models.DotCast.Resolution.Reading

/-!
# An assignment's status moves forward

Commits, reveals, timeouts and settlements of stored panels, in any order. As long as no
commit is stored on an assignment that is past it and no reveal on one that is finished,
every status moves forward, and what a timeout slashed is never counted again.
-/

namespace Yevow.DotCast

open JavaScript (Runtime)
open Program (run)
open ResolverStore

variable {js : Runtime} {s s' : ResolverStore}

/-! ## Reading a panel -/

/-- A list read from a table by one column holds exactly the rows with that value. -/
theorem mem_listed {β : Type} {fromRow : β → Except Fault β} {compare : β → β → ℤ}
    {table : Rows String β} {p : β → Prop} [DecidablePred p] {bs : List β}
    (hfrom : ∀ row b, fromRow row = .ok b → b = row)
    (h : (Sorting.sortBy compare (table.rows.filter fun b => p b)).mapM fromRow = .ok bs) (b : β) :
    b ∈ bs ↔ (∃ id, table.get? id = some b) ∧ p b := by
  rw [mapM_fromRow_eq_ok hfrom h, (Sorting.perm_sortBy _ _).mem_iff, List.mem_filter,
    Rows.mem_rows_iff, decide_eq_true_eq]

/-- A panel is read with the assignments stored for it. -/
theorem requireResolverPanel_cases (js : Runtime) (panelId : String) (s : ResolverStore) :
    (∃ e, run (resolverHandler js) (requireResolverPanel panelId) s = (.error e, s)) ∨
      ∃ panel : ResolverPanel,
        run (resolverHandler js) (requireResolverPanel panelId) s = (.ok panel, s) ∧
        panel.panelId = panelId ∧ panel.toResolverPanelRow.Valid ∧
        ∀ a, a ∈ panel.assignments ↔
          s.assignments.get? a.assignmentId = some a ∧ a.panelId = panelId := by
  unfold requireResolverPanel
  rw [run_getPanelRow_bind]
  rcases hread : (resolverHandler js (.getPanelRow panelId) s).1 with e | _ | row
  · exact Or.inl ⟨e, rfl⟩
  · exact Or.inl ⟨_, rfl⟩
  · obtain ⟨stored, hstored, hfrom⟩ := readRow_eq_ok_some.mp hread
    obtain rfl := panelFromRow_eq_ok hfrom
    obtain ⟨hid, hvalid⟩ := s.panels_ok _ _ hstored
    simp only [run_listAssignments_bind]
    rcases hlist : (resolverHandler js (.listAssignments panelId) s).1 with e | assignments
    · exact Or.inl ⟨e, rfl⟩
    · refine Or.inr ⟨⟨row, assignments⟩, rfl, hid, hvalid, fun a => ?_⟩
      rw [mem_listed (fun _ _ h => (assignmentFromRow_eq_ok.mp h).2) hlist a]
      constructor
      · rintro ⟨⟨id, ha⟩, hpanel⟩
        rw [(s.assignments_ok _ _ ha).1]
        exact ⟨ha, hpanel⟩
      · rintro ⟨ha, hpanel⟩
        exact ⟨⟨_, ha⟩, hpanel⟩

/-- The commits of a panel are read as they are stored. -/
theorem listResolverCommits_cases (js : Runtime) (panelId : String) (s : ResolverStore) :
    (∃ e, (resolverHandler js (.listResolverCommits panelId) s).1 = .error e) ∨
      ∃ commits : List ResolverCommit,
        (resolverHandler js (.listResolverCommits panelId) s).1 = .ok commits ∧
        ∀ c, c ∈ commits ↔ s.commits.get? c.assignmentId = some c ∧ c.panelId = panelId := by
  rcases hlist : (resolverHandler js (.listResolverCommits panelId) s).1 with e | commits
  · exact Or.inl ⟨e, rfl⟩
  · refine Or.inr ⟨commits, rfl, fun c => ?_⟩
    rw [mem_listed (fun _ _ => commitFromRow_eq_ok) hlist c]
    constructor
    · rintro ⟨⟨id, hc⟩, hpanel⟩
      rw [s.commits_ok _ _ hc]
      exact ⟨hc, hpanel⟩
    · rintro ⟨hc, hpanel⟩
      exact ⟨⟨_, hc⟩, hpanel⟩

/-- The reveals of a panel are read as they are stored. -/
theorem listResolverReveals_cases (js : Runtime) (panelId : String) (s : ResolverStore) :
    (∃ e, (resolverHandler js (.listResolverReveals panelId) s).1 = .error e) ∨
      ∃ reveals : List ResolverReveal,
        (resolverHandler js (.listResolverReveals panelId) s).1 = .ok reveals ∧
        ∀ r, r ∈ reveals ↔ s.reveals.get? r.assignmentId = some r ∧ r.panelId = panelId := by
  rcases hlist : (resolverHandler js (.listResolverReveals panelId) s).1 with e | reveals
  · exact Or.inl ⟨e, rfl⟩
  · refine Or.inr ⟨reveals, rfl, fun r => ?_⟩
    rw [mem_listed (fun _ _ => revealFromRow_eq_ok) hlist r]
    constructor
    · rintro ⟨⟨id, hr⟩, hpanel⟩
      rw [s.reveals_ok _ _ hr]
      exact ⟨hr, hpanel⟩
    · rintro ⟨hr, hpanel⟩
      exact ⟨⟨_, hr⟩, hpanel⟩

/-! ## What a run keeps -/

namespace ResolverStore

/-- What is known of a stored panel along a run, with the assignments that timeouts have
slashed so far. -/
structure Tracked (s : ResolverStore) (timedOut : List String) : Prop where
  committed : ∀ id c, s.commits.get? id = some c →
    ∃ a, s.assignments.get? id = some a ∧ a.panelId = c.panelId
  revealed : ∀ id r, s.reveals.get? id = some r → (s.commits.get? id).isSome ∧
    ∃ a, s.assignments.get? id = some a ∧ a.panelId = r.panelId
  paidOut : s.PaidOut
  excluded : ∀ id ∈ timedOut, s.reveals.get? id = none ∧
    ∃ a, s.assignments.get? id = some a ∧ a.status.Final

variable {s s' : ResolverStore} {timedOut : List String}

private theorem Advances.final (h : s.Advances s') {id : String}
    (hfinal : ∃ a, s.assignments.get? id = some a ∧ a.status.Final) :
    ∃ a, s'.assignments.get? id = some a ∧ a.status.Final := by
  obtain ⟨a, ha, hdone⟩ := hfinal
  obtain ⟨a', ha', hmoves⟩ := h.get? ha
  exact ⟨a', ha', hmoves.status.eq_of_final hdone ▸ hdone⟩

private theorem Advances.panelId (h : s.Advances s') {id panelId : String}
    (hpanel : ∃ a, s.assignments.get? id = some a ∧ a.panelId = panelId) :
    ∃ a, s'.assignments.get? id = some a ∧ a.panelId = panelId := by
  obtain ⟨a, ha, hpanel⟩ := hpanel
  obtain ⟨a', ha', hmoves⟩ := h.get? ha
  exact ⟨a', ha', hmoves.panelId.trans hpanel⟩

private theorem Paying.tracked {ids : List String} (hpaying : s.Paying s' ids)
    (hs : s.Tracked timedOut) :
    s'.Tracked timedOut where
  committed id c hc := by
    rw [hpaying.commits] at hc
    exact hpaying.advances.panelId (hs.committed id c hc)
  revealed id r hr := by
    rw [hpaying.reveals] at hr
    rw [hpaying.commits]
    obtain ⟨hcommit, hassigned⟩ := hs.revealed id r hr
    exact ⟨hcommit, hpaying.advances.panelId hassigned⟩
  paidOut := hpaying.paidOut
  excluded id hid := by
    rw [hpaying.reveals]
    obtain ⟨hnone, hfinal⟩ := hs.excluded id hid
    exact ⟨hnone, hpaying.advances.final hfinal⟩

/-- A status that is not final leaves nothing new to pay out. -/
theorem PaidOut.updateStatus {assignmentId : String} {status : AssignmentStatus} (hs : s.PaidOut)
    (hstatus : ¬status.Final) : (s.updateStatus assignmentId status).PaidOut := by
  intro id a ha hdone
  rw [payouts_updateStatus]
  rw [get?_updateStatus] at ha
  split_ifs at ha with hid
  · obtain ⟨a₀, -, rfl⟩ := Option.map_eq_some_iff.mp ha
    exact absurd hdone hstatus
  · exact hs id a ha hdone

/-- A commit stored on an assignment that is not past it. -/
theorem Tracked.commit {c : ResolverCommit} {a : ResolverAssignment} (hs : s.Tracked timedOut)
    (ha : s.assignments.get? c.assignmentId = some a) (hpanel : a.panelId = c.panelId)
    (hstatus : a.status = .assigned ∨ a.status = .committed) :
    s.Advances ((s.insertCommit c).updateStatus c.assignmentId .committed) ∧
      ((s.insertCommit c).updateStatus c.assignmentId .committed).Tracked timedOut := by
  have hadvances : s.Advances ((s.insertCommit c).updateStatus c.assignmentId .committed) := by
    refine (advances_of_eq (assignments_insertCommit s c)).trans (advances_updateStatus ?_)
    intro a' ha'
    rw [assignments_insertCommit] at ha'
    obtain rfl := Option.some.inj (ha'.symm.trans ha)
    rcases hstatus with hstatus | hstatus
    · exact Or.inr (by rw [hstatus]; decide)
    · exact Or.inl hstatus
  refine ⟨hadvances, ⟨?_, ?_, ?_, ?_⟩⟩
  · intro id c' hc'
    rw [commits_updateStatus, commits_insertCommit, Rows.get?_insertIfAbsent] at hc'
    apply hadvances.panelId
    split_ifs at hc' with hid
    · cases hrow : s.commits.get? c.assignmentId with
      | none =>
        rw [hrow] at hc'
        obtain rfl := Option.some.inj hc'
        exact ⟨a, by rw [hid, ha], hpanel⟩
      | some row =>
        rw [hrow] at hc'
        obtain rfl := Option.some.inj hc'
        exact hid ▸ hs.committed _ _ hrow
    · exact hs.committed id c' hc'
  · intro id r hr
    rw [reveals_updateStatus, reveals_insertCommit] at hr
    obtain ⟨hcommit, hassigned⟩ := hs.revealed id r hr
    refine ⟨?_, hadvances.panelId hassigned⟩
    rw [commits_updateStatus, commits_insertCommit, Rows.get?_insertIfAbsent]
    split_ifs
    · rfl
    · exact hcommit
  · apply PaidOut.updateStatus _ (by decide)
    intro id a' ha' hdone
    rw [assignments_insertCommit] at ha'
    rw [payouts_insertCommit]
    exact hs.paidOut id a' ha' hdone
  · intro id hid
    rw [reveals_updateStatus, reveals_insertCommit]
    obtain ⟨hnone, hfinal⟩ := hs.excluded id hid
    exact ⟨hnone, hadvances.final hfinal⟩

/-- A reveal stored on an assignment that is not finished. -/
theorem Tracked.reveal {r : ResolverReveal} {c : ResolverCommit} (hs : s.Tracked timedOut)
    (hc : s.commits.get? r.assignmentId = some c) (hpanel : r.panelId = c.panelId)
    (hstatus : ∀ a, s.assignments.get? r.assignmentId = some a → ¬a.status.Final) :
    s.Advances ((s.insertReveal r).updateStatus r.assignmentId .revealed) ∧
      ((s.insertReveal r).updateStatus r.assignmentId .revealed).Tracked timedOut := by
  have hadvances : s.Advances ((s.insertReveal r).updateStatus r.assignmentId .revealed) := by
    refine (advances_of_eq (assignments_insertReveal s r)).trans (advances_updateStatus ?_)
    intro a ha
    rw [assignments_insertReveal] at ha
    exact AssignmentStatus.forward_revealed (hstatus a ha)
  refine ⟨hadvances, ⟨?_, ?_, ?_, ?_⟩⟩
  · intro id c' hc'
    rw [commits_updateStatus, commits_insertReveal] at hc'
    exact hadvances.panelId (hs.committed id c' hc')
  · intro id r' hr'
    rw [reveals_updateStatus, reveals_insertReveal, Rows.get?_insertIfAbsent] at hr'
    rw [commits_updateStatus, commits_insertReveal]
    have hrow : (s.commits.get? id).isSome ∧
        ∃ a, s.assignments.get? id = some a ∧ a.panelId = r'.panelId := by
      split_ifs at hr' with hid
      · cases hrow : s.reveals.get? r.assignmentId with
        | none =>
          rw [hrow] at hr'
          obtain rfl := Option.some.inj hr'
          rw [hid, hc, Option.getD_none, hpanel]
          exact ⟨rfl, hs.committed _ _ hc⟩
        | some row =>
          rw [hrow] at hr'
          obtain rfl := Option.some.inj hr'
          exact hid ▸ hs.revealed _ _ hrow
      · exact hs.revealed id r' hr'
    exact ⟨hrow.1, hadvances.panelId hrow.2⟩
  · apply PaidOut.updateStatus _ (by decide)
    intro id a' ha' hdone
    rw [assignments_insertReveal] at ha'
    rw [payouts_insertReveal]
    exact hs.paidOut id a' ha' hdone
  · intro id hid
    obtain ⟨hnone, a, ha, hdone⟩ := hs.excluded id hid
    have hne : id ≠ r.assignmentId := by
      rintro rfl
      exact hstatus a ha hdone
    rw [reveals_updateStatus, reveals_insertReveal, Rows.get?_insertIfAbsent, if_neg hne]
    exact ⟨hnone, hadvances.final ⟨a, ha, hdone⟩⟩

end ResolverStore

/-! ## Requests -/

/-- A commit that gets stored meets an assignment that is assigned or committed, a reveal
that gets stored one that is not finished. -/
def PanelRequest.Sound (js : Runtime) (digest : String → String) (s : ResolverStore) :
    PanelRequest → Prop
  | .commit assignmentId _ salt _ => ∀ a,
      readRow (assignmentFromRow js) (s.assignments.get? assignmentId) = .ok (some a) →
        salt ≠ "" → a.status = .assigned ∨ a.status = .committed
  | .reveal assignmentId outcome salt now => ∀ c,
      readRow commitFromRow (s.commits.get? assignmentId) = .ok (some c) →
        (∃ reveal, revealDotCastResolverCommit digest c outcome salt now = .ok reveal) →
          ∀ a, s.assignments.get? assignmentId = some a → ¬a.status.Final
  | .timeout _ _ _ => True
  | .settle _ _ _ => True

/-- The assignments slashed in one store and not in the store before. -/
def newlySlashed (s s' : ResolverStore) : List String :=
  (s'.assignments.rows.filter fun a => a.status = .slashed ∧
    (s.assignments.get? a.assignmentId).map (·.status) ≠ some .slashed).map (·.assignmentId)

/-- The assignments a request slashed by a timeout. -/
def PanelRequest.timedOut (s s' : ResolverStore) : PanelRequest → List String
  | .timeout _ _ _ => newlySlashed s s'
  | _ => []

section Steps

variable {digest : String → String} {timedOut : List String}

private theorem createDotCastResolverCommit_eq_ok {a : ResolverAssignment} {outcome : PoolOutcome}
    {salt now : String} {c : ResolverCommit}
    (h : createDotCastResolverCommit digest a outcome salt now = .ok c) :
    salt ≠ "" ∧ c.assignmentId = a.assignmentId ∧ c.panelId = a.panelId := by
  unfold createDotCastResolverCommit resolverCommitHash at h
  obtain ⟨_, hhash, h⟩ := Except.bind_eq_ok.mp h
  obtain ⟨_, hsalt, -⟩ := Except.bind_eq_ok.mp hhash
  obtain rfl := Except.ok.inj h
  exact ⟨Except.throwIf_eq_ok.mp hsalt, rfl, rfl⟩

private theorem revealDotCastResolverCommit_eq_ok {c : ResolverCommit} {outcome : PoolOutcome}
    {salt now : String} {r : ResolverReveal}
    (h : revealDotCastResolverCommit digest c outcome salt now = .ok r) :
    r.assignmentId = c.assignmentId ∧ r.panelId = c.panelId := by
  unfold revealDotCastResolverCommit at h
  obtain ⟨_, -, h⟩ := Except.bind_eq_ok.mp h
  obtain ⟨_, -, h⟩ := Except.bind_eq_ok.mp h
  obtain rfl := Except.ok.inj h
  exact ⟨rfl, rfl⟩

private theorem commit_step {assignmentId : String} {outcome : PoolOutcome} {salt now : String}
    (hs : s.Tracked timedOut)
    (hsound : (PanelRequest.commit assignmentId outcome salt now).Sound js digest s) :
    s.Advances (run (resolverHandler js)
        (commitDotCastResolverRoute digest assignmentId outcome salt now) s).2 ∧
      (run (resolverHandler js)
        (commitDotCastResolverRoute digest assignmentId outcome salt now) s).2.Tracked
          timedOut := by
  unfold commitDotCastResolverRoute requireResolverAssignment
  rw [Program.bind_assoc, run_getResolverAssignment_bind]
  rcases hread : readRow (assignmentFromRow js) (s.assignments.get? assignmentId) with e | _ | a
  · exact ⟨advances_of_eq rfl, hs⟩
  · exact ⟨advances_of_eq rfl, hs⟩
  · obtain ⟨row, hrow, hfrom⟩ := readRow_eq_ok_some.mp hread
    obtain ⟨-, rfl⟩ := assignmentFromRow_eq_ok.mp hfrom
    simp only [Program.pure_eq, Program.ok_bind]
    rcases hcreate : createDotCastResolverCommit digest a outcome salt now with e | c
    · exact ⟨advances_of_eq rfl, hs⟩
    · obtain ⟨hsalt, hid, hpanel⟩ := createDotCastResolverCommit_eq_ok hcreate
      rw [← (s.assignments_ok _ _ hrow).1, ← hid] at hrow
      exact hs.commit hrow hpanel.symm (hsound a hread hsalt)

private theorem reveal_step {assignmentId : String} {outcome : PoolOutcome} {salt now : String}
    (hs : s.Tracked timedOut)
    (hsound : (PanelRequest.reveal assignmentId outcome salt now).Sound js digest s) :
    s.Advances (run (resolverHandler js)
        (revealDotCastResolverRoute digest assignmentId outcome salt now) s).2 ∧
      (run (resolverHandler js)
        (revealDotCastResolverRoute digest assignmentId outcome salt now) s).2.Tracked
          timedOut := by
  unfold revealDotCastResolverRoute requireResolverCommit
  rw [Program.bind_assoc, run_getResolverCommit_bind]
  rcases hread : readRow commitFromRow (s.commits.get? assignmentId) with e | _ | c
  · rw [show (resolverHandler js (.getResolverCommit assignmentId) s).1 = .error e from hread]
    exact ⟨advances_of_eq rfl, hs⟩
  · rw [show (resolverHandler js (.getResolverCommit assignmentId) s).1 = .ok none from hread]
    exact ⟨advances_of_eq rfl, hs⟩
  · rw [show (resolverHandler js (.getResolverCommit assignmentId) s).1 = .ok (some c) from hread]
    obtain ⟨row, hrow, hfrom⟩ := readRow_eq_ok_some.mp hread
    obtain rfl := commitFromRow_eq_ok hfrom
    simp only [Program.pure_eq, Program.ok_bind]
    rcases hreveal : revealDotCastResolverCommit digest c outcome salt now with e | r
    · exact ⟨advances_of_eq rfl, hs⟩
    · obtain ⟨hid, hpanel⟩ := revealDotCastResolverCommit_eq_ok hreveal
      have hstatus := hsound c hread ⟨r, hreveal⟩
      have hkey := hid.trans (s.commits_ok _ _ hrow)
      rw [← hkey] at hrow hstatus
      exact hs.reveal hrow hpanel hstatus

/-- A payout that returns the bond or slashes it can be made for its assignment. -/
theorem payable_settledPayout {a : ResolverAssignment} {matched : Bool} {feePaid : ℤ}
    {now : String} (ha : s.assignments.get? a.assignmentId = some a) (hfee : 0 ≤ feePaid) :
    s.Payable (settledPayout a matched feePaid now) := by
  have hbond := (s.assignments_ok _ _ ha).2.2
  refine ⟨?_, a, ha, rfl⟩
  unfold ResolverPayout.Valid settledPayout
  cases matched with
  | true => exact ⟨hbond, hfee, le_rfl⟩
  | false => exact ⟨le_rfl, le_rfl, hbond⟩

private theorem floorQuotient_nonneg {n d : ℤ} (hn : 0 ≤ n) (hd : 0 ≤ d) :
    0 ≤ floorQuotient js n d :=
  Int.floor_nonneg.mpr (js.arithmetic.fraction_nonneg (by positivity))

/-- What a timeout slashes has revealed nothing. -/
theorem reveals_eq_none_of_missed {phase : TimeoutPhase} {commits : List ResolverCommit}
    {reveals : List ResolverReveal} {a : ResolverAssignment} (hs : s.Tracked timedOut)
    (hcommits : ∀ c, c ∈ commits ↔
      s.commits.get? c.assignmentId = some c ∧ c.panelId = a.panelId)
    (hreveals : ∀ r, r ∈ reveals ↔
      s.reveals.get? r.assignmentId = some r ∧ r.panelId = a.panelId)
    (ha : s.assignments.get? a.assignmentId = some a)
    (hmissed : phase.Missed commits reveals a.assignmentId) :
    s.reveals.get? a.assignmentId = none := by
  rw [Option.eq_none_iff_forall_ne_some]
  intro r hr
  obtain ⟨hcommit, a₁, ha₁, hpanel⟩ := hs.revealed _ _ hr
  obtain rfl := Option.some.inj (ha₁.symm.trans ha)
  have hid := s.reveals_ok _ _ hr
  cases phase with
  | commit =>
    obtain ⟨c, hc⟩ := Option.isSome_iff_exists.mp hcommit
    obtain ⟨a₂, ha₂, hpanel₂⟩ := hs.committed _ _ hc
    obtain rfl := Option.some.inj (ha₂.symm.trans ha)
    have hcid := s.commits_ok _ _ hc
    exact hmissed c ((hcommits c).mpr ⟨hcid ▸ hc, hpanel₂.symm⟩) hcid
  | reveal => exact hmissed r ((hreveals r).mpr ⟨hid ▸ hr, hpanel.symm⟩) hid

private theorem mem_newlySlashed {id : String} (h : id ∈ newlySlashed s s') :
    (∃ a, s'.assignments.get? id = some a ∧ a.status.Final) ∧
      s'.assignments.get? id ≠ s.assignments.get? id := by
  obtain ⟨a, ha, rfl⟩ := List.mem_map.mp h
  obtain ⟨hrow, hslashed⟩ := List.mem_filter.mp ha
  obtain ⟨hnow, hbefore⟩ := of_decide_eq_true hslashed
  obtain ⟨id, hid⟩ := Rows.mem_rows_iff.mp hrow
  have hkey := (s'.assignments_ok _ _ hid).1
  rw [← hkey] at hid
  refine ⟨⟨a, hid, Or.inr hnow⟩, fun hsame => hbefore ?_⟩
  rw [← hsame, hid, Option.map_some, hnow]

private theorem timeout_step {panelId : String} {phase : TimeoutPhase} {now : String}
    (hs : s.Tracked timedOut) :
    let s' := (run (resolverHandler js)
      (applyDotCastResolverPanelTimeoutRoute js panelId phase now) s).2
    s.Advances s' ∧ s'.Tracked (timedOut ++ newlySlashed s s') := by
  have hnothing : newlySlashed s s = [] :=
    List.eq_nil_iff_forall_not_mem.mpr fun id hid => (mem_newlySlashed hid).2 rfl
  have hsame : s.Advances s ∧ s.Tracked (timedOut ++ newlySlashed s s) := by
    rw [hnothing, List.append_nil]
    exact ⟨advances_of_eq rfl, hs⟩
  unfold applyDotCastResolverPanelTimeoutRoute
  rw [Program.run_bind]
  rcases requireResolverPanel_cases js panelId s with ⟨e, hrun⟩ | ⟨panel, hrun, rfl, -, hpanel⟩
  · rw [hrun]
    exact hsame
  rw [hrun]
  simp only [run_listResolverCommits_bind]
  rcases listResolverCommits_cases js panel.panelId s with ⟨e, hlist⟩ | ⟨commits, hlist, hcommits⟩
  · rw [hlist]
    exact hsame
  rw [hlist]
  simp only [run_listResolverReveals_bind]
  rcases listResolverReveals_cases js panel.panelId s with ⟨e, hlist'⟩ | ⟨reveals, hlist', hreveals⟩
  · rw [hlist']
    exact hsame
  rw [hlist']
  have hmissed : ∀ a ∈ timedOutAssignments phase commits reveals panel.assignments,
      s.assignments.get? a.assignmentId = some a ∧
        s.reveals.get? a.assignmentId = none := by
    intro a ha
    obtain ⟨hmem, hlate⟩ := List.mem_filter.mp ha
    obtain ⟨-, hmissed⟩ := of_decide_eq_true hlate
    obtain ⟨hrow, hof⟩ := (hpanel a).mp hmem
    rw [← hof] at hcommits hreveals
    exact ⟨hrow, reveals_eq_none_of_missed hs hcommits hreveals hrow hmissed⟩
  have hpaying := insertResolverPayouts_paying js
    (evaluateDotCastResolverPanelTimeout panel phase commits reveals now) hs.paidOut fun p hp => by
      obtain ⟨a, ha, rfl⟩ := List.mem_map.mp hp
      exact payable_settledPayout (hmissed a ha).1 le_rfl
  have htracked := hpaying.tracked hs
  refine ⟨hpaying.advances, { htracked with excluded := fun id hid => ?_ }⟩
  rcases List.mem_append.mp hid with hid | hid
  · exact htracked.excluded id hid
  · obtain ⟨hfinal, hchanged⟩ := mem_newlySlashed hid
    refine ⟨?_, hfinal⟩
    rw [hpaying.reveals]
    by_contra hrevealed
    apply hchanged
    apply hpaying.others
    intro hmem
    obtain ⟨p, hp, hpid⟩ := List.mem_map.mp hmem
    obtain ⟨a, ha, rfl⟩ := List.mem_map.mp hp
    rw [← hpid] at hrevealed
    exact hrevealed (hmissed a ha).2

private theorem settle_step {panelId : String} {preflight : Except Fault Unit} {now : String}
    (hs : s.Tracked timedOut) :
    let s' := (run (resolverHandler js)
      (settleDotCastResolverPanelRoute js panelId preflight now) s).2
    s.Advances s' ∧ s'.Tracked timedOut := by
  unfold settleDotCastResolverPanelRoute
  rw [Program.run_bind]
  rcases requireResolverPanel_cases js panelId s with ⟨e, hrun⟩ | ⟨panel, hrun, rfl, hvalid, hpanel⟩
  · rw [hrun]
    exact ⟨advances_of_eq rfl, hs⟩
  rw [hrun]
  simp only [run_listResolverReveals_bind]
  rcases listResolverReveals_cases js panel.panelId s with ⟨e, hlist⟩ | ⟨reveals, hlist, -⟩
  · rw [hlist]
    exact ⟨advances_of_eq rfl, hs⟩
  rw [hlist]
  simp only
  rcases hsettle : settleDotCastResolverPanel js panel reveals now with e | settlement
  · exact ⟨advances_of_eq rfl, hs⟩
  cases preflight with
  | error e => exact ⟨advances_of_eq rfl, hs⟩
  | ok u =>
    have hpaying := insertResolverPayouts_paying js settlement.payouts hs.paidOut fun p hp => by
        unfold settleDotCastResolverPanel at hsettle
        obtain ⟨_, -, hsettle⟩ := Except.bind_eq_ok.mp hsettle
        obtain rfl := Except.ok.inj hsettle
        obtain ⟨a, ha, rfl⟩ := List.mem_map.mp hp
        apply payable_settledPayout ((hpanel a).mp ha).1
        split_ifs
        · exact floorQuotient_nonneg (floorQuotient_nonneg (js.arithmetic.integer_nonneg
            (mul_nonneg hvalid.2.1 hvalid.2.2.1)) (by decide)) (by positivity)
        · exact le_rfl
    exact ⟨hpaying.advances, hpaying.tracked hs⟩

end Steps

/-! ## Runs -/

/-- Every assignment is as the panel planned it; nothing is committed or revealed yet. -/
structure ResolverStore.Fresh (s : ResolverStore) : Prop where
  assigned : ∀ id a, s.assignments.get? id = some a → a.status = .assigned
  commits : ∀ id, s.commits.get? id = none
  reveals : ∀ id, s.reveals.get? id = none

/-- The store a request leaves. -/
def PanelRequest.after (js : Runtime) (digest : String → String) (s : ResolverStore)
    (request : PanelRequest) : ResolverStore :=
  (run (resolverHandler js) (request.program js digest) s).2

/-- Requests one after the other, each sound on the store before it, with the assignments
that timeouts have slashed so far. -/
inductive PanelRun (js : Runtime) (digest : String → String) : ResolverStore → List String → Prop
  | start (s : ResolverStore) (h : s.Fresh) : PanelRun js digest s []
  | step {s : ResolverStore} {timedOut : List String} (request : PanelRequest)
      (h : PanelRun js digest s timedOut) (hsound : request.Sound js digest s) :
      PanelRun js digest (request.after js digest s)
        (timedOut ++ request.timedOut s (request.after js digest s))

section Runs

variable {digest : String → String} {timedOut : List String}

private theorem ResolverStore.Fresh.tracked (h : s.Fresh) : s.Tracked [] where
  committed id c hc := by
    rw [h.commits] at hc
    contradiction
  revealed id r hr := by
    rw [h.reveals] at hr
    contradiction
  paidOut id a ha hdone := by
    rw [h.assigned id a ha] at hdone
    exact absurd hdone (by decide)
  excluded id hid := absurd hid List.not_mem_nil

/-- A sound request advances the store and keeps track of what timeouts slashed. -/
theorem PanelRequest.Sound.step {request : PanelRequest} (hs : s.Tracked timedOut)
    (hsound : request.Sound js digest s) :
    s.Advances (request.after js digest s) ∧
      (request.after js digest s).Tracked
        (timedOut ++ request.timedOut s (request.after js digest s)) := by
  cases request with
  | commit assignmentId outcome salt now =>
    show _ ∧ ResolverStore.Tracked _ (timedOut ++ [])
    rw [List.append_nil]
    exact commit_step hs hsound
  | reveal assignmentId outcome salt now =>
    show _ ∧ ResolverStore.Tracked _ (timedOut ++ [])
    rw [List.append_nil]
    exact reveal_step hs hsound
  | timeout panelId phase now => exact timeout_step hs
  | settle panelId preflight now =>
    show _ ∧ ResolverStore.Tracked _ (timedOut ++ [])
    rw [List.append_nil]
    exact settle_step hs

private theorem PanelRun.tracked (h : PanelRun js digest s timedOut) : s.Tracked timedOut := by
  induction h with
  | start s h => exact h.tracked
  | step request h hsound ih => exact (hsound.step ih).2

end Runs

/-- Whatever panel is settled, the slashed assignments add nothing to a weight and are not
among the correct ones. -/
def ResolverStore.Uncounted (js : Runtime) (s : ResolverStore) (slashed : List String) : Prop :=
  ∀ panelId panel reveals,
    (run (resolverHandler js) (requireResolverPanel panelId) s).1 = .ok panel →
      (run (resolverHandler js) (Resolving.listResolverReveals panelId) s).1 = .ok reveals →
        revealWeights js reveals panel.assignments =
            revealWeights js reveals (panel.assignments.filter (·.assignmentId ∉ slashed)) ∧
          ∀ outcome, ∀ a ∈ correctAssignments reveals outcome panel.assignments,
            a.assignmentId ∉ slashed

theorem revealOf_eq_some {reveals : List ResolverReveal} {assignmentId : String}
    {r : ResolverReveal} (h : revealOf reveals assignmentId = some r) :
    r ∈ reveals ∧ r.assignmentId = assignmentId := by
  have hid := List.find?_some h
  exact ⟨List.mem_reverse.mp (List.mem_of_find?_eq_some h), of_decide_eq_true hid⟩

/-- An assignment without a reveal adds nothing to a weight. -/
theorem revealWeights_filter {reveals : List ResolverReveal} {ids : List String}
    (h : ∀ id ∈ ids, revealOf reveals id = none) (assignments : List ResolverAssignment) :
    revealWeights js reveals (assignments.filter (·.assignmentId ∉ ids)) =
      revealWeights js reveals assignments := by
  unfold revealWeights
  rw [List.foldl_filter]
  congr 1
  ext weights a
  by_cases hid : a.assignmentId ∈ ids
  · rw [if_neg (by simpa using hid), h _ hid]
  · rw [if_pos (by simpa using hid)]

private theorem ResolverStore.Tracked.uncounted {timedOut : List String} (hs : s.Tracked timedOut) :
    s.Uncounted js timedOut := by
  intro panelId panel reveals _ hlist
  have hnone : ∀ id ∈ timedOut, revealOf reveals id = none := by
    intro id hid
    rw [Option.eq_none_iff_forall_ne_some]
    intro r hr
    obtain ⟨hmem, rfl⟩ := revealOf_eq_some hr
    rcases listResolverReveals_cases js panelId s with ⟨e, hread⟩ | ⟨listed, hread, hstored⟩
    · have herror := hread.symm.trans hlist
      contradiction
    · obtain rfl := Except.ok.inj (hread.symm.trans hlist)
      have hnone := (hs.excluded _ hid).1
      rw [((hstored r).mp hmem).1] at hnone
      contradiction
  refine ⟨(revealWeights_filter hnone _).symm, fun outcome a ha hid => ?_⟩
  obtain ⟨-, hcorrect⟩ := List.mem_filter.mp ha
  rw [hnone _ hid] at hcorrect
  simp at hcorrect

/-- In every sound run, statuses only move forward, the final ones stay, and no assignment
that a timeout slashed is counted. -/
theorem sound_panel_run_advances {digest : String → String} {timedOut : List String}
    (h : PanelRun js digest s timedOut) :
    s.Uncounted js timedOut ∧
      ∀ request : PanelRequest, request.Sound js digest s →
        ∀ id a, s.assignments.get? id = some a →
          ∃ a', (request.after js digest s).assignments.get? id = some a' ∧
            a.status.Forward a'.status ∧ (a.status.Final → a'.status = a.status) := by
  refine ⟨h.tracked.uncounted, fun request hsound id a ha => ?_⟩
  obtain ⟨hadvances, -⟩ := hsound.step h.tracked
  obtain ⟨a', ha', hmoves⟩ := hadvances.get? ha
  exact ⟨a', ha', hmoves.status, hmoves.status.eq_of_final⟩

/-! ### A timeout, and a late reveal -/

/-- The digests of the two answers below. -/
private def panelDigest (text : String) : String :=
  if text = "no:salt-a" then "69136c59ec0e757a0d9001f7677fa3d68f225bd2a6cd13f344b265792be456cf"
  else if text = "yes:salt-b" then
    "3ff1731acc567a2d7d59111d1cc33cefa66c2cce33e2744861f6efd6cce30bc1"
  else ""

private def seat (id resolverId : String) (reputationBps : ℤ) : ResolverAssignment where
  assignmentId := id
  panelId := "panel-1"
  poolId := "pool-1"
  routeId := "route-1"
  resolverId := resolverId
  identityHash := "hash-" ++ resolverId
  reputationBps := reputationBps
  bondMinorUnits := 100
  status := .assigned
  assignedAt := "2026-07-01T13:00:00.000Z"

private def twoSeats : ResolverPanel where
  panelId := "panel-1"
  poolId := "pool-1"
  routeId := "route-1"
  tier := .humanJury
  panelSize := 2
  estimatedStakeMinorUnits := 10000
  resolverFeeBps := 100
  createdAt := "2026-07-01T13:00:00.000Z"
  assignments := [seat "seat-a" "ada" 9000, seat "seat-b" "bob" 100]

private abbrev jsPanel : Runtime := JavaScript.reference .double

/-- The store with the panel planned. -/
private def planned : ResolverStore :=
  (run (resolverHandler jsPanel) (insertResolverPanel jsPanel twoSeats) .empty).2

private def adaCommits : PanelRequest :=
  .commit "seat-a" (.side .no) "salt-a" "2026-07-01T13:10:00.000Z"

private def revealTimeout : PanelRequest :=
  .timeout "panel-1" .reveal "2026-07-01T15:00:00.000Z"

private theorem planned_fresh : planned.Fresh where
  assigned id a ha := by
    have hall : ∀ a ∈ planned.assignments.rows, a.status = .assigned := by decide +kernel
    exact hall a (Rows.mem_rows_iff.mpr ⟨id, ha⟩)
  commits id := by
    rw [show planned.commits = Rows.empty from Rows.ext (by decide +kernel), Rows.get?_empty]
  reveals id := by
    rw [show planned.reveals = Rows.empty from Rows.ext (by decide +kernel), Rows.get?_empty]

/-- A commit, a timeout of the reveals and a settlement: what is slashed stays slashed. -/
theorem sound_panel_run_advances_timeout :
    let committed := adaCommits.after jsPanel panelDigest planned
    let slashed := revealTimeout.after jsPanel panelDigest committed
    slashed.Uncounted jsPanel ["seat-a", "seat-b"] ∧
      ∃ a, ((PanelRequest.settle "panel-1" (.ok ()) "2026-07-01T17:00:00.000Z").after jsPanel
        panelDigest slashed).assignments.get? "seat-a" = some a ∧ a.status = .slashed := by
  have hread : readRow (assignmentFromRow jsPanel) (planned.assignments.get? "seat-a") =
      .ok (some (seat "seat-a" "ada" 9000)) := by decide +kernel
  have hsound : adaCommits.Sound jsPanel panelDigest planned := by
    intro a ha _
    obtain rfl := Option.some.inj (Except.ok.inj (hread.symm.trans ha))
    exact Or.inl rfl
  have hrun := PanelRun.step revealTimeout (.step adaCommits (.start planned planned_fresh) hsound)
    trivial
  have hids : [] ++ adaCommits.timedOut planned (adaCommits.after jsPanel panelDigest planned) ++
      revealTimeout.timedOut (adaCommits.after jsPanel panelDigest planned)
        (revealTimeout.after jsPanel panelDigest (adaCommits.after jsPanel panelDigest planned)) =
      ["seat-a", "seat-b"] := by decide +kernel
  rw [hids] at hrun
  obtain ⟨huncounted, hadvances⟩ := sound_panel_run_advances hrun
  obtain ⟨a, ha, -, hkept⟩ := hadvances
    (.settle "panel-1" (.ok ()) "2026-07-01T17:00:00.000Z") trivial "seat-a"
    { seat "seat-a" "ada" 9000 with status := .slashed } (by decide +kernel)
  exact ⟨huncounted, a, ha, hkept (Or.inr rfl)⟩

/-- Both commit, one reveals, and the reveal phase times out. -/
private def timedOutPanel : ResolverStore :=
  [adaCommits,
    .commit "seat-b" (.side .yes) "salt-b" "2026-07-01T13:11:00.000Z",
    .reveal "seat-b" (.side .yes) "salt-b" "2026-07-01T14:00:00.000Z",
    revealTimeout].foldl
      (PanelRequest.after jsPanel panelDigest) planned

private def lateReveal : PanelRequest :=
  .reveal "seat-a" (.side .no) "salt-a" "2026-07-01T16:00:00.000Z"

/-- The panel and the reveals as they are read after the late reveal. -/
private def revealedPanel : ResolverPanel :=
  { twoSeats with
    assignments := [{ seat "seat-a" "ada" 9000 with status := .revealed },
      { seat "seat-b" "bob" 100 with status := .revealed }] }

private def bobReveal : ResolverReveal where
  assignmentId := "seat-b"
  panelId := "panel-1"
  resolverId := "bob"
  outcome := .side .yes
  salt := "salt-b"
  revealedAt := "2026-07-01T14:00:00.000Z"

private def adaReveal : ResolverReveal where
  assignmentId := "seat-a"
  panelId := "panel-1"
  resolverId := "ada"
  outcome := .side .no
  salt := "salt-a"
  revealedAt := "2026-07-01T16:00:00.000Z"

/-- A resolver slashed by a timeout reveals late: the status leaves slashed, and the reveal
decides the settlement. -/
theorem late_reveal_counts_slashed :
    planned.Fresh ∧
      (timedOutPanel.assignments.get? "seat-a").map (·.status) = some .slashed ∧
      ((lateReveal.after jsPanel panelDigest timedOutPanel).assignments.get? "seat-a").map
        (·.status) = some .revealed ∧
      ¬(lateReveal.after jsPanel panelDigest timedOutPanel).Uncounted jsPanel ["seat-a"] := by
  refine ⟨planned_fresh, by decide +kernel, by decide +kernel, fun h => ?_⟩
  obtain ⟨-, hcorrect⟩ := h "panel-1" revealedPanel [bobReveal, adaReveal] (by decide +kernel)
    (by decide +kernel)
  exact hcorrect (.side .no) { seat "seat-a" "ada" 9000 with status := .revealed }
    (by decide +kernel) (by decide)

end Yevow.DotCast
