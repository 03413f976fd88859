import Yevow.Models.DotCast.Resolution.BondSafety
import Yevow.Models.DotCast.Resolution.PanelStatus
import Yevow.Models.DotCast.Resolution.Retry

/-!
# Paying out again after a fault

The row of a payout is written before anything else is done for it, and a payout with a row is
skipped. So a call that throws before the row is there is made up for by calling again, and
everything that was still to be done after the row is lost for good.
-/

namespace Yevow.DotCast

open JavaScript (Runtime)
open Program (run Struck)

namespace ResolverOp

/-- The calls for a payout up to its row. -/
def OpensPayout : ResolverOp → Prop
  | resolverPayoutExists _ _ => True
  | insertPayoutRow _ => True
  | _ => False

private theorem Accounts.not_opensPayout {op : ResolverOp} (h : op.Accounts) : ¬op.OpensPayout := by
  cases op <;> simp_all [OpensPayout, Accounts, ReadsAssignment, MovesBond, Rates]

end ResolverOp

/-- The key of the reputation event of an assignment. -/
def reputationKey (assignmentId : String) : String := "dotcast:e13:reputation:" ++ assignmentId

variable {js : Runtime} {s s' t : ResolverStore} {fault : Fault} {op : ResolverOp}
  {p q : ResolverPayout}

/-! ## Rows of payouts -/

/-- No call takes the row of a payout away. -/
theorem isSome_payouts_call (js : Runtime) {key : String × String} (op : ResolverOp)
    (s : ResolverStore) (h : (s.payouts.get? key).isSome) :
    ((resolverHandler js op s).2.payouts.get? key).isSome := by
  by_cases hop : op.WritesPanels
  · cases op with
    | insertPayoutRow p => exact ResolverStore.isSome_insertPayout (Or.inl h)
    | updateResolverAssignmentStatus id status =>
      show ((s.updateStatus id status).payouts.get? key).isSome
      rwa [ResolverStore.payouts_updateStatus]
    | insertCommitRow c =>
      show ((s.insertCommit c).payouts.get? key).isSome
      rwa [ResolverStore.payouts_insertCommit]
    | insertRevealRow r =>
      show ((s.insertReveal r).payouts.get? key).isSome
      rwa [ResolverStore.payouts_insertReveal]
    | insertAssignment a =>
      show ((s.insertAssignment a).payouts.get? key).isSome
      unfold ResolverStore.insertAssignment
      split_ifs
      · exact h
      · exact h
    | insertPanelRow p =>
      show ((s.insertPanel p).payouts.get? key).isSome
      unfold ResolverStore.insertPanel
      split_ifs
      · exact h
      · exact h
    | _ => exact absurd hop id
  · rw [(samePanels_call js op s hop).payouts]
    exact h

private theorem isSome_payouts_run (js : Runtime) {α : Type} (program : Resolving α)
    {key : String × String} (h : (s.payouts.get? key).isSome) :
    ((run (resolverHandler js) program s).2.payouts.get? key).isSome :=
  (Program.avoids_false program).run_preserves
    (P := fun s => (s.payouts.get? key).isSome) (fun op s _ => isSome_payouts_call js op s) h

/-- What is left of the round of a payout once its row is there. -/
def finishPayout (js : Runtime) (p : ResolverPayout) : Resolving Unit := do
  Resolving.updateResolverAssignmentStatus p.assignmentId
    (if p.matchedConsensus then .paid else .slashed)
  applyResolverPayoutAccounting js p

private theorem insertResolverPayout_eq (js : Runtime) (p : ResolverPayout) :
    insertResolverPayout js p = Resolving.resolverPayoutExists p.assignmentId p.panelId >>=
      fun paid => if paid then pure () else Resolving.insertPayoutRow p >>= fun _ =>
        finishPayout js p := by
  rfl

/-- A payout with a row is skipped. -/
theorem run_insertResolverPayout_of_row
    (h : (s.payouts.get? (p.assignmentId, p.panelId)).isSome) :
    run (resolverHandler js) (insertResolverPayout js p) s = (.ok (), s) := by
  rw [insertResolverPayout_eq, run_resolverPayoutExists_bind, if_pos h]
  rfl

private theorem run_insertResolverPayout_of_none
    (h : s.payouts.get? (p.assignmentId, p.panelId) = none) :
    run (resolverHandler js) (insertResolverPayout js p) s =
      run (resolverHandler js) (finishPayout js p) (s.insertPayout p) := by
  rw [insertResolverPayout_eq, run_resolverPayoutExists_bind, if_neg (by simp [h]),
    run_insertPayoutRow_bind]

/-- After its round a payout that passes the checks has its row. -/
theorem isSome_payouts_of_round (js : Runtime) (hvalid : p.Valid) (s : ResolverStore) :
    ((run (resolverHandler js) (insertResolverPayout js p) s).2.payouts.get?
      (p.assignmentId, p.panelId)).isSome := by
  cases hrow : s.payouts.get? (p.assignmentId, p.panelId) with
  | some row =>
    rw [run_insertResolverPayout_of_row (by simp [hrow]), hrow]
    rfl
  | none =>
    rw [run_insertResolverPayout_of_none hrow]
    exact isSome_payouts_run js _ (ResolverStore.isSome_insertPayout (Or.inr ⟨rfl, hvalid⟩))

/-! ## Reputation events -/

/-- Only an insertion of an event changes the events. -/
theorem reputationEvents_call (js : Runtime) {op : ResolverOp}
    (hop : ∀ e, op ≠ .insertResolverReputationEvent e) (s : ResolverStore) :
    (resolverHandler js op s).2.reputationEvents = s.reputationEvents := by
  cases op with
  | insertResolverReputationEvent e => exact absurd rfl (hop e)
  | writeProfile p =>
    show (s.writeProfile p).2.reputationEvents = s.reputationEvents
    unfold ResolverStore.writeProfile
    split_ifs <;> rfl
  | updateProfileBond id bond at_ =>
    show (s.updateProfile id _).2.reputationEvents = s.reputationEvents
    rcases updateProfile_cases s id (·.withBond bond at_) with h | ⟨_, _, _, h⟩ <;>
      rw [h]
    rfl
  | updateProfileReputation id bps at_ =>
    show (s.updateProfile id _).2.reputationEvents = s.reputationEvents
    rcases updateProfile_cases s id (·.withReputation bps at_) with
      h | ⟨_, _, _, h⟩ <;> rw [h]
    rfl
  | insertResolverBondLedgerEntry e =>
    show (s.insertBondLedgerEntry e).reputationEvents = s.reputationEvents
    unfold ResolverStore.insertBondLedgerEntry
    split_ifs <;> rfl
  | insertPanelRow p =>
    show (s.insertPanel p).reputationEvents = s.reputationEvents
    unfold ResolverStore.insertPanel
    split_ifs <;> rfl
  | insertAssignment a =>
    show (s.insertAssignment a).reputationEvents = s.reputationEvents
    unfold ResolverStore.insertAssignment
    split_ifs <;> rfl
  | updateResolverAssignmentStatus id status =>
    show (s.updateStatus id status).reputationEvents = s.reputationEvents
    unfold ResolverStore.updateStatus
    split <;> rfl
  | insertCommitRow c =>
    show (s.insertCommit c).reputationEvents = s.reputationEvents
    unfold ResolverStore.insertCommit
    split_ifs <;> rfl
  | insertRevealRow r =>
    show (s.insertReveal r).reputationEvents = s.reputationEvents
    unfold ResolverStore.insertReveal
    split_ifs <;> rfl
  | insertPayoutRow p =>
    show (s.insertPayout p).reputationEvents = s.reputationEvents
    unfold ResolverStore.insertPayout
    split_ifs <;> rfl
  | getResolverProfile _ | bondLedgerEntryExists _ | reputationEventExists _ | getPanelRow _
  | getResolverAssignment _ | listAssignments _ | getResolverCommit _ | listResolverCommits _
  | listResolverReveals _ | resolverPayoutExists _ _ => rfl

private theorem reputationEvents_movesBond (js : Runtime) {op : ResolverOp} (hop : ¬¬op.MovesBond)
    (s : ResolverStore) : (resolverHandler js op s).2.reputationEvents = s.reputationEvents :=
  reputationEvents_call js (fun e he => hop fun h => by rw [he] at h; exact h) s

private theorem get?_insertReputationEvent (s : ResolverStore) (e : ResolverReputationEvent)
    {key : String} (hkey : key ≠ e.eventId) :
    (s.insertReputationEvent e).reputationEvents.get? key = s.reputationEvents.get? key := by
  unfold ResolverStore.insertReputationEvent
  split_ifs
  · exact (Rows.get?_set _ _ _ _).trans (if_neg hkey)
  · rfl

private theorem isSome_insertReputationEvent (s : ResolverStore) {e : ResolverReputationEvent}
    (he : e.Valid) : ((s.insertReputationEvent e).reputationEvents.get? e.eventId).isSome := by
  unfold ResolverStore.insertReputationEvent
  split_ifs with h
  · show ((s.reputationEvents.set e.eventId e).get? e.eventId).isSome
    rw [Rows.get?_set_self]
    rfl
  · exact Option.isSome_iff_ne_none.mpr fun hnone => h ⟨hnone, he⟩

/-- No call takes an event away. -/
theorem isSome_reputationEvents_call (js : Runtime) {key : String} (op : ResolverOp)
    (s : ResolverStore) (h : (s.reputationEvents.get? key).isSome) :
    ((resolverHandler js op s).2.reputationEvents.get? key).isSome := by
  by_cases hop : ∃ e, op = .insertResolverReputationEvent e
  · obtain ⟨e, rfl⟩ := hop
    show ((s.insertReputationEvent e).reputationEvents.get? key).isSome
    by_cases hkey : key = e.eventId
    · unfold ResolverStore.insertReputationEvent
      split_ifs with hinsert
      · rw [hkey, hinsert.1] at h
        cases h
      · exact h
    · rwa [get?_insertReputationEvent s e hkey]
  · rwa [reputationEvents_call js (fun e he => hop ⟨e, he⟩)]

/-- A reputation was changed before, cannot be changed, or is changed with its event. -/
theorem applyResolverReputationDelta_cases (js : Runtime) (a : ResolverAssignment) (matched : Bool)
    (now : String) (s : ResolverStore) :
    (run (resolverHandler js) (applyResolverReputationDelta js a matched now) s = (.ok (), s) ∧
        (s.reputationEvents.get? (reputationKey a.assignmentId)).isSome) ∨
      (∃ e, run (resolverHandler js) (applyResolverReputationDelta js a matched now) s =
        (.error e, s)) ∨
      ∃ (t : ResolverStore) (event : ResolverReputationEvent),
        event.eventId = reputationKey a.assignmentId ∧ event.Valid ∧
        t.reputationEvents = s.reputationEvents ∧
        run (resolverHandler js) (applyResolverReputationDelta js a matched now) s =
          (.ok (), t.insertReputationEvent event) := by
  unfold applyResolverReputationDelta reputationKey
  rw [run_reputationEventExists_bind]
  by_cases hexists :
      (s.reputationEvents.get? ("dotcast:e13:reputation:" ++ a.assignmentId)).isSome
  · rw [if_pos hexists]
    exact Or.inl ⟨rfl, hexists⟩
  · rw [if_neg hexists, run_getResolverProfile_bind]
    rcases readRow_profile_cases js s a.resolverId with ⟨e, hread, -⟩ | ⟨hread, -⟩ |
      ⟨row, hrow, -, hread⟩
    · rw [hread]
      exact Or.inr (Or.inl ⟨e, rfl⟩)
    · rw [hread]
      exact Or.inr (Or.inl ⟨_, rfl⟩)
    · rw [hread]
      simp only
      rw [run_updateProfileReputation_bind]
      generalize (if matched = true then RESOLVER_REPUTATION_CORRECT_DELTA_BPS
        else RESOLVER_REPUTATION_MISS_DELTA_BPS) = delta
      have hclamp : ∀ v, 0 ≤ clampBps v ∧ clampBps v ≤ 10000 := by
        intro v
        unfold clampBps
        omega
      have hbps := hclamp (js.arithmetic.integer (row.reputationBps + delta))
      generalize clampBps (js.arithmetic.integer (row.reputationBps + delta)) = bps at hbps
      have hvalid : (row.withReputation bps now).Valid := ⟨hbps, (s.profiles_ok _ _ hrow).2.2⟩
      have hupdate : s.updateProfile a.resolverId (·.withReputation bps now) =
          (.ok (), s.putProfile (row.withReputation bps now) hvalid) := by
        rw [ResolverStore.updateProfile, hrow]
        exact dif_pos hvalid
      rw [hupdate]
      refine Or.inr
        (Or.inr ⟨s.putProfile (row.withReputation bps now) hvalid, _, rfl, ?_, rfl, rfl⟩)
      exact ⟨(s.profiles_ok _ _ hrow).2.1, hbps⟩

/-! ## The rounds of a loop over payouts -/

private theorem reputationEvents_deltas (js : Runtime) (p : ResolverPayout) (s : ResolverStore) :
    (run (resolverHandler js) (applyResolverPayoutDeltas js p) s).2.reputationEvents =
      s.reputationEvents :=
  (movesBond_applyResolverPayoutDeltas js p).run_preserves
    (P := fun t => t.reputationEvents = s.reputationEvents)
    (fun _ t hop h => (reputationEvents_movesBond js hop t).trans h) rfl

private theorem reputationEvents_updateStatus (s : ResolverStore) (assignmentId : String)
    (status : AssignmentStatus) :
    (s.updateStatus assignmentId status).reputationEvents = s.reputationEvents := by
  unfold ResolverStore.updateStatus
  split <;> rfl

private theorem assignmentId_of_readRow {id : String} {a : ResolverAssignment}
    (h : readRow (assignmentFromRow js) (s.assignments.get? id) = .ok (some a)) :
    a.assignmentId = id := by
  obtain ⟨row, hrow, hfrom⟩ := readRow_eq_ok_some.mp h
  rw [(assignmentFromRow_eq_ok.mp hfrom).2]
  exact (s.assignments_ok _ _ hrow).1

/-- What is left after the row ends with the event of the assignment, or fails. -/
theorem finishPayout_cases (js : Runtime) (p : ResolverPayout) (s : ResolverStore) :
    (∃ e t, run (resolverHandler js) (finishPayout js p) s = (.error e, t) ∧
        t.reputationEvents = s.reputationEvents) ∨
      ∃ t, run (resolverHandler js) (finishPayout js p) s = (.ok (), t) ∧
        (t.reputationEvents.get? (reputationKey p.assignmentId)).isSome ∧
        ∀ key ≠ reputationKey p.assignmentId,
          t.reputationEvents.get? key = s.reputationEvents.get? key := by
  unfold finishPayout
  rw [run_updateAssignmentStatus_bind]
  generalize (if p.matchedConsensus = true then AssignmentStatus.paid else .slashed) = status
  have hstatus := reputationEvents_updateStatus s p.assignmentId status
  unfold applyResolverPayoutAccounting
  rw [run_getResolverAssignment_bind]
  rcases hread : readRow (assignmentFromRow js)
    ((s.updateStatus p.assignmentId status).assignments.get? p.assignmentId) with e | _ | a
  · exact Or.inl ⟨e, _, rfl, hstatus⟩
  · exact Or.inl ⟨_, _, rfl, hstatus⟩
  · have hid := assignmentId_of_readRow hread
    have hdeltas := reputationEvents_deltas js p (s.updateStatus p.assignmentId status)
    simp only
    rw [Program.run_bind]
    rcases hrun : run (resolverHandler js) (applyResolverPayoutDeltas js p)
      (s.updateStatus p.assignmentId status) with ⟨_ | _, t⟩
    · rw [hrun] at hdeltas
      exact Or.inl ⟨_, t, rfl, hdeltas.trans hstatus⟩
    · rw [hrun] at hdeltas
      simp only
      rcases applyResolverReputationDelta_cases js a p.matchedConsensus p.createdAt t with
        ⟨hrate, hsome⟩ | ⟨e, hrate⟩ | ⟨u, event, hkey, hvalid, hsame, hrate⟩
      · rw [hid] at hsome
        refine Or.inr ⟨t, hrate, hsome, fun key _ => ?_⟩
        rw [hdeltas, hstatus]
      · exact Or.inl ⟨e, t, hrate, hdeltas.trans hstatus⟩
      · rw [hid] at hkey
        refine Or.inr ⟨_, hrate, ?_, fun key hne => ?_⟩
        · rw [← hkey]
          exact isSome_insertReputationEvent u hvalid
        · rw [get?_insertReputationEvent u event (by rwa [hkey]), hsame, hdeltas, hstatus]

/-! ### Faults -/

section Programs

open Program (Propagates propagates_perform)

variable (js : Runtime)

private theorem propagates_applyResolverReputationDelta (a : ResolverAssignment) (matched : Bool)
    (now : String) : (applyResolverReputationDelta js a matched now).Propagates := by
  unfold applyResolverReputationDelta
  refine (propagates_perform _).bind fun rated => ?_
  cases rated with
  | true => trivial
  | false =>
    refine (propagates_perform _).bind fun profile => ?_
    cases profile with
    | none => trivial
    | some p => exact (propagates_perform _).bind fun _ => propagates_perform _

private theorem propagates_finishPayout (p : ResolverPayout) : (finishPayout js p).Propagates := by
  refine (propagates_perform _).bind fun _ => (propagates_perform _).bind fun assignment => ?_
  cases assignment with
  | none => trivial
  | some a =>
    refine Propagates.bind ?_ fun _ => propagates_applyResolverReputationDelta js a _ _
    unfold applyResolverPayoutDeltas
    split_ifs
    · exact (propagates_when (propagates_applyResolverBondDelta js _)).bind fun _ =>
        propagates_when (propagates_applyResolverBondDelta js _)
    · exact propagates_applyResolverBondDelta js _

private theorem propagates_insertResolverPayout (p : ResolverPayout) :
    (insertResolverPayout js p).Propagates := by
  rw [insertResolverPayout_eq]
  refine (propagates_perform _).bind fun paid => ?_
  split_ifs
  · trivial
  · exact (propagates_perform _).bind fun _ => propagates_finishPayout js p

/-- The calls that insert a reputation event. -/
def ResolverOp.RecordsReputation (op : ResolverOp) : Prop :=
  ∃ e, op = .insertResolverReputationEvent e

private theorem onlyLast_finishPayout (p : ResolverPayout) :
    (finishPayout js p).OnlyLast ResolverOp.RecordsReputation := by
  have hfree : ∀ {op : ResolverOp}, (∀ e, op ≠ .insertResolverReputationEvent e) →
      (Program.perform op : Resolving _).Avoids ResolverOp.RecordsReputation := by
    intro op hop
    exact Program.avoids_perform fun ⟨e, he⟩ => hop e he
  refine (hfree (by simp)).bind_onlyLast fun _ => (hfree (by simp)).bind_onlyLast fun assignment =>
    ?_
  cases assignment with
  | none => trivial
  | some a =>
    refine ((movesBond_applyResolverPayoutDeltas js p).mono ?_).bind_onlyLast fun _ => ?_
    · rintro _ ⟨e, rfl⟩
      exact id
    · refine (hfree (by simp)).bind_onlyLast fun rated => ?_
      cases rated with
      | true => trivial
      | false =>
        refine (hfree (by simp)).bind_onlyLast fun profile => ?_
        cases profile with
        | none => trivial
        | some q =>
          exact (hfree (by simp)).bind_onlyLast fun _ => Program.onlyLast_perform _

end Programs

/-- A fault in what is left after the row comes before the event. -/
theorem reputationEvents_of_struck
    (hstruck : Struck (resolverHandler js) fault (finishPayout js p) s op t) :
    t.reputationEvents = s.reputationEvents :=
  hstruck.onlyLast (P := fun u => u.reputationEvents = s.reputationEvents)
    (fun _ u hop h => (reputationEvents_call js (fun e he => hop ⟨e, he⟩) u).trans h)
    (onlyLast_finishPayout js p) (propagates_finishPayout js p) rfl

/-- What is left after the row opens no payout. -/
private theorem not_opensPayout_finishPayout (js : Runtime) (p : ResolverPayout) :
    (finishPayout js p).Avoids ResolverOp.OpensPayout :=
  (Program.avoids_perform id).bind fun _ =>
    (accounts_applyResolverPayoutAccounting js p).mono fun _ hop haccounts =>
      haccounts.not_opensPayout hop

/-- A fault in the round of a payout strikes before its row is there or in what is left after. -/
theorem struck_insertResolverPayout
    (hstruck : Struck (resolverHandler js) fault (insertResolverPayout js p) s op t) :
    (op.OpensPayout ∧ t = s) ∨ ¬op.OpensPayout ∧ s.payouts.get? (p.assignmentId, p.panelId) = none ∧
      Struck (resolverHandler js) fault (finishPayout js p) (s.insertPayout p) op t := by
  rw [insertResolverPayout_eq] at hstruck
  rcases hstruck.perform_bind with ⟨rfl, hsame⟩ | ⟨paid, s₁, hserved, hrest⟩
  · exact Or.inl ⟨trivial, hsame⟩
  · obtain ⟨hpaid, rfl⟩ := Prod.mk.inj hserved
    obtain rfl := Except.ok.inj hpaid
    cases hrow : s.payouts.get? (p.assignmentId, p.panelId) with
    | some row =>
      rw [hrow] at hrest
      exact absurd hrest Program.not_struck_done
    | none =>
      rw [hrow, Option.isSome_none, if_neg Bool.false_ne_true] at hrest
      rcases hrest.perform_bind with ⟨rfl, hsame⟩ | ⟨_, s₂, hserved, hfinish⟩
      · exact Or.inl ⟨trivial, hsame⟩
      · obtain ⟨-, rfl⟩ := Prod.mk.inj hserved
        exact Or.inr ⟨hfinish.avoids (not_opensPayout_finishPayout js p), rfl, hfinish⟩

/-! ### What a round leaves alone -/

private theorem reputationKey_inj {a b : String} (h : reputationKey a = reputationKey b) : a = b :=
  Text.append_left_inj h

private theorem reputationEvents_insertPayout (s : ResolverStore) (p : ResolverPayout) :
    (s.insertPayout p).reputationEvents = s.reputationEvents := by
  unfold ResolverStore.insertPayout
  split_ifs <;> rfl

/-- The round of a payout records the reputation of its own assignment only. -/
theorem reputationEvents_round {id : String} (hid : p.assignmentId ≠ id) (js : Runtime)
    (s : ResolverStore) :
    (run (resolverHandler js) (insertResolverPayout js p) s).2.reputationEvents.get?
      (reputationKey id) = s.reputationEvents.get? (reputationKey id) := by
  cases hrow : s.payouts.get? (p.assignmentId, p.panelId) with
  | some row => rw [run_insertResolverPayout_of_row (by simp [hrow])]
  | none =>
    have hkey : reputationKey id ≠ reputationKey p.assignmentId :=
      fun h => hid (reputationKey_inj h).symm
    rw [run_insertResolverPayout_of_none hrow, ← reputationEvents_insertPayout s p]
    rcases finishPayout_cases js p (s.insertPayout p) with ⟨e, t, hrun, hsame⟩ |
      ⟨t, hrun, -, hothers⟩
    · rw [hrun, hsame]
    · rw [hrun, hothers _ hkey]

/-- The round of a payout writes no other row of a payout. -/
theorem payouts_round {key : String × String} (hkey : key ≠ (p.assignmentId, p.panelId))
    (js : Runtime) (s : ResolverStore) :
    (run (resolverHandler js) (insertResolverPayout js p) s).2.payouts.get? key =
      s.payouts.get? key := by
  cases hrow : s.payouts.get? (p.assignmentId, p.panelId) with
  | some row => rw [run_insertResolverPayout_of_row (by simp [hrow])]
  | none =>
    rw [run_insertResolverPayout_of_none hrow, finishPayout, run_updateAssignmentStatus_bind,
      (samePanels_payoutAccounting js p _).payouts, ResolverStore.payouts_updateStatus]
    unfold ResolverStore.insertPayout
    split_ifs
    · exact (Rows.get?_set _ _ _ _).trans (if_neg hkey)
    · rfl

/-! ## The loop -/

/-- Payouts as they are handed over: they pass the checks, each is for another assignment, and no
reputation was recorded for one without a row. -/
structure PayoutsDue (s : ResolverStore) (payouts : List ResolverPayout) : Prop where
  valid : ∀ p ∈ payouts, p.Valid
  nodup : (payouts.map ResolverPayout.assignmentId).Nodup
  unrated : ∀ p ∈ payouts, s.payouts.get? (p.assignmentId, p.panelId) = none →
    s.reputationEvents.get? (reputationKey p.assignmentId) = none

variable {payouts : List ResolverPayout}

private theorem resumable_payouts (fault : Fault) (hvalid : ∀ p ∈ payouts, p.Valid) :
    Resolving.Resumable js fault (insertResolverPayout js) payouts
      (fun p s => (s.payouts.get? (p.assignmentId, p.panelId)).isSome) ResolverOp.OpensPayout where
  propagates p := propagates_insertResolverPayout js p
  idle p _ s h := run_insertResolverPayout_of_row h
  settles p hp s s' hrun := by
    have hrow := isSome_payouts_of_round js (hvalid p hp) s
    rwa [hrun] at hrow
  keeps p _ q _ s s' h hrun := by
    have hrow := isSome_payouts_run js (insertResolverPayout js q) h
    rwa [hrun] at hrow
  keepsStruck p _ q _ s op t h hstruck :=
    hstruck.preserves (fun op s _ => isSome_payouts_call js op s) (Program.avoids_false _) h
  retries p _ s s' op t hrun hstruck hsafe := by
    rcases struck_insertResolverPayout hstruck with ⟨-, rfl⟩ | ⟨hlate, -⟩
    · exact hrun
    · exact absurd hsafe hlate

/-- A fault after a row comes before the reputation event of that payout. -/
private theorem exists_struck_payout (hvalid : ∀ p ∈ payouts, p.Valid)
    (hnodup : (payouts.map ResolverPayout.assignmentId).Nodup)
    (hrun : run (resolverHandler js) (insertResolverPayouts js payouts) s = (.ok (), s'))
    (hstruck : Struck (resolverHandler js) fault (insertResolverPayouts js payouts) s op t)
    (hlate : ¬op.OpensPayout) :
    ∃ p ∈ payouts, s.payouts.get? (p.assignmentId, p.panelId) = none ∧
      (t.payouts.get? (p.assignmentId, p.panelId)).isSome ∧
      t.reputationEvents.get? (reputationKey p.assignmentId) =
        s.reputationEvents.get? (reputationKey p.assignmentId) := by
  induction payouts generalizing s with
  | nil => exact absurd hstruck Program.not_struck_done
  | cons c cs ih =>
    obtain ⟨hc, hcs⟩ := List.nodup_cons.mp hnodup
    obtain ⟨u, hround, hrest⟩ := run_forEach_cons_eq_ok hrun
    rcases struck_forEach_cons (propagates_insertResolverPayout js c) hround hstruck with
      hfirst | hlater
    · rcases struck_insertResolverPayout hfirst with ⟨hopens, -⟩ | ⟨-, hnone, hfinish⟩
      · exact absurd hopens hlate
      · refine ⟨c, List.mem_cons_self, hnone, ?_, ?_⟩
        · exact hfinish.preserves (fun op s _ => isSome_payouts_call js op s)
            (Program.avoids_false _)
            (ResolverStore.isSome_insertPayout (Or.inr ⟨rfl, hvalid c List.mem_cons_self⟩))
        · rw [reputationEvents_of_struck hfinish, reputationEvents_insertPayout]
    · obtain ⟨p, hp, hnone, hrow, hevent⟩ :=
        ih (fun q hq => hvalid q (List.mem_cons_of_mem c hq)) hcs hrest hlater
      have hne : c.assignmentId ≠ p.assignmentId := by
        intro heq
        exact hc (heq ▸ List.mem_map_of_mem hp)
      have hframe := reputationEvents_round hne js s
      have hpayouts := @payouts_round c (p.assignmentId, p.panelId)
        (fun h => hne (Prod.mk.inj h).1.symm) js s
      rw [hround] at hframe hpayouts
      exact ⟨p, List.mem_cons_of_mem c hp, hpayouts.symm.trans hnone, hrow, hevent.trans hframe⟩

/-- A run without a fault records the reputation of every payout that had no row. -/
private theorem isSome_event_of_run (hnodup : (payouts.map ResolverPayout.assignmentId).Nodup)
    (hrun : run (resolverHandler js) (insertResolverPayouts js payouts) s = (.ok (), s'))
    (hp : p ∈ payouts) (hnone : s.payouts.get? (p.assignmentId, p.panelId) = none) :
    (s'.reputationEvents.get? (reputationKey p.assignmentId)).isSome := by
  induction payouts generalizing s with
  | nil => exact absurd hp List.not_mem_nil
  | cons c cs ih =>
    obtain ⟨hc, hcs⟩ := List.nodup_cons.mp hnodup
    obtain ⟨t, hround, hrest⟩ := run_forEach_cons_eq_ok hrun
    rcases List.mem_cons.mp hp with rfl | hp
    · rw [run_insertResolverPayout_of_none hnone] at hround
      rcases finishPayout_cases js p (s.insertPayout p) with ⟨e, u, hfinish, -⟩ |
        ⟨u, hfinish, hsome, -⟩
      · rw [hround] at hfinish
        cases (Prod.mk.inj hfinish).1
      · rw [hround] at hfinish
        obtain rfl := (Prod.mk.inj hfinish).2
        have hkept := (Program.avoids_false (insertResolverPayouts js cs)).run_preserves
          (P := fun s => (s.reputationEvents.get? (reputationKey p.assignmentId)).isSome)
          (fun op s _ => isSome_reputationEvents_call js op s) hsome
        unfold insertResolverPayouts at hkept
        rwa [hrest] at hkept
    · have hne : c.assignmentId ≠ p.assignmentId := by
        intro heq
        exact hc (heq ▸ List.mem_map_of_mem hp)
      have hpayouts := @payouts_round c (p.assignmentId, p.panelId)
        (fun h => hne (Prod.mk.inj h).1.symm) js s
      rw [hround] at hpayouts
      exact ih hcs hrest hp (hpayouts.trans hnone)

/-- A fault is made up for exactly where it strikes before the row of a payout is there. -/
theorem insertResolverPayouts_madeUp_iff (hdue : PayoutsDue s payouts)
    (hrun : run (resolverHandler js) (insertResolverPayouts js payouts) s = (.ok (), s'))
    (hstruck : Struck (resolverHandler js) fault (insertResolverPayouts js payouts) s op t) :
    MadeUp js (insertResolverPayouts js payouts) s t ↔ op.OpensPayout := by
  constructor
  · rintro ⟨u, hretried, hsame⟩
    by_contra hlate
    obtain ⟨p, hp, hnone, hrow, hevent⟩ :=
      exists_struck_payout hdue.valid hdue.nodup hrun hstruck hlate
    rw [hdue.unrated p hp hnone] at hevent
    have hlost : (u.payouts.get? (p.assignmentId, p.panelId)).isSome ∧
        u.reputationEvents.get? (reputationKey p.assignmentId) = none := by
      refine hretried.invariant (P := fun v => (v.payouts.get? (p.assignmentId, p.panelId)).isSome ∧
        v.reputationEvents.get? (reputationKey p.assignmentId) = none) (fun v hv => ?_)
          ⟨hrow, hevent⟩
      apply forEach_preserves_mem (P := fun v =>
        (v.payouts.get? (p.assignmentId, p.panelId)).isSome ∧
          v.reputationEvents.get? (reputationKey p.assignmentId) = none) _ hv
      intro q hq v hv
      by_cases hid : q.assignmentId = p.assignmentId
      · obtain rfl := List.inj_on_of_nodup_map hdue.nodup hq hp hid
        rw [run_insertResolverPayout_of_row hv.1]
        exact hv
      · rw [reputationEvents_round hid js v]
        exact ⟨isSome_payouts_run js _ hv.1, hv.2⟩
    have hsome := isSome_event_of_run hdue.nodup hrun hp hnone
    rw [hrun] at hsame
    rw [← hsame.reputationEvents, hlost.2] at hsome
    cases hsome
  · intro hsafe
    exact madeUp_of_run hrun ((resumable_payouts fault hdue.valid).run_forEach hrun hstruck hsafe)

end Yevow.DotCast
