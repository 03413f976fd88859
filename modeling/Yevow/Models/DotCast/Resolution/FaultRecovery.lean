import Yevow.Models.DotCast.Resolution.PanelRetry
import Yevow.Models.DotCast.Resolution.PayoutRetry

/-!
# Faults that calling again makes up for

A panel is planned, or payouts are made, one store call throws, and the operation is called again
with the same argument until it succeeds. What is left agrees with one undisturbed call exactly
where the call that threw was not one whose work is skipped the second time.
-/

namespace Yevow.DotCast

open JavaScript (Runtime)
open Program (run runFault callAt Struck Retried)

/-- The operations that write in rounds. -/
inductive RoundRequest
  | panel (panel : ResolverPanel)
  | payouts (payouts : List ResolverPayout)

namespace RoundRequest

def program (js : Runtime) : RoundRequest → Resolving Unit
  | panel p => insertResolverPanel js p
  | payouts ps => insertResolverPayouts js ps

/-- The request is as the router hands it over. -/
def Due (js : Runtime) (s : ResolverStore) : RoundRequest → Prop
  | panel p => PanelDue js s p
  | payouts ps => PayoutsDue s ps

/-- The calls whose fault is made up for: in a panel all but those of the ledger rows of a
registration or of a lock that is not empty, and for payouts those up to the row of the payout. -/
def Repeats : RoundRequest → ResolverOp → Prop
  | panel _, op => ¬op.LosesEntry
  | payouts _, op => op.OpensPayout

end RoundRequest

/-- Where one undisturbed call succeeds and some store call of it throws, calling again until it
succeeds has the outcome of the undisturbed call exactly where the call that threw is repeated. -/
theorem fault_made_up_iff {js : Runtime} (hsafe : js.arithmetic.Gapless) {fault : Fault}
    {s s' t : ResolverStore} {op : ResolverOp} {request : RoundRequest}
    (hdue : request.Due js s)
    (hrun : run (resolverHandler js) (request.program js) s = (.ok (), s'))
    (hstruck : Struck (resolverHandler js) fault (request.program js) s op t) :
    MadeUp js (request.program js) s t ↔ request.Repeats op := by
  cases request with
  | panel p => exact insertResolverPanel_madeUp_iff hsafe hdue hrun hstruck
  | payouts ps => exact insertResolverPayouts_madeUp_iff hdue hrun hstruck

/-! ## A panel of one seat -/

deriving instance DecidableEq for ResolverOp

private def reviewedSeat : ResolverAssignment where
  assignmentId := "seat-a"
  panelId := "panel-1"
  poolId := "pool-1"
  routeId := "route-1"
  resolverId := "ada"
  identityHash := "hash-ada"
  reputationBps := 9000
  bondMinorUnits := 100
  status := .assigned
  assignedAt := "2026-07-01T13:00:00.000Z"

private def reviewPanel : ResolverPanel where
  panelId := "panel-1"
  poolId := "pool-1"
  routeId := "route-1"
  tier := .humanJury
  panelSize := 1
  estimatedStakeMinorUnits := 10000
  resolverFeeBps := 100
  createdAt := "2026-07-01T13:00:00.000Z"
  assignments := [reviewedSeat]

/-- The seat's answer matched: the bond is returned. -/
private def reviewPayout : ResolverPayout where
  assignmentId := "seat-a"
  panelId := "panel-1"
  resolverId := "ada"
  matchedConsensus := true
  bondReturnedMinorUnits := 100
  feePaidMinorUnits := 10
  slashedBondMinorUnits := 0
  createdAt := "2026-07-01T17:00:00.000Z"

private abbrev jsReview : Runtime := JavaScript.reference .double

private def outage : Fault := .plain "store unavailable"

private def planReview : Resolving Unit := insertResolverPanel jsReview reviewPanel

private def payReview : Resolving Unit := insertResolverPayouts jsReview [reviewPayout]

private def bondedAda : ResolverRegistryProfile :=
  { assignedProfile reviewedSeat with bondAvailableMinorUnits := 300 }

/-- Ada is registered with a bond for three seats. -/
private def registered : ResolverStore :=
  (run (resolverHandler jsReview) (upsertResolverProfile jsReview bondedAda) .empty).2

private def afterPlanning : ResolverStore :=
  (run (resolverHandler jsReview) planReview registered).2

private theorem planReview_due : PanelDue jsReview registered reviewPanel where
  due := by
    intro a ha
    obtain rfl := List.mem_singleton.mp ha
    exact ⟨by decide, by constructor <;> decide +kernel⟩
  nodup := by decide
  newcomers := by
    intro a ha hnone
    obtain rfl := List.mem_singleton.mp ha
    have hsome : (registered.profiles.get? "ada").isSome := by decide +kernel
    rw [Option.isSome_iff_ne_none] at hsome
    exact absurd hnone hsome

private theorem payReview_due : PayoutsDue afterPlanning [reviewPayout] where
  valid := by
    intro p hp
    obtain rfl := List.mem_singleton.mp hp
    decide
  nodup := by decide
  unrated := by
    intro p hp _
    obtain rfl := List.mem_singleton.mp hp
    decide +kernel

/-- The state after a call of a given number threw. -/
private def struckAt (n : ℕ) (program : Resolving Unit) (s : ResolverStore) : ResolverStore :=
  (runFault (resolverHandler jsReview) outage n program s).2

private theorem run_eq_of_ok {program : Resolving Unit} {s : ResolverStore}
    (h : (run (resolverHandler jsReview) program s).1 = .ok ()) :
    run (resolverHandler jsReview) program s =
      (.ok (), (run (resolverHandler jsReview) program s).2) := Prod.ext h rfl

private theorem not_madeUp (resolverId : String) {program : Resolving Unit} {s t : ResolverStore}
    (hagain : (run (resolverHandler jsReview) program t).1 = .ok ())
    (hbond : (run (resolverHandler jsReview) program t).2.bondAvailable resolverId ≠
      (run (resolverHandler jsReview) program s).2.bondAvailable resolverId) :
    ¬MadeUp jsReview program s t := by
  rintro ⟨u, hretried, hsame⟩
  obtain rfl := hretried.eq_of_run (run_eq_of_ok hagain)
  exact hbond (hsame.bonds resolverId)

private theorem payReview_run :
    run (resolverHandler jsReview) payReview afterPlanning =
      (.ok (), (run (resolverHandler jsReview) payReview afterPlanning).2) :=
  run_eq_of_ok (by decide +kernel)

/-- The throw comes with the row of the payout: paying again does all of it. -/
theorem fault_made_up_iff_payout_row :
    MadeUp jsReview payReview afterPlanning (struckAt 1 payReview afterPlanning) ↔
      (RoundRequest.payouts [reviewPayout]).Repeats (.insertPayoutRow reviewPayout) :=
  @fault_made_up_iff jsReview Arithmetic.gapless_double outage afterPlanning _ _ _
    (.payouts [reviewPayout]) payReview_due payReview_run ⟨1, by decide +kernel, rfl⟩

/-- The insertion of the lock's ledger row throws, and the bond is locked twice. The update of the
assignment's status throws, and the matched resolver's bond stays locked. -/
theorem faults_lock_bonds :
    (PanelDue jsReview registered reviewPanel ∧
      ∃ t, Struck (resolverHandler jsReview) outage planReview registered
        (.insertResolverBondLedgerEntry ((lockDelta reviewedSeat).entry 200)) t ∧
      ¬MadeUp jsReview planReview registered t ∧ registered.bondAvailable "ada" = 300 ∧
      (run (resolverHandler jsReview) planReview registered).2.bondAvailable "ada" = 200 ∧
      (run (resolverHandler jsReview) planReview t).2.bondAvailable "ada" = 100) ∧
    PayoutsDue afterPlanning [reviewPayout] ∧
      ∃ t, Struck (resolverHandler jsReview) outage payReview afterPlanning
        (.updateResolverAssignmentStatus "seat-a" .paid) t ∧
      ¬MadeUp jsReview payReview afterPlanning t ∧ afterPlanning.bondAvailable "ada" = 200 ∧
      (run (resolverHandler jsReview) payReview afterPlanning).2.bondAvailable "ada" = 310 ∧
      (run (resolverHandler jsReview) payReview t).2.bondAvailable "ada" = 200 := by
  constructor
  · refine ⟨planReview_due, struckAt 6 planReview registered, ⟨6, by decide +kernel, rfl⟩,
      not_madeUp "ada" (by decide +kernel) (by decide +kernel), by decide +kernel,
      by decide +kernel, by decide +kernel⟩
  · refine ⟨payReview_due, struckAt 2 payReview afterPlanning, ⟨2, by decide +kernel, rfl⟩,
      not_madeUp "ada" (by decide +kernel) (by decide +kernel), by decide +kernel,
      by decide +kernel, by decide +kernel⟩

end Yevow.DotCast
