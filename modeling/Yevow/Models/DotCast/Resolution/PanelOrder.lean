import Yevow.Core.Collection.Podium
import Yevow.Models.DotCast.Resolution.PanelIntegrity

/-!
# The order of the candidates

A panel is the podium of a contest for its seats: identities are the keys, and the score under the
panel id and then the reputation say who comes first. What is left of a candidate on the panel is
its resolver, its identity and its reputation. The order of the candidates shows on the panel
where profiles of one identity share the highest reputation and where scores and reputations tie.
-/

namespace Yevow.DotCast

open JavaScript (Runtime)

/-- What an assignment keeps of a candidate. -/
structure Seat where
  resolverId : String
  identityHash : String
  reputationBps : ℤ
  deriving DecidableEq

/-- What decides on the order of a candidate. -/
def ResolverProfile.seat (candidate : ResolverProfile) : Seat :=
  ⟨candidate.resolverId, candidate.identityHash, candidate.reputationBps⟩

namespace SelectDotCastResolverPanelInput

variable (js : Runtime) (env : ResolutionRouterEnv) (clock : String)
  (input : SelectDotCastResolverPanelInput)

/-- The contest for the seats of a panel. -/
def contest : Contest String ResolverProfile Seat where
  key := ResolverProfile.identityHash
  rank := ResolverProfile.reputationBps
  passes := fun c => input.Qualified js env c
  compare := compareResolvers (input.selectedPanelId js clock)
  places := (input.panelSize js env).toNat
  label := ResolverProfile.seat

/-- The candidates in another order give the same panel or the same refusal. -/
def OrderIndependent : Prop :=
  ∀ candidates, candidates.Perm input.candidates →
    selectDotCastResolverPanel js env clock { input with candidates := candidates } =
      selectDotCastResolverPanel js env clock input

end SelectDotCastResolverPanelInput

open SelectDotCastResolverPanelInput

variable {js : Runtime} {env : ResolutionRouterEnv} {clock : String}
  {input : SelectDotCastResolverPanelInput}

private theorem lawful_contest : (input.contest js env clock).Lawful where
  key_eq h := congrArg Seat.identityHash h
  compare_eq := by
    rintro ⟨⟩ ⟨⟩ ⟨⟩ ⟨⟩ hx hy
    cases hx
    cases hy
    rfl
  consistent zs := by
    have hscore := Sorting.consistent_sub (resolverScore (input.selectedPanelId js clock)) zs
    have hreputation :
        Sorting.Consistent (fun a b : ResolverProfile => b.reputationBps - a.reputationBps) zs := by
      constructor
      · intro a _ b _
        omega
      · intro a _ b _ c _ hab hbc
        omega
    exact hscore.lexicographic hreputation

/-- The panel that seats make up. -/
def seatedPanel (js : Runtime) (env : ResolutionRouterEnv) (clock : String)
    (input : SelectDotCastResolverPanelInput) (seats : List Seat) : ResolverPanel where
  panelId := input.selectedPanelId js clock
  poolId := input.poolId
  routeId := input.route.routeId
  tier := input.route.tier
  panelSize := input.panelSize js env
  estimatedStakeMinorUnits := input.stake
  resolverFeeBps :=
    if input.route.tier = .optimisticBonded ∨ input.route.tier = .humanJury then
      (readDotCastResolutionRouterStatus js env).resolverFeeBps
    else 0
  assignments := seats.mapIdx fun index seat =>
    input.assignment js env clock index
      ⟨seat.resolverId, seat.identityHash, seat.reputationBps, 0, []⟩
  createdAt := input.now.getD clock

private theorem seatedPanel_inj {seats seats' : List Seat}
    (h : seatedPanel js env clock input seats = seatedPanel js env clock input seats') :
    seats = seats' := by
  have hassignments := congrArg ResolverPanel.assignments h
  have hseats : ∀ ss : List Seat, (seatedPanel js env clock input ss).assignments.map
      (fun a => (⟨a.resolverId, a.identityHash, a.reputationBps⟩ : Seat)) = ss := by
    intro ss
    apply List.ext_getElem
    · simp [seatedPanel]
    · intro i h _
      simp [seatedPanel, assignment]
  rw [← hseats seats, ← hseats seats', hassignments]

private theorem assignments_eq_map_seat (candidates : List ResolverProfile) :
    candidates.mapIdx (input.assignment js env clock) =
      (seatedPanel js env clock input (candidates.map ResolverProfile.seat)).assignments := by
  apply List.ext_getElem
  · simp [seatedPanel]
  · intro i h _
    simp [seatedPanel, assignment, ResolverProfile.seat]

/-- The panel, or the refusal, is the outcome of the contest. -/
theorem select_eq_of_outcome (candidates : List ResolverProfile) :
    selectDotCastResolverPanel js env clock { input with candidates := candidates } =
      match (input.contest js env clock).outcome candidates with
      | none => .error
        ⟨"not enough stake-excluded, bonded, unique-identity resolvers for the required panel",
          some "RESOLVER_PANEL_INSUFFICIENT", some 409⟩
      | some seats => .ok (seatedPanel js env clock input seats) := by
  have hpos := (odd_panelSize js env input).2
  have hselected : { input with candidates := candidates }.selected js env clock =
    (input.contest js env clock).podium candidates := rfl
  have hsize :
    { input with candidates := candidates }.panelSize js env = input.panelSize js env := rfl
  have hplaces : (input.contest js env clock).places = (input.panelSize js env).toNat := rfl
  unfold selectDotCastResolverPanel Contest.outcome
  dsimp only
  rw [hselected, hsize, hplaces]
  by_cases hfew :
      ((input.contest js env clock).podium candidates).length < (input.panelSize js env).toNat
  · rw [if_pos hfew, Except.throwIf, if_pos (by omega)]
    rfl
  · rw [if_neg hfew, Except.throwIf_of_not _ (by omega), Except.bind_ok]
    have hassignments := @assignments_eq_map_seat js env clock input
      ((input.contest js env clock).podium candidates)
    exact congrArg (fun as => Except.ok
      ({ seatedPanel js env clock input [] with assignments := as } : ResolverPanel)) hassignments

/-- The order of the candidates does not show exactly where too few identities contend for the
seats or nothing is left to the order among the profiles that have a seat in reach. -/
theorem selectDotCastResolverPanel_order_iff (js : Runtime) (env : ResolutionRouterEnv)
    (clock : String) (input : SelectDotCastResolverPanelInput) :
    input.OrderIndependent js env clock ↔
      (((input.contest js env clock).contenders input.candidates).card : ℤ) <
          input.panelSize js env ∨
        (input.contest js env clock).Settled input.candidates := by
  have hpos := (odd_panelSize js env input).2
  have hplaces : (input.contest js env clock).places = (input.panelSize js env).toNat := rfl
  have houtcome := (@lawful_contest js env clock input).outcome_eq_iff input.candidates
  have hfew : (((input.contest js env clock).contenders input.candidates).card : ℤ) <
      input.panelSize js env ↔
        ((input.contest js env clock).contenders input.candidates).card <
          (input.contest js env clock).places := by omega
  rw [hfew, ← houtcome]
  unfold OrderIndependent
  apply forall_congr'
  intro candidates
  apply imp_congr_right
  intro _
  rw [select_eq_of_outcome candidates, show input = { input with candidates := input.candidates }
    from rfl, select_eq_of_outcome input.candidates]
  constructor
  · intro h
    cases hys : (input.contest js env clock).outcome candidates with
    | none =>
      cases hxs : (input.contest js env clock).outcome input.candidates with
      | none => rfl
      | some _ =>
        rw [hys, hxs] at h
        cases h
    | some seats =>
      cases hxs : (input.contest js env clock).outcome input.candidates with
      | none =>
        rw [hys, hxs] at h
        cases h
      | some seats' =>
        rw [hys, hxs] at h
        rw [seatedPanel_inj (Except.ok.inj h)]
  · intro h
    rw [h]

/-- Of two profiles of one identity with one reputation the first one takes the seat. -/
theorem tied_profiles_take_turns :
    ¬(panelRequest (⟨"r4", "alice", 9000, 50000, []⟩ :: threeResolvers)).OrderIndependent
      (JavaScript.reference .double) defaultEnv "t" := by
  intro h
  have hsame := h (threeResolvers ++ [⟨"r4", "alice", 9000, 50000, []⟩]) (by decide)
  have hresolvers := congrArg
    (fun panel => panel.toOption.map fun p => p.assignments.map ResolverAssignment.resolverId) hsame
  exact absurd hresolvers (by decide +kernel)

end Yevow.DotCast
