import Mathlib.Algebra.Ring.Int.Parity
import Mathlib.Data.Finset.Card
import Yevow.Models.DotCast.Resolution.PanelSelection

/-!
# Who sits on a panel

A panel has its size, a bond for every seat and one seat for every identity. Whether an identity
with a stake is kept out depends on the profile that its reputation let through to the filters.
-/

namespace Yevow.DotCast

open JavaScript (Runtime)

variable (js : Runtime) (env : ResolutionRouterEnv) (clock : String)
  (input : SelectDotCastResolverPanelInput)

namespace SelectDotCastResolverPanelInput

/-- No profile of the identity holds a stake in the pool or a position. -/
def Untainted (identityHash : String) : Prop :=
  ∀ c ∈ input.candidates, c.identityHash = identityHash →
    c.resolverId ∉ input.stakeExcluded ∧ input.poolId ∉ c.stakeHeldPoolIds

instance (identityHash : String) : Decidable (input.Untainted identityHash) :=
  inferInstanceAs (Decidable (∀ c ∈ input.candidates, _))

/-- An untainted identity with the bond. -/
def EligibleIdentity (identityHash : String) : Prop :=
  input.Untainted identityHash ∧ ∃ c ∈ input.candidates,
    c.identityHash = identityHash ∧ input.bondMinorUnits js env ≤ c.bondAvailableMinorUnits

instance (identityHash : String) : Decidable (input.EligibleIdentity js env identityHash) :=
  inferInstanceAs (Decidable (_ ∧ ∃ c ∈ input.candidates, _))

def eligibleIdentities : Finset String :=
  (input.candidates.map ResolverProfile.identityHash).toFinset.filter
    fun h => input.EligibleIdentity js env h

/-- What a panel is for. -/
structure SoundPanel (panel : ResolverPanel) : Prop where
  size : (panel.assignments.length : ℤ) = input.panelSize js env ∧ Odd (input.panelSize js env)
  identities : (panel.assignments.map ResolverAssignment.identityHash).Nodup
  resolvers : (panel.assignments.map ResolverAssignment.resolverId).Nodup
  bonded : ∀ a ∈ panel.assignments, ∃ c ∈ input.candidates, c.resolverId = a.resolverId ∧
    c.identityHash = a.identityHash ∧ c.reputationBps = a.reputationBps ∧
      input.bondMinorUnits js env ≤ c.bondAvailableMinorUnits
  untainted : ∀ a ∈ panel.assignments, input.Untainted a.identityHash

/-- Every panel is sound, and enough eligible identities get one. -/
structure PanelHolds : Prop where
  sound : ∀ panel, selectDotCastResolverPanel js env clock input = .ok panel →
    input.SoundPanel js env panel
  completes : input.panelSize js env ≤ (input.eligibleIdentities js env).card →
    ∃ panel, selectDotCastResolverPanel js env clock input = .ok panel

/-- The kept profiles that the filters let through stand for identities without a taint and for
different resolvers, and no bonded identity without a taint is lost where it is needed. -/
structure NothingHidden : Prop where
  resolvers : input.panelSize js env ≤ (input.uniqueCandidates js env).length →
    ((input.uniqueCandidates js env).map ResolverProfile.resolverId).Nodup
  untainted : input.panelSize js env ≤ (input.uniqueCandidates js env).length →
    ∀ c ∈ input.uniqueCandidates js env, input.Untainted c.identityHash
  eligible : input.panelSize js env ≤ (input.eligibleIdentities js env).card →
    input.panelSize js env ≤ (input.uniqueCandidates js env).length

end SelectDotCastResolverPanelInput

open SelectDotCastResolverPanelInput

variable {js env clock input}

/-! ## The size -/

private theorem odd_oddPanelSize (value : ℤ) :
    Odd (oddPanelSize value) ∧ 0 < oddPanelSize value := by
  unfold oddPanelSize
  rw [Int.odd_iff]
  dsimp only
  split_ifs <;> omega

theorem odd_panelSize (js : Runtime) (env : ResolutionRouterEnv)
    (input : SelectDotCastResolverPanelInput) :
    Odd (input.panelSize js env) ∧ 0 < input.panelSize js env := by
  unfold SelectDotCastResolverPanelInput.panelSize panelSizeForStake
  split_ifs
  · exact odd_oddPanelSize _
  · exact odd_oddPanelSize _

/-! ## The seats -/

private theorem mem_uniqueCandidates {c : ResolverProfile} (h : c ∈ input.uniqueCandidates js env) :
    c ∈ input.candidates ∧ input.Qualified js env c := by
  obtain ⟨hkept, hqualified⟩ := List.mem_filter.mp h
  exact ⟨(Rows.mem_leaders hkept).1, of_decide_eq_true hqualified⟩

private theorem nodup_identity_uniqueCandidates (js : Runtime) (env : ResolutionRouterEnv)
    (input : SelectDotCastResolverPanelInput) :
    ((input.uniqueCandidates js env).map ResolverProfile.identityHash).Nodup :=
  (Rows.nodup_key_leaders input.candidates).sublist (List.filter_sublist.map _)

private theorem perm_shuffle (candidates : List ResolverProfile) (seed : String) :
    (deterministicResolverShuffle candidates seed).Perm candidates :=
  Sorting.perm_sortBy _ _

private theorem length_selected : ((input.selected js env clock).length : ℤ) =
    min (input.panelSize js env) (input.uniqueCandidates js env).length := by
  have hpos := (odd_panelSize js env input).2
  unfold selected
  rw [List.length_take, (perm_shuffle _ _).length_eq]
  omega

private theorem mem_uniqueCandidates_of_selected {c : ResolverProfile}
    (h : c ∈ input.selected js env clock) : c ∈ input.uniqueCandidates js env :=
  (perm_shuffle _ _).mem_iff.mp (List.mem_of_mem_take h)

private theorem nodup_map_selected {β : Type} {f : ResolverProfile → β}
    (h : ((input.uniqueCandidates js env).map f).Nodup) :
    ((input.selected js env clock).map f).Nodup :=
  (((perm_shuffle _ _).map f).nodup_iff.mpr h).sublist ((List.take_sublist _ _).map f)

private theorem map_assignments {β : Type} {f : ResolverAssignment → β} {g : ResolverProfile → β}
    (hfg : ∀ i c, f (input.assignment js env clock i c) = g c) (cs : List ResolverProfile) :
    (cs.mapIdx (input.assignment js env clock)).map f = cs.map g := by
  apply List.ext_getElem
  · simp
  · intro i h _
    simp [hfg]

private theorem identityHash_assignments (cs : List ResolverProfile) :
    (cs.mapIdx (input.assignment js env clock)).map ResolverAssignment.identityHash =
      cs.map ResolverProfile.identityHash :=
  map_assignments (fun _ _ => rfl) cs

private theorem resolverId_assignments (cs : List ResolverProfile) :
    (cs.mapIdx (input.assignment js env clock)).map ResolverAssignment.resolverId =
      cs.map ResolverProfile.resolverId :=
  map_assignments (fun _ _ => rfl) cs

/-- A panel is made exactly where enough kept profiles pass the filters. -/
theorem exists_panel_iff : (∃ panel, selectDotCastResolverPanel js env clock input = .ok panel) ↔
    input.panelSize js env ≤ (input.uniqueCandidates js env).length := by
  have hlength := @length_selected js env clock input
  constructor
  · rintro ⟨panel, h⟩
    obtain ⟨_, henough, -⟩ := Except.bind_eq_ok.mp h
    have := Except.throwIf_eq_ok.mp henough
    omega
  · intro h
    unfold selectDotCastResolverPanel
    dsimp only
    rw [Except.throwIf_of_not _ (by omega), Except.bind_ok]
    exact ⟨_, rfl⟩

private theorem assignments_of_select {panel : ResolverPanel}
    (h : selectDotCastResolverPanel js env clock input = .ok panel) :
    panel.assignments = (input.selected js env clock).mapIdx (input.assignment js env clock) := by
  obtain ⟨_, -, hpanel⟩ := Except.bind_eq_ok.mp h
  obtain rfl := Except.ok.inj hpanel
  rfl

/-- With no more kept profiles than seats everyone of them is seated. -/
theorem selected_perm_of_le
    (h : ((input.uniqueCandidates js env).length : ℤ) ≤ input.panelSize js env) :
    (input.selected js env clock).Perm (input.uniqueCandidates js env) := by
  unfold selected
  rw [List.take_of_length_le]
  · exact perm_shuffle _ _
  · rw [(perm_shuffle _ _).length_eq]
    omega

/-! ## When a panel is sound -/

private theorem exists_selected_of_assignment {panel : ResolverPanel}
    (h : selectDotCastResolverPanel js env clock input = .ok panel) {a : ResolverAssignment}
    (ha : a ∈ panel.assignments) :
    ∃ i, ∃ c ∈ input.selected js env clock, input.assignment js env clock i c = a := by
  rw [assignments_of_select h] at ha
  obtain ⟨i, hi, rfl⟩ := List.mem_mapIdx.mp ha
  exact ⟨i, _, List.getElem_mem hi, rfl⟩

private theorem panelHolds_of_nothingHidden (h : input.NothingHidden js env) :
    input.PanelHolds js env clock := by
  constructor
  · intro panel hpanel
    have henough := exists_panel_iff.mp ⟨panel, hpanel⟩
    have hassignments := assignments_of_select hpanel
    constructor
    · refine ⟨?_, (odd_panelSize js env input).1⟩
      rw [hassignments, List.length_mapIdx, length_selected]
      omega
    · rw [hassignments, identityHash_assignments]
      exact nodup_map_selected (nodup_identity_uniqueCandidates js env input)
    · rw [hassignments, resolverId_assignments]
      exact nodup_map_selected (h.resolvers henough)
    · intro a ha
      obtain ⟨i, c, hc, rfl⟩ := exists_selected_of_assignment hpanel ha
      obtain ⟨hmem, -, -, hbond⟩ := mem_uniqueCandidates (mem_uniqueCandidates_of_selected hc)
      exact ⟨c, hmem, rfl, rfl, rfl, hbond⟩
    · intro a ha
      obtain ⟨i, c, hc, rfl⟩ := exists_selected_of_assignment hpanel ha
      exact h.untainted henough c (mem_uniqueCandidates_of_selected hc)
  · intro henough
    exact exists_panel_iff.mpr (h.eligible henough)

private theorem nothingHidden_of_panelHolds
    (hfull : ((input.uniqueCandidates js env).length : ℤ) ≤ input.panelSize js env)
    (h : input.PanelHolds js env clock) : input.NothingHidden js env := by
  have hperm := @selected_perm_of_le js env clock input hfull
  constructor
  · intro henough
    obtain ⟨panel, hpanel⟩ := exists_panel_iff.mpr henough
    have hresolvers := (h.sound panel hpanel).resolvers
    rw [assignments_of_select hpanel, resolverId_assignments] at hresolvers
    exact (hperm.map _).nodup_iff.mp hresolvers
  · intro henough c hc
    obtain ⟨panel, hpanel⟩ := exists_panel_iff.mpr henough
    have huntainted := (h.sound panel hpanel).untainted
    rw [assignments_of_select hpanel] at huntainted
    obtain ⟨i, hi, rfl⟩ := List.mem_iff_getElem.mp (hperm.mem_iff.mpr hc)
    exact huntainted (input.assignment js env clock i _) (List.mem_mapIdx.mpr ⟨i, hi, rfl⟩)
  · intro henough
    exact exists_panel_iff.mp (h.completes henough)

/-- Panels are sound and found wherever nothing is hidden by the profiles that were kept, and,
where the seats take everyone the filters let through, nowhere else. -/
theorem selectDotCastResolverPanel_holds (js : Runtime) (env : ResolutionRouterEnv)
    (clock : String) (input : SelectDotCastResolverPanelInput) :
    (input.NothingHidden js env → input.PanelHolds js env clock) ∧
    (((input.uniqueCandidates js env).length : ℤ) ≤ input.panelSize js env →
      (input.PanelHolds js env clock ↔ input.NothingHidden js env)) :=
  ⟨panelHolds_of_nothingHidden, fun hfull =>
    ⟨nothingHidden_of_panelHolds hfull, panelHolds_of_nothingHidden⟩⟩

def defaultEnv : ResolutionRouterEnv := ⟨none, none, none, none, none, none⟩

def panelRequest (candidates : List ResolverProfile) : SelectDotCastResolverPanelInput where
  poolId := "pool:1"
  route := ⟨⟨"route:1", "market:1", some "pool:1", .locked⟩, .humanJury, 50000, "t"⟩
  candidates := candidates
  positionUserIds := none
  estimatedStakeMinorUnits := none
  panelId := some "panel:1"
  now := some "t"

def threeResolvers : List ResolverProfile :=
  [⟨"r1", "alice", 9000, 50000, []⟩, ⟨"r2", "bob", 8000, 50000, []⟩,
    ⟨"r3", "carol", 8000, 50000, []⟩]

/-- Three resolvers without stakes make up a sound panel. -/
theorem selectDotCastResolverPanel_holds_threeResolvers :
    (panelRequest threeResolvers).PanelHolds (JavaScript.reference .double) defaultEnv "t" :=
  (selectDotCastResolverPanel_holds (JavaScript.reference .double) defaultEnv "t"
    (panelRequest threeResolvers)).1
      ⟨by decide +kernel, by decide +kernel, by decide +kernel⟩

/-- A second profile with a stake in the pool is forgotten before anyone looks at it, and a second
profile with the bond is forgotten as well. -/
theorem second_profile_forgotten :
    ¬(panelRequest (threeResolvers ++ [⟨"r4", "alice", 8000, 50000, ["pool:1"]⟩])).PanelHolds
      (JavaScript.reference .double) defaultEnv "t" ∧
    ¬(panelRequest [⟨"r1", "alice", 9000, 0, []⟩, ⟨"r4", "alice", 8000, 50000, []⟩,
        ⟨"r2", "bob", 8000, 50000, []⟩, ⟨"r3", "carol", 8000, 50000, []⟩]).PanelHolds
      (JavaScript.reference .double) defaultEnv "t" := by
  constructor
  · intro h
    have huntainted := (nothingHidden_of_panelHolds (by decide +kernel) h).untainted
      (by decide +kernel) ⟨"r1", "alice", 9000, 50000, []⟩ (by decide +kernel)
    exact absurd huntainted (by decide)
  · intro h
    have heligible := (nothingHidden_of_panelHolds (by decide +kernel) h).eligible
      (by decide +kernel)
    exact absurd heligible (by decide +kernel)

end Yevow.DotCast
