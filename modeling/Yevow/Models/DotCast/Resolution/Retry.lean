import Yevow.Core.Effect.Interruption
import Yevow.Models.DotCast.Resolution.BondLedger

/-!
# Calling again after a fault

A call throws, and the operation is called again until it succeeds. A loop makes up for that where
rounds that are done have nothing left to do and the round that was struck does all of its work.
-/

namespace Yevow.DotCast

open JavaScript (Runtime)
open Program (run Struck Retried)

variable {js : Runtime} {s s' t : ResolverStore} {fault : Fault} {op : ResolverOp}

/-! ## Outcomes -/

/-- Payouts, statuses, bonds and reputations are the same. -/
structure ResolverStore.SameOutcome (s s' : ResolverStore) : Prop where
  payouts : s'.payouts = s.payouts
  statuses : ∀ id, (s'.assignments.get? id).map ResolverAssignment.status =
    (s.assignments.get? id).map ResolverAssignment.status
  bonds : ∀ resolverId, s'.bondAvailable resolverId = s.bondAvailable resolverId
  bondLedger : s'.bondLedger = s.bondLedger
  reputations : ∀ resolverId,
    (s'.profiles.get? resolverId).map ResolverRegistryProfile.reputationBps =
      (s.profiles.get? resolverId).map ResolverRegistryProfile.reputationBps
  reputationEvents : s'.reputationEvents = s.reputationEvents

private theorem ResolverStore.SameOutcome.refl (s : ResolverStore) : s.SameOutcome s :=
  ⟨rfl, fun _ => rfl, fun _ => rfl, rfl, fun _ => rfl, rfl⟩

/-- Calling again until it succeeds, from the state a fault left, has the outcome of one run. -/
def MadeUp (js : Runtime) (program : Resolving Unit) (s t : ResolverStore) : Prop :=
  ∃ u, Retried (resolverHandler js) program t u ∧
    (run (resolverHandler js) program s).2.SameOutcome u

theorem madeUp_of_run {program : Resolving Unit}
    (hrun : run (resolverHandler js) program s = (.ok (), s'))
    (hagain : run (resolverHandler js) program t = (.ok (), s')) : MadeUp js program s t := by
  refine ⟨s', .success hagain, ?_⟩
  rw [hrun]
  exact .refl s'

/-! ## Programs that pass faults on -/

section Programs

open Program (propagates_perform)

variable (js : Runtime)

theorem propagates_when {condition : Prop} [Decidable condition] {body : Resolving Unit}
    (h : body.Propagates) : (Resolving.when condition body).Propagates := by
  unfold Resolving.when
  split_ifs
  · exact h
  · trivial

theorem propagates_applyResolverBondDelta (d : BondDelta) :
    (applyResolverBondDelta js d).Propagates := by
  unfold applyResolverBondDelta
  refine (propagates_perform _).bind fun posted => ?_
  cases posted with
  | true => trivial
  | false =>
    refine (propagates_perform _).bind fun profile => ?_
    cases profile with
    | none => trivial
    | some p =>
      simp only
      split_ifs
      · trivial
      · exact (propagates_perform _).bind fun _ => propagates_perform _

end Programs

/-! ## Loops -/

/-- What a loop needs for a second run to make up for a fault in the first: a round that is done
with has nothing left to do, and a round that was struck at a safe call does all of its work. -/
structure Resolving.Resumable {β : Type} (js : Runtime) (fault : Fault) (body : β → Resolving Unit)
    (bs : List β) (settled : β → ResolverStore → Prop) (safe : ResolverOp → Prop) : Prop where
  propagates : ∀ b, (body b).Propagates
  idle : ∀ b ∈ bs, ∀ s, settled b s → run (resolverHandler js) (body b) s = (.ok (), s)
  settles : ∀ b ∈ bs, ∀ s s', run (resolverHandler js) (body b) s = (.ok (), s') → settled b s'
  keeps : ∀ b ∈ bs, ∀ c ∈ bs, ∀ s s', settled b s →
    run (resolverHandler js) (body c) s = (.ok (), s') → settled b s'
  keepsStruck : ∀ b ∈ bs, ∀ c ∈ bs, ∀ s op t, settled b s →
    Struck (resolverHandler js) fault (body c) s op t → settled b t
  retries : ∀ b ∈ bs, ∀ s s' op t, run (resolverHandler js) (body b) s = (.ok (), s') →
    Struck (resolverHandler js) fault (body b) s op t → safe op →
      run (resolverHandler js) (body b) t = (.ok (), s')

section Loops

variable {β : Type} {body : β → Resolving Unit} {b : β} {rest bs : List β}

theorem run_forEach_cons_eq_ok
    (h : run (resolverHandler js) (Resolving.forEach body (b :: rest)) s = (.ok (), s')) :
    ∃ t, run (resolverHandler js) (body b) s = (.ok (), t) ∧
      run (resolverHandler js) (Resolving.forEach body rest) t = (.ok (), s') := by
  rw [run_forEach_cons] at h
  rcases hrun : run (resolverHandler js) (body b) s with ⟨result, t⟩
  rw [hrun] at h
  cases result with
  | error e => cases (Prod.mk.inj h).1
  | ok u => exact ⟨t, rfl, h⟩

private theorem run_forEach_cons_of_ok {t : ResolverStore}
    (h : run (resolverHandler js) (body b) s = (.ok (), t)) :
    run (resolverHandler js) (Resolving.forEach body (b :: rest)) s =
      run (resolverHandler js) (Resolving.forEach body rest) t := by
  rw [run_forEach_cons, h]

/-- A fault in a loop strikes its first round, or the rest of it after that round. -/
theorem struck_forEach_cons {u : ResolverStore} (hpropagates : (body b).Propagates)
    (hrun : run (resolverHandler js) (body b) s = (.ok (), u))
    (hstruck : Struck (resolverHandler js) fault (Resolving.forEach body (b :: rest)) s op t) :
    Struck (resolverHandler js) fault (body b) s op t ∨
      Struck (resolverHandler js) fault (Resolving.forEach body rest) u op t := by
  rcases hstruck.bind hpropagates with hfirst | ⟨_, s', hfirst, hrest⟩
  · exact Or.inl hfirst
  · rw [hrun] at hfirst
    rw [(Prod.mk.inj hfirst).2]
    exact Or.inr hrest

private theorem Resolving.Resumable.run_suffix {settled : β → ResolverStore → Prop}
    {safe : ResolverOp → Prop} (h : Resolving.Resumable js fault body bs settled safe)
    {cs : List β} (hcs : ∀ c ∈ cs, c ∈ bs)
    (hrun : run (resolverHandler js) (Resolving.forEach body cs) s = (.ok (), s'))
    (hstruck : Struck (resolverHandler js) fault (Resolving.forEach body cs) s op t)
    (hsafe : safe op) :
    run (resolverHandler js) (Resolving.forEach body cs) t = (.ok (), s') ∧
      ∀ b ∈ bs, settled b s → settled b t := by
  induction cs generalizing s with
  | nil => exact absurd hstruck Program.not_struck_done
  | cons c cs ih =>
    have hc := hcs c List.mem_cons_self
    obtain ⟨u, hround, hrest⟩ := run_forEach_cons_eq_ok hrun
    rcases struck_forEach_cons (h.propagates c) hround hstruck with hfirst | hlater
    · refine ⟨?_, fun b hb hs => h.keepsStruck b hb c hc s op t hs hfirst⟩
      rw [run_forEach_cons_of_ok (h.retries c hc s u op t hround hfirst hsafe), hrest]
    · obtain ⟨hagain, hkept⟩ := ih (fun d hd => hcs d (List.mem_cons_of_mem c hd)) hrest hlater
      refine ⟨?_, fun b hb hs => hkept b hb (h.keeps b hb c hc s u hs hround)⟩
      rw [run_forEach_cons_of_ok (h.idle c hc _ (hkept c hc (h.settles c hc s u hround))), hagain]

/-- A second run of a resumable loop makes up for a fault at a safe call. -/
theorem Resolving.Resumable.run_forEach {settled : β → ResolverStore → Prop}
    {safe : ResolverOp → Prop} (h : Resolving.Resumable js fault body bs settled safe)
    (hrun : run (resolverHandler js) (Resolving.forEach body bs) s = (.ok (), s'))
    (hstruck : Struck (resolverHandler js) fault (Resolving.forEach body bs) s op t)
    (hsafe : safe op) : run (resolverHandler js) (Resolving.forEach body bs) t = (.ok (), s') :=
  (h.run_suffix (fun _ hb => hb) hrun hstruck hsafe).1

end Loops

end Yevow.DotCast
