import Yevow.Models.DotCast.Resolution.Challenges

/-!
# The phases of a challenge request

Opening a challenge first makes sure of its bond and then inserts it. Deciding one reads it,
finalizes its bond unless that is final already, and then writes the decision. The phases
record how far a request is and what it knows of the bond.
-/

namespace Yevow.DotCast

open JavaScript (Runtime EndsPlain)

/-- The lock of a challenge's bond. -/
def challengeLockId (challengeId : String) : String := usdcBondLockId "challenge" challengeId

/-- How far a request is. An opening knows whether the bond is reserved, a decision of an
open challenge whether the bond is settled its way. -/
inductive ChallengePhase
  | opening (challenge : DotCastResolutionChallenge) (reserved : Bool)
  | reading (challengeId : String) (action : Option BondAction)
  | deciding (challengeId : String) (action : BondAction) (settled : Bool)
  | unbonded (challengeId : String)
  | finished

/-- Which calls to the funding store a phase makes. -/
def ChallengePhase.MayFund : ChallengePhase → FundingOp → Prop
  | opening c _, .getBondLock lockId => lockId = challengeLockId c.challengeId
  | opening c _, .insertBondLock l => l.lockId = challengeLockId c.challengeId ∧ l.status = .locked
  | deciding id _ _, .getBondLock lockId => lockId = challengeLockId id
  | deciding id action _, .updateBondLock l =>
    l.lockId = challengeLockId id ∧ l.status = action.status
  | opening _ _, .getBalance _ => True
  | opening _ _, .saveBalance _ => True
  | opening _ _, .appendEvent _ => True
  | deciding _ _ _, .getBalance _ => True
  | deciding _ _ _, .saveBalance _ => True
  | deciding _ _ _, .appendEvent _ => True
  | _, _ => False

/-- A decision of an open challenge finds the bond. -/
def ChallengePhase.ExpectsFunds : (k : ChallengePhase) → (op : FundingOp) →
    Except Fault op.Ret → Prop
  | deciding _ _ _, .getBondLock _, .ok none => False
  | deciding _ _ _, .getBondLock lockId, .ok (some l) => l.lockId = lockId
  | _, _, _ => True

/-- What the answers of the funding store lead to. -/
def ChallengePhase.fund : (k : ChallengePhase) → (op : FundingOp) → Except Fault op.Ret →
    ChallengePhase
  | opening c _, .getBondLock _, .ok (some _) => opening c true
  | opening c _, .insertBondLock _, .ok _ => opening c true
  | deciding id action settled, .getBondLock _, .ok (some l) =>
    deciding id action (settled || l.status != .locked)
  | deciding id action _, .updateBondLock _, .ok _ => deciding id action true
  | deciding id action settled, _, .ok _ => deciding id action settled
  | deciding _ _ _, _, .error _ => finished
  | k, _, _ => k

def fundingDiscipline : Discipline FundingOp FundingOp.Ret Fault ChallengePhase where
  may := ChallengePhase.MayFund
  expects := ChallengePhase.ExpectsFunds
  leads k op answer k' := k' = k.fund op answer

/-- Which calls to the two stores a phase makes. -/
def ChallengePhase.May : ChallengePhase → ChallengeOp → Prop
  | k, .funding op => k.MayFund op
  | opening c reserved, .insertResolutionChallenge c' =>
    c' = c ∧ (0 < c.bondMinorUnits → reserved = true)
  | reading id _, .getResolutionChallenge id' => id' = id
  | deciding id action settled, .updateResolutionChallenge c =>
    c.challengeId = id ∧ settled = true ∧ c.status ≠ .open ∧ c.status ≠ .withdrawn ∧
      c.status.bondAction = action
  | unbonded id, .updateResolutionChallenge c => c.challengeId = id
  | _, _ => False

def ChallengePhase.Expects : (k : ChallengePhase) → (op : ChallengeOp) →
    Except Fault op.Ret → Prop
  | k, .funding op, answer => k.ExpectsFunds op answer
  | reading id _, .getResolutionChallenge _, .ok (some c) => c.challengeId = id
  | _, _, _ => True

/-- What the answers of the two stores lead to. An open challenge with a bond is decided one
way; one without a bond is no matter of the funding store. -/
def ChallengePhase.Leads : (k : ChallengePhase) → (op : ChallengeOp) → Except Fault op.Ret →
    ChallengePhase → Prop
  | k, .funding op, answer, k' => k' = k.fund op answer
  | reading id action, .getResolutionChallenge _, .ok (some c), k' =>
    k' = finished ∨ (c.status = .open ∧
      ((0 < c.bondMinorUnits ∧ ∃ a, action = some a ∧ k' = deciding id a false) ∨
        ¬0 < c.bondMinorUnits ∧ k' = unbonded id))
  | _, _, _, k' => k' = finished

/-- What the calls of a challenge keep to. -/
def challengeDiscipline : Discipline ChallengeOp ChallengeOp.Ret Fault ChallengePhase where
  may := ChallengePhase.May
  expects := ChallengePhase.Expects
  leads := ChallengePhase.Leads

/-- A request may end while it opens a challenge, but not between reading an open challenge
and writing its decision. -/
def ChallengePhase.MayEnd : ChallengePhase → Except Fault Unit → Prop
  | opening _ _, _ => True
  | finished, _ => True
  | _, _ => False

/-! ## Lock ids -/

/-- A space is neither a digit nor a minus sign. -/
theorem not_digit_of_isSpace {c : Char} (h : JavaScript.isSpace c = true) :
    c.isDigit = false ∧ c ≠ '-' := by
  have hcode : c.toNat ≤ 32 ∨ 58 ≤ c.toNat := by
    simp only [JavaScript.isSpace, Bool.or_eq_true, Bool.and_eq_true, decide_eq_true_eq] at h
    omega
  constructor
  · by_contra hdigit
    simp only [Char.isDigit, Bool.not_eq_false, Bool.and_eq_true, decide_eq_true_eq, ge_iff_le,
      UInt32.le_iff_toNat_le] at hdigit
    have hval : c.toNat = c.val.toNat := rfl
    have hzero : '0'.val.toNat = 48 := rfl
    have hnine : '9'.val.toNat = 57 := rfl
    omega
  · rintro rfl
    revert hcode
    decide

private theorem endsPlain_toString (n : ℤ) : EndsPlain (toString n) := by
  have hne : (toString n).toList ≠ [] := by
    cases n with
    | ofNat n =>
      show n.repr.toList ≠ []
      rw [Nat.toList_repr]
      exact Nat.toDigits_ne_nil
    | negSucc n =>
      show ("-" ++ (n + 1).repr).toList ≠ []
      simp
  refine ⟨_, _, (List.dropLast_append_getLast hne).symm, ?_⟩
  have hmem := List.getLast_mem hne
  generalize (toString n).toList.getLast hne = c at hmem
  by_contra hspace
  obtain ⟨hdigit, hminus⟩ := not_digit_of_isSpace (by simpa using hspace)
  exact Text.free_toString hdigit hminus n hmem

/-- Trimming leaves the lock of a challenge as it is. -/
theorem trim_challengeLockId {id : String} (h : EndsPlain id) :
    JavaScript.trim (challengeLockId id) = challengeLockId id := by
  have hend : EndsPlain (challengeLockId id) := by
    unfold challengeLockId usdcBondLockId
    exact h.append _
  have hlist : (challengeLockId id).toList =
      'd' :: ("otcast:e13:usdc-bond:challenge:".toList ++ id.toList) := by
    unfold challengeLockId usdcBondLockId
    simp only [String.toList_append]
    rfl
  exact JavaScript.trim_eq_self hlist (by decide) hend

theorem challengeLockId_inj {id id' : String} (h : challengeLockId id = challengeLockId id') :
    id = id' := by
  unfold challengeLockId usdcBondLockId at h
  exact Text.append_left_inj h

/-! ## The requests keep to their phases -/

section Follows

open Program (Follows follows_perform_bind)

variable {js : Runtime} {env : UsdcPoolFundingEnv} {clock : String}

/-- What a reservation leaves: a returned one knows that the bond is reserved. -/
def Reserves (c : DotCastResolutionChallenge) {α : Type} (k : ChallengePhase)
    (result : Except Fault α) : Prop :=
  ∃ reserved, k = .opening c reserved ∧ ∀ a, result = .ok a → reserved = true

private theorem reserves_error {α : Type} (c : DotCastResolutionChallenge) (reserved : Bool)
    (e : Fault) :
    Reserves c (.opening c reserved) (.error e : Except Fault α) :=
  ⟨reserved, rfl, by simp⟩

private theorem reserves_ok {α : Type} (c : DotCastResolutionChallenge) (a : α) :
    Reserves c (.opening c true) (.ok a : Except Fault α) :=
  ⟨true, rfl, fun _ _ => rfl⟩

/-- Reading a balance tells an opening nothing. -/
theorem readBalance_follows_opening {α : Type} {c : DotCastResolutionChallenge} {reserved : Bool}
    {ownerId now : String} {f : SettlementBalance → Funding α}
    (hf : ∀ balance, (f balance).Follows fundingDiscipline (Reserves c) (.opening c reserved)) :
    (readSettlementBalance ownerId now >>= f).Follows fundingDiscipline (Reserves c)
      (.opening c reserved) := by
  unfold readSettlementBalance
  rw [Program.bind_assoc]
  apply follows_perform_bind trivial
  · exact fun stored _ => ⟨_, rfl, hf _⟩
  · exact fun e _ => ⟨_, rfl, reserves_error c reserved e⟩

private theorem makeBond_follows {c : DotCastResolutionChallenge}
    {checked : CheckedBond} {now : String}
    (hlock : checked.lockId = challengeLockId c.challengeId) :
    (makeBond js checked (challengeBond c) now).Follows fundingDiscipline (Reserves c)
      (.opening c false) := by
  unfold makeBond
  apply readBalance_follows_opening
  intro balance
  split_ifs
  · exact reserves_error c false _
  apply follows_perform_bind
  · exact ⟨hlock, rfl⟩
  · intro _ _
    refine ⟨.opening c true, rfl, ?_⟩
    apply follows_perform_bind trivial
    · intro _ _
      refine ⟨.opening c true, rfl, ?_⟩
      apply follows_perform_bind trivial
      · exact fun _ _ => ⟨_, rfl, reserves_ok c _⟩
      · exact fun e _ => ⟨_, rfl, reserves_error c true e⟩
    · exact fun e _ => ⟨_, rfl, reserves_error c true e⟩
  · exact fun e _ => ⟨_, rfl, reserves_error c false e⟩

private theorem reuseBond_follows {c : DotCastResolutionChallenge} {checked : CheckedBond}
    {existing : BondLock} {input : ReserveUsdcBondInput} {now : String} :
    (reuseBond checked existing input now).Follows fundingDiscipline (Reserves c)
      (.opening c true) := by
  unfold reuseBond
  split_ifs
  · exact reserves_error c true _
  · exact reserves_error c true _
  · exact readBalance_follows_opening fun balance => reserves_ok c _

/-- A reservation for a challenge returns only if the bond is reserved. -/
theorem reserveUsdcBond_follows {c : DotCastResolutionChallenge} (hid : EndsPlain c.challengeId) :
    (reserveUsdcBond js env clock (challengeBond c)).Follows fundingDiscipline (Reserves c)
      (.opening c false) := by
  unfold reserveUsdcBond
  rcases hcheck : checkBond js env (challengeBond c) with e | checked
  · exact reserves_error c false e
  have hlock : checked.lockId = challengeLockId c.challengeId := by
    unfold checkBond at hcheck
    obtain ⟨_, -, hcheck⟩ := Except.bind_eq_ok.mp hcheck
    obtain ⟨lockId, htext, hcheck⟩ := Except.bind_eq_ok.mp hcheck
    obtain ⟨_, -, hcheck⟩ := Except.bind_eq_ok.mp hcheck
    obtain ⟨_, -, hcheck⟩ := Except.bind_eq_ok.mp hcheck
    obtain rfl := Except.ok.inj hcheck
    exact (requireText_eq_ok.mp htext).2.symm.trans (trim_challengeLockId hid)
  apply follows_perform_bind hlock
  · intro found _
    cases found with
    | none => exact ⟨_, rfl, makeBond_follows hlock⟩
    | some existing => exact ⟨_, rfl, reuseBond_follows⟩
  · exact fun e _ => ⟨_, rfl, reserves_error c false e⟩

/-- What a settlement leaves: a returned one knows that the bond is settled its way. -/
def Settles (id : String) (action : BondAction) {α : Type} (k : ChallengePhase) :
    Except Fault α → Prop
  | .ok _ => k = .deciding id action true
  | .error _ => k = .finished

/-- Reading a balance tells a decision nothing. -/
theorem readBalance_follows_deciding {α : Type} {id : String} {action : BondAction}
    {settled : Bool} {ownerId now : String} {f : SettlementBalance → Funding α}
    (hf : ∀ balance, (f balance).Follows fundingDiscipline (Settles id action)
      (.deciding id action settled)) :
    (readSettlementBalance ownerId now >>= f).Follows fundingDiscipline (Settles id action)
      (.deciding id action settled) := by
  unfold readSettlementBalance
  rw [Program.bind_assoc]
  apply follows_perform_bind trivial
  · exact fun stored _ => ⟨_, rfl, hf _⟩
  · exact fun e _ => ⟨_, rfl, rfl⟩

private theorem settleBondLock_follows {id : String} (input : SettleUsdcBondInput) {lock : BondLock}
    (now : String) (hlock : lock.lockId = challengeLockId id)
    (hcredit : input.creditMinorUnits = none) :
    (settleBondLock js lock input now).Follows fundingDiscipline (Settles id input.action)
      (.deciding id input.action (lock.status != .locked)) := by
  unfold settleBondLock
  split_ifs with hstatus
  · apply readBalance_follows_deciding
    intro balance
    show _ = _
    rw [bne_iff_ne.mpr hstatus]
  · have hzero : assertNonNegativeAmount js "INVALID_USDC_BOND_AMOUNT"
        (input.creditMinorUnits.getD 0)
        "creditMinorUnits must be a non-negative integer minor-unit amount" = .ok () := by
      rw [hcredit]
      exact Except.throwIf_of_not _ (by
        rintro (hsafe | hneg)
        · rw [js.arithmetic.safe_of_abs_le (by decide)] at hsafe
          contradiction
        · exact absurd hneg (by decide))
    simp only [hzero, Program.ok_bind]
    apply readBalance_follows_deciding
    intro balance
    apply follows_perform_bind
    · exact ⟨hlock, rfl⟩
    · intro _ _
      refine ⟨.deciding id input.action true, rfl, ?_⟩
      apply follows_perform_bind trivial
      · intro _ _
        refine ⟨.deciding id input.action true, rfl, ?_⟩
        apply follows_perform_bind trivial
        · exact fun _ _ => ⟨_, rfl, rfl⟩
        · exact fun e _ => ⟨_, rfl, rfl⟩
      · exact fun e _ => ⟨_, rfl, rfl⟩
    · exact fun e _ => ⟨_, rfl, rfl⟩

/-- A settlement throws before its first call, or it returns only if the bond is settled. -/
theorem settleUsdcBond_follows {c : DotCastResolutionChallenge} (hid : EndsPlain c.challengeId) :
    (∃ e, settleUsdcBond js env clock (challengeBondSettlement c) = .done (.error e)) ∨
      (settleUsdcBond js env clock (challengeBondSettlement c)).Follows fundingDiscipline
        (Settles c.challengeId c.status.bondAction)
        (.deciding c.challengeId c.status.bondAction false) := by
  unfold settleUsdcBond
  rcases hcheck : checkBondSettlement js env (challengeBondSettlement c) with e | lockId
  · exact Or.inl ⟨e, rfl⟩
  have hlock : lockId = challengeLockId c.challengeId := by
    unfold checkBondSettlement at hcheck
    obtain ⟨_, -, htext⟩ := Except.bind_eq_ok.mp hcheck
    exact (requireText_eq_ok.mp htext).2.symm.trans (trim_challengeLockId hid)
  refine Or.inr ?_
  apply follows_perform_bind hlock
  · intro found hfound
    cases found with
    | none => exact absurd hfound id
    | some lock =>
      exact ⟨_, rfl, settleBondLock_follows (challengeBondSettlement c) _
        (Eq.trans hfound hlock) rfl⟩
  · exact fun e _ => ⟨_, rfl, rfl⟩

/-! ### Whole requests -/

private theorem embed_follows {α : Type}
    {p : Funding α} {post : ChallengePhase → Except Fault α → Prop}
    {k : ChallengePhase} (hp : p.Follows fundingDiscipline post k) :
    (Challenging.funding p).Follows challengeDiscipline post k := by
  have hmap : ∀ (op : FundingOp) (answer : Except Fault op.Ret),
      answer.map (fun a => a) = answer := by
    intro op answer
    cases answer <;> rfl
  apply hp.embed
  · exact fun k op hmay => hmay
  · intro k op answer hexpects
    rw [hmap]
    exact hexpects
  · intro k op answer k' hk'
    rw [hmap] at hk'
    exact hk'

variable {host : ChallengeHost}

/-- The first phase of a request to open. -/
def OpenChallengeRequest.phase (js : Runtime) (host : ChallengeHost)
    (request : OpenChallengeRequest) : ChallengePhase :=
  match request.challenge js host.toISOString host.clock with
  | .ok c => .opening c false
  | .error _ => .finished

/-- What a decision does with the bond. -/
def DecideChallengeRequest.bondAction (request : DecideChallengeRequest) : Option BondAction :=
  match request.action with
  | .ok action => some (challengeStatusForDecision action).bondAction
  | .error _ => none

/-- The first phase of a request to decide. -/
def DecideChallengeRequest.phase (request : DecideChallengeRequest) : ChallengePhase :=
  match Gateway.parseRequiredString request.challengeId "challengeId" with
  | .ok id => .reading id request.bondAction
  | .error _ => .finished

private theorem Gateway.parseRequiredString_eq_ok {value : Option String} {label text : String}
    (h : Gateway.parseRequiredString value label = .ok text) : EndsPlain text := by
  unfold Gateway.parseRequiredString at h
  split at h
  · split_ifs at h with hne
    obtain rfl := Except.ok.inj h
    exact JavaScript.endsPlain_trim hne
  · contradiction

private theorem Gateway.parseOptionalString_eq_ok {value : Option String} {label text : String}
    (h : Gateway.parseOptionalString value label = .ok (some text)) : EndsPlain text := by
  unfold Gateway.parseOptionalString at h
  split at h
  · split_ifs at h with hne
    obtain rfl := Option.some.inj (Except.ok.inj h)
    exact JavaScript.endsPlain_trim hne
  · simp at h

private theorem endsPlain_dateText (value : String) : EndsPlain (dateText js value) := by
  unfold dateText
  split
  · exact endsPlain_toString _
  · exact ⟨['N', 'a'], 'N', rfl, by decide⟩

private theorem openDotCastResolutionChallenge_eq_ok {toISOString : ℤ → Except Fault String}
    {input : OpenDotCastResolutionChallengeInput} {c : DotCastResolutionChallenge}
    (hid : ∀ id, input.challengeId = some id → EndsPlain id)
    (h : openDotCastResolutionChallenge js toISOString clock input = .ok c) :
    EndsPlain c.challengeId ∧ c.status = .open := by
  unfold openDotCastResolutionChallenge at h
  cases hnow : js.dateParse (input.now.getD clock) with
  | none => simp [hnow] at h
  | some openedAtMs =>
    simp only [hnow, Except.bind_eq_ok, Except.throwIf_eq_ok, Except.pure_eq_ok,
      Except.ok.injEq] at h
    obtain ⟨_, -, _, -, _, -, _, -, challengerId, -, _, -, _, -, rfl⟩ := h
    refine ⟨?_, rfl⟩
    cases hgiven : input.challengeId with
    | none => exact (endsPlain_dateText _).append _
    | some id => exact hid id hgiven

/-- A challenge is opened with an id that ends with no space, and it is open. -/
theorem challenge_eq_ok {request : OpenChallengeRequest} {c : DotCastResolutionChallenge}
    (h : request.challenge js host.toISOString host.clock = .ok c) :
    EndsPlain c.challengeId ∧ c.status = .open := by
  unfold OpenChallengeRequest.challenge at h
  obtain ⟨route, -, h⟩ := Except.bind_eq_ok.mp h
  obtain ⟨challengerId, -, h⟩ := Except.bind_eq_ok.mp h
  obtain ⟨reason, -, h⟩ := Except.bind_eq_ok.mp h
  obtain ⟨bondMinorUnits, -, h⟩ := Except.bind_eq_ok.mp h
  obtain ⟨challengeId, hid, h⟩ := Except.bind_eq_ok.mp h
  obtain ⟨windowSeconds, -, h⟩ := Except.bind_eq_ok.mp h
  obtain ⟨now, -, h⟩ := Except.bind_eq_ok.mp h
  refine openDotCastResolutionChallenge_eq_ok (fun id hsome => ?_) h
  obtain rfl : challengeId = some id := hsome
  exact Gateway.parseOptionalString_eq_ok hid

private theorem open_follows (request : OpenChallengeRequest) :
    (openDotCastResolutionChallengeRoute js host request).Follows challengeDiscipline
      ChallengePhase.MayEnd (request.phase js host) := by
  unfold openDotCastResolutionChallengeRoute OpenChallengeRequest.phase
  rcases hopen : request.challenge js host.toISOString host.clock with e | c
  · exact trivial
  have hinsert : ∀ reserved : Bool, (0 < c.bondMinorUnits → reserved = true) →
      (Challenging.insertResolutionChallenge c).Follows challengeDiscipline
        ChallengePhase.MayEnd (.opening c reserved) :=
    fun reserved hreserved => ⟨⟨rfl, hreserved⟩, fun _ _ => ⟨.finished, rfl, trivial⟩⟩
  obtain ⟨hid, -⟩ := challenge_eq_ok hopen
  simp only [Program.ok_bind]
  split_ifs with hbond
  · apply Follows.bind
    refine (embed_follows (reserveUsdcBond_follows hid)).mono fun k result hresult => ?_
    obtain ⟨reserved, rfl, hreserved⟩ := hresult
    cases result with
    | ok a => exact hinsert reserved fun _ => hreserved a rfl
    | error e => exact trivial
  · exact hinsert false fun h => absurd h hbond

private theorem bondAction_ne_open (action : ChallengeDecisionAction) :
    challengeStatusForDecision action ≠ .open ∧
      challengeStatusForDecision action ≠ .withdrawn := by
  cases action <;> decide

private theorem decideDotCastResolutionChallenge_eq_ok
    {input : DecideDotCastResolutionChallengeInput}
    {c : DotCastResolutionChallenge}
    (h : decideDotCastResolutionChallenge js clock input = .ok c) :
    input.challenge.status = .open ∧ c.challengeId = input.challenge.challengeId ∧
      c.bondMinorUnits = input.challenge.bondMinorUnits ∧
      c.status = challengeStatusForDecision input.action := by
  unfold decideDotCastResolutionChallenge at h
  simp only [Except.bind_eq_ok, Except.throwIf_eq_ok, Except.pure_eq_ok, Except.ok.injEq] at h
  obtain ⟨_, hopen, _, -, rfl⟩ := h
  exact ⟨not_not.mp hopen, rfl, rfl, rfl⟩

/-- What is left of a decision once it has computed the decided challenge. -/
theorem decided_follows (js : Runtime) (host : ChallengeHost)
    {existing c : DotCastResolutionChallenge} {id : String}
    {action : ChallengeDecisionAction} (hid : EndsPlain id) (hexisting : existing.challengeId = id)
    (hopen : existing.status = .open) (hcid : c.challengeId = existing.challengeId)
    (hbond : c.bondMinorUnits = existing.bondMinorUnits)
    (hstatus : c.status = challengeStatusForDecision action) :
    ∃ k', (k' = .finished ∨ (existing.status = .open ∧
        ((0 < existing.bondMinorUnits ∧ ∃ a,
          some (challengeStatusForDecision action).bondAction = some a ∧
            k' = .deciding id a false) ∨
          ¬0 < existing.bondMinorUnits ∧ k' = .unbonded id))) ∧
      (if c.bondMinorUnits > 0 then do
        let _ ← Challenging.funding
          (settleUsdcBond js host.env host.clock (challengeBondSettlement c))
        Challenging.updateResolutionChallenge c
      else Challenging.updateResolutionChallenge c).Follows challengeDiscipline
        ChallengePhase.MayEnd k' := by
  have hkey : c.challengeId = id := hcid.trans hexisting
  obtain ⟨hne, hne'⟩ := bondAction_ne_open action
  split_ifs with hpositive
  · rw [hbond] at hpositive
    rcases settleUsdcBond_follows (hkey ▸ hid) with ⟨e, hfail⟩ | hfollows
    · refine ⟨.finished, Or.inl rfl, ?_⟩
      rw [hfail]
      exact trivial
    · refine ⟨.deciding id c.status.bondAction false, Or.inr ⟨hopen, Or.inl ⟨hpositive, _,
        congrArg some (congrArg _ hstatus.symm), rfl⟩⟩, ?_⟩
      apply Follows.bind
      rw [hkey] at hfollows
      refine (embed_follows hfollows).mono fun k result hresult => ?_
      cases result with
      | ok a =>
        obtain rfl := hresult
        exact ⟨⟨hkey, rfl, hstatus ▸ hne, hstatus ▸ hne', rfl⟩,
          fun _ _ => ⟨.finished, rfl, trivial⟩⟩
      | error e =>
        obtain rfl := hresult
        exact trivial
  · rw [hbond] at hpositive
    exact ⟨.unbonded id, Or.inr ⟨hopen, Or.inr ⟨hpositive, rfl⟩⟩, hkey,
      fun _ _ => ⟨.finished, rfl, trivial⟩⟩

private theorem decide_follows (request : DecideChallengeRequest) :
    (decideDotCastResolutionChallengeRoute js host request).Follows challengeDiscipline
      ChallengePhase.MayEnd request.phase := by
  unfold decideDotCastResolutionChallengeRoute DecideChallengeRequest.phase
  rcases hparse : Gateway.parseRequiredString request.challengeId "challengeId" with e | id
  · exact trivial
  have hid := Gateway.parseRequiredString_eq_ok hparse
  apply follows_perform_bind
  · exact rfl
  · intro found hfound
    cases found with
    | none => exact ⟨.finished, rfl, trivial⟩
    | some existing =>
      have hended : ∀ e : Fault, ∃ k', challengeDiscipline.leads (.reading id request.bondAction)
          (.getResolutionChallenge id) (.ok (some existing)) k' ∧
            (Program.done (.error e) : Challenging Unit).Follows challengeDiscipline
              ChallengePhase.MayEnd k' :=
        fun e => ⟨.finished, Or.inl rfl, trivial⟩
      rcases haction : request.action with e | action
      · exact hended e
      rcases hby : Gateway.parseOptionalString request.decisionBy "decisionBy" with e | by_
      · exact hended e
      rcases hnow : Gateway.parseOptionalString request.now "now" with e | now
      · exact hended e
      simp only [Program.ok_bind]
      rcases hdecide : decideDotCastResolutionChallenge js host.clock
        { challenge := existing, action := action, decisionBy := by_, now := now } with e | c
      · exact hended e
      obtain ⟨hopen, hcid, hbond, hstatus⟩ := decideDotCastResolutionChallenge_eq_ok hdecide
      obtain ⟨k', hk', hfollows⟩ :=
        decided_follows js host hid hfound hopen hcid hbond hstatus
      have hbondAction : request.bondAction =
          some (challengeStatusForDecision action).bondAction := by
        unfold DecideChallengeRequest.bondAction
        rw [haction]
      rw [← hbondAction] at hk'
      exact ⟨k', hk', hfollows⟩
  · exact fun e _ => ⟨.finished, rfl, trivial⟩

/-- The first phase of a request. -/
def ChallengeRequest.phase (js : Runtime) (host : ChallengeHost) :
    ChallengeRequest → ChallengePhase
  | .open request => request.phase js host
  | .decide request => request.phase

theorem program_follows (js : Runtime) (host : ChallengeHost) (request : ChallengeRequest) :
    (request.program js host).Follows challengeDiscipline ChallengePhase.MayEnd
      (request.phase js host) := by
  cases request with
  | «open» request => exact open_follows request
  | decide request => exact decide_follows request

end Follows

end Yevow.DotCast
