import Mathlib.Algebra.Order.Floor.Ring
import Mathlib.Tactic.Linarith
import Mathlib.Tactic.Positivity
import Yevow.Models.Cascade.PositionManager

/-!
# What a tick closes

Where nothing is rounded, the intents of a tick add up to what the position loses by it. Only a
rest that is too small to be held on is dropped without an intent.
-/

namespace Yevow.Cascade

/-- An ordered field, where nothing is rounded. -/
def CascadeArithmetic.unrounded (N : Type) [Field N] [LinearOrder N] [FloorRing N] :
    CascadeArithmetic N N where
  number := id
  toFixed := id
  lt a b := a < b
  le a b := a ≤ b
  add a b := a + b
  sub a b := a - b
  mul a b := a * b
  div a b := a / b
  max a b := a ⊔ b
  mathRound a := ⌊a + 1 / 2⌋
  literal n := n
  priceToFixed := id

open CascadeArithmetic (unrounded)

variable {N : Type} [Field N] [LinearOrder N]

/-- The size that intents close. -/
def closedSize (intents : List (CascadePositionIntent N N)) : N :=
  ((intents.filter fun intent => intent.kind = .close ∧ 0 < intent.size).map
    CascadePositionIntent.size).sum

@[simp] theorem closedSize_nil : closedSize ([] : List (CascadePositionIntent N N)) = 0 := rfl

private theorem closedSize_append (intents later : List (CascadePositionIntent N N)) :
    closedSize (intents ++ later) = closedSize intents + closedSize later := by
  simp only [closedSize, List.filter_append, List.map_append, List.sum_append]

variable [FloorRing N]

/-- What of a position is still held: its size as long as it is open. -/
def live (position : CascadeOpenPosition N N) : N :=
  if isOpen (unrounded N) position then position.remainingSize else 0

section Tick

variable (dateParse : String → Option ℤ) (tick : PositionManagerTick N)
  (position : CascadeOpenPosition N N)

/-- A position once a tick has taken its targets and moved its stop. -/
def beforeSettling : CascadeOpenPosition N N :=
  (((takeFirstTarget (unrounded N) dateParse tick position).andThen
    (takeSecondTarget (unrounded N) dateParse tick)).andThen
      (trailStop (unrounded N) dateParse tick)).position

/-- The rest of a position that is closed without an intent. -/
def dropped : N :=
  let rest := beforeSettling dateParse tick position
  if position.instrumentCode ≠ tick.instrumentCode || !isOpen (unrounded N) position ||
      stopHit (unrounded N) position tick.price ||
      (timeIsUp dateParse rest tick.observedAt && !hasReachedOneR (unrounded N) rest tick.price)
  then 0
  else if rest.remainingSize ≤ epsilon (unrounded N) then rest.remainingSize else 0

end Tick

/-- What no tick changes about a position. -/
structure SameEntry (position next : CascadeOpenPosition N N) : Prop where
  positionId : next.positionId = position.positionId
  signalId : next.signalId = position.signalId
  instrumentCode : next.instrumentCode = position.instrumentCode
  direction : next.direction = position.direction
  entryPrice : next.entryPrice = position.entryPrice

omit [Field N] [LinearOrder N] [FloorRing N] in
private theorem SameEntry.refl (position : CascadeOpenPosition N N) : SameEntry position position :=
  ⟨rfl, rfl, rfl, rfl, rfl⟩

omit [Field N] [LinearOrder N] [FloorRing N] in
private theorem SameEntry.trans {position next last : CascadeOpenPosition N N}
    (h : SameEntry position next) (h' : SameEntry next last) : SameEntry position last where
  positionId := h'.positionId.trans h.positionId
  signalId := h'.signalId.trans h.signalId
  instrumentCode := h'.instrumentCode.trans h.instrumentCode
  direction := h'.direction.trans h.direction
  entryPrice := h'.entryPrice.trans h.entryPrice

variable [IsStrictOrderedRing N]

omit [IsStrictOrderedRing N] in
@[simp] theorem epsilon_unrounded : epsilon (unrounded N) = 1 / 10 ^ 9 := rfl

omit [IsStrictOrderedRing N] in
private theorem roundSize_unrounded {size : N} (h : 0 ≤ size) :
    roundSize (unrounded N) size = size :=
  max_eq_right h

omit [IsStrictOrderedRing N] in
/-- Without rounding a position is open above a billionth. -/
theorem isOpen_unrounded {position : CascadeOpenPosition N N} :
    isOpen (unrounded N) position = true ↔
      1 / 10 ^ 9 < position.remainingSize ∧ position.status.isClosed = false := by
  rw [isOpen, Bool.and_eq_true, decide_eq_true_eq, Bool.not_eq_true', epsilon_unrounded]

private theorem pos_of_isOpen {position : CascadeOpenPosition N N}
    (h : isOpen (unrounded N) position = true) : 0 < position.remainingSize := by
  have hepsilon : (0 : N) < 1 / 10 ^ 9 := by positivity
  exact hepsilon.trans (isOpen_unrounded.mp h).1

/-- No position is live with less than nothing. -/
theorem live_nonneg (position : CascadeOpenPosition N N) : 0 ≤ live position := by
  unfold live
  split_ifs with h
  · exact (pos_of_isOpen h).le
  · exact le_rfl

/-- Nothing is live of a position that is not open. -/
theorem live_eq_zero_iff {position : CascadeOpenPosition N N} :
    live position = 0 ↔ isOpen (unrounded N) position = false := by
  unfold live
  split_ifs with h
  · simp only [(pos_of_isOpen h).ne', h, Bool.true_eq_false]
  · simp only [Bool.not_eq_true] at h
    simp only [h]

/-- Intents that add up to what a position loses. -/
structure Pays (position : CascadeOpenPosition N N) (update : PositionManagerUpdate N N) :
    Prop where
  sameEntry : SameEntry position update.position
  isClosed : update.position.status.isClosed = true → position.status.isClosed = true
  nonneg : 0 ≤ update.position.remainingSize
  size : update.position.remainingSize + closedSize update.intents = position.remainingSize

omit [FloorRing N] [IsStrictOrderedRing N] in
private theorem Pays.unchanged {position : CascadeOpenPosition N N}
    (h : 0 ≤ position.remainingSize) :
    Pays position ⟨position, []⟩ :=
  ⟨SameEntry.refl position, id, h, by rw [closedSize_nil, add_zero]⟩

omit [FloorRing N] in
private theorem Pays.andThen {position : CascadeOpenPosition N N}
    {update : PositionManagerUpdate N N}
    {step : CascadeOpenPosition N N → PositionManagerUpdate N N} (h : Pays position update)
    (h' : Pays update.position (step update.position)) : Pays position (update.andThen step) where
  sameEntry := h.sameEntry.trans h'.sameEntry
  isClosed := fun hclosed => h.isClosed (h'.isClosed hclosed)
  nonneg := h'.nonneg
  size := by
    have hsize := h.size
    have hsize' := h'.size
    show (step update.position).position.remainingSize +
      closedSize (update.intents ++ (step update.position).intents) = _
    rw [closedSize_append]
    linarith

section Tick

variable {dateParse : String → Option ℤ} {tick : PositionManagerTick N}
  {position : CascadeOpenPosition N N}

omit [IsStrictOrderedRing N] in
/-- The intent to close the rest of a position. -/
theorem closedSize_closeIntent (price : N) (observedAt : String) {size : N}
    (hsize : 0 ≤ size) (hle : size ≤ position.remainingSize) (closeReason : CascadeCloseReason)
    (style : ExecutionStyle) :
    closedSize [closeIntent (unrounded N) dateParse position price observedAt size closeReason
      style] = size := by
  have heq : (closeIntent (unrounded N) dateParse position price observedAt size closeReason
      style).size = size := by
    show roundSize (unrounded N) (min size position.remainingSize) = size
    rw [min_eq_left hle, roundSize_unrounded hsize]
  rcases hsize.eq_or_lt with h0 | hpos
  · rw [closedSize, List.filter_cons_of_neg, List.filter_nil, List.map_nil, List.sum_nil]
    · exact h0
    · rw [decide_eq_true_eq, heq]
      rintro ⟨-, hpos⟩
      exact hpos.ne h0
  · rw [closedSize, List.filter_cons_of_pos, List.filter_nil, List.map_singleton, heq,
      List.sum_singleton]
    simp only [heq, hpos, and_true]
    rfl

omit [IsStrictOrderedRing N] in
private theorem pays_moveStop (h : 0 ≤ position.remainingSize) (newStopPrice : N) :
    Pays position (moveStop (unrounded N) dateParse position newStopPrice tick) := by
  unfold moveStop
  split_ifs
  · exact Pays.unchanged h
  · refine ⟨⟨rfl, rfl, rfl, rfl, rfl⟩, id, h, ?_⟩
    exact add_zero _

private theorem pays_closePartial (h : 0 ≤ position.remainingSize) (sizePct : N)
    (closeReason : CascadeCloseReason) :
    Pays position (closePartial (unrounded N) dateParse position sizePct closeReason tick) := by
  unfold closePartial
  dsimp only
  have hle : closeSizeFor (unrounded N) position sizePct ≤ position.remainingSize :=
    max_le h (min_le_left _ _)
  split_ifs with hpos
  · refine ⟨⟨rfl, rfl, rfl, rfl, rfl⟩, id, le_max_left 0 _, ?_⟩
    rw [closedSize_closeIntent _ _ hpos.le hle]
    show max 0 (position.remainingSize - closeSizeFor (unrounded N) position sizePct) +
      closeSizeFor (unrounded N) position sizePct = _
    rw [max_eq_right (sub_nonneg.mpr hle), sub_add_cancel]
  · exact Pays.unchanged h

/-- Taking a target pays, whatever open status it sets. -/
private theorem pays_target (h : 0 ≤ position.remainingSize) (sizePct : N)
    (newStopPrice : CascadeOpenPosition N N → N) (closeReason : CascadeCloseReason)
    {status : CascadePositionStatus} (hstatus : status.isClosed = false)
    (first second : CascadeOpenPosition N N → Bool) :
    Pays position
      ((closePartial (unrounded N) dateParse position sizePct closeReason tick).andThen
        fun position => moveStop (unrounded N) dateParse
          { position with
            firstTargetTaken := first position
            secondTargetTaken := second position
            status } (newStopPrice position) tick) := by
  have htaken : Pays position
      (closePartial (unrounded N) dateParse position sizePct closeReason tick) :=
    pays_closePartial h sizePct closeReason
  apply htaken.andThen
  set q := (closePartial (unrounded N) dateParse position sizePct closeReason tick).position
  have hmove := @pays_moveStop N _ _ _ dateParse tick
    { q with
      firstTargetTaken := first q
      secondTargetTaken := second q
      status } htaken.nonneg (newStopPrice q)
  refine ⟨⟨hmove.sameEntry.positionId, hmove.sameEntry.signalId,
    hmove.sameEntry.instrumentCode, hmove.sameEntry.direction, hmove.sameEntry.entryPrice⟩, ?_,
    hmove.nonneg, hmove.size⟩
  intro hclosed
  have hopen := hmove.isClosed hclosed
  simp only [hstatus, Bool.false_eq_true] at hopen

private theorem pays_takeFirstTarget (h : 0 ≤ position.remainingSize) :
    Pays position (takeFirstTarget (unrounded N) dateParse tick position) := by
  unfold takeFirstTarget
  split_ifs
  · exact pays_target h _ (fun p => p.entryPrice) _ rfl (fun _ => true) fun p => p.secondTargetTaken
  · exact Pays.unchanged h

private theorem pays_takeSecondTarget (h : 0 ≤ position.remainingSize) :
    Pays position (takeSecondTarget (unrounded N) dateParse tick position) := by
  unfold takeSecondTarget
  split_ifs
  · exact pays_target h _ (fun p => p.targets.partial1.price) _ rfl (fun p => p.firstTargetTaken)
      fun _ => true
  · exact Pays.unchanged h

omit [IsStrictOrderedRing N] in
private theorem pays_trailStop (h : 0 ≤ position.remainingSize) :
    Pays position (trailStop (unrounded N) dateParse tick position) := by
  unfold trailStop
  split
  · exact Pays.unchanged h
  · exact pays_moveStop h _

/-- The position that a tick settles, and what it closed until then. -/
private theorem pays_beforeSettling (h : 0 ≤ position.remainingSize) :
    Pays position
      (((takeFirstTarget (unrounded N) dateParse tick position).andThen
        (takeSecondTarget (unrounded N) dateParse tick)).andThen
          (trailStop (unrounded N) dateParse tick)) := by
  have hfirst : Pays position (takeFirstTarget (unrounded N) dateParse tick position) :=
    pays_takeFirstTarget h
  have hsecond : Pays position
      ((takeFirstTarget (unrounded N) dateParse tick position).andThen
        (takeSecondTarget (unrounded N) dateParse tick)) :=
    hfirst.andThen (pays_takeSecondTarget hfirst.nonneg)
  exact hsecond.andThen (pays_trailStop hsecond.nonneg)

omit [IsStrictOrderedRing N] in
/-- What a tick of its instrument does to an open position that it does not stop out. -/
private theorem updatePosition_of_held (hopen : isOpen (unrounded N) position = true)
    (hstop : stopHit (unrounded N) position tick.price = false) :
    updatePosition (unrounded N) dateParse position tick =
      ((((takeFirstTarget (unrounded N) dateParse tick position).andThen
        (takeSecondTarget (unrounded N) dateParse tick)).andThen
          (trailStop (unrounded N) dateParse tick))).andThen
            (settleTick (unrounded N) dateParse tick) := by
  simp only [updatePosition, hopen, hstop, Bool.not_true, Bool.false_eq_true, if_false]

/-- A tick drops no negative size. -/
theorem dropped_nonneg : 0 ≤ dropped dateParse tick position := by
  unfold dropped
  dsimp only
  split_ifs with h
  · exact le_rfl
  · simp only [Bool.or_eq_true, Bool.not_eq_true', not_or, Bool.not_eq_false] at h
    exact (pays_beforeSettling (pos_of_isOpen h.1.1.2).le).nonneg
  · exact le_rfl

/-- Closing what a position holds. -/
private theorem live_closePosition {status : CascadePositionStatus} (h : status.isClosed = true)
    (observedAt : String) : live (closePosition position status observedAt) = 0 := by
  rw [live_eq_zero_iff, Bool.eq_false_iff, Ne, isOpen_unrounded]
  rintro ⟨-, hopen⟩
  exact absurd (h.symm.trans hopen) Bool.true_eq_false.mp

/-- Settling closes what it no longer holds, but for a rest that is too small. -/
private theorem settleTick_unrounded (h : 0 ≤ position.remainingSize)
    (hstatus : position.status.isClosed = false) :
    SameEntry position (settleTick (unrounded N) dateParse tick position).position ∧
      position.remainingSize =
        live (settleTick (unrounded N) dateParse tick position).position +
          closedSize (settleTick (unrounded N) dateParse tick position).intents +
            if timeIsUp dateParse position tick.observedAt &&
              !hasReachedOneR (unrounded N) position tick.price then 0
            else if position.remainingSize ≤ epsilon (unrounded N) then position.remainingSize
            else 0 := by
  unfold settleTick
  split_ifs with htime hsmall
  · refine ⟨⟨rfl, rfl, rfl, rfl, rfl⟩, ?_⟩
    rw [live_closePosition rfl, closedSize_closeIntent _ _ h le_rfl, zero_add, add_zero]
  · refine ⟨⟨rfl, rfl, rfl, rfl, rfl⟩, ?_⟩
    rw [live_closePosition rfl, closedSize_nil, zero_add, zero_add]
  · refine ⟨⟨rfl, rfl, rfl, rfl, rfl⟩, ?_⟩
    have hopen : isOpen (unrounded N) { position with updatedAt := tick.observedAt } = true :=
      isOpen_unrounded.mpr ⟨not_le.mp hsmall, hstatus⟩
    rw [live, if_pos hopen, closedSize_nil, add_zero, add_zero]

/-- A tick keeps the entry of a position and closes what is held of it no longer, but for what
it drops. -/
theorem tickPosition_unrounded :
    SameEntry position (tickPosition (unrounded N) dateParse tick position).position ∧
      live position = live (tickPosition (unrounded N) dateParse tick position).position +
        closedSize (tickPosition (unrounded N) dateParse tick position).intents +
          dropped dateParse tick position := by
  by_cases happlies : (position.instrumentCode ≠ tick.instrumentCode ||
      !isOpen (unrounded N) position) = true
  · have hupdate : tickPosition (unrounded N) dateParse tick position = ⟨position, []⟩ := by
      rw [tickPosition, if_pos happlies]
    have hdropped : dropped dateParse tick position = 0 := by
      unfold dropped
      dsimp only
      rw [if_pos]
      rw [Bool.or_eq_true, Bool.or_eq_true]
      exact Or.inl (Or.inl happlies)
    rw [hupdate, hdropped]
    exact ⟨SameEntry.refl position, by rw [closedSize_nil, add_zero, add_zero]⟩
  · have hupdate : tickPosition (unrounded N) dateParse tick position =
        updatePosition (unrounded N) dateParse position tick := by
      rw [tickPosition, if_neg happlies]
    have hopen : isOpen (unrounded N) position = true := by
      simp only [Bool.or_eq_true, Bool.not_eq_true', not_or, Bool.not_eq_false] at happlies
      exact happlies.2
    have hpos : 0 < position.remainingSize := pos_of_isOpen hopen
    have hlive : live position = position.remainingSize := if_pos hopen
    rw [hupdate, hlive]
    cases hstop : stopHit (unrounded N) position tick.price with
    | true =>
      have hdropped : dropped dateParse tick position = 0 := by
        unfold dropped
        dsimp only
        rw [if_pos]
        simp only [hstop, Bool.or_true, Bool.true_or]
      have hstopped : updatePosition (unrounded N) dateParse position tick =
          ⟨closePosition position .stoppedOut tick.observedAt,
            [closeIntent (unrounded N) dateParse position tick.price tick.observedAt
              position.remainingSize .stopLoss .takerMarket]⟩ := by
        simp only [updatePosition, hopen, hstop, Bool.not_true, Bool.false_eq_true, if_false,
          if_true]
      rw [hstopped, hdropped]
      refine ⟨⟨rfl, rfl, rfl, rfl, rfl⟩, ?_⟩
      rw [live_closePosition rfl, closedSize_closeIntent _ _ hpos.le le_rfl, zero_add, add_zero]
    | false =>
      have hpays : Pays position
          (((takeFirstTarget (unrounded N) dateParse tick position).andThen
            (takeSecondTarget (unrounded N) dateParse tick)).andThen
              (trailStop (unrounded N) dateParse tick)) := pays_beforeSettling hpos.le
      have hstatus : (beforeSettling dateParse tick position).status.isClosed = false := by
        rw [Bool.eq_false_iff]
        intro hclosed
        have hposition := hpays.isClosed hclosed
        rw [(isOpen_unrounded.mp hopen).2] at hposition
        exact Bool.false_ne_true hposition
      obtain ⟨hentry, hsettle⟩ := @settleTick_unrounded N _ _ _ _ dateParse tick
        (beforeSettling dateParse tick position) hpays.nonneg hstatus
      have hdropped : dropped dateParse tick position =
          if timeIsUp dateParse (beforeSettling dateParse tick position) tick.observedAt &&
            !hasReachedOneR (unrounded N) (beforeSettling dateParse tick position) tick.price then 0
          else if (beforeSettling dateParse tick position).remainingSize ≤ epsilon (unrounded N)
          then (beforeSettling dateParse tick position).remainingSize else 0 := by
        unfold dropped
        dsimp only
        rw [Bool.eq_false_of_not_eq_true happlies, hstop, Bool.false_or, Bool.false_or]
      rw [updatePosition_of_held hopen hstop, hdropped]
      refine ⟨hpays.sameEntry.trans hentry, ?_⟩
      have hsize : (beforeSettling dateParse tick position).remainingSize +
          closedSize (((takeFirstTarget (unrounded N) dateParse tick position).andThen
            (takeSecondTarget (unrounded N) dateParse tick)).andThen
              (trailStop (unrounded N) dateParse tick)).intents = position.remainingSize :=
        hpays.size
      show position.remainingSize = live (settleTick (unrounded N) dateParse tick
        (beforeSettling dateParse tick position)).position +
          closedSize (_ ++ (settleTick (unrounded N) dateParse tick
            (beforeSettling dateParse tick position)).intents) + _
      rw [closedSize_append]
      linarith only [hsettle, hsize]

end Tick

end Yevow.Cascade
