import Mathlib.Algebra.BigOperators.Group.Finset.Piecewise
import Mathlib.Algebra.Order.BigOperators.Group.Finset
import Mathlib.Data.List.Sort
import Yevow.Core.Collection.Rows
import Yevow.Core.JavaScript.Json
import Yevow.Core.Number.DecimalText
import Yevow.Core.Text.Separator
import Yevow.Models.Lotto.Scheduler

/-!
# The scorecard of a ticket lab

What was spent on tickets and what they won, over the rows of eligible ledgers. The cost of a
purchased set is split into whole cents, the remainder going to the first ordinals. Cents are
exact integers.
-/

namespace Yevow.Lotto.TicketLab

open JavaScript (Runtime Json)

/-- Who picked a ticket. -/
inductive Origin
  | system | random | user
  deriving DecidableEq

/-- Whether a prize is known. -/
inductive PayoutStatus
  | none | fixed | pending
  deriving DecidableEq

/-- A proposal in the ledger. -/
structure LedgerRow where
  ledgerId : String
  origin : Origin
  game : GameCode
  drawDate : String
  targetSession : Session
  proposedAt : String
  ticketCostCents : ℕ
  ticketCount : ℕ
  deriving DecidableEq

/-- What a purchase and an eligibility event say of a ledger. -/
structure LedgerState where
  purchased : Option ℕ
  purchaseSpendCents : Option ℕ
  purchaseOptionsJson : Option String
  eligibilityEligible : Option ℕ
  deriving DecidableEq

/-- A ticket with its proposal and its grade. -/
structure JoinedTrackRow extends LedgerRow, LedgerState where
  ledgerTicketId : String
  ordinal : ℕ
  ticketOptionsJson : String
  ticketGradeId : Option String
  prizeTier : Option String
  hit : Option ℕ
  payoutStatus : Option PayoutStatus
  prizeCents : Option ℤ
  gradingDetailJson : Option String
  settlementId : Option String
  finalPrizeCents : Option ℤ
  deriving DecidableEq

/-- `JSON.parse` beside the runtime. -/
structure LabHost where
  js : Runtime
  parse : String → Except String Json

/-! ## Prizes -/

section Prizes

variable (host : LabHost)

/-- A stored text that holds an object. -/
def decodeRecord (value field : String) : Except String Json.Fields := do
  match ← host.parse value with
  | .object fields => return fields
  | _ => throw s!"Stored {field} is invalid"

/-- The prize of a ticket, as far as it is known. -/
def effectivePrize (row : JoinedTrackRow) : ℤ :=
  match row.finalPrizeCents with
  | some prize => prize
  | none => if row.payoutStatus = some .fixed then row.prizeCents.getD 0 else 0

private def safeCents : Json → ℤ
  | .number (.finite a) =>
    if a.den = 1 ∧ |a.num| ≤ Arithmetic.maxSafeInteger ∧ 0 ≤ a.num then a.num else 0
  | _ => 0

/-- What a ticket won other than cash. -/
def effectiveNonCashValue (row : JoinedTrackRow) : Except String ℤ :=
  match row.gradingDetailJson with
  | some text =>
    if row.hit = some 1 then
      (decodeRecord host text "grading detail").map fun detail =>
        safeCents (Json.field detail "faceValueCents")
    else .ok 0
  | none => .ok 0

private def isRecord? : Json → Option Json.Fields
  | .object fields => some fields
  | _ => none

private def optionsAt (ordinal : ℕ) (candidate : Json) : Option Json.Fields :=
  (isRecord? candidate).filter fun fields =>
    match Json.field fields "ordinal" with
    | .number (.finite a) => decide (a = ordinal)
    | _ => false

/-- The options that one ticket was bought with. -/
def actualTicketOverrides (value : Json.Fields) (ordinal : ℕ) : Json.Fields :=
  match Json.field value "ticketOptions" with
  | .array options =>
    ((options.findSome? (optionsAt ordinal)).bind fun found =>
      isRecord? (Json.field found "options")).getD []
  | .object options => (isRecord? (Json.field options (toString ordinal))).getD []
  | _ => []

private def startsModeled : Json → Bool
  | .string provenance => "modeled".toList.isPrefixOf provenance.toList
  | _ => false

/-- The multiplier of a graded ticket is a modelled one. -/
def isModeled (row : JoinedTrackRow) : Except String Bool := do
  let detail ← decodeRecord host (row.gradingDetailJson.getD "\x7b\x7d") "grading detail"
  let options ← decodeRecord host row.ticketOptionsJson "ticket options"
  let purchaseOptions ←
    if row.purchased = some 1 then
      decodeRecord host (row.purchaseOptionsJson.getD "\x7b\x7d") "purchase options"
    else .ok []
  let override := actualTicketOverrides purchaseOptions row.ordinal
  let provenance := (Json.field detail "multiplierProvenance").orElse
    (if (Json.field override "megaMultiplier").isUndefined then
      Json.field options "multiplierProvenance"
    else .string "actual-purchase")
  return startsModeled provenance

/-- A prize that is still to be told. -/
def unresolved (row : JoinedTrackRow) : Bool :=
  row.payoutStatus = some .pending && row.finalPrizeCents.isNone

end Prizes

/-! ## The scorecard -/

section Model

variable (host : LabHost)

/-- The best prize so far. -/
structure BestHit where
  game : GameCode
  drawDate : String
  tier : String
  prizeCents : Option ℤ
  payoutStatus : String
  deriving DecidableEq

/-- The totals of some tickets. -/
structure TicketLabScorecard where
  entries : ℕ
  tickets : ℕ
  gradedTickets : ℕ
  spentCents : ℤ
  gradedSpendCents : ℤ
  openSpendCents : ℤ
  knownNetCents : ℤ
  netCents : Option ℤ
  wonCents : ℤ
  modeledTickets : ℕ
  modeledPrizeCents : ℤ
  nonCashValueCents : ℤ
  pendingPrizeCount : ℕ
  longestLosingStreak : ℕ
  bestHit : Option BestHit
  roiPercent : Option ℚ
  economicRoiPercent : Option ℚ
  deriving DecidableEq

/-- `String(ordinal).padStart(width, "0")`. -/
def padStart (width ordinal : ℕ) : String := String.ofList (DecimalText.padded width ordinal)

/-- The text by which graded tickets are ordered. -/
def trackKey (row : JoinedTrackRow) : String :=
  row.drawDate ++ "|" ++ (row.proposedAt ++ "|" ++ (padStart 5 row.ordinal ++ "|" ++ row.ledgerId))

/-- The order of the stored rows. -/
def trackOrder (left right : JoinedTrackRow) : Prop :=
  host.js.localeCompare.compare (trackKey left) (trackKey right) ≤ 0

instance : DecidableRel (trackOrder host) := fun _ _ => inferInstanceAs (Decidable (_ ≤ _))

/-- Pending prizes come first, and then the larger ones. -/
def bestOrder (left right : JoinedTrackRow) : Prop :=
  (if unresolved left ≠ unresolved right then if unresolved right then (1 : ℤ) else -1
    else effectivePrize right - effectivePrize left) ≤ 0

instance : DecidableRel bestOrder := fun _ _ => inferInstanceAs (Decidable (_ ≤ _))

/-- `rows.reduce((total, row) => total + cents(row), 0)`. -/
def sumCents (cents : JoinedTrackRow → ℤ) (rows : List JoinedTrackRow) : ℤ :=
  rows.foldl (fun total row => total + cents row) 0

/-- The current and the longest losing streak after one more ticket. -/
def streakStep (streak : ℕ × ℕ) (row : JoinedTrackRow) : ℕ × ℕ :=
  if row.hit = some 1 then (0, streak.2) else (streak.1 + 1, max streak.2 (streak.1 + 1))

/-- `Number(row.purchase_spend_cents ?? 0)`. -/
def purchaseSpend (row : JoinedTrackRow) : ℤ := (row.purchaseSpendCents.getD 0 : ℕ)

/-- The part of the cost of a set that falls to one of its tickets. -/
def allocatedCents (row : JoinedTrackRow) : ℤ :=
  let cost := row.purchaseSpendCents.getD 0
  ((cost / row.ticketCount + if row.ordinal ≤ cost % row.ticketCount then 1 else 0 : ℕ) : ℤ)

/-- A percentage of the spending, to two digits. -/
def percentOf (cents gradedSpendCents : ℤ) : ℚ :=
  let round := host.js.arithmetic.fraction
  round (Arithmetic.mathRound (round (round (round (cents / gradedSpendCents) * 100) * 100)) / 100)

/-- A ticket as the best hit. -/
def bestHitOf (best : JoinedTrackRow) : BestHit where
  game := best.game
  drawDate := best.drawDate
  tier := best.prizeTier.getD "Prize"
  prizeCents := if unresolved best then none else some (effectivePrize best)
  payoutStatus :=
    if unresolved best then "pending" else if best.settlementId.isNone then "fixed" else "settled"

/-- The tickets that count. -/
def eligibleRows (rows : List JoinedTrackRow) (confirmedOnly : Bool) : List JoinedTrackRow :=
  let trackRecordRows := rows.filter fun row => row.eligibilityEligible = some 1
  if confirmedOnly then trackRecordRows.filter fun row => row.purchased = some 1
  else trackRecordRows

/-- The totals of the tickets that count. -/
def scorecard (rows : List JoinedTrackRow) (confirmedOnly ticketLevelSpend : Bool) :
    Except String TicketLabScorecard := do
  let eligible := eligibleRows rows confirmedOnly
  let ledgers : Rows String JoinedTrackRow :=
    eligible.foldl (fun ledgers row => ledgers.set row.ledgerId row) Rows.empty
  let tickets : Rows String JoinedTrackRow :=
    eligible.foldl (fun tickets row => tickets.set row.ledgerTicketId row) Rows.empty
  let ordered := (tickets.rows.filter fun row => row.ticketGradeId.isSome).insertionSort
    (trackOrder host)
  let longestLosingStreak := (ordered.foldl streakStep (0, 0)).2
  let winning := ordered.filter fun row => row.hit = some 1
  let best := (winning.insertionSort bestOrder).head?
  let spentCents :=
    if confirmedOnly then sumCents purchaseSpend ledgers.rows
    else if ticketLevelSpend then sumCents (fun row => row.ticketCostCents) tickets.rows
    else sumCents (fun row => row.ticketCount * row.ticketCostCents) ledgers.rows
  let wonCents := sumCents effectivePrize ordered
  let nonCashValueCents ← ordered.foldlM
    (fun total row => (effectiveNonCashValue host row).map (total + ·)) (0 : ℤ)
  let gradedSpendCents := sumCents
    (fun row => if confirmedOnly then allocatedCents row else row.ticketCostCents) ordered
  let pendingPrizeCount := (ordered.filter unresolved).length
  let knownNetCents := wonCents - gradedSpendCents
  let modeled ← ordered.filterM (isModeled host)
  return {
    entries := ledgers.rows.length
    tickets := tickets.rows.length
    gradedTickets := ordered.length
    spentCents
    gradedSpendCents
    openSpendCents := spentCents - gradedSpendCents
    knownNetCents
    netCents := if 0 < pendingPrizeCount then none else some knownNetCents
    wonCents
    modeledTickets := modeled.length
    modeledPrizeCents := sumCents effectivePrize modeled
    nonCashValueCents
    pendingPrizeCount
    longestLosingStreak
    bestHit := best.map bestHitOf
    roiPercent := if gradedSpendCents = 0 ∨ 0 < pendingPrizeCount then none
      else some (percentOf host knownNetCents gradedSpendCents)
    economicRoiPercent := if gradedSpendCents = 0 ∨ 0 < pendingPrizeCount then none
      else some (percentOf host (knownNetCents + nonCashValueCents) gradedSpendCents) }

end Model

/-! ## Joined rows -/

section Joined

variable {host : LabHost} {rows rows' : List JoinedTrackRow} {a b : JoinedTrackRow}

/-- Rows of the same ledger say the same of it, each ledger has each ordinal up to its count of
tickets once, and each ticket has an identifier of its own. -/
structure JoinedRows (rows : List JoinedTrackRow) : Prop where
  ledger : ∀ a ∈ rows, ∀ b ∈ rows, a.ledgerId = b.ledgerId →
    a.toLedgerRow = b.toLedgerRow ∧ a.toLedgerState = b.toLedgerState
  ordinals : ∀ a ∈ rows,
    ((rows.filter fun row => row.ledgerId = a.ledgerId).map JoinedTrackRow.ordinal).Perm
      (List.range' 1 a.ticketCount)
  tickets : (rows.map JoinedTrackRow.ledgerTicketId).Nodup
  dates : ∀ a ∈ rows, Text.Free '|' a.drawDate ∧ Text.Free '|' a.proposedAt

/-- Of two texts by which rows are ordered one comes before the other. -/
def StrictOn (host : LabHost) (key : JoinedTrackRow → String) (rows : List JoinedTrackRow) : Prop :=
  ∀ a ∈ rows, ∀ b ∈ rows, host.js.localeCompare.compare (key a) (key b) ≤ 0 →
    host.js.localeCompare.compare (key b) (key a) ≤ 0 → key a = key b

private theorem padStart_injective (width : ℕ) : Function.Injective (padStart width) := by
  intro m n h
  have hdigits := congrArg (fun s => DecimalText.digitsValue (String.toList s)) h
  simpa only [padStart, String.toList_ofList, DecimalText.digitsValue_padded] using hdigits

private theorem free_padStart (width ordinal : ℕ) : Text.Free '|' (padStart width ordinal) := by
  rw [Text.Free, padStart, String.toList_ofList]
  exact (DecimalText.digits_padded width ordinal).notMem (by decide)

theorem parts_eq {x y z w : String} (hx : Text.Free '|' x) (hz : Text.Free '|' z)
    (h : x ++ "|" ++ y = z ++ "|" ++ w) : x = z ∧ y = w := by
  have hsep : "|".toList = ['|'] := rfl
  rcases (Text.join_eq_iff hsep).mp h with hparts | hshifted
  · exact hparts
  · exact absurd hshifted (Text.not_shifted_of_free hsep hx hz)

namespace JoinedRows

private theorem eq_of_ordinal (h : JoinedRows rows) (ha : a ∈ rows) (hb : b ∈ rows)
    (hledger : a.ledgerId = b.ledgerId) (hordinal : a.ordinal = b.ordinal) : a = b := by
  have hnodup : ((rows.filter fun row => row.ledgerId = a.ledgerId).map
      JoinedTrackRow.ordinal).Nodup :=
    (h.ordinals a ha).nodup_iff.mpr List.nodup_range'
  exact List.inj_on_of_nodup_map hnodup
    (List.mem_filter.mpr ⟨ha, decide_eq_true rfl⟩)
    (List.mem_filter.mpr ⟨hb, decide_eq_true hledger.symm⟩) hordinal

/-- A row is told by the text it is ordered by. -/
theorem eq_of_trackKey (h : JoinedRows rows) (ha : a ∈ rows) (hb : b ∈ rows)
    (hkey : trackKey a = trackKey b) : a = b := by
  obtain ⟨-, hrest⟩ := parts_eq (h.dates a ha).1 (h.dates b hb).1 hkey
  obtain ⟨-, hrest⟩ := parts_eq (h.dates a ha).2 (h.dates b hb).2 hrest
  obtain ⟨hordinal, hledger⟩ := parts_eq (free_padStart 5 _) (free_padStart 5 _) hrest
  exact h.eq_of_ordinal ha hb hledger (padStart_injective 5 hordinal)

private theorem perm (h : JoinedRows rows) (hperm : rows.Perm rows') : JoinedRows rows' where
  ledger a ha b hb := h.ledger a (hperm.mem_iff.mpr ha) b (hperm.mem_iff.mpr hb)
  ordinals a ha :=
    ((hperm.symm.filter _).map _).trans (h.ordinals a (hperm.mem_iff.mpr ha))
  tickets := (hperm.map _).nodup_iff.mp h.tickets
  dates a ha := h.dates a (hperm.mem_iff.mpr ha)

end JoinedRows

end Joined

/-! ## Maps of rows -/

section Maps

variable {κ α β : Type} [DecidableEq κ] {key : α → κ} {f : α → β}

/-- The map after `map.set(key(row), row)` for each row. -/
private abbrev written (key : α → κ) (l : List α) : Rows κ α :=
  l.foldl (fun map row => map.set (key row) row) Rows.empty

private theorem written_concat (l : List α) (a : α) :
    written key (l ++ [a]) = (written key l).set (key a) a := by
  rw [written, List.foldl_append]
  rfl

/-- The last row that was written under a key is the one there. -/
theorem get?_written (l : List α) (k : κ) :
    (written key l).get? k = (l.filter fun a => key a = k).getLast? := by
  induction l using List.reverseRecOn with
  | nil => rfl
  | append_singleton l a ih =>
    rw [written_concat, Rows.get?_set, List.filter_append]
    split_ifs with hk
    · rw [List.filter_singleton, decide_eq_true hk.symm, cond_true, List.getLast?_concat]
    · rw [List.filter_singleton, decide_eq_false (Ne.symm hk), cond_false, List.append_nil, ih]

/-- The keys with what is said of their rows, where rows under one key say the same. -/
theorem toFinset_written [DecidableEq β] {l : List α}
    (hsame : ∀ a ∈ l, ∀ b ∈ l, key a = key b → f a = f b) :
    ((written key l).entries.map fun e => (e.1, f e.2)).toFinset =
      (l.map fun a => (key a, f a)).toFinset := by
  ext ⟨k, v⟩
  simp only [List.mem_toFinset, List.mem_map, Prod.mk.injEq, Prod.exists]
  have hmem : ∀ a, (k, a) ∈ (written key l).entries ↔
      (l.filter fun a => key a = k).getLast? = some a := by
    intro a
    rw [Rows.mem_entries_iff, get?_written]
  constructor
  · rintro ⟨k', a, hentry, rfl, rfl⟩
    obtain ⟨hin, hkey⟩ := List.mem_filter.mp (List.mem_of_getLast? ((hmem a).mp hentry))
    exact ⟨a, hin, of_decide_eq_true hkey, rfl⟩
  · rintro ⟨a, hin, rfl, rfl⟩
    have hfilter : a ∈ l.filter fun b => key b = key a :=
      List.mem_filter.mpr ⟨hin, decide_eq_true rfl⟩
    obtain ⟨b, hb⟩ := Option.isSome_iff_exists.mp
      (List.getLast?_isSome.mpr (List.ne_nil_of_mem hfilter))
    obtain ⟨hbin, hbkey⟩ := List.mem_filter.mp (List.mem_of_getLast? hb)
    exact ⟨key a, b, (hmem b).mpr hb, rfl, hsame b hbin a hin (of_decide_eq_true hbkey)⟩

private theorem nodup_written (l : List α) :
    ((written key l).entries.map fun e => (e.1, f e.2)).Nodup := by
  apply List.Nodup.of_map Prod.fst
  rw [List.map_map]
  exact (written key l).nodup

/-- Rows under keys of their own are all there, in their order. -/
theorem rows_written {l : List α} (hnodup : (l.map key).Nodup) : (written key l).rows = l := by
  have hentries : (written key l).entries = l.map fun a => (key a, a) := by
    induction l using List.reverseRecOn with
    | nil => rfl
    | append_singleton l a ih =>
      rw [List.map_append, List.nodup_append] at hnodup
      obtain ⟨hrest, -, hfresh⟩ := hnodup
      have hnone : (written key l).get? (key a) = none := by
        rw [get?_written, List.getLast?_eq_none_iff, List.filter_eq_nil_iff]
        intro b hb heq
        exact hfresh (key b) (List.mem_map_of_mem hb) (key a) (List.mem_singleton_self _)
          (of_decide_eq_true heq)
      rw [written_concat, Rows.entries_set_of_get?_eq_none hnone, ih hrest, List.map_append]
      rfl
  rw [Rows.rows, hentries, List.map_map]
  exact List.map_id' l

end Maps

/-! ## Order of the rows -/

section Order

variable {host : LabHost} {rows rows' : List JoinedTrackRow}

private theorem sumCents_eq (cents : JoinedTrackRow → ℤ) (l : List JoinedTrackRow) :
    sumCents cents l = (l.map cents).sum := by
  rw [sumCents, ← List.foldl_map, List.sum_eq_foldl]

private theorem sumCents_perm (cents : JoinedTrackRow → ℤ) (h : rows.Perm rows') :
    sumCents cents rows = sumCents cents rows' := by
  rw [sumCents_eq, sumCents_eq]
  exact (h.map cents).sum_eq

/-- A list has one order in which it is sorted, where no two of its members are level. -/
theorem insertionSort_eq_of_perm {α : Type} {r : α → α → Prop} [DecidableRel r]
    (htotal : ∀ a b, r a b ∨ r b a) (htrans : ∀ a b c, r a b → r b c → r a c) {l l' : List α}
    (hperm : l.Perm l') (hstrict : ∀ a ∈ l, ∀ b ∈ l, r a b → r b a → a = b) :
    l.insertionSort r = l'.insertionSort r := by
  have : Std.Total r := ⟨htotal⟩
  have : IsTrans α r := ⟨htrans⟩
  refine List.Perm.eq_of_pairwise ?_ (List.pairwise_insertionSort r l)
    (List.pairwise_insertionSort r l') ?_
  · intro a b ha hb
    exact hstrict a ((List.mem_insertionSort r).mp ha) b
      (hperm.mem_iff.mpr ((List.mem_insertionSort r).mp hb))
  · exact ((List.perm_insertionSort r l).trans hperm).trans (List.perm_insertionSort r l').symm

private theorem eligibleRows_sublist (rows : List JoinedTrackRow) (confirmedOnly : Bool) :
    (eligibleRows rows confirmedOnly).Sublist rows := by
  unfold eligibleRows
  dsimp only
  split_ifs
  · exact List.filter_sublist.trans List.filter_sublist
  · exact List.filter_sublist

private theorem eligibleRows_perm (hperm : rows.Perm rows') (confirmedOnly : Bool) :
    (eligibleRows rows confirmedOnly).Perm (eligibleRows rows' confirmedOnly) := by
  unfold eligibleRows
  dsimp only
  split_ifs
  · exact (hperm.filter _).filter _
  · exact hperm.filter _

private theorem rows_tickets (h : JoinedRows rows) (confirmedOnly : Bool) :
    (written JoinedTrackRow.ledgerTicketId (eligibleRows rows confirmedOnly)).rows =
      eligibleRows rows confirmedOnly :=
  rows_written (h.tickets.sublist ((eligibleRows_sublist rows confirmedOnly).map _))

private theorem ordered_eq (h : JoinedRows rows) (hstrict : StrictOn host trackKey rows)
    (hperm : rows.Perm rows') (confirmedOnly : Bool) :
    ((eligibleRows rows confirmedOnly).filter fun row => row.ticketGradeId.isSome).insertionSort
        (trackOrder host) =
      ((eligibleRows rows' confirmedOnly).filter fun row => row.ticketGradeId.isSome).insertionSort
        (trackOrder host) := by
  apply insertionSort_eq_of_perm
  · exact fun a b => host.js.localeCompare.total _ _
  · exact fun a b c => host.js.localeCompare.trans _ _ _
  · exact (eligibleRows_perm hperm confirmedOnly).filter _
  · intro a ha b hb hab hba
    have hin : ∀ c ∈ (eligibleRows rows confirmedOnly).filter fun row => row.ticketGradeId.isSome,
        c ∈ rows :=
      fun c hc => (eligibleRows_sublist rows confirmedOnly).subset (List.mem_of_mem_filter hc)
    exact h.eq_of_trackKey (hin a ha) (hin b hb) (hstrict a (hin a ha) b (hin b hb) hab hba)

variable (rows) in
private abbrev ledgersOf (confirmedOnly : Bool) : Rows String JoinedTrackRow :=
  written (fun row : JoinedTrackRow => row.ledgerId) (eligibleRows rows confirmedOnly)

/-- What is said of ledgers only is the same in all their rows. -/
theorem JoinedRows.same_of_ledger {β : Type} {f : JoinedTrackRow → β} (h : JoinedRows rows)
    (hf : ∀ a b : JoinedTrackRow, a.toLedgerRow = b.toLedgerRow →
      a.toLedgerState = b.toLedgerState → f a = f b) (confirmedOnly : Bool) :
    ∀ a ∈ eligibleRows rows confirmedOnly, ∀ b ∈ eligibleRows rows confirmedOnly,
      a.ledgerId = b.ledgerId → f a = f b := by
  intro a ha b hb hledger
  have hin := (eligibleRows_sublist rows confirmedOnly).subset
  obtain ⟨hrow, hstate⟩ := h.ledger a (hin ha) b (hin hb) hledger
  exact hf a b hrow hstate

/-- What is said of the ledgers, each once. -/
theorem map_ledgers_perm {β : Type} [DecidableEq β] {f : JoinedTrackRow → β} (h : JoinedRows rows)
    (hperm : rows.Perm rows')
    (hf : ∀ a b : JoinedTrackRow, a.toLedgerRow = b.toLedgerRow →
      a.toLedgerState = b.toLedgerState → f a = f b) (confirmedOnly : Bool) :
    ((ledgersOf rows confirmedOnly).rows.map f).Perm
    ((ledgersOf rows' confirmedOnly).rows.map f) := by
  have hpairs : ((ledgersOf rows confirmedOnly).entries.map fun e => (e.1, f e.2)).Perm
      ((ledgersOf rows' confirmedOnly).entries.map fun e => (e.1, f e.2)) := by
    rw [List.perm_ext_iff_of_nodup (nodup_written _) (nodup_written _)]
    intro pair
    rw [← List.mem_toFinset, ← List.mem_toFinset, toFinset_written (h.same_of_ledger hf _),
      toFinset_written ((h.perm hperm).same_of_ledger hf _), List.mem_toFinset, List.mem_toFinset]
    exact ((eligibleRows_perm hperm confirmedOnly).map _).mem_iff
  have hsnd := hpairs.map Prod.snd
  rw [List.map_map, List.map_map] at hsnd
  rw [Rows.rows, Rows.rows, List.map_map, List.map_map]
  exact hsnd

private theorem sumCents_ledgers_perm {cents : JoinedTrackRow → ℤ} (h : JoinedRows rows)
    (hperm : rows.Perm rows')
    (hcents : ∀ a b : JoinedTrackRow, a.toLedgerRow = b.toLedgerRow →
      a.toLedgerState = b.toLedgerState → cents a = cents b) (confirmedOnly : Bool) :
    sumCents cents (ledgersOf rows confirmedOnly).rows =
      sumCents cents (ledgersOf rows' confirmedOnly).rows := by
  rw [sumCents_eq, sumCents_eq]
  exact (map_ledgers_perm h hperm hcents confirmedOnly).sum_eq

private theorem purchaseSpend_congr {a b : JoinedTrackRow} (h : a.toLedgerState = b.toLedgerState) :
    purchaseSpend a = purchaseSpend b := by
  unfold purchaseSpend
  rw [h]

/-- The scorecard does not depend on the order of the rows. -/
theorem scorecard_perm (h : JoinedRows rows) (hstrict : StrictOn host trackKey rows)
    (hperm : rows.Perm rows') (confirmedOnly ticketLevelSpend : Bool) :
    scorecard host rows confirmedOnly ticketLevelSpend =
      scorecard host rows' confirmedOnly ticketLevelSpend := by
  have hordered := ordered_eq h hstrict hperm confirmedOnly
  have helig := eligibleRows_perm hperm confirmedOnly
  have hentries := (@map_ledgers_perm rows rows' _ _ (fun _ => ()) h hperm
    (fun _ _ _ _ => rfl) confirmedOnly).length_eq
  rw [List.length_map, List.length_map] at hentries
  have hspend := @sumCents_ledgers_perm rows rows' purchaseSpend h hperm
    (fun a b _ => purchaseSpend_congr) confirmedOnly
  have hcost := @sumCents_ledgers_perm rows rows'
    (fun row => row.ticketCount * row.ticketCostCents) h hperm
    (fun a b hrow _ => by rw [hrow]) confirmedOnly
  have htickets := sumCents_perm (fun row => row.ticketCostCents) helig
  unfold scorecard
  dsimp only
  simp only [rows_tickets h, rows_tickets (h.perm hperm), hordered, hentries, hspend, hcost,
    htickets, helig.length_eq]

end Order

/-! ## Purchased sets -/

section Sets

variable {host : LabHost} {rows : List JoinedTrackRow}

/-- The ledgers that are counted in the confirmed scorecard, with what was spent on each. -/
def purchases (rows : List JoinedTrackRow) : Finset (String × ℤ) :=
  ((eligibleRows rows true).map fun row => (row.ledgerId, purchaseSpend row)).toFinset

/-- The cents that a ledger contributes to what was spent on graded tickets. -/
def gradedShare (rows : List JoinedTrackRow) (ledgerId : String) : ℤ :=
  sumCents allocatedCents
    (((eligibleRows rows true).filter fun row => row.ticketGradeId.isSome).filter
      fun row => row.ledgerId = ledgerId)

/-- The cents of a set that fall to each ordinal add up to its cost. -/
theorem sum_allocated (q m n : ℕ) :
    ((List.range' 1 n).map fun ordinal => ((q + if ordinal ≤ m then 1 else 0 : ℕ) : ℤ)).sum =
      (n * q + min m n : ℕ) := by
  induction n with
  | zero => simp
  | succ n ih =>
    rw [List.range'_1_concat, List.map_append, List.sum_append, ih, List.map_singleton,
      List.sum_singleton, Nat.succ_mul]
    split_ifs with h
    · omega
    · omega

private theorem mem_eligibleRows {row : JoinedTrackRow} :
    row ∈ eligibleRows rows true ↔
      row ∈ rows ∧ row.eligibilityEligible = some 1 ∧ row.purchased = some 1 := by
  have hunfold : eligibleRows rows true =
      (rows.filter fun row => row.eligibilityEligible = some 1).filter
        fun row => row.purchased = some 1 := rfl
  rw [hunfold, List.mem_filter, List.mem_filter, decide_eq_true_eq, decide_eq_true_eq, and_assoc]

/-- A ledger of which one row is counted is counted with all its rows. -/
theorem filter_eligibleRows (h : JoinedRows rows) {row : JoinedTrackRow}
    (hrow : row ∈ eligibleRows rows true) :
    ((eligibleRows rows true).filter fun other => other.ledgerId = row.ledgerId) =
      rows.filter fun other => other.ledgerId = row.ledgerId := by
  obtain ⟨hin, heligible, hpurchased⟩ := mem_eligibleRows.mp hrow
  have hunfold : eligibleRows rows true =
      (rows.filter fun row => row.eligibilityEligible = some 1).filter
        fun row => row.purchased = some 1 := rfl
  rw [hunfold, List.filter_filter, List.filter_filter]
  apply List.filter_congr
  intro other hother
  by_cases hledger : other.ledgerId = row.ledgerId
  · obtain ⟨-, hstate⟩ := h.ledger other hother row hin hledger
    rw [hstate, heligible, hpurchased]
    simp
  · simp [hledger]

/-- All tickets of a set together cost what was spent on it. -/
theorem sumCents_allocated (h : JoinedRows rows) {row : JoinedTrackRow}
    (hrow : row ∈ eligibleRows rows true) :
    sumCents allocatedCents
        ((eligibleRows rows true).filter fun other => other.ledgerId = row.ledgerId) =
      purchaseSpend row := by
  have hin := (mem_eligibleRows.mp hrow).1
  have hordinals := h.ordinals row hin
  rw [filter_eligibleRows h hrow, sumCents_eq]
  have hmap : (rows.filter fun other => other.ledgerId = row.ledgerId).map allocatedCents =
      ((rows.filter fun other => other.ledgerId = row.ledgerId).map JoinedTrackRow.ordinal).map
        fun ordinal => ((row.purchaseSpendCents.getD 0 / row.ticketCount +
          if ordinal ≤ row.purchaseSpendCents.getD 0 % row.ticketCount then 1 else 0 : ℕ) : ℤ) := by
    rw [List.map_map]
    apply List.map_congr_left
    intro other hother
    obtain ⟨hotherIn, hledger⟩ := List.mem_filter.mp hother
    obtain ⟨hsame, hstate⟩ := h.ledger other hotherIn row hin (of_decide_eq_true hledger)
    rw [allocatedCents, hsame, hstate]
    rfl
  have hcount : 0 < row.ticketCount := by
    have hmem : row.ordinal ∈ List.range' 1 row.ticketCount :=
      hordinals.mem_iff.mp (List.mem_map_of_mem
        (List.mem_filter.mpr ⟨hin, decide_eq_true rfl⟩))
    have hbound := List.mem_range'_1.mp hmem
    omega
  have hmod := Nat.mod_lt (row.purchaseSpendCents.getD 0) hcount
  have hdiv := Nat.div_add_mod (row.purchaseSpendCents.getD 0) row.ticketCount
  rw [hmap, (hordinals.map _).sum_eq, sum_allocated, min_eq_left hmod.le, hdiv]
  rfl

private theorem allocatedCents_nonneg (row : JoinedTrackRow) :
    0 ≤ allocatedCents row := Int.natCast_nonneg _

private theorem sumCents_sublist {l l' : List JoinedTrackRow} (h : l.Sublist l') :
    sumCents allocatedCents l ≤ sumCents allocatedCents l' := by
  rw [sumCents_eq, sumCents_eq]
  apply (h.map allocatedCents).sum_le_sum
  intro cents hcents
  obtain ⟨row, -, rfl⟩ := List.mem_map.mp hcents
  exact allocatedCents_nonneg row

private theorem gradedShare_le (h : JoinedRows rows) {purchase : String × ℤ}
    (hpurchase : purchase ∈ purchases rows) : gradedShare rows purchase.1 ≤ purchase.2 := by
  obtain ⟨row, hrow, rfl⟩ := List.mem_map.mp (List.mem_toFinset.mp hpurchase)
  rw [gradedShare, ← sumCents_allocated h hrow]
  exact sumCents_sublist (List.filter_sublist.filter _)

/-- A set all of whose tickets are graded contributes what was spent on it. -/
theorem gradedShare_eq (h : JoinedRows rows) {purchase : String × ℤ}
    (hpurchase : purchase ∈ purchases rows)
    (hgraded : ∀ row ∈ eligibleRows rows true, row.ledgerId = purchase.1 →
      row.ticketGradeId.isSome) :
    gradedShare rows purchase.1 = purchase.2 := by
  obtain ⟨row, hrow, rfl⟩ := List.mem_map.mp (List.mem_toFinset.mp hpurchase)
  rw [gradedShare, ← sumCents_allocated h hrow, List.filter_comm]
  congr 1
  rw [List.filter_eq_self]
  intro other hother
  obtain ⟨hin, hledger⟩ := List.mem_filter.mp hother
  exact hgraded other hin (of_decide_eq_true hledger)

private theorem purchases_unique (h : JoinedRows rows) {first second : String × ℤ}
    (hfirst : first ∈ purchases rows) (hsecond : second ∈ purchases rows)
    (hledger : first.1 = second.1) : first = second := by
  obtain ⟨a, ha, rfl⟩ := List.mem_map.mp (List.mem_toFinset.mp hfirst)
  obtain ⟨b, hb, rfl⟩ := List.mem_map.mp (List.mem_toFinset.mp hsecond)
  have hspend := h.same_of_ledger (fun a b _ => purchaseSpend_congr) true a ha b hb hledger
  rw [Prod.mk.injEq]
  exact ⟨hledger, hspend⟩

/-- What was spent is the sum over the purchased ledgers. -/
theorem sumCents_ledgers (h : JoinedRows rows) :
    sumCents purchaseSpend (ledgersOf rows true).rows =
      ∑ purchase ∈ purchases rows, purchase.2 := by
  have hsame := h.same_of_ledger (fun a b _ => purchaseSpend_congr) true
  rw [purchases, ← toFinset_written hsame, List.sum_toFinset _ (nodup_written _), sumCents_eq,
    Rows.rows, List.map_map, List.map_map]
  rfl

/-- Cents of counted tickets are cents of one of the purchased ledgers. -/
theorem sumCents_by_ledger (h : JoinedRows rows) (cents : JoinedTrackRow → ℤ)
    {l : List JoinedTrackRow} (hl : ∀ row ∈ l, row ∈ eligibleRows rows true) :
    sumCents cents l = ∑ purchase ∈ purchases rows,
      sumCents cents (l.filter fun row => row.ledgerId = purchase.1) := by
  induction l with
  | nil => exact (Finset.sum_const_zero).symm
  | cons row l ih =>
    have hrow := hl row List.mem_cons_self
    have hin : (row.ledgerId, purchaseSpend row) ∈ purchases rows :=
      List.mem_toFinset.mpr (List.mem_map_of_mem hrow)
    have hsplit : ∀ purchase ∈ purchases rows,
        sumCents cents ((row :: l).filter fun other => other.ledgerId = purchase.1) =
          (if purchase = (row.ledgerId, purchaseSpend row) then cents row else 0) +
            sumCents cents (l.filter fun other => other.ledgerId = purchase.1) := by
      intro purchase hpurchase
      by_cases hledger : row.ledgerId = purchase.1
      · rw [List.filter_cons, if_pos (decide_eq_true hledger), sumCents_eq, List.map_cons,
          List.sum_cons, ← sumCents_eq, if_pos (purchases_unique h hpurchase hin hledger.symm)]
      · have hne : purchase ≠ (row.ledgerId, purchaseSpend row) :=
          fun heq => hledger (congrArg Prod.fst heq).symm
        rw [List.filter_cons, if_neg (by simpa using hledger), if_neg hne, zero_add]
    rw [Finset.sum_congr rfl hsplit, Finset.sum_add_distrib, Finset.sum_ite_eq', if_pos hin,
      ← ih fun other hother => hl other (List.mem_cons_of_mem _ hother), sumCents_eq,
      List.map_cons, List.sum_cons, ← sumCents_eq]

variable (rows) in
/-- The confirmed scorecard adds up over the purchased ledgers. -/
structure Balanced (card : TicketLabScorecard) : Prop where
  spent : card.spentCents = ∑ purchase ∈ purchases rows, purchase.2
  graded : card.gradedSpendCents = ∑ purchase ∈ purchases rows, gradedShare rows purchase.1
  whole_set : ∀ purchase ∈ purchases rows,
    (∀ row ∈ eligibleRows rows true, row.ledgerId = purchase.1 → row.ticketGradeId.isSome) →
      gradedShare rows purchase.1 = purchase.2
  open_nonneg : 0 ≤ card.openSpendCents
  open_zero : (∀ row ∈ eligibleRows rows true, row.ticketGradeId.isSome) → card.openSpendCents = 0

/-- The sums of the confirmed scorecard. -/
theorem scorecard_sums (h : JoinedRows rows) {ticketLevelSpend : Bool} {card : TicketLabScorecard}
    (hcard : scorecard host rows true ticketLevelSpend = .ok card) :
    card.spentCents = sumCents purchaseSpend (ledgersOf rows true).rows ∧
    card.gradedSpendCents = sumCents allocatedCents
      (((eligibleRows rows true).filter fun row => row.ticketGradeId.isSome).insertionSort
        (trackOrder host)) ∧
    card.openSpendCents = card.spentCents - card.gradedSpendCents := by
  unfold scorecard at hcard
  obtain ⟨nonCash, -, hcard⟩ := Except.bind_eq_ok.mp hcard
  obtain ⟨modeled, -, hcard⟩ := Except.bind_eq_ok.mp hcard
  rw [← Except.ok.inj hcard]
  refine ⟨rfl, ?_, rfl⟩
  conv_rhs => rw [← rows_tickets h true]
  rfl

theorem balanced (h : JoinedRows rows) {ticketLevelSpend : Bool} {card : TicketLabScorecard}
    (hcard : scorecard host rows true ticketLevelSpend = .ok card) : Balanced rows card := by
  obtain ⟨hspent, hgraded, hopen⟩ := scorecard_sums h hcard
  have hin : ∀ row ∈ (eligibleRows rows true).filter fun row => row.ticketGradeId.isSome,
      row ∈ eligibleRows rows true := fun row hrow => List.mem_of_mem_filter hrow
  rw [sumCents_ledgers h] at hspent
  rw [sumCents_perm allocatedCents (List.perm_insertionSort (trackOrder host) _),
    sumCents_by_ledger h allocatedCents hin] at hgraded
  refine ⟨hspent, hgraded, fun purchase hpurchase => gradedShare_eq h hpurchase, ?_, ?_⟩
  · rw [hopen, hspent, hgraded, sub_nonneg]
    exact Finset.sum_le_sum fun purchase hpurchase => gradedShare_le h hpurchase
  · intro hall
    rw [hopen, hspent, hgraded, sub_eq_zero]
    exact Finset.sum_congr rfl fun purchase hpurchase =>
      (gradedShare_eq h hpurchase fun row hrow _ => hall row hrow).symm

end Sets

end Yevow.Lotto.TicketLab
