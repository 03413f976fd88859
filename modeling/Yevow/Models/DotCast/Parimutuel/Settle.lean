import Yevow.Core.Collection.Sorting
import Yevow.Core.Control.Except
import Yevow.Models.DotCast.Types

/-!
# Parimutuel settlement

The losing side's stakes, less the rake, are divided among the winners in proportion to
their stakes. Every product and quotient is taken on big integers, every sum on `number`s;
the runtime's arithmetic says what storing such a sum does to it.
-/

namespace Yevow.DotCast

open Except (throwIf)
open JavaScript (Runtime)

/-- An entry of a pool. -/
structure SettlementEntry where
  id : String
  side : Side
  amount : ℤ
  placedAt : Option String
  deriving DecidableEq

/-- What an entry is paid. -/
structure SettlementPayout where
  entryId : String
  side : Side
  stake : ℤ
  payout : ℤ
  deriving DecidableEq

/-- A pool that was settled. -/
structure SettledParimutuelResult where
  outcome : Side
  totals : SideTotals
  totalStaked : ℤ
  rakeAmount : ℤ
  prizePool : ℤ
  payouts : List SettlementPayout
  deriving DecidableEq

/-- A pool that must be voided. -/
structure VoidRequiredParimutuelResult where
  reason : VoidReason
  outcome : Side
  totals : SideTotals
  totalStaked : ℤ
  rakeAmount : ℤ
  prizePool : ℤ
  payouts : List SettlementPayout
  deriving DecidableEq

/-- How a pool ends. -/
inductive ParimutuelSettlementResult
  | settled (result : SettledParimutuelResult)
  | voidRequired (result : VoidRequiredParimutuelResult)
  deriving DecidableEq

/-- The winnings of an entry before the rest is given out. -/
structure AllocationDraft where
  entry : SettlementEntry
  baseWinnings : ℤ
  remainder : ℤ
  index : ℕ
  deriving DecidableEq

/-- The side the other entries are on. -/
def Side.opposing : Side → Side
  | .yes => .no
  | .no => .yes

variable (js : Runtime)

def assertSafeMinorUnits (value : ℤ) (label : String) : Except String Unit :=
  throwIf (js.arithmetic.isSafeInteger value = false ∨ value < 0)
    (label ++ " must be a non-negative safe integer minor-unit amount")

def assertPositiveMinorUnits (value : ℤ) (label : String) : Except String Unit := do
  assertSafeMinorUnits js value label
  throwIf (value ≤ 0) (label ++ " must be greater than zero")

/-- An entry has a positive amount. -/
def validateEntry (entry : SettlementEntry) : Except String SettlementEntry := do
  assertPositiveMinorUnits js entry.amount ("entry " ++ entry.id ++ " amount")
  return entry

def Side.label : Side → String
  | .yes => "yes"
  | .no => "no"

/-- One turn of the totals loop. -/
def addToTotals (totals : SideTotals) (entry : SettlementEntry) : Except String SideTotals := do
  let normalizedEntry ← validateEntry js entry
  let side := normalizedEntry.side
  let next := totals.set side (js.arithmetic.integer (totals.get side + normalizedEntry.amount))
  assertSafeMinorUnits js (next.get side) (side.label ++ " pool")
  return next

/-- The stakes of both sides. -/
def calculatePoolTotals (entries : List SettlementEntry) : Except String SideTotals :=
  entries.foldlM (addToTotals js) ⟨0, 0⟩

/-- `BigInt(Math.round(rake * 10000))`. -/
def rakeBps (rake : ℚ) : ℤ := Arithmetic.mathRound (js.arithmetic.fraction (rake * 10000))

/-- The rake of the losing side. -/
def calculateRakeAmount (losingPool : ℤ) (rake : Number) : Except String ℤ := do
  assertSafeMinorUnits js losingPool "losing pool"
  match rake with
  | .finite r =>
    throwIf (r < 0 ∨ 1 < r) "rake must be a finite fraction between 0 and 1"
    let rakeAmount := js.arithmetic.integer ((losingPool * rakeBps js r).tdiv 10000)
    assertSafeMinorUnits js rakeAmount "rake amount"
    return rakeAmount
  | _ => throw "rake must be a finite fraction between 0 and 1"

/-- Largest remainder first, then the earlier entry. -/
def compareRemainderDrafts (left right : AllocationDraft) : ℤ :=
  if left.remainder ≠ right.remainder then
    if left.remainder > right.remainder then -1 else 1
  else
    let placedAtComparison :=
      js.localeCompare.compare (left.entry.placedAt.getD "") (right.entry.placedAt.getD "")
    if placedAtComparison ≠ 0 then placedAtComparison
    else
      let idComparison := js.localeCompare.compare left.entry.id right.entry.id
      if idComparison = 0 then (left.index : ℤ) - right.index else idComparison

/-- The share of an entry, rounded down. -/
def allocationDraft (winPool prizePool : ℤ) (index : ℕ) (entry : SettlementEntry) :
    AllocationDraft where
  entry := entry
  baseWinnings := js.arithmetic.integer ((entry.amount * prizePool).tdiv winPool)
  remainder := (entry.amount * prizePool).tmod winPool
  index := index

/-- The loop that hands out one unit each until nothing is left. -/
def distributeRemainder : List AllocationDraft → ℤ → Table String ℤ → Table String ℤ
  | [], _, allocations => allocations
  | draft :: rest, undistributed, allocations =>
    if undistributed > 0 then
      distributeRemainder rest (js.arithmetic.integer (undistributed - 1))
        (allocations.insert draft.entry.id
          (js.arithmetic.integer ((allocations.lookup draft.entry.id).getD 0 + 1)))
    else allocations

/-- The prize pool by largest remainders. -/
def allocatePrizePool (winningEntries : List SettlementEntry) (winPool prizePool : ℤ) :
    Table String ℤ :=
  if prizePool = 0 then Table.ofList SettlementEntry.id (fun _ => 0) winningEntries
  else
    let drafts := winningEntries.mapIdx (allocationDraft js winPool prizePool)
    let allocations := Table.ofList (fun draft : AllocationDraft => draft.entry.id)
      AllocationDraft.baseWinnings drafts
    let baseTotal :=
      drafts.foldl (fun sum draft => js.arithmetic.integer (sum + draft.baseWinnings)) 0
    let undistributed := js.arithmetic.integer (prizePool - baseTotal)
    let remainderOrder := Sorting.sortBy (compareRemainderDrafts js) drafts
    distributeRemainder js remainderOrder undistributed allocations

/-- The payout of an entry on the losing side. -/
def losingPayout (entry : SettlementEntry) : SettlementPayout :=
  ⟨entry.id, entry.side, entry.amount, 0⟩

/-- The payout of an entry on the winning side. -/
def winningPayout (winningsByEntry : Table String ℤ) (entry : SettlementEntry) :
    SettlementPayout :=
  ⟨entry.id, entry.side, entry.amount,
    js.arithmetic.integer (entry.amount + (winningsByEntry.lookup entry.id).getD 0)⟩

/-- A pool is settled for an outcome. -/
def settleParimutuel (entries : List SettlementEntry) (outcome : Side) (rake : Number) :
    Except String ParimutuelSettlementResult := do
  if entries.length = 0 then
    return .voidRequired ⟨.noWinningEntries, outcome, ⟨0, 0⟩, 0, 0, 0, []⟩
  else
    let normalizedEntries ← entries.mapM (validateEntry js)
    let totals ← calculatePoolTotals js normalizedEntries
    let winningEntries := normalizedEntries.filter fun entry => entry.side = outcome
    let losingEntries := normalizedEntries.filter fun entry => entry.side ≠ outcome
    let winPool := totals.get outcome
    let losePool := totals.get outcome.opposing
    let totalStaked := js.arithmetic.integer (totals.yes + totals.no)
    if winPool = 0 then
      return .voidRequired ⟨.noWinningEntries, outcome, totals, totalStaked, 0, 0,
        normalizedEntries.map losingPayout⟩
    else
      let rakeAmount ← calculateRakeAmount js losePool rake
      let prizePool := js.arithmetic.integer (losePool - rakeAmount)
      let winningsByEntry := allocatePrizePool js winningEntries winPool prizePool
      return .settled ⟨outcome, totals, totalStaked, rakeAmount, prizePool,
        Sorting.sortBy (fun left right => js.localeCompare.compare left.entryId right.entryId)
          (winningEntries.map (winningPayout js winningsByEntry) ++
            losingEntries.map losingPayout)⟩

/-! ## Live display -/

/-- What a further entry would be paid. -/
def previewPayout (totals : SideTotals) (side : Side) (amount : ℤ) (rake : Number) :
    Except String ℤ := do
  assertPositiveMinorUnits js amount "amount"
  assertSafeMinorUnits js totals.yes "yes pool"
  assertSafeMinorUnits js totals.no "no pool"
  let projectedTotals := totals.set side (js.arithmetic.integer (totals.get side + amount))
  let winPool := projectedTotals.get side
  let losePool := projectedTotals.get side.opposing
  if losePool = 0 then
    return amount
  else
    let rakeAmount ← calculateRakeAmount js losePool rake
    let prizePool := js.arithmetic.integer (losePool - rakeAmount)
    let winnings := js.arithmetic.integer ((amount * prizePool).tdiv winPool)
    assertSafeMinorUnits js winnings "preview winnings"
    return js.arithmetic.integer (amount + winnings)

end Yevow.DotCast
