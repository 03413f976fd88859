import Yevow.Models.DotCast.Parimutuel.Conservation
import Yevow.Models.DotCast.Pool.Settlement

/-!
# Releasing stakes

The loops that settle and void a pool unlock one stake after another. With exact amounts
their effect has a closed form: every user's locked balance falls by everything the user
staked, the available one rises by the user's credits, and nobody else changes.
-/

namespace Yevow.DotCast

open JavaScript (Runtime)

/-- Everything staked on one side. -/
def stakedOn (entries : List Entry) (side : Side) : ℤ :=
  ((entries.filter fun entry => entry.side = side).map Entry.amount).sum

/-- A quantity summed over the entries of one user. -/
def userTotal (quantity : Entry → ℤ) (entries : List Entry) (userId : String) : ℤ :=
  ((entries.filter fun entry => entry.userId = userId).map quantity).sum

/-- Everything one user staked. -/
def stakeOf (entries : List Entry) (userId : String) : ℤ := userTotal Entry.amount entries userId

/-- Everything the users hold. -/
def heldTotal (balances : Balances) : ℤ :=
  balances.total fun _ balance => balance.available + balance.locked

/-! ## Sums over entries -/

@[simp] theorem userTotal_nil (quantity : Entry → ℤ) (userId : String) :
    userTotal quantity [] userId = 0 := (rfl)

private theorem userTotal_cons (quantity : Entry → ℤ) (entry : Entry) (entries : List Entry)
    (userId : String) : userTotal quantity (entry :: entries) userId =
      (if entry.userId = userId then quantity entry else 0) +
        userTotal quantity entries userId := by
  by_cases h : entry.userId = userId <;> simp [userTotal, h]

theorem stakeOf_cons (entry : Entry) (entries : List Entry) (userId : String) :
    stakeOf (entry :: entries) userId =
      (if entry.userId = userId then entry.amount else 0) + stakeOf entries userId :=
  userTotal_cons _ _ _ _

theorem stakeOf_append (entries : List Entry) (entry : Entry) (userId : String) :
    stakeOf (entries ++ [entry]) userId =
      stakeOf entries userId + if entry.userId = userId then entry.amount else 0 := by
  by_cases h : entry.userId = userId <;> simp [stakeOf, userTotal, h]

theorem stakedOn_append (entries : List Entry) (entry : Entry) (side : Side) :
    stakedOn (entries ++ [entry]) side =
      stakedOn entries side + if entry.side = side then entry.amount else 0 := by
  by_cases h : entry.side = side <;> simp [stakedOn, h]

theorem userTotal_nonneg {quantity : Entry → ℤ} {entries : List Entry}
    (h : ∀ e ∈ entries, 0 ≤ quantity e) (userId : String) :
    0 ≤ userTotal quantity entries userId := by
  apply List.sum_nonneg
  intro a ha
  obtain ⟨e, he, rfl⟩ := List.mem_map.mp ha
  exact h e (List.mem_of_mem_filter he)

theorem stakeOf_eq_zero {entries : List Entry} {userId : String}
    (h : ∀ e ∈ entries, e.userId ≠ userId) : stakeOf entries userId = 0 := by
  rw [stakeOf, userTotal, List.filter_eq_nil_iff.mpr (by simpa using h)]
  rfl

theorem sideStake_map_toSettlementEntry (entries : List Entry) (side : Side) :
    sideStake (entries.map toSettlementEntry) side = stakedOn entries side := by
  rw [sideStake, List.filter_map, List.map_map]
  rfl

theorem stakedOn_map {mark : Entry → Entry} {entries : List Entry}
    (hside : ∀ e ∈ entries, (mark e).side = e.side)
    (hamount : ∀ e ∈ entries, (mark e).amount = e.amount) (side : Side) :
    stakedOn (entries.map mark) side = stakedOn entries side := by
  have hfilter : (entries.map mark).filter (fun e => e.side = side) =
      (entries.filter fun e => e.side = side).map mark := by
    rw [List.filter_map]
    congr 1
    exact List.filter_congr fun e he => by simp [hside e he]
  rw [stakedOn, hfilter, List.map_map, stakedOn]
  congr 1
  exact List.map_congr_left fun e he => hamount e (List.mem_of_mem_filter he)

/-! ## One release -/

variable {js : Runtime}

/-- A release that goes through moves the stake out of the locked balance. -/
theorem releaseStake_eq_ok {balances next : Balances} {entry : Entry} {credit : ℤ}
    (h : releaseStake js balances entry credit = .ok next) :
    ∃ balance, balances.lookup entry.userId = some balance ∧ entry.amount ≤ balance.locked ∧
      next = balances.insert entry.userId { balance with
        available := js.arithmetic.integer (balance.available + credit)
        locked := js.arithmetic.integer (balance.locked - entry.amount) } := by
  obtain ⟨balance, hbalance, hrest⟩ := Except.bind_eq_ok.mp h
  obtain ⟨_, _, hnext⟩ := Except.bind_eq_ok.mp hrest
  unfold requireBalance at hbalance
  cases hlookup : balances.lookup entry.userId with
  | none => simp [hlookup] at hbalance
  | some found =>
    simp only [hlookup] at hbalance
    split_ifs at hbalance with hlocked
    obtain rfl := Except.ok.inj hbalance
    exact ⟨found, rfl, not_lt.mp hlocked, (Except.ok.inj hnext).symm⟩

/-- The loop's effect on one balance. -/
def releasedBalance (credit : Entry → ℤ) (entries : List Entry) (userId : String)
    (balance : StakeBalance) : StakeBalance :=
  { balance with
    available := balance.available + userTotal credit entries userId
    locked := balance.locked - stakeOf entries userId }

/-- A loop body that releases each entry's stake for a credit and marks the entry. -/
def Releases (js : Runtime) (body : Balances → Entry → Except String (Entry × Balances))
    (credit : Entry → ℤ) (mark : Entry → Entry) (entries : List Entry) : Prop :=
  ∀ balances, ∀ e ∈ entries, body balances e = do
    let next ← releaseStake js balances e (credit e)
    return (mark e, next)

/-- The closed form of a release loop that goes through. -/
theorem mapEntries_eq_ok (hA : js.arithmetic.Exact)
    {body : Balances → Entry → Except String (Entry × Balances)} {credit : Entry → ℤ}
    {mark : Entry → Entry} {entries marked : List Entry} {balances final : Balances}
    (hbody : Releases js body credit mark entries)
    (h : mapEntries body balances entries = .ok (marked, final)) :
    marked = entries.map mark ∧
      (∀ userId, final.lookup userId =
        (balances.lookup userId).map (releasedBalance credit entries userId)) ∧
      heldTotal final = heldTotal balances + (entries.map credit).sum -
        (entries.map Entry.amount).sum ∧
      final.keys = balances.keys := by
  induction entries generalizing balances marked with
  | nil =>
    obtain ⟨rfl, rfl⟩ := Prod.mk.inj (Except.ok.inj h)
    refine ⟨rfl, fun userId => ?_, by simp, rfl⟩
    cases balances.lookup userId <;> simp [releasedBalance, stakeOf]
  | cons entry rest ih =>
    rw [mapEntries, hbody balances entry (List.mem_cons_self ..)] at h
    obtain ⟨⟨entry', balances'⟩, hhead, htail⟩ := Except.bind_eq_ok.mp h
    obtain ⟨next, hrelease, hmark⟩ := Except.bind_eq_ok.mp hhead
    obtain ⟨rfl, rfl⟩ := Prod.mk.inj (Except.ok.inj hmark)
    obtain ⟨⟨rest', final'⟩, hloop, hout⟩ := Except.bind_eq_ok.mp htail
    obtain ⟨rfl, rfl⟩ := Prod.mk.inj (Except.ok.inj hout)
    obtain ⟨rfl, hlookup, htotal, hkeys⟩ :=
      ih (fun b e he => hbody b e (List.mem_cons_of_mem _ he)) hloop
    obtain ⟨balance, hbalance, -, rfl⟩ := releaseStake_eq_ok hrelease
    refine ⟨rfl, fun userId => ?_, ?_, hkeys.trans (Table.keys_insert_of_lookup hbalance _)⟩
    · rw [hlookup, Table.lookup_insert]
      by_cases hu : userId = entry.userId
      · subst hu
        rw [if_pos rfl, hbalance, Option.map_some, Option.map_some]
        congr 1
        simp only [releasedBalance, userTotal_cons, stakeOf_cons, if_true, hA _]
        congr 1 <;> ring
      · rw [if_neg hu]
        cases balances.lookup userId with
        | none => rfl
        | some b =>
          simp [releasedBalance, userTotal_cons, stakeOf_cons, Ne.symm hu]
    · have hinsert := Table.total_insert_of_lookup
        (fun (_ : String) (b : StakeBalance) => b.available + b.locked) hbalance
        { balance with
          available := balance.available + credit entry
          locked := balance.locked - entry.amount }
      simp only [hA _] at htotal
      simp only [heldTotal] at *
      rw [htotal, List.map_cons, List.map_cons, List.sum_cons, List.sum_cons]
      linarith

end Yevow.DotCast
