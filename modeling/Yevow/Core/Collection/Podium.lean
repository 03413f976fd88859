import Mathlib.Data.Finset.Card
import Yevow.Core.Collection.Leaders
import Yevow.Core.Collection.Sorting

/-!
# Places for the leaders

Of each key one leader is kept, those that pass a test are sorted, and the first of them get a
place. Which of several leaders is kept and which of two that tie comes first is left to the order
of the list. The order cannot be told from the places exactly where nothing is left to it among
the elements that have a place in reach.
-/

/-- What places are given by, and what is read off the elements that get one. -/
structure Contest (κ α β : Type) where
  key : α → κ
  rank : α → ℤ
  passes : α → Bool
  compare : α → α → ℤ
  places : ℕ
  label : α → β

namespace Contest

variable {κ α β : Type} [DecidableEq κ] (c : Contest κ α β) (xs : List α)

/-- Labels tell keys and comparisons, and comparisons are consistent. -/
structure Lawful : Prop where
  key_eq : ∀ {x y}, c.label x = c.label y → c.key x = c.key y
  compare_eq : ∀ {x y x' y'}, c.label x = c.label x' → c.label y = c.label y' →
    c.compare x y = c.compare x' y'
  consistent : ∀ zs, Sorting.Consistent c.compare zs

/-- The leaders that pass, in the order of the comparison. -/
def entrants : List α :=
  Sorting.sortBy c.compare ((Rows.leaders c.key c.rank xs).rows.filter c.passes)

/-- Who gets a place. -/
def podium : List α := (c.entrants xs).take c.places

/-- The labels of those with a place, if no place stays empty. -/
def outcome : Option (List β) :=
  if (c.podium xs).length < c.places then none else some ((c.podium xs).map c.label)

/-- A leader that passes the test. -/
def Contends (x : α) : Prop := x ∈ xs ∧ Rows.Leading c.key c.rank xs x ∧ c.passes x

/-- Whoever leads the key passes the test and comes first. -/
def Ahead (x : α) (k : κ) : Prop :=
  ∀ y ∈ xs, c.key y = k → Rows.Leading c.key c.rank xs y → c.passes y ∧ c.compare y x < 0

open Classical in
/-- An element that can contend, with fewer keys always ahead of it than there are places. -/
def InReach (x : α) : Prop :=
  c.Contends xs x ∧ ((xs.map c.key).toFinset.filter (c.Ahead xs x)).card < c.places

open Classical in
/-- Keys with a leader that passes the test. -/
noncomputable def contenders : Finset κ :=
  (xs.map c.key).toFinset.filter fun k => ∃ x, c.Contends xs x ∧ c.key x = k

/-- Nothing is left to the order among the elements in reach. -/
structure Settled : Prop where
  same : ∀ x y, c.InReach xs x → y ∈ xs → c.key y = c.key x → Rows.Leading c.key c.rank xs y →
    c.passes y ∧ c.label y = c.label x
  distinct : ∀ x y, c.InReach xs x → c.InReach xs y → c.key x ≠ c.key y → c.compare x y ≠ 0

variable {c xs} {ys : List α} {x y : α} {k : κ}

/-! ## The entrants -/

/-- Sorting the entrants loses and adds none. -/
theorem perm_entrants (c : Contest κ α β) (xs : List α) :
    (c.entrants xs).Perm ((Rows.leaders c.key c.rank xs).rows.filter c.passes) :=
  Sorting.perm_sortBy _ _

theorem mem_entrants : x ∈ c.entrants xs ↔
    x ∈ (Rows.leaders c.key c.rank xs).rows ∧ c.passes x := by
  rw [(perm_entrants c xs).mem_iff, List.mem_filter]

theorem contends_of_mem_entrants (hx : x ∈ c.entrants xs) : c.Contends xs x := by
  obtain ⟨hrow, hpasses⟩ := mem_entrants.mp hx
  obtain ⟨hmem, hleading⟩ := Rows.mem_leaders hrow
  exact ⟨hmem, hleading, hpasses⟩

/-- No two entrants share a key. -/
theorem nodup_key_entrants (c : Contest κ α β) (xs : List α) :
    ((c.entrants xs).map c.key).Nodup :=
  (((perm_entrants c xs).map c.key).nodup_iff).mpr
    ((Rows.nodup_key_leaders xs).sublist (List.filter_sublist.map _))

/-- The entrants are in order where the comparison is lawful. -/
theorem pairwise_entrants (hc : c.Lawful) (xs : List α) :
    (c.entrants xs).Pairwise fun a b => c.compare a b ≤ 0 :=
  Sorting.pairwise_sortBy (Sorting.Consistent.respects hc.consistent) _

omit [DecidableEq κ] in
theorem Lawful.sign (hc : c.Lawful) (x y : α) : c.compare x y < 0 ↔ 0 < c.compare y x :=
  (hc.consistent [x, y]).sign x (by simp) y (by simp)

/-- No key has two places. -/
theorem nodup_key_podium (c : Contest κ α β) (xs : List α) : ((c.podium xs).map c.key).Nodup :=
  (nodup_key_entrants c xs).sublist ((List.take_sublist _ _).map _)

theorem mem_entrants_of_podium (hx : x ∈ c.podium xs) : x ∈ c.entrants xs := List.mem_of_mem_take hx

private theorem card_key_podium (c : Contest κ α β) (xs : List α) :
    ((c.podium xs).map c.key).toFinset.card = (c.podium xs).length := by
  rw [List.toFinset_card_of_nodup (nodup_key_podium c xs), List.length_map]

/-- Whoever has a place has it in reach. -/
theorem inReach_of_mem_podium (hc : c.Lawful) (hx : x ∈ c.podium xs) : c.InReach xs x := by
  classical
  refine ⟨contends_of_mem_entrants (mem_entrants_of_podium hx), ?_⟩
  obtain ⟨i, hi, hget⟩ := List.mem_take_iff_getElem.mp hx
  have hahead : (xs.map c.key).toFinset.filter (c.Ahead xs x) ⊆
      (((c.entrants xs).take i).map c.key).toFinset := by
    intro k hk
    obtain ⟨hmem, hk⟩ := Finset.mem_filter.mp hk
    obtain ⟨z, hz, rfl⟩ := List.mem_map.mp (List.mem_toFinset.mp hmem)
    obtain ⟨y, hy, hkey⟩ := Rows.exists_mem_leaders c.key c.rank hz
    obtain ⟨hyxs, hleading⟩ := Rows.mem_leaders hy
    obtain ⟨hpasses, hbefore⟩ := hk y hyxs hkey hleading
    obtain ⟨j, hj, rfl⟩ := List.mem_iff_getElem.mp (mem_entrants.mpr ⟨hy, hpasses⟩)
    have hji : j < i := by
      have hsign := hc.sign (c.entrants xs)[j] x
      by_contra hle
      rcases Nat.lt_or_eq_of_le (not_lt.mp hle) with hlt | rfl
      · have hafter := List.pairwise_iff_getElem.mp (pairwise_entrants hc xs) i j (by omega) hj hlt
        rw [hget] at hafter
        omega
      · rw [hget] at hbefore hsign
        omega
    rw [List.mem_toFinset, ← hkey]
    exact List.mem_map_of_mem (List.mem_take_iff_getElem.mpr ⟨j, by omega, rfl⟩)
  have hcard := Finset.card_le_card hahead
  have hlength := List.toFinset_card_le (((c.entrants xs).take i).map c.key)
  rw [List.length_map, List.length_take] at hlength
  omega

/-! ## Where nothing is left to the order -/

private theorem inReach_of_label (hc : c.Lawful) (hx : c.InReach xs x) (hy : c.Contends xs y)
    (hlabel : c.label y = c.label x) : c.InReach xs y := by
  refine ⟨hy, ?_⟩
  have hahead : c.Ahead xs y = c.Ahead xs x := by
    ext k
    unfold Ahead
    simp only [hc.compare_eq rfl hlabel]
  rw [hahead]
  exact hx.2

/-- Every key with an element in reach gets a place. -/
theorem exists_mem_podium (hc : c.Lawful) (hs : c.Settled xs) (hx : c.InReach xs x) :
    ∃ y ∈ c.podium xs, c.label y = c.label x := by
  classical
  obtain ⟨y, hy, hkey⟩ := Rows.exists_mem_leaders c.key c.rank hx.1.1
  obtain ⟨hmem, hleading⟩ := Rows.mem_leaders hy
  obtain ⟨hpasses, hlabel⟩ := hs.same x y hx hmem hkey hleading
  have hreach := inReach_of_label hc hx ⟨hmem, hleading, hpasses⟩ hlabel
  refine ⟨y, ?_, hlabel⟩
  by_contra hout
  have hentrant := mem_entrants.mpr ⟨hy, hpasses⟩
  have hsorted := pairwise_entrants hc xs
  have hnodup := nodup_key_entrants c xs
  rw [← List.take_append_drop c.places (c.entrants xs)] at hentrant hsorted
  have hlater := (List.mem_append.mp hentrant).resolve_left hout
  have hfull : (c.podium xs).length = c.places := by
    have := List.length_pos_of_mem hlater
    rw [List.length_drop] at this
    unfold podium
    rw [List.length_take]
    omega
  -- everyone with a place is strictly ahead, and there are as many of them as places
  have hahead : ((c.podium xs).map c.key).toFinset ⊆
      (xs.map c.key).toFinset.filter (c.Ahead xs y) := by
    intro k hk
    obtain ⟨z, hz, rfl⟩ := List.mem_map.mp (List.mem_toFinset.mp hk)
    have hzreach := inReach_of_mem_podium hc hz
    refine Finset.mem_filter.mpr ⟨List.mem_toFinset.mpr (List.mem_map_of_mem hzreach.1.1), ?_⟩
    intro w hw hwkey hwleading
    obtain ⟨hwpasses, hwlabel⟩ := hs.same z w hzreach hw hwkey hwleading
    have hle := (List.pairwise_append.mp hsorted).2.2 z hz y hlater
    have hne : c.key z ≠ c.key y := by
      intro heq
      obtain rfl := List.inj_on_of_nodup_map hnodup (mem_entrants_of_podium hz)
        (List.mem_of_mem_drop hlater) heq
      exact hout hz
    have htie := hs.distinct z y hzreach hreach hne
    rw [hc.compare_eq hwlabel rfl]
    exact ⟨hwpasses, by omega⟩
  have hcard := Finset.card_le_card hahead
  rw [card_key_podium, hfull] at hcard
  exact absurd hreach.2 (by omega)

omit [DecidableEq κ] in
private theorem leading_congr (hperm : ys.Perm xs) :
    Rows.Leading c.key c.rank ys = Rows.Leading c.key c.rank xs := by
  ext x
  unfold Rows.Leading
  simp only [hperm.mem_iff]

omit [DecidableEq κ] in
private theorem contends_congr (hperm : ys.Perm xs) : c.Contends ys = c.Contends xs := by
  ext x
  unfold Contends
  rw [hperm.mem_iff, leading_congr hperm]

private theorem inReach_congr (hperm : ys.Perm xs) : c.InReach ys = c.InReach xs := by
  ext x
  have hahead : c.Ahead ys x = c.Ahead xs x := by
    ext k
    unfold Ahead
    simp only [hperm.mem_iff, leading_congr hperm]
  unfold InReach
  rw [contends_congr hperm, hahead, List.toFinset_eq_of_perm _ _ (hperm.map c.key)]

private theorem contenders_congr (hperm : ys.Perm xs) : c.contenders ys = c.contenders xs := by
  unfold contenders
  rw [contends_congr hperm, List.toFinset_eq_of_perm _ _ (hperm.map c.key)]

/-- A settled contest does not depend on the order of its entries. -/
theorem settled_of_perm (hs : c.Settled xs) (hperm : ys.Perm xs) : c.Settled ys := by
  constructor
  · intro x y hx hy hkey hleading
    rw [inReach_congr hperm] at hx
    rw [leading_congr hperm] at hleading
    exact hs.same x y hx (hperm.mem_iff.mp hy) hkey hleading
  · intro x y hx hy
    rw [inReach_congr hperm] at hx hy
    exact hs.distinct x y hx hy

private theorem nodup_label_podium (hc : c.Lawful) (xs : List α) :
    ((c.podium xs).map c.label).Nodup := by
  have hkeys := nodup_key_podium c xs
  apply List.Nodup.map_on _ (List.Nodup.of_map _ hkeys)
  intro x hx y hy hlabel
  exact List.inj_on_of_nodup_map hkeys hx hy (hc.key_eq hlabel)

private theorem mem_label_podium_of_perm (hc : c.Lawful) (hs : c.Settled xs) (hperm : ys.Perm xs)
    {b : β} (hb : b ∈ (c.podium ys).map c.label) : b ∈ (c.podium xs).map c.label := by
  obtain ⟨x, hx, rfl⟩ := List.mem_map.mp hb
  have hreach := inReach_of_mem_podium hc hx
  rw [inReach_congr hperm] at hreach
  obtain ⟨y, hy, hlabel⟩ := exists_mem_podium hc hs hreach
  exact List.mem_map.mpr ⟨y, hy, hlabel⟩

/-- The places go to the same labels in the same order. -/
theorem map_label_podium_of_perm (hc : c.Lawful) (hs : c.Settled xs) (hperm : ys.Perm xs) :
    (c.podium ys).map c.label = (c.podium xs).map c.label := by
  have hsame : ((c.podium ys).map c.label).Perm ((c.podium xs).map c.label) := by
    rw [List.perm_ext_iff_of_nodup (nodup_label_podium hc ys) (nodup_label_podium hc xs)]
    intro b
    constructor
    · exact mem_label_podium_of_perm hc hs hperm
    · exact mem_label_podium_of_perm hc (settled_of_perm hs hperm) hperm.symm
  have hsorted : ∀ zs, ((c.podium zs).map c.label).Pairwise fun a b =>
      ∃ x y, c.label x = a ∧ c.label y = b ∧ c.compare x y ≤ 0 := by
    intro zs
    rw [List.pairwise_map]
    apply ((pairwise_entrants hc zs).sublist (List.take_sublist _ _)).imp
    intro x y hle
    exact ⟨x, y, rfl, rfl, hle⟩
  apply hsame.eq_of_pairwise _ (hsorted ys) (hsorted xs)
  rintro _ _ ha hb ⟨x, y, rfl, rfl, hle⟩ ⟨y', x', hy', hx', hle'⟩
  obtain ⟨z, hz, hzx⟩ := List.mem_map.mp (mem_label_podium_of_perm hc hs hperm ha)
  obtain ⟨w, hw, hwy⟩ := List.mem_map.mp hb
  have hzreach := inReach_of_mem_podium hc hz
  have hwreach := inReach_of_mem_podium hc hw
  by_cases hkey : c.key w = c.key z
  · rw [← hzx, ← hwy, (hs.same z w hzreach hwreach.1.1 hkey hwreach.1.2.1).2]
  · have htie := hs.distinct z w hzreach hwreach (Ne.symm hkey)
    rw [hc.compare_eq hzx hwy] at htie
    rw [hc.compare_eq hy' hx'] at hle'
    have := hc.sign x y
    omega

/-- There are no more places taken than contenders. -/
theorem length_podium_le (c : Contest κ α β) (xs : List α) :
    (c.podium xs).length ≤ (c.contenders xs).card := by
  classical
  rw [← card_key_podium]
  apply Finset.card_le_card
  intro k hk
  obtain ⟨x, hx, rfl⟩ := List.mem_map.mp (List.mem_toFinset.mp hk)
  have hcontends := contends_of_mem_entrants (mem_entrants_of_podium hx)
  exact Finset.mem_filter.mpr ⟨List.mem_toFinset.mpr (List.mem_map_of_mem hcontends.1),
    x, hcontends, rfl⟩

/-! ## Putting a list into an order -/

omit [DecidableEq κ] in
private theorem exists_map_key_eq {P : α → Prop} {ks : List κ}
    (h : ∀ k ∈ ks, ∃ x, c.key x = k ∧ P x) :
    ∃ zs : List α, zs.map c.key = ks ∧ ∀ x ∈ zs, P x := by
  induction ks with
  | nil => exact ⟨[], rfl, fun x hx => absurd hx List.not_mem_nil⟩
  | cons k ks ih =>
    obtain ⟨x, hkey, hx⟩ := h k List.mem_cons_self
    obtain ⟨zs, hzs, hall⟩ := ih fun k hk => h k (List.mem_cons_of_mem _ hk)
    refine ⟨x :: zs, by rw [List.map_cons, hkey, hzs], fun y hy => ?_⟩
    rcases List.mem_cons.mp hy with rfl | hy
    · exact hx
    · exact hall y hy

/-- Chosen leaders can be put first, and the others chosen by a preference. -/
theorem exists_arrangement (c : Contest κ α β) (xs : List α) (prefers : α → Prop) (front : List α)
    (hfront : (front.map c.key).Nodup)
    (hleading : ∀ x ∈ front, x ∈ xs ∧ Rows.Leading c.key c.rank xs x) :
    ∃ ys rest, ys.Perm xs ∧ (Rows.leaders c.key c.rank ys).rows = front ++ rest ∧
      ∀ y ∈ rest, (∃ z ∈ xs, c.key z = c.key y ∧ Rows.Leading c.key c.rank xs z ∧ prefers z) →
        prefers y := by
  have hchoice : ∀ k ∈ (xs.map c.key).dedup.filter fun k => k ∉ front.map c.key, ∃ x, c.key x = k ∧
      ((x ∈ xs ∧ Rows.Leading c.key c.rank xs x) ∧
        ((∃ z ∈ xs, c.key z = c.key x ∧ Rows.Leading c.key c.rank xs z ∧ prefers z) →
          prefers x)) := by
    intro k hk
    by_cases hprefers : ∃ z ∈ xs, c.key z = k ∧ Rows.Leading c.key c.rank xs z ∧ prefers z
    · obtain ⟨z, hz, hkey, hleads, hp⟩ := hprefers
      exact ⟨z, hkey, ⟨hz, hleads⟩, fun _ => hp⟩
    · obtain ⟨w, hw, rfl⟩ := List.mem_map.mp (List.mem_dedup.mp (List.mem_of_mem_filter hk))
      obtain ⟨y, hy, hkey⟩ := Rows.exists_mem_leaders c.key c.rank hw
      refine ⟨y, hkey, Rows.mem_leaders hy, fun h => ?_⟩
      rw [hkey] at h
      exact absurd h hprefers
  obtain ⟨rest, hkeys, hrest⟩ := exists_map_key_eq hchoice
  have hnodup : ((front ++ rest).map c.key).Nodup := by
    rw [List.map_append, hkeys, List.nodup_append]
    refine ⟨hfront, (List.nodup_dedup _).filter _, ?_⟩
    rintro k hk _ hk' rfl
    exact of_decide_eq_true (List.mem_filter.mp hk').2 hk
  have hlead : ∀ x ∈ front ++ rest, x ∈ xs ∧ Rows.Leading c.key c.rank xs x := by
    intro x hx
    rcases List.mem_append.mp hx with hx | hx
    · exact hleading x hx
    · exact (hrest x hx).1
  have hcover : ∀ x ∈ xs, c.key x ∈ (front ++ rest).map c.key := by
    intro x hx
    rw [List.map_append, hkeys, List.mem_append]
    by_cases hmem : c.key x ∈ front.map c.key
    · exact Or.inl hmem
    · exact Or.inr (List.mem_filter.mpr
        ⟨List.mem_dedup.mpr (List.mem_map_of_mem hx), decide_eq_true hmem⟩)
  obtain ⟨zs, hzs, hsub⟩ :=
    List.subperm_of_subset (List.Nodup.of_map _ hnodup) fun x hx => (hlead x hx).1
  obtain ⟨others, hothers⟩ := hsub.exists_perm_append
  have hperm : (front ++ rest ++ others).Perm xs :=
    (hzs.symm.append_right others).trans hothers.symm
  refine ⟨front ++ rest ++ others, rest, hperm, ?_, fun y hy => (hrest y hy).2⟩
  apply Rows.rows_leaders_of_leading hnodup
  · intro x hx
    rw [leading_congr hperm]
    exact (hlead x hx).2
  · intro z hz
    exact hcover z (hperm.mem_iff.mp (List.mem_append_right _ hz))

/-- A leader that is kept first stands behind those only that compare as smaller. -/
private theorem exists_entrants_eq {rest : List α} (hc : c.Lawful)
    (hrows : (Rows.leaders c.key c.rank ys).rows = x :: rest) (hx : c.passes x) :
    ∃ before after, c.entrants ys = before ++ x :: after ∧
      ∀ y ∈ before, y ∈ rest ∧ c.passes y ∧ c.compare y x < 0 := by
  have hentrants : c.entrants ys =
      (Sorting.sortBy c.compare (rest.filter c.passes)).orderedInsert
        (fun a b => c.compare a b ≤ 0) x := by
    unfold entrants
    rw [hrows, List.filter_cons_of_pos hx]
    rfl
  rw [List.orderedInsert_eq_take_drop] at hentrants
  refine ⟨_, _, hentrants, fun y hy => ?_⟩
  have hmem := (List.mem_filter.mp
    ((Sorting.perm_sortBy c.compare _).mem_iff.mp (List.takeWhile_subset _ hy)))
  have hafter := of_decide_eq_true (List.all_eq_true.mp List.all_takeWhile y hy)
  have := hc.sign y x
  exact ⟨hmem.1, hmem.2, by omega⟩

/-- An element in reach has a place in some order, with nobody before it that does not compare as
smaller. -/
theorem exists_podium_eq (hc : c.Lawful) (hx : c.InReach xs x) :
    ∃ ys before after, ys.Perm xs ∧ c.podium ys = before ++ x :: after ∧
      ∀ y ∈ before, c.compare y x < 0 := by
  classical
  obtain ⟨ys, rest, hperm, hrows, hrest⟩ :=
    exists_arrangement c xs (fun y => ¬(c.passes y ∧ c.compare y x < 0)) [x]
      (List.nodup_singleton (c.key x)) (by simpa using ⟨hx.1.1, hx.1.2.1⟩)
  obtain ⟨before, after, hentrants, hbefore⟩ := exists_entrants_eq hc hrows hx.1.2.2
  have hnodup := nodup_key_entrants c ys
  rw [hentrants, List.map_append, List.nodup_append] at hnodup
  have hahead : (before.map c.key).toFinset ⊆ (xs.map c.key).toFinset.filter (c.Ahead xs x) := by
    intro k hk
    obtain ⟨y, hy, rfl⟩ := List.mem_map.mp (List.mem_toFinset.mp hk)
    have hcontends : c.Contends ys y :=
      contends_of_mem_entrants (by rw [hentrants]; exact List.mem_append_left _ hy)
    rw [contends_congr hperm] at hcontends
    refine Finset.mem_filter.mpr ⟨List.mem_toFinset.mpr (List.mem_map_of_mem hcontends.1), ?_⟩
    intro z hz hkey hleading
    by_contra hnot
    exact hrest y (hbefore y hy).1 ⟨z, hz, hkey, hleading, hnot⟩ (hbefore y hy).2
  have hcard := Finset.card_le_card hahead
  rw [List.toFinset_card_of_nodup hnodup.1, List.length_map] at hcard
  have hlt := hx.2
  refine ⟨ys, before, after.take (c.places - before.length - 1), hperm, ?_,
    fun y hy => (hbefore y hy).2.2⟩
  obtain ⟨n, hn⟩ : ∃ n, c.places - before.length = n + 1 := ⟨c.places - before.length - 1, by omega⟩
  unfold podium
  rw [hentrants, List.take_append, List.take_of_length_le (by omega), hn, List.take_succ_cons,
    Nat.add_sub_cancel]

/-! ## Where something is left to the order -/

private theorem ne_of_split {a b : β} {as bs as' bs' : List β} (hb : b ∈ bs) (ha : a ∈ bs')
    (hnodup : (as ++ a :: bs).Nodup) : as ++ a :: bs ≠ as' ++ b :: bs' := by
  intro heq
  have hnodup' := heq ▸ hnodup
  have hnot := (List.nodup_cons.mp (List.nodup_append.mp hnodup).2.1).1
  have hnot' := (List.nodup_cons.mp (List.nodup_append.mp hnodup').2.1).1
  rcases List.append_eq_append_iff.mp heq with ⟨t, -, ht⟩ | ⟨t, -, ht⟩
  · cases t with
    | nil => exact hnot ((List.cons.inj ht).1 ▸ hb)
    | cons d t =>
      have hbs := (List.cons.inj ht).2
      exact hnot (by rw [hbs]; simp [ha])
  · cases t with
    | nil => exact hnot' ((List.cons.inj ht).1 ▸ ha)
    | cons d t =>
      have hbs := (List.cons.inj ht).2
      exact hnot' (by rw [hbs]; simp [hb])

private theorem settled_of_same (hc : c.Lawful)
    (h : ∀ ys, ys.Perm xs → (c.podium ys).map c.label = (c.podium xs).map c.label) :
    c.Settled xs := by
  have hmem : ∀ x ys, c.InReach xs x → ys.Perm xs → ∃ z ∈ c.podium ys, c.label z = c.label x := by
    intro x ys hx hperm
    obtain ⟨zs, before, after, hzs, hpodium, -⟩ := exists_podium_eq hc hx
    have hlabel : c.label x ∈ (c.podium zs).map c.label := by
      rw [hpodium]
      exact List.mem_map_of_mem (by simp)
    rw [h zs hzs, ← h ys hperm] at hlabel
    exact List.mem_map.mp hlabel
  constructor
  · intro x y hx hy hkey hleading
    obtain ⟨ys, rest, hperm, hrows, -⟩ :=
      exists_arrangement c xs (fun _ => True) [y] (List.nodup_singleton (c.key y))
        (by simpa using ⟨hy, hleading⟩)
    obtain ⟨z, hz, hlabel⟩ := hmem x ys hx hperm
    obtain ⟨hrow, hpasses⟩ := mem_entrants.mp (mem_entrants_of_podium hz)
    have hyrow : y ∈ (Rows.leaders c.key c.rank ys).rows := by
      rw [hrows]
      exact List.mem_cons_self
    obtain rfl := List.inj_on_of_nodup_map (Rows.nodup_key_leaders ys) hrow hyrow
      ((hc.key_eq hlabel).trans hkey.symm)
    exact ⟨hpasses, hlabel⟩
  · intro x y hx hy hkey htie
    have hafter : ∀ u v, c.InReach xs u → c.InReach xs v → c.key u ≠ c.key v → c.compare v u = 0 →
        ∃ before after, (c.podium xs).map c.label = before ++ c.label u :: after ∧
          c.label v ∈ after := by
      intro u v hu hv huv hzero
      obtain ⟨ys, before, after, hperm, hpodium, hbefore⟩ := exists_podium_eq hc hu
      obtain ⟨z, hz, hlabel⟩ := hmem v ys hv hperm
      refine ⟨before.map c.label, after.map c.label, ?_, ?_⟩
      · rw [← h ys hperm, hpodium, List.map_append, List.map_cons]
      · rw [hpodium, List.mem_append, List.mem_cons] at hz
        rcases hz with hz | rfl | hz
        · have hlt := hbefore z hz
          rw [hc.compare_eq hlabel rfl] at hlt
          omega
        · exact absurd (hc.key_eq hlabel) huv
        · rw [← hlabel]
          exact List.mem_map_of_mem hz
    have hsign := hc.sign x y
    have hsign' := hc.sign y x
    obtain ⟨as, bs, hxy, hb⟩ := hafter x y hx hy hkey (by omega)
    obtain ⟨as', bs', hyx, ha⟩ := hafter y x hy hx hkey.symm htie
    have hnodup := nodup_label_podium hc xs
    rw [hxy] at hnodup
    exact ne_of_split hb ha hnodup (hxy.symm.trans hyx)

private theorem exists_places_filled (h : c.places ≤ (c.contenders xs).card) :
    ∃ ys, ys.Perm xs ∧ c.places ≤ (c.podium ys).length := by
  classical
  obtain ⟨ys, rest, hperm, hrows, hrest⟩ :=
    exists_arrangement c xs (fun y => c.passes y) [] List.nodup_nil
      fun x hx => absurd hx List.not_mem_nil
  refine ⟨ys, hperm, ?_⟩
  have hsub : c.contenders xs ⊆ ((c.entrants ys).map c.key).toFinset := by
    intro k hk
    obtain ⟨-, x, hx, rfl⟩ := Finset.mem_filter.mp hk
    obtain ⟨y, hy, hkey⟩ := Rows.exists_mem_leaders c.key c.rank (hperm.mem_iff.mpr hx.1)
    have hpasses := hrest y (by rw [hrows] at hy; exact hy) ⟨x, hx.1, hkey.symm, hx.2.1, hx.2.2⟩
    rw [List.mem_toFinset, ← hkey]
    exact List.mem_map_of_mem (mem_entrants.mpr ⟨hy, hpasses⟩)
  have hcard := (Finset.card_le_card hsub).trans (List.toFinset_card_le _)
  rw [List.length_map] at hcard
  unfold podium
  rw [List.length_take]
  omega

/-- The order of a list cannot be told from its places exactly where there are too few contenders
for them or nothing is left to the order among the elements in reach. -/
theorem Lawful.outcome_eq_iff (hc : c.Lawful) (xs : List α) :
    (∀ ys, ys.Perm xs → c.outcome ys = c.outcome xs) ↔
      (c.contenders xs).card < c.places ∨ c.Settled xs := by
  constructor
  · intro h
    rcases Nat.lt_or_ge (c.contenders xs).card c.places with hfew | henough
    · exact Or.inl hfew
    · obtain ⟨zs, hzs, hlength⟩ := exists_places_filled henough
      have hsome := h zs hzs
      unfold outcome at hsome
      rw [if_neg (by omega)] at hsome
      refine Or.inr (settled_of_same hc fun ys hperm => ?_)
      have hys := h ys hperm
      unfold outcome at hys
      split_ifs at hsome hys with hxs hys'
      · exact Option.some.inj hys
  · rintro (hfew | hs) ys hperm
    · have hxs := length_podium_le c xs
      have hys := length_podium_le c ys
      rw [contenders_congr hperm] at hys
      unfold outcome
      rw [if_pos (by omega), if_pos (by omega)]
    · have hlabels := map_label_podium_of_perm hc hs hperm
      have hlength := congrArg List.length hlabels
      rw [List.length_map, List.length_map] at hlength
      unfold outcome
      rw [hlength, hlabels]

end Contest
