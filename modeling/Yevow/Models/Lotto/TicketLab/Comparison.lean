import Yevow.Core.JavaScript.Reference
import Yevow.Core.Text.CodeUnits
import Yevow.Models.Lotto.TicketLab.Scorecard

/-!
# Rows that are compared

Graded tickets of different origins are compared stratum by stratum: those for the same draw. From
a stratum that all origins share each gives as many rows as the one with the fewest has.
-/

namespace Yevow.Lotto.TicketLab

/-! ## Selection -/

section Model

variable (host : LabHost)

/-- Rows by their origin. -/
abbrev Cohort : Type := Rows Origin (List JoinedTrackRow)

/-- The draw of a ticket. -/
def strataKey (row : JoinedTrackRow) : String :=
  row.game.code ++ "|" ++ (row.drawDate ++ "|" ++ row.targetSession.text)

/-- The tickets of one origin. -/
def bucketOf (cohort : Cohort) (origin : Origin) : List JoinedTrackRow :=
  (cohort.get? origin).getD []

/-- A ticket joins the stratum of its draw. -/
def addToStrata (origins : List Origin) (strata : Rows String Cohort) (row : JoinedTrackRow) :
    Rows String Cohort :=
  if row.origin ∈ origins then
    let byOrigin := (strata.get? (strataKey row)).getD Rows.empty
    strata.set (strataKey row) (byOrigin.set row.origin (bucketOf byOrigin row.origin ++ [row]))
  else strata

/-- The order in which tickets are chosen. -/
def deterministicOrder (left right : JoinedTrackRow) : Prop :=
  host.js.localeCompare.compare (left.ledgerId ++ "|" ++ padStart 6 left.ordinal)
    (right.ledgerId ++ "|" ++ padStart 6 right.ordinal) ≤ 0

instance : DecidableRel (deterministicOrder host) := fun _ _ => inferInstanceAs (Decidable (_ ≤ _))

/-- `Math.min` of the sizes of the buckets. -/
def smallest (origins : List Origin) (cohort : Cohort) : ℕ :=
  ((origins.map fun origin => (bucketOf cohort origin).length).min?).getD 0

/-- The first tickets of an origin. -/
def chooseRows (cohort : Cohort) (count : ℕ) (selected : Cohort) (origin : Origin) : Cohort :=
  selected.set origin (bucketOf selected origin ++
    ((bucketOf cohort origin).insertionSort (deterministicOrder host)).take count)

/-- As many tickets of each origin as all have. -/
def chooseStratum (origins : List Origin) (strata : Rows String Cohort) (state : Cohort × ℕ)
    (key : String) : Cohort × ℕ :=
  let cohort := (strata.get? key).getD Rows.empty
  if origins.all fun origin => 0 < (bucketOf cohort origin).length then
    let count := smallest origins cohort
    if count < 1 then state
    else (origins.foldl (chooseRows host cohort count) state.1, state.2 + 1)
  else state

/-- The chosen tickets of each origin. -/
structure MatchedRows where
  origins : List Origin
  byOrigin : Cohort
  sharedStrata : ℕ
  ticketsPerOrigin : ℕ

/-- The eligible tickets that were graded. -/
def gradedRows (rows : List JoinedTrackRow) : List JoinedTrackRow :=
  rows.filter fun row => row.eligibilityEligible = some 1 && row.ticketGradeId.isSome

/-- The origins that are compared. -/
def comparedOrigins (graded : List JoinedTrackRow) : List Origin :=
  if graded.any fun row => row.origin = .user then [.system, .random, .user]
  else [.system, .random]

/-- The same number of tickets of each origin, draw by draw. -/
def matchedComparisonRows (rows : List JoinedTrackRow) : MatchedRows :=
  let graded := gradedRows rows
  let origins := comparedOrigins graded
  let strata := graded.foldl (addToStrata origins) Rows.empty
  let keys := (strata.entries.map Prod.fst).insertionSort
    fun left right => Text.codeUnits left ≤ Text.codeUnits right
  let nothing : Cohort := origins.foldl (fun selected origin => selected.set origin []) Rows.empty
  let selection := keys.foldl (chooseStratum host origins strata) (nothing, 0)
  { origins
    byOrigin := selection.1
    sharedStrata := selection.2
    ticketsPerOrigin := (bucketOf selection.1 (origins.headD .system)).length }

end Model

/-! ## Strata -/

section Strata

variable {origins : List Origin} {graded : List JoinedTrackRow}

/-- The rows of an origin in a stratum. -/
def cell (graded : List JoinedTrackRow) (key : String) (origin : Origin) : List JoinedTrackRow :=
  graded.filter fun row => strataKey row = key ∧ row.origin = origin

private theorem strata_concat (graded : List JoinedTrackRow) (row : JoinedTrackRow) :
    (graded ++ [row]).foldl (addToStrata origins) Rows.empty =
      addToStrata origins (graded.foldl (addToStrata origins) Rows.empty) row := by
  rw [List.foldl_append]
  rfl

private theorem bucketOf_strata {origin : Origin} (horigin : origin ∈ origins)
    (graded : List JoinedTrackRow) (key : String) :
    bucketOf (((graded.foldl (addToStrata origins) Rows.empty).get? key).getD Rows.empty) origin =
      cell graded key origin := by
  induction graded using List.reverseRecOn with
  | nil => rfl
  | append_singleton graded row ih =>
    rw [strata_concat, cell, List.filter_append, ← cell, ← ih, addToStrata]
    by_cases hin : row.origin ∈ origins
    · rw [if_pos hin, Rows.get?_set]
      by_cases hkey : key = strataKey row
      · subst hkey
        rw [if_pos rfl, Option.getD_some, bucketOf, Rows.get?_set]
        by_cases hrow : origin = row.origin
        · subst hrow
          rw [if_pos rfl, Option.getD_some, List.filter_singleton, decide_eq_true ⟨rfl, rfl⟩,
            cond_true]
        · rw [if_neg hrow, List.filter_singleton, decide_eq_false (fun h => hrow h.2.symm),
            cond_false, List.append_nil]
          rfl
      · rw [if_neg hkey, List.filter_singleton, decide_eq_false (fun h => hkey h.1.symm),
          cond_false, List.append_nil]
    · have hrow : row.origin ≠ origin := fun h => hin (h ▸ horigin)
      rw [if_neg hin, List.filter_singleton, decide_eq_false (fun h => hrow h.2), cond_false,
        List.append_nil]

/-- A stratum with rows of a compared origin is one of the keys. -/
theorem mem_keys_of_cell {key : String} {origin : Origin} (horigin : origin ∈ origins)
    (h : cell graded key origin ≠ []) :
    key ∈ (graded.foldl (addToStrata origins) Rows.empty).entries.map Prod.fst := by
  rw [← bucketOf_strata horigin] at h
  by_contra hnot
  rw [Rows.get?_eq_none_iff.mpr hnot] at h
  exact h rfl

end Strata

/-! ## Chosen rows -/

section Chosen

variable (host : LabHost) (origins : List Origin) (graded : List JoinedTrackRow)

/-- The rows of the smallest cell of a stratum. -/
def smallestCell (key : String) : ℕ :=
  ((origins.map fun origin => (cell graded key origin).length).min?).getD 0

/-- The rows of an origin that are chosen from a stratum. -/
def chosenFrom (key : String) (origin : Origin) : List JoinedTrackRow :=
  ((cell graded key origin).insertionSort (deterministicOrder host)).take
    (smallestCell origins graded key)

variable {host origins graded}

private theorem bucketOf_chooseRows {cohort : Cohort} {count : ℕ} {selected : Cohort}
    (hnodup : origins.Nodup) {origin : Origin} (horigin : origin ∈ origins) :
    bucketOf (origins.foldl (chooseRows host cohort count) selected) origin =
      bucketOf selected origin ++
        ((bucketOf cohort origin).insertionSort (deterministicOrder host)).take count := by
  have hstep : ∀ (selected : Cohort) (other : Origin), bucketOf (chooseRows host cohort count
      selected other) origin = if origin = other then bucketOf selected origin ++
        ((bucketOf cohort origin).insertionSort (deterministicOrder host)).take count
      else bucketOf selected origin := by
    intro selected other
    rw [chooseRows, bucketOf, Rows.get?_set]
    split_ifs with h
    · rw [h, Option.getD_some]
    · rfl
  have hskip : ∀ (others : List Origin) (selected : Cohort), origin ∉ others →
      bucketOf (others.foldl (chooseRows host cohort count) selected) origin =
        bucketOf selected origin := by
    intro others
    induction others with
    | nil => exact fun _ _ => rfl
    | cons other others ih =>
      intro selected hnot
      rw [List.mem_cons, not_or] at hnot
      rw [List.foldl_cons, ih _ hnot.2, hstep, if_neg hnot.1]
  induction origins generalizing selected with
  | nil => exact absurd horigin List.not_mem_nil
  | cons other others ih =>
    obtain ⟨hfresh, hrest⟩ := List.nodup_cons.mp hnodup
    rw [List.foldl_cons]
    rcases List.mem_cons.mp horigin with rfl | hin
    · rw [hskip others _ hfresh, hstep, if_pos rfl]
    · have hne : origin ≠ other := fun h => hfresh (h ▸ hin)
      rw [ih hrest hin, hstep, if_neg hne]

/-- What a stratum adds to the rows of an origin. -/
theorem bucketOf_chooseStratum (hnodup : origins.Nodup) {origin : Origin}
    (horigin : origin ∈ origins) (state : Cohort × ℕ) (key : String) :
    bucketOf (chooseStratum host origins (graded.foldl (addToStrata origins) Rows.empty) state
        key).1 origin =
      bucketOf state.1 origin ++ chosenFrom host origins graded key origin := by
  have hsmallest : smallest origins (((graded.foldl (addToStrata origins) Rows.empty).get?
      key).getD Rows.empty) = smallestCell origins graded key := by
    rw [smallest, smallestCell]
    congr 2
    apply List.map_congr_left
    intro other hother
    rw [bucketOf_strata hother]
  rw [chooseStratum, chosenFrom]
  dsimp only
  rw [hsmallest]
  split_ifs with hall hcount
  · have hzero : smallestCell origins graded key = 0 := by omega
    rw [hzero, List.take_zero, List.append_nil]
  · rw [bucketOf_chooseRows hnodup horigin, bucketOf_strata horigin]
  · -- a cell without rows makes the smallest one empty
    have hzero : smallestCell origins graded key = 0 := by
      rw [List.all_eq_true, not_forall] at hall
      obtain ⟨other, hother⟩ := hall
      rw [Classical.not_imp, decide_eq_true_eq, Nat.pos_iff_ne_zero, not_not] at hother
      rw [bucketOf_strata hother.1] at hother
      have hmem : 0 ∈ origins.map fun origin => (cell graded key origin).length :=
        List.mem_map.mpr ⟨other, hother.1, hother.2⟩
      rw [smallestCell, List.min?_eq_some_iff.mpr ⟨hmem, fun _ _ => Nat.zero_le _⟩,
        Option.getD_some]
    rw [hzero, List.take_zero, List.append_nil]

private theorem bucketOf_selection (hnodup : origins.Nodup)
    {origin : Origin} (horigin : origin ∈ origins)
    (keys : List String) (state : Cohort × ℕ) :
    bucketOf (keys.foldl (chooseStratum host origins
        (graded.foldl (addToStrata origins) Rows.empty)) state).1 origin =
      bucketOf state.1 origin ++
        keys.flatMap fun key => chosenFrom host origins graded key origin := by
  induction keys generalizing state with
  | nil => exact (List.append_nil _).symm
  | cons key keys ih =>
    rw [List.foldl_cons, ih, bucketOf_chooseStratum hnodup horigin, List.flatMap_cons,
      List.append_assoc]

private theorem mem_chosenFrom {key : String} {origin : Origin} {row : JoinedTrackRow}
    (h : row ∈ chosenFrom host origins graded key origin) :
    row ∈ graded ∧ strataKey row = key ∧ row.origin = origin := by
  have hcell := (List.mem_insertionSort _).mp (List.mem_of_mem_take h)
  rwa [cell, List.mem_filter, decide_eq_true_eq] at hcell

/-- Each origin has as many rows as the one with the fewest. -/
theorem length_chosenFrom {key : String} {origin : Origin} (horigin : origin ∈ origins) :
    (chosenFrom host origins graded key origin).length = smallestCell origins graded key := by
  have hle : smallestCell origins graded key ≤ (cell graded key origin).length := by
    rw [smallestCell]
    cases hmin : (origins.map fun origin => (cell graded key origin).length).min? with
    | none => exact Nat.zero_le _
    | some least => exact (List.min?_eq_some_iff.mp hmin).2 _ (List.mem_map_of_mem horigin)
  rw [chosenFrom, List.length_take, List.length_insertionSort, min_eq_left hle]

private theorem smallestCell_pos {key : String} (horigins : origins ≠ [])
    (h : ∀ origin ∈ origins, cell graded key origin ≠ []) :
    0 < smallestCell origins graded key := by
  rw [smallestCell]
  cases hmin : (origins.map fun origin => (cell graded key origin).length).min? with
  | none =>
    rw [List.min?_eq_none_iff, List.map_eq_nil_iff] at hmin
    exact absurd hmin horigins
  | some least =>
    obtain ⟨origin, horigin, rfl⟩ := List.mem_map.mp (List.min?_eq_some_iff.mp hmin).1
    exact List.length_pos_iff.mpr (h origin horigin)

end Chosen

/-! ## Fair comparison -/

section Fair

variable {host : LabHost} {rows : List JoinedTrackRow}

/-- The draw of a ticket. -/
def stratumOf (row : JoinedTrackRow) : GameCode × String × Session :=
  (row.game, row.drawDate, row.targetSession)

/-- How many rows of a stratum were chosen for an origin. -/
def chosenIn (result : MatchedRows) (stratum : GameCode × String × Session) (origin : Origin) : ℕ :=
  ((bucketOf result.byOrigin origin).filter fun row => stratumOf row = stratum).length

/-- The origins that are compared, the user's if it has a graded row, have the same number of rows
in each stratum, some in each that they share; all rows are eligible and graded, and none is
chosen twice. -/
structure FairlyMatched (rows : List JoinedTrackRow) (result : MatchedRows) : Prop where
  compared : ∀ origin, origin ∈ result.origins ↔ origin = .system ∨ origin = .random ∨
    origin = .user ∧ ∃ row ∈ rows, row.eligibilityEligible = some 1 ∧ row.ticketGradeId.isSome ∧
      row.origin = .user
  graded : ∀ origin ∈ result.origins, ∀ row ∈ bucketOf result.byOrigin origin,
    row ∈ rows ∧ row.eligibilityEligible = some 1 ∧ row.ticketGradeId.isSome ∧ row.origin = origin
  same : ∀ first ∈ result.origins, ∀ second ∈ result.origins, ∀ stratum,
    chosenIn result stratum first = chosenIn result stratum second
  shared : ∀ stratum, (∀ origin ∈ result.origins, ∃ row ∈ rows, row.eligibilityEligible = some 1 ∧
      row.ticketGradeId.isSome ∧ row.origin = origin ∧ stratumOf row = stratum) →
    ∀ origin ∈ result.origins, 0 < chosenIn result stratum origin
  once : (result.origins.flatMap (bucketOf result.byOrigin)).Nodup

private theorem mem_gradedRows {row : JoinedTrackRow} :
    row ∈ gradedRows rows ↔
      row ∈ rows ∧ row.eligibilityEligible = some 1 ∧ row.ticketGradeId.isSome := by
  rw [gradedRows, List.mem_filter, Bool.and_eq_true, decide_eq_true_eq]

private theorem mem_comparedOrigins_gradedRows {origin : Origin} :
    origin ∈ comparedOrigins (gradedRows rows) ↔ origin = .system ∨ origin = .random ∨
      origin = .user ∧ ∃ row ∈ rows, row.eligibilityEligible = some 1 ∧ row.ticketGradeId.isSome ∧
        row.origin = .user := by
  have huser : (gradedRows rows).any (fun row => row.origin = .user) = true ↔
      ∃ row ∈ rows, row.eligibilityEligible = some 1 ∧ row.ticketGradeId.isSome ∧
        row.origin = .user := by
    simp only [List.any_eq_true, mem_gradedRows, decide_eq_true_eq, and_assoc]
  rw [← huser, comparedOrigins]
  split_ifs with h
  · simp [h]
  · simp [h]

private theorem nodup_comparedOrigins (graded : List JoinedTrackRow) :
    (comparedOrigins graded).Nodup := by
  unfold comparedOrigins
  split_ifs
  · decide
  · decide

private theorem comparedOrigins_ne_nil (graded : List JoinedTrackRow) :
    comparedOrigins graded ≠ [] := by
  unfold comparedOrigins
  split_ifs
  · exact List.cons_ne_nil _ _
  · exact List.cons_ne_nil _ _

private theorem strataKey_eq_iff (h : JoinedRows rows) {a b : JoinedTrackRow} (ha : a ∈ rows)
    (hb : b ∈ rows) : strataKey a = strataKey b ↔ stratumOf a = stratumOf b := by
  have hcode : ∀ game : GameCode, Text.Free '|' game.code := by
    intro game
    cases game <;> decide
  have hcodes : Function.Injective GameCode.code := by
    intro game other
    cases game <;> cases other <;> decide
  have hsessions : Function.Injective Session.text := by
    intro session other
    cases session <;> cases other <;> decide
  constructor
  · intro hkey
    obtain ⟨hgame, hrest⟩ := parts_eq (hcode _) (hcode _) hkey
    obtain ⟨hdate, hsession⟩ := parts_eq (h.dates a ha).1 (h.dates b hb).1 hrest
    rw [stratumOf, stratumOf, hcodes hgame, hdate, hsessions hsession]
  · intro hstratum
    rw [stratumOf, stratumOf, Prod.mk.injEq, Prod.mk.injEq] at hstratum
    rw [strataKey, strataKey, hstratum.1, hstratum.2.1, hstratum.2.2]

private theorem bucketOf_nothing (origins : List Origin) (origin : Origin) (selected : Cohort)
    (h : bucketOf selected origin = []) :
    bucketOf (origins.foldl (fun selected origin => selected.set origin []) selected) origin =
      [] := by
  induction origins generalizing selected with
  | nil => exact h
  | cons other others ih =>
    rw [List.foldl_cons]
    apply ih
    rw [bucketOf, Rows.get?_set]
    split_ifs
    · rfl
    · exact h

variable (host rows) in
/-- The strata in the order in which they are looked at. -/
private def sortedKeys : List String :=
  (((gradedRows rows).foldl (addToStrata (comparedOrigins (gradedRows rows)))
    Rows.empty).entries.map Prod.fst).insertionSort
      fun left right => Text.codeUnits left ≤ Text.codeUnits right

private theorem nodup_sortedKeys : (sortedKeys rows).Nodup :=
  (List.perm_insertionSort _ _).nodup_iff.mpr (Rows.nodup _)

/-- The rows of an origin are those that are chosen from each stratum. -/
theorem bucketOf_byOrigin {origin : Origin}
    (horigin : origin ∈ comparedOrigins (gradedRows rows)) :
    bucketOf (matchedComparisonRows host rows).byOrigin origin =
      (sortedKeys rows).flatMap fun key =>
        chosenFrom host (comparedOrigins (gradedRows rows)) (gradedRows rows) key origin := by
  have hselection := @bucketOf_selection host (comparedOrigins (gradedRows rows)) (gradedRows rows)
    (nodup_comparedOrigins _) origin horigin (sortedKeys rows)
    ((comparedOrigins (gradedRows rows)).foldl (fun selected origin => selected.set origin [])
      Rows.empty, 0)
  rw [bucketOf_nothing _ _ _ rfl, List.nil_append] at hselection
  exact hselection

/-- Of the rows of an origin those of a stratum are the ones that were chosen from it. -/
theorem filter_chosen {origins : List Origin} {graded : List JoinedTrackRow} {keys : List String}
    (hkeys : keys.Nodup) (key : String) (origin : Origin) :
    ((keys.flatMap fun key => chosenFrom host origins graded key origin).filter
        fun row => strataKey row = key) =
      if key ∈ keys then chosenFrom host origins graded key origin else [] := by
  induction keys with
  | nil => rfl
  | cons first keys ih =>
    obtain ⟨hfresh, hrest⟩ := List.nodup_cons.mp hkeys
    rw [List.flatMap_cons, List.filter_append, ih hrest]
    by_cases hfirst : key = first
    · subst hfirst
      rw [if_neg hfresh, if_pos List.mem_cons_self, List.append_nil, List.filter_eq_self]
      exact fun row hrow => decide_eq_true (mem_chosenFrom hrow).2.1
    · have hnone : (chosenFrom host origins graded first origin).filter
          (fun row => strataKey row = key) = [] := by
        rw [List.filter_eq_nil_iff]
        intro row hrow heq
        exact hfirst ((of_decide_eq_true heq).symm.trans (mem_chosenFrom hrow).2.1)
      rw [hnone, List.nil_append]
      simp only [List.mem_cons, hfirst, false_or]

private theorem length_filter_byOrigin {origin : Origin}
    (horigin : origin ∈ comparedOrigins (gradedRows rows)) (key : String) :
    ((bucketOf (matchedComparisonRows host rows).byOrigin origin).filter
        fun row => strataKey row = key).length =
      if key ∈ sortedKeys rows then
        smallestCell (comparedOrigins (gradedRows rows)) (gradedRows rows) key
      else 0 := by
  rw [bucketOf_byOrigin horigin, filter_chosen nodup_sortedKeys]
  split_ifs
  · exact length_chosenFrom horigin
  · rfl

private theorem mem_byOrigin {origin : Origin}
    (horigin : origin ∈ comparedOrigins (gradedRows rows))
    {row : JoinedTrackRow}
    (hrow : row ∈ bucketOf (matchedComparisonRows host rows).byOrigin origin) :
    row ∈ gradedRows rows ∧ row.origin = origin := by
  rw [bucketOf_byOrigin horigin] at hrow
  obtain ⟨key, -, hchosen⟩ := List.mem_flatMap.mp hrow
  obtain ⟨hgraded, -, horiginOf⟩ := mem_chosenFrom hchosen
  exact ⟨hgraded, horiginOf⟩

/-- How many rows of the stratum of a counted row were chosen. -/
theorem chosenIn_stratumOf (h : JoinedRows rows) {origin : Origin}
    (horigin : origin ∈ comparedOrigins (gradedRows rows)) {row : JoinedTrackRow}
    (hrow : row ∈ rows) :
    chosenIn (matchedComparisonRows host rows) (stratumOf row) origin =
      if strataKey row ∈ sortedKeys rows then
        smallestCell (comparedOrigins (gradedRows rows)) (gradedRows rows) (strataKey row)
      else 0 := by
  rw [← length_filter_byOrigin horigin, chosenIn]
  congr 1
  apply List.filter_congr
  intro other hother
  have hin := (mem_gradedRows.mp (mem_byOrigin horigin hother).1).1
  simp only [strataKey_eq_iff h hin hrow]

private theorem fairlyMatched (host : LabHost) (h : JoinedRows rows) :
    FairlyMatched rows (matchedComparisonRows host rows) where
  compared origin := by
    rw [← mem_comparedOrigins_gradedRows]
    rfl
  graded origin horigin row hrow := by
    obtain ⟨hgraded, horiginOf⟩ := mem_byOrigin horigin hrow
    obtain ⟨hin, heligible, hgrade⟩ := mem_gradedRows.mp hgraded
    exact ⟨hin, heligible, hgrade, horiginOf⟩
  same first hfirst second hsecond stratum := by
    have hnone : ∀ origin ∈ comparedOrigins (gradedRows rows),
        (∀ row ∈ rows, stratumOf row ≠ stratum) →
          chosenIn (matchedComparisonRows host rows) stratum origin = 0 := by
      intro origin horigin hall
      rw [chosenIn, List.length_eq_zero_iff, List.filter_eq_nil_iff]
      intro row hrow heq
      exact hall row (mem_gradedRows.mp (mem_byOrigin horigin hrow).1).1 (of_decide_eq_true heq)
    by_cases hall : ∀ row ∈ rows, stratumOf row ≠ stratum
    · rw [hnone first hfirst hall, hnone second hsecond hall]
    · push Not at hall
      obtain ⟨row, hrow, rfl⟩ := hall
      rw [chosenIn_stratumOf h hfirst hrow, chosenIn_stratumOf h hsecond hrow]
  shared stratum hshared origin horigin := by
    obtain ⟨row, hrow, -, -, -, rfl⟩ := hshared origin horigin
    have hcell : ∀ other ∈ comparedOrigins (gradedRows rows),
        cell (gradedRows rows) (strataKey row) other ≠ [] := by
      intro other hother
      obtain ⟨found, hfound, heligible, hgrade, hfoundOrigin, hstratum⟩ := hshared other hother
      apply List.ne_nil_of_mem
      exact List.mem_filter.mpr ⟨mem_gradedRows.mpr ⟨hfound, heligible, hgrade⟩,
        decide_eq_true ⟨(strataKey_eq_iff h hfound hrow).mpr hstratum, hfoundOrigin⟩⟩
    have hkey : strataKey row ∈ sortedKeys rows :=
      (List.mem_insertionSort _).mpr (mem_keys_of_cell horigin (hcell origin horigin))
    rw [chosenIn_stratumOf h horigin hrow, if_pos hkey]
    exact smallestCell_pos (comparedOrigins_ne_nil _) hcell
  once := by
    have hgraded : (gradedRows rows).Nodup := h.tickets.of_map.filter _
    have hchosen : ∀ key origin, (chosenFrom host (comparedOrigins (gradedRows rows))
        (gradedRows rows) key origin).Nodup := fun key origin =>
      ((List.perm_insertionSort _ _).nodup_iff.mpr (hgraded.filter _)).sublist
        (List.take_sublist _ _)
    rw [List.nodup_flatMap]
    constructor
    · intro origin horigin
      rw [bucketOf_byOrigin horigin, List.nodup_flatMap]
      refine ⟨fun key _ => hchosen key origin, nodup_sortedKeys.imp fun {first second} hne => ?_⟩
      intro row hfirst hsecond
      exact hne ((mem_chosenFrom hfirst).2.1.symm.trans (mem_chosenFrom hsecond).2.1)
    · refine (nodup_comparedOrigins (gradedRows rows)).imp_of_mem
        fun {first second} hfirst hsecond hne => ?_
      intro row hin hin'
      exact hne ((mem_byOrigin hfirst hin).2.symm.trans (mem_byOrigin hsecond hin').2)

/-- The confirmed scorecard adds up whatever the order of the rows, and the rows that are compared
are matched fairly. -/
theorem confirmed_scorecard_balanced (host : LabHost) (h : JoinedRows rows)
    (hstrict : StrictOn host trackKey rows) (ticketLevelSpend : Bool) :
    (∀ card, scorecard host rows true ticketLevelSpend = .ok card → Balanced rows card) ∧
    (∀ rows', rows.Perm rows' → scorecard host rows' true ticketLevelSpend =
      scorecard host rows true ticketLevelSpend) ∧
    FairlyMatched rows (matchedComparisonRows host rows) := by
  refine ⟨fun card => balanced h, fun rows' hperm => ?_, fairlyMatched host h⟩
  exact (scorecard_perm h hstrict hperm true ticketLevelSpend).symm

/-- A host whose texts are all the empty record. -/
private def aLab : LabHost where
  js := JavaScript.reference .exact
  parse _ := .ok (.object [])

private def aLabTicket (ledgerId : String) (origin : Origin) (count ordinal : ℕ)
    (purchased : Option ℕ) (hit : ℕ) : JoinedTrackRow where
  ledgerId := ledgerId
  origin := origin
  game := .cash5
  drawDate := "2026-07-01"
  targetSession := .none
  proposedAt := "2026-06-30T12:00:00.000Z"
  ticketCostCents := 100
  ticketCount := count
  purchased := purchased
  purchaseSpendCents := purchased.map fun _ => 201
  purchaseOptionsJson := purchased.map fun _ => "\x7b\x7d"
  eligibilityEligible := some 1
  ledgerTicketId := ledgerId ++ ":" ++ toString ordinal
  ordinal := ordinal
  ticketOptionsJson := "\x7b\x7d"
  ticketGradeId := some "grade"
  prizeTier := none
  hit := some hit
  payoutStatus := some (if hit = 1 then .fixed else .none)
  prizeCents := some (if hit = 1 then 500 else 0)
  gradingDetailJson := some "\x7b\x7d"
  settlementId := none
  finalPrizeCents := none

/-- A purchased set of two tickets for 201 cents, and a random one that was not purchased. -/
private def threeTickets : List JoinedTrackRow :=
  [aLabTicket "ledger-a" .system 2 2 (some 1) 1, aLabTicket "ledger-b" .random 1 1 none 0,
    aLabTicket "ledger-a" .system 2 1 (some 1) 0]

/-- Of 201 cents the first ticket of the set costs 101, and a scorecard is returned. -/
theorem odd_set_balanced :
    (scorecard aLab threeTickets true false).isOk = true ∧
    (∀ card, scorecard aLab threeTickets true false = .ok card → Balanced threeTickets card) ∧
    (∀ rows', threeTickets.Perm rows' → scorecard aLab rows' true false =
      scorecard aLab threeTickets true false) ∧
    FairlyMatched threeTickets (matchedComparisonRows aLab threeTickets) ∧
    threeTickets.map allocatedCents = [100, 0, 101] := by
  have hjoined : JoinedRows threeTickets :=
    ⟨by decide +kernel, by decide +kernel, by decide +kernel, by decide +kernel⟩
  have hstrict : StrictOn aLab trackKey threeTickets := by
    unfold StrictOn
    decide +kernel
  obtain ⟨hbalanced, hperm, hmatched⟩ := confirmed_scorecard_balanced aLab hjoined hstrict false
  exact ⟨by decide +kernel, hbalanced, hperm, hmatched, by decide +kernel⟩

end Fair

end Yevow.Lotto.TicketLab
