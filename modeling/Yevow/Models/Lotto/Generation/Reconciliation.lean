import Yevow.Models.Lotto.Generation.Pipeline

/-!
# A generated run reconciles

Once a run is generated, its tickets have the ordinals up to its count, and its delivery carries
its message. The batches keep that, as long as none brings more tickets than the run has.
-/

namespace Yevow.Lotto

variable {s s' : GenerationStore} {runId : String}

/-! ## Deliveries -/

/-- The id a delivery of a kind is stored under. -/
def DeliveryKind.idFor (runId : String) : DeliveryKind → String
  | picks => GenerationStore.deliveryId runId
  | alert => GenerationStore.alertId runId

private theorem deliveryId_ne_alertId (runId runId' : String) :
    GenerationStore.deliveryId runId ≠ GenerationStore.alertId runId' := by
  intro h
  have hchars := congrArg String.toList h
  simp only [GenerationStore.deliveryId, GenerationStore.alertId, String.toList_append] at hchars
  exact absurd (List.cons.inj hchars).1 (by decide)

private theorem DeliveryKind.idFor_inj {kind kind' : DeliveryKind}
    (h : kind.idFor runId = kind'.idFor runId) :
    kind = kind' := by
  cases kind with
  | picks =>
    cases kind' with
    | picks => rfl
    | alert => exact absurd h (deliveryId_ne_alertId runId runId)
  | alert =>
    cases kind' with
    | picks => exact absurd h.symm (deliveryId_ne_alertId runId runId)
    | alert => rfl

/-- Every delivery is one of the run, stored under the id of its kind. -/
def Filed (runId : String) (outbox : Rows String DeliveryRow) : Prop :=
  ∀ id d, outbox.get? id = some d → d.runId = runId ∧ id = d.deliveryKind.idFor runId

private theorem Filed.kind {outbox : Rows String DeliveryRow} (h : Filed runId outbox)
    {kind : DeliveryKind}
    {d : DeliveryRow} (hd : outbox.get? (kind.idFor runId) = some d) : d.deliveryKind = kind :=
  (DeliveryKind.idFor_inj (h _ d hd).2).symm

private theorem Filed.set {outbox : Rows String DeliveryRow} (h : Filed runId outbox)
    {kind : DeliveryKind}
    {d : DeliveryRow} (hrun : d.runId = runId) (hkind : d.deliveryKind = kind) :
    Filed runId (outbox.set (kind.idFor runId) d) := by
  intro id d' hd'
  rw [Rows.get?_set] at hd'
  split_ifs at hd' with hid
  · obtain rfl := Option.some.inj hd'
    exact ⟨hrun, by rw [hid, hkind]⟩
  · exact h id d' hd'

namespace GenerationStore

private theorem hasDelivery_iff (h : Filed runId s.outbox) (kind : DeliveryKind) :
    s.HasDelivery runId kind ↔ (s.outbox.get? (kind.idFor runId)).isSome := by
  constructor
  · rintro ⟨⟨id, d⟩, hmem, -, hkind⟩
    have hd := Rows.mem_entries_iff.mp hmem
    obtain ⟨-, hid⟩ := h id d hd
    have hkey : id = kind.idFor runId := by
      rw [hid]
      exact congrArg (DeliveryKind.idFor runId) hkind
    rw [← hkey, hd]
    rfl
  · intro hsome
    obtain ⟨d, hd⟩ := Option.isSome_iff_exists.mp hsome
    exact ⟨(_, d), Rows.mem_entries_iff.mpr hd, (h _ d hd).1, h.kind hd⟩

private theorem requireRun_of (hrun : s.run.map GenerationRow.runId = some runId) :
    s.requireRun runId = .ok () := if_pos hrun

/-- A delivery is inserted where there is none of its kind, and every other one stays. -/
theorem insertDelivery_spec (hfiled : Filed runId s.outbox)
    (hrun : s.run.map GenerationRow.runId = some runId) (row : DeliveryRow)
    (hrow : row.runId = runId) :
    ∃ outbox, s.insertDelivery (row.deliveryKind.idFor runId) row = .ok { s with outbox } ∧
      Filed runId outbox ∧
      (∀ id, id ≠ row.deliveryKind.idFor runId → outbox.get? id = s.outbox.get? id) ∧
      outbox.get? (row.deliveryKind.idFor runId) =
        some ((s.outbox.get? (row.deliveryKind.idFor runId)).getD row) := by
  unfold insertDelivery
  cases hget : s.outbox.get? (row.deliveryKind.idFor runId) with
  | some d =>
    have hpresent : (some d).isSome ∨ s.HasDelivery row.runId row.deliveryKind := Or.inl rfl
    rw [if_pos hpresent]
    exact ⟨s.outbox, rfl, hfiled, fun _ _ => rfl, hget⟩
  | none =>
    have habsent : ¬((none : Option DeliveryRow).isSome ∨
        s.HasDelivery row.runId row.deliveryKind) := by
      rw [hrow, hasDelivery_iff hfiled, hget]
      simp
    rw [if_neg habsent, hrow, requireRun_of hrun]
    refine ⟨_, rfl, hfiled.set hrow rfl, fun id hid => ?_, Rows.get?_set_self _ _ _⟩
    rw [Rows.get?_set, if_neg hid]

/-- An upserted delivery carries its message, and every other one stays. -/
theorem upsertDelivery_eq_ok (hfiled : Filed runId s.outbox) (row : DeliveryRow)
    (hrow : row.runId = runId)
    (h : s.upsertDelivery (row.deliveryKind.idFor runId) row = .ok s') :
    ∃ outbox, s' = { s with outbox } ∧ Filed runId outbox ∧
      (∀ id, id ≠ row.deliveryKind.idFor runId → outbox.get? id = s.outbox.get? id) ∧
      ∀ d, outbox.get? (row.deliveryKind.idFor runId) = some d →
        s.outbox.get? (row.deliveryKind.idFor runId) = some d ∨
          d.messageBody = row.messageBody := by
  unfold upsertDelivery at h
  cases hget : s.outbox.get? (row.deliveryKind.idFor runId) with
  | some stored =>
    rw [hget] at h
    simp only at h
    split_ifs at h
    · obtain rfl := Except.ok.inj h
      have hkind : stored.deliveryKind = row.deliveryKind := hfiled.kind hget
      refine ⟨_, rfl, hfiled.set (hfiled _ _ hget).1 hkind, fun id hid => ?_, fun d hd => ?_⟩
      · rw [Rows.get?_set, if_neg hid]
      · rw [Rows.get?_set_self] at hd
        obtain rfl := Option.some.inj hd
        exact Or.inr rfl
    · obtain rfl := Except.ok.inj h
      exact ⟨s.outbox, rfl, hfiled, fun _ _ => rfl, fun d hd => Or.inl (hget ▸ hd)⟩
  | none =>
    rw [hget] at h
    simp only at h
    split_ifs at h
    obtain ⟨-, -, h⟩ := Except.bind_eq_ok.mp h
    obtain rfl := Except.ok.inj h
    refine ⟨_, rfl, hfiled.set hrow rfl, fun id hid => ?_, fun d hd => ?_⟩
    · rw [Rows.get?_set, if_neg hid]
    · rw [Rows.get?_set_self] at hd
      obtain rfl := Option.some.inj hd
      exact Or.inr rfl

/-! ## Tickets -/

private theorem insertTicket_spec (hrun : s.run.map GenerationRow.runId = some runId) (ordinal : ℕ)
    (ticket : ScoredTicket) :
    ∃ tickets, s.insertTicket runId ordinal ticket = .ok { s with tickets } ∧
      (∀ key, (tickets.get? key).isSome ↔
        (s.tickets.get? key).isSome ∨ key = (runId, ordinal)) ∧
      ∀ key t, s.tickets.get? key = some t → tickets.get? key = some t := by
  unfold insertTicket
  by_cases hpresent : (s.tickets.get? (runId, ordinal)).isSome
  · rw [if_pos hpresent]
    refine ⟨s.tickets, rfl, fun key => ⟨Or.inl, ?_⟩, fun _ _ h => h⟩
    rintro (h | rfl)
    · exact h
    · exact hpresent
  · rw [if_neg hpresent, requireRun_of hrun]
    refine ⟨_, rfl, fun key => ?_, fun key t ht => ?_⟩
    · rw [Rows.get?_set]
      split_ifs with hkey
      · simp [hkey]
      · simp [hkey]
    · rw [Rows.get?_set, if_neg]
      · exact ht
      · rintro rfl
        rw [ht] at hpresent
        exact hpresent rfl

/-- The tickets of a batch fill the ordinals that are free, and every other one stays. -/
theorem insertTickets_spec (hrun : s.run.map GenerationRow.runId = some runId) (index : ℕ)
    (batch : List ScoredTicket) :
    ∃ tickets, insertTickets runId index batch s = .ok { s with tickets } ∧
      (∀ key, (tickets.get? key).isSome ↔ (s.tickets.get? key).isSome ∨
        key.1 = runId ∧ index < key.2 ∧ key.2 ≤ index + batch.length) ∧
      ∀ key t, s.tickets.get? key = some t → tickets.get? key = some t := by
  induction batch generalizing s index with
  | nil =>
    refine ⟨s.tickets, rfl, fun key => ?_, fun _ _ h => h⟩
    simp only [List.length_nil]
    constructor
    · exact Or.inl
    · rintro (h | ⟨-, h, h'⟩)
      · exact h
      · omega
  | cons ticket rest ih =>
    obtain ⟨first, hfirst, hsome, hkept⟩ := insertTicket_spec hrun (index + 1) ticket
    have hrun' : ({ s with tickets := first } : GenerationStore).run.map GenerationRow.runId =
      some runId := hrun
    obtain ⟨tickets, hrest, hsome', hkept'⟩ := ih hrun' (index + 1)
    refine ⟨tickets, ?_, fun key => ?_, fun key t ht => hkept' key t (hkept key t ht)⟩
    · show (s.insertTicket runId (index + 1) ticket >>=
        fun s => insertTickets runId (index + 1) rest s) = _
      rw [hfirst]
      exact hrest
    · rw [hsome', hsome, List.length_cons, Prod.ext_iff, or_assoc]
      apply or_congr_right
      constructor
      · rintro (⟨hid, hordinal⟩ | ⟨hid, hlow, hhigh⟩)
        · exact ⟨hid, by omega, by omega⟩
        · exact ⟨hid, by omega, by omega⟩
      · rintro ⟨hid, hlow, hhigh⟩
        by_cases hordinal : key.2 = index + 1
        · exact Or.inl ⟨hid, hordinal⟩
        · exact Or.inr ⟨hid, by omega, by omega⟩

/-- A run that has exactly the ordinals up to a number has as many tickets. -/
theorem length_ticketsOf {n : ℕ}
    (h : ∀ key, (s.tickets.get? key).isSome ↔ key.1 = runId ∧ 0 < key.2 ∧ key.2 ≤ n) :
    (s.ticketsOf runId).length = n := by
  have hkeys : ∀ key, key ∈ s.tickets.entries.map Prod.fst ↔
      key.1 = runId ∧ 0 < key.2 ∧ key.2 ≤ n := by
    intro key
    rw [← h, Option.isSome_iff_exists, List.mem_map]
    constructor
    · rintro ⟨⟨_, t⟩, hmem, rfl⟩
      exact ⟨t, Rows.mem_entries_iff.mp hmem⟩
    · rintro ⟨t, ht⟩
      exact ⟨(key, t), Rows.mem_entries_iff.mpr ht, rfl⟩
  have hall : s.tickets.entries.filter (fun entry => entry.1.1 = runId) = s.tickets.entries := by
    rw [List.filter_eq_self]
    intro entry hentry
    exact decide_eq_true ((hkeys entry.1).mp (List.mem_map_of_mem hentry)).1
  have hperm : (s.tickets.entries.map Prod.fst).Perm
      ((List.range n).map fun i => (runId, i + 1)) := by
    refine (List.perm_ext_iff_of_nodup s.tickets.nodup ?_).mpr fun key => ?_
    · exact List.nodup_range.map fun i j hij => by
        have := (Prod.mk.inj hij).2
        omega
    · rw [hkeys, List.mem_map]
      constructor
      · rintro ⟨hid, hlow, hhigh⟩
        refine ⟨key.2 - 1, List.mem_range.mpr (by omega), Prod.ext hid.symm ?_⟩
        show key.2 - 1 + 1 = key.2
        omega
      · rintro ⟨i, hi, rfl⟩
        rw [List.mem_range] at hi
        exact ⟨rfl, by omega, by omega⟩
  have hlength := hperm.length_eq
  rw [List.length_map, List.length_map, List.length_range] at hlength
  unfold ticketsOf
  rw [Sorting.length_sortBy, List.length_map, hall, hlength]

/-! ## The run -/

/-- The generated row is the stored run once it is generated. -/
theorem generatedRow_eq_some {row : GenerationRow} :
    s.generatedRow = some row ↔ s.run = some row ∧ row.status = .generated := by
  unfold generatedRow
  rw [Option.filter_eq_some_iff, decide_eq_true_eq]

/-- A commit writes the run where it is not generated, and leaves it alone where it is. -/
theorem upsertGenerated_cases (s : GenerationStore) (c : GenerationCommit) :
    (∃ row, s.generatedRow = some row ∧ s.upsertGenerated c = s) ∨
      s.generatedRow = none ∧ ∃ row, s.upsertGenerated c = { s with run := some row } ∧
        row.status = .generated ∧ row.runId = c.runId ∧ row.ticketCount = c.tickets.length ∧
        row.messageBody = some c.messageBody := by
  unfold upsertGenerated
  cases hrun : s.run with
  | none =>
    refine Or.inr ⟨?_, _, rfl, rfl, rfl, rfl, rfl⟩
    rw [generatedRow, hrun]
    rfl
  | some row =>
    simp only
    split_ifs with hgenerated
    · exact Or.inl ⟨row, generatedRow_eq_some.mpr ⟨hrun, hgenerated⟩, rfl⟩
    · refine Or.inr ⟨?_, _, rfl, rfl, rfl, rfl, rfl⟩
      rw [generatedRow, hrun, Option.filter_some, if_neg (by simpa using hgenerated)]

/-- A failure leaves a generated run generated, and no other run becomes one. -/
theorem upsertFailed_cases (s : GenerationStore) (f : FailureRecord) :
    ∃ row, s.upsertFailed f = { s with run := some row } ∧
      ((∃ stored, s.generatedRow = some stored ∧ row = { stored with updatedAt := f.occurredAt }) ∨
        s.generatedRow = none ∧ row.status ≠ .generated ∧
          (row.runId = f.runId ∨ ∃ stored, s.run = some stored ∧ row.runId = stored.runId)) := by
  unfold upsertFailed
  cases hrun : s.run with
  | none =>
    refine ⟨_, rfl, Or.inr ⟨?_, by simp, Or.inl rfl⟩⟩
    rw [generatedRow, hrun]
    rfl
  | some row =>
    simp only
    split_ifs with hgenerated
    · exact ⟨_, rfl, Or.inl ⟨row, generatedRow_eq_some.mpr ⟨hrun, hgenerated⟩, rfl⟩⟩
    · refine ⟨_, rfl, Or.inr ⟨?_, by simp, Or.inr ⟨row, rfl, rfl⟩⟩⟩
      rw [generatedRow, hrun, Option.filter_some, if_neg (by simpa using hgenerated)]

end GenerationStore

/-! ## The invariant -/

/-- The tables of a draw date whose attempts all write under one id. -/
structure GenerationStore.Reconciled (s : GenerationStore) (runId? : Except Fault String) :
    Prop where
  runId : ∀ row, s.run = some row → runId? = .ok row.runId
  filed : ∀ runId, runId? = .ok runId → Filed runId s.outbox
  fresh : s.generatedRow = none → (∀ key, s.tickets.get? key = none) ∧
    ∀ id d, s.outbox.get? id = some d → d.deliveryKind = .alert
  ordinals : ∀ row, s.generatedRow = some row → ∀ key, (s.tickets.get? key).isSome ↔
    key.1 = row.runId ∧ 0 < key.2 ∧ key.2 ≤ row.ticketCount
  picks : ∀ row, s.generatedRow = some row → ∃ d,
    s.outbox.get? (GenerationStore.deliveryId row.runId) = some d ∧
      row.messageBody = some d.messageBody

/-- What never changes of a generated run. -/
structure GenerationRow.SameRun (row row' : GenerationRow) : Prop where
  runId : row'.runId = row.runId
  status : row'.status = row.status
  seed : row'.seed = row.seed
  ticketCount : row'.ticketCount = row.ticketCount
  generatedAt : row'.generatedAt = row.generatedAt
  messageBody : row'.messageBody = row.messageBody

theorem GenerationRow.SameRun.refl (row : GenerationRow) : row.SameRun row :=
  ⟨rfl, rfl, rfl, rfl, rfl, rfl⟩

private theorem GenerationRow.SameRun.trans {row row' row'' : GenerationRow} (h : row.SameRun row')
    (h' : row'.SameRun row'') : row.SameRun row'' :=
  ⟨h'.runId.trans h.runId, h'.status.trans h.status, h'.seed.trans h.seed,
    h'.ticketCount.trans h.ticketCount, h'.generatedAt.trans h.generatedAt,
    h'.messageBody.trans h.messageBody⟩

/-- A generated run stays as it is, with its tickets. -/
def GenerationStore.Keeps (s s' : GenerationStore) : Prop :=
  ∀ row, s.generatedRow = some row →
    (∃ row', s'.generatedRow = some row' ∧ row.SameRun row') ∧
      ∀ key, s'.tickets.get? key = s.tickets.get? key

namespace GenerationStore

theorem Keeps.refl (s : GenerationStore) : s.Keeps s :=
  fun row hrow => ⟨⟨row, hrow, .refl row⟩, fun _ => rfl⟩

theorem Keeps.trans {s'' : GenerationStore} (h : s.Keeps s') (h' : s'.Keeps s'') : s.Keeps s'' := by
  intro row hrow
  obtain ⟨⟨row', hrow', hsame⟩, htickets⟩ := h row hrow
  obtain ⟨⟨row'', hrow'', hsame'⟩, htickets'⟩ := h' row' hrow'
  exact ⟨⟨row'', hrow'', hsame.trans hsame'⟩, fun key => (htickets' key).trans (htickets key)⟩

/-- An alert of a store that another one does not have with its message. -/
def NewAlert (s s' : GenerationStore) (messageBody : String) : Prop :=
  ∃ id d, s'.outbox.get? id = some d ∧ d.deliveryKind = .alert ∧ d.messageBody = messageBody ∧
    s.outbox.get? id ≠ some d

private theorem upsertGenerated_frame (s : GenerationStore) (c : GenerationCommit) :
    (s.upsertGenerated c).tickets = s.tickets ∧ (s.upsertGenerated c).outbox = s.outbox := by
  rcases upsertGenerated_cases s c with ⟨_, -, hsame⟩ | ⟨-, _, hwritten, -⟩
  · rw [hsame]
    exact ⟨rfl, rfl⟩
  · rw [hwritten]
    exact ⟨rfl, rfl⟩

/-- What a commit that succeeds has done. -/
theorem commit_eq_ok {c : GenerationCommit} (hfiled : Filed c.runId s.outbox)
    (hrun : (s.upsertGenerated c).run.map GenerationRow.runId = some c.runId)
    (hcommit : s.commit c = .ok s') :
    ∃ tickets outbox, s' = { s.upsertGenerated c with tickets, outbox } ∧
      (∀ key, (tickets.get? key).isSome ↔ (s.tickets.get? key).isSome ∨
        key.1 = c.runId ∧ 0 < key.2 ∧ key.2 ≤ c.tickets.length) ∧
      (∀ key t, s.tickets.get? key = some t → tickets.get? key = some t) ∧
      Filed c.runId outbox ∧
      outbox.get? (deliveryId c.runId) = some ((s.outbox.get? (deliveryId c.runId)).getD
        (pendingDelivery c.runId .picks .primary c.messageBody c.generatedAt)) ∧
      ∀ id d, outbox.get? id = some d → d.deliveryKind = .alert →
        s.outbox.get? id = some d ∨ c.lateAlert = some d.messageBody := by
  obtain ⟨hsameTickets, hsameOutbox⟩ := upsertGenerated_frame s c
  obtain ⟨tickets, hinsert, hsome, hkept⟩ := insertTickets_spec hrun 0 c.tickets
  rw [hsameTickets, Nat.zero_add] at hsome
  rw [hsameTickets] at hkept
  have hfiled₂ : Filed c.runId ({ s.upsertGenerated c with tickets } : GenerationStore).outbox := by
    show Filed c.runId (s.upsertGenerated c).outbox
    rwa [hsameOutbox]
  obtain ⟨outbox, hdeliver, hfiled₃, hothers, hpicks⟩ := insertDelivery_spec hfiled₂ hrun
    (pendingDelivery c.runId .picks .primary c.messageBody c.generatedAt) rfl
  have hdelivered : ∀ id d, outbox.get? id = some d → d.deliveryKind = .alert →
      s.outbox.get? id = some d := by
    intro id d hd hkind
    have hid : id = alertId c.runId := by
      rw [(hfiled₃ id d hd).2, hkind]
      rfl
    rw [← hsameOutbox, ← hd]
    exact (hothers id (hid ▸ (deliveryId_ne_alertId c.runId c.runId).symm)).symm
  unfold GenerationStore.commit at hcommit
  rw [hinsert] at hcommit
  change (({ s.upsertGenerated c with tickets } : GenerationStore).insertDelivery _ _ >>= _) = _
    at hcommit
  have hdeliver' : ({ s.upsertGenerated c with tickets } : GenerationStore).insertDelivery
      (deliveryId c.runId)
      (pendingDelivery c.runId .picks .primary c.messageBody c.generatedAt) = _ := hdeliver
  rw [hdeliver', Except.bind_ok] at hcommit
  have hpicks' : outbox.get? (deliveryId c.runId) = some ((s.outbox.get? (deliveryId c.runId)).getD
      (pendingDelivery c.runId .picks .primary c.messageBody c.generatedAt)) := by
    rw [← hsameOutbox]
    exact hpicks
  cases hlate : c.lateAlert with
  | none =>
    rw [hlate] at hcommit
    obtain rfl := Except.ok.inj hcommit
    exact ⟨tickets, outbox, rfl, hsome, hkept, hfiled₃, hpicks',
      fun id d hd hkind => Or.inl (hdelivered id d hd hkind)⟩
  | some alert =>
    rw [hlate] at hcommit
    obtain ⟨outbox', rfl, hfiled', hothers', halert⟩ := upsertDelivery_eq_ok hfiled₃
      (pendingDelivery c.runId .alert .fallback alert c.generatedAt) rfl hcommit
    refine ⟨tickets, outbox', rfl, hsome, hkept, hfiled', ?_, fun id d hd hkind => ?_⟩
    · rw [← hpicks']
      exact hothers' _ (deliveryId_ne_alertId c.runId c.runId)
    · have hid : id = alertId c.runId := by
        rw [(hfiled' id d hd).2, hkind]
        rfl
      subst hid
      rcases halert d hd with hstored | hmessage
      · exact Or.inl (hdelivered _ d hstored hkind)
      · exact Or.inr (congrArg some hmessage.symm)

/-- A commit that brings no more tickets than a generated run has keeps the tables reconciled, and
the only alert it queues is its own. -/
theorem Reconciled.commit {c : GenerationCommit} (h : s.Reconciled (.ok c.runId))
    (hcount : ∀ row, s.generatedRow = some row → c.tickets.length ≤ row.ticketCount)
    (hcommit : s.commit c = .ok s') :
    s'.Reconciled (.ok c.runId) ∧ s.Keeps s' ∧
      ∀ messageBody, s.NewAlert s' messageBody → c.lateAlert = some messageBody := by
  have hrunId : ∀ {row : GenerationRow}, s.run = some row → c.runId = row.runId :=
    fun hrow => Except.ok.inj (h.runId _ hrow)
  rcases upsertGenerated_cases s c with ⟨row, hrow, hsame⟩ |
    ⟨hnone, row, hwritten, hstatus, hid, hticketCount, hmessage⟩
  · -- the run is generated: its tickets are there, and so is its delivery
    have hstored := (generatedRow_eq_some.mp hrow).1
    have hid := hrunId hstored
    obtain ⟨tickets, outbox, rfl, hsome, hkept, hfiled, hpicks, halerts⟩ := commit_eq_ok
      (h.filed _ rfl) (by rw [hsame, hstored, hid]; rfl) hcommit
    rw [hsame]
    have hsameTickets : ∀ key, tickets.get? key = s.tickets.get? key := by
      intro key
      cases hget : s.tickets.get? key with
      | some t => exact hkept key t hget
      | none =>
        rw [← Option.not_isSome_iff_eq_none, hsome, hget]
        rintro (hkey | ⟨hkey, hlow, hhigh⟩)
        · cases hkey
        · have hrange := (h.ordinals row hrow key).mpr
            ⟨hkey.trans hid, hlow, hhigh.trans (hcount row hrow)⟩
          rw [hget] at hrange
          cases hrange
    refine ⟨⟨h.runId, ?_, ?_, ?_, ?_⟩, ?_, ?_⟩
    · rintro runId hok
      obtain rfl := Except.ok.inj hok
      exact hfiled
    · intro hnone
      rw [show s.generatedRow = none from hnone] at hrow
      cases hrow
    · intro row' hrow' key
      rw [show ({ s with tickets, outbox } : GenerationStore).tickets.get? key = _ from
        hsameTickets key]
      exact h.ordinals row' hrow' key
    · intro row' hrow'
      obtain ⟨d, hd, hbody⟩ := h.picks row' hrow'
      have hid' := hrunId (generatedRow_eq_some.mp hrow').1
      refine ⟨d, ?_, hbody⟩
      rw [← hid'] at hd ⊢
      rw [show ({ s with tickets, outbox } : GenerationStore).outbox = outbox from rfl, hpicks, hd]
      rfl
    · exact fun row' hrow' => ⟨⟨row', hrow', .refl row'⟩, hsameTickets⟩
    · rintro messageBody ⟨id, d, hd, hkind, rfl, hnew⟩
      exact (halerts id d hd hkind).resolve_left hnew
  · have hrun' : (s.upsertGenerated c).run.map GenerationRow.runId = some c.runId := by
      rw [hwritten, ← hid]
      rfl
    obtain ⟨tickets, outbox, rfl, hsome, -, hfiled, hpicks, halerts⟩ := commit_eq_ok
      (h.filed _ rfl) hrun' hcommit
    rw [hwritten]
    obtain ⟨hempty, halert⟩ := h.fresh hnone
    have hgenerated : ({ s with run := some row, tickets, outbox } : GenerationStore).generatedRow =
      some row := generatedRow_eq_some.mpr ⟨rfl, hstatus⟩
    have hunpicked : s.outbox.get? (deliveryId c.runId) = none := by
      cases hget : s.outbox.get? (deliveryId c.runId) with
      | none => rfl
      | some d =>
        have hkind : d.deliveryKind = .picks := (h.filed _ rfl).kind hget
        rw [halert _ d hget] at hkind
        cases hkind
    refine ⟨⟨?_, ?_, ?_, ?_, ?_⟩, ?_, ?_⟩
    · intro row' hrow'
      obtain rfl := Option.some.inj hrow'
      rw [hid]
    · rintro runId hok
      obtain rfl := Except.ok.inj hok
      exact hfiled
    · intro hfalse
      rw [hgenerated] at hfalse
      cases hfalse
    · intro row' hrow' key
      obtain rfl := Option.some.inj (hgenerated.symm.trans hrow')
      rw [hid, hticketCount]
      show (tickets.get? key).isSome ↔ _
      rw [hsome, hempty]
      simp
    · intro row' hrow'
      obtain rfl := Option.some.inj (hgenerated.symm.trans hrow')
      refine ⟨pendingDelivery c.runId .picks .primary c.messageBody c.generatedAt, ?_, hmessage⟩
      rw [hid]
      show outbox.get? _ = _
      rw [hpicks, hunpicked]
      rfl
    · intro row' hrow'
      rw [hnone] at hrow'
      cases hrow'
    · rintro messageBody ⟨id, d, hd, hkind, rfl, hnew⟩
      exact (halerts id d hd hkind).resolve_left hnew

/-- What a failure that is recorded has done. -/
theorem recordFailure_eq_ok {f : FailureRecord} (hfiled : Filed f.runId s.outbox)
    (hrun : (s.upsertFailed f).run.map GenerationRow.runId = some f.runId)
    (hfailure : s.recordFailure f = .ok s') :
    ∃ outbox, s' = { s with run := (s.upsertFailed f).run, outbox } ∧ Filed f.runId outbox ∧
      (∀ id, id ≠ alertId f.runId → outbox.get? id = s.outbox.get? id) ∧
      ∀ id d, outbox.get? id = some d →
        s.outbox.get? id = some d ∨ f.alert = some d.messageBody := by
  obtain ⟨row, hwritten, -⟩ := upsertFailed_cases s f
  unfold GenerationStore.recordFailure at hfailure
  cases halert : f.alert with
  | none =>
    rw [halert] at hfailure
    obtain rfl := Except.ok.inj hfailure
    rw [hwritten]
    exact ⟨s.outbox, rfl, hfiled, fun _ _ => rfl, fun _ _ hd => Or.inl hd⟩
  | some alert =>
    rw [halert] at hfailure
    have hsame : (s.upsertFailed f).outbox = s.outbox := by rw [hwritten]
    rw [← hsame] at hfiled
    obtain ⟨outbox, hinsert, hfiled', hothers, hput⟩ := insertDelivery_spec hfiled hrun
      (pendingDelivery f.runId .alert .fallback alert f.occurredAt) rfl
    obtain rfl := Except.ok.inj (hinsert.symm.trans hfailure)
    rw [hsame] at hothers hput
    refine ⟨outbox, by rw [hwritten], hfiled', hothers, fun id d hd => ?_⟩
    by_cases hid : id = alertId f.runId
    · subst hid
      have hput' : outbox.get? (alertId f.runId) = some ((s.outbox.get? (alertId f.runId)).getD
        (pendingDelivery f.runId .alert .fallback alert f.occurredAt)) := hput
      rw [hd] at hput'
      rw [Option.some.inj hput']
      cases hget : s.outbox.get? (alertId f.runId) with
      | some stored => exact Or.inl rfl
      | none => exact Or.inr rfl
    · rw [hothers id hid] at hd
      exact Or.inl hd

/-- A failure keeps the tables reconciled, and the only alert it queues is its own. -/
theorem Reconciled.recordFailure {f : FailureRecord} (h : s.Reconciled (.ok f.runId))
    (hfailure : s.recordFailure f = .ok s') :
    s'.Reconciled (.ok f.runId) ∧ s.Keeps s' ∧
      ∀ messageBody, s.NewAlert s' messageBody → f.alert = some messageBody := by
  have hrunId : ∀ {row : GenerationRow}, s.run = some row → f.runId = row.runId :=
    fun hrow => Except.ok.inj (h.runId _ hrow)
  obtain ⟨row, hwritten, hcases⟩ := upsertFailed_cases s f
  have hrun : (s.upsertFailed f).run = some row := by rw [hwritten]
  have hid : row.runId = f.runId := by
    rcases hcases with ⟨stored, hstored, rfl⟩ | ⟨-, -, hid | ⟨stored, hstored, hid⟩⟩
    · exact (hrunId (generatedRow_eq_some.mp hstored).1).symm
    · exact hid
    · exact hid.trans (hrunId hstored).symm
  obtain ⟨outbox, rfl, hfiled, hothers, halerts⟩ := recordFailure_eq_ok (h.filed _ rfl)
    (by rw [hrun, ← hid]; rfl) hfailure
  rw [hrun]
  have hpicks : outbox.get? (deliveryId f.runId) = s.outbox.get? (deliveryId f.runId) :=
    hothers _ (deliveryId_ne_alertId f.runId f.runId)
  have hkept : ∀ row', ({ s with run := some row, outbox } : GenerationStore).generatedRow =
      some row' → ∃ stored, s.generatedRow = some stored ∧ stored.SameRun row' := by
    intro row' hrow'
    obtain ⟨hsome, hstatus⟩ := generatedRow_eq_some.mp hrow'
    obtain rfl := Option.some.inj hsome
    rcases hcases with ⟨stored, hstored, rfl⟩ | ⟨-, hother, -⟩
    · exact ⟨stored, hstored, ⟨rfl, rfl, rfl, rfl, rfl, rfl⟩⟩
    · exact absurd hstatus hother
  refine ⟨⟨?_, ?_, ?_, ?_, ?_⟩, ?_, ?_⟩
  · intro row' hrow'
    obtain rfl := Option.some.inj hrow'
    rw [hid]
  · rintro runId hok
    obtain rfl := Except.ok.inj hok
    exact hfiled
  · intro hnone
    have hfresh : s.generatedRow = none := by
      rcases hcases with ⟨stored, hstored, rfl⟩ | ⟨hnone', -, -⟩
      · have hgenerated : ({ s with
            run := some { stored with updatedAt := f.occurredAt }, outbox } :
              GenerationStore).generatedRow = some { stored with updatedAt := f.occurredAt } :=
          generatedRow_eq_some.mpr ⟨rfl, (generatedRow_eq_some.mp hstored).2⟩
        rw [hgenerated] at hnone
        cases hnone
      · exact hnone'
    obtain ⟨hempty, halert⟩ := h.fresh hfresh
    refine ⟨hempty, fun id d hd => ?_⟩
    by_cases hid' : id = alertId f.runId
    · rw [hid'] at hd
      exact hfiled.kind hd
    · exact halert id d (by rw [← hothers id hid']; exact hd)
  · intro row' hrow' key
    obtain ⟨stored, hstored, hsame⟩ := hkept row' hrow'
    rw [hsame.runId, hsame.ticketCount]
    exact h.ordinals stored hstored key
  · intro row' hrow'
    obtain ⟨stored, hstored, hsame⟩ := hkept row' hrow'
    obtain ⟨d, hd, hbody⟩ := h.picks stored hstored
    refine ⟨d, ?_, hsame.messageBody.trans hbody⟩
    rw [hsame.runId]
    rw [← hrunId (generatedRow_eq_some.mp hstored).1] at hd ⊢
    exact hpicks.trans hd
  · intro stored hstored
    rcases hcases with ⟨stored', hstored', rfl⟩ | ⟨hnone, -, -⟩
    · obtain rfl := Option.some.inj (hstored.symm.trans hstored')
      exact ⟨⟨_, generatedRow_eq_some.mpr ⟨rfl, (generatedRow_eq_some.mp hstored).2⟩,
        ⟨rfl, rfl, rfl, rfl, rfl, rfl⟩⟩, fun _ => rfl⟩
    · rw [hnone] at hstored
      cases hstored
  · rintro messageBody ⟨id, d, hd, -, rfl, hnew⟩
    exact (halerts id d hd).resolve_left hnew

end GenerationStore

end Yevow.Lotto
