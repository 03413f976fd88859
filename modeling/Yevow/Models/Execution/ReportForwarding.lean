import Yevow.Core.JavaScript.Reference
import Yevow.Models.Execution.Conformance

/-!
# Reports of answered orders

The engine learns of a fill from the report that the executioner forwards. What a call sends,
reads and forwards has one of a few shapes in each phase: a single order and a retry of a stop
close are reported once their answer is read, if it can be read, and the slices of an order
never are.
-/

namespace Yevow.Execution

open JavaScript (Runtime)
open Isolate (Reaches trail)

variable {js : Runtime} {env : Env} {round : ℚ → ℚ} {intent : TradeIntent}

/-- The filled sizes of the reports forwarded for an order. -/
def forwardedSizes (orderId : String) (notes : List Note) : List Number :=
  notes.filterMap fun
    | .forwarded clientId filledSize => if clientId = orderId then some filledSize else none
    | _ => none

/-- Orders sent, answers read and reports forwarded. -/
def Note.isOrder : Note → Bool
  | .sent _ _ _ => true
  | .received _ _ => true
  | .forwarded _ _ => true
  | _ => false

/-- What is forwarded for the first order. -/
def ReportedNotes (js : Runtime) (intent : TradeIntent) (notes : List Note) : Prop :=
  (∃ filled, notes = [.forwarded intent.intentId filled]) ∨
    ∃ at_ response body filled, reading js response body = some filled ∧
      notes = [.sent .single intent.intentId at_, .received response body,
        .forwarded intent.intentId filled]

/-- A call that ends before its first order is answered. -/
def ClosingNotes (intent : TradeIntent) (notes : List Note) : Prop :=
  (∃ filled, notes = [.forwarded intent.intentId filled]) ∨
    ∃ at_ filled, notes = [.sent .single intent.intentId at_, .forwarded intent.intentId filled]

/-- The notes of a retry that is lost, tried out, answered and reported, or answered without a
report. -/
inductive RetryNotes (js : Runtime) (intent : TradeIntent) : List Note → Prop
  | none : RetryNotes js intent []
  | lost (at_ : ℤ) : RetryNotes js intent [.sent .stopRetry (stopRetryId intent) at_]
  | tried (filled : Number) : RetryNotes js intent [.forwarded (stopRetryId intent) filled]
  | reported (at_ : ℤ) (response : ResponseHead) (body : Body) (filled : Number)
      (hread : reading js response body = some filled) :
      RetryNotes js intent [.sent .stopRetry (stopRetryId intent) at_, .received response body,
        .forwarded (stopRetryId intent) filled]
  | unread (at_ : ℤ) (response : ResponseHead) (body : Body)
      (hread : reading js response body = Option.none) :
      RetryNotes js intent [.sent .stopRetry (stopRetryId intent) at_, .received response body]

/-- A report, and then what a repeated stop leaves. -/
def RetriedNotes (js : Runtime) (intent : TradeIntent) (notes : List Note) : Prop :=
  ∃ reported retry, ReportedNotes js intent reported ∧ RetryNotes js intent retry ∧
    notes = reported ++ retry

/-- The notes of a call in each phase. -/
def CallPhase.Notes (js : Runtime) (intent : TradeIntent) : CallPhase → List Note → Prop
  | .closing _, notes => ClosingNotes intent notes
  | .sent, notes => ∃ at_, notes = [.sent .single intent.intentId at_]
  | .failed, notes => notes = [] ∨ ∃ at_, notes = [.sent .single intent.intentId at_]
  | .received read, notes => ∃ at_ response body, reading js response body = read ∧
    notes = [.sent .single intent.intentId at_, .received response body]
  | .reported, notes => ReportedNotes js intent notes
  | .retrySent, notes => ∃ reported at_, ReportedNotes js intent reported ∧
    notes = reported ++ [.sent .stopRetry (stopRetryId intent) at_]
  | .retryReceived read, notes => ∃ reported at_ response body,
    ReportedNotes js intent reported ∧ reading js response body = read ∧
    notes = reported ++ [.sent .stopRetry (stopRetryId intent) at_, .received response body]
  | .retryAnswered, notes => ReportedNotes js intent notes
  | .retried, notes => RetriedNotes js intent notes
  | .finished _, notes => notes = [] ∨ ClosingNotes intent notes ∨ RetriedNotes js intent notes
  | _, notes => notes = []

private theorem ReportedNotes.retried {notes : List Note} (h : ReportedNotes js intent notes) :
    RetriedNotes js intent notes := ⟨notes, [], h, .none, (List.append_nil notes).symm⟩

private theorem notes_sendOrder {phase : CallPhase} {kind : OrderKind} {orderId : String}
    {request : PreparedExchangeRequest} {answer : Except String Unit} {at_ : ℤ}
    {notes : List Note} (hmay : phase.may intent (.sendOrder kind orderId request))
    (hnotes : phase.Notes js intent notes) :
    (phase.next js (.sendOrder kind orderId request) answer).Notes js intent
      (notes ++ [.sent kind orderId at_]) := by
  cases phase with
  | granted =>
    obtain ⟨rfl, rfl⟩ := hmay
    obtain rfl : notes = [] := hnotes
    exact ⟨at_, rfl⟩
  | reported =>
    obtain ⟨rfl, rfl⟩ := hmay
    exact ⟨notes, at_, hnotes, rfl⟩
  | _ => exact False.elim hmay

private theorem notes_safeJson {phase : CallPhase} {response : ResponseHead} {body : Body}
    {notes : List Note} (hmay : phase.may intent (.safeJson response))
    (hnotes : phase.Notes js intent notes) :
    (phase.next js (.safeJson response) (.ok body)).Notes js intent
      (notes ++ [.received response body]) := by
  cases phase with
  | sent =>
    obtain ⟨at_, rfl⟩ := hnotes
    exact ⟨at_, response, body, rfl, rfl⟩
  | retrySent =>
    obtain ⟨reported, at_, hreported, rfl⟩ := hnotes
    exact ⟨reported, at_, response, body, hreported, rfl, by rw [List.append_assoc]; rfl⟩
  | _ => exact False.elim hmay

private theorem notes_forwardReport {phase : CallPhase} {report : ExecutionReport}
    {answer : Except String Unit} {notes : List Note}
    (hmay : phase.may intent (.forwardReport report)) (hnotes : phase.Notes js intent notes) :
    (phase.next js (.forwardReport report) answer).Notes js intent
      (notes ++ [.forwarded report.clientId report.filledSize]) := by
  cases phase with
  | «open» =>
    obtain rfl : notes = [] := hnotes
    rw [show report.clientId = intent.intentId from hmay]
    exact Or.inl ⟨_, rfl⟩
  | granted =>
    obtain rfl : notes = [] := hnotes
    rw [show report.clientId = intent.intentId from hmay]
    exact Or.inl ⟨_, rfl⟩
  | failed =>
    rw [show report.clientId = intent.intentId from hmay]
    rcases hnotes with rfl | ⟨at_, rfl⟩
    · exact Or.inl ⟨_, rfl⟩
    · exact Or.inr ⟨at_, _, rfl⟩
  | received read =>
    obtain ⟨hid, rfl⟩ := hmay
    obtain ⟨at_, response, body, hread, rfl⟩ := hnotes
    rw [hid]
    exact Or.inr ⟨at_, response, body, _, hread, rfl⟩
  | answered =>
    obtain rfl : notes = [] := hnotes
    rw [show report.clientId = intent.intentId from hmay]
    exact Or.inl ⟨_, rfl⟩
  | retryReceived read =>
    obtain ⟨hid, rfl⟩ := hmay
    obtain ⟨reported, at_, response, body, hreported, hread, rfl⟩ := hnotes
    rw [hid, List.append_assoc]
    exact ⟨reported, _, hreported, .reported at_ response body _ hread, rfl⟩
  | retryAnswered =>
    rw [show report.clientId = stopRetryId intent from hmay]
    exact ⟨notes, _, hnotes, .tried _, rfl⟩
  | _ => exact False.elim hmay

private theorem notes_lost {phase : CallPhase} {notes : List Note} {op : Op}
    {answer : Except String op.Ret} (hop : op = .response ∨ ∃ response, op = .safeJson response)
    (hmay : phase.may intent op) (hnotes : phase.Notes js intent notes)
    (hlost : phase.next js op answer = phase ∨
      phase.next js op answer = match phase with | .sent => .failed | _ => .retried) :
    (phase.next js op answer).Notes js intent notes := by
  rcases hlost with hsame | hlost
  · rwa [hsame]
  · rw [hlost]
    cases phase with
    | sent => exact Or.inr hnotes
    | retrySent =>
      obtain ⟨reported, at_, hreported, rfl⟩ := hnotes
      exact ⟨reported, _, hreported, .lost at_, rfl⟩
    | _ => rcases hop with rfl | ⟨_, rfl⟩ <;> exact False.elim hmay

/-- Every call that a phase allows leads to the notes of the next phase. -/
theorem CallPhase.notes_next {phase : CallPhase} {op : Op} {answer : Except String op.Ret}
    {memory : Memory} {notes : List Note} (hmay : phase.may intent op)
    (hnotes : phase.Notes js intent notes) :
    (phase.next js op answer).Notes js intent
      (notes ++ (note op answer memory).filter Note.isOrder) := by
  cases op with
  | sendOrder kind orderId request => exact notes_sendOrder hmay hnotes
  | forwardReport report => exact notes_forwardReport hmay hnotes
  | response =>
    rw [show (note .response answer memory).filter Note.isOrder = [] from rfl,
      List.append_nil]
    refine notes_lost (Or.inl rfl) hmay hnotes ?_
    cases phase <;> cases answer <;> first | exact Or.inl rfl | exact Or.inr rfl
  | safeJson response =>
    cases answer with
    | ok body => exact notes_safeJson hmay hnotes
    | error e =>
      rw [show (note (.safeJson response) (.error e) memory).filter Note.isOrder = [] from rfl,
        List.append_nil]
      refine notes_lost (Or.inr ⟨response, rfl⟩) hmay hnotes ?_
      cases phase <;> first | exact Or.inl rfl | exact Or.inr rfl
  | remember remembered fingerprint response =>
    rw [show (note (.remember remembered fingerprint response) answer memory).filter
      Note.isOrder = [] from rfl, List.append_nil]
    cases phase with
    | closing placed => exact Or.inr (Or.inl hnotes)
    | reported => exact Or.inr (Or.inr hnotes.retried)
    | retryReceived read =>
      obtain ⟨-, -, rfl⟩ := hmay
      obtain ⟨reported, at_, response, body, hreported, hread, rfl⟩ := hnotes
      exact Or.inr (Or.inr ⟨reported, _, hreported, .unread at_ response body hread, rfl⟩)
    | retried => exact Or.inr (Or.inr hnotes)
    | scheduled => exact Or.inl hnotes
    | _ => exact False.elim hmay
  | localJson =>
    rw [show (note .localJson answer memory).filter Note.isOrder = [] from rfl,
      List.append_nil]
    cases phase with
    | granted =>
      cases answer with
      | ok _ => exact hnotes
      | error e => exact Or.inl hnotes
    | reported =>
      cases answer with
      | ok _ => exact hnotes
      | error e => exact hnotes.retried
    | _ => exact False.elim hmay
  | evaluate evaluated =>
    rw [show (note (.evaluate evaluated) answer memory).filter Note.isOrder = [] from rfl,
      List.append_nil]
    cases phase with
    | fresh => rcases answer with _ | _ | _ | _ <;> exact hnotes
    | _ => exact False.elim hmay
  | reserve exchangeKey priority =>
    cases phase with
    | «open» => rcases answer with _ | _ | _ <;> exact (List.append_nil notes).trans hnotes
    | _ => exact False.elim hmay
  | _ =>
    rw [show List.filter Note.isOrder (note _ answer memory) = [] from rfl, List.append_nil]
    cases phase <;> first
      | exact False.elim hmay
      | exact hnotes
      | cases answer <;> exact hnotes

/-! ## Answered orders -/

/-- An order whose answer is read, and what its call notes afterwards. -/
structure Answered where
  kind : OrderKind
  orderId : String
  response : ResponseHead
  body : Body
  later : List Note

/-- The answered orders of a call. -/
def answers : List Note → List Answered
  | [] => []
  | note :: rest =>
    (match note, rest with
      | .sent kind orderId _, .received response body :: later =>
        [⟨kind, orderId, response, body, later⟩]
      | _, _ => []) ++ answers rest

/-- After the answer one report is forwarded for the order, with the answer's filled size. -/
def Answered.Forwarded (js : Runtime) (answer : Answered) : Prop :=
  ∃ filled, filledSize js answer.body = .ok filled ∧
    forwardedSizes answer.orderId answer.later = [filled]

/-- The fields that a report takes from the answer are read without an exception. -/
def Answered.Readable (js : Runtime) (answer : Answered) : Prop :=
  ∃ fields, readAnswer js answer.response answer.body = .ok fields

private theorem mem_answers {kind : OrderKind} {orderId : String} {at_ : ℤ}
    {response : ResponseHead} {body : Body} {later : List Note} (earlier : List Note) :
    ⟨kind, orderId, response, body, later⟩ ∈
      answers (earlier ++ .sent kind orderId at_ :: .received response body :: later) := by
  induction earlier with
  | nil => exact List.mem_append_left _ (List.mem_singleton_self _)
  | cons note earlier ih => exact List.mem_append_right _ ih

private theorem exists_of_mem_answers {answer : Answered} {notes : List Note}
    (hanswer : answer ∈ answers notes) :
    ∃ earlier at_, notes = earlier ++ .sent answer.kind answer.orderId at_ ::
      .received answer.response answer.body :: answer.later := by
  induction notes with
  | nil => cases hanswer
  | cons note rest ih =>
    rcases List.mem_append.mp hanswer with hhere | hrest
    · split at hhere
      · obtain rfl := List.mem_singleton.mp hhere
        exact ⟨[], _, rfl⟩
      · cases hhere
    · obtain ⟨earlier, at_, rfl⟩ := ih hrest
      exact ⟨note :: earlier, at_, rfl⟩

/-- The answer of an order that is not a slice was forwarded, if it can be read. -/
private def Accounted (js : Runtime) (answer : Answered) : Prop :=
  answer.kind ≠ .slice ∧ (answer.Forwarded js ↔ answer.Readable js)

private theorem accounted_of_read {answer : Answered} {filled : Number}
    (hkind : answer.kind ≠ .slice)
    (hread : reading js answer.response answer.body = some filled)
    (hsizes : forwardedSizes answer.orderId answer.later = [filled]) : Accounted js answer := by
  refine ⟨hkind, ?_⟩
  unfold reading at hread
  cases hanswer : readAnswer js answer.response answer.body with
  | error e =>
    rw [hanswer] at hread
    cases hread
  | ok fields =>
    rw [hanswer] at hread
    obtain rfl := Option.some.inj hread
    have hfilled : filledSize js answer.body = .ok fields.filledSize := by
      unfold readAnswer at hanswer
      simp only [Except.bind_eq_ok, Except.pure_eq_ok, Except.ok.injEq] at hanswer
      obtain ⟨_, -, filled, hfilled, _, -, _, -, _, -, rfl⟩ := hanswer
      exact hfilled
    exact ⟨fun _ => ⟨fields, hanswer⟩, fun _ => ⟨_, hfilled, hsizes⟩⟩

private theorem accounted_of_unread {answer : Answered} (hkind : answer.kind ≠ .slice)
    (hread : reading js answer.response answer.body = none)
    (hsizes : forwardedSizes answer.orderId answer.later = []) : Accounted js answer := by
  refine ⟨hkind, ?_⟩
  constructor
  · rintro ⟨filled, -, hforwarded⟩
    rw [hsizes] at hforwarded
    cases hforwarded
  · rintro ⟨fields, hanswer⟩
    rw [reading, hanswer] at hread
    cases hread

private theorem forwardedSizes_append (orderId : String) (notes later : List Note) :
    forwardedSizes orderId (notes ++ later) =
      forwardedSizes orderId notes ++ forwardedSizes orderId later :=
  List.filterMap_append ..

/-- An answer read before the retry stays accounted for, and nothing of the retry is an answer
to the order before it. -/
private theorem accounted_retry {reported retry : List Note}
    (hreported : ReportedNotes js intent reported)
    (hsizes : forwardedSizes intent.intentId retry = [])
    (hretry : ∀ answer ∈ answers retry, Accounted js answer) :
    ∀ answer ∈ answers (reported ++ retry), Accounted js answer := by
  intro answer hanswer
  rcases hreported with ⟨filled, rfl⟩ | ⟨at_, response, body, filled, hread, rfl⟩
  · simp only [List.cons_append, List.nil_append, answers] at hanswer
    exact hretry answer hanswer
  · simp only [List.cons_append, List.nil_append, answers, List.mem_cons] at hanswer
    rcases hanswer with rfl | hanswer
    · refine accounted_of_read (fun h => OrderKind.noConfusion h) hread ?_
      show forwardedSizes intent.intentId ([.forwarded intent.intentId filled] ++ retry) = _
      rw [forwardedSizes_append, hsizes]
      simp [forwardedSizes]
    · exact hretry answer hanswer

private theorem ClosingNotes.accounted {notes : List Note} (h : ClosingNotes intent notes) :
    ∀ answer ∈ answers notes, Accounted js answer := by
  rcases h with ⟨filled, rfl⟩ | ⟨at_, filled, rfl⟩
  · simp [answers]
  · simp [answers]

private theorem ReportedNotes.accounted {notes : List Note}
    (h : ReportedNotes js intent notes) : ∀ answer ∈ answers notes, Accounted js answer := by
  have hnone : ∀ answer ∈ answers (notes ++ []), Accounted js answer :=
    accounted_retry h rfl (by simp [answers])
  rwa [List.append_nil] at hnone

private theorem RetriedNotes.accounted {notes : List Note} (h : RetriedNotes js intent notes) :
    ∀ answer ∈ answers notes, Accounted js answer := by
  obtain ⟨reported, retry, hreported, hretry, rfl⟩ := h
  have hother := stopRetryId_ne intent
  cases hretry with
  | none => exact accounted_retry hreported rfl (by simp [answers])
  | lost at_ => exact accounted_retry hreported rfl (by simp [answers])
  | tried filled =>
    exact accounted_retry hreported (by simp [forwardedSizes, hother]) (by simp [answers])
  | reported at_ response body filled hread =>
    refine accounted_retry hreported (by simp [forwardedSizes, hother]) ?_
    intro answer hanswer
    simp only [answers, List.append_nil, List.mem_singleton] at hanswer
    obtain rfl := hanswer
    exact accounted_of_read (fun h => OrderKind.noConfusion h) hread (by simp [forwardedSizes])
  | unread at_ response body hread =>
    refine accounted_retry hreported (by simp [forwardedSizes]) ?_
    intro answer hanswer
    simp only [answers, List.append_nil, List.mem_singleton] at hanswer
    obtain rfl := hanswer
    exact accounted_of_unread (fun h => OrderKind.noConfusion h) hread rfl

/-- A call that is between two of its steps has reported what it could read. -/
theorem CallPhase.Notes.accounted {phase : CallPhase} {notes : List Note}
    (hreceived : ∀ filled, phase ≠ .received (some filled))
    (hretry : ∀ filled, phase ≠ .retryReceived (some filled))
    (h : phase.Notes js intent notes) :
    ∀ answer ∈ answers notes, Accounted js answer := by
  have hlost : ∀ at_, ∀ answer ∈ answers [.sent .single intent.intentId at_],
      Accounted js answer := by
    intro at_ answer hanswer
    simp [answers] at hanswer
  cases phase with
  | closing placed => exact ClosingNotes.accounted h
  | sent =>
    obtain ⟨at_, rfl⟩ := h
    exact hlost at_
  | failed =>
    rcases h with rfl | ⟨at_, rfl⟩
    · simp [answers]
    · exact hlost at_
  | received read =>
    obtain ⟨at_, response, body, hread, rfl⟩ := h
    cases read with
    | some filled => exact absurd rfl (hreceived filled)
    | none =>
      intro answer hanswer
      simp only [answers, List.append_nil, List.mem_singleton] at hanswer
      obtain rfl := hanswer
      exact accounted_of_unread (fun h => OrderKind.noConfusion h) hread rfl
  | reported => exact ReportedNotes.accounted h
  | retrySent =>
    obtain ⟨reported, at_, hreported, rfl⟩ := h
    exact RetriedNotes.accounted ⟨reported, _, hreported, .lost at_, rfl⟩
  | retryReceived read =>
    obtain ⟨reported, at_, response, body, hreported, hread, rfl⟩ := h
    cases read with
    | some filled => exact absurd rfl (hretry filled)
    | none =>
      exact RetriedNotes.accounted ⟨reported, _, hreported, .unread at_ response body hread, rfl⟩
  | retryAnswered => exact ReportedNotes.accounted h
  | retried => exact RetriedNotes.accounted h
  | finished placed =>
    rcases h with rfl | h | h
    · simp [answers]
    · exact h.accounted
    · exact h.accounted
  | _ =>
    obtain rfl : notes = [] := h
    simp [answers]

/-! ## Every function -/

/-- The notes of a function in each phase; slices are sent and never reported. -/
def Phase.Notes (js : Runtime) : Phase → List Note → Prop
  | .absent, notes => notes = []
  | .call intent phase, notes => phase.Notes js intent (notes.filter Note.isOrder)
  | .info _, notes => notes.filter Note.isOrder = []
  | .twap _, notes => (∀ orderId, forwardedSizes orderId notes = []) ∧
    ∀ kind orderId at_, .sent kind orderId at_ ∈ notes → kind = .slice

private theorem Phase.notes_next {phase : Phase} {op : Op} {answer : Except String op.Ret}
    {memory : Memory} {notes : List Note} (hmay : phase.may op) (hnotes : phase.Notes js notes) :
    (phase.next js op answer).Notes js (notes ++ note op answer memory) := by
  cases phase with
  | absent => exact False.elim hmay
  | call intent phase =>
    show (phase.next js op answer).Notes js intent _
    rw [List.filter_append]
    exact CallPhase.notes_next hmay hnotes
  | info phase =>
    show List.filter Note.isOrder (notes ++ note op answer memory) = []
    rw [List.filter_append, show notes.filter Note.isOrder = [] from hnotes, List.nil_append]
    cases phase <;> cases op <;> first
      | exact False.elim hmay
      | rfl
      | (rcases answer with _ | _ | _ <;> rfl)
  | twap orderIds =>
    obtain ⟨hsizes, hkinds⟩ := hnotes
    have hquiet : (∀ orderId, forwardedSizes orderId (note op answer memory) = []) ∧
        ∀ kind orderId at_, .sent kind orderId at_ ∈ note op answer memory →
          kind = .slice := by
      cases op with
      | sendOrder kind orderId request =>
        obtain ⟨rfl, -⟩ := hmay
        simp +contextual [note, forwardedSizes]
      | safeJson response => cases answer <;> simp [note, forwardedSizes]
      | _ => first | exact False.elim hmay | simp [note, forwardedSizes]
    constructor
    · intro orderId
      rw [forwardedSizes_append, hsizes, hquiet.1, List.append_nil]
    · intro kind orderId at_ hsent
      rcases List.mem_append.mp hsent with hsent | hsent
      · exact hkinds kind orderId at_ hsent
      · exact hquiet.2 kind orderId at_ hsent

/-- What every function noted fits its phase, and no function rests on an answer it has not
reported yet. -/
private theorem reaches_notes {condition : ExecutionIsolate → ExecutionEvent → Prop}
    {start : Memory → Prop}
    {isolate : ExecutionIsolate}
    (hreach : Reaches (setting js env round) condition start isolate) (i : ℕ) :
    ∃ phase : Phase, phase.Notes js (trail isolate.history i) ∧
      (∀ intent filled, phase ≠ .call intent (.received (some filled))) ∧
      ∀ intent filled, phase ≠ .call intent (.retryReceived (some filled)) := by
  have hnil : ∀ notes, Phase.Notes js .absent notes ↔ notes = [] := fun _ => Iff.rfl
  obtain ⟨phase, htracks, habsent, hnotes⟩ :=
    hreach.trails (keeps_host js env round) follows_program
    hnil
    (fun request => by
      cases request with
      | execute intent => exact rfl
      | info => exact rfl
      | twap slices => exact ⟨fun _ => rfl, fun _ _ _ h => absurd h List.not_mem_nil⟩)
    (fun s k notes op answer s' k' hmove h => by
      have hk : k' = k.next js op answer := hmove.leads
      rw [hk]
      exact Phase.notes_next hmove.may h)
  -- A function in a phase with an answer to report would neither have ended nor wait.
  have hrest : ∀ intent callPhase, phase i = .call intent callPhase →
      (∀ op, callPhase.may intent op → op.awaited = false) →
      (∀ result, ¬ callPhase.ends result) → False := by
    intro intent callPhase hphase hmay hends
    have hlt : i < isolate.threads.length := by
      by_contra hge
      have hnone := habsent i (by omega)
      rw [hphase] at hnone
      cases hnone
    rcases hthread : isolate.threads[i] with ⟨request, p⟩
    have hi : isolate.threads[i]? = some (request, p) := by
      rw [List.getElem?_eq_getElem hlt, hthread]
    have hfollows := htracks i request p hi
    have hatRest := hreach.atRest hi
    rw [hphase] at hfollows
    cases p with
    | done result =>
      rcases result with e | (_ | response)
      · exact hends _ hfollows
      · exact hfollows
      · exact hends _ hfollows
    | call op next =>
      have hawaited : op.awaited = true := hatRest
      rw [hmay op hfollows.1] at hawaited
      cases hawaited
  refine ⟨phase i, hnotes i, ?_, ?_⟩
  · intro intent filled hphase
    refine hrest intent _ hphase (fun op hmay => ?_) fun result hends => ?_
    · cases op <;> first | rfl | exact False.elim hmay
    · cases result <;> cases hends
  · intro intent filled hphase
    refine hrest intent _ hphase (fun op hmay => ?_) fun result hends => ?_
    · cases op <;> first | rfl | exact False.elim hmay
    · cases result <;> cases hends

private theorem answers_filter {kind : OrderKind} {orderId : String} {at_ : ℤ}
    {response : ResponseHead} {body : Body} (earlier later : List Note) :
    (earlier ++ .sent kind orderId at_ :: .received response body :: later).filter Note.isOrder =
      earlier.filter Note.isOrder ++
        .sent kind orderId at_ :: .received response body :: later.filter Note.isOrder := by
  rw [List.filter_append, List.filter_cons_of_pos rfl, List.filter_cons_of_pos rfl]

private theorem forwardedSizes_filter (orderId : String) (notes : List Note) :
    forwardedSizes orderId (notes.filter Note.isOrder) = forwardedSizes orderId notes := by
  rw [forwardedSizes, forwardedSizes, List.filterMap_filter]
  congr 1
  funext note
  cases note <;> rfl

/-- In every run, whatever is called and answered in it, one report is forwarded for an order
whose answer was received, by the call that sent it and with the answer's filled size, if and
only if the order is not a slice of a larger one and the answer can be read. -/
theorem answered_order_forwarded_iff
    {isolate : ExecutionIsolate}
    (hreach : Reaches (setting js env round) (fun _ _ => True) (fun _ => True) isolate) (i : ℕ)
    (answer : Answered) (hanswer : answer ∈ answers (trail isolate.history i)) :
    answer.Forwarded js ↔ answer.kind ≠ .slice ∧ answer.Readable js := by
  obtain ⟨phase, hnotes, hreceived, hretry⟩ := reaches_notes hreach i
  obtain ⟨earlier, at_, htrail⟩ := exists_of_mem_answers hanswer
  rw [htrail] at hnotes
  cases phase with
  | absent => simp [Phase.Notes] at hnotes
  | info phase => simp [Phase.Notes, Note.isOrder] at hnotes
  | call intent phase =>
    have hcall : phase.Notes js intent _ := hnotes
    rw [answers_filter] at hcall
    obtain ⟨hkind, hforwarded⟩ := hcall.accounted
      (fun filled h => hreceived intent filled (by rw [h]))
      (fun filled h => hretry intent filled (by rw [h])) _ (mem_answers _)
    have hfiltered : answer.Forwarded js ↔ answer.Readable js := by
      simpa only [Answered.Forwarded, Answered.Readable, forwardedSizes_filter] using hforwarded
    rw [hfiltered]
    exact ⟨fun h => ⟨hkind, h⟩, And.right⟩
  | twap orderIds =>
    obtain ⟨hsizes, hkinds⟩ := hnotes
    have hslice : answer.kind = .slice := hkinds _ answer.orderId at_ (by simp)
    have hnone := hsizes answer.orderId
    rw [forwardedSizes_append] at hnone
    have hlater : forwardedSizes answer.orderId answer.later = [] :=
      (List.append_eq_nil_iff.mp hnone).2
    constructor
    · rintro ⟨filled, -, hforwarded⟩
      rw [hlater] at hforwarded
      cases hforwarded
    · exact fun h => absurd hslice h.1

private abbrev jsExact : Runtime := JavaScript.reference .exact

/-- Every order is filled at once. -/
private def sampleFill : Body :=
  some [("status", .string "FILLED"), ("executedQty", .number (.finite 2))]

private def sampleIsolate (events : List ExecutionEvent) : ExecutionIsolate :=
  events.foldl (Isolate.after (setting jsExact sampleEnv id)) ⟨sampleMemory 10 1 (10, 10), [], []⟩

private theorem reaches_sampleIsolate (events : List ExecutionEvent) :
    Reaches (setting jsExact sampleEnv id) (fun _ _ => True) (fun _ => True)
      (sampleIsolate events) := by
  apply Reaches.along (Reaches.start _ trivial)
  generalize (⟨sampleMemory 10 1 (10, 10), [], []⟩ : ExecutionIsolate) = isolate
  induction events generalizing isolate with
  | nil => trivial
  | cons event events ih => exact ⟨trivial, ih _⟩

private def singleRun (body : Body) : List ExecutionEvent :=
  .start (.execute sampleIntent) :: List.replicate 6 (.resume 0 (sampleAnswer body))

/-- The fill of a single order is reported. -/
theorem single_order_forwarded :
    (answers (trail (sampleIsolate (singleRun sampleFill)).history 0)).map Answered.kind =
        [.single] ∧
      ∀ answer ∈ answers (trail (sampleIsolate (singleRun sampleFill)).history 0),
        (answer.Forwarded jsExact ↔ answer.kind ≠ .slice ∧ answer.Readable jsExact) :=
  ⟨by decide +kernel, fun answer hanswer =>
    answered_order_forwarded_iff (reaches_sampleIsolate (singleRun sampleFill)) 0 answer hanswer⟩

private def slicedIntent : TradeIntent :=
  { sampleIntent with executionStyle := some .slicedTwap }

private def slices : List TwapSlice :=
  buildTwapSlices jsExact slicedIntent ⟨.finite 0, .finite 0, .finite 0⟩

private def slicedRun : List ExecutionEvent :=
  .start (.execute slicedIntent) :: List.replicate 3 (.resume 0 (sampleAnswer sampleFill)) ++
    .start (.twap slices) :: List.replicate 3 (.resume 1 (sampleAnswer sampleFill))

/-- A fill whose fee is no number and has a `toString` of its own. -/
private def unreadFill : Body :=
  some [("executedQty", .number (.finite 2)), ("fee", .object [("toString", .number (.finite 1))])]

/-- The answered orders of a call, with what was filled and what was forwarded for each. -/
private def reported (notes : List Note) : List (String × Option Number × List Number) :=
  (answers notes).map fun answer => (answer.orderId,
    (filledSize jsExact answer.body).toOption, forwardedSizes answer.orderId answer.later)

private theorem not_forwarded {notes : List Note} {orderId : String} {filled : Option Number}
    (h : reported notes = [(orderId, filled, [])]) :
    ¬∀ answer ∈ answers notes, answer.Forwarded jsExact := by
  intro hall
  obtain ⟨answer, hanswer, heq⟩ := List.mem_map.mp (h ▸ List.mem_singleton_self _ :
    (orderId, filled, []) ∈ reported notes)
  obtain ⟨size, -, hsizes⟩ := hall answer hanswer
  have hnone : forwardedSizes answer.orderId answer.later = [] := congrArg (·.2.2) heq
  rw [hnone] at hsizes
  cases hsizes

/-- The slice that an accepted intent schedules is filled, and nothing is reported; nor is the
fill of a single order whose answer cannot be read. -/
theorem slice_fill_not_forwarded :
    (Reaches (setting jsExact sampleEnv id) (fun _ _ => True) (fun _ => True)
        (sampleIsolate slicedRun) ∧
      (sampleIsolate slicedRun).state.scheduled = [slices] ∧
      reported (trail (sampleIsolate slicedRun).history 1) =
        [("order-slice-1", some (.finite 2), [])] ∧
      ¬∀ answer ∈ answers (trail (sampleIsolate slicedRun).history 1),
        answer.Forwarded jsExact) ∧
    Reaches (setting jsExact sampleEnv id) (fun _ _ => True) (fun _ => True)
        (sampleIsolate (singleRun unreadFill)) ∧
      reported (trail (sampleIsolate (singleRun unreadFill)).history 0) =
        [("order", some (.finite 2), [])] ∧
      ¬∀ answer ∈ answers (trail (sampleIsolate (singleRun unreadFill)).history 0),
        answer.Forwarded jsExact := by
  have hslice : reported (trail (sampleIsolate slicedRun).history 1) =
      [("order-slice-1", some (.finite 2), [])] := by decide +kernel
  have hsingle : reported (trail (sampleIsolate (singleRun unreadFill)).history 0) =
      [("order", some (.finite 2), [])] := by decide +kernel
  exact ⟨⟨reaches_sampleIsolate slicedRun, by decide +kernel, hslice, not_forwarded hslice⟩,
    reaches_sampleIsolate (singleRun unreadFill), hsingle, not_forwarded hsingle⟩

end Yevow.Execution
