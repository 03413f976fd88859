import Yevow.Core.JavaScript.Reference
import Yevow.Models.Execution.Conformance

/-!
# The rate of requests

The bucket of `hyperliquid` bounds the reservations it grants. A request that is sent soon
after its own reservation was granted is bounded with them; one that only waited for as long
as a refusal named is not, and any number may wait for the same moment.
-/

namespace Yevow.Execution

open JavaScript (Runtime)
open Isolate (Reaches trail)

variable {js : Runtime} {env : Env}

/-! ## Counting -/

namespace Note

/-- When an order or a request for information was sent. -/
def sentAt : Note → Option ℤ
  | .sent _ _ at_ => some at_
  | .infoSent at_ => some at_
  | _ => none

/-- When a request was sent that has a reservation of its own. -/
def requestAt : Note → Option ℤ
  | .sent .single _ at_ => some at_
  | .infoSent at_ => some at_
  | _ => none

/-- When the bucket of `hyperliquid` granted a reservation. -/
def grantAt : Note → Option ℤ
  | .granted exchangeKey at_ => if exchangeKey = "hyperliquid" then some at_ else none
  | _ => none

end Note

/-- The requests sent from one moment to another. -/
def requestsWithin (history : List (ℕ × Note)) (a b : ℤ) : ℕ :=
  history.countP fun entry => entry.2.sentAt.any fun at_ => a ≤ at_ ∧ at_ ≤ b

/-- A token was granted between two moments. -/
def grantedWithin (notes : List Note) (a b : ℤ) : Bool :=
  notes.any fun note => note.grantAt.any fun at_ => a ≤ at_ ∧ at_ ≤ b

/-- The requests sent from one moment to another by functions whose own reservation was granted
not long before. -/
def promptRequestsWithin (history : List (ℕ × Note)) (latency a b : ℤ) : ℕ :=
  history.countP fun entry => entry.2.requestAt.any fun at_ =>
    a ≤ at_ ∧ at_ ≤ b ∧ grantedWithin (trail history entry.1) (at_ - latency) at_

/-- The moments at which tokens were granted. -/
def grants (history : List (ℕ × Note)) : List ℤ := history.filterMap fun entry => entry.2.grantAt

private theorem grants_append (history later : List (ℕ × Note)) :
    grants (history ++ later) = grants history ++ grants later := List.filterMap_append ..

/-! ## One request a function -/

/-- The phases from which a request with a reservation may still be sent. -/
def Phase.mayRequest : Phase → Prop
  | .absent => True
  | .call _ .fresh => True
  | .call _ .open => True
  | .call _ .granted => True
  | .info .start => True
  | .info .granted => True
  | .info .refused => True
  | _ => False

/-- The requests that were sent. -/
def requestCount (notes : List Note) : ℕ := notes.countP fun note => note.requestAt.isSome

/-- A function has sent at most one request, and none where it may still send one. -/
def RequestNotes (phase : Phase) (notes : List Note) : Prop :=
  (phase = .absent → notes = []) ∧ requestCount notes ≤ 1 ∧
    (phase.mayRequest → requestCount notes = 0)

/-- A request is sent from where one may be sent and leads to where none may. -/
private theorem mayRequest_of_request {phase : Phase} {op : Op} {answer : Except String op.Ret}
    {memory : Memory} (hmay : phase.may op)
    (hrequest : requestCount (note op answer memory) ≠ 0) :
    requestCount (note op answer memory) = 1 ∧ phase.mayRequest ∧
      ¬ (phase.next js op answer).mayRequest := by
  cases op with
  | sendOrder kind orderId request =>
    cases phase with
    | call intent phase =>
      cases phase with
      | granted =>
        obtain ⟨rfl, -⟩ := hmay
        exact ⟨rfl, trivial, id⟩
      | reported =>
        obtain ⟨rfl, -⟩ := hmay
        exact absurd rfl hrequest
      | _ => exact False.elim hmay
    | twap orderIds =>
      obtain ⟨rfl, -⟩ := hmay
      exact absurd rfl hrequest
    | info phase => cases phase <;> exact False.elim hmay
    | absent => exact False.elim hmay
  | sendInfo =>
    cases phase with
    | call intent phase => cases phase <;> exact False.elim hmay
    | info phase => cases phase <;> first | exact False.elim hmay | exact ⟨rfl, trivial, id⟩
    | _ => exact False.elim hmay
  | safeJson response => cases answer <;> exact absurd rfl hrequest
  | reserve exchangeKey priority =>
    rcases answer with _ | _ | _ <;> exact absurd rfl hrequest
  | _ => exact absurd rfl hrequest

/-- No call leads back to where a request may be sent. -/
private theorem mayRequest_of_next {phase : Phase} {op : Op} {answer : Except String op.Ret}
    (hmay : phase.may op) (hnext : (phase.next js op answer).mayRequest) : phase.mayRequest := by
  cases phase with
  | absent => trivial
  | call intent phase =>
    cases phase <;> first
      | trivial
      | (cases op <;> first
          | exact False.elim hmay
          | exact False.elim hnext
          | (cases answer <;> exact False.elim hnext))
  | info phase => cases phase <;> trivial
  | twap orderIds => exact False.elim hnext

private theorem requestNotes_next {phase : Phase} {op : Op} {answer : Except String op.Ret}
    {memory : Memory} {notes : List Note} (hmay : phase.may op)
    (hnotes : RequestNotes phase notes) :
    RequestNotes (phase.next js op answer) (notes ++ note op answer memory) := by
  obtain ⟨-, hone, hnone⟩ := hnotes
  have hcount : requestCount (notes ++ note op answer memory) =
      requestCount notes + requestCount (note op answer memory) := List.countP_append ..
  refine ⟨fun habsent => ?_, ?_, fun hnext => ?_⟩
  · cases phase <;> first | exact False.elim hmay | cases habsent
  · rw [hcount]
    by_cases hrequest : requestCount (note op answer memory) = 0
    · omega
    · obtain ⟨hrequest, hphase, -⟩ := @mayRequest_of_request js phase op answer memory hmay hrequest
      have := hnone hphase
      omega
  · rw [hcount]
    by_cases hrequest : requestCount (note op answer memory) = 0
    · have := hnone (mayRequest_of_next hmay hnext)
      omega
    · exact absurd hnext (@mayRequest_of_request js phase op answer memory hmay hrequest).2.2

/-- Every function sends at most one request with a reservation. -/
private theorem requestCount_trail_le {condition : ExecutionIsolate → ExecutionEvent → Prop}
    {start : Memory → Prop}
    {isolate : ExecutionIsolate}
    (hreach : Reaches (setting js env id) condition start isolate) (i : ℕ) :
    requestCount (trail isolate.history i) ≤ 1 := by
  have hnil : ∀ notes, RequestNotes .absent notes ↔ notes = [] := by
    intro notes
    constructor
    · exact fun h => h.1 rfl
    · rintro rfl
      exact ⟨fun _ => rfl, Nat.zero_le _, fun _ => rfl⟩
  have hinitial : ∀ request : Request, RequestNotes request.phase [] := by
    intro request
    refine ⟨fun h => ?_, Nat.zero_le _, fun _ => rfl⟩
    cases request <;> cases h
  obtain ⟨phase, -, -, hnotes⟩ := hreach.trails (keeps_host js env id) follows_program hnil hinitial
    (fun s k notes op answer s' k' hmove h => by
      have hk : k' = k.next js op answer := hmove.leads
      rw [hk]
      exact requestNotes_next hmove.may h)
  exact (hnotes i).2.1

/-- A prompt request of a function stands for a reservation granted to it. -/
private theorem promptRequests_trail_le {notes : List Note} (hone : requestCount notes ≤ 1)
    {latency a b : ℤ} :
    (notes.countP fun note => note.requestAt.any fun at_ =>
      a ≤ at_ ∧ at_ ≤ b ∧ grantedWithin notes (at_ - latency) at_) ≤
      notes.countP fun note => note.grantAt.any fun at_ => a - latency ≤ at_ ∧ at_ ≤ b := by
  have hcount : (notes.countP fun note => note.requestAt.any fun at_ =>
      a ≤ at_ ∧ at_ ≤ b ∧ grantedWithin notes (at_ - latency) at_) ≤ 1 := by
    refine Nat.le_trans (List.countP_mono_left fun note _ hnote => ?_) hone
    cases hat : note.requestAt with
    | none => simp [hat] at hnote
    | some at_ => rfl
  rcases Nat.eq_zero_or_pos (notes.countP fun note => note.requestAt.any fun at_ =>
      a ≤ at_ ∧ at_ ≤ b ∧ grantedWithin notes (at_ - latency) at_) with hzero | hpos
  · omega
  · obtain ⟨note, -, hnote⟩ := List.countP_pos_iff.mp hpos
    obtain ⟨at_, -, ha, hb, hgranted⟩ : ∃ at_, note.requestAt = some at_ ∧ a ≤ at_ ∧ at_ ≤ b ∧
        grantedWithin notes (at_ - latency) at_ = true := by
      simpa [Option.any_eq_true] using hnote
    obtain ⟨grant, hgrant, g, hg, hfrom, hto⟩ : ∃ grant ∈ notes, ∃ g, grant.grantAt = some g ∧
        at_ - latency ≤ g ∧ g ≤ at_ := by
      simpa [grantedWithin, Option.any_eq_true] using hgranted
    have hwithin : 0 < notes.countP fun note => note.grantAt.any fun at_ =>
        a - latency ≤ at_ ∧ at_ ≤ b := by
      refine List.countP_pos_iff.mpr ⟨grant, hgrant, ?_⟩
      rw [hg]
      have : a - latency ≤ g ∧ g ≤ b := by omega
      simpa using this
    omega

/-! ## The bucket along a run -/

/-- The limits that are in force, in tokens and tokens by millisecond. -/
def capacity (js : Runtime) (env : Env) : ℚ := (boundedRateLimits js env id).1

/-- The configured rate for each millisecond. -/
def refillPerMs (js : Runtime) (env : Env) : ℚ := (boundedRateLimits js env id).2 / 1000

/-- The bucket of `hyperliquid` is full under the limits of the environment. -/
def Ready (js : Runtime) (env : Env) (memory : Memory) : Prop :=
  memory.rateLimits = boundedRateLimits js env id ∧
    ∃ updatedAt ≤ memory.now, memory.limiter.get? "hyperliquid" =
      some ⟨capacity js env, capacity js env, refillPerMs js env, updatedAt⟩

/-- The bucket has granted what is noted. -/
structure Metered (js : Runtime) (env : Env) (memory : Memory) (history : List (ℕ × Note)) :
    Prop where
  limits : memory.rateLimits = boundedRateLimits js env id
  bucket : ∃ bucket : RateLimitBucket, memory.limiter.get? "hyperliquid" = some bucket ∧
    bucket.capacity = capacity js env ∧ bucket.refillPerMs = refillPerMs js env ∧
      bucket.updatedAt ≤ memory.now ∧ HasGranted bucket (grants history)

private theorem positiveOrNull_pos {value : Number} {a : ℚ} (h : positiveOrNull value = some a) :
    0 < a := by
  cases value with
  | finite b =>
    simp only [positiveOrNull] at h
    split_ifs at h with hpos
    · obtain rfl := Option.some.inj h
      exact hpos
  | infinite sign => cases h
  | nan => cases h

private theorem configuredCapacity_pos (parsed : Number) :
    0 < (match positiveOrNull parsed with
      | some value => if value.den = 1 ∧ value ≤ 2 ^ 53 - 1 then value else 1000
      | none => 1000 : ℚ) := by
  cases hparsed : positiveOrNull parsed with
  | none => norm_num
  | some value =>
    have := positiveOrNull_pos hparsed
    dsimp only
    split_ifs
    · exact this
    · norm_num

private theorem boundedRateLimits_pos (js : Runtime) (env : Env) :
    0 < capacity js env ∧ 0 < refillPerMs js env := by
  have hfirst := configuredCapacity_pos (env.hlRestRateLimitPerMinute.elim .nan js.toNumber)
  constructor
  · exact lt_min (by norm_num) hfirst
  · refine div_pos (lt_min (by norm_num) ?_) (by norm_num)
    cases hrefill : positiveOrNull (env.hlRestRefillPerSecond.elim .nan js.toNumber) with
    | none => exact lt_min (by norm_num) (div_pos hfirst (by norm_num))
    | some value => exact positiveOrNull_pos hrefill

private theorem metered_start {memory : Memory} (h : Ready js env memory) :
    Metered js env memory [] := by
  obtain ⟨hlimits, updatedAt, hnow, hbucket⟩ := h
  obtain ⟨hcapacity, hrefill⟩ := boundedRateLimits_pos js env
  exact ⟨hlimits, _, hbucket, rfl, rfl, hnow,
    HasGranted.full hcapacity.le hrefill.le updatedAt⟩

/-- What the calls that reserve nothing leave. -/
private theorem Metered.frame {memory memory' : Memory} {history later : List (ℕ × Note)}
    (h : Metered js env memory history) (hlimits : memory'.rateLimits = memory.rateLimits)
    (hlimiter : memory'.limiter = memory.limiter) (hnow : memory.now ≤ memory'.now)
    (hlater : grants later = []) : Metered js env memory' (history ++ later) := by
  obtain ⟨hold, bucket, hbucket, hcapacity, hrefill, hupdated, hgranted⟩ := h
  refine ⟨hlimits.trans hold, bucket, by rw [hlimiter, hbucket], hcapacity, hrefill,
    hupdated.trans hnow, ?_⟩
  rwa [grants_append, hlater, List.append_nil]

private theorem take_limits (bucket : RateLimitBucket) (cost : ℚ) :
    (bucket.take cost).2.capacity = bucket.capacity ∧
      (bucket.take cost).2.refillPerMs = bucket.refillPerMs ∧
      (bucket.take cost).2.updatedAt = bucket.updatedAt := by
  rw [RateLimitBucket.take_eq]
  split_ifs <;> exact ⟨rfl, rfl, rfl⟩

/-- A reservation is noted where the bucket grants it. -/
private theorem Metered.reserve {memory : Memory} {history : List (ℕ × Note)} {i : ℕ}
    (h : Metered js env memory history) (exchangeKey : String) :
    Metered js env (serve js env id (.reserve exchangeKey .new) memory).2
      (history ++ (note (.reserve exchangeKey .new)
        (serve js env id (.reserve exchangeKey .new) memory).1 memory).map (i, ·)) := by
  obtain ⟨hlimits, bucket, hbucket, hcapacity, hrefill, hupdated, hgranted⟩ := h
  by_cases hkey : exchangeKey = "hyperliquid"
  · subst hkey
    have hrefilled := hgranted.refill hupdated
    obtain ⟨hcapacity', hrefill', hupdated'⟩ := take_limits (bucket.refill memory.now) 1
    have hserved : serve js env id (.reserve "hyperliquid" .new) memory =
        (.ok ((bucket.refill memory.now).take 1).1, { memory with
          limiter := memory.limiter.set "hyperliquid" ((bucket.refill memory.now).take 1).2 }) := by
      simp [serve, RateLimiter.reserveIn, RateLimiter.bucketIn, hbucket, RateLimitPriority.cost,
        RateLimitBucket.refill, RateLimitBucket.take]
    rw [hserved]
    refine ⟨hlimits, _, Rows.get?_set_self _ _ _, hcapacity'.trans hcapacity,
      hrefill'.trans hrefill, le_of_eq hupdated', ?_⟩
    rw [grants_append]
    cases htaken : ((bucket.refill memory.now).take 1).1 with
    | allowed => exact hrefilled.take_allowed htaken
    | refused waitMs =>
      rw [show grants ((note (.reserve "hyperliquid" .new) (.ok (.refused waitMs)) memory).map
        (i, ·)) = [] from rfl, List.append_nil]
      exact hrefilled.take_refused htaken
  · have hother : grants ((note (.reserve exchangeKey .new)
        (serve js env id (.reserve exchangeKey .new) memory).1 memory).map (i, ·)) = [] := by
      rcases (serve js env id (.reserve exchangeKey .new) memory).1 with _ | _ | _
      · rfl
      · simp [note, grants, Note.grantAt, hkey]
      · rfl
    refine ⟨hlimits, bucket, ?_, hcapacity, hrefill, hupdated, ?_⟩
    · show Rows.get? (memory.limiter.set exchangeKey _) "hyperliquid" = some bucket
      rw [Rows.get?_set, if_neg (Ne.symm hkey), hbucket]
    · rwa [grants_append, hother, List.append_nil]

private theorem priority_of_may {phase : Phase} {exchangeKey : String}
    {priority : RateLimitPriority} (hmay : phase.may (.reserve exchangeKey priority)) :
    priority = .new := by
  cases phase with
  | call intent phase => cases phase <;> first | exact False.elim hmay | exact hmay
  | info phase => cases phase <;> first | exact False.elim hmay | exact hmay.2
  | _ => exact False.elim hmay

/-- Every call keeps the account of the bucket. -/
private theorem metered_move {memory memory' : Memory} {history : List (ℕ × Note)}
    {phase phase' : Phase} {op : Op} {answer : Except String op.Ret} (i : ℕ)
    (hmove : Isolate.Move (host js env id) (protocol js) memory phase op answer memory' phase')
    (h : Metered js env memory history) :
    Metered js env memory' (history ++ (note op answer memory).map (i, ·)) := by
  have hstate := hmove.state_eq
  cases op with
  | reserve exchangeKey priority =>
    obtain rfl := priority_of_may hmove.may
    have hanswer := hmove.answer_eq rfl
    rw [hstate, hanswer]
    exact h.reserve exchangeKey
  | configureRuntimeRateLimits =>
    have hsame : memory' = memory := by
      rw [hstate]
      show (serve js env id .configureRuntimeRateLimits memory).2 = memory
      simp only [serve, h.limits, if_true]
    rw [hsame]
    exact h.frame rfl rfl le_rfl rfl
  | safeJson response =>
    rw [hstate]
    cases answer <;> exact h.frame rfl rfl le_rfl rfl
  | _ =>
    rw [hstate]
    exact h.frame rfl rfl le_rfl rfl

/-! ## The bound -/

/-- Intents for `hyperliquid`, slices that were scheduled, and delays that last as long as
asked. -/
def admits (isolate : ExecutionIsolate) : ExecutionEvent → Bool
  | .start (.execute intent) => intent.sourceExchange == some "hyperliquid"
  | .start .info => true
  | .start (.twap slices) => isolate.state.scheduled.contains slices
  | .resume i _ =>
    match isolate.threads[i]? with
    | some (_, .call (.timeout due) _) => decide (due ≤ isolate.state.now)
    | _ => true
  | .act _ => true

private theorem metered_reaches {condition : ExecutionIsolate → ExecutionEvent → Prop}
    {isolate : ExecutionIsolate}
    (hreach : Reaches (setting js env id) condition (Ready js env) isolate) :
    Metered js env isolate.state isolate.history := by
  obtain ⟨-, -, -, hmetered⟩ := hreach.invariant (keeps_host js env id)
    follows_program (I := fun memory _ history => Metered js env memory history)
      (fun memory h => metered_start h)
    (fun isolate ms _ _ h => by
      have hpassed : Metered js env { isolate.state with now := isolate.state.now + (ms : ℤ) }
          (isolate.history ++ []) := h.frame rfl rfl (by dsimp only; omega) rfl
      rwa [List.append_nil] at hpassed)
    (fun isolate phase n request _ (_ : phase n = Phase.absent) h => h)
    (fun history i memory phase recent op answer memory' phase' hmove h => by
      rw [List.map_append, ← List.append_assoc]
      exact metered_move i hmove h)
  exact hmetered

private theorem countP_grants (history : List (ℕ × Note)) (p : ℤ → Bool) :
    (grants history).countP p = history.countP fun entry => entry.2.grantAt.any p := by
  rw [grants, List.countP_filterMap]
  congr 1
  funext entry
  cases entry.2.grantAt <;> rfl

/-- In every run and every interval, the requests that are sent within some latency of their
own reservation are no more than the capacity and what is refilled in the interval and the
latency. -/
theorem promptRequests_le {isolate : ExecutionIsolate}
    (hreach : Reaches (setting js env id) (fun isolate event => admits isolate event = true)
      (Ready js env) isolate) (latency length : ℕ) (a : ℤ) :
    (promptRequestsWithin isolate.history latency a (a + length) : ℚ) ≤
      capacity js env + refillPerMs js env * (length + latency) := by
  obtain ⟨-, bucket, -, hcapacity, hrefill, -, hgranted⟩ := metered_reaches hreach
  have hprompt : promptRequestsWithin isolate.history latency a (a + length) ≤
      (grants isolate.history).countP fun g => a - latency ≤ g ∧ g ≤ a + length := by
    rw [countP_grants]
    exact Isolate.countP_le_countP_of_trail fun i =>
      promptRequests_trail_le (requestCount_trail_le hreach i)
  have hwithin := hgranted.within (a - latency) (a + length) (by omega)
  rw [hcapacity, hrefill] at hwithin
  push_cast at hwithin
  calc (promptRequestsWithin isolate.history latency a (a + length) : ℚ)
      ≤ ((grants isolate.history).countP fun g => a - latency ≤ g ∧ g ≤ a + length : ℕ) := by
        exact_mod_cast hprompt
    _ ≤ capacity js env + refillPerMs js env * (a + length - (a - latency)) := hwithin
    _ = capacity js env + refillPerMs js env * (length + latency) := by ring

private abbrev jsRate : Runtime := JavaScript.reference .exact

/-- A token, and another one a second later. -/
private def slowEnv : Env :=
  { sampleEnv with
    hlRestRateLimitPerMinute := some "1"
    hlRestRefillPerSecond := some "1" }

private def rateIsolate (events : List ExecutionEvent) : ExecutionIsolate :=
  events.foldl (Isolate.after (setting jsRate slowEnv id))
    ⟨sampleMemory 1 (1 / 1000) (1, 1), [], []⟩

private def rateAnswer : ℕ → ExecutionEvent :=
  fun i => .resume i (sampleAnswer (some [("status", .string "NEW")]))

/-- Three requests for information at once, two of which wait for the same moment. -/
private def waitingRun : List ExecutionEvent :=
  [.start .info, .start .info, .start .info, .act 1000, rateAnswer 1, rateAnswer 2]

/-- Two orders, reserved a second apart and sent at the same moment. -/
private def queuedRun : List ExecutionEvent :=
  [.start (.execute sampleIntent), rateAnswer 0, rateAnswer 0, .act 1000,
    .start (.execute { sampleIntent with intentId := "other" }), rateAnswer 1, rateAnswer 1,
    rateAnswer 0, rateAnswer 0, rateAnswer 1, rateAnswer 1]

private theorem reaches_rateIsolate (events : List ExecutionEvent)
    (hevents : Isolate.Along (setting jsRate slowEnv id)
      (fun isolate event => admits isolate event = true) events
      ⟨sampleMemory 1 (1 / 1000) (1, 1), [], []⟩) :
    Reaches (setting jsRate slowEnv id) (fun isolate event => admits isolate event = true)
      (Ready jsRate slowEnv) (rateIsolate events) :=
  Reaches.along (Reaches.start _ ⟨by decide +kernel, 0, by decide +kernel, by decide +kernel⟩)
    hevents

/-- The two orders were both sent within a second of their reservations. -/
theorem queued_promptRequests_le :
    promptRequestsWithin (rateIsolate queuedRun).history 1000 1000 1000 = 2 ∧
      (promptRequestsWithin (rateIsolate queuedRun).history (1000 : ℕ) 1000 (1000 + (0 : ℕ)) : ℚ) ≤
        capacity jsRate slowEnv + refillPerMs jsRate slowEnv * ((0 : ℕ) + (1000 : ℕ)) :=
  ⟨by decide +kernel,
    promptRequests_le (reaches_rateIsolate queuedRun (by decide +kernel)) 1000 0 1000⟩

/-- At one moment two requests are sent with a capacity of one: after a refusal's waiting time,
and after reservations made at different moments. -/
theorem requests_exceed_bucket :
    (Reaches (setting jsRate slowEnv id) (fun isolate event => admits isolate event = true)
        (Ready jsRate slowEnv) (rateIsolate waitingRun) ∧
      capacity jsRate slowEnv + refillPerMs jsRate slowEnv * (0 : ℕ) <
        (requestsWithin (rateIsolate waitingRun).history 1000 (1000 + (0 : ℕ)) : ℚ)) ∧
    Reaches (setting jsRate slowEnv id) (fun isolate event => admits isolate event = true)
        (Ready jsRate slowEnv) (rateIsolate queuedRun) ∧
      capacity jsRate slowEnv + refillPerMs jsRate slowEnv * (0 : ℕ) <
        (requestsWithin (rateIsolate queuedRun).history 1000 (1000 + (0 : ℕ)) : ℚ) :=
  ⟨⟨reaches_rateIsolate waitingRun (by decide +kernel), by decide +kernel⟩,
    reaches_rateIsolate queuedRun (by decide +kernel), by decide +kernel⟩

end Yevow.Execution
