import Yevow.Models.Execution.RateLimiter

/-!
# Runs of the rate limiter

Reservations of either priority, exported copies and their return, under a clock that does not go
back. What a bucket will answer is its level, the tokens it has at each later moment: a refused
call leaves the level alone, a granted one lowers it, and a copy that is brought back sets it to
what the copy has by then.
-/

namespace Yevow.Execution

/-! ## Copies -/

/-- `isValidBucket`, for numbers that are finite. -/
def RateLimitBucket.IsValid (bucket : RateLimitBucket) : Prop :=
  0 < bucket.capacity ∧ 0 < bucket.refillPerMs

instance (bucket : RateLimitBucket) : Decidable bucket.IsValid :=
  inferInstanceAs (Decidable (_ ∧ _))

namespace RateLimiter

/-- A copy of every bucket. -/
def exportState (limiter : RateLimiter) : RateLimiter := limiter

/-- Replace the buckets by the valid ones of a copy; without a copy nothing happens. -/
def hydrate (limiter : RateLimiter) : Option RateLimiter → RateLimiter
  | none => limiter
  | some state => state.filter fun _ bucket => bucket.IsValid

end RateLimiter

/-! ## Levels -/

namespace RateLimitBucket

variable {bucket bucket' : RateLimitBucket} {now t : ℤ} {capacity rate : ℚ}

/-- The tokens of a bucket once it is refilled. -/
def level (bucket : RateLimitBucket) (t : ℤ) : ℚ := (bucket.refill t).tokens

private theorem level_eq (h : bucket.updatedAt ≤ t) :
    bucket.level t = min bucket.capacity
      (bucket.tokens + ((t : ℚ) - bucket.updatedAt) * bucket.refillPerMs) := by
  have helapsed : max 0 (t - bucket.updatedAt) = t - bucket.updatedAt := by omega
  show min _ (bucket.tokens + ((max 0 (t - bucket.updatedAt) : ℤ) : ℚ) * bucket.refillPerMs) = _
  rw [helapsed]
  push_cast
  rfl

private theorem level_le_capacity (bucket : RateLimitBucket) (t : ℤ) :
    bucket.level t ≤ bucket.capacity :=
  min_le_left _ _

/-- A bucket of a capacity and a rate at some moment. -/
structure Sound (capacity rate : ℚ) (now : ℤ) (bucket : RateLimitBucket) : Prop where
  capacity_pos : 0 < capacity
  rate_pos : 0 < rate
  capacity_eq : bucket.capacity = capacity
  rate_eq : bucket.refillPerMs = rate
  tokens_nonneg : 0 ≤ bucket.tokens
  tokens_le : bucket.tokens ≤ capacity
  past : bucket.updatedAt ≤ now

private theorem Sound.later (h : bucket.Sound capacity rate now) (hle : now ≤ t) :
    bucket.Sound capacity rate t :=
  { h with past := h.past.trans hle }

private theorem Sound.level_nonneg (h : bucket.Sound capacity rate now) : 0 ≤ bucket.level now := by
  have hgain : (0 : ℚ) ≤ ((now : ℚ) - bucket.updatedAt) * bucket.refillPerMs := by
    rw [h.rate_eq]
    have hpast : (bucket.updatedAt : ℚ) ≤ now := by exact_mod_cast h.past
    exact mul_nonneg (by linarith) h.rate_pos.le
  rw [level_eq h.past, h.capacity_eq]
  exact le_min (h.tokens_nonneg.trans h.tokens_le) (add_nonneg h.tokens_nonneg hgain)

private theorem Sound.refill (h : bucket.Sound capacity rate now) :
    (bucket.refill now).Sound capacity rate now where
  capacity_pos := h.capacity_pos
  rate_pos := h.rate_pos
  capacity_eq := h.capacity_eq
  rate_eq := h.rate_eq
  tokens_nonneg := h.level_nonneg
  tokens_le := h.capacity_eq ▸ bucket.level_le_capacity now
  past := le_rfl

/-- From one moment to a later one the level gains what is refilled, up to the capacity. -/
theorem Sound.level_later (h : bucket.Sound capacity rate now) (ht : now ≤ t) :
    bucket.level t = min capacity (bucket.level now + rate * (t - now)) := by
  have hgain : (0 : ℚ) ≤ rate * ((t : ℚ) - now) := by
    have hle : (now : ℚ) ≤ t := by exact_mod_cast ht
    exact mul_nonneg h.rate_pos.le (by linarith)
  rw [level_eq h.past, level_eq (h.past.trans ht), h.capacity_eq, h.rate_eq, ← min_add_add_right,
    ← min_assoc, min_eq_left (by linarith : capacity ≤ capacity + rate * ((t : ℚ) - now))]
  congr 1
  ring

private theorem Sound.level_le (h : bucket.Sound capacity rate now) (ht : now ≤ t) :
    bucket.level t ≤ bucket.level now + rate * (t - now) := by
  rw [h.level_later ht]
  exact min_le_right _ _

/-- A refilled bucket has its level for tokens. -/
theorem level_self (h : bucket.Sound capacity rate now) (hnow : bucket.updatedAt = now) :
    bucket.level now = bucket.tokens := by
  rw [level_eq hnow.le, hnow, sub_self, zero_mul, add_zero, h.capacity_eq]
  exact min_eq_right h.tokens_le

private theorem Sound.level_refill (h : bucket.Sound capacity rate now) (ht : now ≤ t) :
    (bucket.refill now).level t = bucket.level t := by
  have hself : (bucket.refill now).level now = bucket.level now := level_self h.refill rfl
  rw [h.refill.level_later ht, hself, ← h.level_later ht]

/-- Whatever the moment, the two buckets have the same tokens from then on. -/
structure SameFuture (now : ℤ) (bucket bucket' : RateLimitBucket) : Prop where
  capacity_eq : bucket'.capacity = bucket.capacity
  rate_eq : bucket'.refillPerMs = bucket.refillPerMs
  level_eq : ∀ t, now ≤ t → bucket'.level t = bucket.level t

private theorem SameFuture.refl (now : ℤ) (bucket : RateLimitBucket) :
    SameFuture now bucket bucket :=
  ⟨rfl, rfl, fun _ _ => rfl⟩

private theorem SameFuture.later (h : SameFuture now bucket bucket') (hle : now ≤ t) :
    SameFuture t bucket bucket' :=
  { h with level_eq := fun u hu => h.level_eq u (hle.trans hu) }

/-- Refilled at the same moment, they are the same bucket. -/
theorem SameFuture.refill_eq (h : SameFuture now bucket bucket') (ht : now ≤ t) :
    bucket'.refill t = bucket.refill t := by
  have htokens : (bucket'.refill t).tokens = (bucket.refill t).tokens := h.level_eq t ht
  rw [RateLimitBucket.refill_eq, RateLimitBucket.refill_eq] at htokens ⊢
  simp only [h.capacity_eq, h.rate_eq] at htokens ⊢
  rw [htokens]

/-! ### Taking tokens -/

private theorem take_of_le {cost : ℚ} (h : cost ≤ bucket.tokens) :
    bucket.take cost = (.allowed, { bucket with tokens := bucket.tokens - cost }) := if_pos h

private theorem take_of_lt {cost : ℚ} (h : bucket.tokens < cost) :
    bucket.take cost = (.refused ⌈(cost - bucket.tokens) / bucket.refillPerMs⌉, bucket) :=
  if_neg (not_le.mpr h)

/-- What an answer costs. -/
def granted (cost : ℚ) : Reservation → ℚ
  | .allowed => cost
  | .refused _ => 0

/-- A call leaves a bucket of its kind, whose level is lower by what was granted. -/
theorem Sound.take {cost : ℚ} (h : bucket.Sound capacity rate now) (hcost : 0 ≤ cost) :
    ((bucket.refill now).take cost).2.Sound capacity rate now ∧
      ((bucket.refill now).take cost).2.level now =
        bucket.level now - granted cost ((bucket.refill now).take cost).1 := by
  have hfull : (bucket.refill now).Sound capacity rate now := h.refill
  by_cases hle : cost ≤ (bucket.refill now).tokens
  · rw [take_of_le hle]
    have hsound : ({ bucket.refill now with tokens := (bucket.refill now).tokens - cost } :
        RateLimitBucket).Sound capacity rate now :=
      { hfull with
        tokens_nonneg := sub_nonneg.mpr hle
        tokens_le := (sub_le_self _ hcost).trans hfull.tokens_le }
    exact ⟨hsound, level_self hsound rfl⟩
  · rw [take_of_lt (not_le.mp hle)]
    refine ⟨hfull, ?_⟩
    rw [level_self hfull rfl]
    exact (sub_zero _).symm

/-- A refused call leaves what the bucket will have. -/
theorem Sound.take_refused {cost : ℚ} {waitMs : ℤ} (h : bucket.Sound capacity rate now)
    (hrefused : ((bucket.refill now).take cost).1 = .refused waitMs) :
    SameFuture now bucket ((bucket.refill now).take cost).2 := by
  have hlt : (bucket.refill now).tokens < cost := by
    by_contra hge
    rw [take_of_le (not_lt.mp hge)] at hrefused
    cases hrefused
  rw [take_of_lt hlt]
  exact ⟨rfl, rfl, fun t ht => h.level_refill ht⟩

/-- After the time a refusal names there are tokens enough, where the capacity allows it. -/
theorem Sound.le_level_of_refused {cost : ℚ} {waitMs : ℤ} (h : bucket.Sound capacity rate now)
    (hrefused : ((bucket.refill now).take cost).1 = .refused waitMs) (hcost : cost ≤ capacity)
    (ht : now + waitMs ≤ t) : now ≤ t ∧ cost ≤ bucket.level t := by
  have hlt : bucket.level now < cost := by
    by_contra hge
    rw [take_of_le (not_lt.mp hge)] at hrefused
    cases hrefused
  have hwait : waitMs = ⌈(cost - bucket.level now) / rate⌉ := by
    rw [take_of_lt hlt] at hrefused
    rw [← h.rate_eq]
    exact (Reservation.refused.inj hrefused).symm
  have hneeded : (cost - bucket.level now) / rate ≤ waitMs := hwait ▸ Int.le_ceil _
  have hpositive : 0 < (cost - bucket.level now) / rate :=
    div_pos (sub_pos.mpr hlt) h.rate_pos
  have hwaits : (0 : ℚ) < waitMs := hpositive.trans_le hneeded
  have hnow : now ≤ t := by
    have hnonneg : (0 : ℤ) < waitMs := by exact_mod_cast hwaits
    omega
  refine ⟨hnow, ?_⟩
  have helapsed : (waitMs : ℚ) ≤ t - now := by
    have : ((now + waitMs : ℤ) : ℚ) ≤ t := by exact_mod_cast ht
    push_cast at this
    linarith
  have hgain : cost - bucket.level now ≤ rate * (t - now) := by
    rw [div_le_iff₀ h.rate_pos] at hneeded
    have := mul_le_mul_of_nonneg_left helapsed h.rate_pos.le
    linarith
  rw [h.level_later hnow]
  exact le_min hcost (by linarith)

end RateLimitBucket

/-! ## Runs -/

/-- A limiter and the copies made of it so far. -/
structure LimiterState where
  limiter : RateLimiter
  copies : List RateLimiter

/-- A call of the limiter. -/
inductive LimiterCall
  | reserve (exchangeKey : String) (priority : RateLimitPriority)
  | exportState
  | hydrate (copy : ℕ)
  deriving DecidableEq

namespace LimiterState

/-- A call at some moment: what it answers and what it leaves. -/
def serve (s : LimiterState) (now : ℤ) : LimiterCall → Option Reservation × LimiterState
  | .reserve exchangeKey priority =>
    let reserved := RateLimiter.reserve s.limiter now exchangeKey priority
    (some reserved.1, { s with limiter := reserved.2 })
  | .exportState => (none, { s with copies := s.copies ++ [RateLimiter.exportState s.limiter] })
  | .hydrate copy => (none, { s with limiter := RateLimiter.hydrate s.limiter s.copies[copy]? })

/-- The state after calls, each at its moment. -/
def after : List (ℤ × LimiterCall) → LimiterState → LimiterState
  | [], s => s
  | (now, call) :: rest, s => after rest (s.serve now call).2

/-- What the calls are answered. -/
def answers : List (ℤ × LimiterCall) → LimiterState → List (Option Reservation)
  | [], _ => []
  | (now, call) :: rest, s => (s.serve now call).1 :: answers rest (s.serve now call).2

/-- The cost that one call is granted by a bucket. -/
def grantedBy (exchangeKey : String) (s : LimiterState) (now : ℤ) : LimiterCall → ℚ
  | .reserve key priority =>
    if key = exchangeKey then
      RateLimitBucket.granted priority.cost (RateLimiter.reserve s.limiter now key priority).1
    else 0
  | _ => 0

/-- The cost that calls are granted by a bucket. -/
def granted (exchangeKey : String) : List (ℤ × LimiterCall) → LimiterState → ℚ
  | [], _ => 0
  | (now, call) :: rest, s =>
    s.grantedBy exchangeKey now call + granted exchangeKey rest (s.serve now call).2

/-- A copy that is brought back has by then no more tokens in a bucket than it replaces. -/
def GivesBackNone (exchangeKey : String) (s : LimiterState) (now : ℤ) : LimiterCall → Prop
  | .hydrate copy => ∀ state bucket bucket', s.copies[copy]? = some state →
      s.limiter.get? exchangeKey = some bucket → state.get? exchangeKey = some bucket' →
        bucket'.level now ≤ bucket.level now
  | _ => True

/-- No call gives tokens back. -/
def GivesNoneBack (exchangeKey : String) : List (ℤ × LimiterCall) → LimiterState → Prop
  | [], _ => True
  | (now, call) :: rest, s =>
    s.GivesBackNone exchangeKey now call ∧ GivesNoneBack exchangeKey rest (s.serve now call).2

/-- The clock does not go back, from some moment on. -/
def Clocked (now : ℤ) (calls : List (ℤ × LimiterCall)) : Prop :=
  (now :: calls.map Prod.fst).Pairwise (· ≤ ·)

/-- The last moment of calls. -/
def clock : ℤ → List (ℤ × LimiterCall) → ℤ
  | now, [] => now
  | _, (now, _) :: rest => clock now rest

variable {s s' : LimiterState} {exchangeKey : String} {capacity rate : ℚ} {now t : ℤ}

private theorem Clocked.cons {call : LimiterCall} {rest : List (ℤ × LimiterCall)}
    (h : Clocked now ((t, call) :: rest)) : now ≤ t ∧ Clocked t rest := by
  unfold Clocked at h ⊢
  rw [List.map_cons, List.pairwise_cons] at h
  exact ⟨h.1 t (List.mem_cons_self ..), h.2⟩

/-! ### What a bucket keeps -/

/-- A limiter that has a bucket of a capacity and a rate. -/
def HasBucket (exchangeKey : String) (capacity rate : ℚ) (now : ℤ) (limiter : RateLimiter) : Prop :=
  ∃ bucket, limiter.get? exchangeKey = some bucket ∧ bucket.Sound capacity rate now

/-- The limiter has the bucket, and so has every copy. -/
structure Holds (exchangeKey : String) (capacity rate : ℚ) (now : ℤ) (s : LimiterState) : Prop where
  limiter : HasBucket exchangeKey capacity rate now s.limiter
  copies : ∀ copy ∈ s.copies, HasBucket exchangeKey capacity rate now copy

private theorem HasBucket.later {limiter : RateLimiter}
    (h : HasBucket exchangeKey capacity rate now limiter)
    (hle : now ≤ t) : HasBucket exchangeKey capacity rate t limiter := by
  obtain ⟨bucket, hbucket, hsound⟩ := h
  exact ⟨bucket, hbucket, hsound.later hle⟩

private theorem Holds.later (h : s.Holds exchangeKey capacity rate now) (hle : now ≤ t) :
    s.Holds exchangeKey capacity rate t :=
  ⟨h.limiter.later hle, fun copy hcopy => (h.copies copy hcopy).later hle⟩

private theorem cost_nonneg (priority : RateLimitPriority) : 0 ≤ priority.cost := by
  cases priority with
  | cancel => norm_num [RateLimitPriority.cost]
  | new => norm_num [RateLimitPriority.cost]

private theorem get?_reserve_self {limiter : RateLimiter} {bucket : RateLimitBucket} (now : ℤ)
    (hbucket : limiter.get? exchangeKey = some bucket) (priority : RateLimitPriority) :
    RateLimiter.reserve limiter now exchangeKey priority =
      (((bucket.refill now).take priority.cost).1,
        limiter.set exchangeKey ((bucket.refill now).take priority.cost).2) := by
  rw [RateLimiter.reserve_eq, RateLimiter.bucket_eq, hbucket]
  rfl

private theorem get?_hydrate {limiter state : RateLimiter} {bucket : RateLimitBucket}
    (hbucket : state.get? exchangeKey = some bucket) (hsound : bucket.Sound capacity rate now) :
    (RateLimiter.hydrate limiter (some state)).get? exchangeKey = some bucket := by
  have hvalid : bucket.IsValid := by
    constructor
    · rw [hsound.capacity_eq]
      exact hsound.capacity_pos
    · rw [hsound.rate_eq]
      exact hsound.rate_pos
  show (Rows.filter _ state).get? exchangeKey = _
  rw [Rows.get?_filter, hbucket, Option.filter_some, if_pos (decide_eq_true hvalid)]

private theorem grantedBy_reserve (key : String) (priority : RateLimitPriority) :
    s.grantedBy exchangeKey now (.reserve key priority) =
      if key = exchangeKey then
        RateLimitBucket.granted priority.cost (RateLimiter.reserve s.limiter now key priority).1
      else 0 := rfl

/-- A call keeps the bucket, and what it is granted is gone from it. -/
theorem Holds.serve (h : s.Holds exchangeKey capacity rate now) (call : LimiterCall) :
    (s.serve now call).2.Holds exchangeKey capacity rate now ∧
      (s.GivesBackNone exchangeKey now call → ∀ bucket bucket',
        s.limiter.get? exchangeKey = some bucket →
        (s.serve now call).2.limiter.get? exchangeKey = some bucket' →
        s.grantedBy exchangeKey now call + bucket'.level now ≤ bucket.level now) := by
  obtain ⟨⟨bucket, hbucket, hsound⟩, hcopies⟩ := h
  cases call with
  | reserve key priority =>
    by_cases hkey : key = exchangeKey
    · subst hkey
      have hreserve := get?_reserve_self now hbucket priority
      obtain ⟨hsound', hlevel⟩ := hsound.take (cost_nonneg priority)
      have hget : (s.serve now (.reserve key priority)).2.limiter.get? key =
          some ((bucket.refill now).take priority.cost).2 := by
        show (RateLimiter.reserve s.limiter now key priority).2.get? key = _
        rw [hreserve, Rows.get?_set_self]
      refine ⟨⟨⟨_, hget, hsound'⟩, hcopies⟩, fun _ b b' hb hb' => ?_⟩
      obtain rfl := Option.some.inj (hbucket.symm.trans hb)
      obtain rfl := Option.some.inj (hget.symm.trans hb')
      rw [grantedBy_reserve, if_pos rfl, hreserve, hlevel]
      linarith
    · have hget :
        (s.serve now (.reserve key priority)).2.limiter.get? exchangeKey = some bucket := by
        show (Rows.set s.limiter key _).get? exchangeKey = _
        rw [Rows.get?_set, if_neg (Ne.symm hkey), hbucket]
      refine ⟨⟨⟨bucket, hget, hsound⟩, hcopies⟩, fun _ b b' hb hb' => ?_⟩
      obtain rfl := Option.some.inj (hbucket.symm.trans hb)
      obtain rfl := Option.some.inj (hget.symm.trans hb')
      rw [grantedBy_reserve, if_neg hkey, zero_add]
  | exportState =>
    refine ⟨⟨⟨bucket, hbucket, hsound⟩, fun copy hcopy => ?_⟩, fun _ b b' hb hb' => ?_⟩
    · rcases List.mem_append.mp hcopy with hold | hnew
      · exact hcopies copy hold
      · rw [List.mem_singleton.mp hnew]
        exact ⟨bucket, hbucket, hsound⟩
    · obtain rfl := Option.some.inj (hb.symm.trans hb')
      exact (zero_add _).le
  | hydrate index =>
    cases hcopy : s.copies[index]? with
    | none =>
      have hsame : (s.serve now (.hydrate index)).2 = s := by
        show { s with limiter := RateLimiter.hydrate s.limiter s.copies[index]? } = s
        rw [hcopy]
        rfl
      rw [hsame]
      refine ⟨⟨⟨bucket, hbucket, hsound⟩, hcopies⟩, fun _ b b' hb hb' => ?_⟩
      obtain rfl := Option.some.inj (hb.symm.trans hb')
      exact (zero_add _).le
    | some state =>
      obtain ⟨restored, hrestored, hsound'⟩ := hcopies state (List.mem_of_getElem? hcopy)
      have hget : (s.serve now (.hydrate index)).2.limiter.get? exchangeKey = some restored := by
        show (RateLimiter.hydrate s.limiter s.copies[index]?).get? exchangeKey = _
        rw [hcopy]
        exact get?_hydrate hrestored hsound'
      refine ⟨⟨⟨restored, hget, hsound'⟩, hcopies⟩, fun hback b b' hb hb' => ?_⟩
      obtain rfl := Option.some.inj (hget.symm.trans hb')
      show 0 + _ ≤ _
      rw [zero_add]
      exact hback state b restored hcopy hb hrestored

private theorem Holds.after (h : s.Holds exchangeKey capacity rate now)
    {calls : List (ℤ × LimiterCall)}
    (hclock : Clocked now calls) :
    (after calls s).Holds exchangeKey capacity rate (clock now calls) := by
  induction calls generalizing s now with
  | nil => exact h
  | cons call rest ih =>
    obtain ⟨hle, hrest⟩ := hclock.cons
    exact ih ((h.later hle).serve call.2).1 hrest

private theorem clock_le {calls : List (ℤ × LimiterCall)} {b : ℚ} (hnow : (now : ℚ) ≤ b)
    (hcalls : ∀ call ∈ calls, (call.1 : ℚ) ≤ b) : ((clock now calls : ℤ) : ℚ) ≤ b := by
  induction calls generalizing now with
  | nil => exact hnow
  | cons call rest ih =>
    exact ih (hcalls call (List.mem_cons_self ..)) fun c hc => hcalls c (List.mem_cons_of_mem _ hc)

/-- From one moment on a bucket grants at most what it has then and what is refilled. -/
theorem Holds.granted_le (h : s.Holds exchangeKey capacity rate now)
    {calls : List (ℤ × LimiterCall)} (hclock : Clocked now calls)
    (hback : GivesNoneBack exchangeKey calls s) {bucket : RateLimitBucket}
    (hbucket : s.limiter.get? exchangeKey = some bucket) :
    granted exchangeKey calls s ≤ bucket.level now + rate * (clock now calls - now) := by
  induction calls generalizing s now bucket with
  | nil =>
    obtain ⟨stored, hstored, hsound⟩ := h.limiter
    obtain rfl := Option.some.inj (hbucket.symm.trans hstored)
    have hlevel := hsound.level_nonneg
    show (0 : ℚ) ≤ bucket.level now + rate * (now - now)
    rw [sub_self, mul_zero, add_zero]
    exact hlevel
  | cons call rest ih =>
    obtain ⟨at_, call⟩ := call
    obtain ⟨hle, hrest⟩ := hclock.cons
    obtain ⟨stored, hstored, hsound⟩ := h.limiter
    obtain rfl := Option.some.inj (hbucket.symm.trans hstored)
    obtain ⟨hholds, hspent⟩ := (h.later hle).serve call
    obtain ⟨bucket', hbucket', -⟩ := hholds.limiter
    have hcall := hspent hback.1 bucket bucket' hbucket hbucket'
    have hlater := ih hholds hrest hback.2 hbucket'
    have hlevel := hsound.level_le hle
    show grantedBy exchangeKey s at_ call + granted exchangeKey rest (s.serve at_ call).2 ≤
      bucket.level now + rate * (clock at_ rest - now)
    linarith

/-! ### What a bucket will answer -/

/-- The buckets of two limiters have the same tokens from some moment on. -/
def SameBuckets (now : ℤ) (limiter limiter' : RateLimiter) : Prop :=
  ∀ key, Option.Rel (RateLimitBucket.SameFuture now) (limiter.get? key) (limiter'.get? key)

/-- So have those of their copies. -/
structure SameFuture (now : ℤ) (s s' : LimiterState) : Prop where
  limiter : SameBuckets now s.limiter s'.limiter
  copies : List.Forall₂ (SameBuckets now) s.copies s'.copies

private theorem SameBuckets.refl (now : ℤ) (limiter : RateLimiter) :
    SameBuckets now limiter limiter := by
  intro key
  cases limiter.get? key with
  | none => exact .none
  | some bucket => exact .some (.refl now bucket)

private theorem SameBuckets.later {limiter limiter' : RateLimiter}
    (h : SameBuckets now limiter limiter')
    (hle : now ≤ t) : SameBuckets t limiter limiter' := by
  intro key
  have hkey := h key
  generalize limiter.get? key = bucket?, limiter'.get? key = bucket?' at hkey ⊢
  cases hkey with
  | none => exact .none
  | some hsame => exact .some (hsame.later hle)

private theorem SameFuture.later (h : SameFuture now s s') (hle : now ≤ t) : SameFuture t s s' :=
  ⟨h.limiter.later hle, h.copies.imp fun _ _ hsame => hsame.later hle⟩

private theorem SameBuckets.bucket_refill {limiter limiter' : RateLimiter}
    (h : SameBuckets now limiter limiter') (key : String) :
    (RateLimiter.bucket limiter' now key).refill now =
      (RateLimiter.bucket limiter now key).refill now := by
  rw [RateLimiter.bucket_eq, RateLimiter.bucket_eq]
  have hkey := h key
  generalize limiter.get? key = bucket?, limiter'.get? key = bucket?' at hkey ⊢
  cases hkey with
  | none => rfl
  | some hsame => exact hsame.refill_eq le_rfl

private theorem SameBuckets.hydrate {limiter limiter' : RateLimiter}
    {copy copy' : Option RateLimiter}
    (h : SameBuckets now limiter limiter') (hcopy : Option.Rel (SameBuckets now) copy copy') :
    SameBuckets now (RateLimiter.hydrate limiter copy) (RateLimiter.hydrate limiter' copy') := by
  cases hcopy with
  | none => exact h
  | @some state state' hstate =>
    intro key
    simp only [RateLimiter.hydrate, Rows.get?_filter]
    have hkey := hstate key
    generalize state.get? key = bucket?, state'.get? key = bucket?' at hkey ⊢
    cases hkey with
    | none => exact .none
    | @some bucket bucket' hsame =>
      have hvalid : bucket'.IsValid ↔ bucket.IsValid := by
        unfold RateLimitBucket.IsValid
        rw [hsame.capacity_eq, hsame.rate_eq]
      simp only [Option.filter_some, hvalid]
      split_ifs
      · exact .some hsame
      · exact .none

/-- Two states with the same future answer a call alike and keep it. -/
theorem SameFuture.serve (h : SameFuture now s s') (call : LimiterCall) :
    (s'.serve now call).1 = (s.serve now call).1 ∧
      SameFuture now (s.serve now call).2 (s'.serve now call).2 := by
  cases call with
  | reserve key priority =>
    have htaken := h.limiter.bucket_refill key
    refine ⟨?_, ?_, h.copies⟩
    · show some (RateLimiter.reserve _ _ _ _).1 = some (RateLimiter.reserve _ _ _ _).1
      rw [RateLimiter.reserve_eq, RateLimiter.reserve_eq, htaken]
    · intro other
      show Option.Rel _ ((RateLimiter.reserve s.limiter now key priority).2.get? other)
        ((RateLimiter.reserve s'.limiter now key priority).2.get? other)
      rw [RateLimiter.reserve_eq, RateLimiter.reserve_eq, htaken, Rows.get?_set, Rows.get?_set]
      split_ifs
      · exact .some (.refl now _)
      · exact h.limiter other
  | exportState =>
    exact ⟨rfl, h.limiter, List.rel_append h.copies (.cons h.limiter .nil)⟩
  | hydrate index =>
    refine ⟨rfl, h.limiter.hydrate ?_, h.copies⟩
    have hcopies := h.copies
    generalize s.copies = copies at hcopies
    generalize s'.copies = copies' at hcopies
    induction hcopies generalizing index with
    | nil => exact .none
    | cons hsame _ ih =>
      cases index with
      | zero => exact .some hsame
      | succ index => exact ih index

private theorem SameFuture.answers_eq (h : SameFuture now s s') {calls : List (ℤ × LimiterCall)}
    (hclock : Clocked now calls) : answers calls s' = answers calls s := by
  induction calls generalizing s s' now with
  | nil => rfl
  | cons call rest ih =>
    obtain ⟨hle, hrest⟩ := hclock.cons
    obtain ⟨hanswer, hsame⟩ := (h.later hle).serve call.2
    show (s'.serve call.1 call.2).1 :: _ = (s.serve call.1 call.2).1 :: _
    rw [hanswer, ih hsame hrest]

/-! ## A configured bucket -/

/-- The limiter once a bucket is configured, without copies. -/
def configured (limiter : RateLimiter) (start : ℤ) (exchangeKey : String)
    (capacity refillPerSecond : ℚ) : LimiterState :=
  ⟨RateLimiter.configure limiter start exchangeKey capacity refillPerSecond, []⟩

private theorem holds_configured (limiter : RateLimiter) (start : ℤ) (exchangeKey : String)
    {capacity refillPerSecond : ℚ} (hcapacity : 0 < capacity) (hrefill : 0 < refillPerSecond) :
    (configured limiter start exchangeKey capacity refillPerSecond).Holds exchangeKey capacity
      (refillPerSecond / 1000) start := by
  refine ⟨⟨_, Rows.get?_set_self _ _ _, ?_⟩, fun copy hcopy => absurd hcopy List.not_mem_nil⟩
  exact ⟨hcapacity, by positivity, rfl, rfl, hcapacity.le, le_rfl, le_rfl⟩

/-- The calls of a window, all from `a` to `a + length`, are granted no more than a full bucket and
the refill of the window. -/
theorem Holds.granted_window (h : s.Holds exchangeKey capacity rate now)
    {calls : List (ℤ × LimiterCall)} (hclock : Clocked now calls)
    (hback : GivesNoneBack exchangeKey calls s) {a length : ℚ} (hlength : 0 ≤ length)
    (hcalls : ∀ call ∈ calls, a ≤ call.1 ∧ call.1 ≤ a + length) :
    granted exchangeKey calls s ≤ capacity + rate * length := by
  obtain ⟨bucket, hbucket, hsound⟩ := h.limiter
  cases calls with
  | nil => exact add_nonneg hsound.capacity_pos.le (mul_nonneg hsound.rate_pos.le hlength)
  | cons call rest =>
    obtain ⟨hle, hrest⟩ := hclock.cons
    have hfirst : Clocked call.1 (call :: rest) := by
      unfold Clocked at hrest ⊢
      rw [List.map_cons, List.pairwise_cons]
      refine ⟨fun b hb => ?_, hrest⟩
      rcases List.mem_cons.mp hb with rfl | hb
      · exact le_rfl
      · exact (List.pairwise_cons.mp hrest).1 b hb
    have hlast : ((clock call.1 rest : ℤ) : ℚ) ≤ a + length :=
      clock_le (hcalls call (List.mem_cons_self ..)).2
        fun c hc => (hcalls c (List.mem_cons_of_mem _ hc)).2
    have hgranted := (h.later hle).granted_le hfirst hback hbucket
    have hlevel : bucket.level call.1 ≤ capacity :=
      hsound.capacity_eq ▸ bucket.level_le_capacity call.1
    have hspan : rate * (((clock call.1 rest : ℤ) : ℚ) - call.1) ≤ rate * length := by
      have hstart := (hcalls call (List.mem_cons_self ..)).1
      exact mul_le_mul_of_nonneg_left (by linarith) hsound.rate_pos.le
    have hclock' : clock call.1 (call :: rest) = clock call.1 rest := rfl
    rw [hclock'] at hgranted
    linarith

private theorem Clocked.append {calls later : List (ℤ × LimiterCall)}
    (h : Clocked now (calls ++ later)) :
    Clocked now calls ∧ Clocked (clock now calls) later := by
  induction calls generalizing now with
  | nil => exact ⟨List.pairwise_singleton .., h⟩
  | cons call rest ih =>
    obtain ⟨hle, hrest⟩ := @Clocked.cons now call.1 call.2 (rest ++ later) h
    obtain ⟨hcalls, hlater⟩ := ih hrest
    refine ⟨?_, hlater⟩
    unfold Clocked at hcalls ⊢
    rw [List.map_cons, List.pairwise_cons]
    refine ⟨fun b hb => ?_, hcalls⟩
    rcases List.mem_cons.mp hb with rfl | hb
    · exact hle
    · exact hle.trans ((List.pairwise_cons.mp hcalls).1 b hb)

/-- A configured bucket keeps its tokens within its capacity and grants no window more than its
rate, as long as no copy gives tokens back; a refused call changes no later answer, and after the
time it names it is granted. -/
theorem bucket_keeps_rate (limiter : RateLimiter) (start : ℤ) (exchangeKey : String)
    {capacity refillPerSecond : ℚ} (hcapacity : 0 < capacity) (hrefill : 0 < refillPerSecond)
    {calls : List (ℤ × LimiterCall)} (hclock : Clocked start calls) :
    let s₀ := configured limiter start exchangeKey capacity refillPerSecond
    let s := after calls s₀
    (∃ bucket, s.limiter.get? exchangeKey = some bucket ∧ 0 ≤ bucket.tokens ∧
      bucket.tokens ≤ capacity) ∧
    (∀ earlier window later, calls = earlier ++ window ++ later →
      GivesNoneBack exchangeKey window (after earlier s₀) → ∀ a length : ℚ, 0 ≤ length →
        (∀ call ∈ window, a ≤ call.1 ∧ call.1 ≤ a + length) →
          granted exchangeKey window (after earlier s₀) ≤
            capacity + refillPerSecond / 1000 * length) ∧
    ∀ now priority waitMs, clock start calls ≤ now →
      (RateLimiter.reserve s.limiter now exchangeKey priority).1 = .refused waitMs →
        let refused := (s.serve now (.reserve exchangeKey priority)).2
        (∀ later, Clocked now later → answers later refused = answers later s) ∧
        (priority.cost ≤ capacity → ∀ t, now + waitMs ≤ t →
          (RateLimiter.reserve refused.limiter t exchangeKey priority).1 = .allowed) := by
  intro s₀ s
  have hstart : s₀.Holds exchangeKey capacity (refillPerSecond / 1000) start :=
    holds_configured limiter start exchangeKey hcapacity hrefill
  have hs : s.Holds exchangeKey capacity (refillPerSecond / 1000) (clock start calls) :=
    hstart.after hclock
  obtain ⟨bucket, hbucket, hsound⟩ := hs.limiter
  refine ⟨⟨bucket, hbucket, hsound.tokens_nonneg, hsound.tokens_le⟩, ?_, ?_⟩
  · rintro earlier window later rfl hback a length hlength hcalls
    obtain ⟨hprior, -⟩ := hclock.append
    obtain ⟨hearlier, hwindow⟩ := hprior.append
    exact (hstart.after hearlier).granted_window hwindow hback hlength hcalls
  · intro now priority waitMs hnow hrefused refused
    have hreserve := get?_reserve_self now hbucket priority
    rw [hreserve] at hrefused
    have hsame := (hsound.later hnow).take_refused hrefused
    have hfuture : SameFuture now s refused := by
      refine ⟨fun key => ?_, ?_⟩
      · show Option.Rel _ _
          (Rows.get? (RateLimiter.reserve s.limiter now exchangeKey priority).2 key)
        rw [hreserve, Rows.get?_set]
        split_ifs with hkey
        · rw [hkey, hbucket]
          exact .some hsame
        · exact SameBuckets.refl now s.limiter key
      · exact List.forall₂_same.mpr fun copy _ => SameBuckets.refl now copy
    refine ⟨fun later hlater => hfuture.answers_eq hlater, fun hcost t ht => ?_⟩
    obtain ⟨hle, hlevel⟩ := (hsound.later hnow).le_level_of_refused hrefused hcost ht
    have hsame' := ((hfuture.later hle).serve (.reserve exchangeKey priority)).1
    have hanswer := Option.some.inj hsame'
    rw [hanswer, get?_reserve_self t hbucket priority, RateLimitBucket.take_of_le hlevel]

/-- A copy from before a reservation gives its token back. -/
theorem granted_after_copy_given_back :
    let s := configured Rows.empty 0 "default" 1 1
    let calls : List (ℤ × LimiterCall) := [(0, .exportState), (0, .reserve "default" .new),
      (0, .hydrate 0), (0, .reserve "default" .new)]
    Clocked 0 calls ∧ granted "default" calls s = 2 ∧ (2 : ℚ) > 1 + 1 / 1000 * 0 := by
  refine ⟨by unfold Clocked; decide, by decide +kernel, by norm_num⟩

theorem bucket_keeps_rate_default :
    let s := after [(0, .reserve "default" .new)] (configured Rows.empty 0 "default" 1 10)
    (RateLimiter.reserve s.limiter 20 "default" .new).1 = .refused 80 ∧
      (RateLimiter.reserve (s.serve 20 (.reserve "default" .new)).2.limiter 100 "default" .new).1 =
        .allowed := by
  have hrefused : (RateLimiter.reserve (after [(0, .reserve "default" .new)]
      (configured Rows.empty 0 "default" 1 10)).limiter 20 "default" .new).1 = .refused 80 := by
    decide +kernel
  have hclock : Clocked 0 [(0, .reserve "default" .new)] := by
    unfold Clocked
    decide
  obtain ⟨-, -, hlater⟩ := @bucket_keeps_rate Rows.empty 0 "default" 1 10 (by norm_num)
    (by norm_num) _ hclock
  exact ⟨hrefused, (hlater 20 .new 80 (by decide) hrefused).2 le_rfl 100 (by norm_num)⟩

end LimiterState

end Yevow.Execution
