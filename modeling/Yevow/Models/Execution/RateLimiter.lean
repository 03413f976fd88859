import Mathlib.Algebra.Order.BigOperators.Group.List
import Mathlib.Tactic.Linarith
import Mathlib.Tactic.Positivity
import Mathlib.Algebra.Order.Floor.Ring
import Mathlib.Data.Rat.Floor
import Yevow.Core.Collection.Rows

/-!
# The rate limiter

A bucket of tokens per exchange fills with time up to its capacity. A reservation takes a
token where there is one, and is refused with a waiting time where there is none. Token
amounts are rounded after every operation; what a bucket grants is counted in exact arithmetic.
-/

namespace Yevow.Execution

/-- A bucket of tokens that refills. -/
structure RateLimitBucket where
  capacity : ℚ
  tokens : ℚ
  refillPerMs : ℚ
  updatedAt : ℤ
  deriving DecidableEq

/-- What a request is. -/
inductive RateLimitPriority
  | cancel
  | new
  deriving DecidableEq

/-- The answer to a reservation. -/
inductive Reservation
  | allowed
  | refused (waitMs : ℤ)
  deriving DecidableEq

/-- The buckets of the exchanges. -/
abbrev RateLimiter : Type := Rows String RateLimitBucket

/-- A cancel costs a quarter of a token. -/
def RateLimitPriority.cost : RateLimitPriority → ℚ
  | .cancel => 1 / 4
  | .new => 1

section Rounded

variable (round : ℚ → ℚ)

/-- `refill`, where results are rounded. -/
def RateLimitBucket.refillIn (bucket : RateLimitBucket) (now : ℤ) : RateLimitBucket :=
  let elapsed := max 0 (now - bucket.updatedAt)
  { bucket with
    tokens := min bucket.capacity (round (bucket.tokens + round (elapsed * bucket.refillPerMs)))
    updatedAt := now }

/-- Take tokens from a refilled bucket. -/
def RateLimitBucket.takeIn (bucket : RateLimitBucket) (cost : ℚ) :
    Reservation × RateLimitBucket :=
  if cost ≤ bucket.tokens then (.allowed, { bucket with tokens := round (bucket.tokens - cost) })
  else (.refused ⌈round (round (cost - bucket.tokens) / bucket.refillPerMs)⌉, bucket)

namespace RateLimiter

variable (limiter : RateLimiter) (now : ℤ)

/-- `configure`, where results are rounded. -/
def configureIn (exchangeKey : String) (capacity refillPerSecond : ℚ) : RateLimiter :=
  limiter.set exchangeKey ⟨capacity, capacity, round (refillPerSecond / 1000), now⟩

/-- The bucket of an exchange, or a default one. -/
def bucketIn (exchangeKey : String) : RateLimitBucket :=
  (limiter.get? exchangeKey).getD ⟨10, 10, round (10 / 1000), now⟩

/-- `reserve`, where results are rounded. -/
def reserveIn (exchangeKey : String) (priority : RateLimitPriority) :
    Reservation × RateLimiter :=
  let taken :=
    ((bucketIn round limiter now exchangeKey).refillIn round now).takeIn round priority.cost
  (taken.1, limiter.set exchangeKey taken.2)

end RateLimiter

end Rounded

/-! ## Exact amounts -/

namespace RateLimitBucket

/-- A bucket refilled up to some moment. -/
def refill (bucket : RateLimitBucket) (now : ℤ) : RateLimitBucket := bucket.refillIn id now

/-- Tokens are taken where there are enough. -/
def take (bucket : RateLimitBucket) (cost : ℚ) : Reservation × RateLimitBucket :=
  bucket.takeIn id cost

theorem refill_eq (bucket : RateLimitBucket) (now : ℤ) :
    bucket.refill now =
      { bucket with
        tokens := min bucket.capacity
          (bucket.tokens + (max 0 (now - bucket.updatedAt) : ℤ) * bucket.refillPerMs)
        updatedAt := now } := rfl

theorem take_eq (bucket : RateLimitBucket) (cost : ℚ) :
    bucket.take cost =
      if cost ≤ bucket.tokens then (.allowed, { bucket with tokens := bucket.tokens - cost })
      else (.refused ⌈(cost - bucket.tokens) / bucket.refillPerMs⌉, bucket) := rfl

end RateLimitBucket

namespace RateLimiter

variable (limiter : RateLimiter) (now : ℤ)

/-- A bucket is given its capacity and rate. -/
def configure (exchangeKey : String) (capacity refillPerSecond : ℚ) : RateLimiter :=
  configureIn id limiter now exchangeKey capacity refillPerSecond

/-- The bucket of an exchange, full where there is none. -/
def bucket (exchangeKey : String) : RateLimitBucket := bucketIn id limiter now exchangeKey

/-- A token is reserved. -/
def reserve (exchangeKey : String) (priority : RateLimitPriority) : Reservation × RateLimiter :=
  reserveIn id limiter now exchangeKey priority

theorem bucket_eq (exchangeKey : String) :
    bucket limiter now exchangeKey =
      (limiter.get? exchangeKey).getD ⟨10, 10, 10 / 1000, now⟩ := rfl

/-- A reservation refills the bucket and takes from it. -/
theorem reserve_eq (exchangeKey : String) (priority : RateLimitPriority) :
    reserve limiter now exchangeKey priority =
      ((((bucket limiter now exchangeKey).refill now).take priority.cost).1,
        limiter.set exchangeKey
          (((bucket limiter now exchangeKey).refill now).take priority.cost).2) := rfl

end RateLimiter

/-! ## What a bucket grants -/

/-- The times at which a bucket granted tokens, and what it may still grant. -/
structure HasGranted (bucket : RateLimitBucket) (grants : List ℤ) : Prop where
  rate_nonneg : 0 ≤ bucket.refillPerMs
  tokens_nonneg : 0 ≤ bucket.tokens
  tokens_le : bucket.tokens ≤ bucket.capacity
  past : ∀ g ∈ grants, g ≤ bucket.updatedAt
  /-- From any moment on, no more than a full bucket and its refill less what is left. -/
  since : ∀ a ≤ bucket.updatedAt, ((grants.countP (a ≤ ·) : ℕ) : ℚ) + bucket.tokens ≤
    bucket.capacity + bucket.refillPerMs * (bucket.updatedAt - a)
  within : ∀ a b : ℤ, a ≤ b → ((grants.countP fun g => a ≤ g ∧ g ≤ b : ℕ) : ℚ) ≤
    bucket.capacity + bucket.refillPerMs * (b - a)

namespace HasGranted

variable {bucket : RateLimitBucket} {grants : List ℤ}

/-- A full bucket has granted nothing. -/
theorem full {capacity rate : ℚ} (hcapacity : 0 ≤ capacity) (hrate : 0 ≤ rate) (now : ℤ) :
    HasGranted ⟨capacity, capacity, rate, now⟩ [] where
  rate_nonneg := hrate
  tokens_nonneg := hcapacity
  tokens_le := le_rfl
  past g hg := absurd hg List.not_mem_nil
  since a ha := by
    have : (0 : ℚ) ≤ rate * (now - a) := mul_nonneg hrate (by
      rw [sub_nonneg]
      exact_mod_cast ha)
    simpa using this
  within a b hab := by
    have : (0 : ℚ) ≤ rate * (b - a) := mul_nonneg hrate (by
      rw [sub_nonneg]
      exact_mod_cast hab)
    simpa using add_nonneg hcapacity this

/-- Time passes for a bucket. -/
theorem refill (h : HasGranted bucket grants) {now : ℤ} (hnow : bucket.updatedAt ≤ now) :
    HasGranted (bucket.refill now) grants := by
  have helapsed : max 0 (now - bucket.updatedAt) = now - bucket.updatedAt := by omega
  have hgain : (0 : ℚ) ≤ (now - bucket.updatedAt : ℤ) * bucket.refillPerMs :=
    mul_nonneg (by exact_mod_cast Int.sub_nonneg_of_le hnow) h.rate_nonneg
  have htokens : (bucket.refill now).tokens =
      min bucket.capacity (bucket.tokens + (now - bucket.updatedAt : ℤ) * bucket.refillPerMs) := by
    rw [RateLimitBucket.refill_eq, helapsed]
  refine ⟨h.rate_nonneg, ?_, ?_, fun g hg => (h.past g hg).trans hnow, ?_, h.within⟩
  · rw [htokens]
    exact le_min (h.tokens_nonneg.trans h.tokens_le) (add_nonneg h.tokens_nonneg hgain)
  · rw [htokens]
    exact min_le_left _ _
  · intro a ha
    show _ + _ ≤ bucket.capacity + bucket.refillPerMs * ((now : ℤ) - a)
    rw [htokens]
    by_cases hold : a ≤ bucket.updatedAt
    · have hsince := h.since a hold
      have hmin := min_le_right bucket.capacity
        (bucket.tokens + (now - bucket.updatedAt : ℤ) * bucket.refillPerMs)
      push_cast at hmin ⊢
      linarith
    · have hnone : grants.countP (a ≤ ·) = 0 := by
        rw [List.countP_eq_zero]
        intro g hg
        have := h.past g hg
        simp only [decide_eq_true_eq]
        omega
      have hlater : (0 : ℚ) ≤ bucket.refillPerMs * ((now : ℤ) - a) :=
        mul_nonneg h.rate_nonneg (by
          rw [sub_nonneg]
          exact_mod_cast ha)
      have hmin := min_le_left bucket.capacity
        (bucket.tokens + (now - bucket.updatedAt : ℤ) * bucket.refillPerMs)
      rw [hnone]
      push_cast at hmin ⊢
      linarith

/-- A granted reservation is counted at the moment it is made. -/
theorem take_allowed (h : HasGranted bucket grants)
    (hallowed : (bucket.take 1).1 = .allowed) :
    HasGranted (bucket.take 1).2 (grants ++ [bucket.updatedAt]) := by
  have hone : 1 ≤ bucket.tokens := by
    by_contra hless
    simp [RateLimitBucket.take_eq, hless] at hallowed
  have htaken : (bucket.take 1).2 = { bucket with tokens := bucket.tokens - 1 } := by
    simp [RateLimitBucket.take_eq, hone]
  rw [htaken]
  have hsince : ∀ a ≤ bucket.updatedAt,
      (((grants ++ [bucket.updatedAt]).countP (a ≤ ·) : ℕ) : ℚ) + (bucket.tokens - 1) ≤
        bucket.capacity + bucket.refillPerMs * (bucket.updatedAt - a) := by
    intro a ha
    have hold := h.since a ha
    rw [List.countP_append, List.countP_singleton, if_pos (by simpa using ha)]
    push_cast
    linarith
  refine ⟨h.rate_nonneg, by linarith, by linarith [h.tokens_le], ?_, hsince, ?_⟩
  · intro g hg
    rcases List.mem_append.mp hg with hg | hg
    · exact h.past g hg
    · exact (List.mem_singleton.mp hg).le
  · intro a b hab
    by_cases hb : bucket.updatedAt ≤ b
    · by_cases ha : a ≤ bucket.updatedAt
      · have hmono : (grants ++ [bucket.updatedAt]).countP (fun g => a ≤ g ∧ g ≤ b) ≤
            (grants ++ [bucket.updatedAt]).countP (a ≤ ·) := by
          apply List.countP_mono_left
          intro g _ hg
          simp only [decide_eq_true_eq] at *
          exact hg.1
        have hcount : (((grants ++ [bucket.updatedAt]).countP fun g => a ≤ g ∧ g ≤ b : ℕ) : ℚ) ≤
            ((grants ++ [bucket.updatedAt]).countP (a ≤ ·) : ℕ) := by
          exact_mod_cast hmono
        have hgain : bucket.refillPerMs * (bucket.updatedAt - a) ≤ bucket.refillPerMs * (b - a) :=
          mul_le_mul_of_nonneg_left (by
            have : (bucket.updatedAt : ℚ) ≤ b := by exact_mod_cast hb
            linarith) h.rate_nonneg
        have := hsince a ha
        linarith
      · have hsame : (grants ++ [bucket.updatedAt]).countP (fun g => a ≤ g ∧ g ≤ b) =
            grants.countP fun g => a ≤ g ∧ g ≤ b := by
          rw [List.countP_append, List.countP_singleton, if_neg (by simp [ha]), add_zero]
        rw [hsame]
        exact h.within a b hab
    · have hsame : (grants ++ [bucket.updatedAt]).countP (fun g => a ≤ g ∧ g ≤ b) =
          grants.countP fun g => a ≤ g ∧ g ≤ b := by
        rw [List.countP_append, List.countP_singleton, if_neg (by simp [hb]), add_zero]
      rw [hsame]
      exact h.within a b hab

/-- A refused reservation takes nothing. -/
theorem take_refused {waitMs : ℤ} (h : HasGranted bucket grants)
    (hrefused : (bucket.take 1).1 = .refused waitMs) : HasGranted (bucket.take 1).2 grants := by
  have hless : ¬1 ≤ bucket.tokens := by
    intro hone
    simp [RateLimitBucket.take_eq, hone] at hrefused
  simpa [RateLimitBucket.take_eq, hless] using h

end HasGranted

end Yevow.Execution
