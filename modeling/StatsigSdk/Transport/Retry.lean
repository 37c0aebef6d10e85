import Mathlib.Data.BitVec
import Mathlib.Data.List.Range

/-! The retry engine of the transport (`retry` in `transport.go`). `retry` calls
`fn` until `fn` asks for no retry or the budget is spent; before each new call it
sleeps `backoff` and multiplies `backoff` by `backoffMultiplier`. Durations are
Go's `time.Duration`, a signed 64-bit count of nanoseconds, so the product wraps.
`fn i` stands for what the `i`-th call of the closure returns, so a run of `retry`
is a function of the budget, the first backoff and that sequence of outcomes.
Proved: for every budget and every outcome sequence, the exact list of calls and
sleeps and the returned pair; the sleeps are `b * 10 ^ i` in 64-bit arithmetic,
the exact integers for the first ten, and from one second the eleventh wraps. -/

namespace StatsigSdk

/-- Go's `time.Duration`: nanoseconds in a signed 64-bit integer. -/
abbrev Duration := BitVec 64

/-- `time.Second`. -/
def second : Duration := 1000000000#64

def backoffMultiplier : Duration := 10#64

/-- What `retry` does, in order: the `i`-th call of `fn` (from `0`), or a sleep. -/
inductive RetryStep where
  | invoke (i : Nat)
  | sleep (d : Duration)
  deriving DecidableEq, Repr

def RetryStep.invoked : RetryStep → Option Nat
  | .invoke i => some i
  | .sleep _ => none

def RetryStep.slept : RetryStep → Option Duration
  | .sleep d => some d
  | .invoke _ => none

/-- The calls of `fn` a run makes. -/
def calls (steps : List RetryStep) : List Nat := steps.filterMap RetryStep.invoked

/-- The durations a run sleeps. -/
def sleeps (steps : List RetryStep) : List Duration := steps.filterMap RetryStep.slept

/-- What one call of the closure returns: `(response, retry, err)`. -/
structure Attempt (R E : Type) where
  response : R
  retry : Bool
  err : E

variable {R E : Type}

/-- The loop of `retry` from the `i`-th call of `fn`, with `budget` retries left:
the test `retries <= 0` is `budget = 0` and `retries--` is `budget - 1`.
`fn i` is what the `i`-th call returns. -/
def retryFrom (fn : Nat → Attempt R E) : Nat → Duration → Nat → (R × E) × List RetryStep
  | budget, backoff, i =>
    let a := fn i
    if a.retry then
      match budget with
      | 0 => ((a.response, a.err), [.invoke i])
      | budget + 1 =>
        let run := retryFrom fn budget (backoff * backoffMultiplier) (i + 1)
        (run.1, .invoke i :: .sleep backoff :: run.2)
    else ((a.response, a.err), [.invoke i])

def retry (retries : Int) (backoff : Duration) (fn : Nat → Attempt R E) :
    (R × E) × List RetryStep :=
  retryFrom fn retries.toNat backoff 0

/-! ### The exact run -/

/-- A run with `n + 1` calls from the `i`-th: a call, then `n` times a sleep and
the next call, the backoff growing by `backoffMultiplier` after each sleep. -/
def retrySteps : Nat → Duration → Nat → List RetryStep
  | 0, _, i => [.invoke i]
  | n + 1, b, i => .invoke i :: .sleep b :: retrySteps n (b * backoffMultiplier) (i + 1)

theorem calls_retrySteps (n : Nat) (b : Duration) (i : Nat) :
    calls (retrySteps n b i) = List.range' i (n + 1) := by
  induction n generalizing b i with
  | zero => rfl
  | succ n ih =>
    simp only [retrySteps, calls, List.filterMap_cons, RetryStep.invoked, RetryStep.slept] at ih ⊢
    rw [ih]
    rfl

theorem sleeps_retrySteps (n : Nat) (b : Duration) (i : Nat) :
    sleeps (retrySteps n b i) = (List.range n).map fun j => b * backoffMultiplier ^ j := by
  induction n generalizing b i with
  | zero => rfl
  | succ n ih =>
    simp only [retrySteps, sleeps, List.filterMap_cons, RetryStep.invoked, RetryStep.slept] at ih ⊢
    rw [ih, List.range_succ_eq_map, List.map_cons, List.map_map]
    congr 1
    · simp
    · exact List.map_congr_left fun j _ => by simp [pow_succ', mul_assoc]

/-- The run of the loop once the leading `k` outcomes from the `i`-th ask for a
retry and the next one does not, or the budget is at most `k`. -/
theorem retryFrom_eq (fn : Nat → Attempt R E) (budget : Nat) (b : Duration) (i k : Nat)
    (hk : ∀ j < k, (fn (i + j)).retry = true)
    (hstop : (fn (i + k)).retry = false ∨ budget ≤ k) :
    retryFrom fn budget b i =
      (((fn (i + min budget k)).response, (fn (i + min budget k)).err),
        retrySteps (min budget k) b i) := by
  induction budget generalizing b i k with
  | zero => by_cases h : (fn i).retry <;> simp [retryFrom, retrySteps, h]
  | succ budget ih =>
    cases k with
    | zero =>
      have hi : (fn i).retry = false := by simpa using hstop
      simp [retryFrom, retrySteps, hi]
    | succ k =>
      have hi : (fn i).retry = true := by simpa using hk 0 (by omega)
      have hrec := ih (b * backoffMultiplier) (i + 1) k
        (fun j hj => by simpa [Nat.add_assoc, Nat.add_comm 1] using hk (j + 1) (by omega))
        (by simpa [Nat.add_assoc, Nat.add_comm 1] using hstop)
      simp only [retryFrom, hi, if_true, hrec, Nat.add_min_add_right, retrySteps]
      simp [Nat.add_assoc, Nat.add_comm 1]

/-- Whatever the outcomes, a run is `retrySteps m` for some `m` within the budget
and returns what the last call returned. -/
theorem retryFrom_last (fn : Nat → Attempt R E) (budget : Nat) (b : Duration) (i : Nat) :
    ∃ m ≤ budget, retryFrom fn budget b i =
      (((fn (i + m)).response, (fn (i + m)).err), retrySteps m b i) := by
  induction budget generalizing b i with
  | zero => exact ⟨0, le_rfl, by by_cases h : (fn i).retry <;> simp [retryFrom, retrySteps, h]⟩
  | succ budget ih =>
    by_cases h : (fn i).retry
    · obtain ⟨m, hm, hrun⟩ := ih (b * backoffMultiplier) (i + 1)
      refine ⟨m + 1, by omega, ?_⟩
      simp [retryFrom, retrySteps, h, hrun, Nat.add_assoc, Nat.add_comm 1]
    · exact ⟨0, by omega, by simp [retryFrom, retrySteps, h]⟩

/-- For every budget `r` (negative ones included) and every sequence of outcomes of
`fn` whose leading `k` outcomes ask for a retry and whose next one does not (or with
`k` at least `max r 0`), `retry` calls `fn` exactly `1 + min (max r 0) k` times,
sleeps once between each two consecutive calls, and returns the response and error
of the last call. -/
theorem retry_calls_fn (r : Int) (b : Duration) (fn : Nat → Attempt R E) (k : Nat)
    (hk : ∀ i < k, (fn i).retry = true) (hstop : (fn k).retry = false ∨ r.toNat ≤ k) :
    calls (retry r b fn).2 = List.range (min r.toNat k + 1) ∧
    (sleeps (retry r b fn).2).length = min r.toNat k ∧
    (retry r b fn).2 = retrySteps (min r.toNat k) b 0 ∧
    (retry r b fn).1 = ((fn (min r.toNat k)).response, (fn (min r.toNat k)).err) := by
  have h := retryFrom_eq fn r.toNat b 0 k (by simpa using hk) (by simpa using hstop)
  simp [retry, h, calls_retrySteps, sleeps_retrySteps, List.range_eq_range']

theorem retry_calls_fn_three_of_five :
    calls (retry 5 second fun i => ⟨i, decide (i < 2), ()⟩).2 = List.range (min (5 : Int).toNat 2 + 1) ∧
    (sleeps (retry 5 second fun i => ⟨i, decide (i < 2), ()⟩).2).length = min (5 : Int).toNat 2 ∧
    (retry 5 second fun i => ⟨i, decide (i < 2), ()⟩).2 = retrySteps (min (5 : Int).toNat 2) second 0 ∧
    (retry 5 second fun i => ⟨i, decide (i < 2), ()⟩).1 = (min (5 : Int).toNat 2, ()) :=
  retry_calls_fn 5 second (fun i => ⟨i, decide (i < 2), ()⟩) 2 (by decide) (by decide)

/-! ### The sleeps -/

theorem toNat_mul_pow (b : Duration) (j : Nat) :
    (b * backoffMultiplier ^ j).toNat = b.toNat * 10 ^ j % 2 ^ 64 := by
  induction j with
  | zero => simp [Nat.mod_eq_of_lt b.isLt]
  | succ j ih =>
    rw [pow_succ, ← mul_assoc, BitVec.toNat_mul, ih, Nat.mod_mul_mod]
    simp [backoffMultiplier, pow_succ, Nat.mul_assoc]

/-- From one second, the first ten backoffs are exact: `10 ^ 9 * 10 ^ j` stays
below `2 ^ 63`. -/
theorem toInt_second_mul_pow {j : Nat} (hj : j < 10) :
    (second * backoffMultiplier ^ j).toInt = second.toInt * 10 ^ j := by
  have hpow : 10 ^ j ≤ 10 ^ 9 := Nat.pow_le_pow_right (show 10 > 0 by omega) (by omega)
  have hlt : 10 ^ 9 * 10 ^ j < 2 ^ 63 := by
    calc 10 ^ 9 * 10 ^ j ≤ 10 ^ 9 * 10 ^ 9 := Nat.mul_le_mul_left _ hpow
      _ < 2 ^ 63 := by decide
  have hnat : (second * backoffMultiplier ^ j).toNat = 10 ^ 9 * 10 ^ j := by
    rw [toNat_mul_pow, show second.toNat = 10 ^ 9 from rfl, Nat.mod_eq_of_lt (by omega)]
  rw [BitVec.toInt_eq_toNat_cond, hnat, if_pos (by omega)]
  simp [second, BitVec.toInt_eq_toNat_cond]

/-- For the initial backoffs the callers pass (`time.Second` and `0`), the
`(j + 1)`-th sleep of any run lasts exactly `b * 10 ^ j` nanoseconds, as an
integer, for every `j` when `b = 0` and for the first ten sleeps when `b` is one
second: every budget up to ten retries, `postRequest`'s `0` and the default
`maxRetries` among them. -/
theorem retry_sleep_exact (r : Int) (fn : Nat → Attempt R E) (b : Duration)
    (hb : b = second ∨ b = 0) (j : Nat) (hj : j < (sleeps (retry r b fn).2).length)
    (hsmall : b = 0 ∨ j < 10) :
    (sleeps (retry r b fn).2)[j]?.map BitVec.toInt = some (b.toInt * 10 ^ j) := by
  obtain ⟨m, -, hrun⟩ := retryFrom_last fn r.toNat b 0
  simp only [retry, hrun, sleeps_retrySteps, List.length_map, List.length_range] at hj ⊢
  rw [List.getElem?_map, List.getElem?_range hj, Option.map_some', Option.map_some']
  rcases hsmall with rfl | hj10
  · simp
  · rcases hb with rfl | rfl
    · exact congrArg some (toInt_second_mul_pow hj10)
    · simp

theorem retry_sleep_exact_fifth :
    (sleeps (retry 5 second fun _ => (⟨(), true, ()⟩ : Attempt Unit Unit)).2)[4]?.map BitVec.toInt =
      some (second.toInt * 10 ^ 4) :=
  retry_sleep_exact 5 (fun _ => ⟨(), true, ()⟩) second (.inl rfl) 4 (by decide) (.inr (by decide))

end StatsigSdk
