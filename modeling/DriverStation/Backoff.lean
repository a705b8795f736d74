import DriverStation.Wire

/-!
# `ExponentialBackoff`

The send path's retry policy. A failed attempt stores the wait before the next one,
`min(20^attempt ms, max_timeout)`, and latches `use_max` once the ceiling is reached, after
which `calculate_wait` keeps the stored wait. Rust's arithmetic is checked: `20u64.pow`
and `attempt += 1` panic on overflow, as a debug build does.
-/

set_option autoImplicit false

namespace DS.Backoff
open DS.Wire

/-- A `Duration`, in nanoseconds. -/
abbrev Duration := ℕ

def Duration.fromMillis (ms : ℕ) : Duration := ms * 1000000

structure ExponentialBackoff where
  attempt : ℕ
  maxTimeout : Duration
  useMax : Bool
  timeout : Option Duration
  deriving DecidableEq, Repr

namespace ExponentialBackoff

def new (maxTimeout : Duration) : ExponentialBackoff := ⟨0, maxTimeout, false, none⟩

def reset (b : ExponentialBackoff) : ExponentialBackoff :=
  { b with useMax := false, attempt := 0, timeout := none }

def calculateWait (b : ExponentialBackoff) : Except Fault ExponentialBackoff :=
  if b.useMax then .ok b
  else if 2 ^ 64 ≤ 20 ^ b.attempt then .error (.panic "attempt to exponentiate with overflow")
  else
    let delay := min (Duration.fromMillis (20 ^ b.attempt)) b.maxTimeout
    .ok { b with useMax := delay = b.maxTimeout, timeout := some delay }

/-- `run` after its sleep of `timeout`: `ok` is the outcome of the future. A failure
reports `attempt == 0`, the first failure after a success or a reset. The result is `none`
for `Ok` and `some first` for `Err`. -/
def run (b : ExponentialBackoff) (ok : Bool) : Except Fault (Option Bool × ExponentialBackoff) :=
  if ok then .ok (none, b.reset)
  else do
    let b' ← b.calculateWait
    if 2 ^ 32 ≤ b'.attempt + 1 then .error (.panic "attempt to add with overflow")
    else .ok (some (b.attempt == 0), { b' with attempt := b'.attempt + 1 })

/-! ### Sequences of calls

The send task calls `run` on every send and `reset` on every reconnect. `runCalls` follows
one backoff through a sequence of such calls, with what each `run` shows its caller. -/

inductive Call where
  | run (ok : Bool)
  | reset
  deriving DecidableEq, Repr

structure RunEffect where
  slept : Option Duration
  result : Option Bool
  deriving DecidableEq, Repr

def runCalls : ExponentialBackoff → List Call → Except Fault (List RunEffect × ExponentialBackoff)
  | b, [] => .ok ([], b)
  | b, .reset :: cs => runCalls b.reset cs
  | b, .run ok :: cs => do
    let (r, b') ← b.run ok
    let (es, b'') ← runCalls b' cs
    return (⟨b.timeout, r⟩ :: es, b'')

/-! ### The policy the spec states

Over `k`, the failures in a row since the last success, reset or creation: a run sleeps
`min(20^(k-1) ms, max_timeout)` once `k ≥ 1`, and `use_max` says that minimum is the
ceiling. `Tracks` ties a backoff to `k`; the step lemmas show each call keeps it. -/

def Call.streak (k : ℕ) : Call → ℕ
  | .run true => 0
  | .run false => k + 1
  | .reset => 0

/-- The spec's wait after `k` failures in a row: none, then `min(20^(k-1) ms, max_timeout)`. -/
def pendingWait (maxTimeout : Duration) (k : ℕ) : Option Duration :=
  if k = 0 then none else some (min (Duration.fromMillis (20 ^ (k - 1))) maxTimeout)

/-- The effects the spec's policy gives a sequence of calls, from `k` failures in a row: each
run sleeps the pending wait, and a failure reports whether it is the first. -/
def specEffects (maxTimeout : Duration) : ℕ → List Call → List RunEffect
  | _, [] => []
  | _, .reset :: cs => specEffects maxTimeout 0 cs
  | k, .run ok :: cs =>
    ⟨pendingWait maxTimeout k, if ok then none else some (k == 0)⟩ ::
      specEffects maxTimeout (Call.streak k (.run ok)) cs

structure Tracks (maxTimeout : Duration) (k : ℕ) (b : ExponentialBackoff) : Prop where
  ceiling : b.maxTimeout = maxTimeout
  attempt : b.attempt = k
  timeout : b.timeout = pendingWait maxTimeout k
  saturated : b.useMax = true ↔ k ≠ 0 ∧ maxTimeout ≤ Duration.fromMillis (20 ^ (k - 1))

variable {m : Duration} {k : ℕ} {b : ExponentialBackoff}

theorem tracks_new (m : Duration) : Tracks m 0 (new m) := ⟨rfl, rfl, rfl, by simp [new]⟩

theorem tracks_reset (ht : Tracks m k b) : Tracks m 0 b.reset :=
  ⟨ht.ceiling, rfl, rfl, by simp [reset]⟩

theorem run_ok : b.run true = .ok (none, b.reset) := rfl

theorem fromMillis_pow_mono {i j : ℕ} (h : i ≤ j) :
    Duration.fromMillis (20 ^ i) ≤ Duration.fromMillis (20 ^ j) :=
  Nat.mul_le_mul_right _ (Nat.pow_le_pow_right (by norm_num) h)

theorem run_fail (ht : Tracks m k b) (hpow : b.useMax = true ∨ 20 ^ k < 2 ^ 64)
    (hk : k + 1 < 2 ^ 32) :
    ∃ b', b.run false = .ok (some (k == 0), b') ∧ Tracks m (k + 1) b' := by
  obtain ⟨attempt, maxTimeout, useMax, timeout⟩ := b
  obtain ⟨hc, ha, ht, hsat⟩ := ht
  simp only at hc ha ht hsat hpow
  subst hc ha ht
  have hk : attempt < 4294967295 := by omega
  cases useMax
  · have hpow : ¬18446744073709551616 ≤ 20 ^ attempt := by simpa using hpow
    refine ⟨⟨attempt + 1, maxTimeout, decide (maxTimeout ≤ Duration.fromMillis (20 ^ attempt)),
      some (min (Duration.fromMillis (20 ^ attempt)) maxTimeout)⟩, ?_, rfl, rfl,
      by simp [pendingWait], by simp⟩
    simp [run, calculateWait, hpow, hk, min_eq_right_iff, bind, Except.bind]
  · obtain ⟨hk0, hle⟩ := hsat.mp rfl
    have hle' : maxTimeout ≤ Duration.fromMillis (20 ^ attempt) :=
      le_trans hle (fromMillis_pow_mono (Nat.sub_le _ _))
    refine ⟨⟨attempt + 1, maxTimeout, true, pendingWait maxTimeout attempt⟩, ?_, rfl, rfl, ?_,
      by simp [hle']⟩
    · simp [run, calculateWait, hk, bind, Except.bind]
    · simp [pendingWait, hk0, min_eq_right hle, min_eq_right hle']

theorem run_fail_pow_overflow (ht : Tracks m k b) (hu : b.useMax = false)
    (hpow : 2 ^ 64 ≤ 20 ^ k) :
    b.run false = .error (.panic "attempt to exponentiate with overflow") := by
  have hpow : 18446744073709551616 ≤ 20 ^ k := hpow
  simp [run, calculateWait, hu, ht.attempt, hpow, bind, Except.bind]

theorem run_fail_attempt_overflow (ht : Tracks m k b) (hu : b.useMax = true)
    (hk : 2 ^ 32 ≤ k + 1) : b.run false = .error (.panic "attempt to add with overflow") := by
  have hk : 4294967295 ≤ k := by omega
  simp [run, calculateWait, hu, ht.attempt, hk, bind, Except.bind]

theorem pow_lt_of_le {k : ℕ} (hk : k ≤ 14) : 20 ^ k < 2 ^ 64 :=
  lt_of_le_of_lt (Nat.pow_le_pow_right (by norm_num) hk) (by decide)

theorem pow_fits (ht : Tracks m k b) (hm : m ≤ Duration.fromMillis (20 ^ 14)) :
    b.useMax = true ∨ 20 ^ k < 2 ^ 64 := by
  cases hu : b.useMax
  · have hk : k ≤ 14 := by
      by_contra hk
      exact absurd (ht.saturated.mpr ⟨by omega, le_trans hm (fromMillis_pow_mono (by omega))⟩)
        (by simp [hu])
    exact .inr (pow_lt_of_le hk)
  · exact .inl rfl

theorem mem_scanl_self (cs : List Call) (k : ℕ) : k ∈ cs.scanl Call.streak k := by
  cases cs <;> simp [List.scanl]

theorem runCalls_tracks (hm : m ≤ Duration.fromMillis (20 ^ 14)) :
    ∀ (cs : List Call) (k : ℕ) (b : ExponentialBackoff), Tracks m k b →
      (∀ n ∈ cs.scanl Call.streak k, n < 2 ^ 32) →
      ∃ b', b.runCalls cs = .ok (specEffects m k cs, b') ∧ Tracks m (cs.foldl Call.streak k) b'
  | [], _, b, ht, _ => ⟨b, rfl, ht⟩
  | .reset :: cs, _, b, ht, hs =>
    runCalls_tracks hm cs 0 b.reset (tracks_reset ht) fun n hn => hs n (by simp [Call.streak, hn])
  | .run true :: cs, _, b, ht, hs => by
    obtain ⟨b', h, ht'⟩ :=
      runCalls_tracks hm cs 0 b.reset (tracks_reset ht) fun n hn => hs n (by simp [Call.streak, hn])
    exact ⟨b', by simp [runCalls, run_ok, h, ht.timeout, specEffects, Call.streak, bind,
      Except.bind, pure, Except.pure], ht'⟩
  | .run false :: cs, k, b, ht, hs => by
    have hs' : ∀ n ∈ cs.scanl Call.streak (k + 1), n < 2 ^ 32 := fun n hn =>
      hs n (by simp [Call.streak, hn])
    obtain ⟨b1, h1, ht1⟩ := run_fail ht (pow_fits ht hm) (hs' _ (mem_scanl_self cs _))
    obtain ⟨b2, h2, ht2⟩ := runCalls_tracks hm cs (k + 1) b1 ht1 hs'
    exact ⟨b2, by simp [runCalls, h1, h2, ht.timeout, specEffects, Call.streak, bind, Except.bind,
      pure, Except.pure], ht2⟩

theorem runCalls_append_of_ok {b b' : ExponentialBackoff} {cs : List Call} {es : List RunEffect}
    (h : b.runCalls cs = .ok (es, b')) (cs' : List Call) :
    b.runCalls (cs ++ cs') = (b'.runCalls cs').map fun r => (es ++ r.1, r.2) := by
  induction cs generalizing b es with
  | nil =>
    cases h
    rw [List.nil_append]
    cases b'.runCalls cs' <;> rfl
  | cons c cs ih =>
    cases c with
    | reset => exact ih h
    | run ok =>
      rw [List.cons_append]
      simp only [runCalls, bind, Except.bind] at h ⊢
      split at h
      next => cases h
      next rb hr =>
        split at h
        next => cases h
        next eb hc =>
          cases h
          simp only [hr, ih hc]
          cases eb.2.runCalls cs' <;> rfl

/-- Under a ceiling of at most `20^14 ms` (the caller passes 5 s), every sequence of calls
in which fewer than `2^32` runs fail in a row goes as the policy says: each run sleeps
`min(20^(k-1) ms, max_timeout)` after `k ≥ 1` failures, `use_max` holds exactly when that
minimum is the ceiling, and the backoff ends in the state the policy describes. -/
theorem backoff_follows_formula (m : Duration) (hm : m ≤ Duration.fromMillis (20 ^ 14))
    (cs : List Call) (hs : ∀ n ∈ cs.scanl Call.streak 0, n < 2 ^ 32) :
    ∃ b, (new m).runCalls cs = .ok (specEffects m 0 cs, b) ∧
      Tracks m (cs.foldl Call.streak 0) b :=
  runCalls_tracks hm cs 0 _ (tracks_new m) hs

/-! ### Long failure streaks and high ceilings -/

theorem scanl_failures (n k : ℕ) :
    ∀ x ∈ (List.replicate n (Call.run false)).scanl Call.streak k, x ≤ k + n := by
  induction n generalizing k with
  | zero => simp
  | succ n ih =>
    intro x hx
    simp only [List.replicate_succ, List.scanl, List.mem_cons] at hx
    rcases hx with rfl | hx
    · omega
    · have := ih (k + 1) x hx
      omega

theorem foldl_failures (n k : ℕ) :
    (List.replicate n (Call.run false)).foldl Call.streak k = k + n := by
  induction n generalizing k with
  | zero => rfl
  | succ n ih => rw [List.replicate_succ, List.foldl_cons, ih]; simp [Call.streak]; omega

/-- `2^32` failed sends in a row under the caller's 5 s ceiling: the last one overflows
`attempt`. -/
theorem backoff_streak_overflow :
    (new (Duration.fromMillis 5000)).runCalls (List.replicate (2 ^ 32) (.run false)) =
      .error (.panic "attempt to add with overflow") := by
  obtain ⟨b, h, ht⟩ :=
    runCalls_tracks (by decide : Duration.fromMillis 5000 ≤ Duration.fromMillis (20 ^ 14))
      (List.replicate (2 ^ 32 - 1) (.run false)) 0 _ (tracks_new _)
      fun x hx => by have := scanl_failures _ 0 x hx; omega
  rw [foldl_failures] at ht
  have hsat : b.useMax = true := ht.saturated.mpr ⟨by omega,
    le_trans (by decide : Duration.fromMillis 5000 ≤ Duration.fromMillis (20 ^ 3))
      (fromMillis_pow_mono (by omega))⟩
  rw [show 2 ^ 32 = 2 ^ 32 - 1 + 1 from rfl, ← List.append_replicate_replicate,
    runCalls_append_of_ok h]
  simp [runCalls, run_fail_attempt_overflow ht hsat (by omega), bind, Except.bind,
    Functor.map, Except.map]

theorem runCalls_failures_unsaturated (hm : Duration.fromMillis (20 ^ 14) < m) :
    ∀ n k b, Tracks m k b → k + n ≤ 15 →
      ∃ es b', b.runCalls (List.replicate n (.run false)) = .ok (es, b') ∧ Tracks m (k + n) b'
  | 0, k, b, ht, _ => ⟨[], b, rfl, ht⟩
  | n + 1, k, b, ht, hkn => by
    obtain ⟨b1, h1, ht1⟩ := run_fail ht (.inr (pow_lt_of_le (by omega))) (by omega)
    obtain ⟨es, b2, h2, ht2⟩ := runCalls_failures_unsaturated hm n (k + 1) b1 ht1 (by omega)
    refine ⟨⟨b.timeout, some (k == 0)⟩ :: es, b2, by simp [List.replicate_succ, runCalls, h1, h2,
      bind, Except.bind, pure, Except.pure], by rwa [Nat.add_right_comm, Nat.add_assoc] at ht2⟩

/-- Above a ceiling of `20^14 ms` the sixteenth failure in a row computes `20u64.pow(15)`,
which overflows. -/
theorem backoff_pow_overflow (m : Duration) (hm : Duration.fromMillis (20 ^ 14) < m) :
    (new m).runCalls (List.replicate 16 (.run false)) =
      .error (.panic "attempt to exponentiate with overflow") := by
  obtain ⟨es, b, h, ht⟩ := runCalls_failures_unsaturated hm 15 0 _ (tracks_new m) le_rfl
  have hu : b.useMax = false := by
    cases hb : b.useMax
    · rfl
    · exact absurd (ht.saturated.mp hb).2 (not_le.mpr hm)
  rw [show 16 = 15 + 1 from rfl, ← List.append_replicate_replicate, runCalls_append_of_ok h]
  simp [runCalls, run_fail_pow_overflow ht hu (by decide), bind, Except.bind, Functor.map,
    Except.map]

theorem backoff_pow_overflow_at_20_pow_15 :
    Duration.fromMillis (20 ^ 14) < Duration.fromMillis (20 ^ 15) ∧
      (new (Duration.fromMillis (20 ^ 15))).runCalls (List.replicate 16 (.run false)) =
        .error (.panic "attempt to exponentiate with overflow") :=
  have hm : Duration.fromMillis (20 ^ 14) < Duration.fromMillis (20 ^ 15) := by decide
  ⟨hm, backoff_pow_overflow _ hm⟩

end ExponentialBackoff

end DS.Backoff
