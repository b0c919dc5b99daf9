import Mathlib.Data.List.Forall2
import SsbSpoofer.Phy

/-!
# The continuous-mode transmission loop

The `while` loop of `transmit_spoofed_ssb` in continuous mode:

```
while (running && (max_bursts == 0 || tx_count < (int)max_bursts)) { ... }
```

One pass reads three answers of the world (`TxTick`): the cancellation flag at the loop head,
the return value of `rf.transmit`, and the steady clock, which the pass reads only when it
prints a progress line. The loop's variables are the two `int` counters, the animation frame,
and what it has done so far: the calls it made on the transport and the scheduler
(`TxAction`) and the progress lines it printed (`TxProgress`).

## What the loop does, for every burst limit

`txPass_inl` and `txPass_inr` say everything one pass can do. From them, by the run lemmas of
`SsbSpoofer.Basic`:

* `txLoop_inv`: at every loop head `tx_count` holds `int32Of` of the number of transmit calls
  that returned a non-negative count, and `consecutive_errors` the number of failures since
  the last success, below ten;
* `txLoop_exit`: the loop leaves, from the state the invariant describes after the passes
  before it, at a loop head whose flag is clear, at a loop head where the
  count test `tx_count < (int)max_bursts` fails for a non-zero limit, or right after a tenth
  consecutive failure. The count test compares with the **32-bit truncation** of the
  `uint64_t` limit, so a limit of `2 ^ 32` sends nothing (`txLoop_limit_two_pow_32`) and the
  count `tx_count` of an unlimited campaign wraps after `2 ^ 31` bursts
  (`txLoop_count_wraps`); below `2 ^ 31` the limit is honoured exactly
  (`txLoop_limit_exact`);
* `txLoop_transmit_calls_le`: a non-zero limit bounds the whole campaign, whatever the
  transport answers and whether or not it is cancelled: at most ten transmit calls per burst
  of `max_bursts`. Its invariant `TxBudget` is a potential, ten per success plus the failures
  since the last one, that every pass raises and the limit caps.

## The progress bar

`txLoop_progress`: in a campaign limited to `0 < N < 2 ^ 31` bursts, every progress line shows
a positive multiple of `50` bursts up to `N`, and the percentage `⌊100 · bursts / N⌋` as long
as the `int` product `tx_count * 100` does not wrap, that is up to `21474836` bursts: at
`21474850` bursts of a limit of `2 ^ 31 - 1` the line shows `3` % where the quotient is `1`
(`txLoop_progress_wraps`).

## Timing is observational

`txLoop_control_eq` is a two-run statement: two runs whose answers agree on the flag and the
transmit results, with any clock readings and from any two `start_time` values, make the same
calls, leave for the same reason and end with the same counters. The clock reaches only the
progress lines.
-/

namespace SsbSpoofer

/-- What the world answers during one pass of the continuous-mode loop. -/
structure TxTick where
  /-- The cancellation flag `running`, polled at the loop head. -/
  running : Bool
  /-- The return value of `rf.transmit`. -/
  nsent : Int
  /-- `steady_clock::now()` in nanoseconds, read only by a pass that prints progress. -/
  now : Int
deriving DecidableEq, Repr

/-- The answers that the loop's control flow reads. -/
def TxTick.control (t : TxTick) : Bool × Int := (t.running, t.nsent)

/-- A call the loop makes on the transport or on the scheduler. -/
inductive TxAction
  | transmit (buf : List Cf32) (nsamples : Nat) (startOfBurst endOfBurst : Bool)
  | sleepMs (ms : Nat)
  | sleepUs (us : Nat)
deriving DecidableEq, Repr

/-- One line of the live dashboard. -/
structure TxProgress where
  frame : Nat
  bursts : Int
  rate : ℚ
  elapsedSec : ℚ
  /-- The progress-bar percentage, shown for a bounded campaign. -/
  percent : Option Int
deriving DecidableEq, Repr

/-- Why the loop stopped. -/
inductive TxStop
  | cancelled | limitReached | tooManyErrors
deriving DecidableEq, Repr

/-- What the loop reads and never changes: the burst control settings, the burst buffer and
its sample count, and the steady clock at the loop's start. -/
structure TxParams where
  maxBursts : UInt64
  burstIntervalUs : UInt32
  buf : List Cf32
  nsamples : Nat
  startTime : Int
deriving DecidableEq, Repr

/-- The loop's variables. -/
structure TxLoop where
  txCount : Int
  consecutiveErrors : Nat
  frame : Nat
  actions : List TxAction
  progress : List TxProgress
deriving DecidableEq, Repr

/-- The variables before the first pass. -/
def TxLoop.init : TxLoop := ⟨0, 0, 0, [], []⟩

/-- The variables that decide what the loop does next, and what it has done. -/
def TxLoop.control (s : TxLoop) : Int × Nat × List TxAction :=
  (s.txCount, s.consecutiveErrors, s.actions)

/-- `max_consecutive_errors`. -/
def maxConsecutiveErrors : Nat := 10

namespace TxParams

variable (p : TxParams)

/-- The count half of the loop condition. -/
def belowLimit (txCount : Int) : Bool :=
  p.maxBursts == 0 || decide (txCount < int32Of p.maxBursts.toNat)

/-- `end_of_burst` of every transmit call: a non-zero inter-burst gap. -/
def isEnd : Bool := decide (0 < p.burstIntervalUs)

/-- The values of one progress line, for the clock read after the pass's burst. -/
def progressLine (s : TxLoop) (now : Int) : TxProgress :=
  let totalElapsed := (now - p.startTime).tdiv 1000000
  { frame := s.frame, bursts := s.txCount,
    rate := if 0 < totalElapsed then (s.txCount * 1000 : ℚ) / totalElapsed else 0,
    elapsedSec := (totalElapsed : ℚ) / 1000,
    percent := if 0 < p.maxBursts then
        some (int32Of (int32Of (s.txCount * 100) % 2 ^ 64 / p.maxBursts.toNat)) else none }

/-- The pass's work after a successful transmit: reset the error count, count the burst,
sleep the inter-burst gap, and print progress every fiftieth burst. -/
def afterSuccess (s : TxLoop) (now : Int) : TxLoop :=
  let s := { s with consecutiveErrors := 0, txCount := int32Of (s.txCount + 1) }
  let s := if p.isEnd then { s with actions := s.actions ++ [.sleepUs p.burstIntervalUs.toNat] }
    else s
  if s.txCount.tmod 50 = 0 then
    { s with progress := s.progress ++ [p.progressLine s now], frame := s.frame + 1 }
  else s

end TxParams

/-- One pass of the continuous-mode loop. -/
def txPass (p : TxParams) (s : TxLoop) (t : TxTick) : TxLoop ⊕ (TxStop × TxLoop) :=
  if !t.running then .inr (.cancelled, s)
  else if !p.belowLimit s.txCount then .inr (.limitReached, s)
  else
    let s := { s with
      actions := s.actions ++ [.transmit p.buf p.nsamples (s.txCount == 0) p.isEnd] }
    if t.nsent < 0 then
      let s := { s with consecutiveErrors := s.consecutiveErrors + 1 }
      if maxConsecutiveErrors ≤ s.consecutiveErrors then .inr (.tooManyErrors, s)
      else .inl { s with actions := s.actions ++ [.sleepMs 10] }
    else .inl (p.afterSuccess s t.now)

/-- The continuous-mode loop over the answers of successive passes. -/
def txLoop (p : TxParams) (ts : List TxTick) : TxLoop ⊕ (TxStop × TxLoop) :=
  Loop.run (txPass p) TxLoop.init ts

/-- The continuous loop's parameters for a configuration and a burst. -/
def txParams (cfg : Config) (buf : List Cf32) (nsamples : Nat) (startTime : Int) : TxParams :=
  ⟨cfg.attack.maxBursts, cfg.attack.burstIntervalUs, buf, nsamples, startTime⟩

/-! ### One pass -/

namespace TxParams

variable (p : TxParams) (s : TxLoop) (now : Int)

@[simp]
theorem afterSuccess_txCount : (p.afterSuccess s now).txCount = int32Of (s.txCount + 1) := by
  unfold afterSuccess
  dsimp only
  split_ifs <;> rfl

@[simp]
theorem afterSuccess_consecutiveErrors : (p.afterSuccess s now).consecutiveErrors = 0 := by
  unfold afterSuccess
  dsimp only
  split_ifs <;> rfl

theorem afterSuccess_actions :
    (p.afterSuccess s now).actions =
      s.actions ++ if p.isEnd then [.sleepUs p.burstIntervalUs.toNat] else [] := by
  unfold afterSuccess
  dsimp only
  split_ifs <;> simp

/-- The clock reaches nothing but the progress lines of a pass. -/
@[simp]
theorem afterSuccess_control :
    (p.afterSuccess s now).control =
      (int32Of (s.txCount + 1), 0,
        s.actions ++ if p.isEnd then [.sleepUs p.burstIntervalUs.toNat] else []) := by
  simp only [TxLoop.control, afterSuccess_txCount, afterSuccess_consecutiveErrors,
    afterSuccess_actions]

end TxParams

section Pass

variable {p : TxParams} {s s' : TxLoop} {t : TxTick}

/-- The transmit call a pass makes from a loop head. -/
def TxParams.transmitFrom (p : TxParams) (s : TxLoop) : TxAction :=
  .transmit p.buf p.nsamples (s.txCount == 0) p.isEnd

/-- **Everything a pass that stays in the loop can do.** -/
theorem txPass_inl (h : txPass p s t = .inl s') :
    t.running = true ∧ p.belowLimit s.txCount = true ∧
      ((t.nsent < 0 ∧ s.consecutiveErrors + 1 < maxConsecutiveErrors ∧
          s' = { s with consecutiveErrors := s.consecutiveErrors + 1,
                        actions := s.actions ++ [p.transmitFrom s, .sleepMs 10] }) ∨
        (0 ≤ t.nsent ∧
          s' = p.afterSuccess { s with actions := s.actions ++ [p.transmitFrom s] } t.now)) := by
  unfold txPass at h
  dsimp only at h
  split_ifs at h with hr hl hn he
  · have hr : t.running = true := by simpa using hr
    have hl : p.belowLimit s.txCount = true := by simpa using hl
    exact ⟨hr, hl, .inl ⟨hn, by omega, by cases h; simp [TxParams.transmitFrom]⟩⟩
  · have hr : t.running = true := by simpa using hr
    have hl : p.belowLimit s.txCount = true := by simpa using hl
    exact ⟨hr, hl, .inr ⟨by omega, by cases h; rfl⟩⟩

/-- **Everything a pass that leaves the loop can do.** -/
theorem txPass_inr {r : TxStop} (h : txPass p s t = .inr (r, s')) :
    (r = .cancelled ∧ t.running = false ∧ s' = s) ∨
    (r = .limitReached ∧ t.running = true ∧ p.belowLimit s.txCount = false ∧ s' = s) ∨
    (r = .tooManyErrors ∧ t.running = true ∧ p.belowLimit s.txCount = true ∧ t.nsent < 0 ∧
      maxConsecutiveErrors ≤ s.consecutiveErrors + 1 ∧
      s' = { s with consecutiveErrors := s.consecutiveErrors + 1,
                    actions := s.actions ++ [p.transmitFrom s] }) := by
  unfold txPass at h
  dsimp only at h
  split_ifs at h with hr hl hn he
  · cases h; exact .inl ⟨rfl, by simpa using hr, rfl⟩
  · cases h; exact .inr (.inl ⟨rfl, by simpa using hr, by simpa using hl, rfl⟩)
  · cases h
    exact .inr (.inr ⟨rfl, by simpa using hr, by simpa using hl, hn, he, rfl⟩)

end Pass

/-! ### The transmit calls -/

/-- A transmit call, as opposed to a sleep. -/
def TxAction.isTransmit : TxAction → Bool
  | .transmit .. => true
  | _ => false

/-- The transmit calls among a record of calls. -/
def transmitCalls (as : List TxAction) : Nat := as.countP TxAction.isTransmit

@[simp]
theorem transmitCalls_nil : transmitCalls [] = 0 := rfl

@[simp]
theorem transmitCalls_append (as bs : List TxAction) :
    transmitCalls (as ++ bs) = transmitCalls as + transmitCalls bs :=
  List.countP_append _ _ _

@[simp]
theorem transmitCalls_cons (a : TxAction) (as : List TxAction) :
    transmitCalls (a :: as) = transmitCalls as + if a.isTransmit then 1 else 0 :=
  List.countP_cons _ _ _

@[simp]
theorem TxParams.isTransmit_transmitFrom (p : TxParams) (s : TxLoop) :
    (p.transmitFrom s).isTransmit = true := rfl

@[simp]
theorem TxAction.isTransmit_sleepMs (ms : Nat) : (TxAction.sleepMs ms).isTransmit = false := rfl

@[simp]
theorem TxAction.isTransmit_sleepUs (us : Nat) : (TxAction.sleepUs us).isTransmit = false := rfl

/-! ### Whole runs -/

/-- The transmit calls among the answers consumed that returned a non-negative count. -/
def successes (h : List TxTick) : Nat := h.countP fun t ↦ 0 ≤ t.nsent

/-- The failed transmit calls since the last successful one. -/
def trailingErrors (h : List TxTick) : Nat := (h.reverse.takeWhile fun t ↦ t.nsent < 0).length

@[simp]
theorem successes_nil : successes [] = 0 := rfl

@[simp]
theorem trailingErrors_nil : trailingErrors [] = 0 := rfl

theorem successes_concat (h : List TxTick) (t : TxTick) :
    successes (h ++ [t]) = successes h + if 0 ≤ t.nsent then 1 else 0 := by
  by_cases hn : 0 ≤ t.nsent <;> simp [successes, List.countP_append, hn]

theorem trailingErrors_concat (h : List TxTick) (t : TxTick) :
    trailingErrors (h ++ [t]) = if t.nsent < 0 then trailingErrors h + 1 else 0 := by
  by_cases hn : t.nsent < 0 <;> simp [trailingErrors, List.takeWhile_cons, hn]

/-- The loop-head invariant, for the answers `h` consumed so far. -/
structure TxInv (p : TxParams) (h : List TxTick) (s : TxLoop) : Prop where
  /-- Every loop head so far saw the flag set. -/
  running : ∀ t ∈ h, t.running = true
  /-- `tx_count` is the wrapped number of successful transmit calls. -/
  txCount_eq : s.txCount = int32Of (successes h)
  /-- `consecutive_errors` counts the failures since the last success. -/
  errors_eq : s.consecutiveErrors = trailingErrors h
  errors_lt : s.consecutiveErrors < maxConsecutiveErrors
  /-- Every pass made one transmit call. -/
  calls_eq : transmitCalls s.actions = h.length
  /-- Below `2 ^ 31`, a non-zero limit is never overrun. -/
  within_limit : 0 < p.maxBursts.toNat → p.maxBursts.toNat < 2 ^ 31 →
    successes h ≤ p.maxBursts.toNat

theorem TxInv.init (p : TxParams) : TxInv p [] TxLoop.init :=
  ⟨by simp, rfl, rfl, by decide, rfl, fun _ _ ↦ Nat.zero_le _⟩

/-- The count test passes below a limit under `2 ^ 31` only while the count is below it. -/
theorem belowLimit_small {p : TxParams} {n : Nat} (hpos : 0 < p.maxBursts.toNat)
    (hsmall : p.maxBursts.toNat < 2 ^ 31) (hn : n ≤ p.maxBursts.toNat) :
    p.belowLimit (int32Of n) = true ↔ n < p.maxBursts.toNat := by
  have hne : (p.maxBursts == 0) = false :=
    beq_eq_false_iff_ne.mpr fun h ↦ by simp [h] at hpos
  simp only [TxParams.belowLimit, hne, decide_eq_true_eq, Bool.false_or,
    int32Of_of_mem (x := n) (by omega) (by omega),
    int32Of_of_mem (x := p.maxBursts.toNat) (by omega) (by omega)]
  exact Int.ofNat_lt

/-- **Step lemma.** One pass that stays in the loop keeps the invariant. -/
theorem txInv_step {p : TxParams} {h : List TxTick} {s s' : TxLoop} {t : TxTick}
    (hi : TxInv p h s) (hp : txPass p s t = .inl s') : TxInv p (h ++ [t]) s' := by
  obtain ⟨hr, hl, ⟨hn, hlt, rfl⟩ | ⟨hn, rfl⟩⟩ := txPass_inl hp
  · have hn' : ¬ 0 ≤ t.nsent := by omega
    refine ⟨?_, ?_, ?_, hlt, by simp [hi.calls_eq], fun h1 h2 ↦ ?_⟩
    · simpa [or_imp, forall_and] using And.intro hi.running hr
    · simpa [successes_concat, hn'] using hi.txCount_eq
    · simp [trailingErrors_concat, hn, hi.errors_eq]
    · simpa [successes_concat, hn'] using hi.within_limit h1 h2
  · have hn' : ¬ t.nsent < 0 := by omega
    refine ⟨?_, ?_, ?_, by simp [maxConsecutiveErrors], ?_, fun h1 h2 ↦ ?_⟩
    · simpa [or_imp, forall_and] using And.intro hi.running hr
    · simp [successes_concat, hn, hi.txCount_eq, int32Of_int32Of_add]
    · simp [trailingErrors_concat, hn']
    · rw [TxParams.afterSuccess_actions]
      split_ifs <;> simp [hi.calls_eq]
    · have hle := hi.within_limit h1 h2
      rw [hi.txCount_eq, belowLimit_small h1 h2 hle] at hl
      simp only [successes_concat, hn, if_true]
      omega

/-- **Run lemma.** The invariant holds at every loop head a run reaches. -/
theorem txLoop_inv {p : TxParams} {ts : List TxTick} {s : TxLoop} (h : txLoop p ts = .inl s) :
    TxInv p ts s := by
  simpa using Loop.run_inv (fun _ ↦ True) (TxInv p)
    (fun _ _ _ _ hi _ hp ↦ txInv_step hi hp) (TxInv.init p) (fun _ _ ↦ trivial) h

/-- The three ways out of the loop, for the answers `pre` of the passes that stayed in it, the
loop head `s` they reached, and the answer `t` of the pass that left. -/
def TxExit (p : TxParams) (pre : List TxTick) (s : TxLoop) (t : TxTick) : TxStop × TxLoop → Prop
  | (r, s') =>
    (r = .cancelled ∧ t.running = false ∧ s' = s) ∨
    (r = .limitReached ∧ t.running = true ∧ p.maxBursts ≠ 0 ∧
        int32Of p.maxBursts.toNat ≤ int32Of (successes pre) ∧ s' = s) ∨
    (r = .tooManyErrors ∧ t.running = true ∧ t.nsent < 0 ∧
        trailingErrors (pre ++ [t]) = maxConsecutiveErrors ∧
        s' = { s with consecutiveErrors := s.consecutiveErrors + 1,
                      actions := s.actions ++ [p.transmitFrom s] })

/-- **Why the loop stops**, for every limit: a loop head saw the flag clear; or, for a non-zero
limit, the wrapped count reached the 32-bit truncation of the limit at a loop head; or a
tenth consecutive transmit call failed. `pre` are the answers of the passes that stayed in
the loop and `t` the answer of the pass that left. -/
theorem txLoop_exit {p : TxParams} {ts : List TxTick} {r : TxStop × TxLoop}
    (h : txLoop p ts = .inr r) :
    ∃ pre t rest s, ts = pre ++ t :: rest ∧ TxInv p pre s ∧ TxExit p pre s t r := by
  obtain ⟨pre, ⟨rest, hrest⟩, hpost⟩ := Loop.run_exit (fun _ ↦ True) (TxInv p)
    (fun hist r ↦ ∃ pre t s, hist = pre ++ [t] ∧ TxInv p pre s ∧ TxExit p pre s t r)
    (fun _ _ _ _ hi _ hp ↦ txInv_step hi hp)
    (fun hist s t ⟨r, s'⟩ hi _ hp ↦ by
      refine ⟨hist, t, s, rfl, hi, ?_⟩
      obtain ⟨rfl, hr, rfl⟩ | ⟨rfl, hr, hl, rfl⟩ | ⟨rfl, hr, hl, hn, he, rfl⟩ :=
        txPass_inr hp
      · exact .inl ⟨rfl, hr, rfl⟩
      · have hl' : p.maxBursts ≠ 0 ∧ int32Of p.maxBursts.toNat ≤ int32Of (successes hist) := by
          simpa only [TxParams.belowLimit, Bool.or_eq_false_iff, beq_eq_false_iff_ne,
            decide_eq_false_iff_not, not_lt, hi.txCount_eq] using hl
        exact .inr (.inl ⟨rfl, hr, hl'.1, hl'.2, rfl⟩)
      · refine .inr (.inr ⟨rfl, hr, hn, ?_, rfl⟩)
        have := hi.errors_lt
        simp only [trailingErrors_concat, hn, if_true, ← hi.errors_eq]
        simp only [maxConsecutiveErrors] at he this ⊢
        omega)
    (TxInv.init p) (fun _ _ ↦ trivial) h
  obtain ⟨pre', t, s, rfl, hi, hexit⟩ := hpost
  exact ⟨pre', t, rest, s, by simpa using hrest.symm, hi, hexit⟩

/-- **Below `2 ^ 31` the limit is honoured exactly**: a run that stops on the count has made
one transmit call per pass before the one that stopped, exactly `max_bursts` of them
successful, and `tx_count` says so. -/
theorem txLoop_limit_exact {p : TxParams} {ts : List TxTick} {s : TxLoop}
    (hpos : 0 < p.maxBursts.toNat) (hsmall : p.maxBursts.toNat < 2 ^ 31)
    (h : txLoop p ts = .inr (.limitReached, s)) :
    ∃ pre t rest, ts = pre ++ t :: rest ∧ transmitCalls s.actions = pre.length ∧
      successes pre = p.maxBursts.toNat ∧ s.txCount = p.maxBursts.toNat := by
  obtain ⟨pre, t, rest, s₀, hts, hi, hexit⟩ := txLoop_exit h
  have hle := hi.within_limit hpos hsmall
  obtain ⟨h1, -⟩ | ⟨-, -, -, hge, rfl⟩ | ⟨h1, -⟩ := hexit
  · cases h1
  · rw [int32Of_of_mem (x := p.maxBursts.toNat) (by omega) (by omega),
      int32Of_of_mem (x := successes pre) (by omega) (by omega)] at hge
    have heq : successes pre = p.maxBursts.toNat := by omega
    refine ⟨pre, t, rest, hts, hi.calls_eq, heq, ?_⟩
    rw [hi.txCount_eq, heq, int32Of_of_mem (by omega) (by omega)]
  · cases h1

/-- A two-burst campaign: a success, a failure, a success, and the count test stops the loop
at the next loop head. -/
theorem txLoop_limit_exact_two :
    let p : TxParams := ⟨2, 500, [], 0, 0⟩
    let ts : List TxTick := [⟨true, 0, 0⟩, ⟨true, -1, 0⟩, ⟨true, 0, 0⟩, ⟨true, 0, 0⟩]
    0 < p.maxBursts.toNat ∧ p.maxBursts.toNat < 2 ^ 31 ∧
      ∃ s, txLoop p ts = .inr (.limitReached, s) ∧
        ∃ pre t rest, ts = pre ++ t :: rest ∧ transmitCalls s.actions = pre.length ∧
          successes pre = p.maxBursts.toNat ∧ s.txCount = p.maxBursts.toNat :=
  have h : txLoop ⟨2, 500, [], 0, 0⟩ [⟨true, 0, 0⟩, ⟨true, -1, 0⟩, ⟨true, 0, 0⟩, ⟨true, 0, 0⟩] =
      .inr (.limitReached, _) := by rfl
  ⟨by decide, by decide, _, h, txLoop_limit_exact (by decide) (by decide) h⟩

/-- A limit whose count test already fails at `0` stops every run at its first loop head:
no transmit call, no sleep, no progress line. -/
theorem txLoop_of_belowLimit_zero {p : TxParams} (h : p.belowLimit 0 = false)
    (ts : List TxTick) : (txLoop p ts).elim id Prod.snd = TxLoop.init := by
  cases ts with
  | nil => rfl
  | cons t ts =>
    obtain ⟨r, hp⟩ : ∃ r, txPass p TxLoop.init t = .inr (r, TxLoop.init) := by
      unfold txPass
      cases t.running
      · exact ⟨_, rfl⟩
      · exact ⟨.limitReached, by simp [TxLoop.init, h]⟩
    rw [txLoop, Loop.run_cons_of_inr _ hp]
    rfl

/-- The limit `2 ^ 32` truncates to `(int)0`: with the flag set, the loop stops at its first
loop head without a single transmit call. -/
theorem txLoop_limit_two_pow_32 :
    let p : TxParams := ⟨4294967296, 500, [], 0, 0⟩
    0 < p.maxBursts.toNat ∧ txLoop p [⟨true, 0, 0⟩] = .inr (.limitReached, TxLoop.init) := by
  decide

/-- With no limit, a set flag and a successful transmit call, a pass stays in the loop. -/
theorem txPass_of_unlimited {p : TxParams} (hp : p.maxBursts = 0) (s : TxLoop) {t : TxTick}
    (hr : t.running = true) (hn : 0 ≤ t.nsent) :
    txPass p s t =
      .inl (p.afterSuccess { s with actions := s.actions ++ [p.transmitFrom s] } t.now) := by
  have hn' : ¬ t.nsent < 0 := by omega
  simp only [txPass, hr, TxParams.belowLimit, hp, hn', Bool.not_true, beq_self_eq_true,
    Bool.true_or, if_false]
  rfl

/-- An unlimited campaign whose every transmit call succeeds never leaves the loop. -/
theorem run_txPass_replicate {p : TxParams} (hp : p.maxBursts = 0) {t : TxTick}
    (hr : t.running = true) (hn : 0 ≤ t.nsent) (n : Nat) (s : TxLoop) :
    ∃ s', Loop.run (txPass p) s (List.replicate n t) = .inl s' := by
  induction n generalizing s with
  | zero => exact ⟨s, rfl⟩
  | succ n ih =>
    rw [List.replicate_succ, Loop.run_cons_of_inl _ (txPass_of_unlimited hp s hr hn)]
    exact ih _

/-- `tx_count` is an `int`: after `2 ^ 31` successful bursts of an unlimited campaign it has
wrapped to `-2 ^ 31`, and after `2 ^ 32` it is `0` again, so the next transmit call asserts
`start_of_burst` once more. -/
theorem txLoop_count_wraps :
    let p : TxParams := ⟨0, 500, [], 0, 0⟩
    let ok : TxTick := ⟨true, 0, 0⟩
    (∃ s, txLoop p (List.replicate (2 ^ 31) ok) = .inl s ∧ s.txCount = -2 ^ 31) ∧
    (∃ s, txLoop p (List.replicate (2 ^ 32) ok) = .inl s ∧
      txPass p s ok =
        .inl (p.afterSuccess { s with actions := s.actions ++ [.transmit [] 0 true true] } 0)) := by
  intro p ok
  have count : ∀ n s, txLoop p (List.replicate n ok) = .inl s → s.txCount = int32Of n := by
    intro n s h
    simpa [successes, List.countP_replicate, ok] using (txLoop_inv h).txCount_eq
  obtain ⟨s₁, h₁⟩ := run_txPass_replicate (p := p) (t := ok) rfl rfl le_rfl (2 ^ 31) .init
  obtain ⟨s₂, h₂⟩ := run_txPass_replicate (p := p) (t := ok) rfl rfl le_rfl (2 ^ 32) .init
  refine ⟨⟨s₁, h₁, by rw [count _ _ h₁]; decide⟩, ⟨s₂, h₂, ?_⟩⟩
  have hz : s₂.txCount = 0 := by rw [count _ _ h₂]; decide
  rw [txPass_of_unlimited rfl s₂ rfl le_rfl]
  simp [TxParams.transmitFrom, hz, TxParams.isEnd, ok, p]

/-! ### The calls -/

/-- A call the loop may make: the burst with its sample count, or a sleep. -/
def TxParams.callOk (p : TxParams) : TxAction → Prop
  | .transmit buf n _ _ => buf = p.buf ∧ n = p.nsamples
  | _ => True

/-- A pass only adds calls the loop may make. -/
theorem txPass_calls {p : TxParams} {s : TxLoop} {t : TxTick} {r : TxLoop ⊕ (TxStop × TxLoop)}
    (hs : ∀ a ∈ s.actions, p.callOk a) (h : txPass p s t = r) :
    ∀ a ∈ r.elim TxLoop.actions fun r ↦ r.2.actions, p.callOk a := by
  have hext : ∀ l : List TxAction, (∀ a ∈ l, p.callOk a) →
      ∀ a ∈ s.actions ++ p.transmitFrom s :: l, p.callOk a := fun _ hl ↦
    List.forall_mem_append.mpr ⟨hs, List.forall_mem_cons.mpr ⟨⟨rfl, rfl⟩, hl⟩⟩
  rcases r with s' | ⟨r, s'⟩
  · obtain ⟨-, -, ⟨-, -, rfl⟩ | ⟨-, rfl⟩⟩ := txPass_inl h
    · exact hext [.sleepMs 10] (by simp [TxParams.callOk])
    · simp only [Sum.elim_inl, TxParams.afterSuccess_actions, List.append_assoc,
        List.singleton_append]
      exact hext _ (by split_ifs <;> simp [TxParams.callOk])
  · obtain ⟨-, -, rfl⟩ | ⟨-, -, -, rfl⟩ | ⟨-, -, -, -, -, rfl⟩ := txPass_inr h
    iterate 2 exact hs
    exact hext [] (by simp)

/-- **Every call of a run** transmits the burst with its `nsamples`, or sleeps. -/
theorem txLoop_calls {p : TxParams} {ts : List TxTick} :
    ∀ a ∈ (txLoop p ts).elim TxLoop.actions fun r ↦ r.2.actions, p.callOk a := by
  rcases h : txLoop p ts with s | r
  · exact Loop.run_inv (fun _ ↦ True) (fun _ s ↦ ∀ a ∈ s.actions, p.callOk a)
      (fun _ _ _ _ hi _ hp ↦ txPass_calls hi hp) (h := []) (by simp [TxLoop.init])
      (fun _ _ ↦ trivial) h
  · obtain ⟨-, -, hpost⟩ := Loop.run_exit (fun _ ↦ True)
      (fun _ s ↦ ∀ a ∈ s.actions, p.callOk a) (fun _ r ↦ ∀ a ∈ r.2.actions, p.callOk a)
      (fun _ _ _ _ hi _ hp ↦ txPass_calls hi hp)
      (fun _ _ _ _ hi _ hp ↦ txPass_calls hi hp) (h := []) (by simp [TxLoop.init])
      (fun _ _ ↦ trivial) h
    exact hpost

/-! ### The burst budget of a bounded campaign -/

/-- The number of bursts the count test lets through: `(int)max_bursts`, or none when that is
not positive. -/
def TxParams.limit (p : TxParams) : Nat := (int32Of p.maxBursts.toNat).toNat

theorem TxParams.limit_le (p : TxParams) : p.limit ≤ p.maxBursts.toNat := by
  unfold TxParams.limit int32Of
  omega

/-- For a non-zero limit and a count that has not passed `limit`, the count test is
`count < limit`. -/
theorem belowLimit_int32Of {p : TxParams} (hN : 0 < p.maxBursts.toNat) {c : Nat}
    (hc : c ≤ p.limit) : p.belowLimit (int32Of c) = decide (c < p.limit) := by
  have hne : (p.maxBursts == 0) = false :=
    beq_eq_false_iff_ne.mpr fun h ↦ by simp [h] at hN
  simp only [TxParams.belowLimit, hne, Bool.false_or, decide_eq_decide]
  unfold TxParams.limit int32Of at *
  omega

/-- The loop-head budget of a bounded campaign, for the answers `h` consumed so far: every
pass made one transmit call, at most ten per success, and the successes stop at the limit. -/
structure TxBudget (p : TxParams) (h : List TxTick) (s : TxLoop) : Prop where
  inv : TxInv p h s
  /-- Each success follows at most nine failures. -/
  length_le : h.length ≤ 10 * successes h + trailingErrors h
  /-- The pass that reaches the limit is a success. -/
  within : successes h < p.limit ∨ (successes h = p.limit ∧ trailingErrors h = 0)

theorem TxBudget.init (p : TxParams) : TxBudget p [] TxLoop.init :=
  ⟨TxInv.init p, le_rfl, (Nat.eq_zero_or_pos p.limit).elim (fun h ↦ .inr ⟨h.symm, rfl⟩) .inl⟩

section Budget

variable {p : TxParams} {h : List TxTick} {s : TxLoop} {t : TxTick}

/-- The budget caps the passes that stayed in the loop at ten per burst of the limit. -/
theorem TxBudget.length_le_limit (hb : TxBudget p h s) : h.length ≤ 10 * p.limit := by
  have hlt := hb.inv.errors_lt
  have heq := hb.inv.errors_eq
  have hlen := hb.length_le
  simp only [maxConsecutiveErrors] at hlt
  rcases hb.within with _ | ⟨_, _⟩ <;> omega

/-- A pass from a budgeted loop head that gets past the loop head finds the count below the
limit. -/
theorem TxBudget.successes_lt (hN : 0 < p.maxBursts.toNat) (hb : TxBudget p h s)
    (hl : p.belowLimit s.txCount = true) : successes h < p.limit := by
  rw [hb.inv.txCount_eq, belowLimit_int32Of hN (by rcases hb.within with _ | ⟨_, _⟩ <;> omega)]
    at hl
  simpa using hl

/-- **Step lemma.** A pass that stays in the loop keeps the budget. -/
theorem txBudget_step (hN : 0 < p.maxBursts.toNat) {s' : TxLoop} (hb : TxBudget p h s)
    (hp : txPass p s t = .inl s') : TxBudget p (h ++ [t]) s' := by
  have hlt := hb.inv.errors_lt
  have heq := hb.inv.errors_eq
  have hlen := hb.length_le
  simp only [maxConsecutiveErrors] at hlt
  obtain ⟨-, hl, hcase⟩ := txPass_inl hp
  have hc := hb.successes_lt hN hl
  refine ⟨txInv_step hb.inv hp, ?_, ?_⟩ <;>
    simp only [successes_concat, trailingErrors_concat, List.length_append,
      List.length_singleton] <;>
    rcases hcase with ⟨hn, -⟩ | ⟨hn, -⟩ <;> split_ifs <;> omega

/-- **Exit lemma.** A pass that leaves a budgeted loop head has made at most ten transmit calls
per burst of the limit in all. -/
theorem txBudget_exit (hN : 0 < p.maxBursts.toNat) {r : TxStop × TxLoop} (hb : TxBudget p h s)
    (hp : txPass p s t = .inr r) : transmitCalls r.2.actions ≤ 10 * p.limit := by
  have hcap := hb.length_le_limit
  obtain ⟨r, s'⟩ := r
  obtain ⟨-, -, rfl⟩ | ⟨-, -, -, rfl⟩ | ⟨-, -, hl, -, he, rfl⟩ := txPass_inr hp
  iterate 2 exact hb.inv.calls_eq ▸ hcap
  have hc := hb.successes_lt hN hl
  have hlt := hb.inv.errors_lt
  have heq := hb.inv.errors_eq
  have hlen := hb.length_le
  have hcalls : transmitCalls (s.actions ++ [p.transmitFrom s]) = h.length + 1 := by
    simp [hb.inv.calls_eq]
  simp only [maxConsecutiveErrors] at hlt he
  show transmitCalls (s.actions ++ [p.transmitFrom s]) ≤ _
  omega

end Budget

/-- **Bounded campaigns end.** For every non-zero `max_bursts`, every sequence of transmit
results and every behaviour of the flag, the continuous-mode loop makes at most ten transmit
calls per burst of the limit: nine failures may precede each success, a tenth ends the
campaign. A run over more answers than that has left the loop, cancelled or not. -/
theorem txLoop_transmit_calls_le {p : TxParams} (hN : 0 < p.maxBursts.toNat)
    (ts : List TxTick) :
    transmitCalls ((txLoop p ts).elim TxLoop.actions fun r ↦ r.2.actions) ≤
        10 * p.maxBursts.toNat ∧
      (10 * p.maxBursts.toNat < ts.length → (txLoop p ts).isRight) := by
  have hL := p.limit_le
  refine ⟨?_, fun hlen ↦ Loop.run_isRight_of_length (fun _ ↦ True) (TxBudget p) (10 * p.limit)
    (fun _ _ _ _ hb _ hp ↦ txBudget_step hN hb hp) (fun _ _ hb ↦ hb.length_le_limit)
    (TxBudget.init p) (fun _ _ ↦ trivial) (by omega)⟩
  rcases h : txLoop p ts with s | r
  · have hb := Loop.run_inv (fun _ ↦ True) (TxBudget p)
      (fun _ _ _ _ hb _ hp ↦ txBudget_step hN hb hp) (TxBudget.init p) (fun _ _ ↦ trivial) h
    have := hb.length_le_limit
    simp only [Sum.elim_inl, hb.inv.calls_eq, List.nil_append] at this ⊢
    omega
  · obtain ⟨-, -, hpost⟩ := Loop.run_exit (fun _ ↦ True) (TxBudget p)
      (fun _ r ↦ transmitCalls r.2.actions ≤ 10 * p.limit)
      (fun _ _ _ _ hb _ hp ↦ txBudget_step hN hb hp)
      (fun _ _ _ _ hb _ hp ↦ txBudget_exit hN hb hp) (TxBudget.init p) (fun _ _ ↦ trivial) h
    simp only [Sum.elim_inr]
    omega

/-- A one-burst campaign whose transmit calls all fail ends on the tenth. -/
theorem txLoop_transmit_calls_le_failing :
    let p : TxParams := ⟨1, 500, [], 0, 0⟩
    let ts : List TxTick := List.replicate 11 ⟨true, -1, 0⟩
    0 < p.maxBursts.toNat ∧
      (transmitCalls ((txLoop p ts).elim TxLoop.actions fun r ↦ r.2.actions) ≤
          10 * p.maxBursts.toNat ∧
        (10 * p.maxBursts.toNat < ts.length → (txLoop p ts).isRight)) :=
  ⟨by decide, txLoop_transmit_calls_le (by decide) _⟩

/-! ### Timing is observational -/

/-- **Step lemma.** Passes from loop heads with the same counters and history, on answers
with the same flag and transmit result, under parameters that differ at most in the clock
reading at the loop's start, make the same calls and leave the same way. -/
theorem txPass_control (p : TxParams) (t₀ t₀' : Int) {s s' : TxLoop} {t t' : TxTick}
    (hs : s.control = s'.control) (ht : t.control = t'.control) :
    Sum.LiftRel (fun a b : TxLoop ↦ a.control = b.control)
      (fun a b : TxStop × TxLoop ↦ a.1 = b.1 ∧ a.2.control = b.2.control)
      (txPass { p with startTime := t₀ } s t) (txPass { p with startTime := t₀' } s' t') := by
  simp only [TxLoop.control, Prod.mk.injEq] at hs
  simp only [TxTick.control, Prod.mk.injEq] at ht
  obtain ⟨hc, he, ha⟩ := hs
  obtain ⟨hr, hn⟩ := ht
  unfold txPass
  simp only [TxParams.belowLimit, TxParams.isEnd, hr, hn, hc, he, ha]
  split_ifs <;> simp [TxLoop.control, TxParams.afterSuccess_actions, TxParams.isEnd, hc, he, ha]

/-- **Clock non-interference.** Two runs of the loop with the same settings and burst, one
started at the steady-clock reading `t₀` and one at `t₀'`, on answers that agree on the flag and
the transmit results, whatever the clock read during the passes, make the same transmit calls
and sleeps, leave for the same reason and end with the same counters. -/
theorem txLoop_control_eq (p : TxParams) (t₀ t₀' : Int) {ts ts' : List TxTick}
    (h : ts.map TxTick.control = ts'.map TxTick.control) :
    Sum.LiftRel (fun a b : TxLoop ↦ a.control = b.control)
      (fun a b : TxStop × TxLoop ↦ a.1 = b.1 ∧ a.2.control = b.2.control)
      (txLoop { p with startTime := t₀ } ts) (txLoop { p with startTime := t₀' } ts') := by
  have hE : List.Forall₂ (fun t t' : TxTick ↦ t.control = t'.control) ts ts' := by
    have : List.Forall₂ (· = ·) (ts.map TxTick.control) (ts'.map TxTick.control) := by
      rw [List.forall₂_eq_eq_eq]
      exact h
    simpa only [List.forall₂_map_left_iff, List.forall₂_map_right_iff] using this
  exact Loop.run_liftRel _ (fun t t' : TxTick ↦ t.control = t'.control) _
    (fun _ _ _ _ hs ht ↦ txPass_control p t₀ t₀' hs ht) rfl hE

/-- Fifty successful bursts and a cancellation, once started at `0` with a still clock and once
started at `7` s with a clock that jumps by a second per pass: the loop's calls, exit and
counters agree. -/
theorem txLoop_control_eq_clock_jumps :
    let p : TxParams := ⟨0, 500, [], 0, 0⟩
    let ts : List TxTick := List.replicate 50 ⟨true, 0, 0⟩ ++ [⟨false, 0, 0⟩]
    let ts' : List TxTick :=
      (List.range 50).map (fun i : Nat ↦ ⟨true, 0, i * 1000000000⟩) ++ [⟨false, 0, 0⟩]
    ts.map TxTick.control = ts'.map TxTick.control ∧
      Sum.LiftRel (fun a b : TxLoop ↦ a.control = b.control)
        (fun a b : TxStop × TxLoop ↦ a.1 = b.1 ∧ a.2.control = b.2.control)
        (txLoop { p with startTime := 0 } ts) (txLoop { p with startTime := 7000000000 } ts') := by
  intro p ts ts'
  have h : ts.map TxTick.control = ts'.map TxTick.control := by decide
  exact ⟨h, txLoop_control_eq p 0 7000000000 h⟩

/-! ### The progress bar -/

/-- A progress line as the bar of a campaign limited to `N` bursts should read: a positive
multiple of `50` bursts, at most `N`, and, while `bursts * 100` fits an `int`, the percentage
`⌊100 · bursts / N⌋`. -/
structure ProgressOk (N : Nat) (l : TxProgress) : Prop where
  bursts_pos : 0 < l.bursts
  bursts_le : l.bursts ≤ N
  bursts_mod : l.bursts.tmod 50 = 0
  percent_eq : l.bursts * 100 < 2 ^ 31 → l.percent = some (l.bursts * 100 / N)

/-- `(tx_count * 100) / max_bursts`, an `int` product divided as a `uint64_t`, is the
percentage of the limit while the product fits an `int`. -/
theorem progressLine_ok {p : TxParams} {s : TxLoop} {now : Int} (hpos : 0 < p.maxBursts.toNat)
    (h0 : 0 < s.txCount) (hle : s.txCount ≤ p.maxBursts.toNat) (hm : s.txCount.tmod 50 = 0) :
    ProgressOk p.maxBursts.toNat (p.progressLine s now) := by
  refine ⟨h0, hle, hm, fun (h : s.txCount * 100 < 2 ^ 31) ↦ ?_⟩
  have hN : 0 < p.maxBursts := hpos
  have hq : s.txCount * 100 / (p.maxBursts.toNat : Int) ≤ s.txCount * 100 :=
    Int.ediv_le_self _ (by omega)
  have hq0 : 0 ≤ s.txCount * 100 / (p.maxBursts.toNat : Int) :=
    Int.ediv_nonneg (by omega) (by omega)
  have hlt : s.txCount * 100 < 2 ^ 64 := by omega
  simp only [TxParams.progressLine, if_pos hN, int32Of_of_mem (by omega) h,
    Int.emod_eq_of_lt (by omega : 0 ≤ s.txCount * 100) hlt,
    int32Of_of_mem (by omega) (lt_of_le_of_lt hq h)]

/-- A line a pass prints after a successful transmit call shows the count it reached. -/
theorem TxParams.mem_progress_afterSuccess (p : TxParams) {s : TxLoop} {now : Int}
    {l : TxProgress} (h : l ∈ (p.afterSuccess s now).progress) :
    l ∈ s.progress ∨ ∃ s₁ : TxLoop, s₁.txCount = int32Of (s.txCount + 1) ∧
      s₁.txCount.tmod 50 = 0 ∧ l = p.progressLine s₁ now := by
  unfold TxParams.afterSuccess at h
  dsimp only at h
  split_ifs at h
  all_goals first
    | exact .inl h
    | rcases List.mem_append.mp h with h | h
      · exact .inl h
      · exact .inr ⟨_, rfl, by assumption, List.eq_of_mem_singleton h⟩

/-- **Step lemma.** From a loop head of a campaign with a limit under `2 ^ 31`, a pass prints
only lines that read right. -/
theorem txPass_progress {p : TxParams} {h : List TxTick} {s : TxLoop} {t : TxTick}
    {r : TxLoop ⊕ (TxStop × TxLoop)} (hpos : 0 < p.maxBursts.toNat)
    (hsmall : p.maxBursts.toNat < 2 ^ 31) (hi : TxInv p h s)
    (hs : ∀ l ∈ s.progress, ProgressOk p.maxBursts.toNat l) (hp : txPass p s t = r) :
    ∀ l ∈ r.elim TxLoop.progress fun r ↦ r.2.progress, ProgressOk p.maxBursts.toNat l := by
  rcases r with s' | ⟨r, s'⟩
  · obtain ⟨-, hl, ⟨-, -, rfl⟩ | ⟨-, rfl⟩⟩ := txPass_inl hp
    · exact hs
    · have hle := hi.within_limit hpos hsmall
      rw [hi.txCount_eq, belowLimit_small hpos hsmall hle] at hl
      intro l hl'
      rcases TxParams.mem_progress_afterSuccess p hl' with hl' | ⟨s₁, hc, hm, rfl⟩
      · exact hs l hl'
      · rw [hi.txCount_eq, int32Of_int32Of_add] at hc
        rw [int32Of_of_mem (by omega) (by omega)] at hc
        exact progressLine_ok hpos (by omega) (by omega) hm
  · obtain ⟨-, -, rfl⟩ | ⟨-, -, -, rfl⟩ | ⟨-, -, -, -, -, rfl⟩ := txPass_inr hp
    iterate 3 exact hs

/-- **The progress bar.** In a campaign limited to `0 < N < 2 ^ 31` bursts, every progress line
of a run, in the loop or after it, shows a positive multiple of `50` bursts up to `N`, and,
up to `21474836` bursts, the percentage `⌊100 · bursts / N⌋`. Beyond that the `int` product
`tx_count * 100` wraps: at `21474850` of `2 ^ 31 - 1` bursts the bar reads `3%`. -/
theorem txLoop_progress {p : TxParams} (hpos : 0 < p.maxBursts.toNat)
    (hsmall : p.maxBursts.toNat < 2 ^ 31) (ts : List TxTick) :
    ∀ l ∈ (txLoop p ts).elim TxLoop.progress fun r ↦ r.2.progress,
      ProgressOk p.maxBursts.toNat l := by
  have step : ∀ h s t s', (TxInv p h s ∧ ∀ l ∈ s.progress, ProgressOk p.maxBursts.toNat l) →
      True → txPass p s t = .inl s' →
        TxInv p (h ++ [t]) s' ∧ ∀ l ∈ s'.progress, ProgressOk p.maxBursts.toNat l :=
    fun _ _ _ _ hi _ hp ↦ ⟨txInv_step hi.1 hp, txPass_progress hpos hsmall hi.1 hi.2 hp⟩
  have h0 : TxInv p [] TxLoop.init ∧ ∀ l ∈ TxLoop.init.progress,
      ProgressOk p.maxBursts.toNat l := ⟨TxInv.init p, by simp [TxLoop.init]⟩
  rcases h : txLoop p ts with s | r
  · exact (Loop.run_inv (fun _ ↦ True) _ step h0 (fun _ _ ↦ trivial) h).2
  · obtain ⟨-, -, hpost⟩ := Loop.run_exit (fun _ ↦ True) _
      (fun _ r ↦ ∀ l ∈ r.2.progress, ProgressOk p.maxBursts.toNat l) step
      (fun _ _ _ _ hi _ hp ↦ txPass_progress hpos hsmall hi.1 hi.2 hp) h0
      (fun _ _ ↦ trivial) h
    exact hpost

/-- A campaign limited to `2 ^ 31 - 1` bursts. Every line of every run reads right up to
`21474836` bursts; the line a run prints at `21474850` bursts shows `3%`, where
`⌊100 · 21474850 / (2 ^ 31 - 1)⌋` is `1`: the product `tx_count * 100` has wrapped. -/
theorem txLoop_progress_wraps :
    let p : TxParams := ⟨2147483647, 500, [], 0, 0⟩
    0 < p.maxBursts.toNat ∧ p.maxBursts.toNat < 2 ^ 31 ∧
      (∀ ts, ∀ l ∈ (txLoop p ts).elim TxLoop.progress fun r ↦ r.2.progress,
        ProgressOk p.maxBursts.toNat l) ∧
      (p.progressLine ⟨21474850, 0, 0, [], []⟩ 0).percent = some 3 ∧
      21474850 * 100 / p.maxBursts.toNat = 1 :=
  ⟨by decide, by decide, txLoop_progress (by decide) (by decide), by decide, by decide⟩

end SsbSpoofer
