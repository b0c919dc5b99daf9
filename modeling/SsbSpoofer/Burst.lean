import Mathlib.Algebra.BigOperators.Group.List
import SsbSpoofer.Phy

/-!
# The burst buffer of `transmit_spoofed_ssb`

Before it transmits, `transmit_spoofed_ssb` repeats the generated waveform `burst_length_ms`
times into one buffer and rescales the whole buffer to a fixed RMS amplitude:

```
uint32_t total_samples = base_samples * burst_length;
std::vector<std::complex<float>> tx_buffer(total_samples);
for (uint32_t i = 0; i < burst_length; i++)
  std::memcpy(&tx_buffer[i * base_samples], ssb_buffer.data(), base_samples * 8);
for (...) check_power += std::norm(tx_buffer[i]);
float scale_factor = 0.7f / (std::sqrt(check_power / nsamples) + 1e-12f);
for (...) tx_buffer[i] *= scale_factor;
```

The size and the copy offsets are `uint32_t` products, reduced modulo `2 ^ 32` here as in the
code, and a copy whose destination range leaves the buffer (undefined behaviour in C++) makes
the model answer `none`.

**On floating point.** Binary32 arithmetic is not modelled: its operations are the fields of
`F32Ops`, on bit patterns, and every law of this module holds for every choice of them. What
the normalisation guarantees without any arithmetic fact is that one factor, computed once,
scales every sample.

The main result is

```
buildBurst_eq
```

: when the product does not wrap, every copy lands on its own period of the buffer, and the
burst is the waveform repeated `burst_length` times, each period scaled by that one factor.
-/

namespace SsbSpoofer

/-- The binary32 operations the normalisation uses, on bit patterns. -/
structure F32Ops where
  add : UInt32 → UInt32 → UInt32
  mul : UInt32 → UInt32 → UInt32
  div : UInt32 → UInt32 → UInt32
  sqrt : UInt32 → UInt32
  /-- `std::norm` of a `complex<float>`. -/
  norm : Cf32 → UInt32
  /-- The conversion of a `uint32_t` to `float`. -/
  ofUInt32 : Nat → UInt32

namespace F32Ops

variable (f : F32Ops)

/-- `complex<float> *= float`. -/
def smul (x : Cf32) (c : UInt32) : Cf32 := ⟨f.mul x.re c, f.mul x.im c⟩

/-- `check_power`: the norms of the samples summed in index order from `0.0f`. -/
def checkPower (buf : List Cf32) : UInt32 := buf.foldl (fun acc x ↦ f.add acc (f.norm x)) 0

/-- `scale_factor = 0.7f / (std::sqrt(check_power / nsamples) + 1e-12f)`; `0x3F333333` is
`0.7f` and `0x2B8CBCCC` is `1e-12f`. -/
def scaleFactor (buf : List Cf32) (nsamples : Nat) : UInt32 :=
  f.div 0x3F333333 (f.add (f.sqrt (f.div (f.checkPower buf) (f.ofUInt32 nsamples))) 0x2B8CBCCC)

end F32Ops

/-! ### The copy loop -/

/-- `memcpy` of `src` into `buf` at `dst`; `none` when the destination range leaves `buf`. -/
def copyInto (buf : List Cf32) (dst : Nat) (src : List Cf32) : Option (List Cf32) :=
  if dst + src.length ≤ buf.length then some (writeAt buf dst src) else none

/-- The `uint32_t` offset `i * base_samples` of the `i`-th copy. -/
def repeatOffset (baseSamples i : Nat) : Nat := i * baseSamples % 2 ^ 32

/-- The copy loop over the repeat indices `is`. -/
def copyRepeats (base : List Cf32) : List Cf32 → List Nat → Option (List Cf32)
  | buf, [] => some buf
  | buf, i :: is =>
    (copyInto buf (repeatOffset base.length i) base).bind fun buf ↦ copyRepeats base buf is

/-- The burst and the `nsamples` every transmit call is given: `total_samples` zeros, the
copies, and the rescaling of every sample by the one factor computed from the copied buffer. -/
def buildBurst (f : F32Ops) (base : List Cf32) (burstLength : Nat) : Option (List Cf32 × Nat) :=
  let total := base.length * burstLength % 2 ^ 32
  (copyRepeats base (List.replicate total Cf32.zero) (List.range burstLength)).map fun buf ↦
    (buf.map (f.smul · (f.scaleFactor buf total)), total)

/-! ### Laws -/

section Repeats

variable {base : List Cf32}

/-- With no wrap, the `i`-th offset is `i * base_samples` and its copy ends inside a buffer of
`base_samples * burst_length` samples. -/
theorem repeatOffset_of_lt {B i : Nat} (hB : base.length * B < 2 ^ 32) (hi : i < B) :
    repeatOffset base.length i = i * base.length ∧
      repeatOffset base.length i + base.length ≤ base.length * B := by
  have hle : i * base.length + base.length ≤ base.length * B := by
    rw [Nat.mul_comm base.length B]
    exact (Nat.succ_mul i base.length).symm ▸ Nat.mul_le_mul_right _ hi
  have hlt : i * base.length < 2 ^ 32 := by omega
  rw [repeatOffset, Nat.mod_eq_of_lt hlt]
  exact ⟨rfl, hle⟩

/-- **Run lemma of the copy loop.** From a buffer holding `k` periods followed by zeros, the
copies `k, …, k + n - 1` each fill the next period, and the loop ends with `k + n`. -/
theorem copyRepeats_range' (n k : Nat) (hB : base.length * (k + n) < 2 ^ 32) :
    copyRepeats base ((List.replicate k base).flatten ++
        List.replicate (base.length * n) Cf32.zero) (List.range' k n) =
      some (List.replicate (k + n) base).flatten := by
  induction n generalizing k with
  | zero => simp [copyRepeats]
  | succ n ih =>
    obtain ⟨hoff, hfit⟩ := repeatOffset_of_lt (B := k + (n + 1)) (i := k) hB (by omega)
    have hlen : (List.replicate k base).flatten.length = k * base.length := by
      simp [List.sum_replicate]
    have hcopy : copyInto ((List.replicate k base).flatten ++
        List.replicate (base.length * (n + 1)) Cf32.zero) (repeatOffset base.length k) base =
        some ((List.replicate (k + 1) base).flatten ++
          List.replicate (base.length * n) Cf32.zero) := by
      have hroom : repeatOffset base.length k + base.length ≤
          ((List.replicate k base).flatten ++
            List.replicate (base.length * (n + 1)) Cf32.zero).length := by
        rw [List.length_append, hlen, List.length_replicate, hoff, Nat.mul_succ]
        omega
      rw [copyInto, if_pos hroom, hoff, ← hlen, writeAt_append_length, List.drop_replicate,
        List.replicate_succ', List.flatten_append]
      simp [Nat.mul_succ]
    have e : k + 1 + n = k + (n + 1) := by omega
    rw [List.range'_succ, copyRepeats, hcopy, Option.some_bind, ih (k + 1) (e ▸ hB), e]

end Repeats

/-- **The burst.** When `base_samples * burst_length` does not wrap, the buffer the copies
leave is the waveform repeated `burst_length` times, and the burst is that buffer with every
sample scaled by the one factor computed from it: each period is the waveform times that
factor. Every transmit call is given all of its `base_samples * burst_length` samples. -/
theorem buildBurst_eq (f : F32Ops) (base : List Cf32) {B : Nat}
    (hB : base.length * B < 2 ^ 32) :
    buildBurst f base B =
      some ((List.replicate B
          (base.map (f.smul · (f.scaleFactor (List.replicate B base).flatten
            (base.length * B))))).flatten,
        base.length * B) := by
  have hcopy := @copyRepeats_range' base B 0 (by simpa using hB)
  simp only [List.replicate_zero, List.flatten_nil, List.nil_append, Nat.zero_add] at hcopy
  simp only [buildBurst, Nat.mod_eq_of_lt hB, List.range_eq_range', hcopy, Option.map_some',
    List.map_flatten, List.map_replicate]

end SsbSpoofer
