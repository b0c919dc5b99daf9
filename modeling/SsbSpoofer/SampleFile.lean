import SsbSpoofer.Phy

/-!
# The raw sample format

The live sample sink of `scan_for_ssb` and `load_samples` of the file analyzer share one
format: raw `std::complex<float>` values, eight bytes each, with no header. The sink writes
`nrecv * sizeof(std::complex<float>)` bytes straight from the receive buffer; the analyzer
sizes the file, reads `file_size / 8` samples (or `max_samples` of them) into a vector and
reinterprets the bytes. Both sides see the host's memory layout of a sample, the real part
first and each part little-endian on the x86-64 target.

`decodeSamples_encodeSamples` is the round trip of the layout, and `loadSamples_encodeSamples`
the law between the two programs: the analyzer reads back exactly what the sink wrote, or its
first `max_samples` samples.
-/

namespace SsbSpoofer

/-! ### Bytes of a sample -/

/-- The four bytes of a 32-bit pattern in memory, least significant first. -/
def wordBytes (w : UInt32) : List UInt8 :=
  [UInt8.ofNat w.toNat, UInt8.ofNat (w.toNat / 2 ^ 8), UInt8.ofNat (w.toNat / 2 ^ 16),
    UInt8.ofNat (w.toNat / 2 ^ 24)]

/-- The 32-bit pattern four bytes in memory hold. -/
def wordOfBytes (b0 b1 b2 b3 : UInt8) : UInt32 :=
  UInt32.ofNat (b0.toNat + 2 ^ 8 * b1.toNat + 2 ^ 16 * b2.toNat + 2 ^ 24 * b3.toNat)

/-- The eight bytes of a sample in memory: the real part, then the imaginary part. -/
def Cf32.bytes (s : Cf32) : List UInt8 := wordBytes s.re ++ wordBytes s.im

/-- Samples as the sink writes them: their bytes one after the other. -/
def encodeSamples (xs : List Cf32) : List UInt8 := xs.flatMap Cf32.bytes

/-- The samples a vector reinterprets bytes as: one per complete group of eight bytes. -/
def decodeSamples : List UInt8 → List Cf32
  | b0 :: b1 :: b2 :: b3 :: b4 :: b5 :: b6 :: b7 :: rest =>
    ⟨wordOfBytes b0 b1 b2 b3, wordOfBytes b4 b5 b6 b7⟩ :: decodeSamples rest
  | _ => []

/-- A pattern survives being stored as bytes and read back. -/
theorem wordOfBytes_wordBytes (w : UInt32) :
    wordOfBytes (UInt8.ofNat w.toNat) (UInt8.ofNat (w.toNat / 2 ^ 8))
      (UInt8.ofNat (w.toNat / 2 ^ 16)) (UInt8.ofNat (w.toNat / 2 ^ 24)) = w := by
  have hw : w.toNat < 2 ^ 32 := w.toNat_lt_size
  apply UInt32.toNat.inj
  change (w.toNat % 2 ^ 8 + 2 ^ 8 * (w.toNat / 2 ^ 8 % 2 ^ 8) +
      2 ^ 16 * (w.toNat / 2 ^ 16 % 2 ^ 8) + 2 ^ 24 * (w.toNat / 2 ^ 24 % 2 ^ 8)) % 2 ^ 32 = w.toNat
  omega

@[simp]
theorem encodeSamples_nil : encodeSamples [] = [] := rfl

@[simp]
theorem encodeSamples_cons (s : Cf32) (xs : List Cf32) :
    encodeSamples (s :: xs) = s.bytes ++ encodeSamples xs := rfl

@[simp]
theorem encodeSamples_append (xs ys : List Cf32) :
    encodeSamples (xs ++ ys) = encodeSamples xs ++ encodeSamples ys := by
  simp [encodeSamples]

@[simp]
theorem length_encodeSamples (xs : List Cf32) : (encodeSamples xs).length = 8 * xs.length := by
  induction xs with
  | nil => rfl
  | cons s xs ih => simp [Cf32.bytes, wordBytes, ih]; omega

/-- **Round trip of the layout.** -/
theorem decodeSamples_encodeSamples (xs : List Cf32) : decodeSamples (encodeSamples xs) = xs := by
  induction xs with
  | nil => rfl
  | cons s xs ih =>
    show decodeSamples (wordBytes s.re ++ wordBytes s.im ++ encodeSamples xs) = s :: xs
    simp only [wordBytes, List.cons_append, List.nil_append, List.append_eq, decodeSamples,
      wordOfBytes_wordBytes, ih]

/-- Reading the first `8 * n` bytes is reading the first `n` samples. -/
theorem take_encodeSamples (n : Nat) (xs : List Cf32) :
    (encodeSamples xs).take (8 * n) = encodeSamples (xs.take n) := by
  induction xs generalizing n with
  | nil => simp
  | cons s xs ih =>
    cases n with
    | zero => simp
    | succ n =>
      have hlen : s.bytes.length = 8 := rfl
      rw [List.take_succ_cons, encodeSamples_cons, encodeSamples_cons, ← ih n,
        show 8 * (n + 1) = s.bytes.length + 8 * n by omega, List.take_append]

/-! ### `load_samples` -/

/-- `load_samples`, given the file's bytes (`none` when it cannot be opened): size the file,
cap the sample count at a non-zero `max_samples`, and read that many samples. -/
def loadSamples (file : Option (List UInt8)) (maxSamples : UInt32) : Option (List Cf32) :=
  match file with
  | none => none
  | some bytes =>
    let numSamples := bytes.length / 8
    let numSamples :=
      if 0 < maxSamples.toNat ∧ maxSamples.toNat < numSamples then maxSamples.toNat else numSamples
    if 8 * numSamples ≤ bytes.length then some (decodeSamples (bytes.take (8 * numSamples)))
    else none

/-- **The analyzer reads back what the sink wrote**: the whole sequence, or its first
`max_samples` samples when that is a smaller non-zero count. -/
theorem loadSamples_encodeSamples (xs : List Cf32) (maxSamples : UInt32) :
    loadSamples (some (encodeSamples xs)) maxSamples =
      some (if 0 < maxSamples.toNat ∧ maxSamples.toNat < xs.length then xs.take maxSamples.toNat
        else xs) := by
  have hdiv : 8 * xs.length / 8 = xs.length := by omega
  simp only [loadSamples, length_encodeSamples, hdiv]
  split_ifs with hm hle hle
  · rw [take_encodeSamples, decodeSamples_encodeSamples]
  · exact absurd (by omega) hle
  · rw [take_encodeSamples, List.take_length, decodeSamples_encodeSamples]
  · exact absurd le_rfl hle

end SsbSpoofer
