import Mathlib.Algebra.Order.Ring.Rat

/-!
# Machine integers and loops over supplied inputs

Three pieces of vocabulary that later modules use.

* `int32Of` is the value a C++ `int` holds: the integer congruent to its argument modulo
  `2 ^ 32` in `[-2 ^ 31, 2 ^ 31)`. The spoofer's `int` counters are incremented without a
  bound and its transmission loop compares against `(int)max_bursts` for a `uint64_t`; the
  cast is modular, and for the signed overflow of `++` (undefined in C++) the model takes the
  two's complement wrap the target performs.
* `roundF64` is the rounding of a `double` operation: its exact rational result, rounded to
  the nearest `double`. The products and quotients the code converts to `uint32_t` or compares
  are modelled with it, so `static_cast<uint32_t>(srate_hz * 0.001)` is `65` for a rate whose
  exact thousandth lies just below `65`.
* `Loop.run` is a `while` loop whose body reads one supplied input per pass. The inputs of
  successive passes are a list, so a run is structural recursion over what the world answered;
  `.inl s` is the state at the next loop head when the answers run out, and `.inr r` the
  value the loop left with. Each invariant of a loop in this development is proved once for
  one pass of its body and transported to whole runs by `Loop.run_inv`, `Loop.run_exit` and,
  for two runs compared side by side, `Loop.run_liftRel`.
-/

namespace SsbSpoofer

/-! ### `int` arithmetic -/

/-- The value an `int` holds after a conversion or an increment that leaves its range. -/
def int32Of (x : Int) : Int := (x + 2 ^ 31) % 2 ^ 32 - 2 ^ 31

theorem int32Of_of_mem {x : Int} (lo : -2 ^ 31 ≤ x) (hi : x < 2 ^ 31) : int32Of x = x := by
  unfold int32Of
  omega

/-- An `int` that wrapped once more is the wrap of the exact value: counting with `++` from
`0` holds `int32Of` of the number of increments. -/
theorem int32Of_int32Of_add (x y : Int) : int32Of (int32Of x + y) = int32Of (x + y) := by
  unfold int32Of
  omega

/-! ### `double` arithmetic -/

/-- `q * 2 ^ k`, the power written as a shift. -/
def mulPow2 (q : ℚ) (k : Int) : ℚ :=
  if 0 ≤ k then q * (1 <<< k.toNat : Nat) else q / (1 <<< (-k).toNat : Nat)

/-- The integer nearest to `x`, ties to the even one. -/
def roundHalfEven (x : ℚ) : Int :=
  let f := x.floor
  if x - f < 1 / 2 then f else if 1 / 2 < x - f then f + 1 else if f % 2 = 0 then f else f + 1

/-- The binary exponent of `a` among the normal doubles: bisecting `[lo, hi)` `fuel` times, the
`e` with `2 ^ e ≤ a < 2 ^ (e + 1)`, and `lo` when `a < 2 ^ lo`. -/
def binaryExponent : Nat → Int → Int → ℚ → Int
  | 0, lo, _, _ => lo
  | fuel + 1, lo, hi, a =>
    let mid := (lo + hi) / 2
    if mulPow2 1 mid ≤ a then binaryExponent fuel mid hi a else binaryExponent fuel lo mid a

/-- The `double` nearest to `q`, ties to even, as IEEE 754 rounds the exact result of an
operation: `53` significant bits above `2 ^ -1022`, the subnormal spacing `2 ^ -1074` below.
Results past the largest finite `double`, which round to infinity, are not distinguished: the
operations modelled with it stay far below. -/
def roundF64 (q : ℚ) : ℚ :=
  let unit := binaryExponent 11 (-1022) 1025 |q| - 52
  mulPow2 (roundHalfEven (mulPow2 q (-unit))) unit

/-- The `double` literal `0.001`. -/
example : roundF64 (1 / 1000) = 1152921504606847 / 1152921504606846976 := by
  with_unfolding_all rfl

/-- A tie between two doubles goes to the even significand. -/
example : roundF64 (2 ^ 53 + 1) = 2 ^ 53 ∧ roundF64 (2 ^ 53 + 3) = 2 ^ 53 + 4 := by
  with_unfolding_all exact ⟨rfl, rfl⟩

/-! ### `memcpy` -/

/-- `memcpy(&buf[dst], src.data(), src.size() * sizeof(T))` for a destination range inside
`buf`. -/
def writeAt {α : Type} (buf : List α) (dst : Nat) (src : List α) : List α :=
  buf.take dst ++ src ++ buf.drop (dst + src.length)

section WriteAt

variable {α : Type} {buf src : List α} {dst : Nat}

/-- A copy inside the buffer keeps its length and puts the source right after what precedes
the destination. -/
theorem length_writeAt (h : dst + src.length ≤ buf.length) :
    (writeAt buf dst src).length = buf.length := by
  simp only [writeAt, List.length_append, List.length_take, List.length_drop]
  omega

theorem take_writeAt (h : dst + src.length ≤ buf.length) :
    (writeAt buf dst src).take (dst + src.length) = buf.take dst ++ src :=
  List.take_left' (by simp; omega)

/-- A copy right after a prefix replaces what follows the prefix. -/
theorem writeAt_append_length (pre rest : List α) (src : List α) :
    writeAt (pre ++ rest) pre.length src = pre ++ src ++ rest.drop src.length := by
  simp [writeAt, List.drop_append_eq_append_drop]

end WriteAt

/-! ### Loops -/

namespace Loop

variable {σ ι ρ : Type}

/-- Run a loop body over the answers the world gives to successive passes. -/
def run (body : σ → ι → σ ⊕ ρ) : σ → List ι → σ ⊕ ρ
  | s, [] => .inl s
  | s, i :: is =>
    match body s i with
    | .inl s' => run body s' is
    | .inr r => .inr r

variable {body : σ → ι → σ ⊕ ρ}

@[simp]
theorem run_nil (s : σ) : run body s [] = .inl s := rfl

theorem run_cons_of_inl {s s' : σ} {i : ι} (is : List ι) (h : body s i = .inl s') :
    run body s (i :: is) = run body s' is := by
  simp only [run, h]

theorem run_cons_of_inr {s : σ} {i : ι} {r : ρ} (is : List ι) (h : body s i = .inr r) :
    run body s (i :: is) = .inr r := by
  simp only [run, h]

/-- A run over two stretches of answers is the run over the first, continued over the second
from the loop head it reached. -/
theorem run_append (s : σ) (xs ys : List ι) :
    run body s (xs ++ ys) = (run body s xs).elim (fun s' ↦ run body s' ys) .inr := by
  induction xs generalizing s with
  | nil => rfl
  | cons i is ih =>
    rcases h : body s i with s' | r
    · simp only [List.cons_append, run_cons_of_inl _ h, ih]
    · simp only [List.cons_append, run_cons_of_inr _ h, Sum.elim_inr]

section Invariant

variable (Good : ι → Prop) (Inv : List ι → σ → Prop)

/-- **Run lemma.** An invariant of the loop head and of the answers consumed so far, carried
by one pass, holds at every loop head a run reaches, when every answer is `Good`. -/
theorem run_inv
    (step : ∀ h s i s', Inv h s → Good i → body s i = .inl s' → Inv (h ++ [i]) s')
    {h : List ι} {s s' : σ} {is : List ι} (h0 : Inv h s) (hg : ∀ i ∈ is, Good i)
    (hr : run body s is = .inl s') : Inv (h ++ is) s' := by
  induction is generalizing h s with
  | nil => cases hr; simpa using h0
  | cons i is ih =>
    rcases hb : body s i with t | r
    · rw [run_cons_of_inl _ hb] at hr
      simpa using ih (step h s i t h0 (hg i (List.mem_cons_self _ _)) hb)
        (fun j hj ↦ hg j (List.mem_cons_of_mem _ hj)) hr
    · rw [run_cons_of_inr _ hb] at hr
      cases hr

/-- **Exit lemma.** What every pass that leaves the loop from an invariant state guarantees
holds of the value a run leaves with, for the answers consumed up to that pass. -/
theorem run_exit (Post : List ι → ρ → Prop)
    (step : ∀ h s i s', Inv h s → Good i → body s i = .inl s' → Inv (h ++ [i]) s')
    (leave : ∀ h s i r, Inv h s → Good i → body s i = .inr r → Post (h ++ [i]) r)
    {h : List ι} {s : σ} {is : List ι} {r : ρ} (h0 : Inv h s) (hg : ∀ i ∈ is, Good i)
    (hr : run body s is = .inr r) : ∃ pre, pre <+: is ∧ Post (h ++ pre) r := by
  induction is generalizing h s with
  | nil => cases hr
  | cons i is ih =>
    have hi := hg i (List.mem_cons_self _ _)
    have hrest : ∀ j ∈ is, Good j := fun j hj ↦ hg j (List.mem_cons_of_mem _ hj)
    rcases hb : body s i with t | r'
    · rw [run_cons_of_inl _ hb] at hr
      obtain ⟨pre, hpre, hpost⟩ := ih (step h s i t h0 hi hb) hrest hr
      exact ⟨i :: pre, List.prefix_cons_inj i |>.mpr hpre, by simpa using hpost⟩
    · rw [run_cons_of_inr _ hb] at hr
      exact ⟨[i], ⟨is, rfl⟩,
        Sum.inr.inj hr ▸ leave h s i r' h0 hi hb⟩

/-- **Termination.** When the invariant caps the passes that stay in the loop at `B`, every
run over more than `B` answers has left the loop. -/
theorem run_isRight_of_length (B : Nat)
    (step : ∀ h s i s', Inv h s → Good i → body s i = .inl s' → Inv (h ++ [i]) s')
    (bound : ∀ h s, Inv h s → h.length ≤ B) {s : σ} {is : List ι} (h0 : Inv [] s)
    (hg : ∀ i ∈ is, Good i) (hlen : B < is.length) : (run body s is).isRight := by
  rw [← List.take_append_drop (B + 1) is, run_append]
  rcases hr : run body s (is.take (B + 1)) with s' | r
  · have := bound _ _ (run_inv Good Inv step h0 (fun i hi ↦ hg i (List.mem_of_mem_take hi)) hr)
    simp only [List.nil_append, List.length_take] at this
    omega
  · rfl

end Invariant

/-- **Two runs.** A relation between two loop states that one pass preserves, for answers
related by `E`, relates the outcomes of the two whole runs. -/
theorem run_liftRel {σ' ι' ρ' : Type} {body' : σ' → ι' → σ' ⊕ ρ'}
    (R : σ → σ' → Prop) (E : ι → ι' → Prop) (S : ρ → ρ' → Prop)
    (step : ∀ s s' i i', R s s' → E i i' → Sum.LiftRel R S (body s i) (body' s' i'))
    {s : σ} {s' : σ'} {is : List ι} {is' : List ι'} (h0 : R s s')
    (hE : List.Forall₂ E is is') : Sum.LiftRel R S (run body s is) (run body' s' is') := by
  induction hE generalizing s s' with
  | nil => exact .inl h0
  | @cons i i' is is' hi _ ih =>
    rcases hb : body s i with t | r <;> rcases hb' : body' s' i' with t' | r' <;>
      have hs := step s s' i i' h0 hi <;> rw [hb, hb'] at hs
    · rw [run_cons_of_inl _ hb, run_cons_of_inl _ hb']
      exact ih (Sum.liftRel_inl_inl.mp hs)
    · cases hs
    · cases hs
    · rw [run_cons_of_inr _ hb, run_cons_of_inr _ hb']
      exact hs

/-- A pass that leaves the loop from every state makes every run over answers containing
it leave the loop. -/
theorem run_isRight_of_mem {i : ι} (hi : ∀ s, (body s i).isRight) {is : List ι} (hm : i ∈ is)
    (s : σ) : (run body s is).isRight := by
  induction is generalizing s with
  | nil => cases hm
  | cons j is ih =>
    rcases hb : body s j with t | r
    · rw [run_cons_of_inl _ hb]
      rcases List.mem_cons.mp hm with rfl | hm
      · simpa [hb] using hi s
      · exact ih hm t
    · rw [run_cons_of_inr _ hb]
      rfl

/-- **No exit.** A property of the loop head from which every pass stays in the loop, and which
every pass keeps, holds at the end of every run: no run leaves the loop. -/
theorem run_stays (P : σ → Prop) (step : ∀ s i, P s → ∃ s', body s i = .inl s' ∧ P s')
    {s : σ} (h0 : P s) (is : List ι) : ∃ s', run body s is = .inl s' ∧ P s' := by
  induction is generalizing s with
  | nil => exact ⟨s, rfl, h0⟩
  | cons i is ih =>
    obtain ⟨t, hb, ht⟩ := step s i h0
    rw [run_cons_of_inl _ hb]
    exact ih ht

end Loop

end SsbSpoofer
