import SsbSpoofer.Main

/-!
# The file analyzer

`ssb_file_analyzer.cpp` decodes SSBs from a recorded IQ file: `parse_args` reads the command
line into `AnalyzerArgs`, `load_samples` reads the file, `SsbProcessor::init` sets up the
codec, and a loop scans the samples in windows that overlap by half:

```
uint32_t window_samples = static_cast<uint32_t>(sample_rate_hz * window_size_ms / 1000.0);
for (uint32_t offset = 0; offset + window_samples <= samples.size();
     offset += window_samples / 2)
  result = ssb_proc.scan(&samples[offset], window_samples, target_pci); ...
```

**Arithmetic.** `offset` and `window_samples` are `uint32_t`: the sum in the guard and the step
wrap modulo `2 ^ 32` before the comparison with the `size_t` sample count. Nothing bounds
`--window`, and `parse_args` accepts every value (`parseArgs_window`). A window of fewer than
two samples gives a step of `0` and the loop never ends (`windowLoop_stuck`); from `2 ^ 32`
samples on the guard holds at every offset (`windowLoop_of_two_pow_32_le`); a window longer
than two thirds of `2 ^ 32` wraps the second guard and the second scan reads past the samples
(`windowLoop_wraps`). Where nothing wraps (`2 ≤ W ≤ n`, `n + W < 2 ^ 32`) the loop scans exactly
the windows at the multiples of `W / 2` that fit, and these cover every stretch of at most
`W - W / 2` samples (`windowLoop_windows`).

**The world.** `std::stod` is a parameter: its rounding to binary is not modelled, and the
fields it fills are rationals, as in `SsbSpoofer.Config`; `window_samples` rounds the product
and the quotient to `double` (`roundF64`) before the conversion. `std::stoul` is modelled, and
`load_samples` is the one of `SsbSpoofer.SampleFile`, given the file's bytes. The window
loop reads one answer per pass, the outcome of `srsran_ssb_search` and the unpacking in force,
and records the window of each `scan` call in `scans`. The summary printed after the loop is
the subject of `SsbSpoofer.Summary`; the sample statistics are not modelled.
-/

namespace SsbSpoofer

namespace Analyzer

open ConfigFile (isSpace decimalValue)

/-! ### `parse_args` -/

/-- `AnalyzerArgs`. -/
structure AnalyzerArgs where
  inputFile : String
  sampleRateHz : ℚ
  centerFreqHz : ℚ
  ssbPattern : String
  scsKhz : UInt32
  periodicityMs : UInt32
  ssbFreqOffsetHz : ℚ
  targetPci : UInt32
  scanForTarget : Bool
  maxSamples : UInt32
  windowSizeMs : UInt32
  verbose : Bool
deriving DecidableEq, Repr

/-- The member initialisers of `AnalyzerArgs`. -/
def AnalyzerArgs.defaults : AnalyzerArgs where
  inputFile := ""
  sampleRateHz := 23040000
  centerFreqHz := 1842500000
  ssbPattern := "A"
  scsKhz := 15
  periodicityMs := 20
  ssbFreqOffsetHz := 0
  targetPci := 0
  scanForTarget := false
  maxSamples := 0
  windowSizeMs := 10
  verbose := false

/-- `std::stoul(s)` in base 10, for a 64-bit `unsigned long`: white space, an optional sign,
then the longest run of digits. No digit throws `std::invalid_argument`, a value past
`ULONG_MAX` throws `std::out_of_range` (`none` for both), and a minus sign negates modulo
`2 ^ 64`. -/
def stoul (s : String) : Option Nat :=
  let cs := s.toList.dropWhile isSpace
  let neg := cs.head? == some '-'
  let cs := if cs.head? == some '-' || cs.head? == some '+' then cs.tail else cs
  let ds := cs.takeWhile Char.isDigit
  if ds.isEmpty then none
  else if 2 ^ 64 ≤ decimalValue ds then none
  else some (if neg then (2 ^ 64 - decimalValue ds) % 2 ^ 64 else decimalValue ds)

/-- What an argument does in the option chain of `parse_args`. -/
inductive ArgAction
  /-- `-h`, `--help`: `return false`. -/
  | help
  /-- An option without a value. -/
  | flag (set : AnalyzerArgs → AnalyzerArgs)
  /-- An option that consumes the next argument, if there is one; `none` is a conversion that
  throws. -/
  | value (set : String → AnalyzerArgs → Option AnalyzerArgs)
  /-- `Unknown option`: `return false`. -/
  | unknown

/-- The `if`/`else if` chain of `parse_args` on one argument. A `uint32_t` field keeps the low
32 bits of what `std::stoul` returns. -/
def argAction (stod : String → Option ℚ) (arg : String) : ArgAction :=
  if arg = "-h" ∨ arg = "--help" then .help
  else if arg = "-f" ∨ arg = "--file" then .value fun v a ↦ some { a with inputFile := v }
  else if arg = "-s" ∨ arg = "--srate" then
    .value fun v a ↦ (stod v).map fun x ↦ { a with sampleRateHz := x }
  else if arg = "-c" ∨ arg = "--center-freq" then
    .value fun v a ↦ (stod v).map fun x ↦ { a with centerFreqHz := x }
  else if arg = "-p" ∨ arg = "--pattern" then .value fun v a ↦ some { a with ssbPattern := v }
  else if arg = "--scs" then
    .value fun v a ↦ (stoul v).map fun x ↦ { a with scsKhz := .ofNat x }
  else if arg = "--period" then
    .value fun v a ↦ (stoul v).map fun x ↦ { a with periodicityMs := .ofNat x }
  else if arg = "--offset" then
    .value fun v a ↦ (stod v).map fun x ↦ { a with ssbFreqOffsetHz := x }
  else if arg = "--pci" then
    .value fun v a ↦ (stoul v).map fun x ↦
      { a with targetPci := .ofNat x, scanForTarget := true }
  else if arg = "--max-samples" then
    .value fun v a ↦ (stoul v).map fun x ↦ { a with maxSamples := .ofNat x }
  else if arg = "--window" then
    .value fun v a ↦ (stoul v).map fun x ↦ { a with windowSizeMs := .ofNat x }
  else if arg = "-v" ∨ arg = "--verbose" then .flag fun a ↦ { a with verbose := true }
  else .unknown

/-- How `parse_args` ends. -/
inductive ParseOutcome
  /-- `true`, with the arguments to run with. -/
  | accepted (args : AnalyzerArgs)
  /-- `false`, after the error message it printed, if any; `main` prints the usage and
  returns `1`. -/
  | rejected (err : Option String)
  /-- `std::stod` or `std::stoul` threw; nothing catches it. -/
  | thrown
deriving DecidableEq, Repr

/-- `// validate`. -/
def checkArgs (args : AnalyzerArgs) : ParseOutcome :=
  if args.inputFile.isEmpty then .rejected (some "error: input file required (-f)\n")
  else if args.sampleRateHz ≤ 0 then .rejected (some "error: sample rate required (-s)\n")
  else if args.centerFreqHz ≤ 0 then .rejected (some "error: center freq required (-c)\n")
  else .accepted args

/-- The loop of `parse_args` over the arguments after `argv[0]`. An option whose value is
missing ends the loop (`++i < argc` fails). -/
def parseArgsFrom (stod : String → Option ℚ) : List String → AnalyzerArgs → ParseOutcome
  | [], args => checkArgs args
  | arg :: rest, args =>
    match argAction stod arg, rest with
    | .help, _ => .rejected none
    | .unknown, _ => .rejected (some ("Unknown option: " ++ arg ++ "\n"))
    | .flag set, rest => parseArgsFrom stod rest (set args)
    | .value _, [] => checkArgs args
    | .value set, v :: rest =>
      match set v args with
      | some args => parseArgsFrom stod rest args
      | none => .thrown

/-- `parse_args(argc, argv, args)` on a default-initialised `args`. -/
def parseArgs (stod : String → Option ℚ) (argv : List String) : ParseOutcome :=
  if argv.length < 2 then .rejected none else parseArgsFrom stod argv.tail .defaults

/-- **Any window is accepted**: `-f file --window v` runs with the default sample rate and the
low 32 bits of whatever `std::stoul` makes of `v`. -/
theorem parseArgs_window (stod : String → Option ℚ) (prog file v : String)
    (hf : file.isEmpty = false) {x : Nat} (hv : stoul v = some x) :
    parseArgs stod [prog, "-f", file, "--window", v] =
      .accepted { AnalyzerArgs.defaults with inputFile := file, windowSizeMs := .ofNat x } := by
  have hs : (0 : ℚ) < AnalyzerArgs.defaults.sampleRateHz := by with_unfolding_all decide
  have hc : (0 : ℚ) < AnalyzerArgs.defaults.centerFreqHz := by with_unfolding_all decide
  simp [parseArgs, parseArgsFrom, argAction, hv, checkArgs, hf, not_le.mpr hs, not_le.mpr hc]

/-! ### The set-up -/

/-- The `SsbConfig` `main` fills from the arguments, all power scalings `0`. -/
def ssbConfigOf (args : AnalyzerArgs) : SsbConfig where
  pattern := args.ssbPattern
  scsKhz := args.scsKhz
  periodicityMs := args.periodicityMs
  ssbFreqOffsetHz := args.ssbFreqOffsetHz
  betaPss := 0
  betaSss := 0
  betaPbch := 0
  betaPbchDmrs := 0

/-- `ssb_proc.init(ssb_config, sample_rate_hz, center_freq_hz)` on a new processor. -/
def setUp (args : AnalyzerArgs) (ssbInit : Bool) (setCfg : Option Nat) : Bool × SsbProcessor :=
  (SsbProcessor.new (ssbConfigOf args)).init (ssbConfigOf args) args.sampleRateHz
    args.centerFreqHz ssbInit setCfg

/-- `target_pci`: the PCI to look for, when `--pci` was given. -/
def targetOf (args : AnalyzerArgs) : Option UInt32 :=
  if args.scanForTarget then some args.targetPci else none

/-- `window_samples`: the `double` product of the rate and the window length, divided by
`1000.0`, converted to `uint32_t`. -/
def windowSamples (args : AnalyzerArgs) : Nat :=
  toUInt32 (roundF64 (roundF64 (args.sampleRateHz * (args.windowSizeMs.toNat : ℚ)) / 1000))

/-- A file that opens is always read: `load_samples` sizes it before reading. -/
theorem loadSamples_isSome (bytes : List UInt8) (maxSamples : UInt32) :
    (loadSamples (some bytes) maxSamples).isSome := by
  simp only [loadSamples]
  split_ifs <;> first | rfl | omega

/-- A processor whose `srsran_ssb_init` and `srsran_ssb_set_cfg` succeed is set up. -/
theorem setUp_ok (args : AnalyzerArgs) (sfSz : Nat) : (setUp args true (some sfSz)).1 = true := by
  simp [setUp, SsbProcessor.init, SsbProcessor.configure, SsbProcessor.new]

/-! ### The window loop -/

/-- The answers one pass of the window loop gets. -/
structure WindowTick where
  /-- `srsran_ssb_search` on the window. -/
  search : Option SearchRes
  /-- `srsran_pbch_msg_nr_mib_unpack` in force. -/
  unpack : PbchMsg → Bool × Mib

/-- The state at the head of the window loop, with the windows scanned so far. -/
structure WindowLoop where
  offset : Nat
  windowCount : Nat
  ssbCount : Nat
  foundSsbs : List SsbSearchResult
  /-- The `(offset, window_samples)` of each `scan` call: it reads
  `[offset, offset + window_samples)` from `&samples[offset]`. -/
  scans : List (Nat × Nat)

/-- The loop head before the first pass. -/
def WindowLoop.init : WindowLoop := ⟨0, 0, 0, [], []⟩

/-- One pass of the window loop over `n` samples with windows of `W`; it leaves the loop when
the guard fails. -/
def windowPass (proc : SsbProcessor) (target : Option UInt32) (n W : Nat) (s : WindowLoop)
    (t : WindowTick) : WindowLoop ⊕ WindowLoop :=
  if (s.offset + W) % 2 ^ 32 ≤ n then
    let result := proc.scan target t.search t.unpack
    let s := { s with windowCount := (s.windowCount + 1) % 2 ^ 32,
                      scans := s.scans ++ [(s.offset, W)] }
    let s := if result.found then
        { s with ssbCount := (s.ssbCount + 1) % 2 ^ 32, foundSsbs := s.foundSsbs ++ [result] }
      else s
    .inl { s with offset := (s.offset + W / 2) % 2 ^ 32 }
  else .inr s

/-- The window loop over the answers of successive passes. -/
def windowLoop (proc : SsbProcessor) (target : Option UInt32) (n W : Nat) (ts : List WindowTick) :
    WindowLoop ⊕ WindowLoop :=
  Loop.run (windowPass proc target n W) .init ts

/-! ### One pass -/

section Pass

variable {n W : Nat} {s : WindowLoop}

/-- A pass whose guard holds scans the window at the offset and moves the offset by half a
window. -/
theorem windowPass_of_le (proc : SsbProcessor) (target : Option UInt32) (t : WindowTick)
    (h : (s.offset + W) % 2 ^ 32 ≤ n) :
    ∃ s', windowPass proc target n W s t = .inl s' ∧
      s'.offset = (s.offset + W / 2) % 2 ^ 32 ∧ s'.scans = s.scans ++ [(s.offset, W)] := by
  simp only [windowPass, if_pos h]
  split_ifs <;> exact ⟨_, rfl, rfl, rfl⟩

theorem windowPass_of_lt {proc : SsbProcessor} {target : Option UInt32} {t : WindowTick}
    (h : n < (s.offset + W) % 2 ^ 32) :
    windowPass proc target n W s t = .inr s := by
  simp only [windowPass, if_neg (not_le.mpr h)]

/-- A pass that leaves the loop leaves it with the state it started from. -/
theorem eq_of_windowPass_inr {proc : SsbProcessor} {target : Option UInt32} {t : WindowTick}
    {s' : WindowLoop} (h : windowPass proc target n W s t = .inr s') : s' = s := by
  unfold windowPass at h
  split_ifs at h
  exact (Sum.inr.inj h).symm

end Pass

/-- The counters the summary prints: `window_count` counts the scan calls and `ssb_count` the
found results, both modulo `2 ^ 32`, and `found_ssbs` keeps only found results, of the target
cell when one is set. -/
structure WindowCounts (target : Option UInt32) (s : WindowLoop) : Prop where
  windowCount_eq : s.windowCount = s.scans.length % 2 ^ 32
  ssbCount_eq : s.ssbCount = s.foundSsbs.length % 2 ^ 32
  found : ∀ r ∈ s.foundSsbs, r.found = true ∧ ∀ t, target = some t → r.pci = t

/-- **Step lemma.** A pass that stays in the loop keeps the counters. -/
theorem windowCounts_step {proc : SsbProcessor} {target : Option UInt32} {n W : Nat}
    {s s' : WindowLoop} {t : WindowTick} (hs : WindowCounts target s)
    (hp : windowPass proc target n W s t = .inl s') : WindowCounts target s' := by
  have hw : (s.windowCount + 1) % 2 ^ 32 = (s.scans ++ [(s.offset, W)]).length % 2 ^ 32 := by
    rw [hs.windowCount_eq, Nat.mod_add_mod, List.length_append, List.length_singleton]
  unfold windowPass at hp
  split_ifs at hp
  by_cases hf : (proc.scan target t.search t.unpack).found <;>
    simp only [hf, if_true, Bool.false_eq_true, if_false, Sum.inl.injEq] at hp <;> subst hp
  · refine ⟨hw, ?_, fun r hr ↦ ?_⟩
    · rw [hs.ssbCount_eq, Nat.mod_add_mod, List.length_append, List.length_singleton]
    · rcases List.mem_append.mp hr with hr | hr
      · exact hs.found r hr
      · obtain ⟨res, -, -, ht, hscan⟩ := SsbProcessor.scan_found hf
        rw [List.mem_singleton.mp hr, hscan]
        exact ⟨rfl, ht⟩
  · exact ⟨hw, hs.ssbCount_eq, hs.found⟩

/-- **Run lemma.** Every state a run reaches, in the loop or after it, keeps the counters. -/
theorem windowLoop_counts (proc : SsbProcessor) (target : Option UInt32) (n W : Nat)
    (ts : List WindowTick) : WindowCounts target ((windowLoop proc target n W ts).elim id id) := by
  have step : ∀ (h : List WindowTick) s t s', WindowCounts target s → True →
      windowPass proc target n W s t = .inl s' → WindowCounts target s' :=
    fun _ _ _ _ hs _ hp ↦ windowCounts_step hs hp
  have h0 : WindowCounts target .init := ⟨rfl, rfl, by simp [WindowLoop.init]⟩
  rcases h : windowLoop proc target n W ts with s | s
  · exact Loop.run_inv (fun _ ↦ True) (fun _ s ↦ WindowCounts target s) step (h := []) h0
      (fun _ _ ↦ trivial) h
  · obtain ⟨-, -, hpost⟩ := Loop.run_exit (fun _ ↦ True) (fun _ s ↦ WindowCounts target s)
      (fun _ r ↦ WindowCounts target r) step
      (fun _ _ _ _ hs _ hp ↦ eq_of_windowPass_inr hp ▸ hs)
      (h := []) h0 (fun _ _ ↦ trivial) h
    exact hpost

/-- The offsets the analyzer is meant to scan: the multiples of `W / 2` whose window ends
within the `n` samples. -/
def windowStarts (n W : Nat) : List Nat := (List.range ((n - W) / (W / 2) + 1)).map (· * (W / 2))

section Windows

variable {n W : Nat}

/-- The `k`-th window fits exactly when `k` is at most the last index. -/
theorem window_fits_iff (hW : 2 ≤ W) (hn : W ≤ n) (k : Nat) :
    k * (W / 2) + W ≤ n ↔ k ≤ (n - W) / (W / 2) := by
  rw [Nat.le_div_iff_mul_le (by omega)]
  omega

/-- Up to one past the last window, offsets stay within the samples. -/
theorem window_offset_le (hW : 2 ≤ W) (hn : W ≤ n) {k : Nat}
    (hk : k ≤ (n - W) / (W / 2) + 1) : k * (W / 2) ≤ n := by
  have hK := Nat.div_mul_le_self (n - W) (W / 2)
  have := Nat.mul_le_mul_right (W / 2) hk
  rw [Nat.add_mul, one_mul] at this
  omega

/-- The window loop after `j` passes, where nothing wraps. -/
structure WindowInv (n W : Nat) (hist : List WindowTick) (s : WindowLoop) : Prop where
  offset_eq : s.offset = hist.length * (W / 2)
  length_le : hist.length ≤ (n - W) / (W / 2) + 1
  scans_eq : s.scans = (List.range hist.length).map fun k ↦ (k * (W / 2), W)

variable {proc : SsbProcessor} {target : Option UInt32}

theorem windowInv_step (hW : 2 ≤ W) (hn : W ≤ n) (hlt : n + W < 2 ^ 32)
    {hist : List WindowTick} {s s' : WindowLoop} {t : WindowTick} (hi : WindowInv n W hist s)
    (hp : windowPass proc target n W s t = .inl s') : WindowInv n W (hist ++ [t]) s' := by
  have hj := window_offset_le hW hn hi.length_le
  by_cases hc : (s.offset + W) % 2 ^ 32 ≤ n
  · obtain ⟨s'', hs'', ho, hsc⟩ := windowPass_of_le proc target t hc
    rw [hs'', Sum.inl.injEq] at hp
    subst hp
    rw [hi.offset_eq, Nat.mod_eq_of_lt (by omega), window_fits_iff hW hn] at hc
    have hj' := window_offset_le hW hn (k := hist.length + 1) (by omega)
    rw [Nat.add_mul, one_mul] at hj'
    refine ⟨?_, by simp; omega, ?_⟩
    · rw [ho, hi.offset_eq, List.length_append, List.length_singleton, Nat.add_mul, one_mul,
        Nat.mod_eq_of_lt (by omega)]
    · rw [hsc, hi.scans_eq, hi.offset_eq, List.length_append, List.length_singleton,
        List.range_succ, List.map_append]
      rfl
  · rw [windowPass_of_lt (not_le.mp hc)] at hp
    cases hp

/-- The pass that leaves the loop is the one after the last window. -/
theorem windowInv_exit (hW : 2 ≤ W) (hn : W ≤ n) (hlt : n + W < 2 ^ 32)
    {hist : List WindowTick} {s s' : WindowLoop} {t : WindowTick} (hi : WindowInv n W hist s)
    (hp : windowPass proc target n W s t = .inr s') :
    s' = s ∧ hist.length = (n - W) / (W / 2) + 1 := by
  have hj := window_offset_le hW hn hi.length_le
  by_cases hc : (s.offset + W) % 2 ^ 32 ≤ n
  · obtain ⟨s'', hs'', -⟩ := windowPass_of_le proc target t hc
    rw [hs''] at hp
    cases hp
  · rw [hi.offset_eq, Nat.mod_eq_of_lt (by omega), window_fits_iff hW hn] at hc
    exact ⟨eq_of_windowPass_inr hp, by have := hi.length_le; omega⟩

theorem WindowInv.init : WindowInv n W [] .init :=
  ⟨by simp [WindowLoop.init], Nat.zero_le _, rfl⟩

/-- **Run lemma.** Where nothing wraps, a run still in the loop has made one pass per answer,
each scanning the next window. -/
theorem windowLoop_inl (hW : 2 ≤ W) (hn : W ≤ n) (hlt : n + W < 2 ^ 32) {ts : List WindowTick}
    {s : WindowLoop} (h : windowLoop proc target n W ts = .inl s) : WindowInv n W ts s := by
  simpa using Loop.run_inv (fun _ ↦ True) (WindowInv n W)
    (fun _ _ _ _ hi _ hp ↦ windowInv_step hW hn hlt hi hp) (h := []) WindowInv.init
    (fun _ _ ↦ trivial) h

/-- **Exit lemma.** Where nothing wraps, a run that has left the loop read one answer more than
there are windows, and scanned each window once, in order. -/
theorem windowLoop_inr (hW : 2 ≤ W) (hn : W ≤ n) (hlt : n + W < 2 ^ 32) {ts : List WindowTick}
    {s : WindowLoop} (h : windowLoop proc target n W ts = .inr s) :
    (n - W) / (W / 2) + 2 ≤ ts.length ∧
      s.scans = (List.range ((n - W) / (W / 2) + 1)).map fun k ↦ (k * (W / 2), W) := by
  obtain ⟨pre, hpre, hlen, hsc⟩ := Loop.run_exit (fun _ ↦ True) (WindowInv n W)
    (fun hist r ↦ hist.length = (n - W) / (W / 2) + 2 ∧
      r.scans = (List.range ((n - W) / (W / 2) + 1)).map fun k ↦ (k * (W / 2), W))
    (fun _ _ _ _ hi _ hp ↦ windowInv_step hW hn hlt hi hp)
    (fun hist s t r hi _ hp ↦ by
      obtain ⟨rfl, hl⟩ := windowInv_exit hW hn hlt hi hp
      exact ⟨by simp [hl], by rw [hi.scans_eq, hl]⟩)
    (h := []) WindowInv.init (fun _ _ ↦ trivial) h
  rw [List.nil_append] at hlen
  exact ⟨hlen ▸ hpre.length_le, hsc⟩

/-- Every part of a stretch of at most `W - W / 2` samples that ends by the end of the last
window lies in one window. -/
theorem windowStarts_cover (hW : 2 ≤ W) {a len : Nat} (hlen : len ≤ W - W / 2)
    (hend : a + len ≤ (n - W) / (W / 2) * (W / 2) + W) :
    ∃ o ∈ windowStarts n W, o ≤ a ∧ a + len ≤ o + W := by
  have hh : 0 < W / 2 := by omega
  have hlo := Nat.div_mul_le_self a (W / 2)
  have hhi := Nat.lt_div_mul_add (a := a) hh
  by_cases hk : a / (W / 2) ≤ (n - W) / (W / 2)
  · exact ⟨a / (W / 2) * (W / 2), List.mem_map_of_mem _ (List.mem_range.mpr (by omega)),
      hlo, by omega⟩
  · have := Nat.mul_le_mul_right (W / 2) (not_le.mp hk)
    rw [Nat.succ_mul] at this
    exact ⟨(n - W) / (W / 2) * (W / 2), List.mem_map_of_mem _ (List.mem_range.mpr (by omega)),
      by omega, hend⟩

end Windows

theorem windowLoop_windows {proc : SsbProcessor} {target : Option UInt32} {n W : Nat}
    (hW : 2 ≤ W) (hn : W ≤ n) (hlt : n + W < 2 ^ 32) (ts : List WindowTick) :
    ((windowLoop proc target n W ts).isRight ↔ (windowStarts n W).length < ts.length) ∧
      ((windowLoop proc target n W ts).elim id id).scans =
        ((windowStarts n W).map fun o ↦ (o, W)).take ts.length ∧
      ∀ s, windowLoop proc target n W ts = .inr s → ∀ a len, len ≤ W - W / 2 →
        a + len ≤ (n - W) / (W / 2) * (W / 2) + W →
        ∃ o ∈ s.scans, o.1 ≤ a ∧ a + len ≤ o.1 + o.2 := by
  have hstarts : (windowStarts n W).map (fun o ↦ (o, W)) =
      (List.range ((n - W) / (W / 2) + 1)).map fun k ↦ (k * (W / 2), W) := by
    simp [windowStarts, Function.comp_def]
  have hcount : (windowStarts n W).length = (n - W) / (W / 2) + 1 := by simp [windowStarts]
  rw [hstarts, hcount]
  rcases h : windowLoop proc target n W ts with s | s
  · have hi := windowLoop_inl hW hn hlt h
    refine ⟨by simpa using hi.length_le, ?_, nofun⟩
    rw [Sum.elim_inl, id, hi.scans_eq, ← List.map_take, List.take_range,
      min_eq_left hi.length_le]
  · obtain ⟨hts, hsc⟩ := windowLoop_inr hW hn hlt h
    refine ⟨by simp; omega,
      by rw [Sum.elim_inr, id, hsc, List.take_of_length_le (by simp; omega)], ?_⟩
    rintro _ ⟨⟩ a len hlen hend
    obtain ⟨o, ho, hoa, hao⟩ := windowStarts_cover hW hlen hend
    exact ⟨(o, W), by rw [hsc, ← hstarts]; exact List.mem_map_of_mem _ ho, hoa, hao⟩

theorem windowLoop_windows_ten_four :
    let tick : WindowTick := ⟨none, fun _ ↦ (false, Mib.zero)⟩
    let proc := SsbProcessor.new ConfigParser.defaults.ssb
    (2 ≤ 4 ∧ 4 ≤ 10 ∧ 10 + 4 < 2 ^ 32) ∧
      (((windowLoop proc none 10 4 (List.replicate 5 tick)).isRight ↔
          (windowStarts 10 4).length < (List.replicate 5 tick).length) ∧
        ((windowLoop proc none 10 4 (List.replicate 5 tick)).elim id id).scans =
          ((windowStarts 10 4).map fun o ↦ (o, 4)).take (List.replicate 5 tick).length ∧
        ∀ s, windowLoop proc none 10 4 (List.replicate 5 tick) = .inr s → ∀ a len,
          len ≤ 4 - 4 / 2 → a + len ≤ (10 - 4) / (4 / 2) * (4 / 2) + 4 →
          ∃ o ∈ s.scans, o.1 ≤ a ∧ a + len ≤ o.1 + o.2) :=
  ⟨by decide, windowLoop_windows (by decide) (by decide) (by decide) _⟩


section Unbounded

variable (proc : SsbProcessor) (target : Option UInt32) {n W : Nat}

/-- **A window of fewer than two samples.** The step `W / 2` is `0`: a window that fits at
offset `0` fits at every pass, and the loop never ends. -/
theorem windowLoop_stuck (hW : W / 2 = 0) (hn : W ≤ n) (ts : List WindowTick) :
    ∃ s, windowLoop proc target n W ts = .inl s ∧ s.offset = 0 := by
  have step (s : WindowLoop) (t : WindowTick) (hs : s.offset = 0) :
      ∃ s', windowPass proc target n W s t = .inl s' ∧ s'.offset = 0 := by
    obtain ⟨s', hp, ho, -⟩ := windowPass_of_le proc target t
      (show (s.offset + W) % 2 ^ 32 ≤ n by rw [hs]; omega)
    exact ⟨s', hp, by rw [ho, hs, hW]; rfl⟩
  exact Loop.run_stays _ step rfl ts

/-- **From `2 ^ 32` samples on** the `uint32_t` guard holds at every offset, and the loop never
ends. -/
theorem windowLoop_of_two_pow_32_le (hn : 2 ^ 32 ≤ n) (ts : List WindowTick) :
    ∃ s, windowLoop proc target n W ts = .inl s := by
  have step (s : WindowLoop) (t : WindowTick) (_ : True) :
      ∃ s', windowPass proc target n W s t = .inl s' ∧ True := by
    obtain ⟨s', hp, -⟩ := windowPass_of_le proc target t (s := s)
      (show (s.offset + W) % 2 ^ 32 ≤ n from le_trans (Nat.mod_lt _ (by decide)).le hn)
    exact ⟨s', hp, trivial⟩
  obtain ⟨s, h, -⟩ := Loop.run_stays _ step trivial ts
  exact ⟨s, h⟩

/-- A file of `2 ^ 32` samples, scanned in the default windows of `10` ms at `23.04` MHz. -/
theorem windowLoop_of_two_pow_32_le_default :
    2 ^ 32 ≤ 2 ^ 32 ∧ ∃ s, windowLoop (SsbProcessor.new ConfigParser.defaults.ssb) none (2 ^ 32)
      230400 [⟨none, fun _ ↦ (false, Mib.zero)⟩, ⟨none, fun _ ↦ (false, Mib.zero)⟩] = .inl s :=
  ⟨le_rfl, windowLoop_of_two_pow_32_le _ _ le_rfl _⟩

/-- **A guard that wraps.** When half a window plus a window passes `2 ^ 32` and the wrapped
sum is at most `n`, the second pass scans the window at `W / 2`, which ends past `2 ^ 32`. -/
theorem windowLoop_wraps (hW : W < 2 ^ 32) (hn : W ≤ n) (hwrap : 2 ^ 32 ≤ W / 2 + W)
    (hle : W / 2 + W - 2 ^ 32 ≤ n) (t₁ t₂ : WindowTick) :
    ∃ s, windowLoop proc target n W [t₁, t₂] = .inl s ∧ s.scans = [(0, W), (W / 2, W)] := by
  obtain ⟨s₁, h₁, ho₁, hs₁⟩ := windowPass_of_le proc target t₁ (s := .init)
    (show (0 + W) % 2 ^ 32 ≤ n by omega)
  obtain ⟨s₂, h₂, -, hs₂⟩ := windowPass_of_le proc target t₂ (s := s₁)
    (show (s₁.offset + W) % 2 ^ 32 ≤ n by rw [ho₁]; simp [WindowLoop.init]; omega)
  refine ⟨s₂, ?_, ?_⟩
  · rw [windowLoop, Loop.run_cons_of_inl _ h₁, Loop.run_cons_of_inl _ h₂]
    rfl
  · rw [hs₂, hs₁, ho₁]
    simp [WindowLoop.init]
    omega

end Unbounded

/-! ### `main` -/

/-- The answers `main` gets before its window loop. -/
structure AnalyzerWorld where
  /-- The bytes of the input file, `none` when it does not open. -/
  file : Option (List UInt8)
  /-- `srsran_ssb_init` succeeded. -/
  ssbInit : Bool
  /-- `srsran_ssb_set_cfg`: the subframe size on success. -/
  setCfg : Option Nat

/-- How a run of the analyzer's `main` ends, or where it is when the answers run out. -/
inductive AnalyzerRun
  /-- `parse_args` returned `false`: the usage is printed and `main` returns `1`. -/
  | usage (err : Option String)
  /-- An exception escaped `main`: `std::terminate`. -/
  | aborted
  /-- `load_samples` failed: `return 1`. -/
  | loadFailed
  /-- `SSB processor init failed`: `return 1`. -/
  | initFailed
  /-- Still in the window loop. -/
  | scanning (s : WindowLoop)
  /-- Left the window loop; the summary is printed and `main` returns `0`. -/
  | finished (s : WindowLoop)

/-- `main` of the file analyzer. -/
def analyzerMain (stod : String → Option ℚ) (argv : List String) (w : AnalyzerWorld)
    (ts : List WindowTick) : AnalyzerRun :=
  match parseArgs stod argv with
  | .thrown => .aborted
  | .rejected err => .usage err
  | .accepted args =>
    match loadSamples w.file args.maxSamples with
    | none => .loadFailed
    | some samples =>
      let (ok, proc) := setUp args w.ssbInit w.setCfg
      if !ok then .initFailed
      else
        (windowLoop proc (targetOf args) samples.length (windowSamples args) ts).elim .scanning
          .finished

/-- With the arguments accepted, the file loaded and the processor set up, `main` is its window
loop. -/
theorem analyzerMain_of_ready {stod : String → Option ℚ} {argv : List String}
    {w : AnalyzerWorld} {args : AnalyzerArgs} {samples : List Cf32}
    (hp : parseArgs stod argv = .accepted args) (hl : loadSamples w.file args.maxSamples = some samples)
    (hi : (setUp args w.ssbInit w.setCfg).1 = true) (ts : List WindowTick) :
    analyzerMain stod argv w ts =
      (windowLoop (setUp args w.ssbInit w.setCfg).2 (targetOf args) samples.length
        (windowSamples args) ts).elim .scanning .finished := by
  rcases h : setUp args w.ssbInit w.setCfg with ⟨ok, proc⟩
  rw [h] at hi
  cases hi
  simp [analyzerMain, hp, hl, h]

/-- `main` on `-f file --window v`, for a file that opens and a processor that sets up, is its
window loop over the file's samples. -/
theorem analyzerMain_file_window (stod : String → Option ℚ) (prog file v : String)
    (hf : file.isEmpty = false) {x : Nat} (hv : stoul v = some x) {bytes : List UInt8}
    {samples : List Cf32} (hl : loadSamples (some bytes) 0 = some samples) (sfSz : Nat)
    (ts : List WindowTick) :
    ∃ proc,
      analyzerMain stod [prog, "-f", file, "--window", v] ⟨some bytes, true, some sfSz⟩ ts =
      (windowLoop proc none samples.length
        (windowSamples { AnalyzerArgs.defaults with inputFile := file, windowSizeMs := .ofNat x })
        ts).elim .scanning .finished :=
  ⟨_, analyzerMain_of_ready (parseArgs_window stod prog file v hf hv) hl (setUp_ok _ sfSz) ts⟩

theorem analyzerMain_window_unbounded :
    (∀ stod bytes sfSz ts, ∃ s,
      analyzerMain stod ["ssb_file_analyzer", "-f", "rec.fc32", "--window", "0"]
        ⟨some bytes, true, some sfSz⟩ ts = .scanning s) ∧
    ∀ stod sfSz t₁ t₂, ∃ s,
      analyzerMain stod ["ssb_file_analyzer", "-f", "rec.fc32", "--window", "124277"]
        ⟨some (encodeSamples (List.replicate 2863342080 Cf32.zero)), true, some sfSz⟩ [t₁, t₂] =
          .scanning s ∧
      (1431671040, 2863342080) ∈ s.scans := by
  constructor
  · intro stod bytes sfSz ts
    obtain ⟨samples, hl⟩ := Option.isSome_iff_exists.mp (loadSamples_isSome bytes 0)
    obtain ⟨proc, hm⟩ := analyzerMain_file_window stod "ssb_file_analyzer" "rec.fc32" "0" rfl
      (x := 0) (by decide) hl sfSz ts
    have hw : windowSamples { AnalyzerArgs.defaults with
        inputFile := "rec.fc32", windowSizeMs := .ofNat 0 } = 0 := by with_unfolding_all decide
    obtain ⟨s, hs, -⟩ := windowLoop_stuck proc none (W := 0) rfl (Nat.zero_le samples.length) ts
    exact ⟨s, by rw [hm, hw, hs]; rfl⟩
  · intro stod sfSz t₁ t₂
    have hl : loadSamples (some (encodeSamples (List.replicate 2863342080 Cf32.zero))) 0 =
        some (List.replicate 2863342080 Cf32.zero) := by
      rw [loadSamples_encodeSamples, show (0 : UInt32).toNat = 0 from rfl, if_neg (by omega)]
    obtain ⟨proc, hm⟩ := analyzerMain_file_window stod "ssb_file_analyzer" "rec.fc32" "124277"
      rfl (x := 124277) (by decide) hl sfSz [t₁, t₂]
    have hw : windowSamples { AnalyzerArgs.defaults with
        inputFile := "rec.fc32", windowSizeMs := .ofNat 124277 } = 2863342080 := by
      with_unfolding_all decide
    obtain ⟨s, hs, hsc⟩ := windowLoop_wraps proc none (n := 2863342080) (W := 2863342080)
      (by decide) le_rfl (by decide) (by decide) t₁ t₂
    exact ⟨s, by rw [hm, hw, List.length_replicate, hs]; rfl, by simp [hsc]⟩

end Analyzer

end SsbSpoofer
