import SsbSpoofer.Burst
import SsbSpoofer.Scan
import SsbSpoofer.Loader

/-!
# The attack pipeline: `transmit_spoofed_ssb` and `main`

`main` parses its arguments, loads the configuration, initialises the RF handler and the SSB
processor, scans for the target cell and transmits the spoofed SSB; every stage that fails
ends the process with status `1`. `transmit_spoofed_ssb` rewrites and re-encodes the MIB,
generates one subframe, builds the burst (`SsbSpoofer.Burst`), starts the transmit stream,
and then either runs the continuous loop (`SsbSpoofer.TxLoop`) or makes one transmit call.

Each stage's answers come from the world, as in the modules below this one: the codec calls
of `transmit_spoofed_ssb` are fields of `TxWorld`, and `main` reads the contents of the
configuration file it was given, which `ConfigParser.loadFromFile` of `SsbSpoofer.Loader` turns
into the configuration, the device answers of the two `init` calls, and the worlds of the two
stages.

**The command line.** `main` runs exactly on a sequence of `-c f` and `--config f` pairs, with
the file of the last pair, `config.yaml` when there is none (`parseArgs_eq_run_iff`).

**On cleanup.** Every stream and file operation of a run is recorded as a `StreamOp`, and
`openAfter` replays such a record against the set of open streams, refusing a stop of a stream
that is not running. That every exit path leaves nothing open is a statement about the
record, `main_streamsClosed`; its one exception is the single-shot transmission that fails,
which returns without `stop_tx`.
-/

namespace SsbSpoofer

/-- A freshly constructed processor. Its `config_` member is default-initialised and written
by `init` before it is read; the model starts it at `c`. -/
def SsbProcessor.new (c : SsbConfig) : SsbProcessor := ⟨false, c, 0, 0, 0⟩

/-! ### `transmit_spoofed_ssb` -/

/-- The answers `transmit_spoofed_ssb` gets. -/
structure TxWorld where
  /-- `srsran_pbch_msg_nr_mib_pack`, `none` on failure. -/
  pack : Mib → Option PbchMsg
  /-- `srsran_ssb_add`: the subframe it writes for a cell and a message, `none` on failure. -/
  ssbAdd : UInt32 → PbchMsg → Option (Nat → Cf32)
  /-- The binary32 arithmetic of the normalisation. -/
  f32 : F32Ops
  /-- The steady clock when the continuous loop starts. -/
  startTime : Int
  /-- The answers of the continuous loop's passes. -/
  ticks : List TxTick
  /-- What the single-shot transmit call returns. -/
  singleSent : Int

/-- How `transmit_spoofed_ssb` ended. -/
inductive TxEnd
  | encodeFailed | generateFailed | txStartFailed
  | stopped (r : TxStop)
  | singleShotFailed | singleShotSent
deriving DecidableEq, Repr

/-- What a run of `transmit_spoofed_ssb` returns and the calls it made. -/
structure TxReturn where
  ok : Bool
  how : TxEnd
  /-- The transmit and sleep calls. -/
  calls : List TxAction
  ops : List StreamOp

/-- The end of `transmit_spoofed_ssb`, once the burst is built: start the transmit stream,
then run the continuous loop or make the one transmit call, and stop the stream. -/
def sendBurst (cfg : Config) (rf : RfHandler) (w : TxWorld) (buf : List Cf32) (nsamples : Nat) :
    Option TxReturn :=
  if !rf.startTx then some ⟨false, .txStartFailed, [], [.startTx false]⟩
  else if cfg.attack.continuousTx then
    match txLoop (txParams cfg buf nsamples w.startTime) w.ticks with
    | .inl _ => none
    | .inr (r, s) => some ⟨true, .stopped r, s.actions, [.startTx true, .stopTx]⟩
  else if w.singleSent < 0 then
    some ⟨false, .singleShotFailed, [.transmit buf nsamples true true], [.startTx true]⟩
  else
    some ⟨true, .singleShotSent, [.transmit buf nsamples true true], [.startTx true, .stopTx]⟩

/-- `transmit_spoofed_ssb`: rewrite and encode the MIB, generate the subframe, build the burst
and send it. `none` while the continuous loop's answers run out before it ends, and after a
copy that leaves the burst buffer, whose behaviour C++ leaves undefined. -/
def transmitSpoofedSsb (cfg : Config) (rf : RfHandler) (proc : SsbProcessor)
    (orig : SsbSearchResult) (w : TxWorld) : Option TxReturn :=
  let mib := (SsbProcessor.modifyMib orig.mib cfg.attack).1
  match SsbProcessor.encodeMib w.pack mib orig.ssbIdx orig.mib.hrf with
  | none => some ⟨false, .encodeFailed, [], []⟩
  | some msg =>
    match proc.generateSsb orig.pci msg w.ssbAdd with
    | none => some ⟨false, .generateFailed, [], []⟩
    | some base =>
      (buildBurst w.f32 base cfg.attack.burstLengthMs.toNat).bind fun b ↦
        sendBurst cfg rf w b.1 b.2

section Transmit

variable {cfg : Config} {rf : RfHandler} {proc : SsbProcessor} {orig : SsbSearchResult}
  {w : TxWorld} {ret : TxReturn}

/-- The four ways the end of `transmit_spoofed_ssb` returns. -/
theorem sendBurst_some {buf : List Cf32} {n : Nat} (h : sendBurst cfg rf w buf n = some ret) :
    (rf.startTx = false ∧ ret = ⟨false, .txStartFailed, [], [.startTx false]⟩) ∨
    (rf.startTx = true ∧ cfg.attack.continuousTx = true ∧ ∃ r s,
      txLoop (txParams cfg buf n w.startTime) w.ticks = .inr (r, s) ∧
      ret = ⟨true, .stopped r, s.actions, [.startTx true, .stopTx]⟩) ∨
    (rf.startTx = true ∧ cfg.attack.continuousTx = false ∧ w.singleSent < 0 ∧
      ret = ⟨false, .singleShotFailed, [.transmit buf n true true], [.startTx true]⟩) ∨
    (rf.startTx = true ∧ cfg.attack.continuousTx = false ∧ 0 ≤ w.singleSent ∧
      ret = ⟨true, .singleShotSent, [.transmit buf n true true], [.startTx true, .stopTx]⟩) := by
  unfold sendBurst at h
  split_ifs at h with hs hc hn
  · exact .inl ⟨by simpa using hs, (Option.some.inj h).symm⟩
  · split at h
    · cases h
    · exact .inr (.inl ⟨by simpa using hs, hc, _, _, ‹_›, (Option.some.inj h).symm⟩)
  · exact .inr (.inr (.inl ⟨by simpa using hs, by simpa using hc, hn,
      (Option.some.inj h).symm⟩))
  · exact .inr (.inr (.inr ⟨by simpa using hs, by simpa using hc, by omega,
      (Option.some.inj h).symm⟩))

/-- Once the MIB is encoded and the subframe generated, `transmit_spoofed_ssb` builds the burst
and sends it. -/
theorem transmitSpoofedSsb_eq_send {msg : PbchMsg} {base : List Cf32}
    (he : SsbProcessor.encodeMib w.pack (SsbProcessor.modifyMib orig.mib cfg.attack).1
      orig.ssbIdx orig.mib.hrf = some msg)
    (hg : proc.generateSsb orig.pci msg w.ssbAdd = some base) :
    transmitSpoofedSsb cfg rf proc orig w =
      (buildBurst w.f32 base cfg.attack.burstLengthMs.toNat).bind fun b ↦
        sendBurst cfg rf w b.1 b.2 := by
  simp only [transmitSpoofedSsb, he, hg]

/-- The ways `transmit_spoofed_ssb` returns: a failed encoding or generation, or the end of a
built burst's transmission. -/
theorem transmitSpoofedSsb_some (h : transmitSpoofedSsb cfg rf proc orig w = some ret) :
    ret = ⟨false, .encodeFailed, [], []⟩ ∨ ret = ⟨false, .generateFailed, [], []⟩ ∨
    ∃ msg base b, SsbProcessor.encodeMib w.pack (SsbProcessor.modifyMib orig.mib cfg.attack).1
        orig.ssbIdx orig.mib.hrf = some msg ∧ proc.generateSsb orig.pci msg w.ssbAdd = some base ∧
      buildBurst w.f32 base cfg.attack.burstLengthMs.toNat = some b ∧
      sendBurst cfg rf w b.1 b.2 = some ret := by
  unfold transmitSpoofedSsb at h
  dsimp only at h
  split at h
  · exact .inl (Option.some.inj h).symm
  · split at h
    · exact .inr (.inl (Option.some.inj h).symm)
    · obtain ⟨b, hb, hs⟩ := Option.bind_eq_some.mp h
      exact .inr (.inr ⟨_, _, b, ‹_›, ‹_›, hb, hs⟩)

/-- The burst law for a waveform `base` of `L` samples and `B` repeats: the waveform is not
empty, the `i`-th copy lands exactly on `[i * L, (i + 1) * L)` inside the buffer, and every
transmit call of `ret` is given the whole burst, `L * B` samples made of periods that are each
the waveform scaled by one common factor. -/
def BurstSent (f : F32Ops) (B : Nat) (base : List Cf32) (ret : TxReturn) : Prop :=
  let c := f.scaleFactor (List.replicate B base).flatten (base.length * B)
  0 < base.length ∧
    (∀ i < B, repeatOffset base.length i = i * base.length ∧
      repeatOffset base.length i + base.length ≤ base.length * B) ∧
    ∀ buf n sob eob, .transmit buf n sob eob ∈ ret.calls →
      n = base.length * B ∧ buf.length = n ∧
      buf = (List.replicate B (base.map (f.smul · c))).flatten

/-- **The burst that is sent**, whenever the subframe is generated and
`base_samples * burst_length_ms` does not wrap. -/
theorem transmitSpoofedSsb_burst {msg : PbchMsg} {base : List Cf32}
    (he : SsbProcessor.encodeMib w.pack (SsbProcessor.modifyMib orig.mib cfg.attack).1
      orig.ssbIdx orig.mib.hrf = some msg)
    (hg : proc.generateSsb orig.pci msg w.ssbAdd = some base)
    (hB : base.length * cfg.attack.burstLengthMs.toNat < 2 ^ 32)
    (h : transmitSpoofedSsb cfg rf proc orig w = some ret) :
    BurstSent w.f32 cfg.attack.burstLengthMs.toNat base ret := by
  unfold BurstSent
  intro c
  set B := cfg.attack.burstLengthMs.toNat
  refine ⟨(SsbProcessor.generateSsb_length hg).2, fun i hi ↦ repeatOffset_of_lt hB hi, ?_⟩
  rw [transmitSpoofedSsb_eq_send he hg, buildBurst_eq _ _ hB, Option.some_bind] at h
  have hlen : (List.replicate B (base.map (w.f32.smul · c))).flatten.length = base.length * B := by
    simp [List.sum_replicate, Nat.mul_comm]
  intro buf n sob eob hmem
  rcases sendBurst_some h with
    ⟨-, rfl⟩ | ⟨-, -, r, s, hl, rfl⟩ | ⟨-, -, -, rfl⟩ | ⟨-, -, -, rfl⟩
  · cases hmem
  · have hcalls := @txLoop_calls (txParams cfg
      (List.replicate B (base.map (w.f32.smul · c))).flatten (base.length * B) w.startTime) w.ticks
    rw [hl] at hcalls
    obtain ⟨rfl, rfl⟩ := hcalls _ hmem
    exact ⟨rfl, hlen, rfl⟩
  all_goals
    obtain ⟨rfl, rfl, -, -⟩ := by simpa using hmem
    exact ⟨rfl, hlen, rfl⟩

/-- A single shot at the default rate, whose one 1 ms subframe of 23040 samples goes out. -/
theorem transmitSpoofedSsb_burst_single_shot :
    let cfg : Config := { ConfigParser.defaults with
      attack := { ConfigParser.defaults.attack with continuousTx := false } }
    let proc := ((SsbProcessor.new cfg.ssb).init cfg.ssb 23040000 3510000000 true (some 23040)).2
    let f : F32Ops := ⟨fun a _ ↦ a, fun a _ ↦ a, fun a _ ↦ a, id, fun _ ↦ 0, fun _ ↦ 0⟩
    let w : TxWorld := ⟨fun _ ↦ some PbchMsg.zero, fun _ _ ↦ some fun _ ↦ Cf32.zero, f, 0, [],
      23040⟩
    let orig := SsbSearchResult.empty
    let msg : PbchMsg := { PbchMsg.zero with ssbIdx := 0, hrf := false }
    let base := (List.range 23040).map fun _ ↦ Cf32.zero
    let ret : TxReturn := ⟨true, .singleShotSent,
      [.transmit (List.replicate 1 (base.map (f.smul · (f.scaleFactor
        (List.replicate 1 base).flatten (base.length * 1))))).flatten (base.length * 1) true true],
      [.startTx true, .stopTx]⟩
    SsbProcessor.encodeMib w.pack (SsbProcessor.modifyMib orig.mib cfg.attack).1 orig.ssbIdx
        orig.mib.hrf = some msg ∧
      proc.generateSsb orig.pci msg w.ssbAdd = some base ∧
      base.length * cfg.attack.burstLengthMs.toNat < 2 ^ 32 ∧
      transmitSpoofedSsb cfg (RfHandler.new.init ⟨true, true, true⟩).2 proc orig w = some ret ∧
      BurstSent w.f32 cfg.attack.burstLengthMs.toNat base ret := by
  intro cfg proc f w orig msg base ret
  have he : SsbProcessor.encodeMib w.pack (SsbProcessor.modifyMib orig.mib cfg.attack).1
      orig.ssbIdx orig.mib.hrf = some msg := rfl
  have hg : proc.generateSsb orig.pci msg w.ssbAdd = some base := rfl
  have hB : base.length * cfg.attack.burstLengthMs.toNat < 2 ^ 32 := by
    simp only [base, List.length_map, List.length_range]
    decide
  have h : transmitSpoofedSsb cfg (RfHandler.new.init ⟨true, true, true⟩).2 proc orig w =
      some ret := by
    rw [transmitSpoofedSsb_eq_send he hg, buildBurst_eq _ _ hB]
    rfl
  exact ⟨he, hg, hB, h, transmitSpoofedSsb_burst he hg hB h⟩

/-- With `burst_length_ms = 0`, which `validate` accepts, the burst is empty and the single
transmit call is given no samples. -/
theorem transmitSpoofedSsb_empty_burst :
    let cfg : Config := { ConfigParser.defaults with
      attack := { ConfigParser.defaults.attack with continuousTx := false, burstLengthMs := 0 } }
    let proc := ((SsbProcessor.new cfg.ssb).init cfg.ssb 23040000 3510000000 true (some 23040)).2
    let f : F32Ops := ⟨fun a _ ↦ a, fun a _ ↦ a, fun a _ ↦ a, id, fun _ ↦ 0, fun _ ↦ 0⟩
    let w : TxWorld := ⟨fun _ ↦ some PbchMsg.zero, fun _ _ ↦ some fun _ ↦ Cf32.zero, f, 0, [], 0⟩
    ConfigParser.validate cfg = true ∧
      (transmitSpoofedSsb cfg (RfHandler.new.init ⟨true, true, true⟩).2 proc
        SsbSearchResult.empty w).map TxReturn.calls = some [.transmit [] 0 true true] := by
  intro cfg proc f w
  have he : SsbProcessor.encodeMib w.pack
      (SsbProcessor.modifyMib SsbSearchResult.empty.mib cfg.attack).1
      SsbSearchResult.empty.ssbIdx SsbSearchResult.empty.mib.hrf =
        some { PbchMsg.zero with ssbIdx := 0, hrf := false } := rfl
  have hg : proc.generateSsb SsbSearchResult.empty.pci
      { PbchMsg.zero with ssbIdx := 0, hrf := false } w.ssbAdd =
        some ((List.range 23040).map fun _ ↦ Cf32.zero) := rfl
  refine ⟨by decide, ?_⟩
  rw [transmitSpoofedSsb_eq_send he hg,
    buildBurst_eq _ _ (by simp only [List.length_map, List.length_range]; decide)]
  rfl

/-- A single shot whose transmit call fails returns without `stop_tx`: the transmit stream it
started is left running. -/
theorem transmitSpoofedSsb_single_shot_failure_leaves_tx :
    let cfg : Config := { ConfigParser.defaults with
      attack := { ConfigParser.defaults.attack with continuousTx := false } }
    let proc := ((SsbProcessor.new cfg.ssb).init cfg.ssb 23040000 3510000000 true (some 23040)).2
    let f : F32Ops := ⟨fun a _ ↦ a, fun a _ ↦ a, fun a _ ↦ a, id, fun _ ↦ 0, fun _ ↦ 0⟩
    let w : TxWorld := ⟨fun _ ↦ some PbchMsg.zero, fun _ _ ↦ some fun _ ↦ Cf32.zero, f, 0, [], -1⟩
    (transmitSpoofedSsb cfg (RfHandler.new.init ⟨true, true, true⟩).2 proc
        SsbSearchResult.empty w).map (fun r ↦ (r.how, r.ops, openAfter r.ops)) =
      some (.singleShotFailed, [.startTx true], some ⟨false, true, false⟩) := by
  intro cfg proc f w
  have he : SsbProcessor.encodeMib w.pack
      (SsbProcessor.modifyMib SsbSearchResult.empty.mib cfg.attack).1
      SsbSearchResult.empty.ssbIdx SsbSearchResult.empty.mib.hrf =
        some { PbchMsg.zero with ssbIdx := 0, hrf := false } := rfl
  have hg : proc.generateSsb SsbSearchResult.empty.pci
      { PbchMsg.zero with ssbIdx := 0, hrf := false } w.ssbAdd =
        some ((List.range 23040).map fun _ ↦ Cf32.zero) := rfl
  rw [transmitSpoofedSsb_eq_send he hg,
    buildBurst_eq _ _ (by simp only [List.length_map, List.length_range]; decide)]
  rfl

end Transmit

/-! ### `main` -/

/-- What the argument loop decides. -/
inductive ArgsResult
  | help
  | missingArgument
  | unknownOption (arg : String)
  | run (configFile : String)
deriving DecidableEq, Repr

/-- The argument loop of `main`, from the default file name. -/
def parseArgs : List String → String → ArgsResult
  | [], file => .run file
  | arg :: rest, _ =>
    if arg = "-h" ∨ arg = "--help" then .help
    else if arg = "-c" ∨ arg = "--config" then
      match rest with
      | f :: rest => parseArgs rest f
      | [] => .missingArgument
    else .unknownOption arg

/-- The command line of the pairs `(opt, f)`: `opt f` for each, in order. -/
def configArgs (pairs : List (String × String)) : List String := pairs.flatMap fun p ↦ [p.1, p.2]

theorem cons_eq_configArgs {arg : String} {rest : List String} {pairs : List (String × String)} :
    arg :: rest = configArgs pairs ↔ ∃ f ps, pairs = (arg, f) :: ps ∧ rest = f :: configArgs ps := by
  cases pairs with
  | nil => simp [configArgs]
  | cons p ps =>
    constructor
    · intro h
      obtain ⟨rfl, rfl⟩ := List.cons.inj h
      exact ⟨p.2, ps, rfl, rfl⟩
    · rintro ⟨f, ps', h, rfl⟩
      obtain ⟨rfl, rfl⟩ := List.cons.inj h
      rfl

theorem getD_last_cons (a f d : String) (ps : List (String × String)) :
    ((((a, f) :: ps).getLast?).map Prod.snd).getD d = (ps.getLast?.map Prod.snd).getD f := by
  rw [List.getLast?_cons]
  cases ps.getLast? <;> rfl

/-- A command line of `-c f` pairs that starts with `arg` has `-c` or `--config` there, and an
argument after it. -/
theorem head_of_configArgs {arg : String} {rest : List String} {pairs : List (String × String)}
    (hps : ∀ p ∈ pairs, p.1 = "-c" ∨ p.1 = "--config") (hp : arg :: rest = configArgs pairs) :
    (arg = "-c" ∨ arg = "--config") ∧ rest ≠ [] := by
  obtain ⟨f, ps, rfl, rfl⟩ := cons_eq_configArgs.mp hp
  exact ⟨hps _ (List.mem_cons_self _ _), List.cons_ne_nil _ _⟩

theorem parseArgs_cons (arg : String) (rest : List String) (d : String) :
    parseArgs (arg :: rest) d =
      if arg = "-h" ∨ arg = "--help" then .help
      else if arg = "-c" ∨ arg = "--config" then
        match rest with
        | f :: rest => parseArgs rest f
        | [] => .missingArgument
      else .unknownOption arg := by
  cases rest <;> rfl

/-- **The command line of `main`.** The argument loop runs exactly on a sequence of `-c f` and
`--config f` pairs, with the file of the last pair, `d` when there is none: the argument after
`-c` is taken whatever it is, and any other argument stops the program. -/
theorem parseArgs_eq_run_iff (args : List String) (d file : String) :
    parseArgs args d = .run file ↔
      ∃ pairs : List (String × String), (∀ p ∈ pairs, p.1 = "-c" ∨ p.1 = "--config") ∧
        args = configArgs pairs ∧ file = (pairs.getLast?.map Prod.snd).getD d := by
  induction args, d using parseArgs.induct with
  | case1 d =>
    refine ⟨fun h ↦ ⟨[], by simp, rfl, by cases h; rfl⟩, ?_⟩
    rintro ⟨_ | ⟨p, ps⟩, -, hp, rfl⟩
    · rfl
    · simp [configArgs] at hp
  | case2 arg rest d hh =>
    rw [parseArgs_cons, if_pos hh]
    refine ⟨nofun, fun ⟨_, hps, hp, _⟩ ↦ ?_⟩
    have hc := (head_of_configArgs hps hp).1
    rcases hh with rfl | rfl <;> simp at hc
  | case3 arg d hh hc f rest ih =>
    rw [parseArgs_cons, if_neg hh, if_pos hc]
    dsimp only
    rw [ih]
    constructor
    · rintro ⟨ps, hps, rfl, rfl⟩
      exact ⟨(arg, f) :: ps, List.forall_mem_cons.mpr ⟨hc, hps⟩, rfl,
        (getD_last_cons arg f d ps).symm⟩
    · rintro ⟨pairs, hps, hp, rfl⟩
      obtain ⟨f', ps, rfl, hr⟩ := cons_eq_configArgs.mp hp
      obtain ⟨rfl, rfl⟩ := List.cons.inj hr
      exact ⟨ps, fun p hp ↦ hps p (List.mem_cons_of_mem _ hp), rfl, getD_last_cons arg f d ps⟩
  | case4 arg d hh hc =>
    rw [parseArgs_cons, if_neg hh, if_pos hc]
    exact ⟨nofun, fun ⟨_, hps, hp, _⟩ ↦ absurd rfl (head_of_configArgs hps hp).2⟩
  | case5 arg rest d hh hc =>
    rw [parseArgs_cons, if_neg hh, if_neg hc]
    exact ⟨nofun, fun ⟨_, hps, hp, _⟩ ↦ absurd (head_of_configArgs hps hp).1 hc⟩

/-- The answers `main` gets. -/
structure MainWorld where
  /-- `argv` after the program name. -/
  args : List String
  /-- The contents of a file, `none` when it cannot be opened. -/
  files : String → Option (List Char)
  /-- The stream's reads into `double` and `float` when the configuration is loaded. -/
  extract : ConfigFile.FloatExtract
  rfInit : RfInitAnswers
  /-- `srsran_ssb_init` succeeded. -/
  ssbInit : Bool
  /-- `srsran_ssb_set_cfg`: the subframe size on success. -/
  setCfg : Option Nat
  scan : ScanWorld
  tx : TxWorld

/-- How `main` ended. -/
inductive MainEnd
  | help | missingArgument | unknownOption (arg : String)
  | configRejected | rfInitFailed | ssbInitFailed
  | scanFailed (how : ScanEnd)
  | transmitted (how : TxEnd)
deriving DecidableEq, Repr

/-- The exit status of a run of `main` and its stream and file operations. -/
structure MainReturn where
  code : Nat
  how : MainEnd
  ops : List StreamOp

/-- `main`. `none` while a stage's answers run out before it ends, or after undefined
behaviour. -/
def main (w : MainWorld) : Option MainReturn :=
  match parseArgs w.args "config.yaml" with
  | .help => some ⟨0, .help, []⟩
  | .missingArgument => some ⟨1, .missingArgument, []⟩
  | .unknownOption a => some ⟨1, .unknownOption a, []⟩
  | .run file =>
    match ConfigParser.loadFromFile w.extract (w.files file) with
    | none => some ⟨1, .configRejected, []⟩
    | some cfg =>
      let rf := RfHandler.new.init w.rfInit
      if !rf.1 then some ⟨1, .rfInitFailed, []⟩
      else
        let proc := (SsbProcessor.new cfg.ssb).init cfg.ssb cfg.rf.srateHz cfg.rf.rxFreqHz
          w.ssbInit w.setCfg
        if !proc.1 then some ⟨1, .ssbInitFailed, []⟩
        else (scanForSsb cfg rf.2 proc.2 w.scan).bind fun sr ↦
          if !sr.found then some ⟨1, .scanFailed sr.how, sr.ops⟩
          else (transmitSpoofedSsb cfg rf.2 proc.2 sr.result w.tx).map fun tr ↦
            ⟨if tr.ok then 0 else 1, .transmitted tr.how, sr.ops ++ tr.ops⟩

section Main

variable {w : MainWorld} {ret : MainReturn}

/-- The ways `main` returns: before the scan; after a scan that found nothing; or after a
transmission, with the exit status `transmit_spoofed_ssb`'s result decides. -/
theorem main_some (h : main w = some ret) :
    (ret = ⟨0, .help, []⟩ ∨ ret = ⟨1, .missingArgument, []⟩ ∨
      (∃ a, ret = ⟨1, .unknownOption a, []⟩) ∨ ret = ⟨1, .configRejected, []⟩ ∨
      ret = ⟨1, .rfInitFailed, []⟩ ∨ ret = ⟨1, .ssbInitFailed, []⟩) ∨
    ∃ cfg rf proc sr, scanForSsb cfg rf proc w.scan = some sr ∧
      ((sr.found = false ∧ ret = ⟨1, .scanFailed sr.how, sr.ops⟩) ∨
       (sr.found = true ∧ ∃ tr, transmitSpoofedSsb cfg rf proc sr.result w.tx = some tr ∧
         ret = ⟨if tr.ok then 0 else 1, .transmitted tr.how, sr.ops ++ tr.ops⟩)) := by
  unfold main at h
  split at h
  · exact .inl (.inl (Option.some.inj h).symm)
  · exact .inl (.inr (.inl (Option.some.inj h).symm))
  · exact .inl (.inr (.inr (.inl ⟨_, (Option.some.inj h).symm⟩)))
  · split at h
    · exact .inl (.inr (.inr (.inr (.inl (Option.some.inj h).symm))))
    · dsimp only at h
      cases hr : (RfHandler.new.init w.rfInit).1
      · rw [hr] at h
        exact .inl (.inr (.inr (.inr (.inr (.inl (Option.some.inj h).symm)))))
      rw [hr, if_neg (by decide)] at h
      cases hs : ((SsbProcessor.new _).init _ _ _ w.ssbInit w.setCfg).1
      · rw [hs] at h
        exact .inl (.inr (.inr (.inr (.inr (.inr (Option.some.inj h).symm)))))
      rw [hs, if_neg (by decide)] at h
      obtain ⟨sr, hsr, h⟩ := Option.bind_eq_some.mp h
      refine .inr ⟨_, _, _, sr, hsr, ?_⟩
      cases hf : sr.found <;> simp only [hf, Bool.not_false, Bool.not_true, Bool.false_eq_true,
        ↓reduceIte, Option.some.injEq, Option.map_eq_some'] at h
      · exact .inl ⟨rfl, h.symm⟩
      · obtain ⟨tr, htr, rfl⟩ := h
        exact .inr ⟨rfl, tr, htr, rfl⟩

/-- The stream operations of `transmit_spoofed_ssb`: none before the stream is started, the
start alone when it fails, and otherwise a stop after the start, except after a failed single
shot. -/
theorem transmitSpoofedSsb_ops {cfg : Config} {rf : RfHandler} {proc : SsbProcessor}
    {orig : SsbSearchResult} {tw : TxWorld} {tr : TxReturn}
    (h : transmitSpoofedSsb cfg rf proc orig tw = some tr) :
    tr.ops = [] ∨ tr.ops = [.startTx false] ∨ tr.ops = [.startTx true, .stopTx] ∨
      (tr.how = .singleShotFailed ∧ tr.ops = [.startTx true]) := by
  rcases transmitSpoofedSsb_some h with rfl | rfl | ⟨_, _, _, -, -, -, hs⟩
  · exact .inl rfl
  · exact .inl rfl
  · rcases sendBurst_some hs with
      ⟨-, rfl⟩ | ⟨-, -, _, _, -, rfl⟩ | ⟨-, -, -, rfl⟩ | ⟨-, -, -, rfl⟩
    · exact .inr (.inl rfl)
    · exact .inr (.inr (.inl rfl))
    · exact .inr (.inr (.inr ⟨rfl, rfl⟩))
    · exact .inr (.inr (.inl rfl))

/-- **Cleanup.** Every returning run of `main` but the one whose single shot fails stops the
streams it started and closes the sample file it opened, and stops nothing it did not start. -/
theorem main_streamsClosed (h : main w = some ret)
    (hs : ret.how ≠ .transmitted .singleShotFailed) : openAfter ret.ops = some OpenStreams.none := by
  rcases main_some h with ⟨rfl | rfl | ⟨a, rfl⟩ | rfl | rfl | rfl⟩ |
    ⟨_, _, _, sr, hsr, ⟨-, rfl⟩ | ⟨-, tr, htr, rfl⟩⟩
  all_goals try rfl
  · exact scanForSsb_streamsClosed hsr
  · rw [openAfter_append (scanForSsb_streamsClosed hsr)]
    rcases transmitSpoofedSsb_ops htr with h' | h' | h' | ⟨hf, -⟩
    iterate 3 (rw [h']; rfl)
    exact absurd (congrArg MainEnd.transmitted hf) hs

/-- A run cancelled in the scanning loop's first pass stops the receive stream it started. -/
theorem main_streamsClosed_scan_cancelled :
    (let f : F32Ops := ⟨fun a _ ↦ a, fun a _ ↦ a, fun a _ ↦ a, id, fun _ ↦ 0, fun _ ↦ 0⟩
    let w : MainWorld := ⟨[], fun _ ↦ some "operation:\n  save_samples: false\n".toList,
      ⟨fun _ ↦ none, fun _ ↦ none⟩, ⟨true, true, true⟩, true,
      some 23040, ⟨false, true, 0, [⟨false, 0, 0, fun _ ↦ Cf32.zero, fun _ ↦ none,
        fun _ ↦ (false, Mib.zero)⟩]⟩, ⟨fun _ ↦ none, fun _ _ ↦ none, f, 0, [], 0⟩⟩
    let ret : MainReturn := ⟨1, .scanFailed (.stopped .cancelled), [.startRx true, .stopRx]⟩
    main w = some ret ∧ ret.how ≠ .transmitted .singleShotFailed ∧
      openAfter ret.ops = some OpenStreams.none) := by
  intro f w ret
  have h : main w = some ret := by with_unfolding_all rfl
  have hs : ret.how ≠ .transmitted .singleShotFailed := nofun
  exact ⟨h, hs, main_streamsClosed h hs⟩

/-- The exit status the law below gives an ending: `1` for the failure of any stage, the scan's
included, and `0` after `--help`, a completed single shot, and a continuous loop stopped by a
cancellation or by its burst limit. The stop on the tenth consecutive transmit error is given
none. -/
def MainEnd.expectedStatus : MainEnd → Option Nat
  | .help => some 0
  | .transmitted (.stopped .cancelled) => some 0
  | .transmitted (.stopped .limitReached) => some 0
  | .transmitted (.stopped .tooManyErrors) => none
  | .transmitted .singleShotSent => some 0
  | _ => some 1

/-- **Exit status.** Every returning run of `main` exits with the status its ending is given:
a cancellation the scanning loop observes ends the scan without a find and exits `1`, one the
transmission loop observes ends the campaign and exits `0`. -/
theorem main_exit_status (h : main w = some ret) : ∀ c ∈ ret.how.expectedStatus, ret.code = c := by
  intro c hc
  rcases main_some h with ⟨rfl | rfl | ⟨a, rfl⟩ | rfl | rfl | rfl⟩ |
    ⟨_, _, _, sr, -, ⟨-, rfl⟩ | ⟨-, tr, htr, rfl⟩⟩
  all_goals try exact Option.mem_some_iff.mp hc
  obtain rfl | rfl | ⟨_, _, _, -, -, -, hs⟩ := transmitSpoofedSsb_some htr
  iterate 2 exact Option.mem_some_iff.mp hc
  obtain ⟨-, rfl⟩ | ⟨-, -, r, _, -, rfl⟩ | ⟨-, -, -, rfl⟩ | ⟨-, -, -, rfl⟩ :=
    sendBurst_some hs
  all_goals try cases r
  all_goals first | exact Option.mem_some_iff.mp hc | cases hc

/-- A run that ends in the scanning loop's first pass, cancelled. -/
theorem main_exit_status_scan_cancelled :
    let f : F32Ops := ⟨fun a _ ↦ a, fun a _ ↦ a, fun a _ ↦ a, id, fun _ ↦ 0, fun _ ↦ 0⟩
    let w : MainWorld := ⟨[], fun _ ↦ some "operation:\n  save_samples: false\n".toList,
      ⟨fun _ ↦ none, fun _ ↦ none⟩, ⟨true, true, true⟩, true,
      some 23040, ⟨false, true, 0, [⟨false, 0, 0, fun _ ↦ Cf32.zero, fun _ ↦ none,
        fun _ ↦ (false, Mib.zero)⟩]⟩, ⟨fun _ ↦ none, fun _ _ ↦ none, f, 0, [], 0⟩⟩
    let ret : MainReturn := ⟨1, .scanFailed (.stopped .cancelled), [.startRx true, .stopRx]⟩
    main w = some ret ∧ ∀ c ∈ ret.how.expectedStatus, ret.code = c := by
  intro f w ret
  have h : main w = some ret := by with_unfolding_all rfl
  exact ⟨h, main_exit_status h⟩

/-- A run of `main` whose scan finds a cell goes on to `transmit_spoofed_ssb` with the scan's
result, and exits as that decides. -/
theorem main_of_found {file : String} {cfg : Config} {res : SsbSearchResult}
    (hp : parseArgs w.args "config.yaml" = .run file)
    (hl : ConfigParser.loadFromFile w.extract (w.files file) = some cfg)
    (hr : (RfHandler.new.init w.rfInit).1 = true)
    (hs : ((SsbProcessor.new cfg.ssb).init cfg.ssb cfg.rf.srateHz cfg.rf.rxFreqHz w.ssbInit
      w.setCfg).1 = true)
    (hscan : (scanForSsb cfg (RfHandler.new.init w.rfInit).2 ((SsbProcessor.new cfg.ssb).init
      cfg.ssb cfg.rf.srateHz cfg.rf.rxFreqHz w.ssbInit w.setCfg).2 w.scan).map
        (fun sr ↦ (sr.found, sr.result)) = some (true, res)) :
    (main w).map (fun r ↦ (r.code, r.how)) =
      (transmitSpoofedSsb cfg (RfHandler.new.init w.rfInit).2 ((SsbProcessor.new cfg.ssb).init
        cfg.ssb cfg.rf.srateHz cfg.rf.rxFreqHz w.ssbInit w.setCfg).2 res w.tx).map
          fun tr ↦ (if tr.ok then 0 else 1, .transmitted tr.how) := by
  obtain ⟨sr, hsr, hfr⟩ := Option.map_eq_some'.mp hscan
  simp only [Prod.mk.injEq] at hfr
  simp only [main, hp, hl, hr, hs, hsr, hfr.1, hfr.2, Bool.not_true, Bool.false_eq_true,
    ↓reduceIte, Option.some_bind, Option.map_map]
  rfl

/-- The same cancellation, observed at the scanning loop's first head or at the transmission
loop's first head after ten 1 ms receives found the cell, ends the process with `1` and with
`0`. -/
theorem main_cancel_exit_differs :
    let f : F32Ops := ⟨fun a _ ↦ a, fun a _ ↦ a, fun a _ ↦ a, id, fun _ ↦ 0, fun _ ↦ 0⟩
    let tx : TxWorld := ⟨fun _ ↦ some PbchMsg.zero, fun _ _ ↦ some fun _ ↦ Cf32.zero, f, 0,
      [⟨false, 0, 0⟩], 0⟩
    let found : ScanTick := ⟨true, 0, 23040, fun _ ↦ Cf32.zero,
      fun _ ↦ some ⟨0, { PbchMsg.zero with crc := true }, 0, 0⟩, fun _ ↦ (true, Mib.zero)⟩
    let cancelled : ScanTick :=
      ⟨false, 0, 0, fun _ ↦ Cf32.zero, fun _ ↦ none, fun _ ↦ (true, Mib.zero)⟩
    let w : List ScanTick → MainWorld := fun ticks ↦ ⟨[],
      fun _ ↦ some "operation:\n  save_samples: false\n".toList, ⟨fun _ ↦ none, fun _ ↦ none⟩,
      ⟨true, true, true⟩, true, some 23040, ⟨false, true, 0, ticks⟩, tx⟩
    (main (w [cancelled])).map (fun r ↦ (r.code, r.how)) =
        some (1, .scanFailed (.stopped .cancelled)) ∧
      (main (w (List.replicate 10 found))).map (fun r ↦ (r.code, r.how)) =
        some (0, .transmitted (.stopped .cancelled)) := by
  intro f tx found cancelled w
  refine ⟨by with_unfolding_all decide, ?_⟩
  let res : SsbSearchResult := ⟨true, 0, 0, Mib.zero, { PbchMsg.zero with crc := true }, 0, 0⟩
  let proc := ((SsbProcessor.new ConfigParser.defaults.ssb).init ConfigParser.defaults.ssb
    ConfigParser.defaults.rf.srateHz ConfigParser.defaults.rf.rxFreqHz true (some 23040)).2
  have hscan : (scanForSsb ConfigParser.defaults (RfHandler.new.init ⟨true, true, true⟩).2 proc
      ⟨false, true, 0, List.replicate 10 found⟩).map (fun sr ↦ (sr.found, sr.result)) =
        some (true, res) := by
    with_unfolding_all decide
  rw [@main_of_found (w (List.replicate 10 found)) "config.yaml" ConfigParser.defaults _ rfl rfl rfl
    rfl hscan]
  dsimp only [w]
  rw [@transmitSpoofedSsb_eq_send ConfigParser.defaults _ proc res tx
      { PbchMsg.zero with ssbIdx := 0, hrf := false } _ rfl rfl,
    buildBurst_eq _ _ (by simp only [List.length_map, List.length_range]; decide)]
  rfl

end Main

end SsbSpoofer
