import SsbSpoofer.Config

/-!
# Samples, the MIB and the SSB processor

The records the spoofer exchanges with the srsRAN physical layer, and `SsbProcessor`
(`ssb_processor.cc`): the search wrapper `scan`, `decode_mib`, the rule engine `modify_mib`,
`encode_mib` and `generate_ssb`. The srsRAN records are not part of the repository; they are
modelled with the fields the spoofer reads or copies, at the widths of
`srsran_mib_nr_t` and `srsran_pbch_msg_nr_t`.

The library itself is not modelled. A library call is an **answer supplied by the world**:
`scan` receives the outcome of `srsran_ssb_search` on its window and the unpacking function
in force for that call, `encodeMib` the packing function, `generateSsb` the waveform
`srsran_ssb_add` writes. Every theorem is therefore about every behaviour of the codec,
failures included.

## The rule engine

`modifyMib` is the part of the pipeline with no I/O. As one equation (`modifyMib_eq`), its
output is the input with `cell_barred` set under its flag and `coreset0_idx` and `ss0_idx`
overwritten by their rules, every other field untouched; the cell-barred rule writes `true`,
never the configured `cell_barred_value`. `config.h` lists `modify_intra_freq_resel` and
`intra_freq_resel_value` among the MIB modification flags and the loader fills them, but no
rule reads them: with only that rule enabled `modify_mib` changes nothing and reports that no
rule applied (`modifyMib_intra_freq_resel_ignored`).

## A failed set-up

`init` sets `initialized_` as soon as `srsran_ssb_init` succeeds and only then calls
`configure`. When `srsran_ssb_set_cfg` fails, `init` answers `false` but the flag stays set
(`init_false_initialized`): the processor refuses a second `init` and still scans. The RF
handler's `init` closes its device on each of its failures instead.
-/

namespace SsbSpoofer

/-- A `std::complex<float>` sample, held as the IEEE-754 single-precision bit patterns of its
real and imaginary parts. -/
structure Cf32 where
  re : UInt32
  im : UInt32
deriving DecidableEq, Repr

/-- `std::complex<float>(0.0f, 0.0f)`, the value of every sample of a new vector. -/
def Cf32.zero : Cf32 := ⟨0, 0⟩

/-- `srsran_subcarrier_spacing_t`. -/
inductive SubcarrierSpacing
  | khz15 | khz30 | khz60 | khz120 | khz240 | invalid
deriving DecidableEq, Repr

/-- `srsran_dmrs_sch_typeA_pos_t`. -/
inductive DmrsTypeAPos
  | pos2 | pos3
deriving DecidableEq, Repr

/-- `srsran_mib_nr_t`, the decoded master information block. -/
structure Mib where
  sfn : UInt32
  ssbIdx : UInt32
  hrf : Bool
  scsCommon : SubcarrierSpacing
  ssbOffset : UInt32
  dmrsTypeAPos : DmrsTypeAPos
  coreset0Idx : UInt32
  ss0Idx : UInt32
  cellBarred : Bool
  intraFreqReselection : Bool
  spare : UInt32
deriving DecidableEq, Repr

/-- The zero-initialised MIB of a value-initialised `SsbSearchResult`. -/
def Mib.zero : Mib :=
  ⟨0, 0, false, .khz15, 0, .pos2, 0, 0, false, false, 0⟩

/-- `srsran_pbch_msg_nr_t`, a PBCH message; the packed payload bits are opaque here. -/
structure PbchMsg where
  payload : List Bool
  sfn4lsb : UInt8
  ssbIdx : UInt8
  kSsbMsb : UInt8
  hrf : Bool
  crc : Bool
deriving DecidableEq, Repr

/-- The zero-initialised PBCH message. -/
def PbchMsg.zero : PbchMsg := ⟨[], 0, 0, 0, false, false⟩

/-- `srsran_ssb_search_res_t`: what a successful search call reports. -/
structure SearchRes where
  nId : UInt32
  pbchMsg : PbchMsg
  snrDb : ℚ
  rsrpDb : ℚ
deriving DecidableEq, Repr

/-- `SsbSearchResult`, the spoofer's own search record. -/
structure SsbSearchResult where
  found : Bool
  pci : UInt32
  ssbIdx : UInt32
  mib : Mib
  pbchMsg : PbchMsg
  snrDb : ℚ
  rsrpDbm : ℚ
deriving DecidableEq, Repr

/-- `SsbSearchResult result = {}`. -/
def SsbSearchResult.empty : SsbSearchResult :=
  ⟨false, 0, 0, Mib.zero, PbchMsg.zero, 0, 0⟩

/-- The object state of an `SsbProcessor`: the `initialized_` flag (set exactly when the
wrapped `srsran_ssb_t` has been allocated), the stored configuration and the codec's
subframe size `ssb_.sf_sz`. -/
structure SsbProcessor where
  initialized : Bool
  config : SsbConfig
  srateHz : ℚ
  centerFreqHz : ℚ
  sfSz : Nat
deriving DecidableEq, Repr

namespace SsbProcessor

/-! ### Set-up -/

/-- `SsbProcessor::configure`, given the answer of `srsran_ssb_set_cfg` (`some` subframe
size on success). -/
def configure (p : SsbProcessor) (config : SsbConfig) (srateHz centerFreqHz : ℚ)
    (setCfg : Option Nat) : Bool × SsbProcessor :=
  if !p.initialized then (false, p)
  else
    let p := { p with config := config, srateHz := srateHz, centerFreqHz := centerFreqHz }
    match setCfg with
    | none => (false, p)
    | some sfSz => (true, { p with sfSz := sfSz })

/-- `SsbProcessor::init`, given the answers of `srsran_ssb_init` and `srsran_ssb_set_cfg`. -/
def init (p : SsbProcessor) (config : SsbConfig) (srateHz centerFreqHz : ℚ)
    (ssbInit : Bool) (setCfg : Option Nat) : Bool × SsbProcessor :=
  if p.initialized then (false, p)
  else
    let p := { p with config := config, srateHz := srateHz, centerFreqHz := centerFreqHz }
    if !ssbInit then (false, p)
    else configure { p with initialized := true } config srateHz centerFreqHz setCfg

/-- `get_subframe_size`. -/
def getSubframeSize (p : SsbProcessor) : Nat :=
  if p.initialized then p.sfSz else 0

/-! ### Search and decoding -/

/-- `SsbProcessor::decode_mib`: the status and the record `srsran_pbch_msg_nr_mib_unpack`
leaves, for the unpacking function in force. -/
def decodeMib (unpack : PbchMsg → Bool × Mib) (msg : PbchMsg) : Bool × Mib :=
  unpack msg

/-- `SsbProcessor::scan`, given the outcome of `srsran_ssb_search` on the window (`none` when
the call fails) and the unpacking function. The status of `decode_mib` is discarded, as in
the source. -/
def scan (p : SsbProcessor) (target : Option UInt32) (search : Option SearchRes)
    (unpack : PbchMsg → Bool × Mib) : SsbSearchResult :=
  if !p.initialized then .empty
  else match search with
    | none => .empty
    | some res =>
      if !res.pbchMsg.crc then .empty
      else if target.isSome ∧ res.nId ≠ target.getD 0 then .empty
      else
        { found := true, pci := res.nId, ssbIdx := res.pbchMsg.ssbIdx.toUInt32,
          mib := (decodeMib unpack res.pbchMsg).2, pbchMsg := res.pbchMsg,
          snrDb := res.snrDb, rsrpDbm := res.rsrpDb }

/-- What a found result of `scan` carries: a CRC-valid message of a successful search, the
searched cell's id (the target, when one is set), and whatever the unpacking left. -/
theorem scan_found {p : SsbProcessor} {target : Option UInt32} {search : Option SearchRes}
    {unpack : PbchMsg → Bool × Mib} (h : (scan p target search unpack).found = true) :
    ∃ res, search = some res ∧ res.pbchMsg.crc = true ∧
      (∀ t, target = some t → res.nId = t) ∧
      scan p target search unpack =
        { found := true, pci := res.nId, ssbIdx := res.pbchMsg.ssbIdx.toUInt32,
          mib := (unpack res.pbchMsg).2, pbchMsg := res.pbchMsg,
          snrDb := res.snrDb, rsrpDbm := res.rsrpDb } := by
  unfold scan at h ⊢
  split_ifs at h ⊢ with hi
  · cases h
  · split at h
    · cases h
    · rename_i res
      split_ifs at h ⊢ with hc ht
      · cases h
      · cases h
      · refine ⟨res, rfl, by simpa using hc, fun t htg ↦ ?_, rfl⟩
        subst htg
        simpa using ht

/-- A search is reported found exactly when the call succeeded with a CRC-valid message of an
admissible cell. -/
theorem scan_found_iff (p : SsbProcessor) (target : Option UInt32) (search : Option SearchRes)
    (unpack : PbchMsg → Bool × Mib) :
    (scan p target search unpack).found = true ↔
      p.initialized = true ∧ ∃ res, search = some res ∧ res.pbchMsg.crc = true ∧
        ∀ t, target = some t → res.nId = t := by
  constructor
  · intro h
    obtain ⟨res, hs, hc, ht, -⟩ := scan_found h
    refine ⟨?_, res, hs, hc, ht⟩
    by_contra hi
    simp [scan, hi, SsbSearchResult.empty] at h
  · rintro ⟨hi, res, rfl, hc, ht⟩
    cases target <;> simp_all [scan, SsbSearchResult.empty]

/-! ### A failed set-up -/

/-- From an uninitialised processor, a failed `init` leaves `initialized_` set exactly when
`srsran_ssb_init` succeeded: a failure of `srsran_ssb_set_cfg` after it is reported and not
undone. -/
theorem init_false_initialized {p : SsbProcessor} (hp : p.initialized = false)
    (config : SsbConfig) (srateHz centerFreqHz : ℚ) (ssbInit : Bool) (setCfg : Option Nat)
    (h : (p.init config srateHz centerFreqHz ssbInit setCfg).1 = false) :
    (p.init config srateHz centerFreqHz ssbInit setCfg).2.initialized = ssbInit := by
  cases ssbInit <;> cases setCfg <;> simp_all [init, configure]

/-- An initialised processor refuses `init`, whatever the library would answer. -/
theorem init_of_initialized {p : SsbProcessor} (hp : p.initialized = true) (config : SsbConfig)
    (srateHz centerFreqHz : ℚ) (ssbInit : Bool) (setCfg : Option Nat) :
    p.init config srateHz centerFreqHz ssbInit setCfg = (false, p) := by
  simp [init, hp]

/-- A fresh processor whose `srsran_ssb_init` succeeds and whose `srsran_ssb_set_cfg` fails:
`init` answers `false` and leaves the processor initialised, its SSB object held, so a second
`init` is refused whatever the library answers and `scan` still searches with the codec the
failed configuration left. -/
theorem init_set_cfg_failure_leaves_initialized :
    (let q := (SsbProcessor.mk false ConfigParser.defaults.ssb 0 0 0).init
      ConfigParser.defaults.ssb 23040000 3510000000 true none
    q.1 = false ∧ q.2.initialized = true ∧
      (∀ config srateHz centerFreqHz ssbInit setCfg,
        q.2.init config srateHz centerFreqHz ssbInit setCfg = (false, q.2)) ∧
      ∀ res unpack, res.pbchMsg.crc = true → (q.2.scan none (some res) unpack).found = true) := by
  intro q
  have hf : q.1 = false := rfl
  have hi : q.2.initialized = true := init_false_initialized rfl _ _ _ true none hf
  exact ⟨hf, hi, fun _ _ _ _ _ ↦ init_of_initialized hi _ _ _ _ _,
    fun res _ hc ↦ (scan_found_iff _ _ _ _).mpr ⟨hi, res, rfl, hc, by simp⟩⟩

/-! ### The rule engine -/

/-- `SsbProcessor::modify_mib`: apply the enabled rules in the source's order and report
whether any was enabled. -/
def modifyMib (mib : Mib) (a : AttackConfig) : Mib × Bool :=
  let mib := if a.modifyCellBarred then { mib with cellBarred := true } else mib
  let mib := if a.modifyCoreset0Idx then { mib with coreset0Idx := a.coreset0IdxValue } else mib
  let mib := if a.modifySs0Idx then { mib with ss0Idx := a.ss0IdxValue } else mib
  (mib, a.modifyCellBarred || a.modifyCoreset0Idx || a.modifySs0Idx)

/-- **The rules, as one record update.** -/
theorem modifyMib_eq (mib : Mib) (a : AttackConfig) :
    modifyMib mib a =
      ({ mib with
          cellBarred := a.modifyCellBarred || mib.cellBarred
          coreset0Idx := if a.modifyCoreset0Idx then a.coreset0IdxValue else mib.coreset0Idx
          ss0Idx := if a.modifySs0Idx then a.ss0IdxValue else mib.ss0Idx },
        a.modifyCellBarred || a.modifyCoreset0Idx || a.modifySs0Idx) := by
  unfold modifyMib
  cases a.modifyCellBarred <;> cases a.modifyCoreset0Idx <;> cases a.modifySs0Idx <;> rfl

/-- **No intra-frequency rule.** With only `modify_intra_freq_resel` enabled and the override
`intra_freq_resel_value = true`, `modify_mib` returns every MIB unchanged and reports that no
rule applied: a MIB decoded with `intra_freq_reselection = false` keeps `false`. -/
theorem modifyMib_intra_freq_resel_ignored :
    (let a : AttackConfig := { ConfigParser.defaults.attack with
      modifyCellBarred := false, modifyCoreset0Idx := false, modifySs0Idx := false,
      modifyIntraFreqResel := true, intraFreqReselValue := true }
    ∀ mib : Mib, modifyMib mib a = (mib, false)) := by
  intro a mib
  rw [modifyMib_eq]
  rfl

/-! ### Encoding and generation -/

/-- `SsbProcessor::encode_mib`, given `srsran_pbch_msg_nr_mib_pack` (`none` on failure): the
packed message with the SSB index, stored in a `uint8_t`, and the half-frame bit. -/
def encodeMib (pack : Mib → Option PbchMsg) (mib : Mib) (ssbIdx : UInt32) (hrf : Bool) :
    Option PbchMsg :=
  (pack mib).map fun msg ↦ { msg with ssbIdx := ssbIdx.toUInt8, hrf := hrf }

/-- `SsbProcessor::generate_ssb`, given what `srsran_ssb_add` writes for a cell and a message
(`none` when it fails): the `sf_size` samples of the subframe, or `none` where the source
returns `0`. -/
def generateSsb (p : SsbProcessor) (pci : UInt32) (msg : PbchMsg)
    (ssbAdd : UInt32 → PbchMsg → Option (Nat → Cf32)) : Option (List Cf32) :=
  if !p.initialized then none
  else if p.getSubframeSize = 0 then none
  else (ssbAdd pci msg).map fun out ↦ (List.range p.getSubframeSize).map out

/-- A generated waveform fills the subframe, which is never empty. -/
theorem generateSsb_length {p : SsbProcessor} {pci : UInt32} {msg : PbchMsg}
    {ssbAdd : UInt32 → PbchMsg → Option (Nat → Cf32)} {base : List Cf32}
    (h : p.generateSsb pci msg ssbAdd = some base) :
    base.length = p.getSubframeSize ∧ 0 < base.length := by
  unfold generateSsb at h
  split_ifs at h with hi hz
  obtain ⟨out, -, rfl⟩ := Option.map_eq_some'.mp h
  simpa using Nat.pos_of_ne_zero hz

end SsbProcessor

end SsbSpoofer
