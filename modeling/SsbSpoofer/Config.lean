import Mathlib.Algebra.Order.Ring.Rat
import SsbSpoofer.Basic

/-!
# The configuration record and its validation

`config.h` of the spoofer: the four parameter groups and `ConfigParser::validate`. Fixed-width
fields keep their C++ width (`UInt32`, `UInt64`); `double` and `float` fields are modelled as
rationals, which is exact for every comparison the validator makes. Only the fields
`ConfigParser::load_from_file` fills are kept: `SsbConfig::f_offset_hz` and
`AttackConfig::tx_power_db` are never written by the loader and never read by the modelled
code.

`validate` prints one message per failed check and answers whether none failed; the model
keeps the messages as data (`validateMessages`), so the check is the emptiness of that list.
What the validator does **not** look at matters as much as what it rejects: the burst
control fields and the modification flags pass through unchecked (`validateMessages` lists
every check), which is why the transmission loop's laws are stated for every `uint64_t` burst
limit and every `uint32_t` burst length.
-/

namespace SsbSpoofer

/-- RF front-end parameters. -/
structure RfConfig where
  deviceName : String
  deviceArgs : String
  txFreqHz : ℚ
  rxFreqHz : ℚ
  srateHz : ℚ
  txGainDb : ℚ
  rxGainDb : ℚ
deriving DecidableEq, Repr

/-- SSB parameters handed to the codec. -/
structure SsbConfig where
  pattern : String
  scsKhz : UInt32
  periodicityMs : UInt32
  ssbFreqOffsetHz : ℚ
  betaPss : ℚ
  betaSss : ℚ
  betaPbch : ℚ
  betaPbchDmrs : ℚ
deriving DecidableEq, Repr

/-- Attack parameters: the target, the MIB modification rules and the burst control. -/
structure AttackConfig where
  targetPci : UInt32
  scanForTarget : Bool
  modifyCoreset0Idx : Bool
  modifySs0Idx : Bool
  modifyCellBarred : Bool
  modifyIntraFreqResel : Bool
  coreset0IdxValue : UInt32
  ss0IdxValue : UInt32
  cellBarredValue : Bool
  intraFreqReselValue : Bool
  txPowerOffsetDb : ℚ
  continuousTx : Bool
  /-- Maximum number of bursts, `0` for unlimited. -/
  maxBursts : UInt64
  /-- Delay between bursts in microseconds. -/
  burstIntervalUs : UInt32
  /-- Length of each burst in milliseconds, i.e. in repeats of the one-subframe waveform. -/
  burstLengthMs : UInt32
deriving DecidableEq, Repr

/-- Operational parameters. -/
structure OperationalConfig where
  scanDurationSec : ℚ
  logLevel : String
  logFile : String
  saveSamples : Bool
  samplesFile : String
deriving DecidableEq, Repr

/-- The complete configuration. -/
structure Config where
  rf : RfConfig
  ssb : SsbConfig
  attack : AttackConfig
  operation : OperationalConfig
deriving DecidableEq, Repr

namespace ConfigParser

/-- The SSB patterns the validator accepts. -/
def ssbPatterns : List String := ["A", "B", "C", "D", "E"]

/-- The messages `validate` prints, in the order of its checks. -/
def validateMessages (c : Config) : List String :=
  (if c.rf.srateHz ≤ 0 then ["[!] invalid sample rate"] else []) ++
  (if c.rf.rxFreqHz ≤ 0 ∨ c.rf.txFreqHz ≤ 0 then ["[!] invalid frequency"] else []) ++
  (if c.ssb.pattern ∉ ssbPatterns then ["[!] invalid SSB pattern (need A/B/C/D/E)"] else []) ++
  (if c.ssb.scsKhz ≠ 15 ∧ c.ssb.scsKhz ≠ 30 then ["[!] invalid SCS (need 15 or 30 kHz)"]
    else []) ++
  (if c.attack.targetPci > 1007 then ["[!] invalid PCI (max 1007)"] else []) ++
  (if c.attack.coreset0IdxValue > 15 then ["[!] invalid CORESET0 idx (max 15)"] else []) ++
  (if c.attack.ss0IdxValue > 15 then ["[!] invalid SS0 idx (max 15)"] else [])

/-- The defaults `load_from_file` falls back to for every missing key. -/
def defaults : Config where
  rf := { deviceName := "uhd", deviceArgs := "", rxFreqHz := 3510000000, txFreqHz := 3510000000,
          srateHz := 23040000, rxGainDb := 40, txGainDb := 60 }
  ssb := { pattern := "C", scsKhz := 30, periodicityMs := 20, ssbFreqOffsetHz := 0,
           betaPss := 0, betaSss := 0, betaPbch := 0, betaPbchDmrs := 0 }
  attack := { targetPci := 0, scanForTarget := true, modifyCellBarred := true,
              cellBarredValue := true, modifyCoreset0Idx := false, coreset0IdxValue := 15,
              modifySs0Idx := false, ss0IdxValue := 15, modifyIntraFreqResel := false,
              intraFreqReselValue := false, txPowerOffsetDb := 0, continuousTx := true,
              maxBursts := 0, burstIntervalUs := 500, burstLengthMs := 1 }
  operation := { scanDurationSec := 10, logLevel := "info", logFile := "ssb_spoofer.log",
                 saveSamples := false, samplesFile := "rx_samples.dat" }

/-- `ConfigParser::validate`: no check failed. -/
def validate (c : Config) : Bool := (validateMessages c).isEmpty

/-- Every default passes the validator's checks. -/
theorem validate_defaults : validate defaults = true := by
  decide

end ConfigParser

end SsbSpoofer
