import Mathlib.Data.Nat.Digits
import SsbSpoofer.ConfigFile
import SsbSpoofer.TxLoop

/-!
# The configuration loader

`ConfigParser::load_from_file` (`rf_handler.h`) fills the `Config` record from the map
`parse_config_file` returns, with one `get_value` per field, and answers what `validate`
answers. An empty map is rejected before any field is read:

```
template<typename T> static T get_value(map, key, default_value) {
  auto it = map.find(key);  if (it == map.end()) return default_value;
  std::istringstream iss(it->second);  T value;
  if (!(iss >> value)) return default_value;
  return value;
}
get_value<std::string>: it->second        get_value<bool>: "true", "True", "TRUE" or "1"
```

**Numbers.** `operator>>` into `uint32_t` and `uint64_t` is libstdc++'s `num_get` in the C
locale (`extractUnsigned`): white space is skipped, one sign is taken, then the longest run of
decimal digits. Whatever follows the digits stays in the stream, so `1e6` reads `1`; a minus
sign negates modulo `2 ^ w`; a number past `2 ^ w - 1` fails the stream and the field keeps its
default (`getValue_extractU32`). `std::stoul` of the analyzer (`Analyzer.stoul`) is the same
reading at 64 bits. The reads into `double` and `float` round decimal text to binary; like
`std::stod` for the analyzer they are a parameter (`FloatExtract`), and the fields they fill
are rationals.

**What is loaded.** The loader reads 35 keys and nothing else (`loadedConfig_congr`); a missing
key gives the default of `ConfigParser.defaults` (`loadedConfig_empty`). A file with no entry is
rejected although those defaults pass the validator (`loadFromFile_no_entries`). Every
configuration the validator accepts survives being written out as a document and loaded back
(`loadFromFile_configDocument`), given strings the format can hold and a text for each
floating-point value that the stream reads back.

**A negative burst limit.** `validate` does not look at `attack.max_bursts`, and the stream
reads `-N` as `2 ^ 64 - N`: the file is accepted, and the count test of the continuous loop
compares with `(int)max_bursts = -N`, so the attack sends nothing
(`loadFromFile_negative_max_bursts`).
-/

namespace SsbSpoofer

namespace ConfigFile

/-! ### `operator>>` -/

/-- The characters `isspace` accepts in the C locale. -/
def isSpace (c : Char) : Bool :=
  c == ' ' || c == '\t' || c == '\n' || c == '\x0b' || c == '\x0c' || c == '\r'

/-- The value of a string of decimal digits. -/
def decimalValue (ds : List Char) : Nat :=
  ds.foldl (fun acc d ↦ 10 * acc + (d.toNat - '0'.toNat)) 0

/-- `iss >> value` into an unsigned integer of `w` bits, as libstdc++'s `num_get` extracts it
in the C locale and base 10; `none` when the stream fails. -/
def extractUnsigned (w : Nat) (s : List Char) : Option Nat :=
  let cs := s.dropWhile isSpace
  let neg := cs.head? == some '-'
  let cs := if cs.head? == some '-' || cs.head? == some '+' then cs.tail else cs
  let ds := cs.takeWhile Char.isDigit
  if ds.isEmpty then none
  else if 2 ^ w ≤ decimalValue ds then none
  else some (if neg then (2 ^ w - decimalValue ds) % 2 ^ w else decimalValue ds)

/-- `iss >> value` into a `uint32_t`. -/
def extractU32 (s : List Char) : Option UInt32 := (extractUnsigned 32 s).map UInt32.ofNat

/-- `iss >> value` into a `uint64_t`. -/
def extractU64 (s : List Char) : Option UInt64 := (extractUnsigned 64 s).map UInt64.ofNat

/-- What `iss >> value` reads into a `double` and into a `float`, rounding included; `none`
when the stream fails. -/
structure FloatExtract where
  toDouble : List Char → Option ℚ
  toFloat : List Char → Option ℚ

/-! ### `get_value` -/

/-- `get_value<T>` for a `T` read by `operator>>`: the default for a missing key, or for a
value the stream cannot read. -/
def getValue {α : Type} (extract : List Char → Option α) (m : ConfigMap) (key : String)
    (defaultValue : α) : α :=
  match m.lookup key.toList with
  | none => defaultValue
  | some v => (extract v).getD defaultValue

/-- `get_value<std::string>`: the stored text. -/
def getValueString (m : ConfigMap) (key : String) (defaultValue : String) : String :=
  match m.lookup key.toList with
  | some v => String.mk v
  | none => defaultValue

/-- `get_value<bool>`: `true` for four spellings and `false` for any other text, whatever the
default. -/
def getValueBool (m : ConfigMap) (key : String) (defaultValue : Bool) : Bool :=
  match m.lookup key.toList with
  | none => defaultValue
  | some v => v == "true".toList || v == "True".toList || v == "TRUE".toList || v == "1".toList

/-! ### Reading a printed number -/

theorem decimalValue_concat (ds : List Char) (d : Char) :
    decimalValue (ds ++ [d]) = 10 * decimalValue ds + (d.toNat - '0'.toNat) := by
  simp only [decimalValue, List.foldl_append, List.foldl_cons, List.foldl_nil]

theorem digitChar_spec {d : Nat} (h : d < 10) :
    d.digitChar.isDigit = true ∧ d.digitChar.toNat - '0'.toNat = d := by
  revert d
  decide

/-- `Nat.toDigits`, one digit per step of its fuel: the digits of `n` go in front of what was
already written. -/
theorem toDigitsCore_ten (fuel n : Nat) (ds : List Char) (h : n < fuel) :
    ∃ D, Nat.toDigitsCore 10 fuel n ds = D ++ ds ∧ D ≠ [] ∧ (∀ c ∈ D, c.isDigit = true) ∧
      decimalValue D = n := by
  induction fuel generalizing n ds with
  | zero => omega
  | succ fuel ih =>
    have hd := digitChar_spec (Nat.mod_lt n (show 10 > 0 by omega))
    simp only [Nat.toDigitsCore]
    split_ifs with h0
    · refine ⟨[(n % 10).digitChar], rfl, List.cons_ne_nil _ _, by simpa using hd.1, ?_⟩
      simp only [decimalValue, List.foldl_cons, List.foldl_nil, hd.2]
      omega
    · obtain ⟨D, hD, hne, hdig, hval⟩ := ih (n / 10) ((n % 10).digitChar :: ds) (by omega)
      refine ⟨D ++ [(n % 10).digitChar], by simpa using hD, by simp, ?_, ?_⟩
      · simpa [or_imp, forall_and] using ⟨hdig, hd.1⟩
      · rw [decimalValue_concat, hval, hd.2]
        omega

/-- The decimal text of `n`, as `operator<<` writes it: digits only, and their value is `n`. -/
theorem toDigits_ten (n : Nat) :
    ∃ c D, Nat.toDigits 10 n = c :: D ∧ (∀ d ∈ c :: D, d.isDigit = true) ∧
      decimalValue (c :: D) = n := by
  obtain ⟨D, hD, hne, hdig, hval⟩ := toDigitsCore_ten (n + 1) n [] (by omega)
  obtain ⟨c, D, rfl⟩ := List.exists_cons_of_ne_nil hne
  exact ⟨c, D, by simpa using hD, hdig, hval⟩

/-- A digit is neither white space nor a sign. -/
theorem isDigit_not_space_sign {c : Char} (h : c.isDigit = true) :
    isSpace c = false ∧ c ≠ '-' ∧ c ≠ '+' := by
  simp only [Char.isDigit, Bool.and_eq_true, decide_eq_true_eq] at h
  simp only [isSpace, Bool.or_eq_false_iff, beq_eq_false_iff_ne, ne_eq]
  refine ⟨⟨⟨⟨⟨⟨?_, ?_⟩, ?_⟩, ?_⟩, ?_⟩, ?_⟩, ?_, ?_⟩ <;> rintro rfl <;> simp at h

/-- A digit is a value character other than a blank and a quote. -/
theorem isDigit_valueChar {c : Char} (h : c.isDigit = true) :
    isBlank c = false ∧ valueChar c = true ∧ c ≠ '"' := by
  simp only [Char.isDigit, Bool.and_eq_true, decide_eq_true_eq] at h
  simp only [isBlank, valueChar, Bool.or_eq_false_iff, Bool.and_eq_true, bne_iff_ne,
    beq_eq_false_iff_ne, ne_eq]
  refine ⟨⟨?_, ?_⟩, ⟨⟨?_, ?_⟩, ?_⟩, ?_⟩ <;> rintro rfl <;> simp at h

/-- **Reading a printed number.** After white space and an optional minus sign, the digits of
`n` followed by any text that does not start with a digit read as `n`, negated modulo `2 ^ w`
after the sign, when `n` fits in `w` bits; otherwise the stream fails. -/
theorem extractUnsigned_toDigits (w : Nat) {pre post : List Char} (hpre : ∀ c ∈ pre, isSpace c)
    (hpost : ∀ c ∈ post.head?, c.isDigit = false) (neg : Bool) (n : Nat) :
    extractUnsigned w (pre ++ ((if neg then ['-'] else []) ++ (Nat.toDigits 10 n ++ post))) =
      if n < 2 ^ w then some (if neg then (2 ^ w - n) % 2 ^ w else n) else none := by
  obtain ⟨c, D, hcD, hdig, hval⟩ := toDigits_ten n
  obtain ⟨hsp, hm, hp⟩ := isDigit_not_space_sign (hdig c (List.mem_cons_self _ _))
  have htw : (c :: (D ++ post)).takeWhile Char.isDigit = c :: D := by
    rw [← List.cons_append, List.takeWhile_append_of_pos hdig]
    rcases post with _ | ⟨d, post⟩
    · simp
    · simp [List.takeWhile_cons, hpost d rfl]
  have hms : isSpace '-' = false := rfl
  unfold extractUnsigned
  rw [List.dropWhile_append_of_pos hpre, hcD]
  cases neg <;> simp [List.dropWhile_cons, hsp, hms, hm, hp, htw, hval] <;> split_ifs <;>
    first | rfl | omega

theorem uint32_ofNat_mod (a : Nat) : UInt32.ofNat (a % 2 ^ 32) = UInt32.ofNat a := by
  apply UInt32.toNat.inj
  simp [UInt32.toNat, UInt32.ofNat]

/-- **`get_value<uint32_t>`.** A key whose text is white space, an optional minus sign, the
digits of `n` and any text that does not start with a digit loads `n`, wrapped modulo `2 ^ 32`
after the sign, when `n < 2 ^ 32`, and the default otherwise: `1e6` loads `1`, `-1` loads
`4294967295`, and `4294967296` loads the default. -/
theorem getValue_extractU32 {m : ConfigMap} {key : String} (defaultValue : UInt32)
    {pre post : List Char} (hpre : ∀ c ∈ pre, isSpace c)
    (hpost : ∀ c ∈ post.head?, c.isDigit = false) (neg : Bool) (n : Nat)
    (hk : m.lookup key.toList =
      some (pre ++ ((if neg then ['-'] else []) ++ (Nat.toDigits 10 n ++ post)))) :
    getValue extractU32 m key defaultValue =
      if n < 2 ^ 32 then UInt32.ofNat (if neg then 2 ^ 32 - n else n) else defaultValue := by
  simp only [getValue, hk, extractU32, extractUnsigned_toDigits 32 hpre hpost]
  split_ifs <;> first | rfl | exact uint32_ofNat_mod _

/-- `  -1e3` under `ssb.scs_khz` loads `4294967295`. -/
theorem getValue_scs_khz_minus_one_e3 :
    let m : ConfigMap := (∅ : ConfigMap).insert "ssb.scs_khz".toList "  -1e3".toList
    (∀ c ∈ "  ".toList, isSpace c) ∧ (∀ c ∈ "e3".toList.head?, c.isDigit = false) ∧
      m.lookup "ssb.scs_khz".toList =
        some ("  ".toList ++ ((if true then ['-'] else []) ++ (Nat.toDigits 10 1 ++ "e3".toList))) ∧
      getValue extractU32 m "ssb.scs_khz" 30 =
        if 1 < 2 ^ 32 then UInt32.ofNat (if true then 2 ^ 32 - 1 else 1) else 30 :=
  ⟨by decide, by decide, rfl,
    @getValue_extractU32 _ _ 30 "  ".toList "e3".toList (by decide) (by decide) true 1 rfl⟩

/-! ### Lines that are not entries -/

/-- Whether a line means a `key: value` entry. -/
def LineStep.isEntry : LineStep → Bool
  | .entry .. => true
  | _ => false

theorem LineStep.apply_snd_of_not_isEntry {s : LineStep} (h : s.isEntry = false)
    (st : List Char × ConfigMap) : (s.apply st).2 = st.2 := by
  cases s with
  | skip => rfl
  | header => rfl
  | entry => exact Bool.noConfusion h

/-- Lines none of which is an entry leave the map as it was. -/
theorem applyLines_snd_of_no_entry {lines : List (List Char)}
    (h : lines.all fun line ↦ !(lineMeaning line).isEntry) (st : List Char × ConfigMap) :
    (applyLines st lines).2 = st.2 := by
  induction lines generalizing st with
  | nil => rfl
  | cons line lines ih =>
    simp only [List.all_cons, Bool.and_eq_true, Bool.not_eq_true'] at h
    rw [applyLines_cons, ih h.2, LineStep.apply_snd_of_not_isEntry h.1]

end ConfigFile

namespace ConfigParser

open ConfigFile

/-! ### `load_from_file` -/

/-- The field reads of `load_from_file`, in the source's order and with its defaults. -/
def loadedConfig (x : FloatExtract) (m : ConfigMap) : Config where
  rf :=
    { deviceName := getValueString m "rf.device_name" "uhd"
      deviceArgs := getValueString m "rf.device_args" ""
      rxFreqHz := getValue x.toDouble m "rf.rx_freq_hz" 3510000000
      txFreqHz := getValue x.toDouble m "rf.tx_freq_hz" 3510000000
      srateHz := getValue x.toDouble m "rf.sample_rate_hz" 23040000
      rxGainDb := getValue x.toDouble m "rf.rx_gain_db" 40
      txGainDb := getValue x.toDouble m "rf.tx_gain_db" 60 }
  ssb :=
    { pattern := getValueString m "ssb.pattern" "C"
      scsKhz := getValue extractU32 m "ssb.scs_khz" 30
      periodicityMs := getValue extractU32 m "ssb.periodicity_ms" 20
      ssbFreqOffsetHz := getValue x.toDouble m "ssb.ssb_freq_offset_hz" 0
      betaPss := getValue x.toFloat m "ssb.beta_pss" 0
      betaSss := getValue x.toFloat m "ssb.beta_sss" 0
      betaPbch := getValue x.toFloat m "ssb.beta_pbch" 0
      betaPbchDmrs := getValue x.toFloat m "ssb.beta_pbch_dmrs" 0 }
  attack :=
    { targetPci := getValue extractU32 m "attack.target_pci" 0
      scanForTarget := getValueBool m "attack.scan_for_target" true
      modifyCellBarred := getValueBool m "attack.modify_cell_barred" true
      cellBarredValue := getValueBool m "attack.cell_barred_value" true
      modifyCoreset0Idx := getValueBool m "attack.modify_coreset0_idx" false
      coreset0IdxValue := getValue extractU32 m "attack.coreset0_idx_value" 15
      modifySs0Idx := getValueBool m "attack.modify_ss0_idx" false
      ss0IdxValue := getValue extractU32 m "attack.ss0_idx_value" 15
      modifyIntraFreqResel := getValueBool m "attack.modify_intra_freq_resel" false
      intraFreqReselValue := getValueBool m "attack.intra_freq_resel_value" false
      txPowerOffsetDb := getValue x.toDouble m "attack.tx_power_offset_db" 0
      continuousTx := getValueBool m "attack.continuous_tx" true
      maxBursts := getValue extractU64 m "attack.max_bursts" 0
      burstIntervalUs := getValue extractU32 m "attack.burst_interval_us" 500
      burstLengthMs := getValue extractU32 m "attack.burst_length_ms" 1 }
  operation :=
    { scanDurationSec := getValue x.toDouble m "operation.scan_duration_sec" 10
      logLevel := getValueString m "operation.log_level" "info"
      logFile := getValueString m "operation.log_file" "ssb_spoofer.log"
      saveSamples := getValueBool m "operation.save_samples" false
      samplesFile := getValueString m "operation.samples_file" "rx_samples.dat" }

/-- `ConfigParser::load_from_file`, given the file's contents (`none` when it cannot be
opened): the configuration it fills when it returns `true`, `none` when it returns `false`.
A line whose parsing would be undefined gives `none` too; no file has one
(`ConfigFile.parseConfigFile_eq`). -/
def loadFromFile (x : FloatExtract) (file : Option (List Char)) : Option Config :=
  match parseConfigFile file with
  | none => none
  | some m =>
    if m.entries.isEmpty then none
    else
      let config := loadedConfig x m
      if validate config then some config else none

/-- The keys `load_from_file` reads, in its order. -/
def loaderKeys : List String :=
  ["rf.device_name", "rf.device_args", "rf.rx_freq_hz", "rf.tx_freq_hz", "rf.sample_rate_hz",
    "rf.rx_gain_db", "rf.tx_gain_db", "ssb.pattern", "ssb.scs_khz", "ssb.periodicity_ms",
    "ssb.ssb_freq_offset_hz", "ssb.beta_pss", "ssb.beta_sss", "ssb.beta_pbch",
    "ssb.beta_pbch_dmrs", "attack.target_pci", "attack.scan_for_target",
    "attack.modify_cell_barred", "attack.cell_barred_value", "attack.modify_coreset0_idx",
    "attack.coreset0_idx_value", "attack.modify_ss0_idx", "attack.ss0_idx_value",
    "attack.modify_intra_freq_resel", "attack.intra_freq_resel_value",
    "attack.tx_power_offset_db", "attack.continuous_tx", "attack.max_bursts",
    "attack.burst_interval_us", "attack.burst_length_ms", "operation.scan_duration_sec",
    "operation.log_level", "operation.log_file", "operation.save_samples",
    "operation.samples_file"]

/-- **The loader reads only its keys.** Two maps that agree on the keys of `loaderKeys` load
the same configuration: an entry under any other key, a misspelt `rf.srate_hz` for instance,
changes nothing. -/
theorem loadedConfig_congr (x : FloatExtract) {m m' : ConfigMap}
    (h : ∀ k ∈ loaderKeys, m.lookup k.toList = m'.lookup k.toList) :
    loadedConfig x m = loadedConfig x m' := by
  simp only [loaderKeys, List.forall_mem_cons, List.not_mem_nil, IsEmpty.forall_iff,
    implies_true, and_true] at h
  simp only [loadedConfig, getValue, getValueString, getValueBool, h]

/-- The misspelt key `rf.srate_hz` is ignored. -/
example : loadedConfig ⟨fun _ ↦ none, fun _ ↦ none⟩
      ((∅ : ConfigMap).insert "rf.srate_hz".toList "1e6".toList) =
    loadedConfig ⟨fun _ ↦ none, fun _ ↦ none⟩ ∅ :=
  loadedConfig_congr _ (by decide)

/-- A key that is missing loads its default. -/
theorem loadedConfig_empty (x : FloatExtract) : loadedConfig x ∅ = defaults := rfl

/-! ### Files without entries -/

/-- **A file without entries is rejected**, and so is a missing file, although the
configuration the loader would fill from an empty map, the defaults, passes the validator. -/
theorem loadFromFile_no_entries (x : FloatExtract) :
    loadFromFile x none = none ∧ validate (loadedConfig x ∅) = true ∧
      ∀ content, (getLines content).all (fun line ↦ !(lineMeaning line).isEntry) →
        loadFromFile x (some content) = none := by
  refine ⟨rfl, loadedConfig_empty x ▸ validate_defaults, fun content h ↦ ?_⟩
  simp only [loadFromFile, parseConfigFile_eq, applyLines_snd_of_no_entry h]
  rfl

/-- A file of a header and a commented-out entry is rejected. -/
theorem loadFromFile_comment_only :
    let content := "rf:\n  # tx_gain_db: 50\n".toList
    (getLines content).all (fun line ↦ !(lineMeaning line).isEntry) ∧
      loadFromFile ⟨fun _ ↦ none, fun _ ↦ none⟩ (some content) = none :=
  ⟨by decide, (loadFromFile_no_entries _).2.2 _ (by decide)⟩

/-! ### Writing a configuration out -/

/-- What a value written bare must be: the bare case of `ConfigItem.wellFormed`. -/
def bareValue (v : List Char) : Bool :=
  !v.isEmpty && unpadded v && v.all valueChar && !(v.head? == some '"' && v.getLast? == some '"')

/-- A `std::string` field, written between quotes. -/
def stringItem (key : String) (s : String) : ConfigItem := .entry key.toList s.toList false

/-- An unsigned field, written in decimal. -/
def numberItem (key : String) (n : Nat) : ConfigItem := .entry key.toList (Nat.toDigits 10 n) true

/-- A `bool` field. -/
def flagItem (key : String) (b : Bool) : ConfigItem :=
  .entry key.toList (if b then "true".toList else "false".toList) true

/-- A floating-point field, written as `print` writes it. -/
def realItem (print : ℚ → List Char) (key : String) (q : ℚ) : ConfigItem :=
  .entry key.toList (print q) true

/-- A configuration written out as a document: one section per group, one entry per key the
loader reads. -/
def configDocument (print : ℚ → List Char) (c : Config) : List ConfigItem :=
  [.header "rf".toList,
    stringItem "device_name" c.rf.deviceName,
    stringItem "device_args" c.rf.deviceArgs,
    realItem print "rx_freq_hz" c.rf.rxFreqHz,
    realItem print "tx_freq_hz" c.rf.txFreqHz,
    realItem print "sample_rate_hz" c.rf.srateHz,
    realItem print "rx_gain_db" c.rf.rxGainDb,
    realItem print "tx_gain_db" c.rf.txGainDb,
  .header "ssb".toList,
    stringItem "pattern" c.ssb.pattern,
    numberItem "scs_khz" c.ssb.scsKhz.toNat,
    numberItem "periodicity_ms" c.ssb.periodicityMs.toNat,
    realItem print "ssb_freq_offset_hz" c.ssb.ssbFreqOffsetHz,
    realItem print "beta_pss" c.ssb.betaPss,
    realItem print "beta_sss" c.ssb.betaSss,
    realItem print "beta_pbch" c.ssb.betaPbch,
    realItem print "beta_pbch_dmrs" c.ssb.betaPbchDmrs,
  .header "attack".toList,
    numberItem "target_pci" c.attack.targetPci.toNat,
    flagItem "scan_for_target" c.attack.scanForTarget,
    flagItem "modify_cell_barred" c.attack.modifyCellBarred,
    flagItem "cell_barred_value" c.attack.cellBarredValue,
    flagItem "modify_coreset0_idx" c.attack.modifyCoreset0Idx,
    numberItem "coreset0_idx_value" c.attack.coreset0IdxValue.toNat,
    flagItem "modify_ss0_idx" c.attack.modifySs0Idx,
    numberItem "ss0_idx_value" c.attack.ss0IdxValue.toNat,
    flagItem "modify_intra_freq_resel" c.attack.modifyIntraFreqResel,
    flagItem "intra_freq_resel_value" c.attack.intraFreqReselValue,
    realItem print "tx_power_offset_db" c.attack.txPowerOffsetDb,
    flagItem "continuous_tx" c.attack.continuousTx,
    numberItem "max_bursts" c.attack.maxBursts.toNat,
    numberItem "burst_interval_us" c.attack.burstIntervalUs.toNat,
    numberItem "burst_length_ms" c.attack.burstLengthMs.toNat,
  .header "operation".toList,
    realItem print "scan_duration_sec" c.operation.scanDurationSec,
    stringItem "log_level" c.operation.logLevel,
    stringItem "log_file" c.operation.logFile,
    flagItem "save_samples" c.operation.saveSamples,
    stringItem "samples_file" c.operation.samplesFile]

/-- The `std::string` fields. -/
def stringFields (c : Config) : List String :=
  [c.rf.deviceName, c.rf.deviceArgs, c.ssb.pattern, c.operation.logLevel, c.operation.logFile,
    c.operation.samplesFile]

/-- The `double` fields. -/
def doubleFields (c : Config) : List ℚ :=
  [c.rf.rxFreqHz, c.rf.txFreqHz, c.rf.srateHz, c.rf.rxGainDb, c.rf.txGainDb,
    c.ssb.ssbFreqOffsetHz, c.attack.txPowerOffsetDb, c.operation.scanDurationSec]

/-- The `float` fields. -/
def floatFields (c : Config) : List ℚ :=
  [c.ssb.betaPss, c.ssb.betaSss, c.ssb.betaPbch, c.ssb.betaPbchDmrs]

/-- What writing `c` out needs: strings without `#`, CR or LF, and for each floating-point
value a bare text from `print` that the stream reads back as that value. -/
structure Writable (x : FloatExtract) (print : ℚ → List Char) (c : Config) : Prop where
  strings : ∀ s ∈ stringFields c, s.toList.all valueChar
  doubles : ∀ q ∈ doubleFields c, bareValue (print q) ∧ x.toDouble (print q) = some q
  floats : ∀ q ∈ floatFields c, bareValue (print q) ∧ x.toFloat (print q) = some q

theorem wellFormed_entry_bare (key v : List Char) :
    (ConfigItem.entry key v true).wellFormed = (key.all nameChar && unpadded key && bareValue v) := by
  simp only [ConfigItem.wellFormed, bareValue, Bool.not_true, Bool.false_or]
  cases v.isEmpty <;> cases unpadded v <;> cases v.all valueChar <;> simp

theorem wellFormed_entry_quoted (key v : List Char) :
    (ConfigItem.entry key v false).wellFormed =
      (key.all nameChar && unpadded key && v.all valueChar) := by
  simp [ConfigItem.wellFormed]

/-- The decimal text of a number is a bare value. -/
theorem bareValue_toDigits (n : Nat) : bareValue (Nat.toDigits 10 n) := by
  obtain ⟨c, D, hcD, hdig, -⟩ := toDigits_ten n
  have hv := fun d hd ↦ isDigit_valueChar (hdig d hd)
  have hc := hv c (List.mem_cons_self _ _)
  rw [hcD]
  rcases hl : (c :: D).getLast? with _ | l
  · simp at hl
  · have hlv := hv l (List.mem_of_getLast?_eq_some hl)
    simp [bareValue, unpadded, hl, hc.1, hc.2.2, hlv.1, List.all_eq_true.mpr fun d hd ↦ (hv d hd).2.1]

theorem bareValue_flag (b : Bool) : bareValue (if b then "true".toList else "false".toList) := by
  cases b <;> decide

/-- **The document is well formed** when the configuration is writable. -/
theorem configDocument_wellFormed {x : FloatExtract} {print : ℚ → List Char} {c : Config}
    (hw : Writable x print c) : ∀ i ∈ configDocument print c, i.wellFormed := by
  obtain ⟨hs, hd, hf⟩ := hw
  simp only [stringFields, doubleFields, floatFields, List.forall_mem_cons, List.not_mem_nil,
    IsEmpty.forall_iff, implies_true, and_true] at hs hd hf
  simp +decide only [configDocument, stringItem, numberItem, flagItem, realItem,
    List.forall_mem_cons, List.not_mem_nil, IsEmpty.forall_iff, implies_true, and_true,
    true_and, wellFormed_entry_bare, wellFormed_entry_quoted, bareValue_toDigits, bareValue_flag,
    hs, hd, hf]

theorem extractUnsigned_toDigits_self {w n : Nat} (h : n < 2 ^ w) :
    extractUnsigned w (Nat.toDigits 10 n) = some n := by
  simpa [h] using @extractUnsigned_toDigits w [] [] nofun nofun false n

theorem extractU32_toDigits (n : UInt32) : extractU32 (Nat.toDigits 10 n.toNat) = some n := by
  rw [extractU32, extractUnsigned_toDigits_self n.toNat_lt_size, Option.map_some']
  exact congrArg some (UInt32.toNat.inj (by simp [UInt32.toNat, UInt32.ofNat]))

theorem extractU64_toDigits (n : UInt64) : extractU64 (Nat.toDigits 10 n.toNat) = some n := by
  rw [extractU64, extractUnsigned_toDigits_self n.toNat_lt_size, Option.map_some']
  exact congrArg some (UInt64.toNat.inj (by simp [UInt64.toNat, UInt64.ofNat]))

theorem flag_read (b : Bool) :
    ((if b then "true".toList else "false".toList) == "true".toList ||
      (if b then "true".toList else "false".toList) == "True".toList ||
      (if b then "true".toList else "false".toList) == "TRUE".toList ||
      (if b then "true".toList else "false".toList) == "1".toList) = b := by
  cases b <;> decide

/-! #### Looking a written key up -/

/-- The entries of a document in order, each under the key it is stored under. -/
def documentEntries : Option (List Char) → List ConfigItem → List (List Char × List Char)
  | _, [] => []
  | _, .header name :: items => documentEntries (some name) items
  | sec, .entry key value _ :: items => (sectionKey sec key, value) :: documentEntries sec items

theorem lookup_foldl_of_not_mem {k : List Char} :
    ∀ (items : List ConfigItem) (sec : Option (List Char)) (m : ConfigMap),
      k ∉ (documentEntries sec items).map Prod.fst →
        (items.foldl documentStep (sec, m)).2.lookup k = m.lookup k
  | [], _, _, _ => rfl
  | .header name :: items, _, m, h => lookup_foldl_of_not_mem items (some name) m h
  | .entry key value _ :: items, sec, m, h => by
    simp only [documentEntries, List.map_cons, List.mem_cons, not_or] at h
    exact (lookup_foldl_of_not_mem items sec _ h.2).trans (AList.lookup_insert_ne h.1)

/-- With no key written twice, every entry of a document is what its key finds. -/
theorem lookup_foldl_of_mem {k v : List Char} :
    ∀ (items : List ConfigItem) (sec : Option (List Char)) (m : ConfigMap),
      ((documentEntries sec items).map Prod.fst).Nodup → (k, v) ∈ documentEntries sec items →
        (items.foldl documentStep (sec, m)).2.lookup k = some v
  | .header name :: items, _, m, hn, h => lookup_foldl_of_mem items (some name) m hn h
  | .entry key value _ :: items, sec, m, hn, h => by
    simp only [documentEntries, List.map_cons, List.nodup_cons, List.mem_cons,
      Prod.mk.injEq] at hn h
    rcases h with ⟨rfl, rfl⟩ | h
    · exact (lookup_foldl_of_not_mem items sec _ hn.1).trans (AList.lookup_insert _)
    · exact lookup_foldl_of_mem items sec _ hn.2 h

theorem sectionKey_toList (s k : String) :
    sectionKey (some s.toList) k.toList = (s ++ "." ++ k).toList := by
  simp [sectionKey]

/-- The loader's keys are distinct: read as numbers in base 256 they are. -/
theorem loaderKeys_nodup : (loaderKeys.map String.toList).Nodup := by
  refine List.Nodup.of_map (fun k ↦ Nat.ofDigits 256 (k.map Char.toNat)) ?_
  rw [List.map_map]
  decide

/-- The document writes the loader's keys, in the loader's order. -/
theorem configDocument_keys (print : ℚ → List Char) (c : Config) :
    (documentEntries none (configDocument print c)).map Prod.fst =
      loaderKeys.map String.toList := by
  simp only [documentEntries, configDocument, stringItem, numberItem, flagItem, realItem,
    List.map_cons, List.map_nil, sectionKey_toList, String.reduceAppend, loaderKeys]

/-- A map holding every entry of the document loads the configuration back. -/
theorem loadedConfig_of_entries {x : FloatExtract} {print : ℚ → List Char} {c : Config}
    (hw : Writable x print c) {m : ConfigMap}
    (hm : ∀ p ∈ documentEntries none (configDocument print c), m.lookup p.1 = some p.2) :
    loadedConfig x m = c := by
  obtain ⟨-, hd, hf⟩ := hw
  simp only [doubleFields, floatFields, List.forall_mem_cons, List.not_mem_nil,
    IsEmpty.forall_iff, implies_true, and_true] at hd hf
  simp only [documentEntries, configDocument, stringItem, numberItem, flagItem, realItem,
    sectionKey_toList, String.reduceAppend, List.forall_mem_cons, List.not_mem_nil,
    IsEmpty.forall_iff, implies_true, and_true] at hm
  simp only [loadedConfig, getValue, getValueString, getValueBool, hm, extractU32_toDigits,
    extractU64_toDigits, flag_read, hd, hf, Option.getD_some]
  rfl

/-- The document's map holds each field's text under the key the loader reads it from. -/
theorem loadedConfig_configDocument {x : FloatExtract} {print : ℚ → List Char} {c : Config}
    (hw : Writable x print c) : loadedConfig x (documentMap (configDocument print c)) = c :=
  loadedConfig_of_entries hw fun _ hp ↦
    lookup_foldl_of_mem _ none ∅ ((configDocument_keys print c).symm ▸ loaderKeys_nodup) hp

/-- **Round trip.** Every configuration the validator accepts, written out as a document with
LF line ends, loads back as itself: each key the loader reads is written once, under its
section; numbers are read back by the stream, flags by `get_value<bool>`, strings verbatim,
and no default replaces a written value. -/
theorem loadFromFile_configDocument (x : FloatExtract) (print : ℚ → List Char) {c : Config}
    (hv : validate c = true) (hw : Writable x print c) :
    loadFromFile x (some (renderDocument ['\n'] (configDocument print c))) = some c := by
  have hwf := configDocument_wellFormed hw
  have hm : parseConfigFile (some (renderDocument ['\n'] (configDocument print c))) =
      some (documentMap (configDocument print c)) := by
    rw [parseConfigFile_eq, getLines_renderDocument hwf]
    exact congrArg (some ∘ Prod.snd) (applyLines_render hwf (show none ≠ some [] from nofun) ∅)
  simp only [loadFromFile, hm, loadedConfig_configDocument hw, hv]
  rfl

/-- A reader of whole numbers and the decimal printer write the defaults out and read them
back. -/
theorem loadFromFile_configDocument_defaults :
    let read : List Char → Option ℚ := fun s ↦ (extractUnsigned 64 s).map fun n ↦ ((n : ℤ) : ℚ)
    let x : FloatExtract := ⟨read, read⟩
    let print : ℚ → List Char := fun q ↦ Nat.toDigits 10 q.num.toNat
    validate defaults = true ∧ Writable x print defaults ∧
      loadFromFile x (some (renderDocument ['\n'] (configDocument print defaults))) =
        some defaults := by
  intro read x print
  have hw : Writable x print defaults := ⟨by decide, by decide, by decide⟩
  exact ⟨validate_defaults, hw, loadFromFile_configDocument x print validate_defaults hw⟩

/-! ### A negative burst limit -/

/-- What `load_from_file` returns when it succeeds is the record it filled from the map. -/
theorem loadFromFile_eq {x : FloatExtract} {file : Option (List Char)} {m : ConfigMap}
    {c : Config} (hm : parseConfigFile file = some m) (hc : loadFromFile x file = some c) :
    c = loadedConfig x m := by
  simp only [loadFromFile, hm] at hc
  split_ifs at hc
  exact (Option.some.inj hc).symm

/-- **A negative burst limit.** A file whose `attack.max_bursts` reads `-N`, `0 < N ≤ 2 ^ 31`,
loads the limit `2 ^ 64 - N`, which the validator does not look at. The continuous loop compares
the burst count with `(int)max_bursts = -N` and leaves at its first loop head: the attack sends
nothing, whatever the transport and the clock answer. -/
theorem loadFromFile_negative_max_bursts (x : FloatExtract) {file : Option (List Char)}
    {m : ConfigMap} {N : Nat} (hN : 0 < N ∧ N ≤ 2 ^ 31) (hm : parseConfigFile file = some m)
    (hk : m.lookup "attack.max_bursts".toList = some ('-' :: Nat.toDigits 10 N)) {c : Config}
    (hc : loadFromFile x file = some c) :
    c.attack.maxBursts.toNat = 2 ^ 64 - N ∧
      ∀ buf nsamples startTime ts,
        (txLoop (txParams c buf nsamples startTime) ts).elim id Prod.snd = TxLoop.init := by
  have hread := @extractUnsigned_toDigits 64 [] [] nofun nofun true N
  simp only [List.nil_append, List.append_nil, if_true, List.singleton_append,
    show N < 2 ^ 64 by omega] at hread
  have hmax : c.attack.maxBursts.toNat = 2 ^ 64 - N := by
    simp only [loadFromFile_eq hm hc, loadedConfig, getValue, hk, extractU64, hread,
      Option.map_some', Option.getD_some, UInt64.toNat, UInt64.ofNat, BitVec.toNat_ofNat]
    omega
  refine ⟨hmax, fun buf nsamples startTime ts ↦ txLoop_of_belowLimit_zero ?_ ts⟩
  simp only [TxParams.belowLimit, txParams, Bool.or_eq_false_iff, beq_eq_false_iff_ne,
    decide_eq_false_iff_not, hmax, int32Of]
  constructor
  · intro h0
    simp [h0] at hmax
    omega
  · omega

/-- The file `attack:` / `  max_bursts: -1` loads the limit `2 ^ 64 - 1` and the attack sends
nothing. -/
theorem loadFromFile_max_bursts_minus_one :
    let x : FloatExtract := ⟨fun _ ↦ none, fun _ ↦ none⟩
    let file := some "attack:\n  max_bursts: -1\n".toList
    let m : ConfigMap := (∅ : ConfigMap).insert "attack.max_bursts".toList "-1".toList
    let c : Config :=
      { defaults with attack := { defaults.attack with maxBursts := 18446744073709551615 } }
    (0 < 1 ∧ 1 ≤ 2 ^ 31) ∧ parseConfigFile file = some m ∧
      m.lookup "attack.max_bursts".toList = some ('-' :: Nat.toDigits 10 1) ∧
      loadFromFile x file = some c ∧
      (c.attack.maxBursts.toNat = 2 ^ 64 - 1 ∧ ∀ buf nsamples startTime ts,
        (txLoop (txParams c buf nsamples startTime) ts).elim id Prod.snd = TxLoop.init) := by
  intro x file m c
  have hm : parseConfigFile file = some m := rfl
  have hk : m.lookup "attack.max_bursts".toList = some ('-' :: Nat.toDigits 10 1) := rfl
  have hc : loadFromFile x file = some c := by decide
  exact ⟨by decide, hm, hk, hc, loadFromFile_negative_max_bursts x (by decide) hm hk hc⟩

end ConfigParser

end SsbSpoofer
