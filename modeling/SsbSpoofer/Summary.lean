import Mathlib.Data.Nat.Digits
import SsbSpoofer.Analyzer

/-!
# The analyzer's summary

After its window loop the file analyzer prints its two counters and, when it found any SSB,
one block per cell, in PCI order:

```
std::map<uint32_t, std::vector<SsbSearchResult>> by_pci;
for (const auto& ssb : found_ssbs) by_pci[ssb.pci].push_back(ssb);
for (const auto& [pci, ssbs] : by_pci) {
  ... avg_snr += ssb.snr_db; ... avg_snr /= ssbs.size(); ... ssbs[0].ssb_idx ...
}
```

**The map.** `std::map` keeps its keys in increasing order, and `operator[]` inserts an empty
vector under a key it does not hold. `PciMap` is the map as its list of entries, with the
order as a field, and `pushBack` is `by_pci[k].push_back(r)` on it.

**What the summary says** (`summaryBlocks_by_pci`): one block per cell among the found results,
in increasing PCI order; the block of a cell is computed from all its results, in the order
they were found; `ssbs[0]` is never taken on an empty vector and `/= ssbs.size()` never divides
by zero. The averages use the `float` operations of `FloatArith`, a parameter: their rounding
is not modelled, and what is proved holds for every choice of it.

**In the analyzer** (`analyzerMain_report`): the counts of the blocks add up to the `SSBs found`
line, modulo the `uint32_t` wrap of `ssb_count`, and with `--pci` the summary is a single block,
of that cell.
-/

namespace SsbSpoofer

namespace Analyzer

/-! ### `std::map<uint32_t, std::vector<SsbSearchResult>>` -/

/-- The entries of `by_pci`, in key order. -/
abbrev PciEntries := List (UInt32 × List SsbSearchResult)

/-- `by_pci[k].push_back(r)`: `operator[]` looks the key up by `std::less` and, when the key
is new, inserts an empty vector in key order. -/
def pushBack (k : UInt32) (r : SsbSearchResult) : PciEntries → PciEntries
  | [] => [(k, [r])]
  | (k', rs) :: es =>
    if k' < k then (k', rs) :: pushBack k r es
    else if k < k' then (k, [r]) :: (k', rs) :: es
    else (k', rs ++ [r]) :: es

section PushBack

variable {k : UInt32} {r : SsbSearchResult}

/-- `std::less<uint32_t>` is a strict total order: keys neither below nor above each other are
equal. -/
theorem eq_of_not_lt_of_not_lt {a b : UInt32} (h₁ : ¬ a < b) (h₂ : ¬ b < a) : a = b := by
  rw [UInt32.lt_def, BitVec.lt_def] at h₁ h₂
  exact UInt32.toNat.inj (by show a.toBitVec.toNat = b.toBitVec.toNat; omega)

theorem mem_keys_pushBack {k' : UInt32} :
    ∀ {es : PciEntries}, k' ∈ (pushBack k r es).map Prod.fst ↔ k' = k ∨ k' ∈ es.map Prod.fst
  | [] => by simp [pushBack]
  | (k'', rs) :: es => by
    unfold pushBack
    split_ifs with hlt hgt
    · simp only [List.map_cons, List.mem_cons, mem_keys_pushBack, or_left_comm]
    · simp
    · simp [eq_of_not_lt_of_not_lt hlt hgt]

theorem not_mem_keys_of_lt {es : PciEntries} (h : ∀ e ∈ es, k < e.1) :
    k ∉ es.map Prod.fst := by
  simp only [List.mem_map, not_exists, not_and]
  exact fun e he hk ↦ UInt32.lt_irrefl k (hk ▸ h e he)

/-- `push_back` keeps `std::map`'s order. -/
theorem pushBack_sorted :
    ∀ {es : PciEntries}, es.Pairwise (fun a b ↦ a.1 < b.1) →
      (pushBack k r es).Pairwise fun a b ↦ a.1 < b.1
  | [], _ => List.pairwise_singleton _ _
  | (k', rs) :: es, h => by
    rw [List.pairwise_cons] at h
    unfold pushBack
    split_ifs with hlt hgt
    · refine List.pairwise_cons.mpr ⟨fun e he ↦ ?_, pushBack_sorted h.2⟩
      rcases mem_keys_pushBack.mp (List.mem_map_of_mem Prod.fst he) with hk | hm
      · exact hk ▸ hlt
      · obtain ⟨e', he', hk⟩ := List.mem_map.mp hm
        exact hk ▸ h.1 e' he'
    · exact List.pairwise_cons.mpr
        ⟨List.forall_mem_cons.mpr ⟨hgt, fun e he ↦ UInt32.lt_trans hgt (h.1 e he)⟩,
          List.pairwise_cons.mpr h⟩
    · exact List.pairwise_cons.mpr h

/-- An entry after `by_pci[k].push_back(r)` is an entry under another key, as it was, or the
entry of `k` with `r` at its end, whose vector was empty when `k` was new. -/
theorem mem_pushBack :
    ∀ {es : PciEntries}, es.Pairwise (fun a b ↦ a.1 < b.1) → ∀ {e}, e ∈ pushBack k r es →
      (e ∈ es ∧ e.1 ≠ k) ∨
        ∃ rs, ((k, rs) ∈ es ∨ rs = [] ∧ k ∉ es.map Prod.fst) ∧ e = (k, rs ++ [r])
  | [], _, _, he => .inr ⟨[], .inr ⟨rfl, by simp⟩, by simpa [pushBack] using he⟩
  | (k', rs) :: es, hs, e, he => by
    rw [List.pairwise_cons] at hs
    unfold pushBack at he
    split_ifs at he with hlt hgt
    · rcases List.mem_cons.mp he with rfl | he
      · exact .inl ⟨List.mem_cons_self _ _, fun h ↦ UInt32.lt_irrefl _ (h ▸ hlt)⟩
      · rcases mem_pushBack hs.2 he with ⟨hm, hne⟩ | ⟨rs', hm | ⟨rfl, hk⟩, rfl⟩
        · exact .inl ⟨List.mem_cons_of_mem _ hm, hne⟩
        · exact .inr ⟨rs', .inl (List.mem_cons_of_mem _ hm), rfl⟩
        · refine .inr ⟨[], .inr ⟨rfl, ?_⟩, rfl⟩
          simpa [hk] using fun h ↦ UInt32.lt_irrefl _ (h ▸ hlt)
    · have hlow : ∀ e ∈ (k', rs) :: es, k < e.1 :=
        List.forall_mem_cons.mpr ⟨hgt, fun e he ↦ UInt32.lt_trans hgt (hs.1 e he)⟩
      rcases List.mem_cons.mp he with rfl | he
      · exact .inr ⟨[], .inr ⟨rfl, not_mem_keys_of_lt hlow⟩, rfl⟩
      · exact .inl ⟨he, fun h ↦ UInt32.lt_irrefl _ (h ▸ hlow e he)⟩
    · obtain rfl := eq_of_not_lt_of_not_lt hlt hgt
      rcases List.mem_cons.mp he with rfl | he
      · exact .inr ⟨rs, .inl (List.mem_cons_self _ _), rfl⟩
      · exact .inl ⟨List.mem_cons_of_mem _ he, fun h ↦ UInt32.lt_irrefl _ (h ▸ hs.1 e he)⟩

/-- `push_back` adds one result to the map. -/
theorem sum_length_pushBack :
    ∀ {es : PciEntries}, ((pushBack k r es).map fun e ↦ e.2.length).sum =
      (es.map fun e ↦ e.2.length).sum + 1
  | [] => rfl
  | (k', rs) :: es => by
    unfold pushBack
    split_ifs
    · simp only [List.map_cons, List.sum_cons, sum_length_pushBack]
      omega
    · simp only [List.map_cons, List.sum_cons, List.length_singleton]
      omega
    · simp only [List.map_cons, List.sum_cons, List.length_append, List.length_singleton]
      omega

end PushBack

/-- `by_pci`: its entries in strictly increasing key order, as `std::map` keeps them. -/
structure PciMap where
  entries : PciEntries
  sorted : entries.Pairwise fun a b ↦ a.1 < b.1

/-- `by_pci[r.pci].push_back(r)`. -/
def PciMap.push (m : PciMap) (r : SsbSearchResult) : PciMap :=
  ⟨pushBack r.pci r m.entries, pushBack_sorted m.sorted⟩

/-- The grouping loop over `found_ssbs`, from an empty map. -/
def groupByPci (found : List SsbSearchResult) : PciMap :=
  found.foldl PciMap.push ⟨[], .nil⟩

/-! ### The blocks -/

/-- The `float` arithmetic of the averages: `+=` and `/=` by a `size_t`. -/
structure FloatArith where
  add : ℚ → ℚ → ℚ
  divSize : ℚ → Nat → ℚ

/-- What the summary prints for one cell. -/
structure PciBlock where
  pci : UInt32
  count : Nat
  avgSnr : ℚ
  avgRsrp : ℚ
  /-- `ssbs[0].ssb_idx`; `none` stands for a read past the end of the vector. -/
  ssbIdx : Option UInt32
deriving DecidableEq, Repr

/-- The block of the entry `(pci, ssbs)` of `by_pci`. -/
def pciBlock (f : FloatArith) (pci : UInt32) (ssbs : List SsbSearchResult) : PciBlock where
  pci := pci
  count := ssbs.length
  avgSnr := f.divSize (ssbs.foldl (fun acc ssb ↦ f.add acc ssb.snrDb) 0) ssbs.length
  avgRsrp := f.divSize (ssbs.foldl (fun acc ssb ↦ f.add acc ssb.rsrpDbm) 0) ssbs.length
  ssbIdx := ssbs.head?.map SsbSearchResult.ssbIdx

/-- The blocks of the summary, in the map's order. -/
def summaryBlocks (f : FloatArith) (found : List SsbSearchResult) : List PciBlock :=
  (groupByPci found).entries.map fun e ↦ pciBlock f e.1 e.2

/-- What `main` prints after its window loop: `windows`, `SSBs found`, and the blocks, or
`none` for `[!] no SSBs found` and the troubleshooting hints. -/
structure AnalyzerReport where
  windows : Nat
  ssbsFound : Nat
  summary : Option (List PciBlock)

/-- The report of the final state of the window loop. -/
def analyzerReport (f : FloatArith) (s : WindowLoop) : AnalyzerReport where
  windows := s.windowCount
  ssbsFound := s.ssbCount
  summary := if s.foundSsbs.isEmpty then none else some (summaryBlocks f s.foundSsbs)

/-! ### The grouping -/

/-- The found results of the cell `k`, in the order found. -/
def pciResults (found : List SsbSearchResult) (k : UInt32) : List SsbSearchResult :=
  found.filter fun r ↦ r.pci == k

theorem pciResults_concat (found : List SsbSearchResult) (r : SsbSearchResult) (k : UInt32) :
    pciResults (found ++ [r]) k = pciResults found k ++ if r.pci = k then [r] else [] := by
  by_cases h : r.pci = k <;> simp [pciResults, List.filter_append, h]

theorem pciResults_eq_nil {found : List SsbSearchResult} {k : UInt32} :
    pciResults found k = [] ↔ ¬ ∃ r ∈ found, r.pci = k := by
  simp [pciResults, List.filter_eq_nil_iff]

/-- The grouping invariant after the results `pre`: each entry holds all the results of its
key, the keys are the cells found, and no result is lost. -/
structure GroupInv (pre : List SsbSearchResult) (m : PciMap) : Prop where
  entry_eq : ∀ e ∈ m.entries, e.2 = pciResults pre e.1
  keys_iff : ∀ k, k ∈ m.entries.map Prod.fst ↔ ∃ r ∈ pre, r.pci = k
  total : (m.entries.map fun e ↦ e.2.length).sum = pre.length

/-- **Step lemma.** One `push_back` keeps the grouping invariant. -/
theorem groupInv_push {pre : List SsbSearchResult} {m : PciMap} (hi : GroupInv pre m)
    (r : SsbSearchResult) : GroupInv (pre ++ [r]) (m.push r) := by
  refine ⟨fun e he ↦ ?_, fun k ↦ ?_, ?_⟩
  · rcases mem_pushBack m.sorted he with ⟨hm, hne⟩ | ⟨rs, hrs, rfl⟩
    · simp [pciResults_concat, hi.entry_eq e hm, Ne.symm hne]
    · have hold : rs = pciResults pre r.pci := by
        rcases hrs with hm | ⟨rfl, hk⟩
        · exact hi.entry_eq _ hm
        · exact (pciResults_eq_nil.mpr ((hi.keys_iff _).not.mp hk)).symm
      simp [pciResults_concat, hold]
  · simp only [PciMap.push, mem_keys_pushBack, hi.keys_iff, List.mem_append, List.mem_singleton]
    constructor
    · rintro (rfl | ⟨r', hr', rfl⟩)
      exacts [⟨r, .inr rfl, rfl⟩, ⟨r', .inl hr', rfl⟩]
    · rintro ⟨r', hr' | rfl, rfl⟩
      exacts [.inr ⟨r', hr', rfl⟩, .inl rfl]
  · simp [PciMap.push, sum_length_pushBack, hi.total]

/-- **Run lemma.** The grouping loop leaves every found result in the entry of its cell. -/
theorem groupInv_groupByPci (found : List SsbSearchResult) : GroupInv found (groupByPci found) := by
  suffices ∀ pre m, GroupInv pre m → GroupInv (pre ++ found) (found.foldl PciMap.push m) from
    this [] _ ⟨nofun, by simp, rfl⟩
  induction found with
  | nil => simp
  | cons r rs ih =>
    intro pre m hi
    simpa using ih (pre ++ [r]) (m.push r) (groupInv_push hi r)

/-- Each entry of the map holds at least one result. -/
theorem GroupInv.entry_ne_nil {pre : List SsbSearchResult} {m : PciMap} (hi : GroupInv pre m)
    {e : UInt32 × List SsbSearchResult} (he : e ∈ m.entries) : e.2 ≠ [] := by
  rw [hi.entry_eq e he, Ne, pciResults_eq_nil, not_not]
  exact (hi.keys_iff e.1).mp (List.mem_map_of_mem Prod.fst he)

/-! ### The summary -/

theorem summaryBlocks_sorted (f : FloatArith) (found : List SsbSearchResult) :
    (summaryBlocks f found).Pairwise fun a b ↦ a.pci < b.pci :=
  List.pairwise_map.mpr (groupByPci found).sorted

theorem mem_summaryBlocks_pci {f : FloatArith} {found : List SsbSearchResult} (k : UInt32) :
    (∃ b ∈ summaryBlocks f found, b.pci = k) ↔ ∃ r ∈ found, r.pci = k := by
  rw [← (groupInv_groupByPci found).keys_iff k, List.mem_map]
  constructor
  · rintro ⟨_, hb, rfl⟩
    obtain ⟨e, he, rfl⟩ := List.mem_map.mp hb
    exact ⟨e, he, rfl⟩
  · rintro ⟨e, he, rfl⟩
    exact ⟨_, List.mem_map_of_mem _ he, rfl⟩

theorem mem_summaryBlocks {f : FloatArith} {found : List SsbSearchResult} {b : PciBlock}
    (hb : b ∈ summaryBlocks f found) :
    b = pciBlock f b.pci (pciResults found b.pci) ∧ 0 < b.count ∧ b.ssbIdx.isSome := by
  obtain ⟨e, he, rfl⟩ := List.mem_map.mp hb
  have hi := groupInv_groupByPci found
  have hne := hi.entry_ne_nil he
  refine ⟨?_, List.length_pos.mpr hne, ?_⟩
  · show pciBlock f e.1 e.2 = pciBlock f e.1 (pciResults found e.1)
    rw [← hi.entry_eq e he]
  simpa [pciBlock, List.head?_eq_none_iff] using hne

theorem sum_count_summaryBlocks (f : FloatArith) (found : List SsbSearchResult) :
    ((summaryBlocks f found).map PciBlock.count).sum = found.length := by
  simpa [summaryBlocks, pciBlock, Function.comp_def] using (groupInv_groupByPci found).total

/-- **The summary.** Whatever was found, the analyzer prints one block per cell among the found
results, in increasing PCI order; the block of a cell counts all its results and averages over
them in the order found, and shows the SSB index of the first: the vector it reads is never
empty, so `ssbs[0]` is in bounds and `/= ssbs.size()` never divides by zero. The counts add up
to the number of results. -/
theorem summaryBlocks_by_pci (f : FloatArith) (found : List SsbSearchResult) :
    (summaryBlocks f found).Pairwise (fun a b ↦ a.pci < b.pci) ∧
      (∀ k, (∃ b ∈ summaryBlocks f found, b.pci = k) ↔ ∃ r ∈ found, r.pci = k) ∧
      (∀ b ∈ summaryBlocks f found,
        b = pciBlock f b.pci (pciResults found b.pci) ∧ 0 < b.count ∧ b.ssbIdx.isSome) ∧
      ((summaryBlocks f found).map PciBlock.count).sum = found.length :=
  ⟨summaryBlocks_sorted f found, mem_summaryBlocks_pci, fun _ ↦ mem_summaryBlocks,
    sum_count_summaryBlocks f found⟩

/-! ### In the analyzer -/

/-- A run of `main` that finishes has left its window loop, searching for the cell of `--pci`
when one was given. -/
theorem analyzerMain_finished {stod : String → Option ℚ} {argv : List String}
    {w : AnalyzerWorld} {ts : List WindowTick} {args : AnalyzerArgs} {s : WindowLoop}
    (hp : parseArgs stod argv = .accepted args) (h : analyzerMain stod argv w ts = .finished s) :
    ∃ proc n W, windowLoop proc (targetOf args) n W ts = .inr s := by
  simp only [analyzerMain, hp] at h
  split at h
  · cases h
  · split_ifs at h
    rcases hw : windowLoop _ (targetOf args) _ _ ts with s' | s' <;> rw [hw] at h <;> cases h
    exact ⟨_, _, _, hw⟩

/-- Blocks in increasing PCI order, at least one and all of one cell, are exactly one. -/
theorem eq_singleton_of_pci_eq {blocks : List PciBlock}
    (hs : blocks.Pairwise fun a b ↦ a.pci < b.pci) {t : UInt32} (ht : ∀ b ∈ blocks, b.pci = t)
    (hne : blocks ≠ []) : ∃ b, blocks = [b] ∧ b.pci = t := by
  match blocks, hs with
  | [], _ => exact absurd rfl hne
  | [b], _ => exact ⟨b, rfl, ht b (List.mem_singleton_self b)⟩
  | a :: b :: _, hs =>
    have hab := List.rel_of_pairwise_cons hs (List.mem_cons_self b _)
    rw [ht a (List.mem_cons_self _ _), ht b (by simp)] at hab
    exact absurd hab (UInt32.lt_irrefl t)

/-- **The report.** For every run of the analyzer that finishes: with no SSB found it says `SSBs
found: 0`; otherwise the counts of its blocks add up to the `SSBs found` line, modulo the
`uint32_t` wrap of `ssb_count`, and with `--pci` the summary is a single block, of that cell. -/
theorem analyzerMain_report (f : FloatArith) {stod : String → Option ℚ} {argv : List String}
    {w : AnalyzerWorld} {ts : List WindowTick} {args : AnalyzerArgs} {s : WindowLoop}
    (hp : parseArgs stod argv = .accepted args) (h : analyzerMain stod argv w ts = .finished s) :
    ((analyzerReport f s).summary = none → (analyzerReport f s).ssbsFound = 0) ∧
      ∀ blocks, (analyzerReport f s).summary = some blocks →
        (blocks.map PciBlock.count).sum % 2 ^ 32 = (analyzerReport f s).ssbsFound ∧
        (args.scanForTarget = true → ∃ b, blocks = [b] ∧ b.pci = args.targetPci) := by
  obtain ⟨proc, n, W, hw⟩ := analyzerMain_finished hp h
  have hc : WindowCounts (targetOf args) s := by
    simpa [hw] using windowLoop_counts proc (targetOf args) n W ts
  simp only [analyzerReport]
  refine ⟨fun hn ↦ ?_, fun blocks hb ↦ ?_⟩
  · split_ifs at hn with he
    rw [hc.ssbCount_eq, List.isEmpty_iff.mp he, List.length_nil, Nat.zero_mod]
  · split_ifs at hb with he
    cases hb
    refine ⟨by rw [sum_count_summaryBlocks, hc.ssbCount_eq], fun ht ↦
      eq_singleton_of_pci_eq (summaryBlocks_sorted f _) (fun b hb ↦ ?_) ?_⟩
    · obtain ⟨r, hr, hk⟩ := (mem_summaryBlocks_pci b.pci).mp ⟨b, hb, rfl⟩
      exact hk ▸ (hc.found r hr).2 _ (by simp [targetOf, ht])
    · obtain ⟨r, hr⟩ := List.exists_mem_of_ne_nil _ (by simpa using he)
      obtain ⟨b, hb, -⟩ := (mem_summaryBlocks_pci r.pci).mpr ⟨r, hr, rfl⟩
      exact List.ne_nil_of_mem hb

/-- A ten-sample recording at `1000` samples per second, searched for the cell `7` with the
default window of `10 ms`: one window, one SSB found, and a summary of one block. -/
theorem analyzerMain_report_pci_seven :
    let stod : String → Option ℚ := fun _ ↦ some 1000
    let argv := ["ssb_file_analyzer", "-f", "rec.fc32", "-s", "1000", "--pci", "7"]
    let args : AnalyzerArgs := { AnalyzerArgs.defaults with
      inputFile := "rec.fc32", sampleRateHz := 1000, targetPci := 7, scanForTarget := true }
    let msg : PbchMsg := { PbchMsg.zero with crc := true }
    let tick : WindowTick := ⟨some ⟨7, msg, 0, 0⟩, fun _ ↦ (true, Mib.zero)⟩
    let s : WindowLoop := ⟨5, 1, 1, [⟨true, 7, 0, Mib.zero, msg, 0, 0⟩], [(0, 10)]⟩
    let f : FloatArith := ⟨fun a b ↦ a + b, fun q n ↦ q / n⟩
    parseArgs stod argv = .accepted args ∧
      analyzerMain stod argv ⟨some (encodeSamples (List.replicate 10 Cf32.zero)), true, some 0⟩
        [tick, tick] = .finished s ∧
      ((analyzerReport f s).summary = none → (analyzerReport f s).ssbsFound = 0) ∧
      ∀ blocks, (analyzerReport f s).summary = some blocks →
        (blocks.map PciBlock.count).sum % 2 ^ 32 = (analyzerReport f s).ssbsFound ∧
        (args.scanForTarget = true → ∃ b, blocks = [b] ∧ b.pci = args.targetPci) := by
  intro stod argv args msg tick s f
  have hp : parseArgs stod argv = .accepted args := by with_unfolding_all rfl
  have h : analyzerMain stod argv ⟨some (encodeSamples (List.replicate 10 Cf32.zero)), true,
      some 0⟩ [tick, tick] = .finished s := by with_unfolding_all rfl
  exact ⟨hp, h, analyzerMain_report f hp h⟩

end Analyzer

end SsbSpoofer
