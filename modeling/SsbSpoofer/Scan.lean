import SsbSpoofer.Rf
import SsbSpoofer.SampleFile

/-!
# Acquisition: the scanning loop of `scan_for_ssb`

`scan_for_ssb` accumulates 1 ms receive chunks into a 10 ms search window and hands every full
window to `SsbProcessor::scan`, under a wall-clock deadline and the cancellation flag:

```
while (running) {
  if (elapsed_sec > config.operation.scan_duration_sec) break;
  int nrecv = rf.receive(rx_buffer.data(), samples_per_iter);
  if (nrecv <= 0) { sleep 10 ms; continue; }
  ... sink write ...
  uint32_t samples_to_copy = std::min((uint32_t)nrecv, search_buffer_size - search_buffer_pos);
  memcpy(&search_buffer[search_buffer_pos], rx_buffer.data(), samples_to_copy * 8);
  search_buffer_pos += samples_to_copy;
  if (search_buffer_pos >= search_buffer_size) { result = ssb_proc.scan(...); ... }
}
```

One pass reads the answers of `ScanTick`: the flag and the steady clock at the loop head, the
receive call (its count and the samples it wrote) and the codec calls a full window makes.
The cursor arithmetic is the code's `uint32_t` arithmetic, wrap included, and the copy is a
write into the window at the cursor; that neither wraps nor leaves the window is a theorem
(`scanInv_step`), not an assumption of the model.

Every receive and every search is recorded as a `ScanEvent`. The window law is a law of that
record (`EventOk`): each copy lands at the cursor, inside the window, and reads no more of
the receive buffer than the call wrote; each search sees a full window made of the first
`search_buffer_size` samples of the chunks received since the previous search. The received
chunks are those of the passes the loop ran, in order (`scanLoop_window_law`), and a returning
run stops at the first pass whose head the flag or the deadline refuses, or whose search finds
the cell (`scanLoop_exit_record`, `scanForSsb_returns`, `scanForSsb_found`).

`samples_per_iter`, `search_buffer_size` and `elapsed_sec` are `double` values converted or
compared: `srate_hz * 0.001` is the product of `srate_hz` with the `double` nearest `0.001`,
rounded once more, and the model computes it so (`roundF64`), not as the exact thousandth.

The sample file receives every delivered chunk (`scanForSsb_sink_loads`), but the `File Sink
Summary` counts receive calls, not samples: `successful_receives * samples_per_iter` in
`uint32_t` (`scanForSsb_summary`).
-/

namespace SsbSpoofer

/-- What the world answers during one pass of the scanning loop. -/
structure ScanTick where
  /-- The cancellation flag, polled at the loop head. -/
  running : Bool
  /-- `steady_clock::now()` at the loop head, in nanoseconds. -/
  now : Int
  /-- The return value of `rf.receive`. -/
  nrecv : Int
  /-- The samples the call wrote into the receive buffer, by index. -/
  samples : Nat → Cf32
  /-- `srsran_ssb_search` on the window, should this pass search one. -/
  search : List Cf32 → Option SearchRes
  /-- `srsran_pbch_msg_nr_mib_unpack` in force for that search. -/
  unpack : PbchMsg → Bool × Mib

/-- The chunk a receive call delivered: the first `nrecv` samples of the receive buffer. -/
def ScanTick.chunk (t : ScanTick) : List Cf32 := (List.range t.nrecv.toNat).map t.samples

@[simp]
theorem ScanTick.length_chunk (t : ScanTick) : t.chunk.length = t.nrecv.toNat := by
  simp [ScanTick.chunk]

/-- A call the scanning loop makes. -/
inductive ScanEvent
  /-- A receive call that returned `nrecv ≤ 0`, followed by the 10 ms back-off. -/
  | retry (nrecv : Int)
  /-- A receive call that delivered `chunk`, of which `len` samples were copied into the
  window at `dst`. -/
  | received (chunk : List Cf32) (dst len : Nat)
  /-- `ssb_proc.scan(search_buffer, nsamples, target)` with the cursor at `cursor`. -/
  | searched (cursor : Nat) (window : List Cf32) (nsamples : Nat) (target : Option UInt32)

/-- What the scanning loop reads and never changes. The two sizes are `uint32_t`. -/
structure ScanParams where
  samplesPerIter : Nat
  searchBufferSize : Nat
  searchBufferSize_lt : searchBufferSize < 2 ^ 32
  /-- The target filter: `target_pci` when `scan_for_target` is set. -/
  target : Option UInt32
  scanDurationSec : ℚ
  /-- The steady clock after the stale-sample flush. -/
  startTime : Int
  /-- `save_samples && sample_file.is_open()`. -/
  sinkOn : Bool
  proc : SsbProcessor

/-- The scanning loop's variables; `sink` is what it has written to the sample file. -/
structure ScanLoop where
  pos : Nat
  window : List Cf32
  successfulReceives : Int
  sink : List UInt8
  result : SsbSearchResult
  events : List ScanEvent

/-- The variables before the first pass: an empty window of zeros, nothing written. -/
def ScanParams.initLoop (prm : ScanParams) : ScanLoop :=
  ⟨0, List.replicate prm.searchBufferSize Cf32.zero, 0, [], .empty, []⟩

/-- Why the scanning loop stopped. -/
inductive ScanStop
  | cancelled | timedOut | found
deriving DecidableEq, Repr

namespace ScanParams

variable (prm : ScanParams)

/-- `elapsed_sec > scan_duration_sec` at a loop head whose clock reads `now`: `elapsed_sec` is
the nanosecond count converted to `double` and divided by `1e9`. -/
def expired (now : Int) : Bool :=
  decide (prm.scanDurationSec < roundF64 (roundF64 (now - prm.startTime : Int) / 1000000000))

/-- `samples_to_copy`: the chunk, capped by the room left in the window (`uint32_t`). -/
def toCopy (pos : Nat) (nrecv : Int) : Nat :=
  min nrecv.toNat ((prm.searchBufferSize + 2 ^ 32 - pos) % 2 ^ 32)

/-- The loop head lets a pass through to its receive call. -/
def admits (t : ScanTick) : Prop := t.running = true ∧ prm.expired t.now = false

/-- The pass's work on a delivered chunk: count it, write it to the sink, and copy what fits
into the window at the cursor. -/
def accumulate (s : ScanLoop) (t : ScanTick) : ScanLoop :=
  let len := prm.toCopy s.pos t.nrecv
  { s with
    successfulReceives := int32Of (s.successfulReceives + 1)
    sink := if prm.sinkOn then s.sink ++ encodeSamples t.chunk else s.sink
    window := writeAt s.window s.pos (t.chunk.take len)
    pos := (s.pos + len) % 2 ^ 32
    events := s.events ++ [.received t.chunk s.pos len] }

/-- A full window handed to `SsbProcessor::scan`; its result goes to the out-parameter. -/
def searchWindow (s : ScanLoop) (t : ScanTick) : ScanLoop :=
  { s with
    result := prm.proc.scan prm.target (t.search s.window) t.unpack
    events := s.events ++ [.searched s.pos s.window prm.searchBufferSize prm.target] }

end ScanParams

/-- The part of a pass after the loop-head checks: receive, accumulate, and search a full
window. `.inr` is a search that reported found. -/
def scanBody (prm : ScanParams) (s : ScanLoop) (t : ScanTick) : ScanLoop ⊕ ScanLoop :=
  if t.nrecv ≤ 0 then .inl { s with events := s.events ++ [.retry t.nrecv] }
  else
    let s := prm.accumulate s t
    if prm.searchBufferSize ≤ s.pos then
      let s := prm.searchWindow s t
      if s.result.found then .inr s else .inl { s with pos := 0 }
    else .inl s

/-- One pass of the scanning loop. -/
def scanPass (prm : ScanParams) (s : ScanLoop) (t : ScanTick) : ScanLoop ⊕ (ScanStop × ScanLoop) :=
  if !t.running then .inr (.cancelled, s)
  else if prm.expired t.now then .inr (.timedOut, s)
  else (scanBody prm s t).map id fun s ↦ (.found, s)

/-- The scanning loop over the answers of successive passes. -/
def scanLoop (prm : ScanParams) (ts : List ScanTick) : ScanLoop ⊕ (ScanStop × ScanLoop) :=
  Loop.run (scanPass prm) prm.initLoop ts

/-! ### The record of calls -/

/-- The chunks received since the last search, given the calls so far. -/
def pendingChunks (es : List ScanEvent) : List (List Cf32) :=
  es.foldl (fun acc e ↦ match e with
    | .retry _ => acc
    | .received c _ _ => acc ++ [c]
    | .searched .. => []) []

/-- The chunks of all receive calls so far. -/
def receivedChunks (es : List ScanEvent) : List (List Cf32) :=
  es.filterMap fun e ↦ match e with
    | .received c _ _ => some c
    | _ => none

section Record

variable (es : List ScanEvent)

@[simp]
theorem pendingChunks_nil : pendingChunks [] = [] := rfl

@[simp]
theorem pendingChunks_retry (r : Int) : pendingChunks (es ++ [.retry r]) = pendingChunks es := by
  simp [pendingChunks]

@[simp]
theorem pendingChunks_received (c : List Cf32) (dst len : Nat) :
    pendingChunks (es ++ [.received c dst len]) = pendingChunks es ++ [c] := by
  simp [pendingChunks]

@[simp]
theorem pendingChunks_searched (cur : Nat) (w : List Cf32) (n : Nat) (tgt : Option UInt32) :
    pendingChunks (es ++ [.searched cur w n tgt]) = [] := by
  simp [pendingChunks]

@[simp]
theorem receivedChunks_nil : receivedChunks [] = [] := rfl

@[simp]
theorem receivedChunks_retry (r : Int) : receivedChunks (es ++ [.retry r]) = receivedChunks es := by
  simp [receivedChunks]

@[simp]
theorem receivedChunks_received (c : List Cf32) (dst len : Nat) :
    receivedChunks (es ++ [.received c dst len]) = receivedChunks es ++ [c] := by
  simp [receivedChunks]

@[simp]
theorem receivedChunks_searched (cur : Nat) (w : List Cf32) (n : Nat) (tgt : Option UInt32) :
    receivedChunks (es ++ [.searched cur w n tgt]) = receivedChunks es := by
  simp [receivedChunks]

end Record

/-- What the window law asks of one call, given the calls before it: a copy lands at the
cursor (the length of the chunks since the last search), inside the window, and reads no more
of the receive buffer than the call delivered; a search sees a full window made of the first
`search_buffer_size` samples of the chunks since the last search. -/
def EventOk (prm : ScanParams) (pre : List ScanEvent) : ScanEvent → Prop
  | .retry _ => True
  | .received c dst len =>
    dst = (pendingChunks pre).flatten.length ∧ dst + len ≤ prm.searchBufferSize ∧ len ≤ c.length
  | .searched cur w n tgt =>
    cur = prm.searchBufferSize ∧ n = prm.searchBufferSize ∧
      w = (pendingChunks pre).flatten.take prm.searchBufferSize ∧ tgt = prm.target

/-- Every call of a record obeys the window law. -/
def TraceOk (prm : ScanParams) (es : List ScanEvent) : Prop :=
  ∀ pre e post, es = pre ++ e :: post → EventOk prm pre e

theorem TraceOk.nil (prm : ScanParams) : TraceOk prm [] := by
  intro pre e post h
  simp at h

theorem TraceOk.snoc {prm : ScanParams} {es : List ScanEvent} {e : ScanEvent}
    (h : TraceOk prm es) (he : EventOk prm es e) : TraceOk prm (es ++ [e]) := by
  intro pre e' post hs
  rcases List.eq_nil_or_concat post with rfl | ⟨post', x, rfl⟩
  · obtain ⟨rfl, h2⟩ := List.append_inj' hs rfl
    cases h2
    exact he
  · have hs' : es ++ [e] = (pre ++ e' :: post') ++ [x] := by simpa using hs
    exact h pre e' post' (List.append_inj' hs' rfl).1

/-! ### The window invariant -/

/-- With the cursor inside the window the `uint32_t` room does not wrap. -/
theorem ScanParams.toCopy_of_le (prm : ScanParams) {pos : Nat} (r : Int)
    (h : pos ≤ prm.searchBufferSize) :
    prm.toCopy pos r = min r.toNat (prm.searchBufferSize - pos) := by
  have := prm.searchBufferSize_lt
  simp only [ScanParams.toCopy]
  congr 1
  omega

/-- What every state of the loop satisfies, at a loop head or on leaving: the window law on its
record of calls, whose chunks are those of the positive receive answers `h`, and a sink
holding their bytes. -/
structure ScanRecord (prm : ScanParams) (h : List ScanTick) (s : ScanLoop) : Prop where
  trace : TraceOk prm s.events
  received : receivedChunks s.events = (h.filter fun t ↦ 0 < t.nrecv).map ScanTick.chunk
  sink : s.sink = if prm.sinkOn then encodeSamples (receivedChunks s.events).flatten else []

/-- The loop-head invariant, for the answers `h` of the passes so far. -/
structure ScanInv (prm : ScanParams) (h : List ScanTick) (s : ScanLoop) : Prop where
  pos_le : s.pos ≤ prm.searchBufferSize
  length_window : s.window.length = prm.searchBufferSize
  /-- The cursor is the number of samples received since the last search. -/
  pos_eq : s.pos = (pendingChunks s.events).flatten.length
  /-- Below the cursor the window holds exactly those samples. -/
  window_take : s.window.take s.pos = (pendingChunks s.events).flatten
  trace : TraceOk prm s.events
  /-- The chunks of the record are those of the positive receive answers. -/
  received : receivedChunks s.events = (h.filter fun t ↦ 0 < t.nrecv).map ScanTick.chunk
  /-- The sink holds their bytes. -/
  sink : s.sink = if prm.sinkOn then encodeSamples (receivedChunks s.events).flatten else []

theorem ScanInv.init (prm : ScanParams) : ScanInv prm [] prm.initLoop where
  pos_le := Nat.zero_le _
  length_window := List.length_replicate _ _
  pos_eq := rfl
  window_take := rfl
  trace := TraceOk.nil prm
  received := rfl
  sink := by cases prm.sinkOn <;> rfl

section Step

variable {prm : ScanParams} {h : List ScanTick} {s : ScanLoop} {t : ScanTick}

/-- What accumulating a delivered chunk does from an invariant state: the copy of
`len = min nrecv (size - pos)` samples lands at the cursor inside the window, and the record
and the sink grow by the chunk. -/
theorem accumulate_spec (hi : ScanInv prm h s) (hr : 0 < t.nrecv) :
    ∃ len, len = min t.chunk.length (prm.searchBufferSize - s.pos) ∧
      (prm.accumulate s t).pos = s.pos + len ∧ s.pos + len ≤ prm.searchBufferSize ∧
      (prm.accumulate s t).window.length = prm.searchBufferSize ∧
      (prm.accumulate s t).window.take (prm.accumulate s t).pos =
        (pendingChunks s.events).flatten ++ t.chunk.take len ∧
      (prm.accumulate s t).events = s.events ++ [.received t.chunk s.pos len] ∧
      EventOk prm s.events (.received t.chunk s.pos len) ∧
      receivedChunks (prm.accumulate s t).events =
        ((h ++ [t]).filter fun t ↦ 0 < t.nrecv).map ScanTick.chunk ∧
      (prm.accumulate s t).sink =
        if prm.sinkOn then encodeSamples (receivedChunks (prm.accumulate s t).events).flatten
        else [] := by
  have hle := hi.pos_le
  have hlt := prm.searchBufferSize_lt
  have hcopy := prm.toCopy_of_le t.nrecv hle
  rw [← ScanTick.length_chunk] at hcopy
  generalize hlen : min t.chunk.length (prm.searchBufferSize - s.pos) = len at hcopy
  have hfit : s.pos + len ≤ prm.searchBufferSize := by omega
  have htake : (t.chunk.take len).length = len := by simp only [List.length_take]; omega
  have hwin : s.pos + (t.chunk.take len).length ≤ s.window.length := by
    rw [htake, hi.length_window]; exact hfit
  have hpos : (prm.accumulate s t).pos = s.pos + len := by
    simp only [ScanParams.accumulate, hcopy]
    omega
  have hw := take_writeAt hwin
  rw [htake] at hw
  refine ⟨len, rfl, hpos, hfit, ?_, ?_, ?_, ?_, ?_, ?_⟩
  · simp only [ScanParams.accumulate, hcopy, length_writeAt hwin, hi.length_window]
  · rw [hpos]
    simp only [ScanParams.accumulate, hcopy, hw, hi.window_take]
  · simp only [ScanParams.accumulate, hcopy]
  · exact ⟨hi.pos_eq, hfit, by omega⟩
  · simp [ScanParams.accumulate, hi.received, List.filter_append, hr]
  · simp only [ScanParams.accumulate, receivedChunks_received, hi.sink]
    cases prm.sinkOn <;> simp

/-- What a pass that fills the window does from an invariant state: the search sees the first
`search_buffer_size` samples of the chunks since the last search, and nothing is pending
after it. -/
theorem searchWindow_spec (hi : ScanInv prm h s) (hr : 0 < t.nrecv)
    (hfull : prm.searchBufferSize ≤ (prm.accumulate s t).pos) :
    ScanRecord prm (h ++ [t]) (prm.searchWindow (prm.accumulate s t) t) ∧
      (prm.searchWindow (prm.accumulate s t) t).window.length = prm.searchBufferSize ∧
      pendingChunks (prm.searchWindow (prm.accumulate s t) t).events = [] := by
  obtain ⟨L, hL, hpos, hfit, hwl, hwt, hev, hok, hrec, hsink⟩ := accumulate_spec hi hr
  have hP : (pendingChunks s.events).flatten.length = s.pos := hi.pos_eq.symm
  have hend : s.pos + L = prm.searchBufferSize := by omega
  have hW : (prm.accumulate s t).window = (pendingChunks s.events).flatten ++ t.chunk.take L := by
    rw [← hwt, hpos, hend, ← hwl, List.take_length]
  have hwindow : (prm.accumulate s t).window =
      ((pendingChunks s.events).flatten ++ t.chunk).take prm.searchBufferSize := by
    rw [hW, List.take_append_eq_append_take,
      List.take_of_length_le (l := (pendingChunks s.events).flatten) (by omega), hP,
      show prm.searchBufferSize - s.pos = L by omega]
  have hsearch : EventOk prm (s.events ++ [.received t.chunk s.pos L])
      (.searched (prm.accumulate s t).pos (prm.accumulate s t).window prm.searchBufferSize
        prm.target) := by
    refine ⟨by omega, rfl, ?_, rfl⟩
    simpa using hwindow
  refine ⟨⟨?_, ?_, ?_⟩, hwl, ?_⟩
  · show TraceOk prm ((prm.accumulate s t).events ++ [_])
    rw [hev]
    exact (hi.trace.snoc hok).snoc (hev ▸ hsearch)
  · simpa [ScanParams.searchWindow] using hrec
  · simpa [ScanParams.searchWindow] using hsink
  · exact pendingChunks_searched _ _ _ _ _

/-- **Step lemma.** A pass body that stays in the loop keeps the invariant. -/
theorem scanInv_step {s' : ScanLoop} (hi : ScanInv prm h s)
    (hb : scanBody prm s t = .inl s') : ScanInv prm (h ++ [t]) s' := by
  unfold scanBody at hb
  dsimp only at hb
  split_ifs at hb with hr hfull hfound
  · cases hb
    have hr' : ¬ 0 < t.nrecv := by omega
    exact ⟨hi.pos_le, hi.length_window, by simpa using hi.pos_eq,
      by simpa using hi.window_take, hi.trace.snoc trivial,
      by simp [hi.received, List.filter_append, hr'], by simpa using hi.sink⟩
  · cases hb
    obtain ⟨⟨htr, hrec, hsink⟩, hwl, hpend⟩ :=
      searchWindow_spec (t := t) hi (by omega) hfull
    exact ⟨Nat.zero_le _, hwl, by simp [hpend], by simp [hpend], htr, hrec, hsink⟩
  · cases hb
    obtain ⟨L, hL, hpos, hfit, hwl, hwt, hev, hok, hrec, hsink⟩ :=
      accumulate_spec (t := t) hi (by omega)
    have hall : L = t.chunk.length := by omega
    rw [hall, List.take_length] at hwt
    rw [hall] at hev hok hpos
    refine ⟨by omega, hwl, ?_, ?_, ?_, hrec, hsink⟩
    · rw [hpos, hev, pendingChunks_received, List.flatten_append, List.length_append,
        hi.pos_eq]
      simp
    · rw [hwt, hev, pendingChunks_received, List.flatten_append]
      simp
    · rw [hev]
      exact hi.trace.snoc hok

/-- A pass body that leaves the loop does so on a found search of a full window, and leaves
a state whose record obeys the window law. -/
theorem scanBody_inr {s' : ScanLoop} (hi : ScanInv prm h s)
    (hb : scanBody prm s t = .inr s') :
    s' = prm.searchWindow (prm.accumulate s t) t ∧ s'.result.found = true ∧
      ScanRecord prm (h ++ [t]) s' := by
  unfold scanBody at hb
  dsimp only at hb
  split_ifs at hb with hr hfull hfound
  cases hb
  exact ⟨rfl, hfound, (searchWindow_spec (t := t) hi (by omega) hfull).1⟩

end Step

theorem ScanInv.record {prm : ScanParams} {h : List ScanTick} {s : ScanLoop}
    (hi : ScanInv prm h s) : ScanRecord prm h s :=
  ⟨hi.trace, hi.received, hi.sink⟩

/-! ### Whole runs -/

section Pass

variable {prm : ScanParams} {h : List ScanTick} {s s' : ScanLoop} {t : ScanTick}

/-- A pass stays in the loop exactly when the loop head lets it through and its body does. -/
theorem scanPass_inl (h : scanPass prm s t = .inl s') :
    prm.admits t ∧ scanBody prm s t = .inl s' := by
  unfold scanPass at h
  split_ifs at h with hr he
  rcases hb : scanBody prm s t with u | u <;> rw [hb] at h <;> cases h
  exact ⟨⟨by simpa using hr, by simpa using he⟩, rfl⟩

/-- The three ways a pass leaves the loop. -/
theorem scanPass_inr {r : ScanStop} (h : scanPass prm s t = .inr (r, s')) :
    (r = .cancelled ∧ t.running = false ∧ s' = s) ∨
    (r = .timedOut ∧ t.running = true ∧ prm.expired t.now = true ∧ s' = s) ∨
    (r = .found ∧ prm.admits t ∧ scanBody prm s t = .inr s') := by
  unfold scanPass at h
  split_ifs at h with hr he
  · cases h; exact .inl ⟨rfl, by simpa using hr, rfl⟩
  · cases h; exact .inr (.inl ⟨rfl, by simpa using hr, he, rfl⟩)
  · rcases hb : scanBody prm s t with u | u <;> rw [hb] at h <;> cases h
    exact .inr (.inr ⟨rfl, ⟨by simpa using hr, by simpa using he⟩, rfl⟩)

/-- **Step lemma** of a whole pass: one that stays in the loop got through the loop head and
keeps the invariant. -/
theorem scanPass_step (hi : ScanInv prm h s) (ha : ∀ u ∈ h, prm.admits u)
    (hp : scanPass prm s t = .inl s') :
    ScanInv prm (h ++ [t]) s' ∧ ∀ u ∈ h ++ [t], prm.admits u := by
  obtain ⟨hadm, hb⟩ := scanPass_inl hp
  exact ⟨scanInv_step hi hb,
    List.forall_mem_append.mpr ⟨ha, List.forall_mem_singleton.mpr hadm⟩⟩

end Pass

/-- **Run lemma.** At every loop head a run reaches the invariant holds, and every pass so far
got through the loop head. -/
theorem scanLoop_inv {prm : ScanParams} {ts : List ScanTick} {s : ScanLoop}
    (h : scanLoop prm ts = .inl s) : ScanInv prm ts s ∧ ∀ u ∈ ts, prm.admits u := by
  simpa using Loop.run_inv (fun _ ↦ True)
    (fun h s ↦ ScanInv prm h s ∧ ∀ u ∈ h, prm.admits u) (fun _ _ _ _ hi _ hp ↦ scanPass_step hi.1 hi.2 hp)
    ⟨ScanInv.init prm, fun _ h ↦ nomatch h⟩ (fun _ _ ↦ trivial) h

/-- The three ways out of the scanning loop, for the answers `pre` of the passes that stayed in
it and the answer `t` of the pass that left: at a loop head, from an invariant state, or on a
found search, whose state still obeys the window law. -/
def ScanExit (prm : ScanParams) (pre : List ScanTick) (t : ScanTick) : ScanStop × ScanLoop → Prop
  | (r, s') =>
    (r = .cancelled ∧ t.running = false ∧ ScanInv prm pre s') ∨
    (r = .timedOut ∧ t.running = true ∧ prm.expired t.now = true ∧ ScanInv prm pre s') ∨
    (r = .found ∧ prm.admits t ∧
      ∃ s, ScanInv prm pre s ∧ s' = prm.searchWindow (prm.accumulate s t) t ∧
        s'.result.found = true ∧ ScanRecord prm (pre ++ [t]) s')

/-- How a run leaves the loop: after passes that all got through the loop head, by one of the
three exits. -/
theorem scanLoop_exit {prm : ScanParams} {ts : List ScanTick} {r : ScanStop × ScanLoop}
    (h : scanLoop prm ts = .inr r) :
    ∃ pre t, pre ++ [t] <+: ts ∧ (∀ u ∈ pre, prm.admits u) ∧ ScanExit prm pre t r := by
  obtain ⟨pre, hpre, pre', t, hsplit, hadm, hexit⟩ := Loop.run_exit (fun _ ↦ True)
    (fun h s ↦ ScanInv prm h s ∧ ∀ u ∈ h, prm.admits u)
    (fun hist r ↦
      ∃ pre t, hist = pre ++ [t] ∧ (∀ u ∈ pre, prm.admits u) ∧ ScanExit prm pre t r)
    (fun _ _ _ _ hi _ hp ↦ scanPass_step hi.1 hi.2 hp)
    (fun hist s t ⟨r, s'⟩ ⟨hi, ha⟩ _ hp ↦ by
      refine ⟨hist, t, rfl, ha, ?_⟩
      obtain ⟨rfl, hr, rfl⟩ | ⟨rfl, hr, he, rfl⟩ | ⟨rfl, hadm, hb⟩ := scanPass_inr hp
      · exact .inl ⟨rfl, hr, hi⟩
      · exact .inr (.inl ⟨rfl, hr, he, hi⟩)
      · obtain ⟨rfl, hf, hrec⟩ := scanBody_inr hi hb
        exact .inr (.inr ⟨rfl, hadm, s, hi, rfl, hf, hrec⟩))
    ⟨ScanInv.init prm, fun _ h ↦ nomatch h⟩ (fun _ _ ↦ trivial) h
  simp only [List.nil_append] at hsplit
  subst hsplit
  exact ⟨pre', t, hpre, hadm, hexit⟩

/-- The state a run leaves the loop in carries the record of the passes that ran: those of `pre`
stayed in the loop, and `t` left it, at its loop head or after a search that found the cell. -/
theorem scanLoop_exit_record {prm : ScanParams} {ts : List ScanTick} {r : ScanStop × ScanLoop}
    (h : scanLoop prm ts = .inr r) :
    ∃ pre t rest, ts = pre ++ t :: rest ∧ (∀ u ∈ pre, prm.admits u) ∧
      (if r.1 = .found then prm.admits t else ¬ prm.admits t) ∧
      ScanRecord prm (if r.1 = .found then pre ++ [t] else pre) r.2 := by
  obtain ⟨pre, t, ⟨rest, hts⟩, ha, hexit⟩ := scanLoop_exit h
  refine ⟨pre, t, rest, by simpa using hts.symm, ha, ?_⟩
  obtain ⟨r, s'⟩ := r
  rcases hexit with ⟨rfl, hr, hi⟩ | ⟨rfl, -, he, hi⟩ | ⟨rfl, hadm, -, -, -, -, hrec⟩
  · exact ⟨fun hadm ↦ absurd hadm.1 (by simp [hr]), hi.record⟩
  · exact ⟨fun hadm ↦ absurd hadm.2 (by simp [he]), hi.record⟩
  · exact ⟨hadm, hrec⟩

/-- Every state a run reaches, at a loop head or on leaving, obeys the window law. -/
theorem scanLoop_record {prm : ScanParams} {ts : List ScanTick} :
    TraceOk prm ((scanLoop prm ts).elim ScanLoop.events fun r ↦ r.2.events) := by
  rcases h : scanLoop prm ts with s | r
  · exact (scanLoop_inv h).1.trace
  · obtain ⟨_, _, _, -, -, -, hrec⟩ := scanLoop_exit_record h
    exact hrec.trace

/-- **The window law of the scanning loop**, for every sequence of receive answers of any sign
and length and every codec answer. At every loop head a run reaches, the cursor lies in the
window, is the number of samples received since the last search, and is `0` right after a
search; a receive answer `≤ 0` leaves the window and the cursor as they were; and the chunks
of the run's receive calls are the positive answers, in order, of all passes, or, once the run
has left, of the passes that ran (those `pre` that stayed, and the pass `t` that left when it
left on a find). Every call the run has made obeys `EventOk`: each copy lands at the cursor,
inside the window, reading at most the delivered count, and each search is made with the cursor
at `search_buffer_size`, with `nsamples = search_buffer_size`, on the first `search_buffer_size`
samples of the chunks received since the previous search. -/
theorem scanLoop_window_law (prm : ScanParams) (ts : List ScanTick) :
    (∀ s, scanLoop prm ts = .inl s →
      s.pos ≤ prm.searchBufferSize ∧ s.pos = (pendingChunks s.events).flatten.length ∧
      (∀ pre c w n g, s.events = pre ++ [.searched c w n g] → s.pos = 0) ∧
      (∀ t : ScanTick, t.nrecv ≤ 0 →
        ∃ s', scanBody prm s t = .inl s' ∧ s'.pos = s.pos ∧ s'.window = s.window) ∧
      (∀ u ∈ ts, prm.admits u) ∧
      receivedChunks s.events = (ts.filter fun t ↦ 0 < t.nrecv).map ScanTick.chunk) ∧
    (∀ r, scanLoop prm ts = .inr r → ∃ pre t rest, ts = pre ++ t :: rest ∧
      (∀ u ∈ pre, prm.admits u) ∧ (if r.1 = .found then prm.admits t else ¬ prm.admits t) ∧
      receivedChunks r.2.events =
        ((if r.1 = .found then pre ++ [t] else pre).filter fun t ↦ 0 < t.nrecv).map
          ScanTick.chunk) ∧
    TraceOk prm ((scanLoop prm ts).elim ScanLoop.events fun r ↦ r.2.events) := by
  refine ⟨fun s h ↦ ?_, fun r h ↦ ?_, scanLoop_record⟩
  · obtain ⟨hi, ha⟩ := scanLoop_inv h
    refine ⟨hi.pos_le, hi.pos_eq, fun pre c w n g he ↦ ?_, fun t ht ↦ ?_, ha, hi.received⟩
    · rw [hi.pos_eq, he, pendingChunks_searched]
      rfl
    · exact ⟨{ s with events := s.events ++ [.retry t.nrecv] }, by simp [scanBody, ht], rfl, rfl⟩
  · obtain ⟨pre, t, rest, hts, ha, hadm, hrec⟩ := scanLoop_exit_record h
    exact ⟨pre, t, rest, hts, ha, hadm, hrec.received⟩

/-! ### The receive count -/

/-- `static_cast<uint32_t>` of a non-negative `double`: truncation toward zero (a value out of
range, undefined in C++, wraps here). -/
def toUInt32 (x : ℚ) : Nat := x.floor.toNat % 2 ^ 32

theorem toUInt32_lt (x : ℚ) : toUInt32 x < 2 ^ 32 := Nat.mod_lt _ (by decide)

/-- The answers `scan_for_ssb` gets outside its loop. The ten stale-sample flush reads are
discarded by the code, so their answers are not modelled. -/
structure ScanWorld where
  /-- The sample file opened (asked only when `save_samples` is set). -/
  sinkOpens : Bool
  /-- `srsran_rf_start_rx_stream` succeeded. -/
  rxStarts : Bool
  /-- The steady clock after the flush, in nanoseconds. -/
  startTime : Int
  /-- The answers of the scanning loop's passes. -/
  ticks : List ScanTick

/-- How `scan_for_ssb` ended. -/
inductive ScanEnd
  | rxStartFailed
  | stopped (r : ScanStop)
deriving DecidableEq, Repr

/-- The `File Sink Summary` printed when the loop ends without a find. -/
structure SinkSummary where
  totalSamples : Nat
  durationSec : ℚ
deriving DecidableEq, Repr

/-- What a run of `scan_for_ssb` returns and leaves behind. -/
structure ScanReturn where
  /-- The return value. -/
  found : Bool
  how : ScanEnd
  /-- The out-parameter `result`. -/
  result : SsbSearchResult
  /-- The bytes of the sample file. -/
  sink : List UInt8
  events : List ScanEvent
  ops : List StreamOp
  summary : Option SinkSummary

/-- `successful_receives * samples_per_iter`, an `int` times a `uint32_t` in `uint32_t`
arithmetic, and its duration at the sample rate. -/
def sinkSummary (srateHz : ℚ) (samplesPerIter : Nat) (s : ScanLoop) : SinkSummary :=
  let total := (s.successfulReceives % 2 ^ 32).toNat * samplesPerIter % 2 ^ 32
  ⟨total, (total : ℚ) / srateHz⟩

/-- The scanning loop's parameters for a configuration. The two sizes are `static_cast`s of the
`double` products `srate_hz * 0.001` and `srate_hz * 0.01`. -/
def scanParams (cfg : Config) (proc : SsbProcessor) (w : ScanWorld) : ScanParams where
  samplesPerIter := toUInt32 (roundF64 (cfg.rf.srateHz * roundF64 (1 / 1000)))
  searchBufferSize := toUInt32 (roundF64 (cfg.rf.srateHz * roundF64 (1 / 100)))
  searchBufferSize_lt := toUInt32_lt _
  target := if cfg.attack.scanForTarget then some cfg.attack.targetPci else none
  scanDurationSec := cfg.operation.scanDurationSec
  startTime := w.startTime
  sinkOn := cfg.operation.saveSamples && w.sinkOpens
  proc := proc

/-- At the `double` rate `64999.99999999999` Hz the product `srate_hz * 0.001` rounds up to `65`,
one sample more than the exact thousandth's integer part. -/
example :
    (scanParams { ConfigParser.defaults with rf := { ConfigParser.defaults.rf with
      srateHz := 8933531975679999 / 137438953472 } } ⟨false, ConfigParser.defaults.ssb, 0, 0, 0⟩
      ⟨false, false, 0, []⟩).samplesPerIter = 65 := by
  with_unfolding_all decide

/-- `scan_for_ssb`: open the sink, start the receive stream, run the scanning loop, stop the
stream and close the sink (explicitly, or through the `ofstream` destructor on the found
path). `none` while the loop's answers run out before it ends. -/
def scanForSsb (cfg : Config) (rf : RfHandler) (proc : SsbProcessor) (w : ScanWorld) :
    Option ScanReturn :=
  let prm := scanParams cfg proc w
  let opened := if cfg.operation.saveSamples then [StreamOp.openSink w.sinkOpens] else []
  let closed := if prm.sinkOn then [StreamOp.closeSink] else []
  if !rf.startRx w.rxStarts then
    some ⟨false, .rxStartFailed, .empty, [], [], opened ++ [.startRx false] ++ closed, none⟩
  else
    match scanLoop prm w.ticks with
    | .inl _ => none
    | .inr (.found, s) =>
      some ⟨true, .stopped .found, s.result, s.sink, s.events,
        opened ++ [.startRx true, .stopRx] ++ closed, none⟩
    | .inr (r, s) =>
      some ⟨false, .stopped r, s.result, s.sink, s.events,
        opened ++ [.startRx true, .stopRx] ++ closed,
        if prm.sinkOn then some (sinkSummary cfg.rf.srateHz prm.samplesPerIter s) else none⟩

section ScanForSsb

variable {cfg : Config} {rf : RfHandler} {proc : SsbProcessor} {w : ScanWorld} {ret : ScanReturn}

/-- A run of `scan_for_ssb` that returns. Its stream and file operations, on every path, are:
the sink opened when samples are to be saved, the receive stream started and, when it started,
stopped, and the sink closed when it opened. Either its receive stream was refused, or it hands
back the state its scanning loop left in. -/
theorem scanForSsb_some (h : scanForSsb cfg rf proc w = some ret) :
    ret.ops = (if cfg.operation.saveSamples then [.openSink w.sinkOpens] else []) ++
      [.startRx (rf.startRx w.rxStarts)] ++ (if rf.startRx w.rxStarts then [.stopRx] else []) ++
      (if cfg.operation.saveSamples && w.sinkOpens then [.closeSink] else []) ∧
    ((rf.startRx w.rxStarts = false ∧ ret.found = false ∧ ret.events = [] ∧ ret.sink = []) ∨
     (rf.startRx w.rxStarts = true ∧ ∃ r s, scanLoop (scanParams cfg proc w) w.ticks = .inr (r, s) ∧
      ret.how = .stopped r ∧ ret.found = decide (r = .found) ∧ ret.result = s.result ∧
      ret.sink = s.sink ∧ ret.events = s.events)) := by
  unfold scanForSsb at h
  cases hrx : rf.startRx w.rxStarts <;>
    simp only [hrx, Bool.not_false, Bool.not_true, Bool.false_eq_true, ↓reduceIte,
      Option.some.injEq] at h
  · subst h
    exact ⟨by simp [scanParams], .inl ⟨rfl, rfl, rfl, rfl⟩⟩
  · split at h
    · cases h
    · cases h
      exact ⟨by simp [scanParams], .inr ⟨rfl, _, _, ‹_›, rfl, rfl, rfl, rfl, rfl⟩⟩
    · cases h
      exact ⟨by simp [scanParams], .inr ⟨rfl, _, _, ‹_›, rfl, by simpa, rfl, rfl, rfl⟩⟩

/-- `scan_for_ssb` stops the receive stream it started and closes the sink it opened, on every
path, and stops nothing it did not start. -/
theorem scanForSsb_streamsClosed (h : scanForSsb cfg rf proc w = some ret) :
    openAfter ret.ops = some OpenStreams.none := by
  rw [(scanForSsb_some h).1]
  cases cfg.operation.saveSamples <;> cases w.sinkOpens <;> cases rf.startRx w.rxStarts <;> rfl

/-- **The sample file.** With `save_samples` set and the file open, a returning run of
`scan_for_ssb` leaves in the file exactly the raw encodings of the chunks its receive calls
delivered, in call order and with nothing else. Those calls are the positive answers of the
passes that ran: none when the receive stream was refused; otherwise the passes `pre` that
stayed in the loop, all let through by its head, and the pass `t` that left it when it left on
a find, a pass its head did not let through when it left otherwise. `load_samples` reads the
file back as that sample sequence, or as its first `max_samples` samples when `0 < max_samples`
is smaller. -/
theorem scanForSsb_sink_loads (hsave : cfg.operation.saveSamples = true)
    (hopen : w.sinkOpens = true) (h : scanForSsb cfg rf proc w = some ret) :
    ((rf.startRx w.rxStarts = false ∧ ret.events = []) ∨
      ∃ pre t rest, w.ticks = pre ++ t :: rest ∧
        (∀ u ∈ pre, (scanParams cfg proc w).admits u) ∧
        (if ret.found then (scanParams cfg proc w).admits t
          else ¬ (scanParams cfg proc w).admits t) ∧
        receivedChunks ret.events =
          ((if ret.found then pre ++ [t] else pre).filter fun t ↦ 0 < t.nrecv).map
            ScanTick.chunk) ∧
      ret.sink = encodeSamples (receivedChunks ret.events).flatten ∧
      ∀ m : UInt32, loadSamples (some ret.sink) m =
        some (if 0 < m.toNat ∧ m.toNat < (receivedChunks ret.events).flatten.length then
          (receivedChunks ret.events).flatten.take m.toNat else (receivedChunks ret.events).flatten) := by
  rcases (scanForSsb_some h).2 with ⟨hrx, -, hev, hsink⟩ | ⟨-, r, s, hl, -, hfr, -, hsink, hev⟩
  · have hs : ret.sink = encodeSamples (receivedChunks ret.events).flatten := by simp [hev, hsink]
    exact ⟨.inl ⟨hrx, hev⟩, hs, fun m ↦ hs ▸ loadSamples_encodeSamples _ m⟩
  · obtain ⟨pre, t, rest, hts, ha, hadm, hrec⟩ := scanLoop_exit_record hl
    have hon : (scanParams cfg proc w).sinkOn = true := by simp [scanParams, hsave, hopen]
    have hs : ret.sink = encodeSamples (receivedChunks ret.events).flatten := by
      rw [hsink, hev, hrec.sink, hon, if_pos rfl]
    simp only [hfr, decide_eq_true_eq]
    exact ⟨.inr ⟨pre, t, rest, hts, ha, hadm, hev ▸ hrec.received⟩, hs,
      fun m ↦ hs ▸ loadSamples_encodeSamples _ m⟩

/-- A capture of one two-sample chunk, cancelled at the next loop head. -/
theorem scanForSsb_sink_loads_two_samples :
    let cfg : Config := { ConfigParser.defaults with
      operation := { ConfigParser.defaults.operation with saveSamples := true } }
    let proc := (SsbProcessor.init ⟨false, cfg.ssb, 0, 0, 0⟩ cfg.ssb 23040000 3510000000 true
      (some 23040)).2
    let w : ScanWorld := ⟨true, true, 0,
      [⟨true, 0, 2, fun _ ↦ Cf32.zero, fun _ ↦ none, fun _ ↦ (false, Mib.zero)⟩,
       ⟨false, 0, 0, fun _ ↦ Cf32.zero, fun _ ↦ none, fun _ ↦ (false, Mib.zero)⟩]⟩
    let rf := (RfHandler.new.init ⟨true, true, true⟩).2
    let ret : ScanReturn := ⟨false, .stopped .cancelled, .empty,
      encodeSamples [Cf32.zero, Cf32.zero], [.received [Cf32.zero, Cf32.zero] 0 2],
      [.openSink true, .startRx true, .stopRx, .closeSink], some ⟨23040, 23040 / 23040000⟩⟩
    cfg.operation.saveSamples = true ∧ w.sinkOpens = true ∧ scanForSsb cfg rf proc w = some ret ∧
      ((rf.startRx w.rxStarts = false ∧ ret.events = []) ∨
        ∃ pre t rest, w.ticks = pre ++ t :: rest ∧
          (∀ u ∈ pre, (scanParams cfg proc w).admits u) ∧
          (if ret.found then (scanParams cfg proc w).admits t
            else ¬ (scanParams cfg proc w).admits t) ∧
          receivedChunks ret.events =
            ((if ret.found then pre ++ [t] else pre).filter fun t ↦ 0 < t.nrecv).map
              ScanTick.chunk) ∧
        ret.sink = encodeSamples (receivedChunks ret.events).flatten ∧
        ∀ m : UInt32, loadSamples (some ret.sink) m =
          some (if 0 < m.toNat ∧ m.toNat < (receivedChunks ret.events).flatten.length then
            (receivedChunks ret.events).flatten.take m.toNat
          else (receivedChunks ret.events).flatten) :=
  have h : scanForSsb _ _ _ _ = some _ := by with_unfolding_all rfl
  ⟨rfl, rfl, h, scanForSsb_sink_loads rfl rfl h⟩

/-- `scan_for_ssb` returns once some pass meets a loop head that stops it: the flag is down or
the deadline has passed. -/
theorem scanForSsb_returns {t : ScanTick} (ht : t ∈ w.ticks)
    (hstop : t.running = false ∨ (scanParams cfg proc w).expired t.now = true) :
    (scanForSsb cfg rf proc w).isSome := by
  have hr : (scanLoop (scanParams cfg proc w) w.ticks).isRight := by
    refine Loop.run_isRight_of_mem (fun s ↦ ?_) ht _
    unfold scanPass
    rcases hstop with hs | hs <;> split_ifs <;> simp_all
  unfold scanForSsb
  rcases hl : scanLoop (scanParams cfg proc w) w.ticks with s | ⟨r, s⟩
  · simp [hl] at hr
  · cases rf.startRx w.rxStarts <;> cases r <;> simp [hl]

/-- The receive stream starts and the second pass meets a cleared flag: `scan_for_ssb`
returns. -/
theorem scanForSsb_returns_cancelled :
    (let cfg := ConfigParser.defaults
    let proc := (SsbProcessor.init ⟨false, cfg.ssb, 0, 0, 0⟩ cfg.ssb 23040000 3510000000 true
      (some 23040)).2
    let stop : ScanTick := ⟨false, 0, 0, fun _ ↦ Cf32.zero, fun _ ↦ none, fun _ ↦ (false, Mib.zero)⟩
    let w : ScanWorld := ⟨false, true, 0, [{ stop with running := true, nrecv := 5 }, stop]⟩
    stop ∈ w.ticks ∧ (stop.running = false ∨ (scanParams cfg proc w).expired stop.now = true) ∧
      (scanForSsb cfg (RfHandler.new.init ⟨true, true, true⟩).2 proc w).isSome) := by
  intro cfg proc stop w
  have hmem : stop ∈ w.ticks := List.mem_cons_of_mem _ (List.mem_singleton_self _)
  exact ⟨hmem, .inl rfl, scanForSsb_returns hmem (.inl rfl)⟩

/-- Ten full 1 ms receives at the default rate fill a window whose search finds a CRC-valid
message of the target cell, a message whose MIB does not unpack: `scan_for_ssb` returns true
all the same. -/
theorem scanForSsb_found_mib_unpack_failed :
    let t : ScanTick := ⟨true, 0, 23040, fun _ ↦ Cf32.zero,
      fun _ ↦ some ⟨0, { PbchMsg.zero with crc := true }, 0, 0⟩, fun _ ↦ (false, Mib.zero)⟩
    let proc := (SsbProcessor.init ⟨false, ConfigParser.defaults.ssb, 0, 0, 0⟩
      ConfigParser.defaults.ssb 23040000 3510000000 true (some 23040)).2
    (scanForSsb ConfigParser.defaults (RfHandler.new.init ⟨true, true, true⟩).2 proc
        ⟨false, true, 0, List.replicate 10 t⟩).map
      (fun r ↦ (r.found, (t.unpack r.result.pbchMsg).1)) = some (true, false) := by
  with_unfolding_all decide

/-- A capture of one short receive of 10 samples, cancelled at the next loop head: the file
holds 10 samples and the summary reports the nominal 23040. -/
theorem scanForSsb_summary_short_read :
    let cfg : Config := { ConfigParser.defaults with
      operation := { ConfigParser.defaults.operation with saveSamples := true } }
    let proc := (SsbProcessor.init ⟨false, cfg.ssb, 0, 0, 0⟩ cfg.ssb 23040000 3510000000 true
      (some 23040)).2
    let t : ScanTick := ⟨true, 0, 10, fun _ ↦ Cf32.zero, fun _ ↦ none, fun _ ↦ (false, Mib.zero)⟩
    (scanForSsb cfg (RfHandler.new.init ⟨true, true, true⟩).2 proc
        ⟨true, true, 0, [t, { t with running := false }]⟩).map
      (fun r ↦ (r.summary.map SinkSummary.totalSamples, (receivedChunks r.events).flatten.length)) =
      some (some 23040, 10) := by
  with_unfolding_all rfl

end ScanForSsb

end SsbSpoofer
