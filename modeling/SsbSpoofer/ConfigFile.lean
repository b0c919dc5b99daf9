import Mathlib.Data.List.AList
import Mathlib.Data.List.DropRight
import SsbSpoofer.Config

/-!
# The configuration file

`parse_config_file` and `ConfigParser::load_from_file` (`rf_handler.h`) read a line-oriented
file of `section:` headers and `key: value` entries into a `std::map` of dotted keys, from
which the loader fills the `Config` record field by field:

```
while (std::getline(file, line)) {
  strip from the first '#'; trim " \t"; skip an empty line
  if (line.back() == ':' && line.find(':') == line.length() - 1) current_section = line - ':'
  else if ((colon_pos = line.find(':')) != npos)
    key, value = the two sides, trimmed; value loses one pair of outer quotes
    config_map[current_section.empty() ? key : current_section + "." + key] = value
}
```

**Strings.** A `std::string` is a `List Char`; every byte of the file is one `Char`. The
members the parser calls are modelled with their preconditions: `substr` and `erase` throw
`std::out_of_range` for a position past the end, and `front()` and `back()` of an empty string
are undefined; each makes the model answer `none`. A `size_t` result of `find` is `none` for
`npos`, and `npos + 1` is `0`, as `erase(find_last_not_of(" \t") + 1)` relies on.
`parseConfigFile_safe` says no line of any file reaches one of these failures.

**Two levels.** `parseLine` is the loop body as the code computes it, with positions;
`lineMeaning` says what a line means, with no positions at all: the text before any `#`,
trimmed, is blank, a header, a `key: value` pair or nothing. `parseLine_eq` connects the two
for every line, and every law about files is proved at the upper level.

**The map.** `std::map<std::string, std::string>` is an `AList`: `config_map[k] = v` is
`AList.insert`, which replaces an earlier value of `k`. The code only looks keys up and tests
the map for emptiness.

**Documents.** The format a configuration file is written in is a list of `ConfigItem`s,
each rendered on a line of its own. For every well-formed document with LF line ends the
parser returns exactly the map the document describes (`parseConfigFile_render`). The trim,
which the source calls `// trim whitespace`, removes only spaces and tabs, so with CRLF line
ends every line keeps its `'\r'`: a header line `S:\r` no longer ends in `:` and is read as the
entry `S` with value `"\r"` (`parseConfigFile_crlf_header`).

**What is stored.** Whatever the file, no key of the map holds `:`, `#` or LF and no value
holds `#` or LF (`parseConfigFile_stored`): the comment is cut before the quotes are looked
at, so a value cannot be quoted to hold a `#`.
-/

namespace SsbSpoofer

namespace ConfigFile

/-! ### `std::string` -/

/-- The characters of `" \t"`, the only ones trimming removes. -/
def isBlank (c : Char) : Bool := c == ' ' || c == '\t'

/-- `s.find(c)`; `none` is `npos`. -/
def find (s : List Char) (c : Char) : Option Nat := s.findIdx? (· == c)

/-- `s.find_first_not_of(" \t")`. -/
def findFirstNotBlank (s : List Char) : Option Nat := s.findIdx? (!isBlank ·)

/-- `s.find_last_not_of(" \t")`. -/
def findLastNotBlank (s : List Char) : Option Nat :=
  (s.reverse.findIdx? (!isBlank ·)).map (s.length - 1 - ·)

/-- A `size_t` position plus one: `npos + 1` wraps to `0`. -/
def succPos : Option Nat → Nat
  | none => 0
  | some i => i + 1

/-- `a - b` in `size_t`, used as a count: below zero it wraps past the length of every string,
which `substr` reads like `npos`. -/
def sizeSub (a b : Nat) : Option Nat := if b ≤ a then some (a - b) else none

/-- `s.substr(pos, count)`, with `count = none` for `npos`; past the end it throws. -/
def substr (s : List Char) (pos : Nat) (count : Option Nat) : Option (List Char) :=
  if pos ≤ s.length then some ((s.drop pos).take (count.getD (s.length - pos))) else none

/-- `s.erase(pos, count)`, with `count = none` for `npos`; past the end it throws. -/
def erase (s : List Char) (pos : Nat) (count : Option Nat) : Option (List Char) :=
  if pos ≤ s.length then some (s.take pos ++ s.drop (pos + count.getD (s.length - pos)))
  else none

/-! ### The line loop -/

/-- `// strip comments`. -/
def stripComment (line : List Char) : Option (List Char) :=
  match find line '#' with
  | some commentPos => substr line 0 (some commentPos)
  | none => some line

/-- `// trim whitespace`: `none` for a line of blanks (`continue`), else the substring from the
first to the last non-blank character, `end - start + 1` of them (with `end = npos` that count
wraps past the end). -/
def trimLine (line : List Char) : Option (Option (List Char)) :=
  match findFirstNotBlank line with
  | none => some none
  | some start =>
    (substr line start (match findLastNotBlank line with
      | some stop => some (stop - start + 1)
      | none => none)).map some

/-- The two `erase` calls that trim a key, and again a value. -/
def trim (s : List Char) : Option (List Char) := do
  let s ← erase s 0 (findFirstNotBlank s)
  erase s (succPos (findLastNotBlank s)) none

/-- `// remove quotes`: `front()` and `back()` of an empty value are undefined. -/
def unquote (value : List Char) : Option (List Char) := do
  let front ← value.head?
  let back ← value.getLast?
  if front = '"' ∧ back = '"' then substr value 1 (sizeSub value.length 2) else some value

/-- What one pass of the line loop does. -/
inductive LineStep
  /-- `continue`: a blank line, or one that is no header and has no `:`. -/
  | skip
  /-- `current_section = ...`. -/
  | header (name : List Char)
  /-- A `key: value` line; `trimmed` is the value after trimming, `value` after its quotes
  are removed. -/
  | entry (key trimmed value : List Char)
deriving DecidableEq, Repr

/-- The loop body after the trim: the header test, then the `key: value` split. -/
def parseTrimmed (line : List Char) : Option LineStep := do
  if line.isEmpty then return .skip
  let back ← line.getLast?
  if back = ':' ∧ find line ':' = some (line.length - 1) then
    return .header (← substr line 0 (some (line.length - 1)))
  let some colonPos := find line ':' | some .skip
  let key ← substr line 0 (some colonPos)
  let value ← substr line (colonPos + 1) none
  let key ← trim key
  let trimmed ← trim value
  return .entry key trimmed (← unquote trimmed)

/-- One pass of the line loop of `parse_config_file`, up to the map update. -/
def parseLine (line : List Char) : Option LineStep := do
  let line ← stripComment line
  let some line ← trimLine line | some .skip
  parseTrimmed line

/-- `std::map<std::string, std::string>`. -/
abbrev ConfigMap := AList fun _ : List Char ↦ List Char

/-- `current_section.empty() ? key : current_section + "." + key`. -/
def fullKey (currentSection key : List Char) : List Char :=
  if currentSection.isEmpty then key else currentSection ++ '.' :: key

/-- What a line does to `current_section` and `config_map`. -/
def LineStep.apply (st : List Char × ConfigMap) : LineStep → List Char × ConfigMap
  | .skip => st
  | .header name => (name, st.2)
  | .entry key _ value => (st.1, st.2.insert (fullKey st.1 key) value)

/-- One pass of the line loop. -/
def parseStep (st : List Char × ConfigMap) (line : List Char) :
    Option (List Char × ConfigMap) :=
  (parseLine line).map (LineStep.apply st)

/-- The lines `std::getline` reads, `cur` being the reversed start of the current one: up to
each `'\n'`, and a last line without one when it is not empty. -/
def getLinesFrom : List Char → List Char → List (List Char)
  | [], cur => if cur.isEmpty then [] else [cur.reverse]
  | c :: cs, cur =>
    if c = '\n' then cur.reverse :: getLinesFrom cs [] else getLinesFrom cs (c :: cur)

/-- The lines of a file. -/
def getLines (content : List Char) : List (List Char) := getLinesFrom content []

/-- `parse_config_file`, given the file's contents (`none` when it cannot be opened, which
gives the empty map). `none` is a line whose parsing throws or is undefined. -/
def parseConfigFile : Option (List Char) → Option ConfigMap
  | none => some ∅
  | some content => ((getLines content).foldlM parseStep ([], ∅)).map Prod.snd

/-! ### What a line means -/

/-- `s` without its leading and trailing blanks. -/
def trimBlanks (s : List Char) : List Char := (s.dropWhile isBlank).rdropWhile isBlank

/-- `s` without one pair of enclosing quotes. -/
def dequote (s : List Char) : List Char :=
  if s.head? = some '"' ∧ s.getLast? = some '"' then (s.drop 1).dropLast else s

/-- What the trimmed text of a line means: a header when its only colon ends it, a
`key: value` pair split at the first colon, both sides trimmed and the value unquoted, or
nothing. -/
def trimmedMeaning (t : List Char) : LineStep :=
  if t.getLast? = some ':' ∧ ':' ∉ t.dropLast then .header t.dropLast
  else if ':' ∈ t then
    let value := trimBlanks (t.dropWhile (· != ':')).tail
    .entry (trimBlanks (t.takeWhile (· != ':'))) value (dequote value)
  else .skip

/-- What a line means: its text before any `#`, trimmed, is blank or means what
`trimmedMeaning` says. -/
def lineMeaning (line : List Char) : LineStep :=
  let t := trimBlanks (line.takeWhile (· != '#'))
  if t = [] then .skip else trimmedMeaning t

/-- What the line loop does to `current_section` and `config_map` over a run of lines. -/
def applyLines (st : List Char × ConfigMap) (lines : List (List Char)) : List Char × ConfigMap :=
  lines.foldl (fun st line ↦ (lineMeaning line).apply st) st

@[simp]
theorem applyLines_cons (st : List Char × ConfigMap) (line : List Char)
    (lines : List (List Char)) :
    applyLines st (line :: lines) = applyLines ((lineMeaning line).apply st) lines := rfl

/-! ### The string members -/

theorem find_eq_none {s : List Char} {c : Char} : find s c = none ↔ c ∉ s := by
  simp only [find, List.findIdx?_eq_none_iff, beq_eq_false_iff_ne]
  exact ⟨fun h hc ↦ h c hc rfl, fun h x hx hxc ↦ h (hxc ▸ hx)⟩

/-- A found character splits the string where `takeWhile` and `dropWhile` do. -/
theorem find_eq_some {s : List Char} {c : Char} {i : Nat} (h : find s c = some i) :
    i < s.length ∧ s.take i = s.takeWhile (· != c) ∧ s.drop i = s.dropWhile (· != c) := by
  obtain ⟨hi, hidx⟩ := List.findIdx?_eq_some_iff_findIdx_eq.mp h
  have hp : (fun a ↦ !(a != c)) = (· == c) := by funext a; exact Bool.not_not (a == c)
  rw [List.takeWhile_eq_take_findIdx_not, List.dropWhile_eq_drop_findIdx_not, hp, hidx]
  exact ⟨hi, rfl, rfl⟩

theorem find_of_mem {s : List Char} {c : Char} (h : c ∈ s) : ∃ i, find s c = some i :=
  Option.ne_none_iff_exists'.mp (mt find_eq_none.mp (not_not.mpr h))

theorem find_concat (d : List Char) (x c : Char) :
    find (d ++ [x]) c = (find d c).or (if x = c then some d.length else none) := by
  by_cases hx : x = c <;> simp [find, List.findIdx?_append, hx]

theorem findFirstNotBlank_eq_none {s : List Char} :
    findFirstNotBlank s = none ↔ ∀ c ∈ s, isBlank c := by
  simp [findFirstNotBlank, List.findIdx?_eq_none_iff]

/-- The first non-blank character ends a run of blanks, where `dropWhile` stops. -/
theorem findFirstNotBlank_eq_some {s : List Char} {i : Nat} (h : findFirstNotBlank s = some i) :
    i < s.length ∧ s.drop i = s.dropWhile isBlank ∧ ∀ c ∈ s.take i, isBlank c := by
  obtain ⟨hi, hidx⟩ := List.findIdx?_eq_some_iff_findIdx_eq.mp h
  refine ⟨hi, by rw [List.dropWhile_eq_drop_findIdx_not, hidx], fun c hc ↦ ?_⟩
  rw [← hidx, ← List.takeWhile_eq_take_findIdx_not] at hc
  exact List.mem_takeWhile_imp hc

/-- Leading blanks shift the last non-blank position by their number. -/
theorem findLastNotBlank_blank_append {pre s : List Char} (hpre : ∀ c ∈ pre, isBlank c) :
    findLastNotBlank (pre ++ s) = (findLastNotBlank s).map (· + pre.length) := by
  have hnone : pre.reverse.findIdx? (!isBlank ·) = none := by
    simpa [List.findIdx?_eq_none_iff] using hpre
  unfold findLastNotBlank
  rw [List.reverse_append, List.findIdx?_append, hnone, Option.map_none', Option.or_none,
    Option.map_map]
  rcases h : s.reverse.findIdx? (!isBlank ·) with _ | r
  · rfl
  · have := (List.findIdx?_eq_some_iff_findIdx_eq.mp h).1
    simp only [List.length_reverse] at this
    simp only [Option.map_some', Function.comp, List.length_append]
    congr 1
    omega

/-- One past the last non-blank position is the length less the trailing blanks. -/
theorem succPos_findLastNotBlank (s : List Char) :
    succPos (findLastNotBlank s) = s.length - s.reverse.findIdx (!isBlank ·) := by
  unfold findLastNotBlank
  rcases h : s.reverse.findIdx? (!isBlank ·) with _ | r
  · simp [succPos, List.findIdx?_eq_none_iff_findIdx_eq.mp h]
  · obtain ⟨hr, hidx⟩ := List.findIdx?_eq_some_iff_findIdx_eq.mp h
    simp only [List.length_reverse] at hr
    simp only [Option.map_some', succPos, hidx]
    omega

/-- Cutting after the last non-blank character drops the trailing blanks. -/
theorem take_succPos_findLastNotBlank (s : List Char) :
    s.take (succPos (findLastNotBlank s)) = s.rdropWhile isBlank := by
  rw [succPos_findLastNotBlank, List.rdropWhile, List.dropWhile_eq_drop_findIdx_not,
    List.reverse_drop, List.reverse_reverse, List.length_reverse]

theorem succPos_findLastNotBlank_le (s : List Char) :
    succPos (findLastNotBlank s) ≤ s.length := by
  rw [succPos_findLastNotBlank]
  omega

theorem substr_zero {s : List Char} {n : Nat} : substr s 0 (some n) = some (s.take n) := by
  simp [substr]

theorem substr_none {s : List Char} {pos : Nat} (h : pos ≤ s.length) :
    substr s pos none = some (s.drop pos) := by
  simp [substr, h]

/-! ### Trimming -/

theorem trimBlanks_eq_nil_iff {s : List Char} : trimBlanks s = [] ↔ ∀ c ∈ s, isBlank c := by
  rw [trimBlanks, List.rdropWhile_eq_nil_iff, ← List.dropWhile_eq_nil_iff (p := isBlank) (l := s)]
  refine ⟨fun h ↦ ?_, fun h x hx ↦ by simp [h] at hx⟩
  by_contra hne
  have := List.head_dropWhile_not isBlank s hne
  rw [h _ (List.head_mem hne)] at this
  cases this

theorem trimBlanks_ne_nil_of_mem {s : List Char} {x : Char} (hx : x ∈ s)
    (hb : isBlank x = false) : trimBlanks s ≠ [] := by
  rw [Ne, trimBlanks_eq_nil_iff]
  exact fun h ↦ by simp [h x hx] at hb

/-- A trimmed string that is not empty ends with a non-blank character. -/
theorem trimBlanks_eq_concat {s : List Char} (h : trimBlanks s ≠ []) :
    ∃ d x, trimBlanks s = d ++ [x] ∧ isBlank x = false := by
  obtain ⟨d, x, hdx⟩ := (List.eq_nil_or_concat _).resolve_left h
  have hl : ¬ isBlank ((trimBlanks s).getLast h) = true :=
    List.rdropWhile_last_not isBlank (s.dropWhile isBlank) h
  have hx : (trimBlanks s).getLast? = some x := by rw [hdx]; simp
  rw [List.getLast?_eq_getLast _ h, Option.some.injEq] at hx
  exact ⟨d, x, by rw [hdx, List.concat_eq_append], by simpa [hx] using hl⟩

theorem trimBlanks_blank_cons {c : Char} (hc : isBlank c) (s : List Char) :
    trimBlanks (c :: s) = trimBlanks s := by
  simp [trimBlanks, hc]

/-- No space or tab at either end. -/
def unpadded (s : List Char) : Bool := s.head?.all (!isBlank ·) && s.getLast?.all (!isBlank ·)

theorem trimBlanks_eq_self {s : List Char} (hs : unpadded s) : trimBlanks s = s := by
  simp only [unpadded, Bool.and_eq_true] at hs
  rw [trimBlanks, List.dropWhile_eq_self_iff.mpr fun hl ↦ ?_,
    List.rdropWhile_eq_self_iff.mpr fun hl ↦ ?_]
  · simpa [List.getLast?_eq_getLast _ hl] using hs.2
  · cases s
    · simp at hl
    · simpa using hs.1

theorem unpadded_append {a b : List Char} (ha : unpadded a) (hb : unpadded b) :
    unpadded (a ++ b) := by
  simp only [unpadded, Bool.and_eq_true, List.head?_append, List.getLast?_append] at *
  constructor
  · rcases h : a.head? with _ | x <;> simp_all
  · rcases h : b.getLast? with _ | x <;> simp_all

/-! ### One pass of the line loop -/

/-- **The trim of a key or a value** removes the blanks at both ends, and never throws. -/
theorem trim_eq (s : List Char) : trim s = some (trimBlanks s) := by
  have h1 : erase s 0 (findFirstNotBlank s) = some (s.dropWhile isBlank) := by
    rcases h : findFirstNotBlank s with _ | i
    · rw [findFirstNotBlank_eq_none] at h
      simp [erase, List.dropWhile_eq_nil_iff.mpr h]
    · simp [erase, (findFirstNotBlank_eq_some h).2.1]
  have h2 (d : List Char) :
      erase d (succPos (findLastNotBlank d)) none = some (d.rdropWhile isBlank) := by
    rw [erase, if_pos (succPos_findLastNotBlank_le d), Option.getD_none,
      List.drop_of_length_le (by omega), List.append_nil, take_succPos_findLastNotBlank]
  simp [trim, h1, h2, trimBlanks]

/-- **The trim of a line** is blank or removes the blanks at both ends, and never throws. -/
theorem trimLine_eq (line : List Char) :
    trimLine line = some (if trimBlanks line = [] then none else some (trimBlanks line)) := by
  unfold trimLine
  rcases hs : findFirstNotBlank line with _ | start
  · rw [findFirstNotBlank_eq_none, ← trimBlanks_eq_nil_iff] at hs
    simp [hs]
  · obtain ⟨hlt, hd, hpre⟩ := findFirstNotBlank_eq_some hs
    have hne : trimBlanks line ≠ [] := fun h ↦ by
      rw [trimBlanks_eq_nil_iff, ← findFirstNotBlank_eq_none, hs] at h
      cases h
    have hlast : findLastNotBlank line =
        (findLastNotBlank (line.drop start)).map (· + start) := by
      conv_lhs => rw [← List.take_append_drop start line]
      rw [findLastNotBlank_blank_append hpre, List.length_take, min_eq_left hlt.le]
    rw [if_neg hne, hlast]
    rcases h2 : findLastNotBlank (line.drop start) with _ | j
    · refine absurd ?_ hne
      rw [trimBlanks, ← hd, ← take_succPos_findLastNotBlank, h2]
      rfl
    · simp only [Option.map_some', substr, if_pos hlt.le, Option.getD_some, Option.map_some']
      rw [show j + start - start + 1 = succPos (some j) by simp [succPos], ← h2,
        take_succPos_findLastNotBlank, hd]
      rfl

/-- The comment strip keeps the text before the first `#`, and never throws. -/
theorem stripComment_eq (line : List Char) :
    stripComment line = some (line.takeWhile (· != '#')) := by
  unfold stripComment
  rcases h : find line '#' with _ | p
  · refine congrArg some (List.takeWhile_eq_self_iff.mpr fun c hc ↦ ?_).symm
    exact bne_iff_ne.mpr fun hc' ↦ find_eq_none.mp h (hc' ▸ hc)
  · obtain ⟨hp, ht, -⟩ := find_eq_some h
    simp [substr, ht]

/-- **The quote removal** of a non-empty value removes one pair of enclosing quotes, and never
throws. -/
theorem unquote_eq {v : List Char} (hv : v ≠ []) : unquote v = some (dequote v) := by
  obtain ⟨x, xs, rfl⟩ := List.exists_cons_of_ne_nil hv
  have hcount : (sizeSub (xs.length + 1) 2).getD xs.length = xs.length - 1 := by
    unfold sizeSub
    split_ifs <;> simp only [Option.getD_some, Option.getD_none] <;> omega
  obtain ⟨z, hz⟩ : ∃ z, (x :: xs).getLast? = some z := ⟨_, List.getLast?_eq_getLast _ hv⟩
  simp only [unquote, dequote, List.head?_cons, hz]
  by_cases hq : x = '"' ∧ z = '"'
  · simp [hq, substr, hcount, List.dropLast_eq_take]
  · simp [hq]

/-- The value of a line that is no header ends with the line's last character, so it keeps a
non-blank character after trimming. -/
theorem trimBlanks_value_ne_nil {d : List Char} {x : Char} (hx : isBlank x = false)
    (hc : ':' ∈ d ++ [x]) (hh : ¬ (x = ':' ∧ ':' ∉ d)) :
    trimBlanks ((d ++ [x]).dropWhile (· != ':')).tail ≠ [] := by
  have hd : ':' ∈ d := by
    rcases List.mem_append.mp hc with h | h
    · exact h
    · exact by_contra fun h' ↦ hh ⟨(List.mem_singleton.mp h).symm, h'⟩
  obtain ⟨c, hcd⟩ := find_of_mem hd
  obtain ⟨hc, -, hdrop⟩ := find_eq_some hcd
  obtain ⟨y, ys, hy⟩ := List.exists_cons_of_ne_nil (by simp; omega : d.drop c ≠ [])
  refine trimBlanks_ne_nil_of_mem (x := x) ?_ hx
  rw [List.dropWhile_append, ← hdrop, hy]
  simp

/-- **The header test and the split**, on a trimmed line: it means what `trimmedMeaning` says. -/
theorem parseTrimmed_concat (d : List Char) {x : Char} (hx : isBlank x = false) :
    parseTrimmed (d ++ [x]) = some (trimmedMeaning (d ++ [x])) := by
  unfold parseTrimmed trimmedMeaning
  by_cases hd : ':' ∈ d
  · obtain ⟨c, hc⟩ := find_of_mem hd
    have hlt := (find_eq_some hc).1
    have hc' : find (d ++ [x]) ':' = some c := by rw [find_concat, hc]; rfl
    obtain ⟨-, htake, hdrop⟩ := find_eq_some hc'
    have hne := trimBlanks_value_ne_nil hx (List.mem_append_left _ hd) (fun h ↦ h.2 hd)
    have hle : c + 1 ≤ (d ++ [x]).length := by simp; omega
    simp [hc', hlt.ne, hd]
    simp only [substr_zero, substr_none hle, Option.some_bind, trim_eq, htake, ← List.tail_drop,
      hdrop, unquote_eq hne]
  · have hnone := find_eq_none.mpr hd
    by_cases hx' : x = ':'
    · subst hx'
      simp [find_concat, hnone, hd, substr_zero]
    · simp [find_concat, hnone, hd, hx', Ne.symm hx']

/-- **The two levels agree.** Every line, of any characters, parses without throwing and
without reading the end of an empty string, to what it means. -/
theorem parseLine_eq (line : List Char) : parseLine line = some (lineMeaning line) := by
  simp only [parseLine, stripComment_eq, trimLine_eq, lineMeaning]
  by_cases ht : trimBlanks (line.takeWhile (· != '#')) = []
  · simp [ht]
  · obtain ⟨d, x, hdx, hx⟩ := trimBlanks_eq_concat ht
    simp [ht, hdx, parseTrimmed_concat d hx]

/-! ### The file loop -/

theorem foldlM_parseStep (lines : List (List Char)) (st : List Char × ConfigMap) :
    lines.foldlM parseStep st = some (applyLines st lines) := by
  induction lines generalizing st with
  | nil => rfl
  | cons line lines ih => simp [List.foldlM, parseStep, parseLine_eq, ih]

/-- **The file loop** reads every file to the end, as what its lines mean. -/
theorem parseConfigFile_eq (content : List Char) :
    parseConfigFile (some content) = some (applyLines ([], ∅) (getLines content)).2 := by
  simp [parseConfigFile, foldlM_parseStep]

/-- A line that means an entry has a non-empty trimmed value: the header test sends a line
whose only colon is its last character away, and the trim keeps that last character. -/
theorem lineMeaning_entry_ne_nil {line key trimmed value : List Char}
    (h : lineMeaning line = .entry key trimmed value) : trimmed ≠ [] := by
  dsimp only [lineMeaning] at h
  split_ifs at h with ht
  obtain ⟨d, x, hdx, hx⟩ := trimBlanks_eq_concat ht
  rw [hdx] at h
  dsimp only [trimmedMeaning] at h
  split_ifs at h with hh hc
  cases h
  exact trimBlanks_value_ne_nil hx hc (by simpa using hh)

theorem parseConfigFile_safe (content : List Char) :
    (parseConfigFile (some content)).isSome ∧
      ∀ line ∈ getLines content, ∀ key trimmed value,
        parseLine line = some (.entry key trimmed value) → trimmed ≠ [] := by
  refine ⟨by simp [parseConfigFile_eq], fun line _ key trimmed value h ↦ ?_⟩
  rw [parseLine_eq, Option.some.injEq] at h
  exact lineMeaning_entry_ne_nil h

/-! ### Documents -/

/-- A character a section name or a key may hold: no `:`, `#`, CR or LF. -/
def nameChar (c : Char) : Bool := c != ':' && c != '#' && c != '\r' && c != '\n'

/-- A character a value may hold: no `#`, CR or LF. -/
def valueChar (c : Char) : Bool := c != '#' && c != '\r' && c != '\n'

/-- An item of a configuration document: a section header, or an entry whose value is written
bare or between quotes. -/
inductive ConfigItem
  | header (name : List Char)
  | entry (key value : List Char) (bare : Bool)
deriving DecidableEq, Repr

/-- The items the file format can express: names and keys of name characters with no blank at
either end, a non-empty section name, values of value characters, and a bare value only when
it is non-empty, unpadded and not itself between quotes. -/
def ConfigItem.wellFormed : ConfigItem → Bool
  | .header name => !name.isEmpty && name.all nameChar && unpadded name
  | .entry key value bare => key.all nameChar && unpadded key && value.all valueChar &&
      (!bare || (!value.isEmpty && unpadded value &&
        !(value.head? == some '"' && value.getLast? == some '"')))

/-- How a value is written: bare, or between quotes. -/
def writtenValue (value : List Char) : Bool → List Char
  | true => value
  | false => '"' :: value ++ ['"']

/-- The line of an item: `S:`, or `  k: v` with the value as written. -/
def ConfigItem.render : ConfigItem → List Char
  | .header name => name ++ [':']
  | .entry key value bare => ' ' :: ' ' :: key ++ ':' :: ' ' :: writtenValue value bare

/-- A document: each item's line followed by the line terminator `eol`. -/
def renderDocument (eol : List Char) : List ConfigItem → List Char
  | [] => []
  | item :: items => item.render ++ eol ++ renderDocument eol items

/-- The key an entry is stored under: `S.k` under the most recent header `S`, `k` before any. -/
def sectionKey : Option (List Char) → List Char → List Char
  | none, key => key
  | some name, key => name ++ '.' :: key

/-- One item of a document, read as the format intends: a header opens its section, an entry
stores its value, replacing an earlier one. -/
def documentStep (st : Option (List Char) × ConfigMap) :
    ConfigItem → Option (List Char) × ConfigMap
  | .header name => (some name, st.2)
  | .entry key value _ => (st.1, st.2.insert (sectionKey st.1 key) value)

/-- The map a document describes. -/
def documentMap (items : List ConfigItem) : ConfigMap :=
  (items.foldl documentStep (none, ∅)).2

/-- What the line of an item means to the parser. -/
def ConfigItem.lineStep : ConfigItem → LineStep
  | .header name => .header name
  | .entry key value bare => .entry key (writtenValue value bare) value

theorem valueChar_of_nameChar {c : Char} (h : nameChar c) : valueChar c := by
  simp_all [nameChar, valueChar]

theorem colon_not_mem {s : List Char} (h : s.all nameChar) : ':' ∉ s := fun hm ↦ by
  simpa [nameChar] using List.all_eq_true.mp h _ hm

/-- The line of a well-formed item holds no `#` and no line end. -/
theorem render_valueChar {i : ConfigItem} (h : i.wellFormed) : i.render.all valueChar := by
  have hname {s : List Char} (hs : s.all nameChar) : s.all valueChar :=
    List.all_eq_true.mpr fun c hc ↦ valueChar_of_nameChar (List.all_eq_true.mp hs c hc)
  have hc : valueChar ':' ∧ valueChar ' ' ∧ valueChar '"' := by decide
  cases i with
  | header name =>
    simp only [ConfigItem.wellFormed, Bool.and_eq_true] at h
    simp [ConfigItem.render, hname h.1.2, hc]
  | entry key value bare =>
    simp only [ConfigItem.wellFormed, Bool.and_eq_true] at h
    cases bare <;> simp [ConfigItem.render, writtenValue, hname h.1.1.1, h.1.2, hc]

theorem getLinesFrom_append_newline {l : List Char} (hl : '\n' ∉ l) (cur rest : List Char) :
    getLinesFrom (l ++ '\n' :: rest) cur = (cur.reverse ++ l) :: getLinesFrom rest [] := by
  induction l generalizing cur with
  | nil => simp [getLinesFrom]
  | cons c l ih =>
    rw [List.mem_cons, not_or] at hl
    simp [getLinesFrom, Ne.symm hl.1, ih hl.2]

/-- `std::getline` reads a document with LF line ends back as the lines of its items. -/
theorem getLines_renderDocument {items : List ConfigItem} (hw : ∀ i ∈ items, i.wellFormed) :
    getLines (renderDocument ['\n'] items) = items.map ConfigItem.render := by
  induction items with
  | nil => rfl
  | cons i is ih =>
    have hl : '\n' ∉ i.render := fun h ↦ by
      simpa [valueChar] using
        List.all_eq_true.mp (render_valueChar (hw i (List.mem_cons_self _ _))) _ h
    rw [renderDocument, List.append_assoc, List.singleton_append, getLines,
      getLinesFrom_append_newline hl]
    simpa using ih fun j hj ↦ hw j (List.mem_cons_of_mem _ hj)

theorem lineMeaning_blank_cons {c : Char} (hc : isBlank c) (l : List Char) :
    lineMeaning (c :: l) = lineMeaning l := by
  have : (c != '#') = true := by
    simp only [isBlank, Bool.or_eq_true, beq_iff_eq] at hc
    rcases hc with rfl | rfl <;> rfl
  have h : (c :: l).takeWhile (· != '#') = c :: l.takeWhile (· != '#') :=
    List.takeWhile_cons_of_pos this
  simp only [lineMeaning, h, trimBlanks_blank_cons hc]

theorem lineMeaning_of_unpadded {t : List Char} (h : '#' ∉ t) (hne : t ≠ []) (hu : unpadded t) :
    lineMeaning t = trimmedMeaning t := by
  have ht : t.takeWhile (· != '#') = t :=
    List.takeWhile_eq_self_iff.mpr fun c hc ↦ bne_iff_ne.mpr fun e ↦ h (e ▸ hc)
  simp [lineMeaning, ht, trimBlanks_eq_self hu, hne]

theorem trimmedMeaning_header {name : List Char} (h : ':' ∉ name) :
    trimmedMeaning (name ++ [':']) = .header name := by
  simp [trimmedMeaning, h]

/-- An entry line splits at the colon after its key, whatever colons its value holds. -/
theorem trimmedMeaning_entry {key w : List Char} (hk : ':' ∉ key) (hku : unpadded key)
    (hwu : unpadded w) :
    trimmedMeaning (key ++ ':' :: ' ' :: w) = .entry key w (dequote w) := by
  have hkey : ∀ c ∈ key, (c != ':') = true :=
    fun c hc ↦ bne_iff_ne.mpr fun e ↦ hk (e ▸ hc)
  have hlast : ':' ∈ (key ++ ':' :: ' ' :: w).dropLast := by simp [List.dropLast_append_cons]
  simp [trimmedMeaning, List.takeWhile_append_of_pos hkey, List.dropWhile_append_of_pos hkey,
    hlast, trimBlanks_eq_self hku, trimBlanks_blank_cons, trimBlanks_eq_self hwu, isBlank]

/-- A value as the document writes it is non-empty and unpadded, and the quote removal gives
the value back. -/
theorem writtenValue_spec {key value : List Char} {bare : Bool}
    (h : (ConfigItem.entry key value bare).wellFormed) :
    writtenValue value bare ≠ [] ∧ unpadded (writtenValue value bare) ∧
      dequote (writtenValue value bare) = value := by
  simp only [ConfigItem.wellFormed, Bool.and_eq_true] at h
  cases bare
  · have hl : ('"' :: value ++ ['"']).getLast? = some '"' := by
      rw [List.getLast?_append]; rfl
    simp only [writtenValue, unpadded, dequote, hl]
    simp [isBlank]
  · simp only [Bool.not_true, Bool.false_or, Bool.and_eq_true, Bool.not_eq_true',
      List.isEmpty_eq_false] at h
    exact ⟨h.2.1.1, h.2.1.2, if_neg fun ⟨h1, h2⟩ ↦ by
      simp [show value.head? = _ from h1, show value.getLast? = _ from h2] at h⟩

theorem unpadded_colon_blank {w : List Char} (hw : w ≠ []) (hu : unpadded w) :
    unpadded (':' :: ' ' :: w) := by
  obtain ⟨y, ys, rfl⟩ := List.exists_cons_of_ne_nil hw
  simp only [unpadded, Bool.and_eq_true] at hu
  simpa [unpadded, isBlank] using hu.2

/-- **The line of an item** means the item. -/
theorem lineMeaning_render {i : ConfigItem} (h : i.wellFormed) :
    lineMeaning i.render = i.lineStep := by
  have hh : '#' ∉ i.render := fun hm ↦ by
    simpa [valueChar] using List.all_eq_true.mp (render_valueChar h) _ hm
  cases i with
  | header name =>
    simp only [ConfigItem.wellFormed, Bool.and_eq_true, Bool.not_eq_true',
      List.isEmpty_eq_false] at h
    simp only [ConfigItem.render] at hh ⊢
    rw [lineMeaning_of_unpadded hh (by simp) (unpadded_append h.2 (by decide)),
      trimmedMeaning_header (colon_not_mem h.1.2)]
    rfl
  | entry key value bare =>
    obtain ⟨hw, hwu, hdq⟩ := writtenValue_spec h
    simp only [ConfigItem.wellFormed, Bool.and_eq_true] at h
    simp only [ConfigItem.render, List.cons_append] at hh ⊢
    rw [lineMeaning_blank_cons (by decide), lineMeaning_blank_cons (by decide),
      lineMeaning_of_unpadded (fun hm ↦ hh (by simp [hm])) (by simp)
        (unpadded_append h.1.1.2 (unpadded_colon_blank hw hwu)),
      trimmedMeaning_entry (colon_not_mem h.1.1.1) h.1.1.2 hwu, hdq]
    rfl

/-- `current_section` holds the most recent header, or the empty string before any. -/
theorem fullKey_getD {sec : Option (List Char)} (hs : sec ≠ some []) (key : List Char) :
    fullKey (sec.getD []) key = sectionKey sec key := by
  rcases sec with _ | _ | ⟨c, name⟩
  · rfl
  · exact absurd rfl hs
  · rfl

/-- **Step lemma.** The line of a well-formed item does to the parser's state what the item
does to the document's. -/
theorem apply_lineMeaning_render {i : ConfigItem} (h : i.wellFormed) {sec : Option (List Char)}
    (hs : sec ≠ some []) (m : ConfigMap) :
    (lineMeaning i.render).apply (sec.getD [], m) =
        ((documentStep (sec, m) i).1.getD [], (documentStep (sec, m) i).2) ∧
      (documentStep (sec, m) i).1 ≠ some [] := by
  rw [lineMeaning_render h]
  cases i with
  | header name =>
    simp only [ConfigItem.wellFormed, Bool.and_eq_true, Bool.not_eq_true',
      List.isEmpty_eq_false] at h
    simpa [ConfigItem.lineStep, LineStep.apply, documentStep] using h.1.1
  | entry key value bare =>
    simpa [ConfigItem.lineStep, LineStep.apply, documentStep, fullKey_getD hs] using hs

/-- **Run lemma.** The lines of well-formed items do to the parser's state what the items do
to the document's. -/
theorem applyLines_render {items : List ConfigItem} (hw : ∀ i ∈ items, i.wellFormed)
    {sec : Option (List Char)} (hs : sec ≠ some []) (m : ConfigMap) :
    applyLines (sec.getD [], m) (items.map ConfigItem.render) =
      ((items.foldl documentStep (sec, m)).1.getD [], (items.foldl documentStep (sec, m)).2) := by
  induction items generalizing sec m with
  | nil => rfl
  | cons i is ih =>
    obtain ⟨happ, hs'⟩ := apply_lineMeaning_render (hw i (List.mem_cons_self _ _)) hs m
    rw [List.map_cons, applyLines_cons, happ,
      ih (fun j hj ↦ hw j (List.mem_cons_of_mem _ hj)) hs']
    rfl

theorem parseConfigFile_render {items : List ConfigItem} (hw : ∀ i ∈ items, i.wellFormed) :
    parseConfigFile (some (renderDocument ['\n'] items)) = some (documentMap items) := by
  have h := applyLines_render hw (show none ≠ some [] from nofun) ∅
  rw [parseConfigFile_eq, getLines_renderDocument hw]
  exact congrArg (some ∘ Prod.snd) h

theorem parseConfigFile_render_header_entry :
    let items := [ConfigItem.header ['r', 'f'], .entry ['k'] ['"', ':'] false]
    (∀ i ∈ items, i.wellFormed) ∧
      parseConfigFile (some (renderDocument ['\n'] items)) = some (documentMap items) :=
  ⟨by decide, parseConfigFile_render (by decide)⟩

/-- With CRLF line ends the header `a` is written `a:` CR LF. The line keeps its CR, no longer
ends in `:`, and is read as the entry `a` with the value CR, where the document describes the
empty map. -/
theorem parseConfigFile_crlf_header :
    (let items := [ConfigItem.header ['a']]
    (∀ i ∈ items, i.wellFormed) ∧ documentMap items = ∅ ∧
      parseConfigFile (some (renderDocument ['\r', '\n'] items)) =
        some ((∅ : ConfigMap).insert ['a'] ['\r'])) :=
  ⟨by decide, rfl, rfl⟩

/-! ### What the parser stores -/

/-- What a line may leave in the parser's state: a section name or key holds no `:`, `#` or
LF, and a value no `#` or LF. -/
def LineStep.stored : LineStep → Prop
  | .skip => True
  | .header name => ∀ c ∈ name, c ≠ ':' ∧ c ≠ '#' ∧ c ≠ '\n'
  | .entry key _ value =>
    (∀ c ∈ key, c ≠ ':' ∧ c ≠ '#' ∧ c ≠ '\n') ∧ ∀ c ∈ value, c ≠ '#' ∧ c ≠ '\n'

/-- The parser's state holds what lines may leave in it. -/
def StoredState (st : List Char × ConfigMap) : Prop :=
  (∀ c ∈ st.1, c ≠ ':' ∧ c ≠ '#' ∧ c ≠ '\n') ∧ ∀ k v, st.2.lookup k = some v →
    (∀ c ∈ k, c ≠ ':' ∧ c ≠ '#' ∧ c ≠ '\n') ∧ ∀ c ∈ v, c ≠ '#' ∧ c ≠ '\n'

theorem getLinesFrom_newline_not_mem : ∀ (cs cur : List Char), '\n' ∉ cur →
    ∀ line ∈ getLinesFrom cs cur, '\n' ∉ line
  | [], cur, h, line, hl => by
    unfold getLinesFrom at hl
    split_ifs at hl
    · exact absurd hl (List.not_mem_nil _)
    · rw [List.mem_singleton.mp hl, List.mem_reverse]; exact h
  | c :: cs, cur, h, line, hl => by
    unfold getLinesFrom at hl
    split_ifs at hl with hc
    · rcases List.mem_cons.mp hl with rfl | hl
      · rw [List.mem_reverse]; exact h
      · exact getLinesFrom_newline_not_mem cs [] (List.not_mem_nil _) line hl
    · exact getLinesFrom_newline_not_mem cs (c :: cur)
        (fun hm ↦ (List.mem_cons.mp hm).elim (fun he ↦ hc he.symm) h) line hl

theorem mem_of_mem_trimBlanks {s : List Char} {c : Char} (h : c ∈ trimBlanks s) : c ∈ s :=
  (List.dropWhile_suffix _).subset ((List.rdropWhile_prefix _ _).subset h)

theorem mem_of_mem_dequote {s : List Char} {c : Char} (h : c ∈ dequote s) : c ∈ s := by
  unfold dequote at h
  split_ifs at h
  · exact List.drop_subset 1 s (List.dropLast_subset _ h)
  · exact h

/-- The text before the first `x`, trimmed, holds no `x`. -/
theorem mem_trimBlanks_takeWhile {l : List Char} {x c : Char}
    (h : c ∈ trimBlanks (l.takeWhile (· != x))) : c ≠ x ∧ c ∈ l := by
  have hc := mem_of_mem_trimBlanks h
  exact ⟨by simpa using List.mem_takeWhile_imp hc, (List.takeWhile_prefix _).subset hc⟩

/-- **Step lemma.** A line with no LF means a step that leaves only what the parser may
store: the text it reads stops before the first `#`, and a name or key before the first
`:`. -/
theorem lineMeaning_stored {line : List Char} (hl : '\n' ∉ line) :
    (lineMeaning line).stored := by
  dsimp only [lineMeaning]
  set t := trimBlanks (line.takeWhile (· != '#'))
  have ht : ∀ c ∈ t, c ≠ '#' ∧ c ≠ '\n' := fun c hc ↦
    have hc := mem_trimBlanks_takeWhile hc
    ⟨hc.1, fun he ↦ hl (he ▸ hc.2)⟩
  split_ifs
  · trivial
  dsimp only [trimmedMeaning]
  split_ifs with hh
  · exact fun c hc ↦ ⟨fun he ↦ hh.2 (he ▸ hc), ht c (List.dropLast_subset _ hc)⟩
  · refine ⟨fun c hc ↦ ?_, fun c hc ↦ ht c ?_⟩
    · have hc := mem_trimBlanks_takeWhile hc
      exact ⟨hc.1, ht c hc.2⟩
    · exact (List.dropWhile_suffix _).subset
        (List.mem_of_mem_tail (mem_of_mem_trimBlanks (mem_of_mem_dequote hc)))
  · trivial

theorem LineStep.storedState_apply {st : List Char × ConfigMap} (hs : StoredState st)
    {s : LineStep} (h : s.stored) : StoredState (s.apply st) := by
  cases s with
  | skip => exact hs
  | header name => exact ⟨h, hs.2⟩
  | entry key _ value =>
    refine ⟨hs.1, fun k v hk ↦ ?_⟩
    by_cases hkey : k = fullKey st.1 key
    · subst hkey
      rw [LineStep.apply, AList.lookup_insert, Option.some.injEq] at hk
      subst hk
      refine ⟨fun c hc ↦ ?_, h.2⟩
      unfold fullKey at hc
      split_ifs at hc
      · exact h.1 c hc
      rcases List.mem_append.mp hc with hc | hc
      · exact hs.1 c hc
      rcases List.mem_cons.mp hc with rfl | hc
      · decide
      · exact h.1 c hc
    · rw [LineStep.apply, AList.lookup_insert_ne hkey] at hk
      exact hs.2 k v hk

/-- **Run lemma.** -/
theorem applyLines_stored {lines : List (List Char)} (hl : ∀ line ∈ lines, '\n' ∉ line)
    {st : List Char × ConfigMap} (hs : StoredState st) : StoredState (applyLines st lines) := by
  induction lines generalizing st with
  | nil => exact hs
  | cons line lines ih =>
    rw [applyLines_cons]
    exact ih (fun l h ↦ hl l (List.mem_cons_of_mem _ h))
      (LineStep.storedState_apply hs (lineMeaning_stored (hl line (List.mem_cons_self _ _))))

/-- **What the parser stores.** For every file, no key of the map the parser returns holds
`:`, `#` or LF, and no value holds `#` or LF. A `#` starts a comment even between quotes. -/
theorem parseConfigFile_stored {content : List Char} {m : ConfigMap}
    (hm : parseConfigFile (some content) = some m) {k v : List Char} (h : m.lookup k = some v) :
    (∀ c ∈ k, c ≠ ':' ∧ c ≠ '#' ∧ c ≠ '\n') ∧ ∀ c ∈ v, c ≠ '#' ∧ c ≠ '\n' := by
  rw [parseConfigFile_eq, Option.some.injEq] at hm
  subst hm
  have h₀ : StoredState ([], ∅) := ⟨fun _ h ↦ absurd h (List.not_mem_nil _), by simp⟩
  exact (applyLines_stored (getLinesFrom_newline_not_mem content [] (List.not_mem_nil _)) h₀).2
    k v h

/-- Under `rf:`, `device_args: "serial=#1"` stores `"serial=`, its opening quote kept. -/
theorem parseConfigFile_stored_hash :
    (let m : ConfigMap := (∅ : ConfigMap).insert "rf.device_args".toList "\"serial=".toList
    parseConfigFile (some "rf:\n  device_args: \"serial=#1\"\n".toList) = some m ∧
      m.lookup "rf.device_args".toList = some "\"serial=".toList ∧
      (∀ c ∈ "rf.device_args".toList, c ≠ ':' ∧ c ≠ '#' ∧ c ≠ '\n') ∧
      ∀ c ∈ "\"serial=".toList, c ≠ '#' ∧ c ≠ '\n') :=
  have hm : parseConfigFile (some "rf:\n  device_args: \"serial=#1\"\n".toList) =
      some ((∅ : ConfigMap).insert "rf.device_args".toList "\"serial=".toList) := rfl
  ⟨hm, AList.lookup_insert _, parseConfigFile_stored hm (AList.lookup_insert _)⟩

end ConfigFile

end SsbSpoofer
