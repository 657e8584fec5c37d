import Mathlib.Algebra.GroupWithZero.Nat
import Mathlib.Data.List.Induction
import ObdGpsLogger.CLib.Buffer
import ObdGpsLogger.Machine.Run

/-!
# The lines of the logger, for the GUI

`loggerhandler::pulse` of `src/gui/loggerhandler.cpp` reads what the logger has
written on its standard output, and hands the lines of it to `updateUI`. What is
read goes behind what is left in `mLinebuf`; a line at its front is cut off.

The loop stops when the front line has the length 0. Where there is no newline
it has nothing to cut off, but an empty line has that length too: it stays at
the front, and no line behind it is ever handed over. `handsLines_iff` says for
which streams the lines are handed over all the same.

Mirroring notes:
- A pulse gets the chunk that its `read` delivers, `[]` if `select` finds
  nothing or the `read` gives 0. A `read` never delivers more than it was asked
  for.
- `running` says that the child runs for the whole pulse (`checkRunning`).
- `none` is an access outside of an array: the NUL that is put behind a chunk
  which fills `mLinebuf`, or a copy that finds no NUL.
- What goes to the two log windows, and the standard error, are left out.
-/

namespace ObdGpsLogger.Gui

open CLib Machine

/-! ## The code -/

/-- What a `loggerhandler` keeps for its lines. `mCurrentBufpos` is the offset. -/
structure LoggerHandler where
  mUsable : Bool
  mLinebuf : Buffer 4096
  mCurrentBufpos : Nat

/-- The characters of the `strcspn`. The NUL ends their string. -/
def newlines : List Char := ['\r', '\n']

/-- The `while` loop: what it hands to `updateUI`. -/
def lineLoop (running : Bool) : Nat → LoggerHandler → Option (LoggerHandler × List (List Char))
  | 0, _ => none
  | fuel + 1, h =>
    match strcspn newlines h.mLinebuf.cells with
    | none => none
    | some linelen =>
      if 0 < linelen ∧ h.mLinebuf.cells[linelen]? ≠ some nul then
        let line := h.mLinebuf.cells.take linelen
        let rest := h.mLinebuf.cells.drop (linelen + 1)
        if nul ∈ rest then
          let tmp := cstr rest
          let mLinebuf := (Buffer.zeroed 4096).store 0 tmp
          if running then
            (lineLoop running fuel ⟨h.mUsable, mLinebuf, tmp.length⟩).map fun x =>
              (x.1, line :: x.2)
          else some (⟨false, mLinebuf, tmp.length⟩, [])
        else none
      else some (h, [])

/-- `loggerhandler::pulse`. A line takes two characters at least, so 4096 turns
are enough (`lineLoop_spec`). -/
def LoggerHandler.pulse (running : Bool) (h : LoggerHandler) (chunk : List Char) :
    Option (LoggerHandler × List (List Char)) :=
  if h.mUsable then
    let read := chunk.take (4096 - h.mCurrentBufpos)
    if read = [] then lineLoop running 4096 h
    else if h.mCurrentBufpos + read.length < 4096 then
      lineLoop running 4096 { h with
        mLinebuf := h.mLinebuf.store h.mCurrentBufpos (read ++ [nul])
        mCurrentBufpos := h.mCurrentBufpos + read.length }
    else none
  else some (h, [])

/-- A handler whose child has been started. -/
def started : LoggerHandler := ⟨true, Buffer.zeroed 4096, 0⟩

/-! ## The lines of a stream -/

/-- A character at which a line of the logger ends. -/
def endsLine (c : Char) : Bool := newlines.contains c

/-- The lines of a stream that have ended, empty ones among them. -/
def terminatedLines (stream : List Char) : List (List Char) := (stream.splitOnP endsLine).dropLast

/-- What stands behind the last of them. -/
def unterminated (stream : List Char) : List Char :=
  (stream.splitOnP endsLine).getLast (List.splitOnP_ne_nil endsLine stream)

/-- The lines of the chunks are those handed over. -/
def HandsLines (chunks : List (List Char)) : Prop :=
  ∃ h os, run (LoggerHandler.pulse true) started chunks = some (h, os) ∧
    os.flatten = (terminatedLines chunks.flatten).filter (· ≠ [])

/-- No line with text ends behind an empty one, and the empty ones leave room
for what is read. -/
structure NotHeldBack (stream : List Char) : Prop where
  behind : ∀ ls more, terminatedLines stream = ls ++ [] :: more → ∀ l ∈ more, l = []
  room : (terminatedLines stream).count [] + (unterminated stream).length < 4096

theorem splitOnP_endsLine (stream : List Char) :
    stream.splitOnP endsLine = terminatedLines stream ++ [unterminated stream] :=
  (List.dropLast_concat_getLast _).symm

/-- The lines of a text and what ends them are the text. -/
theorem splitOnP_length {α : Type} (p : α → Bool) : ∀ text : List α,
    ((text.splitOnP p).map fun l => l.length + 1).sum = text.length + 1
  | [] => by rw [List.splitOnP_nil]; rfl
  | a :: text => by
    have ih := splitOnP_length p text
    rw [List.splitOnP_cons_eq_if_modifyHead]
    split
    · rw [List.map_cons, List.sum_cons, ih, List.length_cons]
      simp
      omega
    · obtain ⟨l, ls, hls⟩ := List.exists_cons_of_ne_nil (List.splitOnP_ne_nil p text)
      rw [hls] at ih ⊢
      rw [List.map_cons, List.sum_cons] at ih
      rw [List.modifyHead_cons, List.map_cons, List.sum_cons, List.length_cons, List.length_cons]
      omega

/-- A text is free of newlines, or has a first one. -/
theorem firstLine_cases (text : List Char) : (∀ c ∈ text, endsLine c = false) ∨
    ∃ line t rest, text = line ++ t :: rest ∧ (∀ c ∈ line, endsLine c = false) ∧
      endsLine t = true := by
  cases hfind : text.find? endsLine with
  | none =>
    refine Or.inl fun c hc => ?_
    exact Bool.eq_false_iff.mpr (List.find?_eq_none.mp hfind c hc)
  | some t =>
    obtain ⟨hends, line, rest, htext, hline⟩ := List.find?_eq_some_iff_append.mp hfind
    refine Or.inr ⟨line, t, rest, htext, fun c hc => ?_, hends⟩
    simpa using hline c hc

/-! ## What the array holds -/

/-- Behind the lines handed over, the array holds what is left of the stream:
cut after `more`, it goes on as the stream does. -/
structure Handing (stream : List Char) (handed : List (List Char)) (held : List Char)
    (h : LoggerHandler) : Prop where
  usable : h.mUsable = true
  holding : h.mLinebuf.Holding held
  bufpos : h.mCurrentBufpos = held.length
  fits : held.length < 4096
  noNul : nul ∉ held
  split : ∀ more, (stream ++ more).splitOnP endsLine =
    handed ++ (held ++ more).splitOnP endsLine
  nonEmpty : ∀ l ∈ handed, l ≠ []

/-- What the loop leaves: no newline, or one at the front. -/
def AtRest (held : List Char) : Prop :=
  (∀ c ∈ held, endsLine c = false) ∨ ∃ t more, held = t :: more ∧ endsLine t = true

theorem handing_started : Handing [] [] [] started where
  usable := rfl
  holding := holding_zeroed 4096
  bufpos := rfl
  fits := by decide
  noNul := List.not_mem_nil
  split := fun _ => rfl
  nonEmpty := fun _ hl => absurd hl List.not_mem_nil

section Loop

variable {stream : List Char} {handed : List (List Char)} {held : List Char} {h : LoggerHandler}

theorem endsLine_iff {c : Char} : endsLine c = true ↔ c ∈ newlines := List.contains_iff_mem

/-- A span of a line has none of the characters that `strcspn` looks for. -/
theorem span_of_line {line : List Char} (hline : ∀ c ∈ line, endsLine c = false)
    (hnul : nul ∉ line) : ∀ c ∈ line, c ≠ nul ∧ c ∉ newlines := by
  intro c hc
  refine ⟨fun he => hnul (he ▸ hc), fun hn => ?_⟩
  have hno := hline c hc
  rw [endsLine_iff.mpr hn] at hno
  cases hno

/-- The array is filled up with NULs behind the text that is held back, so the
text is a string that ends inside it. -/
theorem Handing.cells (hinv : Handing stream handed held h) :
    ∃ n, h.mLinebuf.cells = held ++ nul :: List.replicate n nul := by
  obtain ⟨n, hn⟩ := Nat.exists_eq_add_of_lt hinv.fits
  refine ⟨n, ?_⟩
  rw [hinv.holding.cells, ← List.replicate_succ]
  congr 2
  omega

/-- In a text without a newline the loop finds only the NUL behind it: nothing
is handed over, and the loop is over. -/
theorem Handing.lineLoop_none (hinv : Handing stream handed held h)
    (hnone : ∀ c ∈ held, endsLine c = false) (fuel : Nat) :
    lineLoop true (fuel + 1) h = some (h, []) := by
  obtain ⟨n, hcells⟩ := hinv.cells
  have hspan : strcspn newlines h.mLinebuf.cells = some held.length := by
    rw [hcells]
    exact strcspn_append (span_of_line hnone hinv.noNul) (Or.inl rfl)
  have hat : h.mLinebuf.cells[held.length]? = some nul := by
    rw [hcells, List.getElem?_append_right (Nat.le_refl _), Nat.sub_self]
    rfl
  rw [lineLoop, hspan]
  dsimp only
  rw [if_neg fun hcut => hcut.2 hat]

/-- Where the text that is held back begins with a newline, the loop takes that
for the end of the text, and is over. -/
theorem Handing.lineLoop_blank {t : Char} {rest : List Char}
    (hinv : Handing stream handed (t :: rest) h) (ht : endsLine t = true) (fuel : Nat) :
    lineLoop true (fuel + 1) h = some (h, []) := by
  have hspan : strcspn newlines h.mLinebuf.cells = some 0 := by
    rw [hinv.holding.cells]
    exact strcspn_append (span_of_line (fun c hc => by cases hc) List.not_mem_nil)
      (Or.inr (endsLine_iff.mp ht))
  rw [lineLoop, hspan]
  dsimp only
  rw [if_neg fun hcut => absurd hcut.1 (Nat.lt_irrefl 0)]

section Cut

variable {line rest : List Char} {t : Char}

/-- Where the text that is held back begins with a line that is not empty, the
loop hands that line over, moves the rest of the text to the front of the array,
and goes on with it. -/
theorem Handing.lineLoop_cut (hinv : Handing stream handed (line ++ t :: rest) h)
    (hne : line ≠ []) (hline : ∀ c ∈ line, endsLine c = false) (ht : endsLine t = true)
    (fuel : Nat) :
    lineLoop true (fuel + 1) h =
      (lineLoop true fuel ⟨h.mUsable, (Buffer.zeroed 4096).store 0 rest, rest.length⟩).map
        fun x => (x.1, line :: x.2) := by
  obtain ⟨n, hcells⟩ := hinv.cells
  rw [List.append_assoc] at hcells
  have hnul : nul ∉ line ∧ nul ∉ t :: rest := by
    rw [← not_or, ← List.mem_append]
    exact hinv.noNul
  -- the span of the text up to a newline is the first line
  have hspan : strcspn newlines h.mLinebuf.cells = some line.length := by
    rw [hcells]
    exact strcspn_append (span_of_line hline hnul.1) (Or.inr (endsLine_iff.mp ht))
  have hat : h.mLinebuf.cells[line.length]? = some t := by
    rw [hcells, List.getElem?_append_right (Nat.le_refl _), Nat.sub_self]
    rfl
  have htnul : t ≠ nul := fun he => hnul.2 (he ▸ List.mem_cons_self ..)
  have htake : h.mLinebuf.cells.take line.length = line := by
    rw [hcells, List.take_left]
  -- behind the newline are the rest of the text and the NULs
  have hdrop : h.mLinebuf.cells.drop (line.length + 1) = rest ++ nul :: List.replicate n nul := by
    rw [hcells, ← List.drop_drop, List.drop_left]
    rfl
  have hrest : nul ∉ rest := fun hm => hnul.2 (List.mem_cons_of_mem t hm)
  have htmp : cstr (rest ++ nul :: List.replicate n nul) = rest := by
    rw [← List.replicate_succ, cstr_append_zeros fun d hd => List.eq_of_mem_replicate hd,
      cstr_eq_self hrest]
  have hmem : nul ∈ rest ++ nul :: List.replicate n nul :=
    List.mem_append_right rest (List.mem_cons_self ..)
  rw [lineLoop, hspan]
  dsimp only
  rw [if_pos ⟨List.length_pos_iff.mpr hne, fun he => htnul (Option.some.inj (hat ▸ he))⟩, hdrop,
    if_pos hmem, if_pos rfl, htmp, htake]

/-- Once a line has been handed over and the rest moved to the front, the rest
is again what is held back of the stream. -/
theorem Handing.cut (hinv : Handing stream handed (line ++ t :: rest) h) (hne : line ≠ [])
    (hline : ∀ c ∈ line, endsLine c = false) (ht : endsLine t = true) :
    Handing stream (handed ++ [line]) rest
      ⟨h.mUsable, (Buffer.zeroed 4096).store 0 rest, rest.length⟩ := by
  have hfits := hinv.fits
  rw [List.length_append, List.length_cons] at hfits
  refine ⟨hinv.usable, (holding_zeroed 4096).store ?_, rfl, by omega, ?_, ?_, ?_⟩
  · rw [List.length_nil]
    omega
  · intro hm
    exact hinv.noNul (List.mem_append_right line (List.mem_cons_of_mem t hm))
  · intro more
    have htail : line ++ t :: rest ++ more = line ++ t :: (rest ++ more) := List.append_assoc ..
    rw [hinv.split more, htail, List.splitOnP_append_cons_of_forall_mem hline t ht,
      List.append_assoc]
    rfl
  · intro l hl
    rcases List.mem_append.mp hl with hl | hl
    · exact hinv.nonEmpty l hl
    · rw [List.mem_singleton.mp hl]
      exact hne

end Cut

/-- **The loop** hands lines over until there is no newline in the array, or
one at its front. -/
theorem lineLoop_spec : ∀ {fuel : Nat} {handed : List (List Char)} {held : List Char}
    {h : LoggerHandler}, Handing stream handed held h → held.length < fuel →
    ∃ h' lines held', lineLoop true fuel h = some (h', lines) ∧
      Handing stream (handed ++ lines) held' h' ∧ AtRest held' := by
  intro fuel
  induction fuel with
  | zero =>
    intro handed held h _ hfuel
    exact absurd hfuel (Nat.not_lt_zero _)
  | succ fuel ih =>
    intro handed held h hinv hfuel
    rcases firstLine_cases held with hnone | ⟨line, t, rest, rfl, hline, ht⟩
    · refine ⟨h, [], held, hinv.lineLoop_none hnone fuel, ?_, Or.inl hnone⟩
      rw [List.append_nil]
      exact hinv
    · by_cases hne : line = []
      · subst hne
        refine ⟨h, [], t :: rest, hinv.lineLoop_blank ht fuel, ?_, Or.inr ⟨t, rest, rfl, ht⟩⟩
        rw [List.append_nil]
        exact hinv
      · rw [List.length_append, List.length_cons] at hfuel
        obtain ⟨h', lines, held', hloop, hinv', hrest⟩ := ih (hinv.cut hne hline ht) (by omega)
        refine ⟨h', line :: lines, held', ?_, ?_, hrest⟩
        · rw [hinv.lineLoop_cut hne hline ht, hloop]
          rfl
        · rw [List.append_assoc] at hinv'
          exact hinv'

/-- **A pulse** whose chunk fits the array hands over lines and leaves the
handler in the invariant: at rest, with the stream as it is behind the chunk. -/
theorem pulse_spec (hinv : Handing stream handed held h) {chunk : List Char}
    (hnul : nul ∉ chunk) (hroom : held.length + chunk.length < 4096) :
    ∃ h' lines held', h.pulse true chunk = some (h', lines) ∧
      Handing (stream ++ chunk) (handed ++ lines) held' h' ∧ AtRest held' := by
  have hread : chunk.take (4096 - h.mCurrentBufpos) = chunk := by
    refine List.take_of_length_le ?_
    rw [hinv.bufpos]
    omega
  unfold LoggerHandler.pulse
  rw [if_pos hinv.usable]
  dsimp only
  rw [hread]
  -- a read of nothing leaves the array alone, and the line loop runs all the same
  by_cases hempty : chunk = []
  · rw [if_pos hempty]
    subst hempty
    rw [List.append_nil]
    exact lineLoop_spec hinv hinv.fits
  · rw [if_neg hempty, if_pos (by rw [hinv.bufpos]; exact hroom), hinv.bufpos]
    -- the chunk goes behind the text that is held back, with a NUL behind it
    have hstored : (h.mLinebuf.store held.length (chunk ++ [nul])).Holding (held ++ chunk) := by
      refine Buffer.Holding.terminate ?_
      rw [List.append_assoc]
      refine hinv.holding.store ?_
      rw [List.length_append, List.length_singleton]
      omega
    have hread' : Handing (stream ++ chunk) handed (held ++ chunk)
        { h with
          mLinebuf := h.mLinebuf.store held.length (chunk ++ [nul])
          mCurrentBufpos := held.length + chunk.length } := by
      refine ⟨hinv.usable, hstored, ?_, ?_, ?_, ?_, hinv.nonEmpty⟩
      · exact (List.length_append ..).symm
      · rw [List.length_append]
        exact hroom
      · rw [List.mem_append, not_or]
        exact ⟨hinv.noNul, hnul⟩
      · intro more
        rw [List.append_assoc, List.append_assoc]
        exact hinv.split (chunk ++ more)
    refine lineLoop_spec hread' ?_
    rw [List.length_append]
    exact hroom

/-- A pulse without room for its chunk leaves the array. -/
theorem pulse_full (hinv : Handing stream handed held h) {chunk : List Char}
    (hroom : ¬ held.length + chunk.length < 4096) : h.pulse true chunk = none := by
  have hfits := hinv.fits
  have hlen : (chunk.take (4096 - h.mCurrentBufpos)).length = 4096 - held.length := by
    rw [List.length_take, hinv.bufpos]
    omega
  have hne : chunk.take (4096 - h.mCurrentBufpos) ≠ [] := by
    refine List.ne_nil_of_length_pos ?_
    omega
  unfold LoggerHandler.pulse
  rw [if_pos hinv.usable]
  dsimp only
  rw [if_neg hne, if_neg]
  rw [hlen, hinv.bufpos]
  omega

end Loop

/-! ## The lines handed over -/

section Streams

variable {stream text : List Char} {handed : List (List Char)}

/-- Cut after the lines handed over, a stream has the lines of the rest left. -/
theorem lines_of_split (hsplit : stream.splitOnP endsLine = handed ++ text.splitOnP endsLine) :
    terminatedLines stream = handed ++ terminatedLines text ∧
      unterminated stream = unterminated text := by
  rw [splitOnP_endsLine, splitOnP_endsLine, ← List.append_assoc] at hsplit
  obtain ⟨hlines, hlast⟩ := List.append_inj' hsplit rfl
  exact ⟨hlines, List.singleton_inj.mp hlast⟩

theorem lines_of_none (h : ∀ c ∈ text, endsLine c = false) :
    terminatedLines text = [] ∧ unterminated text = text := by
  have hone : text.splitOnP endsLine = [] ++ [text] := List.splitOnP_eq_singleton h
  rw [splitOnP_endsLine] at hone
  obtain ⟨hlines, hlast⟩ := List.append_inj' hone rfl
  exact ⟨hlines, List.singleton_inj.mp hlast⟩

theorem lines_of_front {t : Char} {more : List Char} (ht : endsLine t = true) :
    terminatedLines (t :: more) = [] :: terminatedLines more := by
  have hfront : ([] ++ t :: more).splitOnP endsLine = [[]] ++ more.splitOnP endsLine :=
    List.splitOnP_append_cons_of_forall_mem (fun c hc => absurd hc List.not_mem_nil) t ht more
  exact (lines_of_split hfront).1

/-- A text whose lines are all empty is as long as they are many, and its end. -/
theorem length_of_blank (h : ∀ l ∈ terminatedLines text, l = []) :
    text.length = (terminatedLines text).count [] + (unterminated text).length := by
  have hlen := splitOnP_length endsLine text
  have hall : terminatedLines text = List.replicate (terminatedLines text).length [] :=
    List.eq_replicate_of_mem h
  rw [splitOnP_endsLine, List.map_append, List.sum_append, hall] at hlen
  rw [hall, List.count_replicate_self]
  simp only [List.map_replicate, List.sum_replicate_nat, List.map_cons, List.map_nil,
    List.sum_cons, List.sum_nil, List.length_nil] at hlen
  omega

/-- What stands behind an empty line at the front is empty, where nothing is
held back, and fits. -/
theorem blank_of_front (hstream : NotHeldBack stream)
    (hsplit : stream.splitOnP endsLine = handed ++ text.splitOnP endsLine) {t : Char}
    {more : List Char} (htext : text = t :: more) (ht : endsLine t = true) :
    (∀ l ∈ terminatedLines text, l = []) ∧ text.length < 4096 := by
  obtain ⟨hlines, hlast⟩ := lines_of_split hsplit
  have hblank : ∀ l ∈ terminatedLines text, l = [] := by
    rw [htext, lines_of_front ht] at hlines ⊢
    exact List.forall_mem_cons.mpr ⟨rfl, hstream.behind handed _ hlines⟩
  refine ⟨hblank, ?_⟩
  have hroom := hstream.room
  rw [hlines, hlast, List.count_append] at hroom
  rw [length_of_blank hblank]
  omega

/-- A handler at rest has handed over all lines of the stream with text exactly
if no line with text is complete in what it holds back. -/
theorem notHeldBack_iff {held : List Char} {h : LoggerHandler}
    (hinv : Handing stream handed held h) (hrest : AtRest held) :
    NotHeldBack stream ↔ ∀ l ∈ terminatedLines held, l = [] := by
  have hsplit : stream.splitOnP endsLine = handed ++ held.splitOnP endsLine := by
    have hnil := hinv.split []
    rw [List.append_nil, List.append_nil] at hnil
    exact hnil
  obtain ⟨hlines, hlast⟩ := lines_of_split hsplit
  constructor
  · intro hstream
    rcases hrest with hnone | ⟨t, more, hheld, ht⟩
    · rw [(lines_of_none hnone).1]
      exact fun l hl => absurd hl List.not_mem_nil
    · exact (blank_of_front hstream hsplit hheld ht).1
  · intro hblank
    refine ⟨fun ls more hcut l hl => ?_, ?_⟩
    · rw [hlines] at hcut
      rcases List.append_eq_append_iff.mp hcut with ⟨mid, -, hmid⟩ | ⟨mid, hmid, hmore⟩
      · refine hblank l ?_
        rw [hmid]
        exact List.mem_append_right mid (List.mem_cons_of_mem [] hl)
      · cases mid with
        | nil =>
          refine hblank l ?_
          rw [List.nil_append] at hmore
          rw [← hmore]
          exact List.mem_cons_of_mem [] hl
        | cons line mid =>
          -- the empty line would be one that was handed over
          have hline : [] = line := (List.cons.inj hmore).1
          refine absurd hline.symm (hinv.nonEmpty line ?_)
          rw [hmid]
          exact List.mem_append_right ls (List.mem_cons_self ..)
    · have hnone : handed.count [] = 0 := List.count_eq_zero.mpr fun hm => hinv.nonEmpty [] hm rfl
      rw [hlines, hlast, List.count_append, hnone, Nat.zero_add, ← length_of_blank hblank]
      exact hinv.fits

/-- The chunk fits, where nothing is held back. -/
theorem room_of_notHeldBack {held : List Char} {h : LoggerHandler}
    (hinv : Handing stream handed held h) (hrest : AtRest held) {chunk : List Char}
    (hpending : (unterminated stream).length + chunk.length ≤ 4000)
    (hstream : NotHeldBack (stream ++ chunk)) : held.length + chunk.length < 4096 := by
  rcases hrest with hnone | ⟨t, more, rfl, ht⟩
  · have hsplit := hinv.split []
    rw [List.append_nil, List.append_nil] at hsplit
    rw [(lines_of_split hsplit).2, (lines_of_none hnone).2] at hpending
    omega
  · have hfits := (blank_of_front hstream (hinv.split chunk) List.cons_append ht).2
    rw [List.length_append] at hfits
    exact hfits

end Streams

/-- **A run** whose pulses hand the lines over, or hold nothing back, keeps in
the array what is left of the stream. -/
theorem handing_run (chunks : List (List Char)) (hnul : ∀ c ∈ chunks, nul ∉ c)
    (hpending : ∀ pre c, pre ++ [c] <+: chunks →
      (unterminated pre.flatten).length + c.length ≤ 4000)
    (hok : ∀ pre, pre <+: chunks → HandsLines pre ∨ NotHeldBack pre.flatten) :
    ∃ h os held, run (LoggerHandler.pulse true) started chunks = some (h, os) ∧
      Handing chunks.flatten os.flatten held h ∧ AtRest held := by
  induction chunks using List.reverseRecOn with
  | nil =>
    refine ⟨started, [], [], rfl, handing_started, Or.inl fun c hc => ?_⟩
    exact absurd hc List.not_mem_nil
  | append_singleton pre c ih =>
    have hpre : pre <+: pre ++ [c] := List.prefix_append pre [c]
    obtain ⟨h, os, held, hrun, hinv, hrest⟩ := ih
      (fun d hd => hnul d (List.mem_append_left [c] hd))
      (fun p d hp => hpending p d (hp.trans hpre)) (fun p hp => hok p (hp.trans hpre))
    -- the chunk has room behind what is held back
    have hroom : held.length + c.length < 4096 := by
      rcases hok (pre ++ [c]) (List.prefix_refl _) with ⟨h', os', hrun', -⟩ | hstream
      · by_contra hfull
        rw [run_append hrun, run, pulse_full hinv hfull] at hrun'
        cases hrun'
      · rw [List.flatten_append, List.flatten_singleton] at hstream
        exact room_of_notHeldBack hinv hrest (hpending pre c (List.prefix_refl _)) hstream
    obtain ⟨h', lines, held', hpulse, hinv', hrest'⟩ :=
      pulse_spec hinv (hnul c (List.mem_append_right pre (List.mem_singleton_self c))) hroom
    refine ⟨h', os ++ [lines], held', ?_, ?_, hrest'⟩
    · rw [run_append hrun, run_cons_of_step hpulse]
      rfl
    · rw [List.flatten_append, List.flatten_append, List.flatten_singleton, List.flatten_singleton]
      exact hinv'

/-- The lines are those handed over if the rest left has none with text. -/
theorem handsLines_iff_blank {pre : List (List Char)} {h : LoggerHandler}
    {os : List (List (List Char))} {held : List Char}
    (hrun : run (LoggerHandler.pulse true) started pre = some (h, os))
    (hinv : Handing pre.flatten os.flatten held h) :
    HandsLines pre ↔ ∀ l ∈ terminatedLines held, l = [] := by
  have hsplit := hinv.split []
  rw [List.append_nil, List.append_nil] at hsplit
  have hfilter : (terminatedLines pre.flatten).filter (· ≠ []) =
      os.flatten ++ (terminatedLines held).filter (· ≠ []) := by
    rw [(lines_of_split hsplit).1, List.filter_append, List.filter_eq_self.mpr]
    intro l hl
    exact decide_eq_true (hinv.nonEmpty l hl)
  have hblank : (terminatedLines held).filter (· ≠ []) = [] ↔
      ∀ l ∈ terminatedLines held, l = [] := by
    simp [List.filter_eq_nil_iff]
  unfold HandsLines
  rw [← hblank, hfilter]
  constructor
  · intro ⟨h', os', hrun', hos⟩
    rw [hrun] at hrun'
    obtain ⟨-, rfl⟩ := Prod.mk.inj (Option.some.inj hrun')
    exact List.append_right_eq_self.mp hos.symm
  · intro hnone
    exact ⟨h, os, hrun, by rw [hnone, List.append_nil]⟩

/-- At a prefix that the run reaches, the two are the same. -/
theorem handsLines_iff_notHeldBack {chunks : List (List Char)} (hnul : ∀ c ∈ chunks, nul ∉ c)
    (hpending : ∀ pre c, pre ++ [c] <+: chunks →
      (unterminated pre.flatten).length + c.length ≤ 4000)
    (hok : ∀ pre, pre <+: chunks → HandsLines pre ∨ NotHeldBack pre.flatten) :
    ∀ pre, pre <+: chunks → (HandsLines pre ↔ NotHeldBack pre.flatten) := by
  intro pre hpre
  obtain ⟨h, os, held, hrun, hinv, hrest⟩ := handing_run pre
    (fun c hc => hnul c (hpre.subset hc)) (fun p c hp => hpending p c (hp.trans hpre))
    (fun p hp => hok p (hp.trans hpre))
  exact (handsLines_iff_blank hrun hinv).trans (notHeldBack_iff hinv hrest).symm

/-- **The lines of the logger** are handed over, each once, in order, and with
the pulse that ends them, if and only if no line with text ends behind an empty
one, and the empty ones leave room. -/
theorem handsLines_iff (chunks : List (List Char)) (hnul : ∀ c ∈ chunks, nul ∉ c)
    (hpending : ∀ pre c, pre ++ [c] <+: chunks →
      (unterminated pre.flatten).length + c.length ≤ 4000) :
    (∀ pre, pre <+: chunks → HandsLines pre) ↔
      ∀ pre, pre <+: chunks → NotHeldBack pre.flatten := by
  constructor
  · intro hands pre hpre
    exact (handsLines_iff_notHeldBack hnul hpending (fun p hp => Or.inl (hands p hp)) pre
      hpre).mp (hands pre hpre)
  · intro hstreams pre hpre
    exact (handsLines_iff_notHeldBack hnul hpending (fun p hp => Or.inr (hstreams p hp)) pre
      hpre).mpr (hstreams pre hpre)

/-- The text behind the last newline of some chunks is a part of them, so it is
no longer than all of them together. -/
theorem pending_of_length {chunks : List (List Char)} {n : Nat}
    (hlen : chunks.flatten.length ≤ n) (pre : List (List Char)) (c : List Char)
    (hpre : pre ++ [c] <+: chunks) : (unterminated pre.flatten).length + c.length ≤ n := by
  have hsum := splitOnP_length endsLine pre.flatten
  rw [splitOnP_endsLine, List.map_append, List.sum_append, List.map_singleton,
    List.sum_singleton] at hsum
  obtain ⟨post, rfl⟩ := hpre
  rw [List.flatten_append, List.flatten_append, List.flatten_singleton, List.length_append,
    List.length_append] at hlen
  omega

/-- A blank line in front of a value, as `attempt_upgradebaudrate` prints it. -/
def blankFirst : List (List Char) := ["\nrpm=800\n".toList]

/-- Chunks that fit the array, the first of which is an empty line: the value
behind that line is complete, and is never handed over. -/
theorem blankFirst_heldBack : (∀ c ∈ blankFirst, nul ∉ c) ∧
    (∀ pre c, pre ++ [c] <+: blankFirst →
      (unterminated pre.flatten).length + c.length ≤ 4000) ∧
    ¬ ∀ pre, pre <+: blankFirst → HandsLines pre := by
  have hnul : ∀ c ∈ blankFirst, nul ∉ c := by decide
  have hpending := pending_of_length (by decide : blankFirst.flatten.length ≤ 4000)
  refine ⟨hnul, hpending, fun hands => ?_⟩
  have hstream := (handsLines_iff_notHeldBack hnul hpending (fun p hp => Or.inl (hands p hp))
    blankFirst (List.prefix_refl _)).mp (hands _ (List.prefix_refl _))
  have hlines : terminatedLines blankFirst.flatten = [] ++ [] :: ["rpm=800".toList] := by
    decide
  exact absurd (hstream.behind [] _ hlines "rpm=800".toList (List.mem_singleton_self _))
    (by decide)

/-- The output of a logger that comes in two chunks, cut inside of a value. -/
def twoChunks : List (List Char) := ["rpm=8".toList, "00\n".toList]

/-- Whether it is handed over is a question of its lines. -/
theorem twoChunks_handed : (∀ pre, pre <+: twoChunks → HandsLines pre) ↔
    ∀ pre, pre <+: twoChunks → NotHeldBack pre.flatten :=
  handsLines_iff twoChunks (by decide)
    (pending_of_length (by decide : twoChunks.flatten.length ≤ 4000))

end ObdGpsLogger.Gui
