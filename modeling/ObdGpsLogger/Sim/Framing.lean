import ObdGpsLogger.Sim.FdSimPortInv

/-!
# Command framing

A client ends its commands with `\r`, `\n` or `\r\n`, and the bytes reach
`FDSimPort::readLine` in whatever pieces `read` delivers. `readLine` hands out
one line for each delivery that finds a `\r` among the pending bytes, and none
when there is nothing to read. So it returns the commands sent, whatever the
pieces, only if

* no command ends in `\n` alone (a `\n` never ends a line);
* no `\r\n` is cut in two when its `\r` completes the only pending command:
  the `\n` then starts the next line (`Splits`);
* the last delivery leaves no complete command behind: each delivery takes off
  one command, so the backlog must be worked off by the end (`WellFramed`).

`frames_eq_iff` proves this of the ideal line reader by induction over the
deliveries. With fewer than 2000 bytes pending the cells behind them are still
zero (`ZeroTail`), so `readLine` is that reader (`readLine_frames`), which
gives `readLine_commands_iff`.
-/

namespace ObdGpsLogger.Sim

open CLib Machine

/-- The ways in which a client may end a command. -/
inductive Terminator where
  | cr
  | lf
  | crlf
  deriving DecidableEq, Repr

/-- The bytes of the end of a command. -/
def Terminator.chars : Terminator → List Char
  | .cr => ['\r']
  | .lf => ['\n']
  | .crlf => ['\r', '\n']

/-- A command as a client sends it: a text with nothing in it that would end
it, and its terminator. -/
structure Command where
  text : List Char
  term : Terminator
  nonempty : text ≠ []
  clean : ∀ c ∈ text, c ≠ nul ∧ isTerm c = false

/-- All the bytes that a client sends with some commands. -/
def stream (cmds : List Command) : List Char := cmds.flatMap fun k => k.text ++ k.term.chars

/-- The deliveries among a sequence of calls. -/
def chunks (qs : List Poll) : List (List Char) :=
  (qs.map fun q => q.result.bytes).filter fun bs => !bs.isEmpty

/-- The lines the ideal line reader hands out. -/
def frames : List Char → List (List Char) → List (List Char)
  | _, [] => []
  | pend, c :: cs => (frame pend c).2.toList ++ frames (frame pend c).1 cs

/-- A delivery ends between a `\r` and its `\n`, with more behind it. -/
def Splits (c rest : List Char) : Prop :=
  c.getLast? = some '\r' ∧ rest.head? = some '\n' ∧ rest ≠ ['\n']

/-- The deliveries take off one command each, with `backlog` complete commands
pending before the first: they work off all of them, and cut no `\r\n` in two
when nothing else is pending. -/
def WellFramed : Nat → List (List Char) → Prop
  | backlog, [] => backlog = 0
  | backlog, c :: cs =>
    (Splits c cs.flatten → backlog + c.count '\r' - 1 ≠ 0) ∧
      WellFramed (backlog + c.count '\r' - 1) cs

instance (c rest : List Char) : Decidable (Splits c rest) :=
  inferInstanceAs (Decidable (_ ∧ _ ∧ _))

instance decidableWellFramed : ∀ (b : Nat) (cs : List (List Char)), Decidable (WellFramed b cs)
  | b, [] => inferInstanceAs (Decidable (b = 0))
  | b, c :: cs =>
    have := decidableWellFramed (b + c.count '\r' - 1) cs
    inferInstanceAs (Decidable (_ ∧ _))

/-! ## The ideal line reader -/

section Ideal

variable {pend c rest u : List Char}

theorem Command.cr_not_mem (k : Command) : '\r' ∉ k.text := fun h => by
  have := (k.clean _ h).2
  simp [isTerm] at this

theorem Command.lf_not_mem (k : Command) : '\n' ∉ k.text := fun h => by
  have := (k.clean _ h).2
  simp [isTerm] at this

@[simp] theorem stream_nil : stream [] = [] := rfl

@[simp] theorem stream_cons (k : Command) (ks : List Command) :
    stream (k :: ks) = k.text ++ (k.term.chars ++ stream ks) := by
  simp [stream]

/-- A stream starts with a byte of its first command. -/
theorem stream_head {cmds : List Command} {e : Char} (h : (stream cmds).head? = some e) :
    isTerm e = false := by
  cases cmds with
  | nil => cases h
  | cons k ks =>
    obtain ⟨d, ds, hd⟩ := List.exists_cons_of_ne_nil k.nonempty
    rw [stream_cons, hd] at h
    injection h with h
    subst h
    exact (k.clean d (hd ▸ List.mem_cons_self ..)).2

/-- No terminator is skipped at the front of a stream. -/
theorem dropWhile_stream {d : List Char} {ks : List Command} (h : d ++ rest = stream ks) :
    d.dropWhile isTerm = d := by
  cases d with
  | nil => rfl
  | cons e es =>
    have he : isTerm e = false := stream_head (h ▸ rfl : (stream ks).head? = some e)
    exact List.dropWhile_cons_of_neg (by simp [he])

/-- A stream of commands none of which ends with a bare `\n` has one `\r` for
each command. -/
theorem count_stream : ∀ {cmds : List Command}, (∀ k ∈ cmds, k.term ≠ .lf) →
    (stream cmds).count '\r' = cmds.length
  | [], _ => rfl
  | k :: ks, h => by
    have ih := count_stream fun j hj => h j (List.mem_cons_of_mem _ hj)
    have htext := List.count_eq_zero_of_not_mem k.cr_not_mem
    rw [stream_cons, List.count_append, List.count_append, ih, htext, List.length_cons]
    have hne := h k (List.mem_cons_self ..)
    cases hk : k.term with
    | lf => exact absurd hk hne
    | cr => simp [Terminator.chars, Nat.add_comm]
    | crlf => simp [Terminator.chars, Nat.add_comm]

/-- Nothing is handed out before a `\r` arrives. -/
theorem frames_of_not_mem : ∀ {cs : List (List Char)} {pend : List Char},
    '\r' ∉ pend ++ cs.flatten → frames pend cs = []
  | [], _, _ => rfl
  | c :: cs, pend, h => by
    rw [List.flatten_cons, ← List.append_assoc] at h
    have hc : '\r' ∉ pend ++ c := fun hm => h (List.mem_append_left _ hm)
    rw [frames, frame_of_not_mem hc]
    exact frames_of_not_mem h

theorem wellFramed_of_not_mem : ∀ {cs : List (List Char)}, '\r' ∉ cs.flatten → WellFramed 0 cs
  | [], _ => rfl
  | c :: cs, h => by
    rw [List.flatten_cons, List.mem_append, not_or] at h
    have hcount : c.count '\r' = 0 := List.count_eq_zero_of_not_mem h.1
    refine ⟨fun hs => absurd (List.mem_of_getLast? hs.1) h.1, ?_⟩
    rw [hcount]
    exact wellFramed_of_not_mem h.2

/-- The first line handed out is the first line of everything pending and
still to come. -/
theorem frames_head : ∀ {cs : List (List Char)} {pend l : List Char} {ls : List (List Char)},
    frames pend cs = l :: ls → l = (pend ++ cs.flatten).takeWhile (fun d => d != '\r')
  | [], _, _, _, h => by cases h
  | c :: cs, pend, l, ls, h => by
    rw [List.flatten_cons, ← List.append_assoc]
    rw [frames] at h
    by_cases hm : '\r' ∈ pend ++ c
    · rw [frame_of_mem hm] at h
      injection h with h _
      rw [takeWhile_append_of_mem hm (by decide), h]
    · rw [frame_of_not_mem hm] at h
      exact frames_head h

/-- A delivery that completes a command hands it out. -/
theorem frame_command {k : Command} (h : (pend ++ c) ++ rest = k.text ++ '\r' :: u)
    (hm : '\r' ∈ pend ++ c) :
    ∃ d, pend ++ c = k.text ++ '\r' :: d ∧ u = d ++ rest ∧
      frame pend c = (d.dropWhile isTerm, some k.text) := by
  rcases List.append_eq_append_iff.mp h with ⟨a, ha, -⟩ | ⟨a, ha, hu⟩
  · exact absurd (ha ▸ List.mem_append_left _ hm) k.cr_not_mem
  · cases a with
    | nil => exact absurd (by simpa [ha] using hm) k.cr_not_mem
    | cons e d =>
      obtain ⟨rfl, rfl⟩ : '\r' = e ∧ u = d ++ rest := by simpa using hu
      have hstop : ∀ e ∈ k.text, (e != '\r') = true := by
        intro e he
        have : e ≠ '\r' := fun h => k.cr_not_mem (h ▸ he)
        simpa using this
      refine ⟨d, ha, rfl, ?_⟩
      rw [frame_of_mem hm, ha, List.takeWhile_append_of_pos hstop,
        List.dropWhile_append_of_pos hstop]
      simp [isTerm]

/-- A line that a bare `\n` ends is not handed out as it was sent. -/
theorem frame_lf {k : Command} (h : (pend ++ c) ++ rest = k.text ++ '\n' :: u)
    (hm : '\r' ∈ pend ++ c) : (frame pend c).2 ≠ some k.text := by
  intro hline
  rw [frame_of_mem hm] at hline
  injection hline with hline
  have hlf : '\n' ∈ (pend ++ c).takeWhile (fun d => d != '\r') := by
    have hstop : ∀ e ∈ k.text ++ ['\n'], (e != '\r') = true := by
      intro e he
      rcases List.mem_append.mp he with he | he
      · have : e ≠ '\r' := fun h => k.cr_not_mem (h ▸ he)
        simpa using this
      · obtain rfl := List.mem_singleton.mp he
        decide
    have h' : (pend ++ c) ++ rest = (k.text ++ ['\n']) ++ u := by
      rw [h, List.append_assoc]
      rfl
    rcases List.append_eq_append_iff.mp h' with ⟨a, ha, -⟩ | ⟨a, ha, -⟩
    · have := hstop '\r' (ha ▸ List.mem_append_left _ hm)
      simp at this
    · rw [ha, List.takeWhile_append_of_pos hstop]
      simp
  exact k.lf_not_mem (hline ▸ hlf)

/-- A delivery that ends in the only `\r` pending ends at it. -/
theorem nil_of_splits {k : Command} {d : List Char}
    (hs : pend ++ c = k.text ++ '\r' :: d) (hcount : d.count '\r' = 0)
    (hsplit : Splits c rest) : d = [] := by
  by_contra hd
  have hlast : (pend ++ c).getLast? = d.getLast? := by
    rw [hs, List.getLast?_append, List.getLast?_cons]
    cases hd' : d.getLast? with
    | none => exact absurd (List.getLast?_eq_none_iff.mp hd') hd
    | some e => simp
  rw [List.getLast?_append, hsplit.1, Option.some_or] at hlast
  exact List.count_eq_zero.mp hcount (List.mem_of_getLast? hlast.symm)

/-- A delivery that completes a command whose terminator is all there. -/
theorem frames_cons_iff {k : Command} {ks : List Command} {cs : List (List Char)}
    {d pend' : List Char} (hk : k.term ≠ .lf) (hs : pend ++ c = k.text ++ '\r' :: d)
    (hframe : frame pend c = (pend', some k.text)) (hpend : pend'.count '\r' = d.count '\r')
    (hsplit : Splits c cs.flatten → d.count '\r' ≠ 0)
    (ih : frames pend' cs = ks.map Command.text ↔
      (∀ j ∈ ks, j.term ≠ .lf) ∧ WellFramed (pend'.count '\r') cs) :
    frames pend (c :: cs) = (k :: ks).map Command.text ↔
      (∀ j ∈ k :: ks, j.term ≠ .lf) ∧ WellFramed (pend.count '\r') (c :: cs) := by
  have hcount : pend.count '\r' + c.count '\r' - 1 = d.count '\r' := by
    rw [← List.count_append, hs, List.count_append, List.count_eq_zero_of_not_mem k.cr_not_mem]
    simp
  rw [frames, WellFramed, hcount, hframe]
  rw [hpend] at ih
  simp only [Option.toList_some, List.singleton_append, List.map_cons, List.cons.injEq, true_and,
    List.forall_mem_cons, ih]
  exact ⟨fun h => ⟨⟨hk, h.1⟩, hsplit, h.2⟩, fun h => ⟨h.1.2, h.2.2⟩⟩

/-- A delivery that stops between the only `\r` pending and its `\n`, with more
to come: the next line will not be a command. -/
theorem frames_ne_of_cut {ks : List Command} {cs : List (List Char)} (hks : ks ≠ [])
    (hrest : cs.flatten = '\n' :: stream ks) : frames [] cs ≠ ks.map Command.text := by
  intro h
  obtain ⟨j, js, rfl⟩ := List.exists_cons_of_ne_nil hks
  have hhead := frames_head h
  rw [List.nil_append, hrest, List.takeWhile_cons_of_pos (by decide)] at hhead
  exact j.lf_not_mem (hhead ▸ List.mem_cons_self ..)

/-- A delivery that stops between the only `\r` pending and its `\n`: that does
no harm to the last command only. -/
theorem frames_cut_iff {k : Command} {ks : List Command} {cs : List (List Char)} (hc : c ≠ [])
    (hk : k.term = .crlf) (hs : pend ++ c = k.text ++ ['\r'])
    (hrest : cs.flatten = '\n' :: stream ks) (hframe : frame pend c = ([], some k.text)) :
    frames pend (c :: cs) = (k :: ks).map Command.text ↔
      (∀ j ∈ k :: ks, j.term ≠ .lf) ∧ WellFramed (pend.count '\r') (c :: cs) := by
  rw [frames, WellFramed, hframe, ← List.count_append, hs, List.count_append,
    List.count_eq_zero_of_not_mem k.cr_not_mem]
  cases ks with
  -- the newline is the last byte of the stream: no line is made of it
  | nil =>
    have hno : '\r' ∉ cs.flatten := by rw [hrest]; decide
    refine iff_of_true ?_ ⟨by simp [hk], fun h => absurd hrest h.2.2, wellFramed_of_not_mem hno⟩
    rw [frames_of_not_mem (by rwa [List.nil_append])]
    rfl
  | cons j js =>
    have hcut := frames_ne_of_cut (List.cons_ne_nil j js) hrest
    -- the delivery ends between `\r` and `\n`, so the next line begins with the `\n`
    have hlast : c.getLast? = some '\r' := by
      have h := congrArg List.getLast? hs
      rw [List.getLast?_append, List.getLast?_append] at h
      cases hl : c.getLast? with
      | none => exact absurd (List.getLast?_eq_none_iff.mp hl) hc
      | some e =>
        rw [hl] at h
        simpa using h
    have hmore : cs.flatten ≠ ['\n'] := by
      rw [hrest, stream_cons]
      intro h
      injection h with _ h
      exact j.nonempty (List.append_eq_nil_iff.mp h).1
    have hsplit : Splits c cs.flatten := ⟨hlast, by rw [hrest]; rfl, hmore⟩
    refine iff_of_false (fun h => ?_) (fun h => h.2.1 hsplit (by simp))
    injection h with _ h
    exact hcut h

/-- **The ideal line reader hands out exactly the commands when they are well
framed.** -/
theorem frames_eq_iff : ∀ {cs : List (List Char)} {pend : List Char} {cmds : List Command},
    (∀ c ∈ cs, c ≠ []) → pend ++ cs.flatten = stream cmds →
      (frames pend cs = cmds.map Command.text ↔
        (∀ k ∈ cmds, k.term ≠ .lf) ∧ WellFramed (pend.count '\r') cs)
  | [], pend, cmds, _, hstream => by
    rw [List.flatten_nil, List.append_nil] at hstream
    subst hstream
    constructor
    · intro h
      obtain rfl : cmds = [] := List.map_eq_nil_iff.mp h.symm
      exact ⟨by simp, rfl⟩
    · intro ⟨hterm, hcount⟩
      rw [WellFramed, count_stream hterm] at hcount
      obtain rfl := List.eq_nil_of_length_eq_zero hcount
      rfl
  | c :: cs, pend, cmds, hne, hstream => by
    have hne' : ∀ c ∈ cs, c ≠ [] := fun d hd => hne d (List.mem_cons_of_mem _ hd)
    have hcne : c ≠ [] := hne c (List.mem_cons_self ..)
    rw [List.flatten_cons, ← List.append_assoc] at hstream
    by_cases hm : '\r' ∈ pend ++ c
    · -- a command is complete, and it is the first of the stream
      obtain ⟨k, ks, rfl⟩ : ∃ k ks, cmds = k :: ks := by
        refine List.exists_cons_of_ne_nil fun h => ?_
        rw [h, stream_nil] at hstream
        exact absurd ((List.append_eq_nil_iff.mp hstream).1 ▸ hm) (by simp)
      rw [stream_cons] at hstream
      cases hk : k.term with
      | lf =>
        -- the `\n` becomes part of the line
        rw [hk] at hstream
        refine iff_of_false (fun h => ?_) (fun h => h.1 k (List.mem_cons_self ..) hk)
        have hline := frame_lf hstream hm
        rw [frames, frame_of_mem hm] at h
        rw [frame_of_mem hm] at hline
        injection h with h _
        exact hline (congrArg some h)
      | cr =>
        rw [hk] at hstream
        obtain ⟨d, hs, hrest, hframe⟩ := frame_command hstream hm
        rw [dropWhile_stream hrest.symm] at hframe
        refine frames_cons_iff (by simp [hk]) hs hframe rfl (fun hsplit hcount => ?_)
          (frames_eq_iff hne' hrest.symm)
        obtain rfl := nil_of_splits hs hcount hsplit
        have hhead := hsplit.2.1
        rw [← List.nil_append cs.flatten, ← hrest] at hhead
        exact absurd (stream_head hhead) (by decide)
      | crlf =>
        rw [hk] at hstream
        obtain ⟨d, hs, hrest, hframe⟩ := frame_command hstream hm
        cases d with
        | nil =>
          exact frames_cut_iff hcne hk hs hrest.symm hframe
        | cons e d =>
          obtain ⟨rfl, hks⟩ : '\n' = e ∧ stream ks = d ++ cs.flatten := by
            injection hrest with h₁ h₂
            exact ⟨h₁, h₂⟩
          rw [List.dropWhile_cons_of_pos (by decide), dropWhile_stream hks.symm] at hframe
          refine frames_cons_iff (by simp [hk]) hs hframe (by simp) (fun hsplit hcount => ?_)
            (frames_eq_iff hne' hks.symm)
          cases nil_of_splits hs hcount hsplit
    · -- nothing is complete yet
      have hcount := List.count_eq_zero_of_not_mem hm
      have ih := frames_eq_iff hne' hstream
      rw [hcount] at ih
      rw [frames, WellFramed, frame_of_not_mem hm, ← List.count_append, hcount]
      have hsplit : ¬ Splits c cs.flatten := fun h =>
        hm (List.mem_append_right _ (List.mem_of_getLast? h.1))
      simpa [hsplit] using ih

end Ideal

/-! ## `readLine` -/

/-- A bound on the pending bytes under which nothing stale is ever reached. -/
def pendingMax : Nat := 2000

/-- A call that never has more than `pendingMax` bytes pending. -/
def Short (p : FDSimPort) (q : Poll) : Prop :=
  p.readbufPos + q.result.bytes.length ≤ pendingMax

instance (p : FDSimPort) (q : Poll) : Decidable (Short p q) := inferInstanceAs (Decidable (_ ≤ _))

/-- The cells behind the pending bytes are still zero. -/
def ZeroTail (p : FDSimPort) : Prop := ∀ c ∈ p.leftover 0, c = nul

theorem leftover_subset (p : FDSimPort) (n : Nat) : p.leftover n ⊆ p.leftover 0 := by
  unfold FDSimPort.leftover
  rw [Nat.add_zero, Nat.add_comm, ← List.drop_drop, List.drop_drop, Nat.add_comm,
    ← List.drop_drop]
  exact List.drop_subset _ _

theorem freshPoll_of_zeroTail {p : FDSimPort} {q : Poll} (hwf : PortWf p) (hz : ZeroTail p)
    (hq : Short p q) : FreshPoll p q := by
  unfold FreshPoll
  cases hres : q.result with
  | eagain => trivial
  | error => trivial
  | data bs =>
    unfold Short at hq
    rw [hres] at hq
    have hnn := hwf.nonneg
    have hmax : pendingMax < readbufSize := by decide
    have hfit : p.readbufPos.toNat + bs.length ≤ readbufSize := by
      simp only [ReadResult.bytes] at hq
      omega
    have hlen := leftover_length hwf hfit
    rw [List.length_append, pending_length hwf] at hlen
    have hpos : 0 < (p.leftover bs.length).length := by
      simp only [ReadResult.bytes] at hq
      omega
    -- there is a cell behind the bytes, and it is a NUL
    obtain ⟨c, cs, hc⟩ := List.exists_cons_of_length_pos hpos
    obtain rfl : c = nul := hz c (leftover_subset p _ (hc ▸ List.mem_cons_self ..))
    dsimp only
    unfold FreshTail
    rw [hc]
    refine ⟨fun _ => List.mem_cons_self .., ?_⟩
    split
    · exact Or.inr ⟨nul, rfl, by decide⟩
    · exact ⟨List.mem_cons_self .., by simp [cstr]⟩

/-- One call, on zeroed cells: it does what the ideal line reader does, echoes
what it received, and the cells stay zero. -/
theorem readLine_zeroTail {p : FDSimPort} {q : Poll} (hwf : PortWf p) (hz : ZeroTail p)
    (hfit : Fits p q) (hq : Short p q) :
    ∃ p' o, p.readLine q = some (p', o) ∧
      (PortWf p' ∧ ZeroTail p' ∧ p'.pending = (framePoll p.pending q).1) ∧
      o.line = (framePoll p.pending q).2 ∧ o.echo = if q.mEcho then q.result.bytes else [] := by
  obtain ⟨p', o, hread, hfresh⟩ := readLine_fresh hwf hfit (freshPoll_of_zeroTail hwf hz hq)
  obtain ⟨k, hk, htail⟩ := hfresh.behind
  have hcstr : cstr (p.leftover q.result.bytes.length) = [] :=
    cstr_eq_nil fun c hc => hz c (leftover_subset p _ hc)
  refine ⟨p', o, hread, ⟨hfresh.wf, ?_, hfresh.pending⟩, hfresh.line, ?_⟩
  rotate_left
  · rw [hfresh.echo, hcstr, List.append_nil]
    cases q.mEcho <;> cases q.result.bytes <;> simp
  unfold ZeroTail
  rw [htail]
  -- the cells that `memmove` leaves behind come from the zeroed part
  have hnn := hwf.nonneg
  unfold Short pendingMax at hq
  rw [List.length_append, pending_length hwf] at hk
  have hfront : (p.pending ++ q.result.bytes).length ≤ readbufSize - k := by
    rw [List.length_append, pending_length hwf]
    unfold readbufSize
    omega
  rw [List.drop_append, List.drop_of_length_le hfront, List.nil_append]
  intro c hc
  rcases List.mem_append.mp hc with h | h
  · exact hz c (leftover_subset p _ h)
  · exact hz c (leftover_subset p _ (List.drop_subset _ _ h))

/-- The lines of a run of the ideal line reader. -/
theorem runTotal_framePoll : ∀ (qs : List Poll) (pend : List Char),
    (runTotal framePoll pend qs).2.filterMap id = frames pend (chunks qs)
  | [], _ => rfl
  | q :: qs, pend => by
    have ih := runTotal_framePoll qs (framePoll pend q).1
    have hcons : (runTotal framePoll pend (q :: qs)).2.filterMap id
        = (framePoll pend q).2.toList ++ frames (framePoll pend q).1 (chunks qs) := by
      rw [← ih, runTotal]
      cases (framePoll pend q).2 <;> rfl
    rw [hcons]
    unfold framePoll
    cases hq : q.result with
    | eagain => simp [chunks, hq, ReadResult.bytes]
    | error => simp [chunks, hq, ReadResult.bytes]
    | data bs =>
      cases bs with
      | nil => simp [chunks, hq, ReadResult.bytes]
      | cons b bs => simp [chunks, hq, ReadResult.bytes, frames]

theorem received_eq_flatten (qs : List Poll) : received qs = (chunks qs).flatten := by
  unfold received chunks
  rw [List.flatten_filter_not_isEmpty, List.flatMap_def]

theorem init_zeroTail : ZeroTail FDSimPort.init := fun _ h =>
  List.eq_of_mem_replicate (List.mem_of_mem_drop h)

/-- As long as few bytes are pending, `readLine` hands out the lines which the
ideal line reader hands out for the same bytes. -/
theorem readLine_frames {qs : List Poll} (hfit : Along FDSimPort.readLine Fits FDSimPort.init qs)
    (hq : Along FDSimPort.readLine Short FDSimPort.init qs) :
    ∃ p os, run FDSimPort.readLine FDSimPort.init qs = some (p, os) ∧
      returned os = frames [] (chunks qs) := by
  obtain ⟨p, os, hrun, -, hos⟩ := run_sim framePoll
    (R := fun p pend => PortWf p ∧ ZeroTail p ∧ p.pending = pend)
    (fun p pend q hR hok => by
      obtain ⟨hwf, hz, rfl⟩ := hR
      obtain ⟨p', o, hread, hR', hline, -⟩ := readLine_zeroTail hwf hz hok.1 hok.2
      exact ⟨p', o, hread, hR', hline⟩)
    qs (⟨init_wf, init_zeroTail, rfl⟩ : _ ∧ _ ∧ FDSimPort.init.pending = []) (hfit.and hq)
  refine ⟨p, os, hrun, ?_⟩
  rw [← runTotal_framePoll, ← hos, List.filterMap_map]
  rfl

/-- The run `qs`, with as many further calls that find nothing to read as one
likes, has returned exactly the commands. -/
def AllReturned (qs : List Poll) (cmds : List Command) : Prop :=
  ∃ idle p os, (∀ q ∈ idle, q.result = .eagain) ∧
    run FDSimPort.readLine FDSimPort.init (qs ++ idle) = some (p, os) ∧
    returned os = cmds.map Command.text

/-- Calls that find nothing to read return nothing. -/
theorem run_idle : ∀ {idle : List Poll}, (∀ q ∈ idle, q.result = .eagain) → ∀ (p : FDSimPort),
    ∃ p' os, run FDSimPort.readLine p idle = some (p', os) ∧ returned os = []
  | [], _, p => ⟨p, [], rfl, rfl⟩
  | q :: idle, h, p => by
    have hstep : p.readLine q = some (p.connect q.conn, ⟨none, []⟩) := by
      unfold FDSimPort.readLine
      rw [h q (List.mem_cons_self ..)]
      split <;> rfl
    obtain ⟨p', os, hrun, hret⟩ :=
      run_idle (fun r hr => h r (List.mem_cons_of_mem _ hr)) (p.connect q.conn)
    exact ⟨p', ⟨none, []⟩ :: os, by rw [run_cons_of_step hstep, hrun]; rfl, by
      simpa [returned] using hret⟩

/-- The calls that return no line make no difference: all commands come back
exactly if the lines that are returned are the commands. -/
theorem allReturned_iff {qs : List Poll} {cmds : List Command} :
    AllReturned qs cmds ↔ ∃ p os, run FDSimPort.readLine FDSimPort.init qs = some (p, os) ∧
      returned os = cmds.map Command.text := by
  constructor
  · intro ⟨idle, p, os, hidle, hrun, hret⟩
    obtain ⟨u, os₁, os₂, h₁, h₂, rfl⟩ := run_append_eq_some hrun
    obtain ⟨p', os₃, h₃, hnone⟩ := run_idle hidle u
    rw [h₂] at h₃
    obtain ⟨-, rfl⟩ : p = p' ∧ os₂ = os₃ := by simpa using h₃
    refine ⟨u, os₁, h₁, ?_⟩
    unfold returned at hnone hret ⊢
    rwa [List.filterMap_append, hnone, List.append_nil] at hret
  · intro ⟨p, os, hrun, hret⟩
    exact ⟨[], p, os, by simp, by rwa [List.append_nil], hret⟩

/-- **The commands come back exactly when they are well framed.** For a
stream of commands delivered in any pieces, with at most 2000 bytes pending,
`readLine` returns exactly the commands if and only if none ends in a bare
`\n` and the deliveries are well framed. -/
theorem readLine_commands_iff {qs : List Poll} {cmds : List Command}
    (hfit : Along FDSimPort.readLine Fits FDSimPort.init qs)
    (hshort : Along FDSimPort.readLine Short FDSimPort.init qs)
    (hstream : received qs = stream cmds) :
    AllReturned qs cmds ↔ (∀ k ∈ cmds, k.term ≠ .lf) ∧ WellFramed 0 (chunks qs) := by
  obtain ⟨p, os, hrun, hret⟩ := readLine_frames hfit hshort
  have hideal : frames [] (chunks qs) = cmds.map Command.text ↔
      (∀ k ∈ cmds, k.term ≠ .lf) ∧ WellFramed 0 (chunks qs) :=
    frames_eq_iff (fun c hc => by simpa using (List.mem_filter.mp hc).2)
      (by rw [List.nil_append, ← received_eq_flatten, hstream])
  rw [allReturned_iff, ← hideal, ← hret]
  constructor
  · intro ⟨p', os', hrun', hret'⟩
    rw [hrun] at hrun'
    obtain ⟨-, rfl⟩ : p = p' ∧ os = os' := by simpa using hrun'
    exact hret'
  · intro h
    exact ⟨p, os, hrun, h⟩

/-- The command `0100`, as a client that ends its lines with `\n` sends it. -/
def lfCommand : Command := ⟨['0', '1', '0', '0'], .lf, by simp, by simp [nul, isTerm]⟩

/-- Commands do not always come back, even if all that is delivered fits: the
bare `\n` behind a command does not end a line. -/
theorem readLine_commands_lost :
    ¬ ∀ qs cmds, Along FDSimPort.readLine Fits FDSimPort.init qs →
      Along FDSimPort.readLine Short FDSimPort.init qs → received qs = stream cmds →
      AllReturned qs cmds := by
  intro h
  obtain ⟨p, os, hrun, hret⟩ := allReturned_iff.mp
    (h [⟨false, 1, .data ['0', '1', '0', '0', '\n']⟩] [lfCommand] (by decide +kernel)
      (by decide +kernel) (by decide))
  have hnone : (run FDSimPort.readLine FDSimPort.init
      [⟨false, 1, .data ['0', '1', '0', '0', '\n']⟩]).map (fun r => returned r.2) = some [] := by
    decide +kernel
  rw [hrun, Option.map_some, hret] at hnone
  cases hnone

/-- The command `0100`, ended by `\r\n` and delivered in two pieces. -/
theorem readLine_commands_crlf :
    AllReturned [⟨true, 1, .data ['0', '1']⟩, ⟨true, 1, .data ['0', '0', '\r', '\n']⟩]
      [⟨['0', '1', '0', '0'], .crlf, by simp, by simp [nul, isTerm]⟩] :=
  (readLine_commands_iff (by decide +kernel) (by decide +kernel) (by decide)).mpr
    ⟨by simp, by decide⟩

end ObdGpsLogger.Sim
