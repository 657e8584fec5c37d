import ObdGpsLogger.Sim.Framing
import ObdGpsLogger.Sim.MainLoop

/-!
# A request reaches the main loop

A request is a line of text, and its bytes may arrive over several passes of
the loop, with passes in between that find nothing. `mainLoop_request` sums
such a run up: what the loop writes is the echo of the request, if echo is on,
and the answer of `request`. Nothing else that happens in these passes makes
a difference, except that the freeze frames go on being taken; and only
mode 02 looks at those (`request_mapEcus`).
-/

namespace ObdGpsLogger.Sim

open CLib Machine

/-! ## Freeze frames make no difference -/

/-- A change of ECUs that leaves their numbers alone. -/
def KeepsNum (f : Nat → ObdgenEcu → ObdgenEcu) : Prop := ∀ i e, (f i e).ecuNum = e.ecuNum

theorem freezeTick_ecuNum (g : Simgen) (e : ObdgenEcu) : (freezeTick g e).ecuNum = e.ecuNum := by
  unfold freezeTick
  cases g.geterrorcodes with
  | none => rfl
  | some geterrorcodes =>
    dsimp only
    split
    · rfl
    · split
      · rfl
      · split <;> rfl

theorem mapEcus_mapEcus (ss : SimSettings) (f g : Nat → ObdgenEcu → ObdgenEcu) :
    (ss.mapEcus f).mapEcus g = ss.mapEcus fun i e => g i (f i e) := by
  simp [SimSettings.mapEcus, List.mapIdx_mapIdx, Function.comp_def]

theorem mapEcus_id (ss : SimSettings) : ss.mapEcus (fun _ e => e) = ss := by
  have hid : ss.ecus.mapIdx (fun _ e => e) = ss.ecus :=
    List.ext_getElem (by simp) fun i _ _ => by simp
  simp only [SimSettings.mapEcus, hid]

section MapEcus

variable {f : Nat → ObdgenEcu → ObdgenEcu} (ss : SimSettings) (gens : Nat → Simgen)

@[simp] theorem ecuCount_mapEcus : (ss.mapEcus f).ecuCount = ss.ecuCount := by
  simp [SimSettings.ecuCount, SimSettings.mapEcus]

theorem ecuNum_mapEcus (hf : KeepsNum f) (i : Nat) : (ss.mapEcus f).ecuNum i = ss.ecuNum i := by
  unfold SimSettings.ecuNum SimSettings.mapEcus
  rw [List.getElem?_mapIdx, Option.map_map]
  cases ss.ecus[i]? with
  | none => rfl
  | some e => exact hf i e

theorem ecuLoop_mapEcus (hf : KeepsNum f) (mode pid : Nat) :
    ∀ (acc : Int) (ds : List ObdgenEcudelay),
    ecuLoop (ss.mapEcus f) gens mode pid acc ds = ecuLoop ss gens mode pid acc ds
  | _, [] => rfl
  | acc, d :: ds => by
    rw [ecuLoop, ecuLoop, ecuNum_mapEcus ss hf, ecuLoop_mapEcus hf mode pid acc ds,
      ecuLoop_mapEcus hf mode pid (acc + d.delay) ds]
    rfl

/-- Only a request of mode 02 looks at the freeze frames: any other is handled
the same whatever frames the ECUs have. -/
theorem handle_mapEcus (hf : KeepsNum f) {line : List Char}
    (hmode : (sscanf requestFormat line).vals.head? ≠ some 0x02) :
    handle (ss.mapEcus f) gens line = handle ss gens line := by
  have h1 : ∀ mode, request1 (ss.mapEcus f) gens mode = request1 ss gens mode := by
    intro mode
    unfold request1
    simp only [ecuCount_mapEcus, ecuNum_mapEcus ss hf]
    rfl
  have h2 : ∀ mode pid frame, mode ≠ 0x02 →
      request2 (ss.mapEcus f) gens mode pid frame = request2 ss gens mode pid frame := by
    intro mode pid frame hne
    unfold request2
    simp only [if_neg hne, ecuLoop_mapEcus ss gens hf]
    rfl
  unfold handle
  match hv : (sscanf requestFormat line).vals with
  | [] => rfl
  | [mode] => exact h1 mode
  | [mode, pid] => exact h2 mode pid 0 (by simpa [hv] using hmode)
  | mode :: pid :: frame :: _ => exact h2 mode pid _ (by simpa [hv] using hmode)

theorem request_mapEcus (hf : KeepsNum f) {line : List Char}
    (hmode : (sscanf requestFormat line).vals.head? ≠ some 0x02) :
    request (ss.mapEcus f) gens line = request ss gens line := by
  unfold request
  rw [handle_mapEcus ss gens hf hmode]
  rfl

end MapEcus

/-! ## The passes -/

/-- A state in which the loop goes on, with `pend` received of the next line
and nothing stale in the port. -/
structure Ready (s : SimState) (pend : List Char) : Prop where
  live : s.mustexit = false
  wf : PortWf s.port
  zero : ZeroTail s.port
  pending : s.port.pending = pend

/-- The state that `main_loop` starts in is ready for a line, with nothing
pending. -/
theorem init_ready (ss : SimSettings) : Ready (SimState.init FDSimPort.init ss) [] :=
  ⟨rfl, init_wf, init_zeroTail, rfl⟩

/-- A pass that ends neither the loop nor the connection: there may be bytes to
read, or none yet. -/
structure Quiet (ecuCount : Nat) (m : Moment) : Prop where
  idle : ∀ i < ecuCount, m.idle i = 0
  conn : 0 < m.conn
  noError : m.result ≠ .error
  noEnd : m.result ≠ .data []

/-- A pass that reads something, with the generators answering as in `gens`. -/
def Moment.reading (bs : List Char) (gens : Nat → Simgen) : Moment :=
  { idle := fun _ => 0, tick := gens, conn := 1, result := .data bs, ask := gens }

theorem quiet_reading {bs : List Char} (h : bs ≠ []) (gens : Nat → Simgen) (ecuCount : Nat) :
    Quiet ecuCount (Moment.reading bs gens) :=
  { idle := fun _ _ => rfl
    conn := (by decide : (0 : Int) < 1)
    noError := nofun
    noEnd := fun he => h (ReadResult.data.inj he) }

/-- All the bytes that reach the port in some passes. -/
def delivered (ms : List Moment) : List Char := ms.flatMap fun m => m.result.bytes

/-- What the port echoes of some bytes: all of them, or nothing. -/
def SimState.echo (s : SimState) (bs : List Char) : List Char := if s.mEcho then bs else []

/-- A later state of the same session: only the freeze frames may differ. -/
def SameSession (s s' : SimState) : Prop :=
  s'.mEcho = s.mEcho ∧ ∃ f, KeepsNum f ∧ s'.ss = s.ss.mapEcus f

theorem sameSession_refl (s : SimState) : SameSession s s :=
  ⟨rfl, fun _ e => e, fun _ _ => rfl, (mapEcus_id s.ss).symm⟩

theorem SameSession.trans {s s' s'' : SimState} (h : SameSession s s') (h' : SameSession s' s'') :
    SameSession s s'' := by
  obtain ⟨hecho, f, hf, hss⟩ := h
  obtain ⟨hecho', g, hg, hss'⟩ := h'
  exact ⟨hecho'.trans hecho, fun i e => g i (f i e), fun i e => (hg i _).trans (hf i e), by
    rw [hss', hss, mapEcus_mapEcus]⟩

theorem SameSession.ecuCount {s s' : SimState} (h : SameSession s s') :
    s'.ss.ecuCount = s.ss.ecuCount := by
  obtain ⟨-, f, -, hss⟩ := h
  rw [hss, ecuCount_mapEcus]

theorem SameSession.echo {s s' : SimState} (h : SameSession s s') (bs : List Char) :
    s'.echo bs = s.echo bs := by
  rw [SimState.echo, SimState.echo, h.1]

variable (parseATcmd : SimSettings → Bool → List Char → AtResult)

/-- **One pass.** The port does what the ideal line reader does; the line, if
there is one, is answered in a state of the same session. -/
theorem mainLoop_quiet {s : SimState} {pend : List Char} {m : Moment} (hs : Ready s pend)
    (hm : Quiet s.ss.ecuCount m) (hnul : nul ∉ m.result.bytes)
    (hlen : (pend ++ m.result.bytes).length ≤ pendingMax) :
    ∃ s', SameSession s s' ∧ s'.previousline = s.previousline ∧
      Ready s' (framePoll pend ⟨s.mEcho, m.conn, m.result⟩).1 ∧
      mainLoop parseATcmd s m =
        some (match (framePoll pend ⟨s.mEcho, m.conn, m.result⟩).2 with
          | none => (s', s.echo m.result.bytes)
          | some read => ((s'.answer parseATcmd m.ask read).1,
              s.echo m.result.bytes ++ (s'.answer parseATcmd m.ask read).2)) := by
  have hnn := hs.wf.nonneg
  have hplen := pending_length hs.wf
  rw [hs.pending] at hplen
  rw [List.length_append] at hlen
  unfold pendingMax at hlen
  have hfit : Fits s.port ⟨s.mEcho, m.conn, m.result⟩ := by
    refine ⟨hm.conn, ?_⟩
    have herr := hm.noError
    have hend := hm.noEnd
    cases hres : m.result with
    | eagain => trivial
    | error => exact absurd hres herr
    | data bs =>
      rw [hres] at hnul hend hlen
      refine ⟨fun h => hend (congrArg ReadResult.data h), hnul, ?_⟩
      simp only [ReadResult.bytes] at hlen
      unfold readbufSize
      omega
  have hshort : Short s.port ⟨s.mEcho, m.conn, m.result⟩ := by
    unfold Short pendingMax
    dsimp only
    omega
  -- so little is pending that the port is the ideal line reader
  obtain ⟨p, o, hread, ⟨hwf, hzero, hpend⟩, hline, hecho⟩ :=
    readLine_zeroTail hs.wf hs.zero hfit hshort
  rw [hs.pending] at hpend hline
  have hidle : ((List.range (obdsimFreezeframes m.tick s.ss).ecuCount).any
      fun i => decide (m.idle i ≠ 0)) = false := by
    rw [obdsimFreezeframes, ecuCount_mapEcus, List.any_eq_false]
    intro i hi
    simpa using hm.idle i (List.mem_range.mp hi)
  refine ⟨{ s with port := p, ss := obdsimFreezeframes m.tick s.ss, mustexit := false },
    ⟨rfl, _, fun i e => freezeTick_ecuNum (m.tick i) e, rfl⟩, rfl, ⟨rfl, hwf, hzero, hpend⟩, ?_⟩
  unfold mainLoop
  rw [if_neg (by rw [hs.live]; decide), hread]
  dsimp only
  rw [hidle, hline, hecho]
  cases (framePoll pend ⟨s.mEcho, m.conn, m.result⟩).2 <;> rfl

/-- Passes that bring a part of a line write its echo, and nothing else. -/
theorem run_pieces : ∀ {ms : List Moment} {s : SimState} {pend : List Char}, Ready s pend →
    (∀ m ∈ ms, Quiet s.ss.ecuCount m) → '\r' ∉ pend ++ delivered ms → nul ∉ delivered ms →
    (pend ++ delivered ms).length ≤ pendingMax →
    ∃ s' outs, SameSession s s' ∧ s'.previousline = s.previousline ∧
      Ready s' (pend ++ delivered ms) ∧
      run (mainLoop parseATcmd) s ms = some (s', outs) ∧ outs.flatten = s.echo (delivered ms)
  | [], s, pend, hs, _, _, _, _ =>
    ⟨s, [], sameSession_refl s, rfl, by simpa [delivered] using hs, rfl, by
      simp [delivered, SimState.echo]⟩
  | m :: ms, s, pend, hs, hquiet, hcr, hnul, hlen => by
    have hcons : delivered (m :: ms) = m.result.bytes ++ delivered ms := rfl
    rw [hcons, ← List.append_assoc] at hcr hlen ⊢
    rw [hcons, List.mem_append, not_or] at hnul
    have hcr' : '\r' ∉ pend ++ m.result.bytes := fun h => hcr (List.mem_append_left _ h)
    -- no piece ends the line, so the framer only collects what comes
    have hframe : framePoll pend ⟨s.mEcho, m.conn, m.result⟩ = (pend ++ m.result.bytes, none) := by
      unfold framePoll
      cases hres : m.result with
      | eagain => simp [ReadResult.bytes]
      | error => simp [ReadResult.bytes]
      | data bs =>
        rw [hres] at hcr'
        cases bs with
        | nil => simp [ReadResult.bytes]
        | cons b bs => exact frame_of_not_mem hcr'
    obtain ⟨s₁, hsame, hprev, hs₁, hstep⟩ := mainLoop_quiet parseATcmd hs
      (hquiet m (List.mem_cons_self ..)) hnul.1
      (le_trans (by simp) hlen : (pend ++ m.result.bytes).length ≤ pendingMax)
    rw [hframe] at hs₁ hstep
    obtain ⟨s₂, outs, hsame', hprev', hs₂, hrun, hout⟩ := run_pieces hs₁
      (fun q hq => hsame.ecuCount ▸ hquiet q (List.mem_cons_of_mem _ hq)) hcr hnul.2 hlen
    refine ⟨s₂, s.echo m.result.bytes :: outs, hsame.trans hsame', hprev'.trans hprev, hs₂, ?_, ?_⟩
    · rw [run_cons_of_step hstep, hrun]
      rfl
    · rw [List.flatten_cons, hout, hsame.echo, SimState.echo, SimState.echo, SimState.echo]
      split <;> simp

/-! ## The answer -/

/-- The delivery that ends the only line pending hands it out. -/
theorem frame_line {pend c text : List Char} (h : pend ++ c = text ++ ['\r'])
    (hno : '\r' ∉ text) : frame pend c = ([], some text) := by
  have hstop : ∀ d ∈ text, (d != '\r') = true := by
    intro d hd
    have : d ≠ '\r' := fun he => hno (he ▸ hd)
    simpa using this
  rw [frame_of_mem (h ▸ by simp), h, List.takeWhile_append_of_pos hstop,
    List.dropWhile_append_of_pos hstop]
  simp [isTerm]

/-- A request the loop takes for one: upper-case, with no trace of `EXIT`, and
no AT command. -/
structure PlainRequest (text : List Char) : Prop where
  nonempty : text ≠ []
  upper : text.map Char.toUpper = text
  noExit : strstr text "EXIT".toList = none
  noAt : "AT".toList.isPrefixOf text = false
  noCr : '\r' ∉ text
  noNul : nul ∉ text
  short : text.length < pendingMax

theorem answer_plain {s : SimState} {text : List Char} (h : PlainRequest text)
    (gens : Nat → Simgen) :
    (s.answer parseATcmd gens text).2 = request s.ss gens text := by
  unfold SimState.answer
  simp only [if_neg h.nonempty, h.upper, h.noExit, h.noAt]
  rfl

/-- The answer leaves the session as it is, unless it ends the loop. -/
theorem answer_plain_session {s : SimState} {text : List Char} (h : PlainRequest text)
    (hs : Ready s []) {gens : Nat → Simgen} (hexit : (handle s.ss gens text).mustexit = false) :
    SameSession s (s.answer parseATcmd gens text).1 ∧
      Ready (s.answer parseATcmd gens text).1 [] := by
  unfold SimState.answer
  simp only [if_neg h.nonempty, h.upper, h.noExit, h.noAt]
  exact ⟨sameSession_refl s, by simp [hs.live, hexit], hs.wf, hs.zero, hs.pending⟩

/-- However the bytes of a line, and a `\r`, arrive, the last pass answers it in
a state of the same session. -/
theorem mainLoop_delivered {s : SimState} {pre : List Moment} {m : Moment} {text : List Char}
    (hs : Ready s []) (hquiet : ∀ q ∈ pre ++ [m], Quiet s.ss.ecuCount q) (hcr : '\r' ∉ text)
    (htnul : nul ∉ text) (hshort : text.length < pendingMax)
    (hreq : delivered (pre ++ [m]) = text ++ ['\r']) (hlast : m.result.bytes ≠ []) :
    ∃ s' outs, SameSession s s' ∧ s'.previousline = s.previousline ∧ Ready s' [] ∧
      run (mainLoop parseATcmd) s (pre ++ [m]) =
        some ((s'.answer parseATcmd m.ask text).1, outs) ∧
      outs.flatten = s.echo (text ++ ['\r']) ++ (s'.answer parseATcmd m.ask text).2 := by
  have hreq' : delivered pre ++ m.result.bytes = text ++ ['\r'] := by
    rw [← hreq]
    simp [delivered]
  -- the last delivery brings the `\r`, those before it a part of the text
  obtain ⟨bs, e, hbs⟩ := (List.eq_nil_or_concat m.result.bytes).resolve_left hlast
  obtain ⟨htextPre, rfl⟩ : delivered pre ++ bs = text ∧ e = '\r' := by
    rw [hbs, List.concat_eq_append, ← List.append_assoc] at hreq'
    simpa using List.append_inj' hreq' rfl
  have hsub : ∀ c ∈ delivered pre, c ∈ text := fun c hc =>
    htextPre ▸ List.mem_append_left _ hc
  obtain ⟨s₁, outs, hsame, hprev, hs₁, hrun, hout⟩ := run_pieces parseATcmd hs
    (fun q hq => hquiet q (List.mem_append_left _ hq)) (fun h => hcr (hsub _ h))
    (fun h => htnul (hsub _ h)) (by
      rw [← htextPre, List.length_append] at hshort
      rw [List.nil_append]
      omega)
  have hnul : nul ∉ m.result.bytes := by
    intro h
    have h' : nul ∈ text ++ ['\r'] := hreq' ▸ List.mem_append_right _ h
    exact absurd h' (by simp [htnul]; decide)
  obtain ⟨s₂, hsame', hprev', hs₂, hstep⟩ := mainLoop_quiet parseATcmd hs₁
    (hsame.ecuCount ▸ hquiet m (by simp)) hnul (by
      rw [List.nil_append, hreq', List.length_append]
      exact hshort)
  have hframe : framePoll ([] ++ delivered pre) ⟨s₁.mEcho, m.conn, m.result⟩ = ([], some text) := by
    rw [← frame_line hreq' hcr, List.nil_append]
    unfold framePoll
    cases hres : m.result with
    | eagain => exact absurd (by rw [hres]; rfl) hlast
    | error => exact absurd (by rw [hres]; rfl) hlast
    | data bs =>
      cases bs with
      | nil => exact absurd (by rw [hres]; rfl) hlast
      | cons b bs => rfl
  rw [hframe] at hs₂ hstep
  refine ⟨s₂, outs ++ [_], hsame.trans hsame', hprev'.trans hprev, hs₂,
    by rw [run_append hrun, run_cons_of_step hstep]; rfl, ?_⟩
  rw [List.flatten_append, hout, List.flatten_singleton, hsame.echo, ← List.append_assoc, ← hreq']
  unfold SimState.echo
  split <;> simp

/-- However the bytes of a plain request, and a `\r`, arrive, the last pass
answers it in a state of the same session. -/
theorem mainLoop_answered {s : SimState} {pre : List Moment} {m : Moment} {text : List Char}
    (hs : Ready s []) (hquiet : ∀ q ∈ pre ++ [m], Quiet s.ss.ecuCount q)
    (htext : PlainRequest text) (hreq : delivered (pre ++ [m]) = text ++ ['\r'])
    (hlast : m.result.bytes ≠ []) (hmode : (sscanf requestFormat text).vals.head? ≠ some 0x02) :
    ∃ s' outs, SameSession s s' ∧ Ready s' [] ∧
      run (mainLoop parseATcmd) s (pre ++ [m]) =
        some ((s'.answer parseATcmd m.ask text).1, outs) ∧
      outs.flatten = s.echo (text ++ ['\r']) ++ request s.ss m.ask text := by
  obtain ⟨s', outs, hsame, -, hs', hrun, hout⟩ := mainLoop_delivered parseATcmd hs hquiet htext.noCr
    htext.noNul htext.short hreq hlast
  refine ⟨s', outs, hsame, hs', hrun, ?_⟩
  obtain ⟨-, f, hf, hss⟩ := hsame
  rw [hout, answer_plain _ htext, hss, request_mapEcus _ _ hf hmode]

/-- **A request and what is written.** However the bytes of a plain request,
and a `\r`, arrive, the loop writes their echo and the answer. -/
theorem mainLoop_request {s : SimState} {pre : List Moment} {m : Moment} {text : List Char}
    (hs : Ready s []) (hquiet : ∀ q ∈ pre ++ [m], Quiet s.ss.ecuCount q)
    (htext : PlainRequest text) (hreq : delivered (pre ++ [m]) = text ++ ['\r'])
    (hlast : m.result.bytes ≠ []) (hmode : (sscanf requestFormat text).vals.head? ≠ some 0x02) :
    ∃ s' outs, run (mainLoop parseATcmd) s (pre ++ [m]) = some (s', outs) ∧
      outs.flatten = s.echo (text ++ ['\r']) ++ request s.ss m.ask text := by
  obtain ⟨s', outs, -, -, hrun, hout⟩ :=
    mainLoop_answered parseATcmd hs hquiet htext hreq hlast hmode
  exact ⟨_, outs, hrun, hout⟩

/-- **A request in a session.** If no ECU ends the loop, the next request finds
the loop in the same session, with nothing pending. -/
theorem mainLoop_session {s : SimState} {pre : List Moment} {m : Moment} {text : List Char}
    (hs : Ready s []) (hquiet : ∀ q ∈ pre ++ [m], Quiet s.ss.ecuCount q)
    (htext : PlainRequest text) (hreq : delivered (pre ++ [m]) = text ++ ['\r'])
    (hlast : m.result.bytes ≠ []) (hmode : (sscanf requestFormat text).vals.head? ≠ some 0x02)
    (hexit : (handle s.ss m.ask text).mustexit = false) :
    ∃ s' outs, SameSession s s' ∧ Ready s' [] ∧
      run (mainLoop parseATcmd) s (pre ++ [m]) = some (s', outs) ∧
      outs.flatten = s.echo (text ++ ['\r']) ++ request s.ss m.ask text := by
  obtain ⟨s', outs, hsame, hs', hrun, hout⟩ :=
    mainLoop_answered parseATcmd hs hquiet htext hreq hlast hmode
  have hexit' : (handle s'.ss m.ask text).mustexit = false := by
    obtain ⟨-, f, hf, hss⟩ := hsame
    rw [hss, handle_mapEcus _ _ hf hmode]
    exact hexit
  obtain ⟨hsame', hs''⟩ := answer_plain_session parseATcmd htext hs' hexit'
  exact ⟨_, outs, hsame.trans hsame', hs'', hrun, hout⟩

end ObdGpsLogger.Sim
