import ObdGpsLogger.Sim.EcuTimeout
import ObdGpsLogger.Sim.ParseATcmd
import ObdGpsLogger.Sim.Session

/-!
# What a client can tell of the simulator

To the client of a serial port the simulator is an ELM327: it has settings, it
takes commands one after the other, and answers each. `Adapter` says so, and
nothing of buffers, of passes of the loop, or of freeze frames.

`mainLoop_refines`: for any list of commands, however the bytes of each of them
arrive, the loop writes for each command what the adapter answers to it, and no
more. So what a client learns cannot depend on how its commands were cut up, nor
on the passes in between.

A command is left out that asks for freeze frames, which the adapter does not
have, and one that ends the loop.
-/

namespace ObdGpsLogger.Sim

open CLib Machine

/-- The state that the answers of the simulator depend on, without the bytes
that are on their way. -/
structure Adapter where
  ss : SimSettings
  mEcho : Bool
  previousline : List Char

/-- How a command reaches the simulator: in several passes, the last of which
brings its end and finds the generators answering as in `last.ask`. -/
structure Sending where
  text : List Char
  pre : List Moment
  last : Moment

/-- The passes that a command arrives in, in order. -/
def Sending.moments (c : Sending) : List Moment := c.pre ++ [c.last]

namespace Adapter

variable (reading : Reading) (a : Adapter)

/-- An empty line stands for the one before it. -/
def line (text : List Char) : List Char :=
  (if text = [] then a.previousline else text).map Char.toUpper

/-- What is written for the characters of a command as they come in: with echo
on all of them and the carriage return, and otherwise nothing. -/
def heard (text : List Char) : List Char := if a.mEcho then text ++ ['\r'] else []

/-- One command: the adapter afterwards, and everything it writes. -/
def command (c : Sending) : Adapter × List Char :=
  let line := a.line c.text
  let previousline := if c.text = [] then line else c.text.take 1024
  if "AT".toList.isPrefixOf line then
    let r := parseATcmd reading a.ss a.mEcho line
    let nl := newline r.ss.eLinefeed
    (⟨r.ss, r.mEcho, previousline⟩,
      a.heard c.text ++ (nl ++ r.response.getD elmQueryPrompt ++ nl ++ elmPrompt))
  else (⟨a.ss, a.mEcho, previousline⟩, a.heard c.text ++ request a.ss c.last.ask line)

/-- A command that arrives, in passes that end nothing. -/
structure Delivers (ecuCount : Nat) (c : Sending) : Prop where
  quiet : ∀ q ∈ c.moments, Quiet ecuCount q
  all : delivered c.moments = c.text ++ ['\r']
  brings : c.last.result.bytes ≠ []
  noCr : '\r' ∉ c.text
  noNul : nul ∉ c.text
  short : c.text.length < pendingMax

/-- A command the adapter has an answer for: it does not end the loop, and does
not ask for a freeze frame. -/
structure Serves (c : Sending) : Prop where
  delivers : Delivers a.ss.ecuCount c
  noExit : strstr (a.line c.text) "EXIT".toList = none
  answers : "AT".toList.isPrefixOf (a.line c.text) = true ∨
    (sscanf requestFormat (a.line c.text)).vals.head? ≠ some 0x02 ∧
      (handle a.ss c.last.ask (a.line c.text)).mustexit = false

end Adapter

/-- The adapter that a state of the loop is: with nothing pending, and perhaps
with other freeze frames. -/
structure Presents (s : SimState) (a : Adapter) : Prop where
  ready : Ready s []
  echo : s.mEcho = a.mEcho
  settings : ∃ f, KeepsNum f ∧ s.ss = a.ss.mapEcus f
  previous : s.previousline = a.previousline

/-- The loop starts as an adapter with the initial settings. -/
theorem init_presents (ss : SimSettings) :
    Presents (SimState.init FDSimPort.init ss) ⟨ss, ss.eEcho ≠ 0, "GARBAGE".toList⟩ :=
  ⟨init_ready ss, rfl, ⟨fun _ e => e, fun _ _ => rfl, (mapEcus_id ss).symm⟩, rfl⟩

/-! ## AT commands do not look at freeze frames -/

section MapEcus

variable {f : Nat → ObdgenEcu → ObdgenEcu}

/-- The result of a command, with the ECUs changed in place. -/
def AtResult.mapEcus (f : Nat → ObdgenEcu → ObdgenEcu) (r : AtResult) : AtResult :=
  { r with ss := r.ss.mapEcus f }

/-- A branch that does not look at the ECUs: changing them before the command or
after it comes to the same. -/
def Blind (f : Nat → ObdgenEcu → ObdgenEcu) (branch : AtBranch) : Prop :=
  Relates (fun ss ss' _ => ss' = ss.mapEcus f) (fun _ r r' => r' = r.mapEcus f) branch

theorem setObdprotocol_mapEcus (prot : List Char) (ss : SimSettings) :
    setObdprotocol prot (ss.mapEcus f) =
      ((setObdprotocol prot ss).1, (setObdprotocol prot ss).2.mapEcus f) := by
  unfold setObdprotocol
  cases prot.dropWhile (· == ' ') with
  | nil => rfl
  | cons c cs =>
    dsimp only
    cases findObdprotocol ((if (c == 'A' || c == 'a') = true then cs else c :: cs).dropWhile
        (· == ' ')) with
    | none => rfl
    | some proto => rfl

theorem blind_atProtocol : Blind f atProtocol := by
  apply relates_test
  intro ss ss' mEcho atCmd hsame
  subst hsame
  rw [setObdprotocol_mapEcus]
  dsimp only
  split <;> rfl

theorem blind_atDevice : Blind f atDevice := by
  apply relates_scan
  intro ss ss' mEcho atCmd ui hsame
  subst hsame
  split
  · rfl
  · split
    · rfl
    · split <;> rfl

/-- No branch of the chain looks at the ECUs, so none looks at their freeze
frames. -/
theorem blind_atBranches (reading : Reading) : ∀ branch ∈ atBranches reading, Blind f branch := by
  simp only [atBranches, List.forall_mem_cons]
  refine ⟨?adaptive, ?linefeed, ?headers, blind_atProtocol, ?spaces, ?echo, ?timeout,
    blind_atDevice, ?calibrate, ?voltage, ?num, ?desc, ?dlc, ?version, ?reset, nofun⟩
  case adaptive =>
    apply relates_scan
    intro ss ss' mEcho atCmd i hsame
    subst hsame
    split <;> rfl
  case voltage | num | desc | version | reset =>
    apply relates_test
    intro ss ss' mEcho atCmd hsame
    subst hsame
    rfl
  all_goals
    apply relates_scan
    intro ss ss' mEcho atCmd i hsame
    subst hsame
    rfl

/-- **AT commands do not look at the ECUs**, and so not at their freeze frames. -/
theorem parseATcmd_mapEcus (reading : Reading) (ss : SimSettings) (mEcho : Bool)
    (line : List Char) :
    parseATcmd reading (ss.mapEcus f) mEcho line =
      (parseATcmd reading ss mEcho line).mapEcus f :=
  parseATcmd_relates (blind_atBranches reading) rfl rfl

end MapEcus

/-! ## The refinement -/

section Refinement

variable (reading : Reading)

/-- All the passes of one command: the state afterwards, and what was written in
each. -/
def exchange (s : SimState) (c : Sending) : Option (SimState × List (List Char)) :=
  run (mainLoop (parseATcmd reading)) s c.moments

/-- What the adapter writes behind the echo. -/
def Adapter.reply (a : Adapter) (c : Sending) : List Char :=
  let line := a.line c.text
  if "AT".toList.isPrefixOf line then
    let r := parseATcmd reading a.ss a.mEcho line
    newline r.ss.eLinefeed ++ r.response.getD elmQueryPrompt ++ newline r.ss.eLinefeed ++ elmPrompt
  else request a.ss c.last.ask line

theorem command_snd (a : Adapter) (c : Sending) :
    (a.command reading c).2 = a.heard c.text ++ a.reply reading c := by
  unfold Adapter.command Adapter.reply
  dsimp only
  split <;> rfl

/-- The answer to a line is the adapter's, and what is left is the adapter
afterwards. -/
theorem answer_presents {s : SimState} {a : Adapter} {c : Sending} (h : Presents s a)
    (hc : a.Serves c) :
    Presents (s.answer (parseATcmd reading) c.last.ask c.text).1 (a.command reading c).1 ∧
      (s.answer (parseATcmd reading) c.last.ask c.text).2 = a.reply reading c := by
  obtain ⟨f, hf, hss⟩ := h.settings
  have hline : (if c.text = [] then s.previousline else c.text).map Char.toUpper =
      a.line c.text := by
    rw [Adapter.line, h.previous]
  have hready := h.ready
  unfold SimState.answer Adapter.command Adapter.reply
  dsimp only
  rw [hline, hc.noExit, hss, h.echo]
  by_cases hat : "AT".toList.isPrefixOf (a.line c.text) = true
  · rw [if_neg (by decide), if_pos hat, if_pos hat, if_pos hat, parseATcmd_mapEcus]
    exact ⟨⟨⟨hready.live, hready.wf, hready.zero, hready.pending⟩, rfl, ⟨f, hf, rfl⟩, rfl⟩, rfl⟩
  · obtain ⟨hmode, hexit⟩ := hc.answers.resolve_left hat
    have hlive : (s.mustexit || (handle (a.ss.mapEcus f) c.last.ask (a.line c.text)).mustexit) =
        false := by
      rw [handle_mapEcus _ _ hf hmode, hexit, hready.live]
      rfl
    rw [if_neg (by decide), if_neg hat, if_neg hat, if_neg hat, request_mapEcus _ _ hf hmode]
    exact ⟨⟨⟨hlive, hready.wf, hready.zero, hready.pending⟩, rfl, ⟨f, hf, rfl⟩, rfl⟩, rfl⟩

/-- **One command.** The loop gets through its passes, and writes what the
adapter does. -/
theorem exchange_refines (s : SimState) (a : Adapter) (c : Sending) (h : Presents s a)
    (hc : a.Serves c) :
    ∃ s' outs, exchange reading s c = some (s', outs) ∧ Presents s' (a.command reading c).1 ∧
      outs.flatten = (a.command reading c).2 := by
  obtain ⟨f, hf, hss⟩ := h.settings
  have hd := hc.delivers
  have hcount : s.ss.ecuCount = a.ss.ecuCount := by rw [hss, ecuCount_mapEcus]
  obtain ⟨s', outs, ⟨hecho, g, hg, hss'⟩, hprev, hs', hrun, hout⟩ :=
    mainLoop_delivered (parseATcmd reading) h.ready (hcount ▸ hd.quiet) hd.noCr hd.noNul hd.short
      hd.all hd.brings
  have hpres : Presents s' a :=
    { ready := hs'
      echo := hecho.trans h.echo
      settings := ⟨fun i e => g i (f i e), fun i e => (hg i _).trans (hf i e), by
        rw [hss', hss, mapEcus_mapEcus]⟩
      previous := hprev.trans h.previous }
  obtain ⟨hnext, hreply⟩ := answer_presents reading hpres hc
  refine ⟨_, outs, hrun, hnext, ?_⟩
  rw [hout, hreply, command_snd, SimState.echo, Adapter.heard, h.echo]

/-- The commands of a session, one after the other. -/
theorem exchanges_refine {s : SimState} {a : Adapter} {cs : List Sending} (h : Presents s a)
    (hcs : AlongTotal (Adapter.command reading) Adapter.Serves a cs) :
    ∃ t outs, run (exchange reading) s cs = some (t, outs) ∧
      Presents t (runTotal (Adapter.command reading) a cs).1 ∧
      outs.map List.flatten = (runTotal (Adapter.command reading) a cs).2 :=
  run_refines (exchange_refines reading) cs h hcs

/-- **The main loop is an adapter.** For any list of commands that it serves,
however their bytes arrive, the loop gets through all passes, and writes for
each command what the adapter answers to it. -/
theorem mainLoop_refines {s : SimState} {a : Adapter} {cs : List Sending} (h : Presents s a)
    (hcs : AlongTotal (Adapter.command reading) Adapter.Serves a cs) :
    ∃ (t : SimState) (outs : List (List (List Char))),
      run (mainLoop (parseATcmd reading)) s (cs.flatMap Sending.moments) =
        some (t, outs.flatten) ∧
      Presents t (runTotal (Adapter.command reading) a cs).1 ∧
      outs.map List.flatten = (runTotal (Adapter.command reading) a cs).2 := by
  obtain ⟨t, outs, hrun, hpres, hout⟩ := exchanges_refine reading h hcs
  exact ⟨t, outs, run_blocks Sending.moments hrun, hpres, hout⟩

end Refinement

/-- A generator that has no values and no trouble codes. -/
def silentEcu (_ : Nat) : Simgen := ⟨fun _ _ => ⟨0, fun _ => 0⟩, none⟩

/-- `ate0` in two pieces, the same again as an empty line, and a request. -/
def echoOffSession : List Sending :=
  [⟨"ate0".toList, [.reading "at".toList silentEcu], .reading "e0\r".toList silentEcu⟩,
    ⟨[], [], .reading ['\r'] silentEcu⟩,
    ⟨"0100".toList, [], .reading "0100\r".toList silentEcu⟩]

/-- A session that turns the echo off with its first command: the loop answers
as the adapter does, and only the first command is echoed. -/
theorem mainLoop_echoOff : ∃ (t : SimState) (outs : List (List (List Char))),
    run (mainLoop (parseATcmd fun _ => (false, 0)))
        (SimState.init FDSimPort.init (startSettings [0] (by decide)))
        (echoOffSession.flatMap Sending.moments) = some (t, outs.flatten) ∧
      Presents t (runTotal (Adapter.command fun _ => (false, 0))
        ⟨startSettings [0] (by decide), true, "GARBAGE".toList⟩ echoOffSession).1 ∧
      outs.map List.flatten = ["ate0\r\r\nOK\r\n>".toList, "\r\nOK\r\n>".toList,
        "\r\nNO DATA\r\n>".toList] := by
  have hquiet : ∀ bs, bs ≠ [] → Quiet 1 (.reading bs silentEcu) := fun bs hne =>
    quiet_reading hne silentEcu 1
  have hserves : AlongTotal (Adapter.command fun _ => (false, 0)) Adapter.Serves
      ⟨startSettings [0] (by decide), true, "GARBAGE".toList⟩ echoOffSession := by
    refine ⟨⟨⟨?_, by decide, by decide, by decide, by decide, by decide⟩, by decide,
      Or.inl (by decide)⟩, ⟨⟨?_, by decide, by decide, by decide, by decide, by decide⟩, by decide,
      Or.inl (by decide)⟩, ⟨⟨?_, by decide, by decide, by decide, by decide, by decide⟩, by decide,
      Or.inr (by decide)⟩, trivial⟩
    · -- the first command comes in two passes, the others in one
      intro q hq
      rcases List.mem_cons.mp hq with rfl | hq
      · exact hquiet _ (by decide)
      · obtain rfl := List.mem_singleton.mp hq
        exact hquiet _ (by decide)
    · intro q hq
      obtain rfl := List.mem_singleton.mp hq
      exact hquiet _ (by decide)
    · intro q hq
      obtain rfl := List.mem_singleton.mp hq
      exact hquiet _ (by decide)
  exact mainLoop_refines _ (init_presents (startSettings [0] (by decide))) hserves

end ObdGpsLogger.Sim
