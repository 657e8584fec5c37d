import Mathlib.Algebra.GroupWithZero.Nat
import ObdGpsLogger.CLib.Scanf
import ObdGpsLogger.Sim.FdSimPort
import ObdGpsLogger.Sim.Settings

/-!
# The simulator's main loop

`main_loop`, `obdsim_freezeframes` and `render_obdheader` of
`src/sim/mainloop.cc`. A pass of the loop lets the freeze frames be taken,
reads a line from the port, and answers it.

Mirroring notes:
- Every branch that answers a request writes its responses one by one, each
  followed by a newline, and counts them. The model collects the responses
  (`responses`); what is written is put together in `request`.
- An AT command is answered by `parse_ATcmd`, which is a parameter here: it
  gets the settings and the line, and gives new settings, the new echo setting
  of the port, and the response, if it recognised the command.
- `gettimeofday` and the writes to the port are taken to succeed. Waiting and
  benchmarks are left out; `accumulated_time` and the ECUs that were asked are
  reported instead.
- `clearerrorcodes` changes only what the generators answer later.
- An `int` read with `%x` holds the value modulo `2 ^ 32`. Only the frame
  number is used as a signed number.
-/

namespace ObdGpsLogger.Sim

open CLib Obdinfo

/-- What ends a line of a reply: `newline_crlf` or `newline_cr`. -/
def newline (eLinefeed : Int) : List Char := if eLinefeed ≠ 0 then ['\r', '\n'] else ['\r']

/-- What stands between two bytes of a reply: `ss->e_spaces?" ":""`. -/
def space (eSpaces : Int) : List Char := if eSpaces ≠ 0 then [' '] else []

/-- `ELM_PROMPT`, which ends a reply. -/
def elmPrompt : List Char := ">".toList

/-- `ELM_QUERY_PROMPT`, the reply to what is not understood. -/
def elmQueryPrompt : List Char := "?".toList

/-- `ELM_OK_PROMPT`, the reply to a command that sets something. -/
def elmOkPrompt : List Char := "OK".toList

/-- `ELM_NODATA_PROMPT`, the reply where no ECU answers. -/
def elmNodataPrompt : List Char := "NO DATA".toList

/-- `sizeof(response)`, of the array for a line of a reply. -/
def responseSize : Nat := 1024

/-! ## Headers -/

/-- `render_obdheader` into a buffer of `buflen` bytes that holds `""`. -/
def renderObdheader (buflen : Nat) (proto : ObdiiProtocol) (ecuNum messagelen : Nat)
    (spaces dlc : Int) : List Char :=
  let sp := space spaces
  let dlcStr := if dlc ≠ 0 then snprintf 8 (fmtX 1 (messagelen + 2) ++ sp) else []
  match proto.headertype with
  | .j1850pwm =>
    snprintf buflen ("41".toList ++ sp ++ "6B".toList ++ sp ++ fmtX 2 (ecuNum + 0x10) ++ sp)
  | .j1850vpw =>
    snprintf buflen ("48".toList ++ sp ++ "6B".toList ++ sp ++ fmtX 2 (ecuNum + 0x10) ++ sp)
  | .iso14230 =>
    snprintf buflen (fmtX 2 (0x80 ||| messagelen) ++ sp ++ "F1".toList ++ sp ++
      fmtX 2 (ecuNum + 0x10) ++ sp)
  | .can29 =>
    let ecuaddress := ecuNum + 0x18DAF110
    let segment := fun n => (ecuaddress >>> n) % 256
    snprintf buflen (fmtX 2 (segment 24) ++ sp ++ fmtX 2 (segment 16) ++ sp ++
      fmtX 2 (segment 8) ++ sp ++ fmtX 2 (segment 0) ++ sp ++ fmtX 2 messagelen ++ sp ++ dlcStr)
  | .can11 =>
    snprintf buflen (fmtX 3 (ecuNum + 0x7E8) ++ sp ++ fmtX 2 messagelen ++ sp ++ dlcStr)
  | .null => []

/-- `header`: empty without `e_headers`. -/
def SimSettings.header (ss : SimSettings) (ecuNum messagelen : Nat) : List Char :=
  if ss.eHeaders ≠ 0 then
    renderObdheader 16 ss.eProtocol ecuNum messagelen ss.eSpaces ss.eDlc
  else []

/-! ## Freeze frames -/

/-- The body of the loop of `obdsim_freezeframes`, for one ECU. -/
def freezeTick (g : Simgen) (e : ObdgenEcu) : ObdgenEcu :=
  match g.geterrorcodes with
  | none => e
  | some geterrorcodes =>
    let errorcount := (geterrorcodes 0).errorcount
    if errorcount = 0 then { e with lasterrorcount := 0, ffcount := 0 }
    else if e.lasterrorcount = errorcount then e
    else if obdsimMaxfreezeframes ≤ e.ffcount then e
    else
      { e with
        ff := fun slot =>
          if slot = e.ffcount then
            -- `j` runs over the rows of `obdcmds_mode1`
            { values := fun j => if j < obdcmdsMode1.length then (g.getvalue 0x01 j).abcd
                else (e.ff slot).values j
              valuecount := fun j => if j < obdcmdsMode1.length then (g.getvalue 0x01 j).count
                else (e.ff slot).valuecount j }
          else e.ff slot
        ffcount := e.ffcount + 1
        lasterrorcount := errorcount }

/-- `obdsim_freezeframes`: a tick for each of the ECUs. -/
def obdsimFreezeframes (gens : Nat → Simgen) (ss : SimSettings) : SimSettings :=
  ss.mapEcus fun i e => freezeTick (gens i) e

/-! ## Requests -/

/-- What a request makes the loop do: the responses, and for mode 01 the time
it accumulates, the ECUs it asks, and whether one of them ends the loop. -/
structure Handled where
  responses : List (List Char)
  accumulatedTime : Int
  queried : List Nat
  mustexit : Bool

/-- A request that is answered without asking ECUs for values. -/
def Handled.of (responses : List (List Char)) : Handled :=
  { responses := responses, accumulatedTime := 0, queried := [], mustexit := false }

/-- One line of three trouble codes, from code `j` on. -/
def errorLine (ss : SimSettings) (ecuNum : Nat) (errorcount : Nat) (errorcodes : Nat → Nat)
    (j : Nat) : List Char :=
  let sp := space ss.eSpaces
  let code := fun k i => if k < errorcount - j then errorcodes ((j + k) * 2 + i) else 0x00
  snprintf responseSize (ss.header ecuNum 7 ++ fmtX 2 0x43 ++
    snprintf 32 (sp ++ fmtX 2 (errorcodes (j * 2)) ++ sp ++ fmtX 2 (errorcodes (j * 2 + 1)) ++
      sp ++ fmtX 2 (code 1 0) ++ sp ++ fmtX 2 (code 1 1) ++
      sp ++ fmtX 2 (code 2 0) ++ sp ++ fmtX 2 (code 2 1)))

/-- Modes 03 and 07 for one ECU: the codes, three to a line. -/
def errorLines (ss : SimSettings) (ecuNum : Nat) (g : Simgen) : List (List Char) :=
  match g.geterrorcodes with
  | none => []
  | some geterrorcodes =>
    let r := geterrorcodes 10
    -- `for(j=0;j<errorcount;j+=3)`
    (List.range ((r.errorcount.toNat + 2) / 3)).map fun k =>
      errorLine ss ecuNum r.errorcount.toNat r.errorcodes (3 * k)

/-- What a line with one value on it is answered: the trouble codes, or `OK` to
the command that clears them. -/
def request1 (ss : SimSettings) (gens : Nat → Simgen) (mode : Nat) : Handled :=
  if mode = 0x03 ∨ mode = 0x07 then
    .of ((List.range ss.ecuCount).flatMap fun i => errorLines ss (ss.ecuNum i) (gens i))
  else if mode = 0x04 then .of [elmOkPrompt]
  else .of [elmQueryPrompt]

/-- The `int` with the bits of an `unsigned int`. -/
def toInt32 (v : Nat) : Int := if v < 2 ^ 31 then v else v - 2 ^ 32

/-- What mode 02 does for one ECU: the slot of `ff` it reads, if it reads one,
and its response, if it has one. -/
structure FrameAnswer where
  slot : Option Int
  response : Option (List Char)

/-- `ffmessage`, for the counts the `switch` knows. -/
def ffmessage (ss : SimSettings) (mode pid : Nat) (frame : Int) (f : Freezeframe) : List Char :=
  let sp := space ss.eSpaces
  if 1 ≤ f.valuecount pid ∧ f.valuecount pid ≤ 4 then
    snprintf 256 (fmtX 2 mode ++ sp ++ fmtX 2 pid ++ sp ++ fmtX 2 (frame % 2 ^ 32).toNat ++
      (List.range (f.valuecount pid).toNat).flatMap fun k => sp ++ fmtX 2 (f.values pid k))
  else []

/-- What one ECU answers to a request of mode 02 for a frame. -/
def frameAnswer (ss : SimSettings) (mode pid : Nat) (frame : Int) (e : ObdgenEcu) : FrameAnswer :=
  if frame < obdsimMaxfreezeframes ∧ frame ≤ e.ffcount then
    { slot := some frame
      response :=
        if 0 < (e.ff frame).valuecount pid then
          some (snprintf responseSize
            (ss.header e.ecuNum 7 ++ ffmessage ss mode pid frame (e.ff frame)))
        else none }
  else { slot := none, response := none }

/-- `snprintf(shortbuf, …)` of one more byte. -/
def shortbuf (ss : SimSettings) (v : Nat) : List Char := snprintf 64 (space ss.eSpaces ++ fmtX 2 v)

/-- The response of mode 01: `abcd` has eight cells. -/
def valueLine (ss : SimSettings) (ecuNum mode pid : Nat) (v : GenValue) : List Char :=
  let bytes := (List.range (min v.count.toNat 8)).map v.abcd
  snprintf responseSize
      (ss.header ecuNum (v.count + 2).toNat ++ fmtX 2 (mode + 0x40) ++ space ss.eSpaces ++
        fmtX 2 pid) ++
    bytes.flatMap (shortbuf ss) ++
    if ss.eHeaders ≠ 0 then shortbuf ss (bytes.sum % 256) else []

/-- The mode 01 loop over the rest of `ecudelays`, from `accumulated_time` on. -/
def ecuLoop (ss : SimSettings) (gens : Nat → Simgen) (mode pid : Nat) :
    Int → List ObdgenEcudelay → Handled
  | accumulatedTime, [] =>
    { responses := [], accumulatedTime := accumulatedTime, queried := [], mustexit := false }
  | accumulatedTime, d :: ds =>
    if ss.eTimeout < accumulatedTime + d.delay then
      -- `continue`: the delay is not accumulated
      ecuLoop ss gens mode pid accumulatedTime ds
    else
      let v := (gens d.ecu).getvalue mode pid
      if v.count = -1 then
        { responses := []
          accumulatedTime := accumulatedTime + d.delay
          queried := [d.ecu]
          mustexit := true }
      else
        let r := ecuLoop ss gens mode pid (accumulatedTime + d.delay) ds
        { r with
          responses :=
            if 0 < v.count then valueLine ss (ss.ecuNum d.ecu) mode pid v :: r.responses
            else r.responses
          queried := d.ecu :: r.queried }

/-- A request with two values or more; `frame` is the third, or 0. -/
def request2 (ss : SimSettings) (gens : Nat → Simgen) (mode pid : Nat) (frame : Int) : Handled :=
  match obdGetCmdForPID pid with
  | none => .of [elmQueryPrompt]
  | some _ =>
    if mode = 0x02 then
      .of (ss.ecus.filterMap fun e => (frameAnswer ss mode pid frame e).response)
    else if mode ≠ 0x01 then .of []
    else ecuLoop ss gens mode pid 0 ss.ecudelays

/-- The format `"%02x %02x %x"` of a request. -/
def requestFormat : List Directive := [.hex (some 2), .space, .hex (some 2), .space, .hex none]

/-- What the loop does with a line that is no AT command. -/
def handle (ss : SimSettings) (gens : Nat → Simgen) (line : List Char) : Handled :=
  match (sscanf requestFormat line).vals with
  | [] => .of [elmQueryPrompt]
  | [mode] => request1 ss gens mode
  | [mode, pid] => request2 ss gens mode pid 0
  | mode :: pid :: frame :: _ => request2 ss gens mode pid (toInt32 frame)

/-- A request for a known PID: the third value counts in mode 02 only. -/
theorem handle_of_vals {ss : SimSettings} {gens : Nat → Simgen} {line : List Char}
    {mode pid : Nat} {rest : List Nat}
    (h : (sscanf requestFormat line).vals = mode :: pid :: rest) :
    handle ss gens line = request2 ss gens mode pid (toInt32 (rest.headD 0)) := by
  unfold handle
  rw [h]
  cases rest <;> rfl

/-- A mode 01 request for a PID of the table asks the ECUs in turn, in the order
of their delays. -/
theorem handle_mode1 {ss : SimSettings} {gens : Nat → Simgen} {line : List Char} {pid : Nat}
    {rest : List Nat} (h : (sscanf requestFormat line).vals = 0x01 :: pid :: rest)
    (hpid : (obdGetCmdForPID pid).isSome) :
    handle ss gens line = ecuLoop ss gens 0x01 pid 0 ss.ecudelays := by
  obtain ⟨cmd, hcmd⟩ := Option.isSome_iff_exists.mp hpid
  rw [handle_of_vals h, request2, hcmd]
  rfl

/-- What the loop writes for a request. -/
def request (ss : SimSettings) (gens : Nat → Simgen) (line : List Char) : List Char :=
  let h := handle ss gens line
  let nl := newline ss.eLinefeed
  nl ++ (h.responses.flatMap fun response => response ++ nl) ++
    (if h.responses = [] then elmNodataPrompt ++ nl else []) ++ elmPrompt

/-! ## The loop -/

/-- What `parse_ATcmd` does: the settings and the port's echo setting
afterwards, and the response, if the command was recognised. -/
structure AtResult where
  ss : SimSettings
  mEcho : Bool
  response : Option (List Char)

/-- The variables of `main_loop`, with the port and the settings. -/
structure SimState where
  port : FDSimPort
  mEcho : Bool
  ss : SimSettings
  previousline : List Char
  mustexit : Bool

/-- The state before the loop: `sp->setEcho(ss->e_echo)`. -/
def SimState.init (port : FDSimPort) (ss : SimSettings) : SimState :=
  { port := port
    mEcho := ss.eEcho ≠ 0
    ss := ss
    previousline := "GARBAGE".toList
    mustexit := false }

/-- What a pass of the loop meets: what the `idle` functions return, what the
generators answer to `obdsim_freezeframes` and to the request, and what
`readLine` meets. -/
structure Moment where
  idle : Nat → Int
  tick : Nat → Simgen
  conn : Int
  result : ReadResult
  ask : Nat → Simgen

section Loop

variable (parseATcmd : SimSettings → Bool → List Char → AtResult)

/-- The loop once a line has been read: the state, and what is written. -/
def SimState.answer (s : SimState) (gens : Nat → Simgen) (read : List Char) :
    SimState × List Char :=
  -- an empty line means the previous one; `strncpy` copies at most the array
  let line := (if read = [] then s.previousline else read).map Char.toUpper
  let s := { s with
    previousline := if read = [] then line else read.take 1024 }
  if (strstr line "EXIT".toList).isSome then ({ s with mustexit := true }, [])
  else if "AT".toList.isPrefixOf line then
    let r := parseATcmd s.ss s.mEcho line
    let nl := newline r.ss.eLinefeed
    ({ s with ss := r.ss, mEcho := r.mEcho },
      nl ++ (r.response.getD elmQueryPrompt) ++ nl ++ elmPrompt)
  else
    let h := handle s.ss gens line
    ({ s with mustexit := s.mustexit || h.mustexit }, request s.ss gens line)

/-- One pass of the loop, with everything it writes; `none` when the loop is
over, or the port leaves its buffer. -/
def mainLoop (s : SimState) (m : Moment) : Option (SimState × List Char) :=
  if s.mustexit then none
  else
    let ss := obdsimFreezeframes m.tick s.ss
    let mustexit := (List.range ss.ecuCount).any fun i => m.idle i ≠ 0
    match s.port.readLine ⟨s.mEcho, m.conn, m.result⟩ with
    | none => none
    | some (port, r) =>
      let s := { s with port := port, ss := ss, mustexit := mustexit }
      match r.line with
      | none => some (s, r.echo)
      | some read =>
        let a := s.answer parseATcmd m.ask read
        some (a.1, r.echo ++ a.2)

end Loop

end ObdGpsLogger.Sim
