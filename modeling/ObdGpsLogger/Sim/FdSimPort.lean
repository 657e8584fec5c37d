import ObdGpsLogger.CLib.Buffer

/-!
# `FDSimPort` — the simulator's line reader

`src/sim/fdsimport.cc` collects what a non-blocking `read` delivers in
`readbuf`, and hands out the text before the first `\r` as a line. The
`read` appends behind `readbuf_pos`; taking a line moves the rest of the array
to the front with `memmove` and lowers `readbuf_pos` by as much.

Mirroring notes:
- `readbuf` is scanned as a C string. Whatever earlier lines left behind
  `readbuf_pos` is part of what the scan sees, so the array keeps all its
  cells here (`Buffer`).
- A call that would read past the end of `readbuf`, or write before its
  start, has no result (`none`).
- When no `\r` is found the source searches for `\n`, but stores the result in
  a variable declared inside that block; the search has no effect.
- `mEcho` is set by the main loop between calls, and whether a client can be
  connected is up to the subclass (`tryConnection`), so both come with the
  call (`Poll`). The log file, when there is one, gets a copy of the same
  text and is left out.
-/

namespace ObdGpsLogger.Sim

open CLib

/-- `sizeof(readbuf)`, of the buffer for a line that is not complete. -/
def readbufSize : Nat := 4096

/-- The members of an `FDSimPort` that `readLine` uses. -/
structure FDSimPort where
  connected : Int
  lastread : List Char
  readbuf : Buffer readbufSize
  readbufPos : Int

/-- The port as its constructor leaves it. -/
def FDSimPort.init : FDSimPort :=
  { connected := 0, lastread := [], readbuf := Buffer.zeroed readbufSize, readbufPos := 0 }

/-- What one call of `readLine` meets: the echo setting, what
`tryConnection` would return, and how `read` ends. -/
structure Poll where
  mEcho : Bool
  conn : Int
  result : ReadResult
  deriving DecidableEq, Repr

/-- What one call of `readLine` does: the line it returns, and what it writes
back as echo. -/
structure LineRead where
  line : Option (List Char)
  echo : List Char
  deriving DecidableEq, Repr

/-- The line terminators that are skipped after a line. -/
def isTerm (c : Char) : Bool := c == '\r' || c == '\n'

/-- `writeData(currpos, 0)` under `getEcho()`: the C string at `currpos`. -/
def echoText (mEcho : Bool) (mem : List Char) : Option (List Char) :=
  if mEcho then (if nul ∈ mem then some (cstr mem) else none) else some []

/-- `while(*lineend == '\r' || *lineend == '\n') lineend++`, the `memmove`
and the new `readbuf_pos`; `received` is `readbuf_pos` after the read. -/
def FDSimPort.takeLine (p : FDSimPort) (buf : Buffer readbufSize) (received : Int)
    (line lineend : List Char) : Option FDSimPort :=
  match lineend.dropWhile isTerm with
  | [] => none
  | c :: rest =>
    some { p with
      lastread := line
      readbuf := buf.moveDown (readbufSize - (c :: rest).length)
      readbufPos := received - (readbufSize - (c :: rest).length : Nat) }

/-- `readLine` once `read` has delivered `bs`. -/
def FDSimPort.takeData (p : FDSimPort) (mEcho : Bool) (bs : List Char) :
    Option (FDSimPort × LineRead) :=
  if p.readbufPos < 0 then none
  else
    let buf := p.readbuf.store p.readbufPos.toNat bs
    let received := p.readbufPos + bs.length
    match echoText mEcho (buf.cells.drop p.readbufPos.toNat) with
    | none => none
    | some echo =>
      match scan '\r' buf.cells with
      | .overrun => none
      | .absent => some ({ p with readbuf := buf, readbufPos := received }, ⟨none, echo⟩)
      | .found line lineend =>
        (p.takeLine buf received line lineend).map fun p' => (p', ⟨some line, echo⟩)

/-- `setConnected(tryConnection())`, when there is no connection. -/
def FDSimPort.connect (p : FDSimPort) (conn : Int) : FDSimPort :=
  if p.connected = 0 then { p with connected := conn } else p

/-- `FDSimPort::readLine`: the port afterwards and the line, if it has one.
`none`: the buffer is overrun. -/
def FDSimPort.readLine (p : FDSimPort) (q : Poll) : Option (FDSimPort × LineRead) :=
  if p.connected = 0 ∧ q.conn ≤ 0 then some (p.connect q.conn, ⟨none, []⟩)
  else
    match q.result with
    | .eagain => some (p.connect q.conn, ⟨none, []⟩)
    | .error => some ({ p.connect q.conn with connected := 0 }, ⟨none, []⟩)
    | .data [] => some ({ p.connect q.conn with connected := 0 }, ⟨none, []⟩)
    | .data (b :: bs) => (p.connect q.conn).takeData q.mEcho (b :: bs)

/-! ## What the port is for -/

/-- The bytes received after the last line taken. -/
def FDSimPort.pending (p : FDSimPort) : List Char :=
  p.readbuf.cells.take p.readbufPos.toNat

/-- What stands in `readbuf` behind the pending bytes once `n` more have been
read. -/
def FDSimPort.leftover (p : FDSimPort) (n : Nat) : List Char :=
  p.readbuf.cells.drop (p.readbufPos.toNat + n)

@[simp] theorem connect_readbufPos (p : FDSimPort) (conn : Int) :
    (p.connect conn).readbufPos = p.readbufPos := by
  unfold FDSimPort.connect
  split <;> rfl

@[simp] theorem connect_pending (p : FDSimPort) (conn : Int) :
    (p.connect conn).pending = p.pending := by
  unfold FDSimPort.connect
  split <;> rfl

@[simp] theorem connect_leftover (p : FDSimPort) (conn : Int) (n : Nat) :
    (p.connect conn).leftover n = p.leftover n := by
  unfold FDSimPort.connect
  split <;> rfl

/-- One delivery to an ideal line reader, which has nothing but its pending
bytes: a line is the text before the first `\r`, and the terminators that
have arrived go with it. -/
def frame (pend bs : List Char) : List Char × Option (List Char) :=
  if '\r' ∈ pend ++ bs then
    (((pend ++ bs).dropWhile (fun c => c != '\r')).dropWhile isTerm,
      some ((pend ++ bs).takeWhile (fun c => c != '\r')))
  else (pend ++ bs, none)

/-- The bytes a sequence of calls received. -/
def received (qs : List Poll) : List Char := qs.flatMap fun q => q.result.bytes

/-- The lines a sequence of calls returned. -/
def returned (os : List LineRead) : List (List Char) := os.filterMap LineRead.line

end ObdGpsLogger.Sim
