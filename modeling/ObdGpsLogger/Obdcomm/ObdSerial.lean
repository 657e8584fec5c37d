import ObdGpsLogger.CLib.Buffer
import ObdGpsLogger.CLib.Scanf

/-!
# `obdserial.c` — asking an adapter for values

The part of `src/obdcomm/obdserial.c` that sends a request, collects the reply
up to the prompt and takes the values out of it; and the commands by which
`openserial` makes the adapter ready.

Mirroring notes:
- A call of `getobdbytes` meets an `Exchange`: what `write` returned, and how
  each `read` of `readserialdata` ended, with the microseconds that had passed
  since its start. `gettimeofday` is taken to succeed.
- `readserialdata` has no result (`none`) while the reads given to it contain
  no prompt and no timeout: the code is still in its loop.
- `retbuf` is zeroed before the reads, and they leave its last byte alone, so
  the text searched afterwards is the C string of what was read.
- The `strtok` loop of `getobdbytes` works on the list of tokens from the
  current one on. It has fuel, since it need not end.
- `retvals_size` bounds nothing in `getobdbytes`: the writes to the caller's
  array are returned as index and value (`stores`), for a caller to compare.
- `openserialCmds` are the commands for a `baudrate_target` of -1, which is the
  default. Opening the device and setting its line are left out.
- The messages on `stderr` and the serial log are left out.
-/

namespace ObdGpsLogger.Obdcomm

open CLib

/-- `enum obd_serial_status`: what became of a request. -/
inductive ObdSerialStatus where
  | success
  | noData
  | unparsable
  | invalidResponse
  | invalidMode
  | unableToConnect
  | error
  deriving DecidableEq, Repr

/-- `OBDCOMM_TIMEOUT`, in microseconds. -/
def obdcommTimeout : Int := 10000000

/-- `OBDCMD_NEWLINE`, which ends a command. -/
def obdcmdNewline : List Char := ['\r']

/-- One `read` of `readserialdata`, and the time passed when it returned. -/
structure SerialRead where
  result : ReadResult
  elapsed : Int
  deriving DecidableEq, Repr

/-- What a call of `getobdbytes` meets on the serial port. -/
structure Exchange where
  wrote : Int
  reads : List SerialRead

/-- `sizeof(retbuf)`: the room for a whole reply. -/
def retbufSize : Nat := 4096

/-- `readserialdata` into a buffer of `n` bytes that already holds `buf`: its
return value and the bytes in the buffer. -/
def readserialdata (n : Nat) : List Char → List SerialRead → Option (Int × List Char)
  | _, [] => none
  | buf, r :: rs =>
    -- `read` is offered `buf + n - bufptr - 1` bytes
    if n ≤ buf.length + r.result.bytes.length then none
    else if obdcommTimeout < r.elapsed then some (-1, buf ++ r.result.bytes)
    else if buf ++ r.result.bytes ≠ [] ∧ (buf ++ r.result.bytes).getLast? = some '>' then
      some ((buf ++ r.result.bytes).length, buf ++ r.result.bytes)
    else readserialdata n (buf ++ r.result.bytes) rs

/-- The request, before it is cut to `sizeof(sendbuf)`. -/
def requestText (mode cmd : Nat) (numbytesExpected : Int) : List Char :=
  if mode = 0x03 ∨ mode = 0x04 then fmtX 2 mode ++ obdcmdNewline
  else if numbytesExpected = 0 then fmtX 2 mode ++ fmtX 2 cmd ++ obdcmdNewline
  else fmtX 2 mode ++ fmtX 2 cmd ++ fmtX 1 (numbytesExpected % 2 ^ 32).toNat ++ obdcmdNewline

/-- `sendbuf`, an array of 20: the request as it is written. -/
def sendbuf (mode cmd : Nat) (numbytesExpected : Int) : List Char :=
  snprintf 20 (requestText mode cmd numbytesExpected)

/-! ## One line -/

/-- What `parseobdline` returns and stores. -/
structure ParsedLine where
  status : ObdSerialStatus
  retvals : List Nat
  valsRead : Nat
  deriving DecidableEq, Repr

/-- Whether a reply to this mode repeats the command. -/
def haveCmd (mode : Nat) : Bool := !(mode == 0x03 || mode == 0x04)

/-- How many of the scanned items come before the values. -/
def countSub (mode : Nat) : Nat := if haveCmd mode then 2 else 1

/-- `parseobdline` on one line of a reply, for a mode and a command. -/
def parseobdline (line : List Char) (mode cmd retvalsSize : Nat) : ParsedLine :=
  let scanned := sscanf (hexPairs (countSub mode + 20)) line
  if scanned.ret ≤ 2 then ⟨.unparsable, [], 0⟩
  else if scanned.vals.getD 0 0 ≠ (0x40 + mode) % 2 ^ 32 then ⟨.invalidResponse, [], 0⟩
  else if haveCmd mode ∧ scanned.vals.getD 1 0 ≠ cmd then ⟨.invalidMode, [], 0⟩
  else
    { status := .success
      retvals := (scanned.vals.drop (countSub mode)).take retvalsSize
      valsRead := (scanned.ret - countSub mode).toNat }

/-! ## The line loop -/

/-- `sizeof(longline)`: the room for the lines that are joined. -/
def longlineSize : Nat := 1024

/-- The number of items of `local_rets`, the array for the values of a line. -/
def localRetsSize : Nat := 20

/-- A character of `"\r\n>"`, the delimiters of `strtok`. -/
def isDelim (c : Char) : Bool := c == '\r' || c == '\n' || c == '>'

/-- The inner loop: as long as the current line has a colon, its text behind
the colon goes to the end of `longline`. -/
def joinColons : List Char → List (List Char) → List Char × List (List Char)
  | longline, [] => (longline, [])
  | longline, line :: lines =>
    match strstr line [':'] with
    | none => (longline, line :: lines)
    | some colon =>
      joinColons (strncat longline colon.tail (longlineSize - longline.length - 1)) lines

/-- What `getobdbytes` leaves behind: its return value, what it wrote to
`retvals`, and what it wrote to `*numbytes_returned`, if anything. -/
structure ObdBytes where
  status : ObdSerialStatus
  stores : List (Nat × Nat)
  numbytesReturned : Option Nat
  deriving DecidableEq, Repr

/-- The copy loop: `local_rets` goes to `retvals`, from `values_returned` on. -/
def copyRets (valuesReturned : Nat) (p : ParsedLine) : List (Nat × Nat) :=
  (List.range p.valsRead).map fun i => (valuesReturned + i, p.retvals.getD i 0)

/-- The end of `getobdbytes`: the status, the values stored and their number. -/
def finish (ret : ObdSerialStatus) (stores : List (Nat × Nat)) : ObdBytes :=
  { status := if stores = [] then ret else .success
    stores := stores
    numbytesReturned := some stores.length }

/-- The `while(NULL != line)` loop, from the current line on. -/
def lineLoop (mode cmd : Nat) : Nat → List (List Char) → ObdSerialStatus → Option ObdBytes
  | 0, _, _ => none
  | _ + 1, [], ret => some (finish ret [])
  | fuel + 1, line :: rest, ret =>
    let joinedLines := (strstr line [':']).isSome
    let joined := joinColons [] (line :: rest)
    let parseline := if joinedLines then joined.1 else line
    -- `continue`: only the inner loop may have moved on
    if parseline.length ≤ 3 then lineLoop mode cmd fuel joined.2 ret
    else
      let p := parseobdline parseline mode cmd localRetsSize
      if p.status = .success then some (finish p.status (copyRets 0 p))
      else lineLoop mode cmd fuel (if joinedLines then joined.2 else rest) p.status

/-- The sanity checks on the reply as a whole. -/
def replyMarker (retbuf : List Char) : Option ObdSerialStatus :=
  if (strstr retbuf "NO DATA".toList).isSome then some .noData
  else if (strstr retbuf "?".toList).isSome then some .noData
  else if (strstr retbuf "UNABLE TO CONNECT".toList).isSome then some .unableToConnect
  else none

/-- `getobdbytes` once the reply is in `retbuf`. -/
def parseReply (mode cmd fuel : Nat) (retbuf : List Char) : Option ObdBytes :=
  match replyMarker retbuf with
  | some status => some ⟨status, [], none⟩
  | none => lineLoop mode cmd fuel (strtokAll isDelim retbuf) .error

/-- `getobdbytes`: the request is written, the reply is read to the prompt, and
its lines are parsed. `none`: the function does not return. -/
def getobdbytes (mode cmd : Nat) (numbytesExpected : Int) (x : Exchange) (fuel : Nat) :
    Option ObdBytes :=
  if x.wrote < (requestText mode cmd numbytesExpected).length then some ⟨.error, [], none⟩
  else
    match readserialdata retbufSize [] x.reads with
    | none => none
    | some (nbytes, buf) =>
      if nbytes = 0 ∨ nbytes = -1 then some ⟨.error, [], none⟩
      else parseReply mode cmd fuel (cstr buf)

/-! ## Commands whose reply is thrown away -/

/-- What `blindcmd` writes: `outstr`, an array of 1024. -/
def blindcmd (cmd : List Char) : List Char := snprintf 1024 (cmd ++ obdcmdNewline)

/-- `readtonextprompt`: what it throws away. -/
def readtonextprompt (reads : List SerialRead) : Option (List Char) :=
  (readserialdata retbufSize [] reads).map Prod.snd

/-- The commands that `openserial` sends with `blindcmd`, in order. -/
def openserialCmds : List (List Char) :=
  ["ATZ".toList, "0100".toList, "ATE0".toList, "ATL0".toList, "ATS0".toList, "0100".toList]

end ObdGpsLogger.Obdcomm
