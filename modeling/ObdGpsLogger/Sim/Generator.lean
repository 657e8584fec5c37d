import ObdGpsLogger.Obdinfo.Convert
import ObdGpsLogger.Sim.Settings

/-!
# What the generators share

The generators of `src/sim/generators` look at the clock, find the row of the
PID they are asked for, and let its encoder fill the caller's cells.

Mirroring notes:
- The cells the pointers point at are what the caller put there until they are
  assigned.
- A row may lack an encoder. A generator that calls it all the same calls
  through `NULL` (`Outcome.nullCall`).
- A generator with a loop has fuel (`Outcome.running`).
-/

namespace ObdGpsLogger.Sim

open CLib Obdinfo

/-- `struct timeval`. -/
structure Timeval where
  tvSec : Int
  tvUsec : Int
  deriving DecidableEq, Repr

/-- The seconds from `start` to `now`, with their fraction. -/
def Timeval.since (now start : Timeval) : Rat :=
  ((now.tvSec - start.tvSec : Int) : Rat) + ((now.tvUsec - start.tvUsec : Int) : Rat) / 1000000

/-- What becomes of a call of `getvalue`. -/
inductive Outcome where
  | running
  | nullCall
  | value (v : GenValue)

/-- The cells after an encoder has stored its bytes. -/
def stored (e : Encoded) (cells : Nat → Nat) : GenValue :=
  { count := e.bytes.length
    abcd := fun i => e.bytes.getD i (cells i) }

theorem stored_bytes (e : Encoded) (cells : Nat → Nat) : (stored e cells).bytes = e.bytes := by
  refine List.ext_getElem (by simp [stored, GenValue.bytes]) fun i h _ => ?_
  have hi : i < e.bytes.length := by simpa [stored, GenValue.bytes] using h
  simp [stored, GenValue.bytes, hi]

/-- `conv(val, A, B, C, D)` of the encoder a row has, or has not. -/
def callConvrev (cmd : ObdServiceCmd) (val : Rat) (cells : Nat → Nat) : Outcome :=
  match cmd.convrev with
  | none => .nullCall
  | some r => .value (stored (r.convrev val) cells)

end ObdGpsLogger.Sim
