import Mathlib.Data.Nat.Bitwise

/-!
# Bitmaps of supported PIDs

The generators that know beforehand which PIDs they can serve keep them as the
answers to the requests for PIDs `0x00`, `0x20`, `0x40` and `0x60`: a bitmap for
each block of 32, whose highest bit is the first PID of the block. `mark` is the
chain of comparisons that sets the bit of one PID, and `mark_testBit` says that
it sets that bit, and no other.
-/

namespace ObdGpsLogger.Sim

/-- `supportedpids_00` to `supportedpids_60`. -/
structure SupportedPids where
  supportedpids00 : Nat
  supportedpids20 : Nat
  supportedpids40 : Nat
  supportedpids60 : Nat

/-- `supportedpids_… |= (unsigned long)1<<…`. -/
def SupportedPids.mark (s : SupportedPids) (pid : Nat) : SupportedPids :=
  if pid ≤ 0x20 then
    { s with supportedpids00 := s.supportedpids00 ||| 1 <<< (0x20 - pid) }
  else if 0x20 < pid ∧ pid ≤ 0x40 then
    { s with supportedpids20 := s.supportedpids20 ||| 1 <<< (0x40 - pid) }
  else if 0x40 < pid ∧ pid ≤ 0x60 then
    { s with supportedpids40 := s.supportedpids40 ||| 1 <<< (0x60 - pid) }
  else if 0x60 < pid ∧ pid ≤ 0x80 then
    { s with supportedpids60 := s.supportedpids60 ||| 1 <<< (0x80 - pid) }
  else s

/-- `bits`: the bitmap that a PID asks for, if it asks for one. -/
def SupportedPids.bits (s : SupportedPids) (pid : Nat) : Option Nat :=
  if pid = 0x00 then some s.supportedpids00
  else if pid = 0x20 then some s.supportedpids20
  else if pid = 0x40 then some s.supportedpids40
  else if pid = 0x60 then some s.supportedpids60
  else none

/-- The bitmap of the `b`-th block of 32 PIDs. -/
def SupportedPids.block (s : SupportedPids) : Nat → Nat
  | 0 => s.supportedpids00
  | 1 => s.supportedpids20
  | 2 => s.supportedpids40
  | 3 => s.supportedpids60
  | _ => 0

/-- The PID that bit `j` of the `b`-th block stands for. -/
def bitPid (b j : Nat) : Nat := 0x20 * (b + 1) - j

/-- The cells of a bitmap: `A` holds its highest byte. -/
def bitmapCells (bits : Nat) (cells : Nat → Nat) (i : Nat) : Nat :=
  if i < 4 then (bits >>> (8 * (3 - i))) % 256 else cells i

theorem testBit_or_shift (x n j : Nat) :
    (x ||| 1 <<< n).testBit j = true ↔ x.testBit j = true ∨ n = j := by
  rw [Nat.testBit_or, Nat.one_shiftLeft, Nat.testBit_two_pow, Bool.or_eq_true, decide_eq_true_iff]

/-- The block of a PID gets a bit; the first block has the PIDs from 0 on. -/
theorem SupportedPids.mark_block (s : SupportedPids) (pid : Nat) {b : Nat} (hb : b < 4) :
    (s.mark pid).block b =
      if (b = 0 ∨ 0x20 * b < pid) ∧ pid ≤ 0x20 * (b + 1) then
        s.block b ||| 1 <<< (0x20 * (b + 1) - pid)
      else s.block b := by
  have hblocks : b = 0 ∨ b = 1 ∨ b = 2 ∨ b = 3 := by omega
  unfold SupportedPids.mark
  rcases hblocks with rfl | rfl | rfl | rfl
  all_goals
    repeat' split
    all_goals first | rfl | omega

/-- **Marking** a PID sets its bit, and no other. -/
theorem SupportedPids.mark_testBit {s : SupportedPids} {pid b j : Nat} (hb : b < 4) (hj : j < 32) :
    ((s.mark pid).block b).testBit j = true ↔
      (s.block b).testBit j = true ∨ pid = bitPid b j := by
  rw [s.mark_block pid hb]
  unfold bitPid
  split
  · next hblock =>
    rw [testBit_or_shift]
    exact or_congr_right (by omega)
  · next hother =>
    have hno : pid ≠ 0x20 * (b + 1) - j := by omega
    exact (or_iff_left hno).symm

end ObdGpsLogger.Sim
