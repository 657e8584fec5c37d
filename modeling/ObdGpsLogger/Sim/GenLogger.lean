import ObdGpsLogger.Sim.Generator
import ObdGpsLogger.Sim.SupportedPids

/-!
# The Logger generator

`src/sim/generators/logger/gen_logger.c`: the values of a log, played back.
When it is created it looks at the columns of the log and marks their PIDs in
bitmaps, one for each block of 32; a request for a block is answered with its
bitmap (`create_testBit`), any other with the value of the column at that time.

Mirroring notes:
- The log is what SQLite says about it: the names `PRAGMA table_info` lists,
  the first and the last time, and for a column and a time the interpolated
  value, unless the statement cannot be prepared.
- `double` arithmetic is exact.
-/

namespace ObdGpsLogger.Sim

open CLib Obdinfo

/-- A log file, as the queries of the generator see it. -/
structure LogFile where
  columns : List String
  minTime : Rat
  maxTime : Rat
  est : String → Rat → Option Rat

/-- `struct logger_gen`: the bitmaps, the log, and the time of its creation. -/
structure LoggerGen extends SupportedPids where
  db : LogFile
  simstart : Timeval

/-- One row of `PRAGMA table_info(obd)`. -/
def LoggerGen.addColumn (g : LoggerGen) (columnname : String) : LoggerGen :=
  if columnname = "time" ∨ columnname = "trip" then g
  else
    match obdGetCmdForColumn columnname with
    | none => g
    | some cmd => { g with toSupportedPids := g.toSupportedPids.mark cmd.cmdid }

/-- `logger_simgen_create`: every column of the log that a row names is marked. -/
def loggerSimgenCreate (db : LogFile) (now : Timeval) : LoggerGen :=
  db.columns.foldl LoggerGen.addColumn
    { db := db
      simstart := now
      supportedpids00 := 0x01
      supportedpids20 := 0x01
      supportedpids40 := 0x00
      supportedpids60 := 0x00 }

/-- `seltime`: the time in the log that is played back now. `none`: the fuel
does not suffice for the loop. -/
def LoggerGen.seltime (g : LoggerGen) (fuel : Nat) (currtime : Timeval) : Option Rat :=
  wrapDown g.db.maxTime (g.db.maxTime - g.db.minTime) fuel
    (g.db.minTime + currtime.since g.simstart)

/-- `logger_simgen_getvalue`: a bitmap, or the value of the log at the time
selected, encoded. -/
def loggerSimgenGetvalue (g : LoggerGen) (fuel : Nat) (currtime : Timeval) (cells : Nat → Nat)
    (pid : Nat) : Outcome :=
  match g.bits pid with
  | some bits => .value ⟨4, bitmapCells bits cells⟩
  | none =>
    match obdGetCmdForPID pid with
    | none => .value ⟨0, cells⟩
    | some cmd =>
      match cmd.dbColumn with
      | none => .value ⟨0, cells⟩
      | some column =>
        if column = "" then .value ⟨0, cells⟩
        else
          match g.seltime fuel currtime with
          | none => .running
          | some seltime =>
            match g.db.est column seltime with
            | none => .value ⟨0, cells⟩
            | some val => callConvrev cmd val cells

/-! ## The bitmaps -/

/-- `pid` is the PID of a column of the log. -/
def LogFile.Logged (db : LogFile) (pid : Nat) : Prop :=
  ∃ cmd ∈ obdcmdsMode1, cmd.cmdid = pid ∧ ∃ column ∈ db.columns, cmd.dbColumn = some column

/-- The PID a row of the table info marks. -/
def MarkedBy (columnname : String) (pid : Nat) : Prop :=
  ¬ (columnname = "time" ∨ columnname = "trip") ∧
    ∃ cmd, obdGetCmdForColumn columnname = some cmd ∧ cmd.cmdid = pid

theorem addColumn_testBit {g : LoggerGen} {columnname : String} {b j : Nat} (hb : b < 4)
    (hj : j < 32) : ((g.addColumn columnname).block b).testBit j = true ↔
      (g.block b).testBit j = true ∨ MarkedBy columnname (bitPid b j) := by
  unfold LoggerGen.addColumn MarkedBy
  split
  · next h => exact (or_iff_left fun hm => hm.1 h).symm
  · next h =>
    cases hcmd : obdGetCmdForColumn columnname with
    | none => simp
    | some cmd => simpa [h] using SupportedPids.mark_testBit hb hj

theorem addColumns_testBit {b j : Nat} (hb : b < 4) (hj : j < 32) :
    ∀ (columns : List String) (g : LoggerGen),
      ((columns.foldl LoggerGen.addColumn g).block b).testBit j = true ↔
        (g.block b).testBit j = true ∨ ∃ column ∈ columns, MarkedBy column (bitPid b j)
  | [], g => by simp
  | column :: columns, g => by
    rw [List.foldl_cons, addColumns_testBit hb hj columns, addColumn_testBit hb hj]
    simp [or_assoc]

/-- No row has one of the two columns that are passed over. -/
theorem rows_column_ne : ∀ cmd ∈ obdcmdsMode1,
    cmd.dbColumn ≠ some "time" ∧ cmd.dbColumn ≠ some "trip" := by
  decide

theorem logged_iff (db : LogFile) (pid : Nat) :
    db.Logged pid ↔ ∃ column ∈ db.columns, MarkedBy column pid := by
  constructor
  · rintro ⟨cmd, hcmd, hpid, column, hmem, hcol⟩
    obtain ⟨htime, htrip⟩ := rows_column_ne cmd hcmd
    refine ⟨column, hmem, ?_, cmd, obdGetCmdForColumn_self hcmd hcol, hpid⟩
    rintro (rfl | rfl)
    · exact htime hcol
    · exact htrip hcol
  · rintro ⟨column, hmem, -, cmd, hcmd, hpid⟩
    exact ⟨cmd, List.mem_of_find?_eq_some hcmd, hpid, column, hmem, by
      simpa using List.find?_some hcmd⟩

/-- **The bitmaps** of a log: the columns, and that there are two more blocks. -/
theorem create_testBit (db : LogFile) (now : Timeval) {b j : Nat} (hb : b < 4) (hj : j < 32) :
    ((loggerSimgenCreate db now).block b).testBit j = true ↔
      b < 2 ∧ j = 0 ∨ db.Logged (bitPid b j) := by
  rw [loggerSimgenCreate, addColumns_testBit hb hj, logged_iff]
  refine or_congr_left ?_
  have hone : Nat.testBit 1 j = true ↔ j = 0 := by
    exact Nat.testBit_one_eq_true_iff_self_eq_zero
  have hblocks : b = 0 ∨ b = 1 ∨ b = 2 ∨ b = 3 := by omega
  rcases hblocks with rfl | rfl | rfl | rfl
  · exact hone.trans (by simp)
  · exact hone.trans (by simp)
  · exact iff_of_false (by simp [SupportedPids.block]) (by simp)
  · exact iff_of_false (by simp [SupportedPids.block]) (by simp)

/-- The answer to a request for one of the four blocks is the bitmap of its
PIDs, in four bytes. -/
theorem getvalue_block {g : LoggerGen} {b : Nat} (hb : b < 4) (fuel : Nat) (currtime : Timeval)
    (cells : Nat → Nat) :
    loggerSimgenGetvalue g fuel currtime cells (0x20 * b) =
      .value ⟨4, bitmapCells (g.block b) cells⟩ := by
  have hbits : g.bits (0x20 * b) = some (g.block b) := by
    have hblocks : b = 0 ∨ b = 1 ∨ b = 2 ∨ b = 3 := by omega
    rcases hblocks with rfl | rfl | rfl | rfl <;> rfl
  rw [loggerSimgenGetvalue, hbits]

end ObdGpsLogger.Sim
