import ObdGpsLogger.Logger.LogDb
import ObdGpsLogger.Sim.LogRows
import ObdGpsLogger.Wire.Capabilities
import ObdGpsLogger.Wire.Sensors

/-!
# A log, recorded again

A simulator plays back a log, and a logger connects to it and records. Both ends
have a say in what the new log is like: the generator makes bitmaps of the
columns of the old log, the logger finds out from them what it can ask for, makes
its table and its list of commands from that, and asks for each value, which the
generator interpolates and encodes.

`rerecorded` is about all of it: the new log has the columns of the old one, as
far as they are wished for, and in each of its rows what the old log had at the
time that was played back, up to one code step.

Mirroring notes:
- The simulator has one ECU, without a delay.
- The rows of the old log are as `Sim.estimate` reads them.
-/

namespace ObdGpsLogger.Wire

open CLib Machine Obdcomm Obdinfo Sim Logger Sql

/-! ## The columns -/

/-- The rows of `obdcmds_mode1` whose column the log has, if they are wished
for. -/
def replayedRows (wishlist : Option (List ObdServiceCmd)) (t : Table Rat) : List Nat :=
  rowIndices.filter fun i =>
    (dbColumn i).any (fun c => decide (c ∈ t.columns)) && inWishlist wishlist i

/-- The rows with a column are in the order of their PIDs. -/
theorem rows_in_order : ∀ i ∈ rowIndices, dbColumn i ≠ none →
    (obdcmdsMode1[i]?).map ObdServiceCmd.cmdid = some i := by
  decide +kernel

theorem row_of_column {i : Nat} {c : Name} (hc : dbColumn i = some c) :
    ∃ cmd ∈ obdcmdsMode1, obdcmdsMode1[i]? = some cmd ∧ cmd.cmdid = i ∧
      ∃ column, cmd.dbColumn = some column ∧ column.toList = c := by
  obtain ⟨column, hcol, hname⟩ := Option.map_eq_some_iff.mp hc
  obtain ⟨cmd, hcmd, hcolumn⟩ := Option.bind_eq_some_iff.mp hcol
  have hi : i ∈ rowIndices := List.mem_range.mpr (List.getElem?_eq_some_iff.mp hcmd).1
  have hid := rows_in_order i hi (by rw [hc]; exact Option.some_ne_none c)
  rw [hcmd] at hid
  exact ⟨cmd, List.mem_of_getElem? hcmd, hcmd, Option.some.inj hid, column, hcolumn, hname⟩

/-- A PID is one of the log's, if its column is. -/
theorem logged_ofTable {i : Nat} {c : Name} (hc : dbColumn i = some c) (t : Table Rat) :
    (LogFile.ofTable t).Logged i ↔ c ∈ t.columns := by
  obtain ⟨cmd, hcmd, -, hid, column, hcolumn, hname⟩ := row_of_column hc
  have hpos := (rows_logged cmd hcmd (by rw [hcolumn]; exact Option.some_ne_none column)).1
  constructor
  · intro h
    obtain ⟨cmd', hcmd', hid', column', hmem, hcolumn'⟩ := h
    -- there is only one row with this PID
    have hsame : some cmd' = some cmd := by
      rw [← obdGetCmdForPID_self hcmd' (hid'.trans hid.symm ▸ hpos),
        ← obdGetCmdForPID_self hcmd hpos, hid', hid]
    obtain rfl := Option.some.inj hsame
    obtain ⟨d, hd, hdname⟩ := List.mem_map.mp hmem
    rw [hcolumn] at hcolumn'
    obtain rfl := Option.some.inj hcolumn'
    rw [← hname, ← hdname, String.toList_ofList]
    exact hd
  · intro h
    refine ⟨cmd, hcmd, hid, column, List.mem_map.mpr ⟨c, h, ?_⟩, hcolumn⟩
    rw [← hname, String.ofList_toList]

theorem isobdcapabilitysupported_cases : ∀ (caps : List Nat) (pid : Nat),
    isobdcapabilitysupported caps pid = 0 ∨ isobdcapabilitysupported caps pid = 1
  | [], _ => Or.inl rfl
  | c :: caps, pid => by
    rw [isobdcapabilitysupported]
    split
    · exact Or.inr rfl
    split
    · exact Or.inl rfl
    · exact isobdcapabilitysupported_cases caps pid

section Columns

variable {wishlist : Option (List ObdServiceCmd)} {t : Table Rat} {pids : List Nat}

/-- What the logger picks of the list it has made. -/
theorem picked_replayed (hsupported : ∀ p, isobdcapabilitysupported pids p = 1 ↔ p ∈ pids)
    (hmem : ∀ p, p ∈ pids ↔ p = 0 ∨ inWishlist wishlist p = true ∧
      ((LogFile.ofTable t).Logged p ∨ p = 0x20 ∨ p = 0x40)) :
    picked pids = replayedRows wishlist t := by
  refine List.filter_congr fun i _ => ?_
  rw [Bool.eq_iff_iff, pickedColumn]
  cases hc : dbColumn i with
  | none => simp
  | some c =>
    obtain ⟨cmd, hcmd, -, hid, column, hcolumn, -⟩ := row_of_column hc
    -- a row with a column is not one of the PIDs that ask for bitmaps
    have hbounds := rows_logged cmd hcmd (by rw [hcolumn]; exact Option.some_ne_none column)
    rw [hid] at hbounds
    have hpicked : isobdcapabilitysupported pids i ≠ 0 ↔
        c ∈ t.columns ∧ inWishlist wishlist i = true := by
      have hone : isobdcapabilitysupported pids i ≠ 0 ↔ isobdcapabilitysupported pids i = 1 := by
        rcases isobdcapabilitysupported_cases pids i with h | h <;> rw [h] <;> decide
      rw [hone, hsupported, hmem, logged_ofTable hc]
      constructor
      · rintro (h | ⟨hwish, h | h | h⟩)
        · omega
        · exact ⟨h, hwish⟩
        · omega
        · omega
      · exact fun h => Or.inr ⟨h.2, Or.inl h.1⟩
    by_cases hs : isobdcapabilitysupported pids i ≠ 0
    · have := hpicked.mp hs
      simp [hs, this.1, this.2]
    · have := mt hpicked.mpr hs
      rw [if_neg hs]
      simpa using this

/-- The names of the columns that are logged, from the rows of the table that
are picked. -/
theorem columnNames_of_picked (obdcaps : List Nat) :
    columnNames obdcaps = (picked obdcaps).filterMap dbColumn := by
  have h := congrArg (List.filterMap id) (columnNames_picked obdcaps)
  rw [List.filterMap_map, List.filterMap_map] at h
  exact (List.filterMap_some).symm.trans h.symm

end Columns

/-! ## The values -/

/-- The sensor is a column of the log: its value is what is played back at that
time, and the only ECU has been asked for it. -/
def PlayedBack (t : Table Rat) (simstart currtime : Timeval) (x : Sensor) : Prop :=
  ∃ (column : String) (fuel : Nat) (cells : Nat → Nat) (seltime : Rat),
    x.cmd.dbColumn = some column ∧
    (loggerSimgenCreate (LogFile.ofTable t) simstart).seltime fuel currtime = some seltime ∧
    estimate t column.toList seltime = some x.v ∧
    loggerSimgenGetvalue (loggerSimgenCreate (LogFile.ofTable t) simstart) fuel currtime cells
      x.pid = .value ((x.last.ask 0).getvalue 0x01 x.pid)

section Played

variable {t : Table Rat} {simstart currtime : Timeval} {x : Sensor} {ss : SimSettings}

theorem rows_column_nonempty : ∀ cmd ∈ obdcmdsMode1, cmd.dbColumn ≠ some "" := by
  decide

/-- The answer of the generator for a column of the log is the encoding of the
value that is played back at that time. -/
theorem getvalue_column {cmd : ObdServiceCmd} (hcmd : cmd ∈ obdcmdsMode1) {column : String}
    (hcolumn : cmd.dbColumn = some column) {r : ObdConversion} (hr : cmd.convrev = some r)
    {fuel : Nat} {seltime v : Rat}
    (hsel : (loggerSimgenCreate (LogFile.ofTable t) simstart).seltime fuel currtime = some seltime)
    (hest : estimate t column.toList seltime = some v) (cells : Nat → Nat) :
    loggerSimgenGetvalue (loggerSimgenCreate (LogFile.ofTable t) simstart) fuel currtime cells
      cmd.cmdid = .value (stored (r.convrev v) cells) := by
  have hlogged := rows_logged cmd hcmd (by rw [hcolumn]; exact Option.some_ne_none column)
  have hbits : (loggerSimgenCreate (LogFile.ofTable t) simstart).bits cmd.cmdid = none := by
    unfold SupportedPids.bits
    rw [if_neg (by omega), if_neg (by omega), if_neg (by omega), if_neg (by omega)]
  have hne : column ≠ "" := fun h => rows_column_nonempty cmd hcmd (h ▸ hcolumn)
  have hplayed : (loggerSimgenCreate (LogFile.ofTable t) simstart).db.est column seltime =
      some v := by
    rw [(create_db (LogFile.ofTable t) simstart).1]
    exact hest
  unfold loggerSimgenGetvalue
  rw [hbits, obdGetCmdForPID_self hcmd hlogged.1]
  dsimp only
  rw [hcolumn]
  dsimp only
  rw [if_neg hne, hsel]
  dsimp only
  rw [hplayed]
  dsimp only
  rw [callConvrev, hr]

theorem PlayedBack.encoded (h : PlayedBack t simstart currtime x) :
    ∃ cells, (x.last.ask 0).getvalue 0x01 x.pid = stored (x.r.convrev x.v) cells := by
  obtain ⟨column, fuel, cells, seltime, hcolumn, hsel, hest, hvalue⟩ := h
  rw [← x.cmdid, getvalue_column x.row hcolumn x.convrev hsel hest cells, x.cmdid] at hvalue
  exact ⟨cells, (Outcome.value.inj hvalue).symm⟩

/-- A sensor answers with one byte or two, those that its encoder has stored. -/
theorem encoded_answers (x : Sensor) (cells : Nat → Nat) :
    0 < (stored (x.r.convrev x.v) cells).count ∧ Answers (stored (x.r.convrev x.v) cells) := by
  have hcount : (x.r.convrev x.v).bytes.length = 1 ∨ (x.r.convrev x.v).bytes.length = 2 :=
    x.encodes.count
  refine ⟨?_, Or.inr ⟨?_, ?_, fun k hk => ?_⟩⟩
  · show (0 : Int) < ((x.r.convrev x.v).bytes.length : Int)
    omega
  · show (1 : Int) ≤ ((x.r.convrev x.v).bytes.length : Int)
    omega
  · show ((x.r.convrev x.v).bytes.length : Int) ≤ 4
    omega
  · have hlt : k < (x.r.convrev x.v).bytes.length := hk
    show (x.r.convrev x.v).bytes.getD k (cells k) < 256
    rw [List.getD_eq_getElem _ _ hlt]
    exact x.encodes.inByte _ (List.getElem_mem hlt)

/-- If a column of the log is played back, the request for its PID is answered
with the encoded value, and by no other ECU. -/
theorem PlayedBack.asked (h : PlayedBack t simstart currtime x) (hone : ss.ecudelays = [⟨0, 0⟩])
    (htimeout : 0 ≤ ss.eTimeout) : ∃ cells, askedValues ss x.last.ask x.pid =
      [stored (x.r.convrev x.v) cells] := by
  obtain ⟨cells, hvalue⟩ := h.encoded
  refine ⟨cells, ?_⟩
  have hpos := (encoded_answers x cells).1
  rw [askedValues_only hone htimeout (by rw [hvalue]; omega), hvalue]

theorem PlayedBack.sensed (h : PlayedBack t simstart currtime x) (hone : ss.ecudelays = [⟨0, 0⟩])
    (htimeout : 0 ≤ ss.eTimeout) : x.toQuery.Answered ss ∧ x.Sensed ss := by
  obtain ⟨cells, hasked⟩ := h.asked hone htimeout
  obtain ⟨hpos, hanswers⟩ := encoded_answers x cells
  refine ⟨fun v hv => ?_, ?_⟩
  · rw [hasked, List.mem_singleton] at hv
    exact hv ▸ hanswers
  · unfold Sensor.Sensed
    rw [hasked, List.find?_cons_of_pos (by simpa using hpos), Option.map_some, stored_bytes]

end Played

/-! ## Finding out what there is -/

/-- The requests for the blocks: PIDs, and numbers of bytes. -/
def blockRequests : List (Nat × Nat) := [(0x00, 0), (0x20, 0), (0x40, 0)]

section Discovery

variable {t : Table Rat} {simstart : Timeval} {ss : SimSettings}

/-- The request for a block is answered with the four bytes of its bitmap, by
the one ECU. -/
theorem playsBack_asked (hone : ss.ecudelays = [⟨0, 0⟩]) (htimeout : 0 ≤ ss.eTimeout)
    {gens : Nat → Simgen} (h : PlaysBack (loggerSimgenCreate (LogFile.ofTable t) simstart) (gens 0))
    {b : Nat} (hb : b < 4) : ∃ v, askedValues ss gens (0x20 * b) = [v] ∧ v.count = 4 ∧
      v.bytes = bitmapBytes ((loggerSimgenCreate (LogFile.ofTable t) simstart).block b) := by
  obtain ⟨hcount, hbytes⟩ := playsBack_block h hb 0x01
  exact ⟨_, askedValues_only hone htimeout (by rw [hcount]; decide), hcount, hbytes⟩

theorem playsBack_answered (hone : ss.ecudelays = [⟨0, 0⟩]) (htimeout : 0 ≤ ss.eTimeout)
    {gens : Nat → Simgen} (h : PlaysBack (loggerSimgenCreate (LogFile.ofTable t) simstart) (gens 0))
    {b : Nat} (hb : b < 4) : ∀ v ∈ askedValues ss gens (0x20 * b), Answers v := by
  obtain ⟨v, hasked, hcount, hbytes⟩ := playsBack_asked hone htimeout h hb
  intro w hw
  rw [hasked, List.mem_singleton] at hw
  exact hw ▸ bitmap_answers hcount hbytes

/-- The logger that asks for a block gets from the reply the bitmap of the
generator. -/
theorem ask_bitmap (hone : ss.ecudelays = [⟨0, 0⟩]) (htimeout : 0 ≤ ss.eTimeout) {q : Query}
    {b : Nat} (hb : b < 4) (hpid : q.pid = 0x20 * b) (hn : q.n = 0)
    (hplays : PlaysBack (loggerSimgenCreate (LogFile.ofTable t) simstart) (q.last.ask 0))
    {out : List (List Char)} (hback : q.ReadsBack ss out.flatten) {device : Nat → Nat → Exchange}
    (hhears : Hears (device b (0x20 * b)) (sendbuf 0x01 (0x20 * b) 0) out) :
    ask device b (0x20 * b) =
      some (bitmapReply (loggerSimgenCreate (LogFile.ofTable t) simstart) b) := by
  obtain ⟨v, hasked, hcount, hbytes⟩ := playsBack_asked hone htimeout hplays hb
  have hpos : 0 < v.count := by omega
  unfold Query.ReadsBack at hback
  rw [hpid, hn] at hback
  have hread := hback _ _ retbufSize hhears.wrote hhears.reads hhears.inTime (by decide)
  unfold ask
  refine hread.trans ?_
  rw [hasked, readBack, List.find?_cons_of_pos (by simpa using hpos)]
  dsimp only
  rw [hbytes]
  rfl

end Discovery

/-! ## The table -/

/-- The columns of a table that a logger finds when the table is played back. -/
def replayedColumns (wishlist : Option (List ObdServiceCmd)) (t : Table Rat) : List Name :=
  (replayedRows wishlist t).filterMap dbColumn

/-- The commands they are asked for with. -/
def replayedCmds (wishlist : Option (List ObdServiceCmd)) (t : Table Rat) : List ObdServiceCmd :=
  (replayedRows wishlist t).filterMap fun i => obdcmdsMode1[i]?

/-- The commands and the columns of rows with a column. -/
theorem rows_matched : ∀ is : List Nat, (∀ i ∈ is, ∃ c, dbColumn i = some c) →
    List.Forall₂ (fun cmd c => cmd.dbColumn.map String.toList = some c)
      (is.filterMap fun i => obdcmdsMode1[i]?) (is.filterMap dbColumn)
  | [], _ => .nil
  | i :: is, hall => by
    obtain ⟨c, hc⟩ := hall i (List.mem_cons_self ..)
    obtain ⟨cmd, -, hcmd, -, column, hcolumn, hname⟩ := row_of_column hc
    rw [List.filterMap_cons_some hc, List.filterMap_cons_some hcmd]
    refine .cons ?_ (rows_matched is fun j hj => hall j (List.mem_cons_of_mem _ hj))
    rw [hcolumn, Option.map_some, hname]

theorem replayed_matched (wishlist : Option (List ObdServiceCmd)) (t : Table Rat) :
    List.Forall₂ (fun cmd c => cmd.dbColumn.map String.toList = some c) (replayedCmds wishlist t)
      (replayedColumns wishlist t) := by
  refine rows_matched _ fun i hi => ?_
  have htest := (List.mem_filter.mp hi).2
  cases hc : dbColumn i with
  | none =>
    rw [hc] at htest
    cases htest
  | some c => exact ⟨c, rfl⟩

/-- A row has the values of the sensors, each in its column. -/
def Recorded (columns names : List Name) (round : List Sensor) (row : List (Option Rat)) : Prop :=
  List.Forall₂ (fun x c => x.cmd.dbColumn.map String.toList = some c ∧
    ∃ w, cell columns row c = some w ∧ x.Near w) round names

theorem recorded_storedRow {obdcaps : List Nat} {t : Table Rat}
    (hcols : ∀ c ∈ columnNames obdcaps ++ timeAndTrip, c ∈ t.columns) {cmds : List ObdServiceCmd}
    {enableOptimisations : Bool} {round : List Sensor} {r : ObdRow}
    (hmatched : List.Forall₂ (fun cmd c => cmd.dbColumn.map String.toList = some c) cmds
      (columnNames obdcaps)) (hasks : Asks enableOptimisations cmds round)
    (hshows : Shows round r) :
    Recorded t.columns (columnNames obdcaps) round (storedRow obdcaps t.columns r) := by
  have hround : round.length = (columnNames obdcaps).length :=
    hasks.length_eq.symm.trans hmatched.length_eq
  have hvalues : r.values.length = (columnNames obdcaps).length :=
    hshows.length_eq.symm.trans hround
  refine List.forall₂_iff_get.mpr ⟨hround, fun k hk hk' => ?_⟩
  have hcmds : k < cmds.length := hmatched.length_eq ▸ hk'
  obtain ⟨w, hw, hnear⟩ := hshows.get hk (hvalues ▸ hk')
  refine ⟨?_, w, ?_, hnear⟩
  · rw [(hasks.get hcmds hk).1]
    exact hmatched.get hcmds hk'
  · refine (cell_storedRow obdcaps hcols hvalues (List.getElem?_eq_getElem hk')).trans ?_
    rw [List.getElem?_eq_getElem (hvalues ▸ hk')]
    exact hw

/-- The new log: its columns, its values, and its times. -/
structure Rerecorded (wishlist : Option (List ObdServiceCmd)) (t : Table Rat)
    (rounds : List (List Sensor)) (ts : List Int) (t' : Table Rat) : Prop where
  columns : t'.columns = replayedColumns wishlist t ++ timeAndTrip ++ ["ecu".toList]
  values : List.Forall₂ (Recorded t'.columns (replayedColumns wishlist t)) rounds t'.rows
  times : t'.rows.map (fun row => cell t'.columns row "time".toList) =
    ts.map fun time : Int => some (time : Rat)

/-- The log of a run on a new file has the rows of its passes, with what was
played back at their times. -/
theorem afterRun_rerecorded {wishlist : Option (List ObdServiceCmd)} {t : Table Rat}
    {pids : List Nat} (hpicked : picked pids = replayedRows wishlist t)
    {enableOptimisations : Bool} {rounds : List (List Sensor)}
    (hasks : ∀ round ∈ rounds, Asks enableOptimisations (replayedCmds wishlist t) round)
    {l : TripLog} {ts : List Int} (hshows : List.Forall₂ Shows rounds l.obd)
    (htimes : l.obd.map ObdRow.time = ts) : ∃ t', (Log.empty.afterRun pids l).obd = some t' ∧
      Rerecorded wishlist t rounds ts t' := by
  have hnames : columnNames pids = replayedColumns wishlist t := by
    rw [columnNames_of_picked, hpicked]
    rfl
  have hmatched := replayed_matched wishlist t
  rw [← hnames] at hmatched
  obtain ⟨t', ht', hcolumns, hrows⟩ := afterRun_new pids l
  refine ⟨t', ht', ⟨by rw [hcolumns, ← hnames]; rfl, ?_, ?_⟩⟩
  · rw [hrows, hcolumns, ← hnames, List.forall₂_map_right_iff]
    refine ((List.forall₂_and_left _ _).mpr ⟨hasks, hshows⟩).imp fun round r h => ?_
    exact recorded_storedRow (t := Table.empty (newColumns pids))
      (fun c hc => List.mem_append_left _ hc) hmatched h.1 h.2
  · rw [hrows, hcolumns, List.map_map, ← htimes, List.map_map]
    refine List.map_congr_left fun r hr => ?_
    -- the row has as many values as there are columns
    obtain ⟨round, hround, hshow⟩ : ∃ round ∈ rounds, Shows round r := by
      obtain ⟨k, hk, rfl⟩ := List.mem_iff_getElem.mp hr
      have hk' : k < rounds.length := hshows.length_eq ▸ hk
      exact ⟨_, List.getElem_mem hk', hshows.get hk' hk⟩
    have hlen : r.values.length = (columnNames pids).length :=
      hshow.length_eq.symm.trans ((hasks round hround).length_eq.symm.trans hmatched.length_eq)
    exact (rowOf_storedRow pids (t := Table.empty (newColumns pids))
      (fun c hc => List.mem_append_left _ hc) hlen).1

/-! ## The whole way -/

/-- Among the requests for the three blocks there is the one for each of them,
in its place. -/
theorem block_of_requests {blocks : List Query}
    (h : blocks.map (fun q => (q.pid, q.n)) = blockRequests) {b : Nat} (hb : b < 3) :
    ∃ q, blocks[b]? = some q ∧ q.pid = 0x20 * b ∧ q.n = 0 := by
  have hget : (blocks.map fun q => (q.pid, q.n))[b]? = some (0x20 * b, 0) := by
    have hcases : b = 0 ∨ b = 1 ∨ b = 2 := by omega
    rw [h]
    rcases hcases with rfl | rfl | rfl <;> rfl
  rw [List.getElem?_map] at hget
  obtain ⟨q, hq, hpair⟩ := Option.map_eq_some_iff.mp hget
  exact ⟨q, hq, (Prod.mk.inj hpair).1, (Prod.mk.inj hpair).2⟩

theorem blocks_pid {blocks : List Query}
    (h : blocks.map (fun q => (q.pid, q.n)) = blockRequests) {q : Query} (hq : q ∈ blocks) :
    ∃ b < 3, q.pid = 0x20 * b := by
  have hall : ∀ r ∈ blockRequests, ∃ b < 3, r.1 = 0x20 * b := by decide
  exact hall (q.pid, q.n) (h ▸ List.mem_map_of_mem hq)

/-- The Logger generator of the two speeds, four seconds on. -/
def speedPlayback : Simgen :=
  { getvalue := fun _ pid =>
      match loggerSimgenGetvalue (loggerSimgenCreate (LogFile.ofTable twoSpeeds) ⟨0, 0⟩) 1 ⟨4, 0⟩
        (fun _ => 0) pid with
      | .value v => v
      | _ => ⟨0, fun _ => 0⟩
    geterrorcodes := none }

theorem speedPlayback_seltime :
    (loggerSimgenCreate (LogFile.ofTable twoSpeeds) ⟨0, 0⟩).seltime 1 ⟨4, 0⟩ = some 104 := by
  decide +kernel

theorem speedPlayback_playsBack :
    PlaysBack (loggerSimgenCreate (LogFile.ofTable twoSpeeds) ⟨0, 0⟩) speedPlayback := by
  intro mode pid
  refine ⟨1, ⟨4, 0⟩, fun _ => 0, ?_⟩
  cases hout : loggerSimgenGetvalue (loggerSimgenCreate (LogFile.ofTable twoSpeeds) ⟨0, 0⟩) 1
      ⟨4, 0⟩ (fun _ => 0) pid with
  | nullCall => exact Or.inl rfl
  | value v =>
    refine Or.inr ?_
    simp [speedPlayback, hout]
  | running =>
    unfold loggerSimgenGetvalue callConvrev at hout
    rw [speedPlayback_seltime] at hout
    dsimp only at hout
    repeat' split at hout
    all_goals cases hout

/-- The speed that is played back then. -/
def playedSpeed : Sensor :=
  { arriving (fun _ => speedPlayback) (valueRequest 0x0D 1) with
    pid := 0x0D
    n := 1
    known := by decide
    digit := by decide
    asks := rfl
    cmd := obdcmdsMode1[0x0D]
    c := .pid0D
    r := .pid0D
    v := 58
    row := List.getElem_mem _
    cmdid := rfl
    conv := rfl
    convrev := rfl
    declared := by decide +kernel
    encodable := by decide +kernel }

theorem playedSpeed_playedBack : PlayedBack twoSpeeds ⟨0, 0⟩ ⟨4, 0⟩ playedSpeed := by
  have hest : estimate twoSpeeds "vss".toList 104 = some 58 := by decide +kernel
  have hvalue := getvalue_column playedSpeed.row rfl playedSpeed.convrev speedPlayback_seltime hest
    fun _ => 0
  refine ⟨"vss", 1, fun _ => 0, 104, rfl, speedPlayback_seltime, hest, hvalue.trans ?_⟩
  show _ = Outcome.value (speedPlayback.getvalue 0x01 0x0D)
  rw [speedPlayback]
  dsimp only
  rw [show (0x0D : Nat) = playedSpeed.cmd.cmdid from rfl, hvalue]

theorem block_known (b : Fin 3) : (obdGetCmdForPID (0x20 * b)).isSome := by
  decide +revert

/-- The request for one of the blocks of PIDs. -/
def speedBlock (b : Fin 3) : Query :=
  { arriving (fun _ => speedPlayback) (valueRequest (0x20 * b) 0) with
    pid := 0x20 * b
    n := 0
    known := block_known b
    digit := no_digit
    asks := rfl }

def speedBlocks : List Query :=
  [speedBlock 0, speedBlock 1, speedBlock 2]

end ObdGpsLogger.Wire
