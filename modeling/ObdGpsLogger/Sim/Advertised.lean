import ObdGpsLogger.Obdinfo.ConvertRange
import ObdGpsLogger.Sim.DbusValues
import ObdGpsLogger.Sim.LogReplay

/-!
# Advertised PIDs are served

The Logger and the DBus generator advertise PIDs in bitmaps, and are asked for
what they advertise. The bits are set for the columns of a log and for the map
lines of a file; a request ends in the encoder of the PID (`convrev`), which the
bit-encoded rows of the table do not have.

`advertised_served_iff` says for each generator when every advertised PID gets
an answer, and for the DBus generator, when its file can be read at all.
-/

namespace ObdGpsLogger.Sim

open CLib Obdinfo

/-- A PID is advertised: its bit in the bitmap of its block is set. -/
def SupportedPids.Advertises (s : SupportedPids) (pid : Nat) : Prop :=
  ∃ b j, b < 4 ∧ j < 32 ∧ pid = bitPid b j ∧ (s.block b).testBit j = true

/-- An answer of up to four values; no call through `NULL`. -/
def Outcome.Answers (o : Outcome) : Prop := ∃ v, o = .value v ∧ 0 ≤ v.count ∧ v.count ≤ 4

/-- A PID has a row in the table, and the row has an encoder. -/
def HasEncoder (pid : Nat) : Prop := ∃ cmd, obdGetCmdForPID pid = some cmd ∧ cmd.convrev.isSome

instance (pid : Nat) : Decidable (HasEncoder pid) :=
  decidable_of_iff ((obdGetCmdForPID pid).any fun cmd => cmd.convrev.isSome)
    (Option.any_eq_true _ _)

theorem bitmap_answers (bits : Nat) (cells : Nat → Nat) :
    (Outcome.value ⟨4, bitmapCells bits cells⟩).Answers :=
  ⟨_, rfl, by show (0 : Int) ≤ 4; decide, by show (4 : Int) ≤ 4; decide⟩

/-- **A call of the encoder** is an answer if there is one. -/
theorem callConvrev_answers_iff (cmd : ObdServiceCmd) (val : Rat) (cells : Nat → Nat) :
    (callConvrev cmd val cells).Answers ↔ cmd.convrev.isSome := by
  unfold callConvrev
  cases cmd.convrev with
  | none => exact iff_of_false (fun ⟨_, h, _⟩ => nomatch h) Bool.false_ne_true
  | some r =>
    refine iff_of_true ⟨_, rfl, ?_, ?_⟩ rfl
    · exact Int.natCast_nonneg _
    · have hlen := r.convrev_length val
      have hbytes := r.scale_bytes
      show ((r.convrev val).bytes.length : Int) ≤ 4
      omega

/-- Every PID from 1 up to `0x80` has a bit in the bitmap of one of the four
blocks. -/
theorem exists_bitPid {pid : Nat} (hpos : 0 < pid) (hle : pid ≤ 0x80) :
    ∃ b j, b < 4 ∧ j < 32 ∧ pid = bitPid b j := by
  refine ⟨(pid - 1) / 32, 32 * ((pid - 1) / 32 + 1) - pid, ?_, ?_, ?_⟩
  · omega
  · omega
  · unfold bitPid
    omega

/-! ## The Logger generator -/

/-- The PIDs of the rows with a column ask for no bitmap, and have a bit. -/
theorem rows_with_column : ∀ cmd ∈ obdcmdsMode1, cmd.dbColumn ≠ none →
    cmd.dbColumn ≠ some "" ∧ cmd.cmdid ∉ bitmapPids ∧ 0 < cmd.cmdid ∧ cmd.cmdid ≤ 0x80 := by
  decide +kernel

/-- Every PID that the bitmaps of a log advertise is answered, as soon as there
is fuel enough for the time to be brought into the log. -/
def LoggerServes (g : LoggerGen) (currtime : Timeval) (cells : Nat → Nat) : Prop :=
  ∀ pid, g.toSupportedPids.Advertises pid →
    ∃ enough, ∀ fuel, enough ≤ fuel → (loggerSimgenGetvalue g fuel currtime cells pid).Answers

/-- The statement about a column of the log can be prepared. -/
def LogFile.Prepares (db : LogFile) : Prop :=
  ∀ column ∈ db.columns, ∀ seltime, (db.est column seltime).isSome

/-- The columns of a log can all be played back: each has an encoder, and the
log has a length unless no time has passed. -/
def Playable (columns : List String) (times : List (Option Rat)) (elapsed : Rat) : Prop :=
  ∀ cmd ∈ obdcmdsMode1, (∃ column ∈ columns, cmd.dbColumn = some column) →
    cmd.convrev.isSome ∧ (HasLength times ∨ elapsed ≤ 0)

/-- **A request for a column** of the log runs the loop, then the encoder. -/
theorem getvalue_column {g : LoggerGen} {cmd : ObdServiceCmd} {column : String}
    (hcmd : cmd ∈ obdcmdsMode1) (hcol : cmd.dbColumn = some column) (fuel : Nat)
    (currtime : Timeval) (cells : Nat → Nat) :
    loggerSimgenGetvalue g fuel currtime cells cmd.cmdid =
      match g.seltime fuel currtime with
      | none => .running
      | some seltime =>
        match g.db.est column seltime with
        | none => .value ⟨0, cells⟩
        | some val => callConvrev cmd val cells := by
  obtain ⟨hempty, hbitmap, hpos, -⟩ := rows_with_column cmd hcmd (by rw [hcol]; simp)
  have hbits : g.bits cmd.cmdid = none := by
    have hno := (bits_isSome_iff g.toSupportedPids cmd.cmdid).not.mpr hbitmap
    exact Option.not_isSome_iff_eq_none.mp hno
  have hne : column ≠ "" := fun h => hempty (by rw [hcol, h])
  rw [loggerSimgenGetvalue, hbits, obdGetCmdForPID_self hcmd hpos]
  dsimp only
  rw [hcol]
  exact if_neg hne

/-- A request for a column of the log is answered in the end, if and only if
the loop ends and there is an encoder. -/
theorem column_answers_iff {columns : List String} {times : List (Option Rat)}
    {est : String → Rat → Option Rat} (simstart currtime : Timeval) (cells : Nat → Nat)
    (hprep : (logOf columns times est).Prepares) {cmd : ObdServiceCmd} {column : String}
    (hcmd : cmd ∈ obdcmdsMode1) (hmem : column ∈ columns) (hcol : cmd.dbColumn = some column) :
    (∃ enough, ∀ fuel, enough ≤ fuel →
      (loggerSimgenGetvalue (loggerSimgenCreate (logOf columns times est) simstart) fuel currtime
        cells cmd.cmdid).Answers) ↔
      cmd.convrev.isSome ∧ (HasLength times ∨ currtime.since simstart ≤ 0) := by
  have hends := seltime_ends_iff columns times est simstart currtime
  have hdb := (create_db (logOf columns times est) simstart).1
  -- what is answered once a time is selected
  have hanswers : ∀ {fuel : Nat} {seltime : Rat},
      (loggerSimgenCreate (logOf columns times est) simstart).seltime fuel currtime =
        some seltime →
      ((loggerSimgenGetvalue (loggerSimgenCreate (logOf columns times est) simstart) fuel currtime
        cells cmd.cmdid).Answers ↔ cmd.convrev.isSome) := by
    intro fuel seltime hsel
    obtain ⟨val, hval⟩ := Option.isSome_iff_exists.mp (hprep column hmem seltime)
    rw [getvalue_column hcmd hcol, hsel, hdb]
    dsimp only
    rw [hval]
    exact callConvrev_answers_iff cmd val cells
  constructor
  · rintro ⟨enough, hall⟩
    have hanswer := hall enough le_rfl
    cases hsel : (loggerSimgenCreate (logOf columns times est) simstart).seltime enough
        currtime with
    | none =>
      rw [getvalue_column hcmd hcol, hsel] at hanswer
      obtain ⟨v, hv, -⟩ := hanswer
      cases hv
    | some seltime => exact ⟨(hanswers hsel).mp hanswer, hends.mp ⟨enough, seltime, hsel⟩⟩
  · rintro ⟨henc, hlength⟩
    obtain ⟨enough, seltime, hsel⟩ := hends.mpr hlength
    refine ⟨enough, fun fuel hfuel => ?_⟩
    have hsel' : (loggerSimgenCreate (logOf columns times est) simstart).seltime fuel currtime =
        some seltime := wrapDown_mono hfuel hsel
    exact (hanswers hsel').mpr henc

/-- **The Logger generator** serves what it advertises, if and only if the
columns of the log can be played back. -/
theorem loggerServes_iff (columns : List String) (times : List (Option Rat))
    (est : String → Rat → Option Rat) (simstart currtime : Timeval) (cells : Nat → Nat)
    (hprep : (logOf columns times est).Prepares) :
    LoggerServes (loggerSimgenCreate (logOf columns times est) simstart) currtime cells ↔
      Playable columns times (currtime.since simstart) := by
  constructor
  · rintro hserves cmd hcmd ⟨column, hmem, hcol⟩
    obtain ⟨-, -, hpos, hle⟩ := rows_with_column cmd hcmd (by rw [hcol]; simp)
    obtain ⟨b, j, hb, hj, hpid⟩ := exists_bitPid hpos hle
    refine (column_answers_iff simstart currtime cells hprep hcmd hmem hcol).mp ?_
    refine hserves cmd.cmdid ⟨b, j, hb, hj, hpid, ?_⟩
    exact (create_testBit _ _ hb hj).mpr (.inr ⟨cmd, hcmd, hpid, column, hmem, hcol⟩)
  · rintro hplay pid ⟨b, j, hb, hj, rfl, hbit⟩
    rcases (create_testBit _ _ hb hj).mp hbit with
      ⟨hb2, rfl⟩ | ⟨cmd, hcmd, hpid, column, hmem, hcol⟩
    · -- the two blocks that follow
      refine ⟨0, fun fuel _ => ?_⟩
      have hblock : bitPid b 0 = 0x20 * (b + 1) := rfl
      rw [hblock, getvalue_block (by omega)]
      exact bitmap_answers ..
    · rw [← hpid]
      exact (column_answers_iff simstart currtime cells hprep hcmd hmem hcol).mpr
        (hplay cmd hcmd ⟨column, hmem, hcol⟩)

/-! ## The DBus generator -/

/-- Whatever messages arrive, every PID the generator advertises is answered. -/
def DbusServes (g : DbusGen) : Prop :=
  ∀ (messages : List (List DbusArg)) (cells : Nat → Nat) (pid : Nat),
    (g.receive messages).Advertises pid →
      (dbusSimgenGetvalue (g.receive messages) cells pid).Answers

/-- **The marks** of a list of nodes: those that were there, and the PIDs of
the nodes. -/
theorem markSimvals_testBit {b j : Nat} (hb : b < 4) (hj : j < 32) :
    ∀ (simvalList : List DbusSimval) (s : SupportedPids),
      ((markSimvals s simvalList).block b).testBit j = true ↔
        (s.block b).testBit j = true ∨ ∃ v ∈ simvalList, v.pid = bitPid b j
  | [], s => by simp [markSimvals]
  | v :: rest, s => by
    have ih := markSimvals_testBit hb hj rest (s.mark v.pid)
    rw [SupportedPids.mark_testBit hb hj] at ih
    exact ih.trans (by simp [or_assoc])

/-- **A request** for a PID of the mapping that asks for no bitmap is answered
if its row has an encoder. -/
theorem getvalue_mapped {g : DbusGen} {key : Int} {pid : Nat} (hmem : (key, pid) ∈ g.mappings)
    (hbitmap : pid ∉ bitmapPids) (cells : Nat → Nat) :
    (dbusSimgenGetvalue g cells pid).Answers ↔ HasEncoder pid := by
  have hbits : g.bits pid = none :=
    Option.not_isSome_iff_eq_none.mp ((bits_isSome_iff _ _).not.mpr hbitmap)
  have hnode : (g.findsimvalTo pid).isSome := by
    obtain ⟨v, hv, heq⟩ := List.mem_map.mp hmem
    rw [DbusGen.findsimvalTo, List.find?_isSome]
    exact ⟨v, hv, beq_iff_eq.mpr (congrArg Prod.snd heq)⟩
  obtain ⟨v, hv⟩ := Option.isSome_iff_exists.mp hnode
  obtain ⟨hfound, hgetvalue⟩ := getvalue_node hbits hv cells
  rw [hgetvalue, callConvrev_answers_iff, HasEncoder, hfound]
  simp

theorem getvalue_bitmap {g : DbusGen} {pid : Nat} (h : pid ∈ bitmapPids) (cells : Nat → Nat) :
    (dbusSimgenGetvalue g cells pid).Answers := by
  obtain ⟨bits, hbits⟩ := Option.isSome_iff_exists.mp
    ((bits_isSome_iff g.toSupportedPids pid).mpr h)
  rw [dbusSimgenGetvalue, hbits]
  exact bitmap_answers bits cells

/-- **The DBus generator** serves what it advertises, if and only if every map
line names a PID with an encoder, or one that asks for a bitmap. -/
theorem dbusServes_iff {file : List Char} {g : DbusGen} (h : dbusSimgenCreate file = .created g) :
    DbusServes g ↔ ∀ m ∈ mapLines file, m.2 ∉ bitmapPids → HasEncoder m.2 := by
  obtain ⟨hmap, -, hmarks⟩ := created_spec h
  have hmem : ∀ m, m ∈ mapLines file ↔ m ∈ g.mappings := by
    intro m
    rw [hmap, List.mem_reverse]
  constructor
  · -- a mapped PID is marked, so it is asked for without any message before
    intro hserves m hm hbitmap
    obtain ⟨v, hv, heq⟩ := List.mem_map.mp ((hmem m).mp hm)
    have hpid : v.pid = m.2 := congrArg Prod.snd heq
    have hknown : v.pid < 0x53 := obdGetCmdForPID_isSome_iff.mp (by rw [v.found]; rfl)
    have hpos : 0 < m.2 := Nat.pos_of_ne_zero fun h => hbitmap (by rw [h]; decide)
    obtain ⟨b, j, hb, hj, hbit⟩ := exists_bitPid hpos (by omega)
    have hanswer := hserves [] (fun _ => 0) m.2 ⟨b, j, hb, hj, hbit, by
      show (g.toSupportedPids.block b).testBit j = true
      rw [hmarks]
      exact (markSimvals_testBit hb hj _ _).mpr (.inr ⟨v, hv, hpid.trans hbit⟩)⟩
    exact (getvalue_mapped ((hmem m).mp hm) hbitmap _).mp hanswer
  · -- a bit that is set is that of a mapped PID, or was set from the start
    rintro henc messages cells pid ⟨b, j, hb, hj, rfl, hbit⟩
    obtain ⟨hmappings, hpids⟩ := receive_frame messages g
    by_cases hbitmap : bitPid b j ∈ bitmapPids
    · exact getvalue_bitmap hbitmap cells
    rw [hpids, hmarks] at hbit
    rcases (markSimvals_testBit hb hj _ _).mp hbit with hstart | ⟨v, hv, hpid⟩
    · -- the blocks that follow ask for bitmaps
      have hblocks : ∀ b < 4, ∀ j < 32,
          ((SupportedPids.mk 0x01 0x01 0x01 0x00).block b).testBit j = true →
            bitPid b j ∈ bitmapPids := by decide
      exact absurd (hblocks b hb j hj hstart) hbitmap
    · have hm : (v.mapFrom, bitPid b j) ∈ g.mappings :=
        List.mem_map.mpr ⟨v, hv, by rw [← hpid]; rfl⟩
      have hm' : (v.mapFrom, bitPid b j) ∈ (g.receive messages).mappings := hmappings ▸ hm
      exact (getvalue_mapped hm' hbitmap cells).mpr (henc _ ((hmem _).mpr hm) hbitmap)

/-! ## Both generators -/

/-- A file that can be read is one whose map lines name PIDs that are known. -/
theorem create_ne_nullDeref_iff (file : List Char) : dbusSimgenCreate file ≠ .nullDeref ↔
    ∀ m ∈ mapLines file, (obdGetCmdForPID m.2).isSome := by
  rw [← readConfig_isSome_iff]
  unfold dbusSimgenCreate
  split
  · next h => exact iff_of_false (fun hne => hne rfl) (by simp [h])
  · next c h =>
    refine iff_of_true ?_ (by simp [h])
    repeat' split
    all_goals exact fun h => by cases h

/-- **Advertised PIDs are served**: by the Logger generator if and only if the
known columns of the log can be played back, by the DBus generator if and only
if the PIDs of the map lines have encoders; and reading the file of map lines
follows a null pointer exactly if one of them names an unknown PID. -/
theorem advertised_served_iff (columns : List String) (times : List (Option Rat))
    (est : String → Rat → Option Rat) (simstart currtime : Timeval) (cells : Nat → Nat)
    (hprep : (logOf columns times est).Prepares) (file : List Char) :
    (LoggerServes (loggerSimgenCreate (logOf columns times est) simstart) currtime cells ↔
      Playable columns times (currtime.since simstart)) ∧
    (dbusSimgenCreate file ≠ .nullDeref ↔
      ∀ m ∈ mapLines file, (obdGetCmdForPID m.2).isSome) ∧
    ∀ g, dbusSimgenCreate file = .created g →
      (DbusServes g ↔ ∀ m ∈ mapLines file, m.2 ∉ bitmapPids → HasEncoder m.2) :=
  ⟨loggerServes_iff columns times est simstart currtime cells hprep,
    create_ne_nullDeref_iff file, fun _ h => dbusServes_iff h⟩

/-- A log of engine speeds, and the mapping of the manual's example. -/
theorem advertised_served_example :
    LoggerServes (loggerSimgenCreate
      (logOf ["rpm"] [some 100, some 110] fun _ _ => some 800) ⟨0, 0⟩) ⟨25, 0⟩ (fun _ => 0) ∧
    ∃ g, dbusSimgenCreate dbusExample = .created g ∧ DbusServes g := by
  obtain ⟨hlogger, -, hdbus⟩ := advertised_served_iff ["rpm"] [some 100, some 110]
    (fun _ _ => some 800) ⟨0, 0⟩ ⟨25, 0⟩ (fun _ => 0) (fun _ _ _ => rfl) dbusExample
  constructor
  · refine hlogger.mpr ?_
    have hencoder : ∀ cmd ∈ obdcmdsMode1, cmd.dbColumn = some "rpm" → cmd.convrev.isSome := by
      decide
    rintro cmd hcmd ⟨column, hmem, hcol⟩
    rw [List.mem_singleton.mp hmem] at hcol
    exact ⟨hencoder cmd hcmd hcol, .inl ⟨100, 110, by simp, by simp, by norm_num⟩⟩
  · obtain ⟨g, hg⟩ := exists_created
      (by decide +kernel : (dbusSimgenCreate dbusExample).gen.isSome = true)
    have hlines : mapLines dbusExample = [(3, 0x0C), (11, 0x0D)] := by decide +kernel
    refine ⟨g, hg, (hdbus g hg).mpr ?_⟩
    rw [hlines]
    decide

/-- A log with the state of the fuel system, which has no encoder, and a map
line for a PID without a row. -/
theorem advertised_unserved :
    ¬ LoggerServes (loggerSimgenCreate
      (logOf ["fuelsys"] [some 100, some 110] fun _ _ => some 2) ⟨0, 0⟩) ⟨25, 0⟩ (fun _ => 0) ∧
    dbusSimgenCreate "map 1 -> 0x7F".toList = .nullDeref := by
  constructor
  · intro h
    have hplay := (loggerServes_iff ["fuelsys"] [some 100, some 110] (fun _ _ => some 2) ⟨0, 0⟩
      ⟨25, 0⟩ (fun _ => 0) fun _ _ _ => rfl).mp h
    have hrow : ∃ cmd ∈ obdcmdsMode1, cmd.dbColumn = some "fuelsys" ∧ cmd.convrev = none := by
      decide
    obtain ⟨cmd, hcmd, hcol, hnone⟩ := hrow
    have hsome := (hplay cmd hcmd ⟨"fuelsys", by simp, hcol⟩).1
    rw [hnone] at hsome
    cases hsome
  · by_contra hne
    have hknown := (create_ne_nullDeref_iff "map 1 -> 0x7F".toList).mp hne
    have hline : (1, 0x7F) ∈ mapLines "map 1 -> 0x7F".toList := by decide +kernel
    exact absurd (hknown _ hline) (by decide)

end ObdGpsLogger.Sim
