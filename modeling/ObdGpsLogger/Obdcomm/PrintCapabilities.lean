import ObdGpsLogger.Obdcomm.SupportedCommands

/-!
# Printing what a device supports

`printobdcapabilities` of `src/obdcomm/supportedcommands.c` takes the PIDs that
`getobdcapabilities` found as indices into `obdcmds_mode1`, and prints one line
for each: `unknown`, if the PID is larger than the number of rows, or column
and name of the row.

The table has 0x54 rows, and the last one is the empty one. A PID of 0x54 is
not larger than the number of rows, and has none; 0x53 has the empty row, whose
name is `NULL`. `inTable_iff`: these two, and no others, are what a device may
not advertise.

Mirroring notes:
- A line is what the `printf` is given. `%s` has no text for `NULL`, and a line
  for which a row outside of the table is read is none at all.
- The bitmaps reach PID 0x100, the guesses PID 0x51.
-/

namespace ObdGpsLogger.Obdcomm

open CLib Obdinfo

/-- What a line of the listing is made of: a PID alone, or a PID with the texts
of its row. -/
inductive CapabilityLine where
  | unknown (pid : Nat)
  | known (pid : Nat) (dbColumn : String) (humanName : Option String)
  deriving DecidableEq, Repr

/-- The line for a PID. `none`: the row behind the last is read. -/
def capabilityLine (pid : Nat) : Option CapabilityLine :=
  if obdcmdsMode1.length < pid then some (.unknown pid)
  else obdcmdsMode1[pid]?.map fun row => .known pid (row.dbColumn.getD "unknown") row.humanName

/-- The text of a line. `none`: a name is printed that is a null pointer. -/
def CapabilityLine.text : CapabilityLine → Option (List Char)
  | .unknown pid => some (fmtX 2 pid ++ ": unknown\n".toList)
  | .known pid dbColumn humanName => humanName.map fun name =>
      fmtX 2 pid ++ ": [".toList ++ dbColumn.toList ++ "] ".toList ++ name.toList ++ ['\n']

/-- How `printobdcapabilities` ends: at once, or with its lines printed. -/
inductive PrintedCapabilities where
  | exits
  | lines (ls : List (Option CapabilityLine))
  deriving DecidableEq, Repr

/-- `printobdcapabilities`: the lines for all of the PIDs, or an exit without a
port. -/
def printobdcapabilities (obdSerialPort : Int) (answer : Replies) (fuel : Nat) :
    Option PrintedCapabilities :=
  if obdSerialPort = -1 then some .exits
  else (getobdcapabilities none answer fuel).map fun caps => .lines (caps.pids.map capabilityLine)

/-! ## What is found -/

/-- **Behind the PIDs that are guessed**, a list that is returned holds what is
advertised. -/
theorem mem_of_returned {answer : Replies} {fuel : Nat} {caps : Capabilities}
    (h : getobdcapabilities none answer fuel = some caps) {pid : Nat} (hpid : 0x51 < pid) :
    pid ∈ caps.pids ↔ Advertised answer pid := by
  obtain ⟨more, hpids, -, hmem, -⟩ := pids_of_returned h
  have hguess : ¬ Guessed answer pid := by
    intro h
    obtain ⟨-, hguessed, -⟩ := h
    have := (List.mem_range'_1.mp hguessed).2
    omega
  rw [hpids, List.mem_cons, or_iff_right (by omega), hmem, or_iff_left hguess]
  exact and_iff_right rfl

/-! ## What is printed -/

/-- A PID has a row of the table, and the row has a name. -/
def Known (pid : Nat) : Prop := ∃ row, obdcmdsMode1[pid]? = some row ∧ row.humanName.isSome

/-- What the lines for a list should be. -/
structure InTable (caps : List Nat) : Prop where
  /-- No row is read outside of the table. -/
  inside : ∀ pid ∈ caps, (capabilityLine pid).isSome
  /-- A line that names a row names one that has a name. -/
  named : ∀ pid ∈ caps, ∀ p dbColumn humanName,
    capabilityLine pid = some (.known p dbColumn humanName) → humanName.isSome
  /-- All other PIDs are listed as unknown. -/
  others : ∀ pid ∈ caps, ¬ Known pid → capabilityLine pid = some (.unknown pid)

/-- The rows in front of the empty one have names. -/
theorem known_of_lt {pid : Nat} (h : pid < 0x53) : Known pid := by
  have hnames : ∀ row ∈ obdcmdsMode1.take 0x53, row.humanName.isSome := by decide
  have hlt : pid < (obdcmdsMode1.take 0x53).length := h
  refine ⟨(obdcmdsMode1.take 0x53)[pid], ?_, hnames _ (List.getElem_mem hlt)⟩
  rw [List.getElem_take, List.getElem?_eq_getElem]

/-- The line for any PID but these two: a row with a name, or unknown. -/
theorem capabilityLine_cases {pid : Nat} (h53 : pid ≠ 0x53) (h54 : pid ≠ 0x54) :
    (∃ row, obdcmdsMode1[pid]? = some row ∧ row.humanName.isSome ∧
      capabilityLine pid = some (.known pid (row.dbColumn.getD "unknown") row.humanName)) ∨
    capabilityLine pid = some (.unknown pid) := by
  have hlen : obdcmdsMode1.length = 0x54 := rfl
  rcases Nat.lt_or_ge pid 0x53 with hlt | hge
  · obtain ⟨row, hrow, hname⟩ := known_of_lt hlt
    refine Or.inl ⟨row, hrow, hname, ?_⟩
    rw [capabilityLine, if_neg (by omega), hrow]
    rfl
  · exact Or.inr (if_pos (by omega))

/-- **The two PIDs** for which a line is not as it should be. -/
theorem inTable_iff_not_mem (caps : List Nat) : InTable caps ↔ 0x53 ∉ caps ∧ 0x54 ∉ caps := by
  constructor
  · intro h
    refine ⟨fun hmem => ?_, fun hmem => ?_⟩
    · -- the empty row
      have hnone := h.named 0x53 hmem 0x53 "unknown" none rfl
      cases hnone
    · -- the row behind it
      have hnone := h.inside 0x54 hmem
      cases hnone
  · intro ⟨h53, h54⟩
    -- any other PID has a row with a name, or is past the table by more than one
    have hline : ∀ pid ∈ caps, _ := fun pid hpid =>
      capabilityLine_cases (fun he => h53 (he ▸ hpid)) (fun he => h54 (he ▸ hpid))
    refine ⟨fun pid hpid => ?_, fun pid hpid p col name hl => ?_, fun pid hpid hunknown => ?_⟩
    · rcases hline pid hpid with ⟨row, -, -, hl⟩ | hl
      · exact Option.isSome_of_eq_some hl
      · exact Option.isSome_of_eq_some hl
    · rcases hline pid hpid with ⟨row, -, hname, hl'⟩ | hl'
      · rw [hl] at hl'
        injection Option.some.inj hl' with _ _ hn
        rw [hn]
        exact hname
      · rw [hl] at hl'
        injection hl' with hl'
        cases hl'
    · rcases hline pid hpid with ⟨row, hrow, hname, -⟩ | hl
      · exact absurd ⟨row, hrow, hname⟩ hunknown
      · exact hl

/-- Lines that are as they should be have texts, and only these. -/
theorem inTable_iff_texts (caps : List Nat) : InTable caps ↔
    ∀ pid ∈ caps, ∃ line, capabilityLine pid = some line ∧ line.text.isSome := by
  constructor
  · intro h pid hpid
    obtain ⟨line, hline⟩ := Option.isSome_iff_exists.mp (h.inside pid hpid)
    refine ⟨line, hline, ?_⟩
    cases line with
    | unknown p => rfl
    | known p col name =>
      obtain ⟨text, rfl⟩ := Option.isSome_iff_exists.mp (h.named pid hpid p col name hline)
      rfl
  · intro h
    refine (inTable_iff_not_mem caps).mpr ⟨fun hmem => ?_, fun hmem => ?_⟩
    · obtain ⟨line, hline, htext⟩ := h 0x53 hmem
      obtain rfl : CapabilityLine.known 0x53 "unknown" none = line := Option.some.inj hline
      cases htext
    · obtain ⟨line, hline, -⟩ := h 0x54 hmem
      cases hline

/-- **The lines for a device** are as they should be if and only if it does not
advertise the PID of the empty row, nor the one behind it. -/
theorem inTable_iff {device : Nat → Nat → Exchange} {fuel : Nat} {caps : Capabilities}
    (h : getobdcapabilities none (ask device) fuel = some caps) :
    InTable caps.pids ↔
      ¬ Advertised (ask device) 0x53 ∧ ¬ Advertised (ask device) 0x54 := by
  rw [inTable_iff_not_mem, mem_of_returned h (by decide), mem_of_returned h (by decide)]

/-- One block without the bit for the next. -/
def onlyBlock (_ _ : Nat) : Exchange := ⟨8, [⟨.data "41 00 80 00 00 00\r\r>".toList, 0⟩]⟩

/-- A device that advertises PID 1 and no further block has the list `0` and
`1`: all of it is in the table, since it advertises neither `0x53` nor `0x54`. -/
theorem onlyBlock_printed : InTable [0x00, 0x01] ↔
    ¬ Advertised (ask onlyBlock) 0x53 ∧ ¬ Advertised (ask onlyBlock) 0x54 :=
  @inTable_iff onlyBlock 9 ⟨[0x00, 0x01], 1, 0⟩ (by decide +kernel)

/-- A device whose third block advertises both. -/
def pastTheTable (_ cmd : Nat) : Exchange :=
  let reply := if cmd = 0x00 then "41 00 80 00 00 01\r\r>"
    else if cmd = 0x20 then "41 20 00 00 00 01\r\r>"
    else if cmd = 0x40 then "41 40 00 00 30 00\r\r>"
    else "NO DATA\r\r>"
  ⟨8, [⟨.data reply.toList, 0⟩]⟩

/-- A device whose third block advertises `0x53` and `0x54` has the list `0`,
`1`, `0x20`, `0x40`, `0x53` and `0x54`, not all of which are in the table. -/
theorem pastTheTable_printed : ∃ caps, getobdcapabilities none (ask pastTheTable) 9 = some caps ∧
    ¬ InTable caps.pids := by
  have hcaps : getobdcapabilities none (ask pastTheTable) 9 =
      some ⟨[0x00, 0x01, 0x20, 0x40, 0x53, 0x54], 3, 0⟩ := by decide +kernel
  refine ⟨_, hcaps, fun h => ?_⟩
  exact ((inTable_iff_not_mem _).mp h).1 (by decide)

/-- The whole output has a text under the same condition. -/
theorem printobdcapabilities_texts {device : Nat → Nat → Exchange} {fuel : Nat}
    {obdSerialPort : Int} {ls : List (Option CapabilityLine)}
    (h : printobdcapabilities obdSerialPort (ask device) fuel = some (.lines ls)) :
    (∀ l ∈ ls, ∃ line, l = some line ∧ line.text.isSome) ↔
      ¬ Advertised (ask device) 0x53 ∧ ¬ Advertised (ask device) 0x54 := by
  unfold printobdcapabilities at h
  split at h
  · cases h
  · obtain ⟨caps, hcaps, hls⟩ := Option.map_eq_some_iff.mp h
    obtain rfl := PrintedCapabilities.lines.inj hls
    rw [List.forall_mem_map, ← inTable_iff_texts, inTable_iff_not_mem,
      mem_of_returned hcaps (by decide), mem_of_returned hcaps (by decide)]

end ObdGpsLogger.Obdcomm
