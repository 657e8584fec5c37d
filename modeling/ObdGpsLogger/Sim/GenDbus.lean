import ObdGpsLogger.CLib.ScanInt
import ObdGpsLogger.Sim.Generator
import ObdGpsLogger.Sim.SupportedPids

/-!
# The DBus generator

`src/sim/generators/dbus/gen_dbus.c`: values that arrive as D-Bus signals. A
configuration file maps the keys of the signals to PIDs. The map lines become a
linked list, and each of its nodes keeps the last value that came for it; a
signal is filed by its key, a request is answered by its PID.

Mirroring notes:
- The configuration file is its text. What `sscanf` stores for a key is kept
  apart from what it returns, since a line that ends early makes it return
  `EOF`, which passes for a match.
- The bus itself is left out: connecting to it is taken to succeed, and the
  messages that the filter is called with are given, before a request too.
- A `double` is stored in a `float`; the rounding is left out.
- `cmd` is looked at before it is tested, which is the end of the program if
  there is none (`DbusConfig.readLine`).
-/

namespace ObdGpsLogger.Sim

open CLib Obdinfo

/-- `struct dbus_simvals`, without the link. The command is that of the PID. -/
structure DbusSimval where
  mapFrom : Int
  pid : Nat
  pidCmd : ObdServiceCmd
  mostRecent : Rat
  found : obdGetCmdForPID pid = some pidCmd

/-- `struct dbus_gen`: the bitmaps, and the list of the values. -/
structure DbusGen extends SupportedPids where
  simvalList : List DbusSimval

/-! ## The configuration file -/

/-- What `sscanf(line, "key=%1023s", …)` comes to: it returns 0, `EOF` or 1. -/
inductive KeyScan where
  | mismatch
  | eof
  | stored (value : List Char)
  deriving DecidableEq

/-- The literal text first, then the value. -/
def scanKey : List Char → List Char → KeyScan
  | [], s =>
    match scanStr 1023 s with
    | some (value, _) => .stored value
    | none => .eof
  | _ :: _, [] => .eof
  | k :: ks, c :: s => if k = c then scanKey ks s else .mismatch

/-- `2 == sscanf(line, "map %i -> %x", &map_from, &map_to)`. -/
def scanMap (line : List Char) : Option (Int × Nat) :=
  if "map".toList.isPrefixOf line then
    (scanInt none (line.drop 3)).bind fun (mapFrom, rest) =>
      if "->".toList.isPrefixOf (rest.dropWhile isspace) then
        (scanHexItem none ((rest.dropWhile isspace).drop 2)).map fun (mapTo, _) =>
          (toInt mapFrom, mapTo)
      else none
  else none

/-- What has been collected of the configuration file. -/
structure DbusConfig where
  dbusinterface : List Char
  dbuspath : List Char
  dbusbus : List Char
  dbusmember : List Char
  simvalList : List DbusSimval

/-- A match, with the value that was stored, if one was. -/
def KeyScan.take (scan : KeyScan) (old : List Char) : Option (List Char) :=
  match scan with
  | .mismatch => none
  | .eof => some old
  | .stored value => some value

/-- A node for a map line, unless there is no command for the PID. -/
def simvalFor (mapFrom : Int) (mapTo : Nat) : Option DbusSimval :=
  match h : obdGetCmdForPID mapTo with
  | none => none
  | some cmd => some ⟨mapFrom, mapTo, cmd, 0, h⟩

/-- The body of the loop; there is no result if it follows a null pointer. -/
def DbusConfig.readLine (c : DbusConfig) (line : List Char) : Option DbusConfig :=
  if line.head? = some '#' then some c
  else
    match (scanKey "interface=".toList line).take c.dbusinterface with
    | some value => some { c with dbusinterface := value }
    | none =>
      match (scanKey "path=".toList line).take c.dbuspath with
      | some value => some { c with dbuspath := value }
      | none =>
        match (scanKey "bus=".toList line).take c.dbusbus with
        | some value => some { c with dbusbus := value }
        | none =>
          match (scanKey "member=".toList line).take c.dbusmember with
          | some value => some { c with dbusmember := value }
          | none =>
            match scanMap line with
            | none => some c
            | some (mapFrom, mapTo) =>
              -- `cmd->human_name` is printed before `cmd` is compared with `NULL`
              (simvalFor mapFrom mapTo).map fun v => { c with simvalList := v :: c.simvalList }

/-- The loop over the lines of the file. -/
def dbusReadConfig (file : List Char) : Option DbusConfig :=
  (fgetsAll 1024 file).foldlM (fun c line => c.readLine (cstr line)) ⟨[], [], [], [], []⟩

/-- What becomes of a call of `dbus_simgen_create`. -/
inductive DbusCreate where
  | nullDeref
  | refused
  | created (g : DbusGen)

/-- The bitmaps with the marks of all of the nodes. -/
def markSimvals (s : SupportedPids) (simvalList : List DbusSimval) : SupportedPids :=
  simvalList.foldl (fun s pidtest => s.mark pidtest.pid) s

/-- `dbus_simgen_create` on the text of its file. -/
def dbusSimgenCreate (file : List Char) : DbusCreate :=
  match dbusReadConfig file with
  | none => .nullDeref
  | some c =>
    if c.simvalList = [] then .refused
    else if c.dbusinterface = [] ∨ c.dbuspath = [] ∨ c.dbusbus = [] ∨ c.dbusmember = [] then
      .refused
    else
      .created
        { toSupportedPids := markSimvals ⟨0x01, 0x01, 0x01, 0x00⟩ c.simvalList
          simvalList := c.simvalList }

/-! ## Signals and requests -/

/-- An argument of a message, with its type on the bus. -/
inductive DbusArg where
  | int32 (v : Int)
  | uint32 (v : Nat)
  | double (x : Rat)
  | other

/-- The argument as a key: an unsigned one is converted. -/
def DbusArg.key : DbusArg → Option Int
  | .int32 v => some v
  | .uint32 v => some (toInt v)
  | _ => none

/-- The number that an argument stands for, if its type is one of the three
known. -/
def DbusArg.value : DbusArg → Option Rat
  | .int32 v => some v
  | .uint32 v => some v
  | .double x => some x
  | .other => none

/-- The key and the value of a message that has both. -/
def messageTuple : List DbusArg → Option (Int × Rat)
  | key :: value :: _ => key.key.bind fun k => value.value.map fun v => (k, v)
  | _ => none

/-- `dbus_simgen_findsimval_from`, and the assignment through what it returns. -/
def setRecent (key : Int) (value : Rat) : List DbusSimval → Option (List DbusSimval)
  | [] => none
  | s :: rest =>
    if s.mapFrom = key then some ({ s with mostRecent := value } :: rest)
    else (setRecent key value rest).map fun rest => s :: rest

/-- `dbus_simgen_msgfilter`: the generator, and whether the message was handled. -/
def dbusSimgenMsgfilter (g : DbusGen) (message : List DbusArg) : DbusGen × Bool :=
  match messageTuple message with
  | none => (g, false)
  | some (key, value) =>
    match setRecent key value g.simvalList with
    | none => (g, false)
    | some simvalList => ({ g with simvalList := simvalList }, true)

/-- The messages that arrive, in order. -/
def DbusGen.receive (g : DbusGen) (messages : List (List DbusArg)) : DbusGen :=
  messages.foldl (fun g message => (dbusSimgenMsgfilter g message).1) g

/-- `dbus_simgen_findsimval_to`: the first node of a PID. -/
def DbusGen.findsimvalTo (g : DbusGen) (mapTo : Nat) : Option DbusSimval :=
  g.simvalList.find? fun s => s.pid == mapTo

/-- `dbus_simgen_getvalue`: a bitmap, or the most recent value of the PID,
encoded. -/
def dbusSimgenGetvalue (g : DbusGen) (cells : Nat → Nat) (pid : Nat) : Outcome :=
  match g.bits pid with
  | some bits => .value ⟨4, bitmapCells bits cells⟩
  | none =>
    match g.findsimvalTo pid with
    | none => .value ⟨0, cells⟩
    | some v => callConvrev v.pidCmd v.mostRecent cells

/-! ## What a file becomes -/

/-- The key and the PID of a line that is read as a map line. -/
def mapLine (line : List Char) : Option (Int × Nat) :=
  if line.head? = some '#' ∨ ∃ key ∈ ["interface=", "path=", "bus=", "member="],
      scanKey key.toList line ≠ .mismatch then none
  else scanMap line

/-- The lines of a file that map a key to a PID, in order. -/
def mapLines (file : List Char) : List (Int × Nat) :=
  (fgetsAll 1024 file).filterMap fun line => mapLine (cstr line)

/-- What a node maps: its key, and the PID it is for. -/
def DbusSimval.mapping (s : DbusSimval) : Int × Nat := (s.mapFrom, s.pid)

/-- The mappings of the nodes, in the order of the searches. -/
def DbusGen.mappings (g : DbusGen) : List (Int × Nat) := g.simvalList.map DbusSimval.mapping

theorem simvalFor_isSome_iff {mapFrom : Int} {mapTo : Nat} :
    (simvalFor mapFrom mapTo).isSome ↔ (obdGetCmdForPID mapTo).isSome := by
  unfold simvalFor
  split <;> simp_all

theorem simvalFor_eq_some {mapFrom : Int} {mapTo : Nat} {v : DbusSimval}
    (h : simvalFor mapFrom mapTo = some v) : v.mapping = (mapFrom, mapTo) ∧ v.mostRecent = 0 := by
  unfold simvalFor at h
  split at h
  · cases h
  · obtain rfl := Option.some.inj h
    exact ⟨rfl, rfl⟩

theorem take_eq_none {scan : KeyScan} {old : List Char} :
    scan.take old = none ↔ scan = .mismatch := by
  cases scan <;> simp [KeyScan.take]

/-- **A line** is a map line, or leaves the list alone. -/
theorem readLine_cases (c : DbusConfig) (line : List Char) :
    (mapLine line = none ∧ ∃ c', c.readLine line = some c' ∧ c'.simvalList = c.simvalList) ∨
      ∃ mapFrom mapTo, mapLine line = some (mapFrom, mapTo) ∧ c.readLine line =
        (simvalFor mapFrom mapTo).map fun v => { c with simvalList := v :: c.simvalList } := by
  unfold DbusConfig.readLine
  by_cases hcomment : line.head? = some '#'
  · rw [if_pos hcomment]
    exact .inl ⟨if_pos (.inl hcomment), c, rfl, rfl⟩
  rw [if_neg hcomment]
  -- the keys are tried before a map line is, so a line that one of them takes is none
  have hkey : ∀ {key : String} {old value : List Char},
      key ∈ ["interface=", "path=", "bus=", "member="] →
      (scanKey key.toList line).take old = some value → mapLine line = none := by
    intro key old value hmem h
    refine if_pos (.inr ⟨key, hmem, fun hmis => ?_⟩)
    rw [take_eq_none.mpr hmis] at h
    cases h
  cases h1 : (scanKey "interface=".toList line).take c.dbusinterface with
  | some value => exact .inl ⟨hkey (by simp) h1, _, rfl, rfl⟩
  | none =>
  cases h2 : (scanKey "path=".toList line).take c.dbuspath with
  | some value => exact .inl ⟨hkey (by simp) h2, _, rfl, rfl⟩
  | none =>
  cases h3 : (scanKey "bus=".toList line).take c.dbusbus with
  | some value => exact .inl ⟨hkey (by simp) h3, _, rfl, rfl⟩
  | none =>
  cases h4 : (scanKey "member=".toList line).take c.dbusmember with
  | some value => exact .inl ⟨hkey (by simp) h4, _, rfl, rfl⟩
  | none =>
  -- no key has taken the line
  have hmap : mapLine line = scanMap line := by
    refine if_neg (not_or.mpr ⟨hcomment, ?_⟩)
    rintro ⟨key, hmem, hne⟩
    have hkeys : key = "interface=" ∨ key = "path=" ∨ key = "bus=" ∨ key = "member=" := by
      simpa using hmem
    rcases hkeys with rfl | rfl | rfl | rfl
    · exact hne (take_eq_none.mp h1)
    · exact hne (take_eq_none.mp h2)
    · exact hne (take_eq_none.mp h3)
    · exact hne (take_eq_none.mp h4)
  rw [hmap]
  cases scanMap line with
  | none => exact .inl ⟨rfl, c, rfl, rfl⟩
  | some item => exact .inr ⟨item.1, item.2, rfl, rfl⟩

/-- **The lines of a file** are read to the end if every map line names a PID
that is known; the list is then that of the map lines, the last one in front. -/
theorem readLines_spec : ∀ (lines : List (List Char)) (c : DbusConfig),
    ((lines.foldlM DbusConfig.readLine c).isSome ↔
      ∀ m ∈ lines.filterMap mapLine, (obdGetCmdForPID m.2).isSome) ∧
    ∀ c', lines.foldlM DbusConfig.readLine c = some c' →
      c'.simvalList.map DbusSimval.mapping =
        (lines.filterMap mapLine).reverse ++ c.simvalList.map DbusSimval.mapping ∧
      ((∀ s ∈ c.simvalList, s.mostRecent = 0) → ∀ s ∈ c'.simvalList, s.mostRecent = 0)
  | [], c => by
    refine ⟨by simp, fun c' h => ?_⟩
    obtain rfl : c = c' := Option.some.inj h
    exact ⟨rfl, id⟩
  | line :: lines, c => by
    rw [List.foldlM_cons]
    -- a line is a map line or none; the former is refused if its PID is unknown
    rcases readLine_cases c line with ⟨hnone, c1, hc1, hlist⟩ | ⟨mapFrom, mapTo, hmap, hread⟩
    · rw [hc1, List.filterMap_cons_none hnone]
      obtain ⟨hsome, hspec⟩ := readLines_spec lines c1
      rw [← hlist]
      exact ⟨hsome, hspec⟩
    · rw [hread, List.filterMap_cons_some hmap, List.forall_mem_cons]
      cases hv : simvalFor mapFrom mapTo with
      | none =>
        have hunknown : ¬ (obdGetCmdForPID mapTo).isSome := by
          rw [← @simvalFor_isSome_iff mapFrom, hv]
          exact Bool.false_ne_true
        exact ⟨iff_of_false Bool.false_ne_true fun h => hunknown h.1, fun c' h => nomatch h⟩
      | some v =>
        obtain ⟨hmapping, hzero⟩ := simvalFor_eq_some hv
        have hknown : (obdGetCmdForPID mapTo).isSome := by
          rw [← @simvalFor_isSome_iff mapFrom, hv]
          rfl
        obtain ⟨hsome, hspec⟩ := readLines_spec lines { c with simvalList := v :: c.simvalList }
        refine ⟨hsome.trans (and_iff_right hknown).symm, fun c' h => ?_⟩
        obtain ⟨hlist, hrecent⟩ := hspec c' h
        refine ⟨?_, fun hall => hrecent (List.forall_mem_cons.mpr ⟨hzero, hall⟩)⟩
        rw [hlist, List.map_cons, hmapping, List.reverse_cons, List.append_assoc]
        rfl

/-- The lines of a file that map a signal to a PID are found among the lines
that `fgets` reads, one at a time. -/
theorem mapLines_eq (file : List Char) :
    mapLines file = ((fgetsAll 1024 file).map cstr).filterMap mapLine := by
  rw [List.filterMap_map]
  rfl

theorem readConfig_eq (file : List Char) :
    dbusReadConfig file =
      ((fgetsAll 1024 file).map cstr).foldlM DbusConfig.readLine ⟨[], [], [], [], []⟩ := by
  rw [List.foldlM_map]
  rfl

/-- **Reading a file** follows no null pointer if every map line names a PID
that is known, and only then. -/
theorem readConfig_isSome_iff (file : List Char) :
    (dbusReadConfig file).isSome ↔ ∀ m ∈ mapLines file, (obdGetCmdForPID m.2).isSome := by
  rw [readConfig_eq, mapLines_eq]
  exact (readLines_spec _ _).1

/-- **What is created** from a file: a node for each map line, the last one in
front, none with a value yet, and a bit for each PID. -/
theorem created_spec {file : List Char} {g : DbusGen} (h : dbusSimgenCreate file = .created g) :
    g.mappings = (mapLines file).reverse ∧ (∀ s ∈ g.simvalList, s.mostRecent = 0) ∧
      g.toSupportedPids = markSimvals ⟨0x01, 0x01, 0x01, 0x00⟩ g.simvalList := by
  unfold dbusSimgenCreate at h
  split at h
  · cases h
  · next c hc =>
    split at h
    · cases h
    · split at h
      · cases h
      · obtain rfl := DbusCreate.created.inj h
        rw [readConfig_eq] at hc
        obtain ⟨hlist, hzero⟩ := (readLines_spec _ _).2 c hc
        refine ⟨?_, hzero (fun s hs => nomatch hs), rfl⟩
        rw [mapLines_eq, DbusGen.mappings]
        exact hlist.trans (List.append_nil _)

end ObdGpsLogger.Sim
