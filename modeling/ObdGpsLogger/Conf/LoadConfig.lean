import ObdGpsLogger.Conf.ObdConfigFile

/-!
# Where the settings come from

`obd_loadConfig` of `src/conf/obdconfigfile.c` reads up to four files, one over
the other: that of the system, that of the user, the one `obdftdipty` leaves
while it runs, and the one an environment variable names.

`obdLoadConfig_takenFrom`: each setting is that of the last line, of all lines
of these files in this order, that sets it. So while `obdftdipty` runs, the
device is the one it has written down, and nothing else is changed by that
(`obdLoadConfig_ftdipty`).

Mirroring notes:
- `getenv` and `files` are the environment and what can be opened.
- The macros that the build fills in are a `Build`. `getPlatformHomeDir` is
  called with one environment, so that its buffer holds what it would return
  again.
- The messages are left out, and so is that memory may run out.
-/

namespace ObdGpsLogger.Conf

open CLib

/-! ## The code -/

/-- The texts that are filled in when the program is built. -/
structure Build where
  obdDefaultSerialport : List Char
  obdDefaultGpsport : List Char
  obdDefaultColumns : List Char
  obdDefaultDatabase : List Char
  obdFtdiptyDevice : List Char

/-- `MAX_PATH`, the size of the arrays for file names. -/
def maxPath : Nat := 1024

/-- `OBD_CONFIG_FILENAME`, the file in the home directory. -/
def obdConfigFilename : List Char := ".obdgpslogger".toList

section Load

variable (b : Build) (getenv : String → Option (List Char))
  (files : List Char → Option (List Char))

/-- `getPlatformHomeDir`: the directory in `HOME`, or else in `APPDATA`, or else
the current one. -/
def getPlatformHomeDir : List Char :=
  match (getenv "HOME").filter (· ≠ []) with
  | some envhome => snprintf maxPath (envhome ++ ['/'])
  | none =>
    match (getenv "APPDATA").filter (· ≠ []) with
    | some envhome => snprintf maxPath envhome
    | none => snprintf maxPath ['.']

/-- `fullfilename`: the path of the configuration file in the home directory,
cut to the array. -/
def fullfilename : List Char :=
  snprintf maxPath (getPlatformHomeDir getenv ++ ['/'] ++ obdConfigFilename)

/-- The settings before a file is read. -/
def defaults : OBDGPSConfig where
  obdDevice := b.obdDefaultSerialport
  gpsDevice := b.obdDefaultGpsport
  logColumns := b.obdDefaultColumns
  logFile := b.obdDefaultDatabase
  samplerate := 1
  optimisations := 0
  baudrate := -1
  baudrateUpgrade := -1

/-- A file is parsed if it can be opened. -/
def parseFile (c : OBDGPSConfig) (name : List Char) : OBDGPSConfig :=
  (files name).elim c (obdParseConfig c)

/-- `obd_loadConfig`: the settings of the build, changed by the system's file,
the user's file, the file of the pty and the file named in `OBD_CONFIGFILE`, in
this order. -/
def obdLoadConfig : OBDGPSConfig :=
  let c := defaults b
  let c := parseFile files c "/etc/obdgpslogger".toList
  let c := parseFile files c (fullfilename getenv)
  let c := parseFile files c b.obdFtdiptyDevice
  match getenv "OBD_CONFIGFILE" with
  | none => c
  | some envfile => parseFile files c envfile

end Load

/-! ## The last line that sets a setting -/

/-- The value that a line gives to a key. -/
def lineValue {α : Type} (key : List Char) (conv : List Char → Option (α × List Char))
    (line : List Char) : Option α :=
  if isComment line then none else scanAfter (key ++ ['=']) conv line

/-- The setting that the last line with a value leaves. -/
def lastValue {α β : Type} (key : List Char) (conv : List Char → Option (α × List Char))
    (store : α → β) (lines : List (List Char)) (before : β) : β :=
  (lines.filterMap (lineValue key conv)).getLast?.elim before store

/-- Each setting is that of the last line that sets it, or what it was before. -/
structure TakenFrom (lines : List (List Char)) (before c : OBDGPSConfig) : Prop where
  obdDevice : c.obdDevice = lastValue obdconfObddevice (scanStr 1023) id lines before.obdDevice
  gpsDevice : c.gpsDevice = lastValue obdconfGpsdevice (scanStr 1023) id lines before.gpsDevice
  logFile : c.logFile = lastValue obdconfLogfile (scanStr 1023) id lines before.logFile
  logColumns : c.logColumns =
    lastValue obdconfLogcolumns (scanStr 1023) id lines before.logColumns
  baudrate : c.baudrate =
    lastValue obdconfBaudrate (scanInt none) Int64.ofInt lines before.baudrate
  baudrateUpgrade : c.baudrateUpgrade =
    lastValue obdconfBaudrateupgrade (scanInt none) Int64.ofInt lines before.baudrateUpgrade
  samplerate : c.samplerate =
    lastValue obdconfSamplerate (scanInt none) Int32.ofInt lines before.samplerate
  optimisations : c.optimisations =
    lastValue obdconfOptimisations (scanInt none) Int32.ofInt lines before.optimisations

section LastValue

variable {α β : Type} (key : List Char) (conv : List Char → Option (α × List Char))
  (store : α → β)

theorem lastValue_append (lines more : List (List Char)) (before : β) :
    lastValue key conv store (lines ++ more) before =
      lastValue key conv store more (lastValue key conv store lines before) := by
  unfold lastValue
  rw [List.filterMap_append, List.getLast?_append]
  cases (more.filterMap (lineValue key conv)).getLast? <;> rfl

theorem lastValue_single (line : List Char) (before : β) :
    lastValue key conv store [line] before = (lineValue key conv line).elim before store := by
  unfold lastValue
  rw [List.filterMap_cons]
  cases lineValue key conv line <;> rfl

end LastValue

theorem TakenFrom.append {lines more : List (List Char)} {a b c : OBDGPSConfig}
    (hb : TakenFrom lines a b) (hc : TakenFrom more b c) : TakenFrom (lines ++ more) a c where
  obdDevice := by rw [lastValue_append, ← hb.obdDevice, hc.obdDevice]
  gpsDevice := by rw [lastValue_append, ← hb.gpsDevice, hc.gpsDevice]
  logFile := by rw [lastValue_append, ← hb.logFile, hc.logFile]
  logColumns := by rw [lastValue_append, ← hb.logColumns, hc.logColumns]
  baudrate := by rw [lastValue_append, ← hb.baudrate, hc.baudrate]
  baudrateUpgrade := by rw [lastValue_append, ← hb.baudrateUpgrade, hc.baudrateUpgrade]
  samplerate := by rw [lastValue_append, ← hb.samplerate, hc.samplerate]
  optimisations := by rw [lastValue_append, ← hb.optimisations, hc.optimisations]

theorem takenFrom_nil (c : OBDGPSConfig) : TakenFrom [] c c := by
  constructor <;> rfl

/-! ## One line -/

section Line

variable {β : Type} (field : OBDGPSConfig → β) {line : List Char}

/-- Settings of other fields leave a field as it is. -/
theorem foldl_tryKey_keep : ∀ (ss : List Setting) (c : OBDGPSConfig),
    (∀ s ∈ ss, ∀ c v, field (s.set c v) = field c) →
    field (ss.foldl (fun c s => tryKey s.key s.conv s.set line c) c) = field c
  | [], _, _ => rfl
  | s :: ss, c, h => by
    have htry : field (tryKey s.key s.conv s.set line c) = field c := by
      unfold tryKey
      cases scanAfter (s.key ++ ['=']) s.conv line with
      | none => rfl
      | some v => exact h s (List.mem_cons_self ..) c v
    rw [List.foldl_cons, foldl_tryKey_keep ss _ fun t ht => h t (List.mem_cons_of_mem _ ht), htry]

/-- **One field**: a line sets it as its setting does, or leaves it. -/
theorem parseLine_get {s : Setting} {store : s.α → β} (hs : s ∈ settings)
    (hset : ∀ c v, field (s.set c v) = store v)
    (hkeep : ∀ t ∈ settings, t.key ≠ s.key → ∀ c v, field (t.set c v) = field c)
    (c : OBDGPSConfig) :
    field (parseLine c line) = lastValue s.key s.conv store [line] (field c) := by
  obtain ⟨before, after, hsplit, hbefore, hafter⟩ := settings_split hs
  rw [lastValue_single, lineValue, parseLine]
  by_cases hline : isComment line = true
  · rw [if_pos hline, if_pos hline]
    rfl
  rw [if_neg hline, if_neg hline, hsplit, List.foldl_append, List.foldl_cons,
    foldl_tryKey_keep field after _ fun t ht => hkeep t (hafter t ht).1 (hafter t ht).2, tryKey]
  cases scanAfter (s.key ++ ['=']) s.conv line with
  | none =>
    exact foldl_tryKey_keep field before c fun t ht => hkeep t (hbefore t ht).1 (hbefore t ht).2
  | some v => exact hset _ v

end Line

/-- **One line**: the settings are as if each key were looked for on its own. -/
theorem parseLine_takenFrom (c : OBDGPSConfig) (line : List Char) :
    TakenFrom [line] c (parseLine c line) := by
  obtain ⟨hobd, hgps, hfile, hcolumns, hbaud, hup, hrate, hopt⟩ :=
    forall_settings.mp fun s hs => hs
  refine ⟨parseLine_get OBDGPSConfig.obdDevice hobd (fun _ _ => rfl) ?_ c,
    parseLine_get OBDGPSConfig.gpsDevice hgps (fun _ _ => rfl) ?_ c,
    parseLine_get OBDGPSConfig.logFile hfile (fun _ _ => rfl) ?_ c,
    parseLine_get OBDGPSConfig.logColumns hcolumns (fun _ _ => rfl) ?_ c,
    parseLine_get OBDGPSConfig.baudrate hbaud (fun _ _ => rfl) ?_ c,
    parseLine_get OBDGPSConfig.baudrateUpgrade hup (fun _ _ => rfl) ?_ c,
    parseLine_get OBDGPSConfig.samplerate hrate (fun _ _ => rfl) ?_ c,
    parseLine_get OBDGPSConfig.optimisations hopt (fun _ _ => rfl) ?_ c⟩
  -- each of the others sets another field
  all_goals
    refine forall_settings.mpr ⟨?_, ?_, ?_, ?_, ?_, ?_, ?_, ?_⟩ <;> intro hne _ _ <;>
      first | rfl | exact absurd rfl hne

/-! ## The files -/

/-- The lines that are parsed of a file. -/
def fileLines (file : List Char) : List (List Char) := (fgetsAll lineSize file).map cstr

theorem obdParseConfig_takenFrom (c : OBDGPSConfig) (file : List Char) :
    TakenFrom (fileLines file) c (obdParseConfig c file) := by
  have hlines : ∀ (lines : List (List Char)) (c : OBDGPSConfig),
      TakenFrom lines c (lines.foldl parseLine c) := by
    intro lines
    induction lines with
    | nil => exact takenFrom_nil
    | cons line lines ih => exact fun c => (parseLine_takenFrom c line).append (ih _)
  have h := hlines (fileLines file) c
  rwa [fileLines, List.foldl_map] at h

section Load

variable (b : Build) (getenv : String → Option (List Char))
  (files : List Char → Option (List Char))

/-- The lines of a file that can be opened. -/
def linesOf (name : List Char) : List (List Char) := (files name).elim [] fileLines

theorem parseFile_takenFrom (c : OBDGPSConfig) (name : List Char) :
    TakenFrom (linesOf files name) c (parseFile files c name) := by
  unfold linesOf parseFile
  cases files name with
  | none => exact takenFrom_nil c
  | some file => exact obdParseConfig_takenFrom c file

/-- All lines, in the order in which they are read. -/
def configLines : List (List Char) :=
  linesOf files "/etc/obdgpslogger".toList ++ linesOf files (fullfilename getenv) ++
    linesOf files b.obdFtdiptyDevice ++ (getenv "OBD_CONFIGFILE").elim [] (linesOf files)

/-- The files while `obdftdipty` runs, which has written down the name of its
pty. -/
def ftdiptyFiles (ptyname : List Char) : List Char → Option (List Char) :=
  Function.update files b.obdFtdiptyDevice (some (configLine obdconfObddevice ptyname))

/-- The files behind it: it deletes its own. -/
def unlinkedFiles : List Char → Option (List Char) :=
  Function.update files b.obdFtdiptyDevice none

/-- The same lines over settings that differ in the OBD device only make the
same of all other settings; the device is that of the last line that sets it. -/
theorem TakenFrom.otherDevice {lines : List (List Char)} {a c c' : OBDGPSConfig}
    {device : List Char} (hc : TakenFrom lines a c)
    (hc' : TakenFrom lines { a with obdDevice := device } c') :
    c' = { c with
      obdDevice := lastValue obdconfObddevice (scanStr 1023) id lines device } := by
  have hrest : c'.gpsDevice = c.gpsDevice ∧ c'.logFile = c.logFile ∧
      c'.logColumns = c.logColumns ∧ c'.baudrate = c.baudrate ∧
      c'.baudrateUpgrade = c.baudrateUpgrade ∧ c'.samplerate = c.samplerate ∧
      c'.optimisations = c.optimisations :=
    ⟨hc'.gpsDevice.trans hc.gpsDevice.symm, hc'.logFile.trans hc.logFile.symm,
      hc'.logColumns.trans hc.logColumns.symm, hc'.baudrate.trans hc.baudrate.symm,
      hc'.baudrateUpgrade.trans hc.baudrateUpgrade.symm,
      hc'.samplerate.trans hc.samplerate.symm, hc'.optimisations.trans hc.optimisations.symm⟩
  obtain ⟨hgps, hfile, hcolumns, hbaud, hup, hrate, hopt⟩ := hrest
  rw [← hc'.obdDevice, ← hgps, ← hfile, ← hcolumns, ← hbaud, ← hup, ← hrate, ← hopt]

/-- **While `obdftdipty` runs**, the device is its pty, unless the file of the
environment variable sets another one, and all other settings are as they are
without it. -/
theorem obdLoadConfig_ftdipty {ptyname : List Char} (hpty : Storable obdconfObddevice ptyname)
    (hsystem : "/etc/obdgpslogger".toList ≠ b.obdFtdiptyDevice)
    (huser : fullfilename getenv ≠ b.obdFtdiptyDevice)
    (henv : ∀ envfile ∈ getenv "OBD_CONFIGFILE", envfile ≠ b.obdFtdiptyDevice) :
    obdLoadConfig b getenv (ftdiptyFiles b files ptyname) =
      { obdLoadConfig b getenv (unlinkedFiles b files) with
        obdDevice := lastValue obdconfObddevice (scanStr 1023) id
          ((getenv "OBD_CONFIGFILE").elim [] (linesOf files)) ptyname } := by
  -- the other files are the same with and without the one that is written
  have hkeep : ∀ (c : OBDGPSConfig) (name : List Char), name ≠ b.obdFtdiptyDevice →
      parseFile (ftdiptyFiles b files ptyname) c name = parseFile files c name ∧
        parseFile (unlinkedFiles b files) c name = parseFile files c name := by
    intro c name hne
    simp [parseFile, ftdiptyFiles, unlinkedFiles, hne]
  -- that file has one line, which sets the device
  have hpiped : ∀ c : OBDGPSConfig,
      parseFile (ftdiptyFiles b files ptyname) c b.obdFtdiptyDevice =
        { c with obdDevice := ptyname } := by
    intro c
    have hline : obdParseConfig c (configLine obdconfObddevice ptyname ++ []) =
        obdParseConfig { c with obdDevice := ptyname } [] :=
      obdParseConfig_setting (forall_settings.mp fun s hs => hs).1 hpty
        (fun _ => scanStr_value hpty) c []
    rw [List.append_nil] at hline
    rw [parseFile, ftdiptyFiles, Function.update_self, Option.elim_some, hline]
    rfl
  have hgone : ∀ c : OBDGPSConfig,
      parseFile (unlinkedFiles b files) c b.obdFtdiptyDevice = c := by
    intro c
    rw [parseFile, unlinkedFiles, Function.update_self, Option.elim_none]
  unfold obdLoadConfig
  dsimp only
  rw [(hkeep _ _ hsystem).1, (hkeep _ _ hsystem).2, (hkeep _ _ huser).1, (hkeep _ _ huser).2,
    hpiped, hgone]
  -- the file of the environment is read behind it, and may set the device again
  cases hfile : getenv "OBD_CONFIGFILE" with
  | none => rfl
  | some envfile =>
    have hne := henv envfile hfile
    dsimp only
    rw [(hkeep _ _ hne).1, (hkeep _ _ hne).2]
    exact (parseFile_takenFrom files _ envfile).otherDevice (parseFile_takenFrom files _ envfile)

end Load

end ObdGpsLogger.Conf
