import ObdGpsLogger.CLib.ScanInt

/-!
# The configuration file

`obd_parseConfig` and `obd_writeConfig` of `src/conf/obdconfigfile.c`: lines of
a key, an equals sign and a value. Every line is tried against every key.

`parseConfig_writeConfig` is the round trip: what is written is read back over
any configuration, whatever else the strings contain, as long as they have no
white space and their lines fit the buffer.

Mirroring notes:
- A file is its text. A line that was read counts up to its first NUL.
- An `int` is an `Int32`, a `long` an `Int64`. None of the strings is `NULL`
  once a configuration is loaded.
- Getting a home directory and opening files are left out.
-/

namespace ObdGpsLogger.Conf

open CLib

/-- `struct OBDGPSConfig`: the settings that the programs share. -/
structure OBDGPSConfig where
  obdDevice : List Char
  gpsDevice : List Char
  samplerate : Int32
  optimisations : Int32
  logColumns : List Char
  baudrate : Int64
  baudrateUpgrade : Int64
  logFile : List Char
  deriving DecidableEq

/-! ## The keys -/

/-- `OBDCONF_OBDDEVICE`. -/
def obdconfObddevice : List Char := "obddevice".toList

/-- `OBDCONF_GPSDEVICE`. -/
def obdconfGpsdevice : List Char := "gpsdevice".toList

/-- `OBDCONF_OPTIMISATIONS`. -/
def obdconfOptimisations : List Char := "optimisations".toList

/-- `OBDCONF_LOGCOLUMNS`. -/
def obdconfLogcolumns : List Char := "log_columns".toList

/-- `OBDCONF_LOGFILE`. -/
def obdconfLogfile : List Char := "log_file".toList

/-- `OBDCONF_SAMPLERATE`. -/
def obdconfSamplerate : List Char := "samplerate".toList

/-- `OBDCONF_BAUDRATE`. -/
def obdconfBaudrate : List Char := "baudrate".toList

/-- `OBDCONF_BAUDRATEUPGRADE`. -/
def obdconfBaudrateupgrade : List Char := "baudrate_upgrade".toList

/-! ## Reading -/

/-- `sizeof(line)`: a longer line is read in several pieces. -/
def lineSize : Nat := 1024

/-- One `if(1 == sscanf(line, key "=…", &singleval)) { … }`: the conversion, and
what is done with the value. -/
def tryKey {α : Type} (key : List Char) (conv : List Char → Option (α × List Char))
    (set : OBDGPSConfig → α → OBDGPSConfig) (line : List Char) (c : OBDGPSConfig) :
    OBDGPSConfig :=
  (scanAfter (key ++ ['=']) conv line).elim c (set c)

/-- A key, the conversion behind its equals sign, and the field it sets. -/
structure Setting where
  {α : Type}
  key : List Char
  conv : List Char → Option (α × List Char)
  set : OBDGPSConfig → α → OBDGPSConfig

namespace Setting

def obdDevice : Setting where
  key := obdconfObddevice
  conv := scanStr 1023
  set := fun c s => { c with obdDevice := s }

def gpsDevice : Setting where
  key := obdconfGpsdevice
  conv := scanStr 1023
  set := fun c s => { c with gpsDevice := s }

def logFile : Setting where
  key := obdconfLogfile
  conv := scanStr 1023
  set := fun c s => { c with logFile := s }

def logColumns : Setting where
  key := obdconfLogcolumns
  conv := scanStr 1023
  set := fun c s => { c with logColumns := s }

def baudrate : Setting where
  key := obdconfBaudrate
  conv := scanInt none
  set := fun c l => { c with baudrate := Int64.ofInt l }

def baudrateUpgrade : Setting where
  key := obdconfBaudrateupgrade
  conv := scanInt none
  set := fun c l => { c with baudrateUpgrade := Int64.ofInt l }

def samplerate : Setting where
  key := obdconfSamplerate
  conv := scanInt none
  set := fun c i => { c with samplerate := Int32.ofInt i }

def optimisations : Setting where
  key := obdconfOptimisations
  conv := scanInt none
  set := fun c i => { c with optimisations := Int32.ofInt i }

end Setting

/-- The settings, in the order in which they are looked for. -/
def settings : List Setting :=
  [.obdDevice, .gpsDevice, .logFile, .logColumns, .baudrate, .baudrateUpgrade, .samplerate,
    .optimisations]

/-- A line is a comment: its first character behind blanks and tabs is a `#`. -/
def isComment (line : List Char) : Bool :=
  (line.dropWhile fun c => c == ' ' || c == '\t').head? == some '#'

/-- The body of the loop of `obd_parseConfig`: the eight `if`s, one after the
other. -/
def parseLine (c : OBDGPSConfig) (line : List Char) : OBDGPSConfig :=
  if isComment line then c
  else settings.foldl (fun c s => tryKey s.key s.conv s.set line c) c

/-- `obd_parseConfig` on the text of a file: each line may change the settings. -/
def obdParseConfig (c : OBDGPSConfig) (file : List Char) : OBDGPSConfig :=
  (fgetsAll lineSize file).foldl (fun c line => parseLine c (cstr line)) c

/-! ## Writing -/

/-- `fprintf(f, key "=…\n", value)`: the line that stores a setting. -/
def configLine (key value : List Char) : List Char := key ++ ['='] ++ value ++ ['\n']

/-- `obd_writeConfig`: what is in the file. -/
def obdWriteConfig (c : OBDGPSConfig) : List Char :=
  configLine obdconfObddevice c.obdDevice ++
    configLine obdconfGpsdevice c.gpsDevice ++
    configLine obdconfLogcolumns c.logColumns ++
    configLine obdconfLogfile c.logFile ++
    configLine obdconfOptimisations (fmtD c.optimisations.toInt) ++
    configLine obdconfSamplerate (fmtD c.samplerate.toInt) ++
    configLine obdconfBaudrate (fmtD c.baudrate.toInt) ++
    configLine obdconfBaudrateupgrade (fmtD c.baudrateUpgrade.toInt)

/-! ## Lines and keys -/

/-- The keys of all eight settings. -/
def keys : List (List Char) :=
  [obdconfObddevice, obdconfGpsdevice, obdconfOptimisations, obdconfLogcolumns, obdconfLogfile,
    obdconfSamplerate, obdconfBaudrate, obdconfBaudrateupgrade]

/-- With its equals sign, no key starts another, and none looks like a comment. -/
theorem keys_apart : (∀ key ∈ keys, ∀ other ∈ keys, other ≠ key →
    (other ++ ['=']).isPrefixOf (key ++ ['=']) = false) ∧
    ∀ key ∈ keys, key ≠ [] ∧ (key.all fun c => c.isAlpha || c == '_') = true := by
  decide

/-- What holds of all settings holds of each of the eight, in the order in which
a line is compared with their keys. -/
theorem forall_settings {P : Setting → Prop} : (∀ s ∈ settings, P s) ↔
    P .obdDevice ∧ P .gpsDevice ∧ P .logFile ∧ P .logColumns ∧ P .baudrate ∧ P .baudrateUpgrade ∧
      P .samplerate ∧ P .optimisations := by
  simp [settings]

/-- The keys of the settings are those of the file format, and no two settings
have the same key. -/
theorem settings_keys : (∀ s ∈ settings, s.key ∈ keys) ∧ (settings.map Setting.key).Nodup := by
  decide

/-- A setting, those before it, and those after it, which have other keys. -/
theorem settings_split {s : Setting} (hs : s ∈ settings) :
    ∃ before after, settings = before ++ s :: after ∧
      (∀ t ∈ before, t ∈ settings ∧ t.key ≠ s.key) ∧
      ∀ t ∈ after, t ∈ settings ∧ t.key ≠ s.key := by
  obtain ⟨before, after, hsplit⟩ := List.append_of_mem hs
  have hnodup := settings_keys.2
  rw [hsplit, List.map_append, List.map_cons] at hnodup
  obtain ⟨-, hafter, hbefore⟩ := List.nodup_append.mp hnodup
  refine ⟨before, after, hsplit, fun t ht => ⟨?_, ?_⟩, fun t ht => ⟨?_, fun he => ?_⟩⟩
  · exact hsplit ▸ List.mem_append_left _ ht
  · exact hbefore _ (List.mem_map_of_mem ht) _ (List.mem_cons_self ..)
  · exact hsplit ▸ List.mem_append_right _ (List.mem_cons_of_mem _ ht)
  · exact (List.nodup_cons.mp hafter).1 (he ▸ List.mem_map_of_mem ht)

section Keys

variable {key : List Char}

theorem tryKey_self {α : Type} {conv : List Char → Option (α × List Char)}
    (set : OBDGPSConfig → α → OBDGPSConfig) {text rest : List Char} {v : α}
    (hconv : conv text = some (v, rest)) (c : OBDGPSConfig) :
    tryKey key conv set (key ++ ['='] ++ text) c = set c v := by
  rw [tryKey, scanAfter_append, hconv]
  rfl

theorem tryKey_other {α : Type} {other : List Char} (hkey : key ∈ keys) (hother : other ∈ keys)
    (hne : other ≠ key) (conv : List Char → Option (α × List Char))
    (set : OBDGPSConfig → α → OBDGPSConfig) (text : List Char) (c : OBDGPSConfig) :
    tryKey other conv set (key ++ ['='] ++ text) c = c := by
  have hapart := keys_apart.1
  rw [tryKey, scanAfter_eq_none]
  · rfl
  · intro hpre
    -- of two starts of one line, one starts the other
    rcases List.prefix_or_prefix_of_prefix hpre (List.prefix_append (key ++ ['=']) text) with h | h
    · exact absurd (List.isPrefixOf_iff_prefix.mpr h) (by simp [hapart key hkey other hother hne])
    · exact absurd (List.isPrefixOf_iff_prefix.mpr h)
        (by simp [hapart other hother key hkey hne.symm])

/-- A line that starts with a key is no comment. -/
theorem isComment_key (hkey : key ∈ keys) (text : List Char) :
    isComment (key ++ ['='] ++ text) = false := by
  obtain ⟨hne, hall⟩ := keys_apart.2 key hkey
  obtain ⟨c, cs, rfl⟩ := List.exists_cons_of_ne_nil hne
  rw [List.all_cons, Bool.and_eq_true] at hall
  have hc : c ≠ ' ' ∧ c ≠ '\t' ∧ c ≠ '#' := by
    refine ⟨?_, ?_, ?_⟩ <;> (rintro rfl; exact absurd hall.1 (by decide))
  have hsp : (c == ' ' || c == '\t') = false := by
    simp [hc]
  rw [isComment, List.cons_append, List.cons_append, List.dropWhile_cons_of_neg (by simp [hsp])]
  simp [hc]

/-- A character that is in neither the key nor the value of a line, and is no
equals sign, is not in the line. -/
theorem not_mem_line (hkey : key ∈ keys) {d : Char} (hd : (d.isAlpha || d == '_') = false)
    (heq : d ≠ '=') {value : List Char} (hvalue : d ∉ value) : d ∉ key ++ ['='] ++ value := by
  intro hmem
  rcases List.mem_append.mp hmem with hmem | hmem
  · rcases List.mem_append.mp hmem with hmem | hmem
    · have hbare := List.all_eq_true.mp (keys_apart.2 key hkey).2 d hmem
      rw [hd] at hbare
      cases hbare
    · exact heq (List.mem_singleton.mp hmem)
  · exact hvalue hmem

end Keys

theorem parseLine_newline (c : OBDGPSConfig) : parseLine c ['\n'] = c := rfl

/-! ## The round trip -/

/-- A value whose line can be read back: a word that fits the line with its key. -/
structure Storable (key value : List Char) : Prop where
  ne_nil : value ≠ []
  word : ∀ c ∈ value, isspace c = false
  cstring : nul ∉ value
  fits : key.length + 1 + value.length ≤ lineSize - 1

/-- One line of the file. What it does to the configuration is the same with
its newline and, where the line fills the buffer, without. -/
theorem obdParseConfig_line {key value : List Char} (hkey : key ∈ keys)
    (hvalue : Storable key value) {c c' : OBDGPSConfig}
    (hline : ∀ tail, tail = [] ∨ tail = ['\n'] →
      parseLine c (key ++ ['='] ++ (value ++ tail)) = c') (rest : List Char) :
    obdParseConfig c (configLine key value ++ rest) = obdParseConfig c' rest := by
  have hnl := not_mem_line hkey (by decide) (by decide) fun h =>
    absurd (hvalue.word '\n' h) (by decide)
  have hnul := not_mem_line hkey (by decide) (by decide) hvalue.cstring
  have hfit : (key ++ ['='] ++ value).length ≤ lineSize - 1 := by
    have := hvalue.fits
    simp only [List.length_append, List.length_singleton]
    exact this
  have hread := fgetsAll_line (by simp) hnl hfit rest
  have happ : configLine key value ++ rest = key ++ ['='] ++ value ++ '\n' :: rest := by
    simp [configLine]
  rw [obdParseConfig, happ]
  -- `fgets` reads the line with its newline, or the newline by itself where the buffer is full
  rcases hread with hread | hread
  · have hstr : cstr (key ++ ['='] ++ value ++ ['\n']) = key ++ ['='] ++ (value ++ ['\n']) := by
      rw [cstr_eq_self, List.append_assoc]
      intro hmem
      rcases List.mem_append.mp hmem with h | h
      · exact hnul h
      · exact absurd (List.mem_singleton.mp h) (by decide)
    rw [hread, List.foldl_cons, hstr, hline ['\n'] (Or.inr rfl)]
    rfl
  · have hstr : cstr (key ++ ['='] ++ value) = key ++ ['='] ++ (value ++ []) := by
      rw [cstr_eq_self hnul, List.append_nil]
    rw [hread, List.foldl_cons, List.foldl_cons, hstr, hline [] (Or.inl rfl)]
    rw [show cstr ['\n'] = ['\n'] from rfl, parseLine_newline]
    rfl

/-! ## Each key on its own line -/

/-- Reading a line changes no setting that has another key than the line. -/
theorem foldl_tryKey_other {key : List Char} (hkey : key ∈ keys) (text : List Char) :
    ∀ (ss : List Setting) (c : OBDGPSConfig), (∀ s ∈ ss, s.key ∈ keys ∧ s.key ≠ key) →
      ss.foldl (fun c s => tryKey s.key s.conv s.set (key ++ ['='] ++ text) c) c = c
  | [], _, _ => rfl
  | s :: ss, c, h => by
    obtain ⟨hs, hne⟩ := h s (List.mem_cons_self ..)
    rw [List.foldl_cons, tryKey_other hkey hs hne]
    exact foldl_tryKey_other hkey text ss c fun t ht => h t (List.mem_cons_of_mem _ ht)

/-- **The line of a setting** sets it, and nothing else. -/
theorem parseLine_setting {s : Setting} (hs : s ∈ settings) {text rest : List Char} {v : s.α}
    (hconv : s.conv text = some (v, rest)) (c : OBDGPSConfig) :
    parseLine c (s.key ++ ['='] ++ text) = s.set c v := by
  have hkeys := settings_keys.1
  have hkey := hkeys s hs
  obtain ⟨before, after, hsplit, hbefore, hafter⟩ := settings_split hs
  rw [parseLine, isComment_key hkey, if_neg (by decide), hsplit, List.foldl_append,
    foldl_tryKey_other hkey text before c fun t ht => (hbefore t ht).imp_left (hkeys t),
    List.foldl_cons, tryKey_self s.set hconv]
  exact foldl_tryKey_other hkey text after _ fun t ht => (hafter t ht).imp_left (hkeys t)

/-- A line that was written for a setting, and is read from a file, sets that
setting and no other; the rest of the file is read after it. -/
theorem obdParseConfig_setting {s : Setting} (hs : s ∈ settings) {value : List Char} {v : s.α}
    (hvalue : Storable s.key value)
    (hconv : ∀ tail, tail = [] ∨ tail = ['\n'] → s.conv (value ++ tail) = some (v, tail))
    (c : OBDGPSConfig) (rest : List Char) :
    obdParseConfig c (configLine s.key value ++ rest) = obdParseConfig (s.set c v) rest :=
  obdParseConfig_line (settings_keys.1 s hs) hvalue
    (fun tail ht => parseLine_setting hs (hconv tail ht) c) rest

/-- A word is read back, whatever ends its line. -/
theorem scanStr_value {key value tail : List Char} (hvalue : Storable key value)
    (htail : tail = [] ∨ tail = ['\n']) : scanStr 1023 (value ++ tail) = some (value, tail) := by
  have hfits : value.length ≤ 1023 := by
    have := hvalue.fits
    unfold lineSize at this
    omega
  apply scanStr_word hvalue.ne_nil hvalue.word hfits
  rcases htail with rfl | rfl <;> simp [isspace]

/-- A number is read back, whatever ends its line. -/
theorem scanInt_value {z : Int} (h : -2 ^ 63 ≤ z) (hlt : z < 2 ^ 63) {tail : List Char}
    (htail : tail = [] ∨ tail = ['\n']) : scanInt none (fmtD z ++ tail) = some (z, tail) := by
  apply scanInt_fmtD h hlt
  rcases htail with rfl | rfl
  · nofun
  · rintro c ⟨⟩
    decide

/-- A printed number fits its line, whatever the key. -/
theorem storable_fmtD {key : List Char} (hkey : key ∈ keys) {z : Int} (h : -2 ^ 63 ≤ z)
    (hlt : z < 2 ^ 63) : Storable key (fmtD z) := by
  have hlen : ∀ key ∈ keys, key.length ≤ 16 := by decide
  refine ⟨fmtD_ne_nil z, fun c hc => ?_, fun hc => ?_, ?_⟩
  · rcases fmtD_mem hc with rfl | hdigit
    · rfl
    · exact isDigit_not_isspace hdigit
  · rcases fmtD_mem hc with h0 | h0
    · exact absurd h0 (by decide)
    · exact absurd h0 (by decide)
  · have := hlen key hkey
    have := fmtD_length_le h hlt
    unfold lineSize
    omega

/-- An `int` is written on a line of its own in such a way that `%i` reads it
back. -/
theorem int32_line {key : List Char} (hkey : key ∈ keys) (v : Int32) :
    Storable key (fmtD v.toInt) ∧ ∀ tail, tail = [] ∨ tail = ['\n'] →
      scanInt none (fmtD v.toInt ++ tail) = some (v.toInt, tail) := by
  have hle := v.le_toInt
  have hlt := v.toInt_lt
  exact ⟨storable_fmtD hkey (by omega) (by omega),
    fun tail htail => scanInt_value (by omega) (by omega) htail⟩

/-- A `long` is written on a line of its own in such a way that `%li` reads it
back. -/
theorem int64_line {key : List Char} (hkey : key ∈ keys) (v : Int64) :
    Storable key (fmtD v.toInt) ∧ ∀ tail, tail = [] ∨ tail = ['\n'] →
      scanInt none (fmtD v.toInt ++ tail) = some (v.toInt, tail) :=
  ⟨storable_fmtD hkey v.le_toInt v.toInt_lt,
    fun _ htail => scanInt_value v.le_toInt v.toInt_lt htail⟩

/-- **The configuration comes back.** Over any configuration, parsing what is
written for `c` gives `c`. -/
theorem parseConfig_writeConfig (c c₀ : OBDGPSConfig)
    (hobd : Storable obdconfObddevice c.obdDevice) (hgps : Storable obdconfGpsdevice c.gpsDevice)
    (hcolumns : Storable obdconfLogcolumns c.logColumns)
    (hfile : Storable obdconfLogfile c.logFile) :
    obdParseConfig c₀ (obdWriteConfig c) = c := by
  have hopt := int32_line (show obdconfOptimisations ∈ keys by decide) c.optimisations
  have hrate := int32_line (show obdconfSamplerate ∈ keys by decide) c.samplerate
  have hbaud := int64_line (show obdconfBaudrate ∈ keys by decide) c.baudrate
  have hup := int64_line (show obdconfBaudrateupgrade ∈ keys by decide) c.baudrateUpgrade
  unfold obdWriteConfig
  rw [← List.append_nil (_ ++ configLine obdconfBaudrateupgrade _)]
  simp only [List.append_assoc]
  obtain ⟨hobdMem, hgpsMem, hfileMem, hcolumnsMem, hbaudMem, hupMem, hrateMem, hoptMem⟩ :=
    forall_settings.mp fun s hs => hs
  -- the eight lines, as they are written
  refine (obdParseConfig_setting hobdMem hobd (fun _ => scanStr_value hobd) _ _).trans ?_
  refine (obdParseConfig_setting hgpsMem hgps (fun _ => scanStr_value hgps) _ _).trans ?_
  refine (obdParseConfig_setting hcolumnsMem hcolumns (fun _ => scanStr_value hcolumns) _ _).trans ?_
  refine (obdParseConfig_setting hfileMem hfile (fun _ => scanStr_value hfile) _ _).trans ?_
  refine (obdParseConfig_setting hoptMem hopt.1 hopt.2 _ _).trans ?_
  refine (obdParseConfig_setting hrateMem hrate.1 hrate.2 _ _).trans ?_
  refine (obdParseConfig_setting hbaudMem hbaud.1 hbaud.2 _ _).trans ?_
  refine (obdParseConfig_setting hupMem hup.1 hup.2 _ _).trans ?_
  simp only [Setting.optimisations, Setting.samplerate, Setting.baudrate, Setting.baudrateUpgrade,
    Int32.ofInt_toInt, Int64.ofInt_toInt]
  rfl

/-- A configuration whose strings look like comments and like other keys. -/
theorem parseConfig_writeConfig_oddStrings :
    let c : OBDGPSConfig :=
      { obdDevice := "#obddevice=x".toList, gpsDevice := "baudrate=7".toList, samplerate := -1,
        optimisations := 0, logColumns := "log_file=,=".toList, baudrate := 38400,
        baudrateUpgrade := -9223372036854775808, logFile := "=".toList }
    obdParseConfig { c with samplerate := 3, logFile := [] } (obdWriteConfig c) = c := by
  intro c
  have hword : ∀ {value : List Char}, value.all (fun c => !isspace c) = true →
      ∀ c ∈ value, isspace c = false := by
    intro value h c hc
    simpa using List.all_eq_true.mp h c hc
  apply parseConfig_writeConfig
  · exact ⟨by decide, hword rfl, by decide, by decide⟩
  · exact ⟨by decide, hword rfl, by decide, by decide⟩
  · exact ⟨by decide, hword rfl, by decide, by decide⟩
  · exact ⟨by decide, hword rfl, by decide, by decide⟩

end ObdGpsLogger.Conf
