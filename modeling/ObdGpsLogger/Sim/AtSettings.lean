import ObdGpsLogger.Sim.EcuTimeout
import ObdGpsLogger.Sim.OnePrompt

/-!
# The settings that AT commands leave

The main loop divides by `e_adaptive + 1`, waits for what is left of
`e_timeout`, and skips an ECU that is later than that, so these settings have to
stay `Meaningful`. A command can do three things to them
(`parseATcmd_settings`): leave one as it is, set it to a value in range
(`Adjusted`), or set the timeout to four times what `"ST%02X"` has read.

The last is where it goes wrong. `%X` takes a sign, and `ST-4` makes an
`unsigned int` of it; four times that, back in an `int`, is a timeout of
`-16` ms. `run_meaningful_iff` says that this is the only way: a run keeps its
settings meaningful exactly if none of its lines is such a command
(`timeoutNegative`).
-/

namespace ObdGpsLogger.Sim

open CLib Obdinfo

/-! ## Waiting -/

/-- The wait of a reset, in microseconds. -/
def SimSettings.resetWait (ss : SimSettings) : Int :=
  (1000 * ss.eTimeout * 10).tdiv (ss.eAdaptive + 1)

/-- How long a warm start waits, in microseconds. -/
def SimSettings.warmStartWait (ss : SimSettings) : Int :=
  (1000 * ss.eTimeout * 5).tdiv (ss.eAdaptive + 1)

/-- The wait for ECUs that do not reply. -/
def SimSettings.timeoutWait (ss : SimSettings) (h : Handled) : Int :=
  1000 * (ss.eTimeout - h.accumulatedTime)

/-- A timeout, an adaptive timing and a protocol that mean something. -/
structure Meaningful (ss : SimSettings) : Prop where
  timeout : 0 < ss.eTimeout ∧ ss.eTimeout ≤ 4 * 255
  adaptive : ss.eAdaptive = 0 ∨ ss.eAdaptive = 1 ∨ ss.eAdaptive = 2
  protocol : ss.eProtocol ∈ obdprotocols

/-- What follows for the main loop: no division by zero, no negative wait, and
an ECU without a delay is asked, unless the simulator exits before. -/
structure Usable (ss : SimSettings) : Prop where
  divisor : ss.eAdaptive + 1 ≠ 0
  resetWait : 0 ≤ ss.resetWait
  warmStartWait : 0 ≤ ss.warmStartWait
  timeoutWait : ∀ (gens : Nat → Simgen) (line : List Char), 0 ≤ ss.timeoutWait (handle ss gens line)
  asked : ∀ (gens : Nat → Simgen) (line : List Char) (pid : Nat) (rest : List Nat),
    (sscanf requestFormat line).vals = 0x01 :: pid :: rest → (obdGetCmdForPID pid).isSome →
    ∀ i < ss.ecuCount, ss.customdelay i = 0 →
      i ∈ (handle ss gens line).queried ∨ (handle ss gens line).mustexit = true

/-! ## One command -/

/-- Each setting is the old one, or one in range. -/
structure Adjusted (ss ss' : SimSettings) : Prop where
  ecus : ss'.ecus = ss.ecus
  ecudelays : ss'.ecudelays = ss.ecudelays
  timeout : ss'.eTimeout = ss.eTimeout ∨ ss'.eTimeout = elmTimeout
  adaptive : ss'.eAdaptive = ss.eAdaptive ∨ 0 ≤ ss'.eAdaptive ∧ ss'.eAdaptive ≤ 2
  protocol : ss'.eProtocol = ss.eProtocol ∨ ss'.eProtocol ∈ obdprotocols

theorem adjusted_refl (ss : SimSettings) : Adjusted ss ss :=
  ⟨rfl, rfl, Or.inl rfl, Or.inl rfl, Or.inl rfl⟩

/-- A branch that adjusts the settings it finds, whatever the command. -/
def Adjusts (branch : AtBranch) : Prop :=
  Relates (fun ss ss' _ => ss = ss') (fun ss r _ => Adjusted ss r.ss) branch

theorem adjusts_atAdaptive : Adjusts atAdaptive := by
  apply relates_scan
  intro ss ss' mEcho atCmd v hsame
  subst hsame
  split
  · next h => exact ⟨rfl, rfl, Or.inl rfl, Or.inr h, Or.inl rfl⟩
  · exact adjusted_refl ss

/-- `set_obdprotocol` takes a protocol from the table. -/
theorem setObdprotocol_adjusted (prot : List Char) (ss : SimSettings) :
    Adjusted ss (setObdprotocol prot ss).2 := by
  unfold setObdprotocol
  dsimp only
  split
  · exact adjusted_refl ss
  · split
    · exact adjusted_refl ss
    · next proto hproto =>
      exact ⟨rfl, rfl, Or.inl rfl, Or.inl rfl, Or.inr (List.mem_of_find?_eq_some hproto)⟩

theorem adjusts_atProtocol : Adjusts atProtocol := by
  apply relates_test
  intro ss ss' mEcho atCmd hsame
  subst hsame
  split
  · exact setObdprotocol_adjusted (atCmd.drop 2) ss
  · exact setObdprotocol_adjusted (atCmd.drop 2) ss

theorem adjusts_atDevice : Adjusts atDevice := by
  apply relates_scan
  intro ss ss' mEcho atCmd v hsame
  subst hsame
  split
  · exact adjusted_refl ss
  · split
    · exact adjusted_refl ss
    · split
      · exact ⟨rfl, rfl, Or.inl rfl, Or.inl rfl, Or.inl rfl⟩
      · exact adjusted_refl ss

theorem adjusts_atReset : Adjusts atReset := by
  have hone : (0 : Int) ≤ 1 ∧ (1 : Int) ≤ 2 := by decide
  apply relates_test
  intro ss ss' mEcho atCmd hsame
  subst hsame
  exact ⟨rfl, rfl, Or.inr rfl, Or.inr hone, Or.inl rfl⟩

/-- **Every branch but one** adjusts the settings; the one left sets the timeout
to what it has read. -/
theorem adjusts_atBranches (reading : Reading) :
    ∀ branch ∈ atBranches reading, branch = atTimeout ∨ Adjusts branch := by
  simp only [atBranches, List.forall_mem_cons]
  refine ⟨Or.inr adjusts_atAdaptive, ?linefeed, ?headers, Or.inr adjusts_atProtocol, ?spaces,
    ?echo, Or.inl trivial, Or.inr adjusts_atDevice, ?calibrate, ?voltage, ?num, ?desc, ?dlc,
    ?version, Or.inr adjusts_atReset, fun _ h => absurd h List.not_mem_nil⟩
  case voltage | num | desc | version =>
    right
    apply relates_test
    intro ss ss' mEcho atCmd hsame
    subst hsame
    exact adjusted_refl ss
  all_goals
    right
    apply relates_scan
    intro ss ss' mEcho atCmd v hsame
    subst hsame
    exact ⟨rfl, rfl, Or.inl rfl, Or.inl rfl, Or.inl rfl⟩

/-- The command in an AT line: what is left behind `AT` and the blanks. -/
def atCommand (line : List Char) : List Char := (line.drop 2).dropWhile (· == ' ')

/-- `"ST%02X"` reads a timeout other than 0. -/
structure SetsTimeout (line : List Char) (ui : Nat) : Prop where
  literal : "ST".toList.isPrefixOf (atCommand line) = true
  scanned : ∃ rest, scanHex (some 2) ((atCommand line).drop 2) = .item ui rest
  nonzero : ui ≠ 0

/-- **What a command does to the settings**: it adjusts them, or sets the
timeout to four times a number it has read, as an `int`. -/
theorem parseATcmd_settings (reading : Reading) (ss : SimSettings) (mEcho : Bool)
    (line : List Char) :
    Adjusted ss (parseATcmd reading ss mEcho line).ss ∨
      ∃ ui, SetsTimeout line ui ∧ (parseATcmd reading ss mEcho line).ss =
        { ss with eTimeout := toInt32 (4 * ui % 2 ^ 32) } := by
  rcases parseATcmd_branch reading ss mEcho line with ⟨branch, hmem, hr⟩ | hr
  · rcases adjusts_atBranches reading branch hmem with rfl | hadj
    · -- the timeout is set
      obtain ⟨ui, hscan, hui⟩ := Option.map_eq_some_iff.mp hr
      rw [← hui]
      by_cases h0 : ui = 0
      · left
        rw [if_pos h0]
        exact ⟨rfl, rfl, Or.inr rfl, Or.inl rfl, Or.inl rfl⟩
      · right
        -- the number behind `ST` was read by `%02X`
        unfold scanAfter at hscan
        split at hscan
        · next hlit =>
          obtain ⟨⟨ui', rest⟩, hitem, rfl⟩ := Option.map_eq_some_iff.mp hscan
          refine ⟨ui', ⟨hlit, ⟨rest, ?_⟩, h0⟩, by rw [if_neg h0]; rfl⟩
          unfold scanHexItem at hitem
          split at hitem
          · next v s hv =>
            obtain ⟨rfl, rfl⟩ := Prod.mk.inj (Option.some.inj hitem)
            exact hv
          · cases hitem
        · cases hscan
    · -- every other branch adjusts
      exact Or.inl (hadj.self rfl hr)
  · rw [hr]
    exact Or.inl (adjusted_refl ss)

/-- A line that sets a negative timeout: `ST`, a minus sign and a digit. -/
def timeoutNegative (line : List Char) : Bool :=
  "ST".toList.isPrefixOf (atCommand line) && minusDigit ((atCommand line).drop 2)

/-- A command that starts with `ST` is for that branch, if the number is one. -/
theorem parseATcmd_timeout (reading : Reading) (ss : SimSettings) (mEcho : Bool)
    {line : List Char} {ui : Nat} (h : SetsTimeout line ui) :
    (parseATcmd reading ss mEcho line).ss =
      { ss with eTimeout := toInt32 (4 * ui % 2 ^ 32) } := by
  obtain ⟨hlit, ⟨rest, hscan⟩, h0⟩ := h
  obtain ⟨arg, hcmd⟩ : ∃ arg, atCommand line = 'S' :: 'T' :: arg := by
    obtain ⟨arg, harg⟩ := List.isPrefixOf_iff_prefix.mp hlit
    exact ⟨arg, harg.symm⟩
  rw [hcmd] at hscan
  have hspaces : scanInt none ('T' :: arg) = none := by
    simp [scanInt, scanIntSigned, scanGuessed, scanInBase, scanRadix, digitVal, hexVal, isspace]
  have htaken : atTimeout ss mEcho ('S' :: 'T' :: arg) =
      some (respond { ss with eTimeout := toInt32 (4 * ui % 2 ^ 32) } mEcho elmOkPrompt) := by
    have hitem : scanHexItem (some 2) arg = some (ui, rest) := by
      unfold scanHexItem
      rw [show arg = ('S' :: 'T' :: arg).drop 2 from rfl, hscan]
    simp [atTimeout, scanAfter, hitem, h0]
  -- the branches before it take other letters, or a number
  have hbefore : ∀ branch ∈ [atAdaptive, atLinefeed, atHeaders, atProtocol, atSpaces, atEcho],
      branch ss mEcho ('S' :: 'T' :: arg) = none := by
    simp only [List.forall_mem_cons]
    refine ⟨?_, ?_, ?_, ?_, ?_, ?_, fun _ h => absurd h List.not_mem_nil⟩
    · simp [atAdaptive, scanAfter]
    · simp [atLinefeed, atFlag, scanAfter]
    · simp [atHeaders, atFlag, scanAfter]
    · simp [atProtocol]
    · simp [atSpaces, atFlag, scanAfter, hspaces]
    · simp [atEcho, scanAfter]
  have hfind : (atBranches reading).findSome? (fun branch => branch ss mEcho (atCommand line)) =
      some (respond { ss with eTimeout := toInt32 (4 * ui % 2 ^ 32) } mEcho elmOkPrompt) := by
    rw [hcmd]
    show ([atAdaptive, atLinefeed, atHeaders, atProtocol, atSpaces, atEcho] ++
      atTimeout :: _).findSome? _ = _
    rw [List.findSome?_append, List.findSome?_eq_none_iff.mpr hbefore, Option.none_or,
      List.findSome?_cons, htaken]
  unfold parseATcmd
  dsimp only
  rw [show (line.drop 2).dropWhile (· == ' ') = atCommand line from rfl, hfind]
  rfl

/-- **Four times what is read**, as an `int`: in range, or negative. -/
theorem timeout_range {line : List Char} {ui : Nat} (h : SetsTimeout line ui) :
    if timeoutNegative line then toInt32 (4 * ui % 2 ^ 32) < 0
    else 0 < toInt32 (4 * ui % 2 ^ 32) ∧ toInt32 (4 * ui % 2 ^ 32) ≤ 4 * 255 := by
  obtain ⟨hlit, ⟨rest, hscan⟩, h0⟩ := h
  have htwo := scanHex_two hscan
  unfold timeoutNegative
  rw [hlit, Bool.true_and]
  split
  · next hneg =>
    rw [if_pos hneg] at htwo
    unfold toInt32
    rw [if_neg (by omega)]
    omega
  · next hpos =>
    rw [if_neg hpos] at htwo
    unfold toInt32
    rw [if_pos (by omega)]
    omega

/-- **One line.** Meaningful settings stay so unless the line sets a negative
timeout, and then they do not. -/
theorem parseATcmd_meaningful (reading : Reading) {ss : SimSettings} (hss : Meaningful ss)
    (mEcho : Bool) (line : List Char) :
    if timeoutNegative line then (parseATcmd reading ss mEcho line).ss.eTimeout < 0
    else Meaningful (parseATcmd reading ss mEcho line).ss := by
  split
  · next hneg =>
    obtain ⟨hlit, hminus⟩ := (Bool.and_eq_true _ _).mp hneg
    obtain ⟨ui, rest, hscan⟩ := scanHex_minusDigit hminus
    have htwo := scanHex_two hscan
    rw [if_pos hminus] at htwo
    -- a minus sign and a digit are read as a number from the top of the range
    have hset : SetsTimeout line ui := ⟨hlit, ⟨rest, hscan⟩, by omega⟩
    have hrange := timeout_range hset
    rw [if_pos hneg] at hrange
    rw [parseATcmd_timeout reading ss mEcho hset]
    exact hrange
  · next hpos =>
    -- any other command leaves each setting as it was, or in range
    rcases parseATcmd_settings reading ss mEcho line with hadj | ⟨ui, hset, hr⟩
    · refine ⟨?_, ?_, ?_⟩
      · rcases hadj.timeout with h | h
        · rw [h]
          exact hss.timeout
        · rw [h]
          decide
      · rcases hadj.adaptive with h | h
        · rw [h]
          exact hss.adaptive
        · omega
      · rcases hadj.protocol with h | h
        · rw [h]
          exact hss.protocol
        · exact h
    · have hrange := timeout_range hset
      rw [if_neg hpos] at hrange
      rw [hr]
      exact ⟨hrange, hss.adaptive, hss.protocol⟩

/-- No command changes the ECUs, or the order in which they are asked, whatever
its text. -/
theorem parseATcmd_ecus (reading : Reading) (ss : SimSettings) (mEcho : Bool)
    (line : List Char) :
    (parseATcmd reading ss mEcho line).ss.ecus = ss.ecus ∧
      (parseATcmd reading ss mEcho line).ss.ecudelays = ss.ecudelays := by
  rcases parseATcmd_settings reading ss mEcho line with hadj | ⟨ui, -, hr⟩
  · exact ⟨hadj.ecus, hadj.ecudelays⟩
  · rw [hr]
    exact ⟨rfl, rfl⟩

/-! ## What meaningful settings are good for -/

/-- The time that is accumulated stays within the timeout. -/
theorem ecuLoop_accumulated_le (ss : SimSettings) (gens : Nat → Simgen) (mode pid : Nat) :
    ∀ (acc : Int) (ds : List ObdgenEcudelay), acc ≤ ss.eTimeout →
      (ecuLoop ss gens mode pid acc ds).accumulatedTime ≤ ss.eTimeout
  | acc, [], h => h
  | acc, d :: ds, h => by
    rw [ecuLoop]
    split
    · exact ecuLoop_accumulated_le ss gens mode pid acc ds h
    · next hle =>
      dsimp only
      split
      · exact Int.not_lt.mp hle
      · exact ecuLoop_accumulated_le ss gens mode pid _ ds (Int.not_lt.mp hle)

theorem handle_accumulated_le {ss : SimSettings} (h : 0 < ss.eTimeout) (gens : Nat → Simgen)
    (line : List Char) : (handle ss gens line).accumulatedTime ≤ ss.eTimeout := by
  have hnone : (0 : Int) ≤ ss.eTimeout := Int.le_of_lt h
  have h1 : ∀ mode, (request1 ss gens mode).accumulatedTime ≤ ss.eTimeout := by
    intro mode
    unfold request1
    split
    · exact hnone
    · split
      · exact hnone
      · exact hnone
  have h2 : ∀ mode pid frame, (request2 ss gens mode pid frame).accumulatedTime ≤ ss.eTimeout := by
    intro mode pid frame
    unfold request2
    split
    · exact hnone
    · split
      · exact hnone
      · split
        · exact hnone
        · exact ecuLoop_accumulated_le ss gens mode pid 0 ss.ecudelays hnone
  unfold handle
  split
  · exact hnone
  · exact h1 _
  · exact h2 _ _ _
  · exact h2 _ _ _

/-- Of the ECUs up to the first late one, each is asked, or the simulator exits. -/
theorem ecuLoop_asks {ss : SimSettings} {gens : Nat → Simgen} {mode pid : Nat} :
    ∀ (ws : List ObdgenEcudelay) (acc : Int) (ds : List ObdgenEcudelay),
      (∀ d ∈ ws, d.delay ≤ ss.eTimeout) → ∀ d ∈ ws,
        d.ecu ∈ (ecuLoop ss gens mode pid acc (deltas acc (ws ++ ds))).queried ∨
          (ecuLoop ss gens mode pid acc (deltas acc (ws ++ ds))).mustexit = true
  | w :: ws, acc, ds, h, d, hd => by
    have hsum : acc + (w.delay - acc) = w.delay := by omega
    have hw := h w (List.mem_cons_self ..)
    rw [List.cons_append, deltas, ecuLoop]
    dsimp only
    rw [hsum, if_neg (Int.not_lt.mpr hw)]
    by_cases hexit : ((gens w.ecu).getvalue mode pid).count = -1
    · rw [if_pos hexit]
      exact Or.inr rfl
    · rw [if_neg hexit]
      rcases List.mem_cons.mp hd with rfl | hd
      · exact Or.inl (List.mem_cons_self ..)
      · exact (ecuLoop_asks ws w.delay ds (fun d hd => h d (List.mem_cons_of_mem _ hd)) d hd).imp
          (List.mem_cons_of_mem _) id

/-- The array of delays is what `ecudelay_order` made of these ECUs. -/
def Ordered (ss : SimSettings) : Prop :=
  ss.ecudelays = ecudelayOrder (ss.ecus.map ObdgenEcu.customdelay)

/-- **Meaningful settings are usable**: the divisions, the waits and the timeout
of the main loop are as they should be. -/
theorem Meaningful.usable {ss : SimSettings} (hss : Meaningful ss) (hord : Ordered ss) :
    Usable ss := by
  obtain ⟨⟨hlow, -⟩, hadaptive, -⟩ := hss
  refine ⟨by omega, ?_, ?_, fun gens line => ?_, fun gens line pid rest hvals hpid i hi hdelay => ?_⟩
  · exact Int.tdiv_nonneg (by omega) (by omega)
  · exact Int.tdiv_nonneg (by omega) (by omega)
  · have hle := handle_accumulated_le hlow gens line
    unfold SimSettings.timeoutWait
    omega
  · have hmem : (⟨i, 0⟩ : ObdgenEcudelay) ∈ ss.inTime :=
      mem_inTime.mpr ⟨⟨hi, hdelay⟩, Int.le_of_lt hlow⟩
    rw [handle_mode1 hvals hpid, hord, ecudelayOrder_eq]
    exact ecuLoop_asks ss.inTime 0 ss.late (fun d hd => (mem_inTime.mp hd).2) _ hmem

/-! ## A run -/

/-- A line, and what the voltage would read while it is answered. -/
abbrev AtLine := List Char × Reading

/-- The settings and the port's echo after a line. -/
def atStep (s : SimSettings × Bool) (l : AtLine) : SimSettings × Bool :=
  ((parseATcmd l.2 s.1 s.2 l.1).ss, (parseATcmd l.2 s.1 s.2 l.1).mEcho)

/-- The settings before the first line, and after each. -/
def atStates : SimSettings × Bool → List AtLine → List SimSettings
  | s, [] => [s.1]
  | s, l :: ls => s.1 :: atStates (atStep s l) ls

/-- **A run** from meaningful settings stays among such, or a line of it sets a
negative timeout. -/
theorem atStates_meaningful_iff : ∀ (ls : List AtLine) {s : SimSettings × Bool},
    Meaningful s.1 → Ordered s.1 →
    ((∀ ss ∈ atStates s ls, Meaningful ss ∧ Usable ss) ↔
      ∀ l ∈ ls, timeoutNegative l.1 = false)
  | [], s, hs, hord => by
    refine iff_of_true ?_ nofun
    intro ss hss
    obtain rfl := List.mem_singleton.mp hss
    exact ⟨hs, hs.usable hord⟩
  | l :: ls, s, hs, hord => by
    have hstep := parseATcmd_meaningful l.2 hs s.2 l.1
    have hecus := parseATcmd_ecus l.2 s.1 s.2 l.1
    have hord' : Ordered (atStep s l).1 := by
      unfold Ordered
      rw [show (atStep s l).1.ecudelays = s.1.ecudelays from hecus.2,
        show (atStep s l).1.ecus = s.1.ecus from hecus.1]
      exact hord
    have hhead : (atStates (atStep s l) ls).head? = some (atStep s l).1 := by
      cases ls <;> rfl
    rw [atStates, List.forall_mem_cons, List.forall_mem_cons]
    by_cases hneg : timeoutNegative l.1 = true
    · -- the state behind the line is not meaningful
      rw [if_pos hneg] at hstep
      refine iff_of_false ?_ ?_
      · intro h
        have := (h.2 _ (List.mem_of_mem_head? hhead)).1.timeout.1
        exact absurd hstep (Int.not_lt.mpr (Int.le_of_lt this))
      · intro h
        rw [h.1] at hneg
        cases hneg
    · -- the line keeps the settings meaningful, so the rest decides
      rw [if_neg hneg] at hstep
      have ih := atStates_meaningful_iff ls (s := atStep s l) hstep hord'
      rw [ih]
      have hfalse : timeoutNegative l.1 = false := by simpa using hneg
      exact ⟨fun h => ⟨hfalse, h.2⟩, fun h => ⟨⟨hs, hs.usable hord⟩, h.2⟩⟩

theorem startSettings_meaningful (customdelays : List Int)
    (h : customdelays.length ≤ obdsimMaxecus) :
    Meaningful (startSettings customdelays h) ∧ Ordered (startSettings customdelays h) := by
  have htimeout : (0 : Int) < 200 ∧ (200 : Int) ≤ 4 * 255 := by decide
  exact ⟨⟨htimeout, Or.inr (Or.inl rfl), initialise_configured.protocol⟩, rfl⟩

/-- **The settings stay meaningful** in every state that a run of AT commands
from the initial settings reaches, whatever the ECUs' delays, exactly if no line
of it is `ST`, a minus sign and a digit other than 0. -/
theorem run_meaningful_iff (customdelays : List Int) (h : customdelays.length ≤ obdsimMaxecus)
    (mEcho : Bool) (ls : List AtLine) :
    (∀ ss ∈ atStates (startSettings customdelays h, mEcho) ls, Meaningful ss ∧ Usable ss) ↔
      ∀ l ∈ ls, timeoutNegative l.1 = false := by
  obtain ⟨hmeaningful, hordered⟩ := startSettings_meaningful customdelays h
  exact atStates_meaningful_iff ls hmeaningful hordered

/-- A run with the line `ATST-4`, which sets a timeout of -16 ms: the settings
it leaves are not meaningful. -/
theorem atStates_minus : ¬ ∀ (customdelays : List Int) (h : customdelays.length ≤ obdsimMaxecus)
    (mEcho : Bool) (ls : List AtLine),
    ∀ ss ∈ atStates (startSettings customdelays h, mEcho) ls, Meaningful ss ∧ Usable ss := by
  intro h
  have hmem := h [0] (by decide) true [("ATST-4".toList, fun _ => (false, 0))] _
    (List.mem_cons_of_mem _ (List.mem_singleton_self _))
  exact absurd hmem.1.timeout.1 (by decide)

/-- The longest timeout, a protocol, the default timeout and a reset. -/
theorem run_meaningful_positive :
    ([0, 500] : List Int).length ≤ obdsimMaxecus ∧ (atStates
      (startSettings [0, 500] (by decide), true)
      [("ATST FF".toList, fun _ => (false, 0)), ("AT SP A3".toList, fun _ => (false, 0)),
        ("ATST+0".toList, fun _ => (false, 0)), ("ATZ".toList, fun _ => (false, 0))]).Forall
      fun ss => Meaningful ss ∧ Usable ss := by
  have h : ([0, 500] : List Int).length ≤ obdsimMaxecus := by decide
  exact ⟨h, List.forall_iff_forall_mem.mpr
    ((run_meaningful_iff [0, 500] h true _).mpr (by decide))⟩

end ObdGpsLogger.Sim
