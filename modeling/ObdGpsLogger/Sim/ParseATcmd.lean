import ObdGpsLogger.CLib.ScanInt
import ObdGpsLogger.Sim.MainLoop

/-!
# AT commands

`parse_ATcmd` of `src/sim/mainloop.cc` is a chain of `else if`s. Each of them
is a branch here (`AtBranch`): it takes the command if its test holds, and then
says what becomes of the settings and what the response is. The first branch
that takes a command answers it.

Mirroring notes:
- What `RV` prints is the sum of two `float`s, one of them random. `Reading`
  stands for both: from the voltage that is set, the sign and the tenths that
  `%.1f` shows. The voltage itself is kept as the fraction it was set to.
- `%i` stores a `long` in an `int` (`toInt`). Four times an `unsigned int`
  stored in an `int` is `toInt32`.
- A `NULL` string prints as `(null)`.
- Waiting and the messages on the console are left out.

What the chain does to two settings at once is stated for one branch and carried
to the whole chain (`Relates`, `parseATcmd_relates`); a statement about a single
answer is the case in which both settings are the same.
-/

namespace ObdGpsLogger.Sim

open CLib

/-- `ELM_TIMEOUT`, the timeout of a new simulator in milliseconds. -/
def elmTimeout : Int := 200

/-- What `RV` shows for a voltage: whether there is a minus sign, and tenths. -/
abbrev Reading := Rat → Bool × Nat

/-- `snprintf(response, n, "%.1f", …)`. -/
def fmtReading (r : Bool × Nat) : List Char :=
  (if r.1 then ['-'] else []) ++ Nat.toDigits 10 (r.2 / 10) ++ '.' :: Nat.toDigits 10 (r.2 % 10)

/-- One `else if`: from the settings, the port's echo setting and `at_cmd`. -/
abbrev AtBranch := SimSettings → Bool → List Char → Option AtResult

/-- The outcome where `command_recognised` stays 0. -/
def unrecognised (ss : SimSettings) (mEcho : Bool) : AtResult :=
  { ss := ss, mEcho := mEcho, response := none }

/-- `snprintf(response, n, "%s", text)`. -/
def respond (ss : SimSettings) (mEcho : Bool) (text : List Char) : AtResult :=
  { ss := ss, mEcho := mEcho, response := some (snprintf responseSize text) }

/-- The branch `"AT%i"`, which sets the adaptive timing to 0, 1 or 2. -/
def atAdaptive : AtBranch := fun ss mEcho atCmd =>
  (scanAfter "AT".toList (scanInt none) atCmd).map fun i =>
    if 0 ≤ toInt i ∧ toInt i ≤ 2 then
      respond { ss with eAdaptive := toInt i } mEcho elmOkPrompt
    else unrecognised ss mEcho

/-- A letter and `%i`: one setting takes any value. -/
def atFlag (letter : List Char) (set : SimSettings → Int → SimSettings) : AtBranch :=
  fun ss mEcho atCmd =>
    (scanAfter letter (scanInt none) atCmd).map fun i =>
      respond (set ss (toInt i)) mEcho elmOkPrompt

/-- The branch `"L%i"`: whether lines end with a linefeed. -/
def atLinefeed : AtBranch := atFlag "L".toList fun ss i => { ss with eLinefeed := i }

/-- The branch `"H%i"`: whether replies have headers. -/
def atHeaders : AtBranch := atFlag "H".toList fun ss i => { ss with eHeaders := i }

/-- `SP` and `TP`: set the protocol, or try it. -/
def atProtocol : AtBranch := fun ss mEcho atCmd =>
  if (atCmd.head? = some 'S' ∨ atCmd.head? = some 'T') ∧ atCmd[1]? = some 'P' then
    let r := setObdprotocol (atCmd.drop 2) ss
    some (if r.1 = 0 then respond r.2 mEcho elmOkPrompt else unrecognised r.2 mEcho)
  else none

/-- The branch `"S%i"`: whether spaces stand between the bytes. -/
def atSpaces : AtBranch := atFlag "S".toList fun ss i => { ss with eSpaces := i }

/-- `"E%i"`: echo, which the port has to know about. -/
def atEcho : AtBranch := fun ss _ atCmd =>
  (scanAfter "E".toList (scanInt none) atCmd).map fun i =>
    respond { ss with eEcho := toInt i } (toInt i ≠ 0) elmOkPrompt

/-- `"ST%02X"`: the timeout, in units of four milliseconds. -/
def atTimeout : AtBranch := fun ss mEcho atCmd =>
  (scanAfter "ST".toList (scanHexItem (some 2)) atCmd).map fun ui =>
    respond { ss with eTimeout := if ui = 0 then elmTimeout else toInt32 (4 * ui % 2 ^ 32) } mEcho
      elmOkPrompt

/-- `"@%x"`: the device and its identifier. -/
def atDevice : AtBranch := fun ss mEcho atCmd =>
  (scanAfter "@".toList (scanHexItem none) atCmd).map fun ui =>
    if ui = 1 then respond ss mEcho ss.elmDevice
    else if ui = 2 then respond ss mEcho (ss.deviceIdentifier.getD "(null)".toList)
    else if ui = 3 then
      respond { ss with deviceIdentifier := some ((atCmd.drop 2).dropWhile (· == ' ')) } mEcho
        elmOkPrompt
    else unrecognised ss mEcho

/-- The branch `"CV%4i"`, which sets the voltage in hundredths of a volt. -/
def atCalibrate : AtBranch := fun ss mEcho atCmd =>
  (scanAfter "CV".toList (scanInt (some 4)) atCmd).map fun i =>
    respond { ss with eCurrentvoltage := (toInt i : Rat) / 100 } mEcho elmOkPrompt

/-- The branch `RV`, which answers with the voltage. -/
def atVoltage (reading : Reading) : AtBranch := fun ss mEcho atCmd =>
  if "RV".toList.isPrefixOf atCmd then
    some (respond ss mEcho (fmtReading (reading ss.eCurrentvoltage)))
  else none

/-- The branch `DPN`, which answers with the number of the protocol. -/
def atProtocolNum : AtBranch := fun ss mEcho atCmd =>
  if "DPN".toList.isPrefixOf atCmd then
    some (respond ss mEcho
      ((if ss.eAutoprotocol ≠ 0 then ['A'] else []) ++ [ss.eProtocol.protocolNum]))
  else none

/-- The branch `DP`, which answers with the name of the protocol. -/
def atProtocolDesc : AtBranch := fun ss mEcho atCmd =>
  if "DP".toList.isPrefixOf atCmd then
    some (respond ss mEcho
      ((if ss.eAutoprotocol ≠ 0 then "Auto, ".toList else []) ++
        ss.eProtocol.protocolDesc.toList))
  else none

/-- The branch `"D%i"`: whether the DLC is displayed. -/
def atDlc : AtBranch := atFlag "D".toList fun ss i => { ss with eDlc := i }

/-- The branch `I`, which answers with the version of the device. -/
def atVersion : AtBranch := fun ss mEcho atCmd =>
  if atCmd.head? = some 'I' then some (respond ss mEcho ss.elmVersion) else none

/-- `Z`, `WS` and `D`: reset, warm start, and the defaults. -/
def atReset : AtBranch := fun ss _ atCmd =>
  if atCmd.head? = some 'Z' ∨ "WS".toList.isPrefixOf atCmd ∨ atCmd.head? = some 'D' then
    let text :=
      if atCmd.head? = some 'Z' then ss.elmVersion
      else if atCmd.head? = some 'D' then elmOkPrompt
      else ss.elmVersion
    let ss := obdsimElmreset ss
    some (respond ss (ss.eEcho ≠ 0) text)
  else none

/-- The chain of `sscanf` and `strncmp` tests, in its order. -/
def atBranches (reading : Reading) : List AtBranch :=
  [atAdaptive, atLinefeed, atHeaders, atProtocol, atSpaces, atEcho, atTimeout, atDevice,
    atCalibrate, atVoltage reading, atProtocolNum, atProtocolDesc, atDlc, atVersion, atReset]

/-- `parse_ATcmd`: the first branch that recognises the command decides. -/
def parseATcmd (reading : Reading) (ss : SimSettings) (mEcho : Bool) (line : List Char) :
    AtResult :=
  let atCmd := (line.drop 2).dropWhile (· == ' ')
  ((atBranches reading).findSome? fun branch => branch ss mEcho atCmd).getD
    (unrecognised ss mEcho)

/-- A command is answered by a branch that takes it, or not at all. -/
theorem parseATcmd_branch (reading : Reading) (ss : SimSettings) (mEcho : Bool)
    (line : List Char) :
    (∃ branch ∈ atBranches reading,
        branch ss mEcho ((line.drop 2).dropWhile (· == ' ')) =
          some (parseATcmd reading ss mEcho line)) ∨
      parseATcmd reading ss mEcho line = unrecognised ss mEcho := by
  unfold parseATcmd
  dsimp only
  cases h : (atBranches reading).findSome? fun branch =>
      branch ss mEcho ((line.drop 2).dropWhile (· == ' ')) with
  | none => exact Or.inr rfl
  | some r =>
    obtain ⟨branch, hmem, hr⟩ := List.exists_of_findSome?_eq_some h
    exact Or.inl ⟨branch, hmem, hr⟩

/-! ## What the answers have in common -/

/-- A branch relates settings that are related by `P` to results that are
related by `Q`: it takes the same commands with both of them, and `Q` may also
look at the first settings. -/
def Relates (P : SimSettings → SimSettings → List Char → Prop)
    (Q : SimSettings → AtResult → AtResult → Prop) (branch : AtBranch) : Prop :=
  ∀ ss ss' mEcho atCmd, P ss ss' atCmd →
    Option.Rel (Q ss) (branch ss mEcho atCmd) (branch ss' mEcho atCmd)

section Relates

variable {P : SimSettings → SimSettings → List Char → Prop}
  {Q : SimSettings → AtResult → AtResult → Prop}

/-- A branch that scans for a value and then acts on it: it is enough to relate
the actions, since the settings have no part in the scan. -/
theorem relates_scan {α : Type} {scan : List Char → Option α}
    {answer : SimSettings → Bool → List Char → α → AtResult}
    (h : ∀ ss ss' mEcho atCmd v, P ss ss' atCmd →
      Q ss (answer ss mEcho atCmd v) (answer ss' mEcho atCmd v)) :
    Relates P Q fun ss mEcho atCmd => (scan atCmd).map (answer ss mEcho atCmd) := by
  intro ss ss' mEcho atCmd hP
  dsimp only
  cases scan atCmd with
  | none => exact Option.Rel.none
  | some v => exact Option.Rel.some (h ss ss' mEcho atCmd v hP)

/-- A branch that looks for a letter or a word in the command and then acts. -/
theorem relates_test {test : List Char → Prop} [DecidablePred test]
    {answer : SimSettings → Bool → List Char → AtResult}
    (h : ∀ ss ss' mEcho atCmd, P ss ss' atCmd →
      Q ss (answer ss mEcho atCmd) (answer ss' mEcho atCmd)) :
    Relates P Q fun ss mEcho atCmd =>
      if test atCmd then some (answer ss mEcho atCmd) else none := by
  intro ss ss' mEcho atCmd hP
  dsimp only
  split
  · exact Option.Rel.some (h ss ss' mEcho atCmd hP)
  · exact Option.Rel.none

/-- What a branch does to two equal settings: its one answer satisfies `Q` with
itself. -/
theorem Relates.self {branch : AtBranch} (h : Relates P Q branch) {ss : SimSettings}
    {mEcho : Bool} {atCmd : List Char} (hP : P ss ss atCmd) {r : AtResult}
    (hr : branch ss mEcho atCmd = some r) : Q ss r r := by
  have hrel := h ss ss mEcho atCmd hP
  rw [hr] at hrel
  cases hrel with
  | some hQ => exact hQ

/-- The chain relates what each of its branches relates, if it also does where
none of them takes the command. -/
theorem parseATcmd_relates {reading : Reading}
    (h : ∀ branch ∈ atBranches reading, Relates P Q branch)
    {ss ss' : SimSettings} {mEcho : Bool} {line : List Char}
    (hP : P ss ss' ((line.drop 2).dropWhile (· == ' ')))
    (hnone : Q ss (unrecognised ss mEcho) (unrecognised ss' mEcho)) :
    Q ss (parseATcmd reading ss mEcho line) (parseATcmd reading ss' mEcho line) := by
  unfold parseATcmd
  dsimp only
  generalize (line.drop 2).dropWhile (· == ' ') = atCmd at hP ⊢
  generalize atBranches reading = branches at h ⊢
  -- down the chain: the first branch that takes the command does so with both settings
  induction branches with
  | nil => exact hnone
  | cons branch branches ih =>
    have hrel := h branch (List.mem_cons_self ..) ss ss' mEcho atCmd hP
    have htail := ih fun q hq => h q (List.mem_cons_of_mem _ hq)
    rw [List.findSome?_cons, List.findSome?_cons]
    generalize branch ss mEcho atCmd = r, branch ss' mEcho atCmd = r' at hrel ⊢
    cases hrel with
    | some hQ => exact hQ
    | none => exact htail

end Relates

end ObdGpsLogger.Sim
