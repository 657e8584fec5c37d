import ObdGpsLogger.CLib.Text
import ObdGpsLogger.Obdinfo.ServiceCommands

/-!
# The simulator's settings and its ECUs

The data of `src/sim/obdsim.h` and the generator interface of
`src/sim/datasource.h`.

Mirroring notes:
- A generator is code with a state of its own. What one answers comes with
  each use of it, as a `Simgen`: its answers at that moment. ECUs are known by
  their index in `ss->ecus`, and a function from indices to `Simgen` says what
  all of them answer.
- `getvalue` fills cells through four pointers. `GenValue.abcd` is what the
  cells hold after the call; only as many as `count` says are meant.
- A frozen frame is memory: `ff` gives the contents of every slot the code can
  compute an address for, those outside the array included.
- `seed`, `dg` and the fields the simulator never reads are left out.
-/

namespace ObdGpsLogger.Sim

open CLib

/-- `enum protocol_headertype`. -/
inductive ProtocolHeadertype where
  | null
  | j1850pwm
  | j1850vpw
  | iso14230
  | can29
  | can11
  deriving DecidableEq, Repr

/-- `struct obdiiprotocol`: the number of a protocol, its name and its headers. -/
structure ObdiiProtocol where
  protocolNum : Char
  protocolDesc : String
  headertype : ProtocolHeadertype
  deriving DecidableEq, Repr

/-- `obdprotocols`. -/
def obdprotocols : List ObdiiProtocol := [
  ⟨'0', "Automatic", .null⟩,
  ⟨'1', "SAE J1850 PWM", .j1850pwm⟩,
  ⟨'2', "SAE J1850 VPW", .j1850vpw⟩,
  ⟨'3', "ISO 9141-2", .j1850vpw⟩,
  ⟨'4', "ISO 14230-4 (KWP 5BAUD)", .iso14230⟩,
  ⟨'5', "ISO 14230-4 (KWP FAST)", .iso14230⟩,
  ⟨'6', "ISO 15765-4 (CAN 11/500)", .can11⟩,
  ⟨'7', "ISO 15765-4 (CAN 29/500)", .can29⟩,
  ⟨'8', "ISO 15765-4 (CAN 11/250)", .can11⟩,
  ⟨'9', "ISO 15765-4 (CAN 29/250)", .can29⟩,
  ⟨'A', "SAE J1939 (CAN 29/250)", .can29⟩,
  ⟨'B', "USER1 CAN", .can11⟩,
  ⟨'C', "USER2 CAN", .can11⟩]

/-- `find_obdprotocol`: only the first character counts. -/
def findObdprotocol (protocolNum : List Char) : Option ObdiiProtocol :=
  obdprotocols.find? fun proto => protocolNum.headD nul == proto.protocolNum

/-! ## Generators -/

/-- What a call of `getvalue` returns, and the cells behind its pointers. -/
structure GenValue where
  count : Int
  abcd : Nat → Nat

/-- The bytes of a value that count: as many as the generator says. -/
def GenValue.bytes (v : GenValue) : List Nat := (List.range v.count.toNat).map v.abcd

/-- What a call of `geterrorcodes` returns, and the array it was given. -/
structure GenErrors where
  errorcount : Int
  errorcodes : Nat → Nat

/-- A generator's answers at one moment: by mode and PID, and by the number of
codes there is room for, unless the function pointer is `NULL`. -/
structure Simgen where
  getvalue : Nat → Nat → GenValue
  geterrorcodes : Option (Nat → GenErrors)

/-! ## ECUs -/

/-- `OBDSIM_MAXECUS`, the size of the array of ECUs. -/
def obdsimMaxecus : Nat := 6

/-- `OBDSIM_MAXFREEZEFRAMES`, the frames that an ECU has room for. -/
def obdsimMaxfreezeframes : Int := 5

/-- `struct freezeframe`: for each PID its bytes and how many they are. -/
structure Freezeframe where
  values : Nat → Nat → Nat
  valuecount : Nat → Int

/-- `struct obdgen_ecu`: the state of one ECU of the simulator. -/
structure ObdgenEcu where
  ecuNum : Nat
  lasterrorcount : Int
  ffcount : Int
  ff : Int → Freezeframe
  customdelay : Int

/-- `struct obdgen_ecudelays`: an ECU, by its index, and how long to wait
after the one before it. -/
structure ObdgenEcudelay where
  ecu : Nat
  delay : Int
  deriving DecidableEq, Repr

/-! ## Settings -/

/-- `struct simsettings`. Both arrays are used up to `ecu_count`. -/
structure SimSettings where
  eHeaders : Int
  eSpaces : Int
  eEcho : Int
  eLinefeed : Int
  eTimeout : Int
  eAdaptive : Int
  eDlc : Int
  eAutoprotocol : Int
  eProtocol : ObdiiProtocol
  eCurrentvoltage : Rat
  deviceIdentifier : Option (List Char)
  elmDevice : List Char
  elmVersion : List Char
  ecus : List ObdgenEcu
  ecudelays : List ObdgenEcudelay
  ecuCount_le : ecus.length ≤ obdsimMaxecus
  ecudelays_length : ecudelays.length = ecus.length

/-- `ss->ecu_count`, the number of ECUs. -/
def SimSettings.ecuCount (ss : SimSettings) : Nat := ss.ecus.length

/-- `ss->ecus[i].ecu_num`, the number an ECU has on the bus. -/
def SimSettings.ecuNum (ss : SimSettings) (i : Nat) : Nat :=
  (ss.ecus[i]?.map ObdgenEcu.ecuNum).getD 0

theorem SimSettings.ecudelays_le (ss : SimSettings) : ss.ecudelays.length ≤ obdsimMaxecus :=
  ss.ecudelays_length ▸ ss.ecuCount_le

/-- The settings in which each ECU has been changed, in its place. -/
def SimSettings.mapEcus (ss : SimSettings) (f : Nat → ObdgenEcu → ObdgenEcu) : SimSettings :=
  { ss with
    ecus := ss.ecus.mapIdx f
    ecuCount_le := by simpa using ss.ecuCount_le
    ecudelays_length := by simpa using ss.ecudelays_length }

/-! ## Initial settings -/

/-- `obdsim_initialiseecu`: an ECU before its options are read. -/
def obdsimInitialiseecu : ObdgenEcu :=
  { ecuNum := 0
    lasterrorcount := 0
    ffcount := 0
    ff := fun _ => ⟨fun _ _ => 0, fun _ => 0⟩
    customdelay := 0 }

/-- `obdsim_elmreset`: the settings that `ATZ` brings back. -/
def obdsimElmreset (ss : SimSettings) : SimSettings :=
  { ss with
    eHeaders := 0
    eSpaces := 1
    eEcho := 1
    eLinefeed := 1
    eTimeout := 200
    eAdaptive := 1
    eDlc := 0 }

/-- `set_obdprotocol`: the return value and the settings. The text is that of a
non-null `prot`, up to its NUL. -/
def setObdprotocol (prot : List Char) (ss : SimSettings) : Int × SimSettings :=
  let isAuto := fun c => c == 'A' || c == 'a'
  match prot.dropWhile (· == ' ') with
  | [] => (-1, ss)
  | c :: cs =>
    let p := (if isAuto c then cs else c :: cs).dropWhile (· == ' ')
    match findObdprotocol p with
    | none => (-1, ss)
    | some proto =>
      let behind := p.tail.dropWhile (· == ' ')
      (0, { ss with
        eProtocol := proto
        eAutoprotocol := if isAuto c ∨ isAuto (behind.headD nul) then 1 else 0 })

/-- `OBDSIM_DEFAULT_PROTOCOLNUM`. -/
def obdsimDefaultProtocolnum : List Char := ['8']

/-- The memory `obdsim_initialisesimsettings` is given: nothing in it is read
before it is set. -/
def uninitialised : SimSettings :=
  { eHeaders := 0
    eSpaces := 0
    eEcho := 0
    eLinefeed := 0
    eTimeout := 0
    eAdaptive := 0
    eDlc := 0
    eAutoprotocol := 0
    eProtocol := ⟨nul, "", .null⟩
    eCurrentvoltage := 0
    deviceIdentifier := none
    elmDevice := []
    elmVersion := []
    ecus := []
    ecudelays := []
    ecuCount_le := Nat.zero_le _
    ecudelays_length := rfl }

/-- `obdsim_initialisesimsettings`: the settings before the options are read. -/
def obdsimInitialisesimsettings : SimSettings :=
  obdsimElmreset
    { (setObdprotocol obdsimDefaultProtocolnum { uninitialised with eAutoprotocol := 1 }).2 with
      eCurrentvoltage := 118 / 10
      deviceIdentifier := some "ChunkyKs".toList
      elmDevice := "OBDGPSLogger".toList
      elmVersion := "ELM327 v1.3a OBDGPSLogger".toList
      ecus := []
      ecudelays := []
      ecuCount_le := Nat.zero_le _
      ecudelays_length := rfl }

end ObdGpsLogger.Sim
