import Mathlib.Data.List.Pairwise

/-!
# The table of service commands

`obdcmds_mode1` of `src/obdinfo/obdservicecommands.h`: one row for each PID of
mode 01 that the programs know, and an empty row at the end that is part of
the array all the same. `obdGetCmdForPID` is the linear search through it.

Mirroring notes:
- The bounds are `float` constants in the source; here they are the decimal
  numbers written there.
- A row names its two conversion functions, `obdConvert_…` and
  `obdRevConvert_…`, by their common suffix.
-/

namespace ObdGpsLogger.Obdinfo

/-- The pairs `obdConvert_…`, `obdRevConvert_…` a row can name. -/
inductive ObdConversion where
  | pid04 | pid05 | pid06to09 | pid0A | pid0B | pid0C | pid0D | pid0E
  | pid0F | pid10 | pid11 | pid14to1B | pid1F | pid21 | pid22 | pid23
  | pid24to2B | pid2C | pid2D | pid2E | pid2F | pid30 | pid31 | pid32
  | pid33 | pid34to3B | pid3Cto3F | pid42 | pid43 | pid44 | pid45 | pid46
  | pid47to4B | pid4C | pid4D | pid4E | pid52
  deriving DecidableEq, Repr

/-- `struct obdservicecmd`: a command of a service, with how it is stored, named
and converted. -/
structure ObdServiceCmd where
  cmdid : Nat
  bytesReturned : Int
  dbColumn : Option String
  humanName : Option String
  minValue : Rat
  maxValue : Rat
  units : Option String
  conv : Option ObdConversion
  convrev : Option ObdConversion
  deriving DecidableEq, Repr

/-- `obdcmds_mode1`. -/
def obdcmdsMode1 : List ObdServiceCmd := [
  ⟨0x00, 4, none,
    some "PIDs supported 00-20",
    0, 0, some "Bit Encoded", none, none⟩,
  ⟨0x01, 4, some "dtc_cnt",
    some "Monitor status since DTCs cleared",
    0, 0, some "Bit Encoded", none, none⟩,
  ⟨0x02, 4, some "dtcfrzf",
    some "DTC that caused required freeze frame data storage",
    0, 0, some "Bit Encoded", none, none⟩,
  ⟨0x03, 8, some "fuelsys",
    some "Fuel system 1 and 2 status",
    0, 0, some "Bit Encoded", none, none⟩,
  ⟨0x04, 2, some "load_pct",
    some "Calculated LOAD Value",
    0, 100, some "%", some .pid04, some .pid04⟩,
  ⟨0x05, 1, some "temp",
    some "Engine Coolant Temperature",
    -40, 215, some "Celsius", some .pid05, some .pid05⟩,
  ⟨0x06, 1, some "shrtft13",
    some "Short Term Fuel Trim - Bank 1,3",
    -100, 99.22, some "%", some .pid06to09, some .pid06to09⟩,
  ⟨0x07, 1, some "longft13",
    some "Long Term Fuel Trim - Bank 1,3",
    -100, 99.22, some "%", some .pid06to09, some .pid06to09⟩,
  ⟨0x08, 1, some "shrtft24",
    some "Short Term Fuel Trim - Bank 2,4",
    -100, 99.22, some "%", some .pid06to09, some .pid06to09⟩,
  ⟨0x09, 1, some "longft24",
    some "Long Term Fuel Trim - Bank 2,4",
    -100, 99.22, some "%", some .pid06to09, some .pid06to09⟩,
  ⟨0x0A, 1, some "frp",
    some "Fuel Rail Pressure (gauge)",
    -100, 99.22, some "%", some .pid0A, some .pid0A⟩,
  ⟨0x0B, 1, some "map",
    some "Intake Manifold Absolute Pressure",
    0, 765, some "kPa", some .pid0B, some .pid0B⟩,
  ⟨0x0C, 2, some "rpm",
    some "Engine RPM",
    0, 16383.75, some "rev/min", some .pid0C, some .pid0C⟩,
  ⟨0x0D, 1, some "vss",
    some "Vehicle Speed Sensor",
    0, 255, some "km/h", some .pid0D, some .pid0D⟩,
  ⟨0x0E, 1, some "sparkadv",
    some "Ignition Timing Advance for #1 Cylinder",
    -64, 63.5, some "degrees relative to #1 cylinder", some .pid0E, some .pid0E⟩,
  ⟨0x0F, 1, some "iat",
    some "Intake Air Temperature",
    -40, 215, some "Celsius", some .pid0F, some .pid0F⟩,
  ⟨0x10, 2, some "maf",
    some "Air Flow Rate from Mass Air Flow Sensor",
    0, 655.35, some "g/s", some .pid10, some .pid10⟩,
  ⟨0x11, 1, some "throttlepos",
    some "Absolute Throttle Position",
    1, 100, some "%", some .pid11, some .pid11⟩,
  ⟨0x12, 1, some "air_stat",
    some "Commanded Secondary Air Status",
    0, 0, some "Bit Encoded", none, none⟩,
  ⟨0x13, 1, some "o2sloc",
    some "Location of Oxygen Sensors",
    0, 0, some "Bit Encoded", none, none⟩,
  ⟨0x14, 2, some "o2s11",
    some "Bank 1 - Sensor 1/Bank 1 - Sensor 1 Oxygen Sensor Output Voltage / Short Term Fuel Trim",
    0, 1.275, some "V", some .pid14to1B, some .pid14to1B⟩,
  ⟨0x15, 2, some "o2s12",
    some "Bank 1 - Sensor 2/Bank 1 - Sensor 2 Oxygen Sensor Output Voltage / Short Term Fuel Trim",
    0, 1.275, some "V", some .pid14to1B, some .pid14to1B⟩,
  ⟨0x16, 2, some "o2s13",
    some "Bank 1 - Sensor 3/Bank 2 - Sensor 1 Oxygen Sensor Output Voltage / Short Term Fuel Trim",
    0, 1.275, some "V", some .pid14to1B, some .pid14to1B⟩,
  ⟨0x17, 2, some "o2s14",
    some "Bank 1 - Sensor 4/Bank 2 - Sensor 2 Oxygen Sensor Output Voltage / Short Term Fuel Trim",
    0, 1.275, some "V", some .pid14to1B, some .pid14to1B⟩,
  ⟨0x18, 2, some "o2s21",
    some "Bank 2 - Sensor 1/Bank 3 - Sensor 1 Oxygen Sensor Output Voltage / Short Term Fuel Trim",
    0, 1.275, some "V", some .pid14to1B, some .pid14to1B⟩,
  ⟨0x19, 2, some "o2s22",
    some "Bank 2 - Sensor 2/Bank 3 - Sensor 2 Oxygen Sensor Output Voltage / Short Term Fuel Trim",
    0, 1.275, some "V", some .pid14to1B, some .pid14to1B⟩,
  ⟨0x1A, 2, some "o2s23",
    some "Bank 2 - Sensor 3/Bank 4 - Sensor 1 Oxygen Sensor Output Voltage / Short Term Fuel Trim",
    0, 1.275, some "V", some .pid14to1B, some .pid14to1B⟩,
  ⟨0x1B, 2, some "o2s24",
    some "Bank 2 - Sensor 4/Bank 4 - Sensor 2 Oxygen Sensor Output Voltage / Short Term Fuel Trim",
    0, 1.275, some "V", some .pid14to1B, some .pid14to1B⟩,
  ⟨0x1C, 1, some "obdsup",
    some "OBD requirements to which vehicle is designed",
    0, 0, some "Bit Encoded", none, none⟩,
  ⟨0x1D, 1, some "o2sloc2",
    some "Location of oxygen sensors",
    0, 0, some "Bit Encoded", none, none⟩,
  ⟨0x1E, 1, some "pto_stat",
    some "Auxiliary Input Status",
    0, 0, some "Bit Encoded", none, none⟩,
  ⟨0x1F, 2, some "runtm",
    some "Time Since Engine Start",
    0, 65535, some "seconds", some .pid1F, some .pid1F⟩,
  ⟨0x20, 4, none,
    some "PIDs supported 21-40",
    0, 0, some "Bit Encoded", none, none⟩,
  ⟨0x21, 4, some "mil_dist",
    some "Distance Travelled While MIL is Activated",
    0, 65535, some "km", some .pid21, some .pid21⟩,
  ⟨0x22, 2, some "frpm",
    some "Fuel Rail Pressure relative to manifold vacuum",
    0, 5177.265, some "kPa", some .pid22, some .pid22⟩,
  ⟨0x23, 2, some "frpd",
    some "Fuel Rail Pressure (diesel)",
    0, 655350, some "kPa", some .pid23, some .pid23⟩,
  ⟨0x24, 4, some "lambda11",
    some "Bank 1 - Sensor 1/Bank 1 - Sensor 1 (wide range O2S) Oxygen Sensors Equivalence Ratio (lambda) / Voltage",
    0, 2, some "(ratio)", some .pid24to2B, some .pid24to2B⟩,
  ⟨0x25, 4, some "lambda12",
    some "Bank 1 - Sensor 2/Bank 1 - Sensor 2 (wide range O2S) Oxygen Sensors Equivalence Ratio (lambda) / Voltage",
    0, 2, some "(ratio)", some .pid24to2B, some .pid24to2B⟩,
  ⟨0x26, 4, some "lambda13",
    some "Bank 1 - Sensor 3 /Bank 2 - Sensor 1(wide range O2S) Oxygen Sensors Equivalence Ratio (lambda) / Voltage",
    0, 2, some "(ratio)", some .pid24to2B, some .pid24to2B⟩,
  ⟨0x27, 4, some "lambda14",
    some "Bank 1 - Sensor 4 /Bank 2 - Sensor 2(wide range O2S) Oxygen Sensors Equivalence Ratio (lambda) / Voltage",
    0, 2, some "(ratio)", some .pid24to2B, some .pid24to2B⟩,
  ⟨0x28, 4, some "lambda21",
    some "Bank 2 - Sensor 1 /Bank 3 - Sensor 1(wide range O2S) Oxygen Sensors Equivalence Ratio (lambda) / Voltage",
    0, 2, some "(ratio)", some .pid24to2B, some .pid24to2B⟩,
  ⟨0x29, 4, some "lambda22",
    some "Bank 2 - Sensor 2 /Bank 3 - Sensor 2(wide range O2S) Oxygen Sensors Equivalence Ratio (lambda) / Voltage",
    0, 2, some "(ratio)", some .pid24to2B, some .pid24to2B⟩,
  ⟨0x2A, 4, some "lambda23",
    some "Bank 2 - Sensor 3 /Bank 4 - Sensor 1(wide range O2S) Oxygen Sensors Equivalence Ratio (lambda) / Voltage",
    0, 2, some "(ratio)", some .pid24to2B, some .pid24to2B⟩,
  ⟨0x2B, 4, some "lambda24",
    some "Bank 2 - Sensor 4 /Bank 4 - Sensor 2(wide range O2S) Oxygen Sensors Equivalence Ratio (lambda) / Voltage",
    0, 2, some "(ratio)", some .pid24to2B, some .pid24to2B⟩,
  ⟨0x2C, 1, some "egr_pct",
    some "Commanded EGR",
    0, 100, some "%", some .pid2C, some .pid2C⟩,
  ⟨0x2D, 1, some "egr_err",
    some "EGR Error",
    -100, 99.22, some "%", some .pid2D, some .pid2D⟩,
  ⟨0x2E, 1, some "evap_pct",
    some "Commanded Evaporative Purge",
    0, 100, some "%", some .pid2E, some .pid2E⟩,
  ⟨0x2F, 1, some "fli",
    some "Fuel Level Input",
    0, 100, some "%", some .pid2F, some .pid2F⟩,
  ⟨0x30, 1, some "warm_ups",
    some "Number of warm-ups since diagnostic trouble codes cleared",
    0, 255, some "", some .pid30, some .pid30⟩,
  ⟨0x31, 2, some "clr_dist",
    some "Distance since diagnostic trouble codes cleared",
    0, 65535, some "km", some .pid31, some .pid31⟩,
  ⟨0x32, 2, some "evap_vp",
    some "Evap System Vapour Pressure",
    -8192, 8192, some "Pa", some .pid32, some .pid32⟩,
  ⟨0x33, 1, some "baro",
    some "Barometric Pressure",
    0, 255, some "kPa", some .pid33, some .pid33⟩,
  ⟨0x34, 4, some "lambdac11",
    some "Bank 1 - Sensor 1/Bank 1 - Sensor 1 (wide range O2S) Oxygen Sensors Equivalence Ratio (lambda) / Current",
    0, 2, some "(ratio)", some .pid34to3B, some .pid34to3B⟩,
  ⟨0x35, 4, some "lambdac12",
    some "Bank 1 - Sensor 2/Bank 1 - Sensor 2 (wide range O2S) Oxygen Sensors Equivalence Ratio (lambda) / Current",
    0, 2, some "(ratio)", some .pid34to3B, some .pid34to3B⟩,
  ⟨0x36, 4, some "lambdac13",
    some "Bank 1 - Sensor 3/Bank 2 - Sensor 1 (wide range O2S) Oxygen Sensors Equivalence Ratio (lambda) / Current",
    0, 2, some "(ratio)", some .pid34to3B, some .pid34to3B⟩,
  ⟨0x37, 4, some "lambdac14",
    some "Bank 1 - Sensor 4/Bank 2 - Sensor 2 (wide range O2S) Oxygen Sensors Equivalence Ratio (lambda) / Current",
    0, 2, some "(ratio)", some .pid34to3B, some .pid34to3B⟩,
  ⟨0x38, 4, some "lambdac21",
    some "Bank 2 - Sensor 1/Bank 3 - Sensor 1 (wide range O2S) Oxygen Sensors Equivalence Ratio (lambda) / Current",
    0, 2, some "(ratio)", some .pid34to3B, some .pid34to3B⟩,
  ⟨0x39, 4, some "lambdac22",
    some "Bank 2 - Sensor 2/Bank 3 - Sensor 2 (wide range O2S) Oxygen Sensors Equivalence Ratio (lambda) / Current",
    0, 2, some "(ratio)", some .pid34to3B, some .pid34to3B⟩,
  ⟨0x3A, 4, some "lambdac23",
    some "Bank 2 - Sensor 3/Bank 4 - Sensor 1 (wide range O2S) Oxygen Sensors Equivalence Ratio (lambda) / Current",
    0, 2, some "(ratio)", some .pid34to3B, some .pid34to3B⟩,
  ⟨0x3B, 4, some "lambdac24",
    some "Bank 2 - Sensor 4/Bank 4 - Sensor 2 (wide range O2S) Oxygen Sensors Equivalence Ratio (lambda) / Current",
    0, 2, some "(ratio)", some .pid34to3B, some .pid34to3B⟩,
  ⟨0x3C, 2, some "catemp11",
    some "Catalyst Temperature Bank 1 /  Sensor 1",
    -40, 6513.5, some "Celsius", some .pid3Cto3F, some .pid3Cto3F⟩,
  ⟨0x3D, 2, some "catemp21",
    some "Catalyst Temperature Bank 2 /  Sensor 1",
    -40, 6513.5, some "Celsius", some .pid3Cto3F, some .pid3Cto3F⟩,
  ⟨0x3E, 2, some "catemp12",
    some "Catalyst Temperature Bank 1 /  Sensor 2",
    -40, 6513.5, some "Celsius", some .pid3Cto3F, some .pid3Cto3F⟩,
  ⟨0x3F, 2, some "catemp22",
    some "Catalyst Temperature Bank 2 /  Sensor 2",
    -40, 6513.5, some "Celsius", some .pid3Cto3F, some .pid3Cto3F⟩,
  ⟨0x40, 4, none,
    some "PIDs supported 41-60",
    0, 0, some "Bit Encoded", none, none⟩,
  ⟨0x41, 4, none,
    some "Monitor status this driving cycle",
    0, 0, some "Bit Encoded", none, none⟩,
  ⟨0x42, 2, some "vpwr",
    some "Control module voltage",
    0, 65535, some "V", some .pid42, some .pid42⟩,
  ⟨0x43, 2, some "load_abs",
    some "Absolute Load Value",
    0, 25700, some "%", some .pid43, some .pid43⟩,
  ⟨0x44, 2, some "lambda",
    some "Fuel/air Commanded Equivalence Ratio",
    0, 2, some "(ratio)", some .pid44, some .pid44⟩,
  ⟨0x45, 1, some "tp_r",
    some "Relative Throttle Position",
    0, 100, some "%", some .pid45, some .pid45⟩,
  ⟨0x46, 1, some "aat",
    some "Ambient air temperature",
    -40, 215, some "Celsius", some .pid46, some .pid46⟩,
  ⟨0x47, 1, some "tp_b",
    some "Absolute Throttle Position B",
    0, 100, some "%", some .pid47to4B, some .pid47to4B⟩,
  ⟨0x48, 1, some "tp_c",
    some "Absolute Throttle Position C",
    0, 100, some "%", some .pid47to4B, some .pid47to4B⟩,
  ⟨0x49, 1, some "app_d",
    some "Accelerator Pedal Position D",
    0, 100, some "%", some .pid47to4B, some .pid47to4B⟩,
  ⟨0x4A, 1, some "app_e",
    some "Accelerator Pedal Position E",
    0, 100, some "%", some .pid47to4B, some .pid47to4B⟩,
  ⟨0x4B, 1, some "app_f",
    some "Accelerator Pedal Position F",
    0, 100, some "%", some .pid47to4B, some .pid47to4B⟩,
  ⟨0x4C, 1, some "tac_pct",
    some "Commanded Throttle Actuator Control",
    0, 100, some "%", some .pid4C, some .pid4C⟩,
  ⟨0x4D, 2, some "mil_time",
    some "Time run by the engine while MIL activated",
    0, 65525, some "minutes", some .pid4D, some .pid4D⟩,
  ⟨0x4E, 2, some "clr_time",
    some "Time since diagnostic trouble codes cleared",
    0, 65535, some "minutes", some .pid4E, some .pid4E⟩,
  ⟨0x4F, 4, none,
    some "External Test Equipment Configuration #1",
    0, 0, some "Bit Encoded", none, none⟩,
  ⟨0x50, 4, none,
    some "External Test Equipment Configuration #2",
    0, 0, some "Bit Encoded", none, none⟩,
  ⟨0x51, 2, some "fuel_type",
    some "Fuel Type",
    0, 0, some "Bit Encoded", none, none⟩,
  ⟨0x52, 2, some "alch_pct",
    some "Ethanol fuel %",
    0, 100, some "%", some .pid52, some .pid52⟩,
  ⟨0x00, 0, none, none, 0, 0, none, none, none⟩]

/-- `obdGetCmdForPID`: the row of the table for a PID, if it has one. -/
def obdGetCmdForPID (pid : Nat) : Option ObdServiceCmd :=
  obdcmdsMode1.find? fun o => pid == o.cmdid

/-- `obdGetCmdForColumn`: rows without a column are passed over. -/
def obdGetCmdForColumn (dbColumn : String) : Option ObdServiceCmd :=
  obdcmdsMode1.find? fun o => o.dbColumn == some dbColumn

/-- The PIDs of the rows are all numbers below `0x53`, in order, and at the end
the 0 of the sentinel. -/
theorem cmdids_eq : obdcmdsMode1.map ObdServiceCmd.cmdid = List.range 0x53 ++ [0] := by decide

/-- The PIDs the programs know are those up to 0x52. -/
theorem obdGetCmdForPID_isSome_iff {pid : Nat} : (obdGetCmdForPID pid).isSome ↔ pid < 0x53 := by
  have hrows : (∃ o ∈ obdcmdsMode1, pid = o.cmdid) ↔ pid ∈ obdcmdsMode1.map ObdServiceCmd.cmdid := by
    simp only [List.mem_map, eq_comm]
  have hfound : (obdGetCmdForPID pid).isSome ↔ ∃ o ∈ obdcmdsMode1, pid = o.cmdid := by
    simp [obdGetCmdForPID]
  rw [hfound, hrows, cmdids_eq, List.mem_append, List.mem_range, List.mem_singleton]
  omega

/-- No two rows share a PID, but for the empty row at the end. -/
theorem cmdids_apart :
    obdcmdsMode1.Pairwise fun a b => a.cmdid = b.cmdid → a.cmdid = 0 := by
  have hids : (List.range 0x53 ++ [0]).Pairwise fun a b : Nat => a = b → a = 0 := by
    decide +kernel
  rw [← cmdids_eq] at hids
  exact List.pairwise_map.mp hids

/-- Each row of the table, except those of PID 0, is found under its own PID. -/
theorem obdGetCmdForPID_self {cmd : ObdServiceCmd} (hcmd : cmd ∈ obdcmdsMode1)
    (hpos : 0 < cmd.cmdid) : obdGetCmdForPID cmd.cmdid = some cmd := by
  have hfound : (obdGetCmdForPID cmd.cmdid).isSome := by
    rw [obdGetCmdForPID, List.find?_isSome]
    exact ⟨cmd, hcmd, beq_self_eq_true cmd.cmdid⟩
  obtain ⟨o, ho⟩ := Option.isSome_iff_exists.mp hfound
  have hid : cmd.cmdid = o.cmdid := by simpa using List.find?_some ho
  have hsymm : Std.Symm fun a b : ObdServiceCmd => a.cmdid = b.cmdid → a.cmdid = 0 :=
    ⟨fun a b h heq => heq.trans (h heq.symm)⟩
  rw [ho]
  by_contra hne
  have hzero := cmdids_apart.forall (List.mem_of_find?_eq_some ho) hcmd
    (fun h => hne (congrArg some h)) hid.symm
  omega

/-- No two rows of the table have the same column name, so a column belongs to
one PID. -/
theorem columns_nodup : (obdcmdsMode1.filterMap ObdServiceCmd.dbColumn).Nodup := by
  decide +kernel

/-- Each row of the table that has a column is found under the name of its
column. -/
theorem obdGetCmdForColumn_self {cmd : ObdServiceCmd} (hcmd : cmd ∈ obdcmdsMode1) {col : String}
    (hcol : cmd.dbColumn = some col) : obdGetCmdForColumn col = some cmd := by
  have hpair := List.pairwise_filterMap.mp columns_nodup
  have hfound : (obdGetCmdForColumn col).isSome := by
    rw [obdGetCmdForColumn, List.find?_isSome]
    exact ⟨cmd, hcmd, by simp [hcol]⟩
  obtain ⟨o, ho⟩ := Option.isSome_iff_exists.mp hfound
  have hocol : o.dbColumn = some col := by simpa using List.find?_some ho
  rw [ho]
  by_contra hne
  have hsymm : Std.Symm fun a b : ObdServiceCmd => ∀ x, a.dbColumn = some x →
      ∀ y, b.dbColumn = some y → x ≠ y := ⟨fun a b h x hx y hy => (h y hy x hx).symm⟩
  exact hpair.forall (List.mem_of_find?_eq_some ho) hcmd (fun h => hne (congrArg some h))
    col hocol col hcol rfl

end ObdGpsLogger.Obdinfo
