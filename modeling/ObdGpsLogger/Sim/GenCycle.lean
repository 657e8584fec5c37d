import ObdGpsLogger.CLib.ScanInt
import ObdGpsLogger.Obdinfo.ConvertRange
import ObdGpsLogger.Sim.Generator

/-!
# The Cycle generator

`src/sim/generators/cycle/gen_cycle.c`: every sensor runs through the range its
row declares, once in `cycle_length` seconds; the engine speed goes up through
the gears instead.

`declared_arrives` says what becomes of the values: whatever the time, the
value is in the declared range, and it reaches the logger, up to one code step,
exactly when it is `Encodable`. Not all declared values are:
`declared_not_all_encoded`.

Mirroring notes:
- `float` arithmetic is exact, as in the conversion functions.
- The two `while` loops have fuel; `value_returns` says that enough of it
  gives a result.
-/

namespace ObdGpsLogger.Sim

open CLib Obdinfo ObdConversion

/-- `struct cycle_gen`, with what its creation ensures of it. -/
structure CycleGen where
  cycleLength : Rat
  firsttime : Timeval
  gears : Nat
  cycleLength_pos : 0 < cycleLength
  gears_lt : gears < 256

/-- `DEFAULT_CYCLE_S`: the length of a cycle, in seconds. -/
def defaultCycleS : Int := 30

/-- `DEFAULT_CYCLE_GEARS`: the gears of a cycle. -/
def defaultCycleGears : Nat := 6

/-- `cycle_simgen_create`: `gears` is an `unsigned char`. -/
def cycleSimgenCreate (seed : Option (List Char)) (now : Timeval) : CycleGen :=
  let toks := strtokAll (fun c => c == ',' || c == ' ') (seed.getD [])
  let t := ((toks[0]?).map atoi).getD 0
  let gears := ((toks[1]?).map atoi).getD 0
  { cycleLength := (if 0 < t then t else defaultCycleS : Int)
    firsttime := now
    gears := if 0 < gears then (gears % 256).toNat else defaultCycleGears
    cycleLength_pos := by
      have hpos : 0 < if 0 < t then t else defaultCycleS := by
        split
        · assumption
        · decide
      exact_mod_cast hpos
    gears_lt := by
      split
      · omega
      · decide }

/-- `dt`, before it is brought into the cycle. -/
def CycleGen.elapsed (g : CycleGen) (newtime : Timeval) : Rat :=
  if newtime.since g.firsttime < 0 then 0 else newtime.since g.firsttime

/-- `cyclefraction`: how much of the cycle is over. `none`: the fuel does not
suffice for the loop. -/
def CycleGen.cyclefraction (g : CycleGen) (fuel : Nat) (newtime : Timeval) : Option Rat :=
  (wrapDown g.cycleLength g.cycleLength fuel (g.elapsed newtime)).map fun dt => dt / g.cycleLength

/-- The value that goes to the encoder: `val`, or `revs`. -/
def CycleGen.value (g : CycleGen) (fuel : Nat) (newtime : Timeval) (cmd : ObdServiceCmd) :
    Option Rat :=
  (g.cyclefraction fuel newtime).bind fun cyclefraction =>
    if cmd.dbColumn ≠ none ∧ cmd.dbColumn ≠ some "rpm" then
      some (cmd.minValue + cyclefraction * (cmd.maxValue - cmd.minValue))
    else (wrapDown 6000 6000 fuel (g.gears * 6000 * cyclefraction)).map fun revs => revs + 500

/-- `cycle_simgen_getvalue`: bitmaps, or a value of the row of the table. -/
def cycleSimgenGetvalue (g : CycleGen) (fuel : Nat) (newtime : Timeval) (cells : Nat → Nat)
    (pid : Nat) : Option GenValue :=
  if pid = 0x00 ∨ pid = 0x20 ∨ pid = 0x40 then
    some ⟨4, fun i => if i < 3 then 0xFF else if i = 3 then (if pid = 0x40 then 0xFE else 0xFF)
      else cells i⟩
  else if 0x60 ≤ pid then some ⟨0, cells⟩
  else
    -- `dt` is brought into the cycle before the row is looked at
    (g.cyclefraction fuel newtime).bind fun _ =>
      match obdGetCmdForPID pid with
      | none => some ⟨0, cells⟩
      | some cmd =>
        match cmd.convrev with
        | none => some ⟨0, cells⟩
        | some r => (g.value fuel newtime cmd).map fun val => stored (r.convrev val) cells

/-! ## The values -/

section Values

variable (g : CycleGen) {fuel : Nat} {newtime : Timeval}

theorem elapsed_nonneg (newtime : Timeval) : 0 ≤ g.elapsed newtime := by
  unfold CycleGen.elapsed
  split
  · exact le_refl 0
  · next h => exact not_lt.mp h

/-- The place in the cycle is between its ends. -/
theorem cyclefraction_spec {f : Rat} (h : g.cyclefraction fuel newtime = some f) :
    0 ≤ f ∧ f ≤ 1 := by
  obtain ⟨dt, hdt, rfl⟩ := Option.map_eq_some_iff.mp h
  obtain ⟨hle, hlow, -⟩ := wrapDown_spec hdt
  have hnn := hlow 0 (by linarith) (elapsed_nonneg g newtime)
  exact ⟨div_nonneg hnn g.cycleLength_pos.le,
    (div_le_one₀ g.cycleLength_pos).mpr hle⟩

/-- The row of the engine speed has room for what the gears make of it, and no
range is empty. -/
theorem rows_ranges : ∀ cmd ∈ obdcmdsMode1, cmd.convrev ≠ none →
    cmd.minValue ≤ cmd.maxValue ∧
      (cmd.dbColumn ≠ none ∧ cmd.dbColumn ≠ some "rpm" ∨
        cmd.minValue ≤ 500 ∧ 6500 ≤ cmd.maxValue) := by
  decide +kernel

/-- The generator's value for a row is in the range that the row declares,
wherever in the cycle it is. -/
theorem value_spec {cmd : ObdServiceCmd} (hcmd : cmd ∈ obdcmdsMode1) (hrev : cmd.convrev ≠ none)
    {v : Rat} (h : g.value fuel newtime cmd = some v) : cmd.minValue ≤ v ∧ v ≤ cmd.maxValue := by
  obtain ⟨hrange, hrow⟩ := rows_ranges cmd hcmd hrev
  obtain ⟨f, hf, hv⟩ := Option.bind_eq_some_iff.mp h
  obtain ⟨hf0, hf1⟩ := cyclefraction_spec g hf
  split at hv
  · obtain rfl := Option.some.inj hv
    have hwidth : 0 ≤ cmd.maxValue - cmd.minValue := sub_nonneg.mpr hrange
    have hpart := mul_nonneg hf0 hwidth
    have hwhole := mul_le_mul_of_nonneg_right hf1 hwidth
    constructor <;> linarith
  · next hrpm =>
    obtain ⟨hmin, hmax⟩ := hrow.resolve_left hrpm
    obtain ⟨revs, hrevs, rfl⟩ := Option.map_eq_some_iff.mp hv
    obtain ⟨hle, hlow, -⟩ := wrapDown_spec hrevs
    have hrevs0 := hlow 0 (by norm_num)
      (mul_nonneg (mul_nonneg (Nat.cast_nonneg _) (by norm_num)) hf0)
    constructor <;> linarith

/-- **Both loops end**: with enough fuel there is a place in the cycle, and a
value for every row of the table. -/
theorem value_returns (newtime : Timeval) : ∃ enough, ∀ fuel, enough ≤ fuel →
    (g.cyclefraction fuel newtime).isSome ∧
      ∀ cmd, (g.value fuel newtime cmd).isSome := by
  obtain ⟨n, hn⟩ := exists_nat_ge (g.elapsed newtime / g.cycleLength)
  refine ⟨max (n + 1) 256, fun fuel hfuel => ?_⟩
  obtain ⟨k, rfl⟩ := Nat.exists_eq_add_of_le' (le_trans (le_max_left ..) hfuel : n + 1 ≤ fuel)
  have hturns : g.elapsed newtime ≤ g.cycleLength + ((k + n : Nat) : Rat) * g.cycleLength := by
    have hle := (div_le_iff₀ g.cycleLength_pos).mp hn
    have hk : (0 : Rat) ≤ k * g.cycleLength := mul_nonneg (Nat.cast_nonneg k) g.cycleLength_pos.le
    have hpos := g.cycleLength_pos
    push_cast
    linarith
  have hfraction : (g.cyclefraction (k + n + 1) newtime).isSome := by
    rw [CycleGen.cyclefraction, Option.isSome_map]
    exact wrapDown_isSome hturns
  refine ⟨hfraction, fun cmd => ?_⟩
  obtain ⟨f, hf⟩ := Option.isSome_iff_exists.mp hfraction
  obtain ⟨hf0, hf1⟩ := cyclefraction_spec g hf
  show (g.value (k + n + 1) newtime cmd).isSome
  rw [CycleGen.value, hf, Option.bind_some]
  split
  · rfl
  · rw [Option.isSome_map]
    -- there are at most 255 gears
    have hgears : (g.gears : Rat) ≤ 255 := by exact_mod_cast Nat.le_of_lt_succ g.gears_lt
    have hfuel' : (255 : Rat) ≤ ((k + n : Nat) : Rat) := by
      exact_mod_cast (by omega : 255 ≤ k + n)
    have hprod : (g.gears : Rat) * f ≤ 255 := by
      calc (g.gears : Rat) * f ≤ g.gears * 1 :=
            mul_le_mul_of_nonneg_left hf1 (Nat.cast_nonneg _)
        _ ≤ 255 := by linarith
    refine wrapDown_isSome ?_
    linarith

end Values

/-! ## What arrives -/

/-- The bytes of a value are two hex digits each, and what the logger reads
from them is decoded to the value, up to one code step. -/
structure Arrives (c r : ObdConversion) (v : Rat) : Prop where
  encodes : c.Encodes r v
  digits : ∀ b ∈ (r.convrev v).bytes, (fmtX 2 b).length = 2
  logged : ∀ sp, (∀ d ∈ sp, isspace d = true) →
    |c.decode (assigned (hexPairs (r.convrev v).bytes.length)
      (pairsText ((r.convrev v).bytes.map fun b => (sp, b)))) - v| < c.step

/-- A value arrives at the client, up to one code step, exactly if it is encoded
right. -/
theorem arrives_iff (c r : ObdConversion) (v : Rat) : Arrives c r v ↔ c.Encodes r v := by
  refine ⟨Arrives.encodes, fun h => ⟨h, fun b hb => fmtX_byte_length (h.inByte b hb),
    fun sp hsp => ?_⟩⟩
  have hpairs : PairsOk ((r.convrev v).bytes.map fun b => (sp, b)) := by
    intro p hp
    obtain ⟨b, hb, rfl⟩ := List.mem_map.mp hp
    exact ⟨hsp, h.inByte b hb⟩
  have hback : ((r.convrev v).bytes.map fun b => (sp, b)).map Prod.snd = (r.convrev v).bytes := by
    simp [Function.comp_def]
  rw [assigned_pairs _ hpairs, hback, List.take_length]
  exact h.within

/-- The answer for a sensor: the encoding of a value in the range of its row. -/
structure Sensed (g : CycleGen) (fuel : Nat) (newtime : Timeval) (pid : Nat) (answer : GenValue)
    (cmd : ObdServiceCmd) (c r : ObdConversion) (v : Rat) : Prop where
  row : cmd ∈ obdcmdsMode1 ∧ cmd.cmdid = pid ∧ cmd.conv = some c ∧ cmd.convrev = some r
  value : g.value fuel newtime cmd = some v
  declared : cmd.minValue ≤ v ∧ v ≤ cmd.maxValue
  bytes : answer.bytes = (r.convrev v).bytes

/-- **Every answer** of the generator: with enough fuel there is one, and it is
a bitmap, nothing, or the encoding of a value in the declared range. -/
theorem getvalue_sensed (g : CycleGen) (newtime : Timeval) (pid : Nat) :
    ∃ enough, ∀ fuel, enough ≤ fuel → ∀ cells, ∃ answer,
      cycleSimgenGetvalue g fuel newtime cells pid = some answer ∧
        ((pid = 0x00 ∨ pid = 0x20 ∨ pid = 0x40) ∨ answer.count = 0 ∨
          ∃ cmd c r v, Sensed g fuel newtime pid answer cmd c r v) := by
  obtain ⟨enough, hreturns⟩ := value_returns g newtime
  refine ⟨enough, fun fuel hfuel cells => ?_⟩
  obtain ⟨hfraction, hvalue⟩ := hreturns fuel hfuel
  unfold cycleSimgenGetvalue
  -- the branches of the generator, in the order of the source
  by_cases hmap : pid = 0x00 ∨ pid = 0x20 ∨ pid = 0x40
  · rw [if_pos hmap]
    exact ⟨_, rfl, Or.inl hmap⟩
  rw [if_neg hmap]
  by_cases hbig : 0x60 ≤ pid
  · rw [if_pos hbig]
    exact ⟨_, rfl, Or.inr (Or.inl rfl)⟩
  rw [if_neg hbig]
  obtain ⟨f, hf⟩ := Option.isSome_iff_exists.mp hfraction
  rw [hf, Option.bind_some]
  cases hcmd : obdGetCmdForPID pid with
  | none => exact ⟨_, rfl, Or.inr (Or.inl rfl)⟩
  | some cmd =>
    have hmem : cmd ∈ obdcmdsMode1 := List.mem_of_find?_eq_some hcmd
    have hid : pid = cmd.cmdid := by simpa using List.find?_some hcmd
    dsimp only
    cases hrev : cmd.convrev with
    | none => exact ⟨_, rfl, Or.inr (Or.inl rfl)⟩
    | some r =>
      -- a row with an encoder has a decoder of the same conversion
      obtain ⟨v, hv⟩ := Option.isSome_iff_exists.mp (hvalue cmd)
      have hconv : cmd.conv = some r := (rows_limitsOk cmd hmem).1.trans hrev
      dsimp only
      rw [hv, Option.map_some]
      refine ⟨_, rfl, Or.inr (Or.inr ⟨cmd, r, r, v, ⟨hmem, hid.symm, hconv, hrev⟩, hv, ?_,
        stored_bytes _ cells⟩)⟩
      exact value_spec g hmem (by rw [hrev]; exact Option.some_ne_none r) hv

/-- **The ranges and the generator.** A value that a row declares survives
encoding exactly when it is encodable; and what the generator senses, at any
time, arrives exactly when it is. -/
theorem declared_arrives {cmd : ObdServiceCmd} (hcmd : cmd ∈ obdcmdsMode1) {c r : ObdConversion}
    (hc : cmd.conv = some c) (hr : cmd.convrev = some r) {v : Rat} (hmin : cmd.minValue ≤ v)
    (hmax : v ≤ cmd.maxValue) :
    (c.Encodes r v ↔ c.Encodable v) ∧
    ∀ (g : CycleGen) (newtime : Timeval) (pid : Nat), ∃ enough, ∀ fuel, enough ≤ fuel →
      ∀ cells, ∃ answer, cycleSimgenGetvalue g fuel newtime cells pid = some answer ∧
        ((pid = 0x00 ∨ pid = 0x20 ∨ pid = 0x40) ∨ answer.count = 0 ∨
          ∃ cmd c r v, Sensed g fuel newtime pid answer cmd c r v ∧
            (Arrives c r v ↔ c.Encodable v)) := by
  refine ⟨encodes_declared hcmd hc hr hmin hmax, fun g newtime pid => ?_⟩
  obtain ⟨enough, hanswers⟩ := getvalue_sensed g newtime pid
  refine ⟨enough, fun fuel hfuel cells => ?_⟩
  obtain ⟨answer, hanswer, hkind⟩ := hanswers fuel hfuel cells
  refine ⟨answer, hanswer, hkind.imp_right fun h => h.imp_right ?_⟩
  rintro ⟨cmd, c, r, v, hsensed⟩
  obtain ⟨hcmd, -, hc, hr⟩ := hsensed.row
  exact ⟨cmd, c, r, v, hsensed, (arrives_iff c r v).trans
    (encodes_declared hcmd hc hr hsensed.declared.1 hsensed.declared.2)⟩

/-- The manifold pressure may be up to 765, in one byte. -/
theorem declared_not_all_encoded :
    ¬ ∀ cmd ∈ obdcmdsMode1, ∀ c r, cmd.conv = some c → cmd.convrev = some r →
      ∀ v, cmd.minValue ≤ v → v ≤ cmd.maxValue → c.Encodes r v := by
  intro h
  have hrow : ∃ cmd ∈ obdcmdsMode1, cmd.conv = some .pid0B ∧ cmd.convrev = some .pid0B ∧
      cmd.minValue ≤ 765 ∧ 765 ≤ cmd.maxValue := by decide +kernel
  obtain ⟨cmd, hcmd, hc, hr, hmin, hmax⟩ := hrow
  have hbyte := (h cmd hcmd _ _ hc hr 765 hmin hmax).inByte 765 (by decide +kernel)
  exact absurd hbyte (by decide)

/-- An engine speed, and what is sensed of it halfway through the default cycle. -/
theorem declared_arrives_rpm :
    (pid0C.Encodes .pid0C 800 ↔ pid0C.Encodable 800) ∧
    ∃ enough, ∀ fuel, enough ≤ fuel → ∀ cells, ∃ answer,
      cycleSimgenGetvalue (cycleSimgenCreate none ⟨0, 0⟩) fuel ⟨15, 0⟩ cells 0x0C = some answer ∧
        ((0x0C = 0x00 ∨ 0x0C = 0x20 ∨ 0x0C = 0x40) ∨ answer.count = 0 ∨
          ∃ cmd c r v, Sensed (cycleSimgenCreate none ⟨0, 0⟩) fuel ⟨15, 0⟩ 0x0C answer cmd c r v ∧
            (Arrives c r v ↔ c.Encodable v)) := by
  have hrow : ∃ cmd ∈ obdcmdsMode1, cmd.conv = some .pid0C ∧ cmd.convrev = some .pid0C ∧
      cmd.minValue = 0 ∧ cmd.maxValue = 16383.75 := by decide +kernel
  obtain ⟨cmd, hcmd, hc, hr, hmin, hmax⟩ := hrow
  have h := declared_arrives hcmd hc hr (v := 800) (by rw [hmin]; decide +kernel)
    (by rw [hmax]; decide +kernel)
  exact ⟨h.1, h.2 (cycleSimgenCreate none ⟨0, 0⟩) ⟨15, 0⟩ 0x0C⟩

end ObdGpsLogger.Sim
