import Mathlib.Tactic.NormNum
import ObdGpsLogger.Obdinfo.Convert

/-!
# Which values survive encoding

An encoder turns a value into bytes, and its decoder turns bytes back. The
codes of every conversion stand for equally spaced values (`Scale`): `offset`,
`offset + step`, and so on, for as many codes as fit into one byte or two. So a
value comes back up to one step exactly when it lies strictly between `lowest`,
a step below the first code, and `highest`, a step above the last
(`encodes_iff`).

The rows of the table declare ranges of their own. `encodes_declared` compares
the two: within the declared range of a row, a value is encodable exactly when
`Encodable` says so, which asks for something in eight of the conversions.
-/

namespace ObdGpsLogger.Obdinfo

open CLib

namespace ObdConversion

/-! ## Codes -/

/-- The number of bytes an encoder stores. -/
def width (r : ObdConversion) : Nat := (r.convrev 0).bytes.length

/-- The value of a list of bytes; those not given are 0. -/
def decode (c : ObdConversion) (bytes : List Nat) : Rat :=
  c.conv (bytes.getD 0 0) (bytes.getD 1 0) 0 0

/-- The bytes of the code `n`, high byte first. -/
def codeBytes (width n : Nat) : List Nat := if width = 1 then [n] else [n / 256, n % 256]

/-- The value that the code 0 of a conversion stands for. -/
def offset (c : ObdConversion) : Rat := c.decode (codeBytes c.width 0)

/-- The distance between two adjacent codes. -/
def step (c : ObdConversion) : Rat := c.decode (codeBytes c.width 1) - c.offset

/-- What the encoder of `r` stores for `v` is one byte or two, no negative
number is made unsigned, and the decoder of `c` gives `v` back up to one step. -/
structure Encodes (c r : ObdConversion) (v : Rat) : Prop where
  count : (r.convrev v).bytes.length = 1 ∨ (r.convrev v).bytes.length = 2
  nonneg : ∀ z ∈ (r.convrev v).converted, 0 ≤ z
  inByte : ∀ b ∈ (r.convrev v).bytes, b < 256
  within : |c.decode (r.convrev v).bytes - v| < c.step

/-! ## Scales -/

/-- A scale of equally spaced values: how many bytes its codes take, the
distance of adjacent values, and the first value. -/
structure Scale where
  bytes : Nat
  step : Rat
  offset : Rat
  deriving DecidableEq, Repr

/-- The scale of a conversion: its bytes, its step and its offset. -/
def scale : ObdConversion → Scale
  | .pid04 | .pid11 | .pid2C | .pid2E | .pid2F | .pid45 | .pid47to4B | .pid4C | .pid52 =>
    ⟨1, 100 / 255, 0⟩
  | .pid05 | .pid0F | .pid46 => ⟨1, 1, -40⟩
  | .pid06to09 | .pid2D => ⟨1, 0.78125, -100⟩
  | .pid0A => ⟨1, 3, 0⟩
  | .pid0B | .pid0D | .pid30 | .pid33 => ⟨1, 1, 0⟩
  | .pid0C => ⟨2, 0.25, 0⟩
  | .pid0E => ⟨1, 0.5, -64⟩
  | .pid10 => ⟨2, 0.01, 0⟩
  | .pid14to1B => ⟨1, 0.005, 0⟩
  | .pid1F | .pid21 | .pid31 | .pid4D | .pid4E => ⟨2, 1, 0⟩
  | .pid22 => ⟨2, 0.079, 0⟩
  | .pid23 => ⟨2, 10, 0⟩
  | .pid24to2B | .pid34to3B | .pid44 => ⟨2, 0.0000305, 0⟩
  | .pid32 => ⟨2, 0.25, -8192⟩
  | .pid3Cto3F => ⟨2, 0.1, -40⟩
  | .pid42 => ⟨2, 0.001, 0⟩
  | .pid43 => ⟨2, 100 / 255, 0⟩

theorem scale_bytes (c : ObdConversion) : c.scale.bytes = 1 ∨ c.scale.bytes = 2 := by
  cases c <;> simp [scale]

theorem scale_step_pos (c : ObdConversion) : 0 < c.scale.step := by
  cases c <;> norm_num [scale]

/-- Every decoder reads the scale of its conversion: it multiplies the code by
the step, and adds the offset. -/
theorem conv_scale (c : ObdConversion) (A B C D : Rat) :
    c.conv A B C D =
      c.scale.step * (if c.scale.bytes = 1 then A else A * 256 + B) + c.scale.offset := by
  cases c <;>
    simp only [conv, scale, obdConvert04, obdConvert05, obdConvert06To09, obdConvert0A,
      obdConvert0B, obdConvert0C, obdConvert0D, obdConvert0E, obdConvert0F, obdConvert10,
      obdConvert11, obdConvert14To1B, obdConvert1F, obdConvert21, obdConvert22, obdConvert23,
      obdConvert24To2B, obdConvert2C, obdConvert2D, obdConvert2E, obdConvert2F, obdConvert30,
      obdConvert31, obdConvert32, obdConvert33, obdConvert34To3B, obdConvert3CTo3F, obdConvert42,
      obdConvert43, obdConvert44, obdConvert45, obdConvert46, obdConvert47To4B, obdConvert4C,
      obdConvert4D, obdConvert4E, obdConvert52] <;>
    norm_num <;> ring

/-- How many bytes a decoder reads, which is the number of bytes that the codes
of its scale take. -/
def arity (c : ObdConversion) : Nat := c.scale.bytes

/-- A decoder reads its first one or two bytes, as many as its scale has, and no
others. -/
theorem conv_congr {c : ObdConversion} {A B C D A' B' C' D' : Rat} (hA : A = A')
    (hB : c.arity = 2 → B = B') : c.conv A B C D = c.conv A' B' C' D' := by
  rw [conv_scale, conv_scale, hA]
  rcases c.scale_bytes with h | h
  · rw [if_pos h, if_pos h]
  · rw [hB h]

/-- A decoder of two bytes does read the second of them: its value changes with
that byte. -/
theorem conv_ne {c : ObdConversion} {A B C D B' C' D' : Rat} (h : c.arity = 2) (hB : B ≠ B') :
    c.conv A B C D ≠ c.conv A B' C' D' := by
  have hbytes : ¬ c.scale.bytes = 1 := by
    rw [show c.scale.bytes = 2 from h]
    decide
  rw [conv_scale, conv_scale, if_neg hbytes, if_neg hbytes]
  intro heq
  have hmul := add_right_cancel heq
  exact hB (add_left_cancel (mul_left_cancel₀ (ne_of_gt c.scale_step_pos) hmul))

/-- Every encoder, with the exception of that of the fuel trims, rounds the
place of the value on the scale down to a code. -/
theorem convrev_scale {r : ObdConversion} (h : r ≠ .pid06to09) (v : Rat) :
    r.convrev v = (if r.scale.bytes = 1 then oneByte else twoBytes)
      ((v - r.scale.offset) / r.scale.step) := by
  cases r <;>
    first
      | exact absurd rfl h
      | (simp only [convrev, scale, obdRevConvert04, obdRevConvert05, obdRevConvert0A,
          obdRevConvert0B, obdRevConvert0C, obdRevConvert0D, obdRevConvert0E, obdRevConvert0F,
          obdRevConvert10, obdRevConvert11, obdRevConvert14To1B, obdRevConvert1F,
          obdRevConvert21, obdRevConvert22, obdRevConvert23, obdRevConvert24To2B, obdRevConvert2C,
          obdRevConvert2D, obdRevConvert2E, obdRevConvert2F, obdRevConvert30, obdRevConvert31,
          obdRevConvert32, obdRevConvert33, obdRevConvert34To3B, obdRevConvert3CTo3F,
          obdRevConvert42, obdRevConvert43, obdRevConvert44, obdRevConvert45, obdRevConvert46,
          obdRevConvert47To4B, obdRevConvert4C, obdRevConvert4D, obdRevConvert4E, obdRevConvert52,
          Nat.reduceEqDiff, ↓reduceIte]
         congr 1
         ring)

/-- How many bytes an encoder stores depends on the conversion only, and not on
the value it is called with. -/
theorem convrev_length (r : ObdConversion) (v : Rat) :
    (r.convrev v).bytes.length = r.scale.bytes := by
  cases r <;> rfl

theorem width_eq (r : ObdConversion) : r.width = r.scale.bytes := r.convrev_length 0

theorem offset_eq (c : ObdConversion) : c.offset = c.scale.offset := by
  unfold offset decode codeBytes
  rw [conv_scale, width_eq]
  rcases c.scale_bytes with h | h <;> simp [h]

theorem step_eq (c : ObdConversion) : c.step = c.scale.step := by
  unfold step
  rw [offset_eq]
  unfold decode codeBytes
  rw [conv_scale, width_eq]
  rcases c.scale_bytes with h | h <;> simp [h]

/-! ## The ends of a scale -/

/-- A step below the first code. The encoder of the fuel trims makes the number
unsigned before it adds the code of zero, and gets no lower than a step below
zero. -/
def lowest (c : ObdConversion) : Rat := if c = .pid06to09 then -c.step else c.offset - c.step

/-- The value a step above that of the last code, which is the first too large
to encode. -/
def highest (c : ObdConversion) : Rat := c.step * 256 ^ c.width + c.offset

/-- Two points of a scale are less than a step apart when their places are less
than one apart. -/
theorem near_iff {a : Rat} (ha : 0 < a) (b x y : Rat) :
    |(a * y + b) - (a * x + b)| < a ↔ |y - x| < 1 := by
  have hdiff : (a * y + b) - (a * x + b) = a * (y - x) := by ring
  rw [hdiff, abs_mul, abs_of_pos ha]
  constructor
  · intro h
    exact lt_of_mul_lt_mul_left (by linarith) ha.le
  · intro h
    exact mul_lt_of_lt_one_right ha h

/-- A byte holds the whole part of the numbers above `-1` and below 256. -/
theorem oneByte_iff (x : Rat) :
    (0 ≤ trunc x ∧ toUnsigned (trunc x) < 256 ∧ |(toUnsigned (trunc x) : Rat) - x| < 1) ↔
      -1 < x ∧ x < 256 := by
  constructor
  · rintro ⟨h0, hbyte, hnear⟩
    refine ⟨trunc_nonneg_iff.mp h0, ?_⟩
    have hle : (toUnsigned (trunc x) : Rat) ≤ 255 := by exact_mod_cast Nat.le_of_lt_succ hbyte
    linarith [(abs_lt.mp hnear).1]
  · rintro ⟨hlow, hhigh⟩
    have h0 := trunc_nonneg_iff.mpr hlow
    have hlt : trunc x < 256 := (trunc_lt_iff (by decide)).mpr (by exact_mod_cast hhigh)
    have hu := toUnsigned_of_nonneg h0 (by omega)
    have hu' : (toUnsigned (trunc x) : Rat) = trunc x := by exact_mod_cast hu
    exact ⟨h0, by omega, hu' ▸ abs_trunc_sub_lt x⟩

/-- Two bytes hold that of the numbers above `-1` and below 65536. -/
theorem twoBytes_iff (x : Rat) :
    ((0 ≤ (trunc x).tdiv 256 ∧ 0 ≤ (trunc x).tmod 256) ∧
      (toUnsigned ((trunc x).tdiv 256) < 256 ∧ toUnsigned ((trunc x).tmod 256) < 256) ∧
      |(toUnsigned ((trunc x).tdiv 256) : Rat) * 256 + toUnsigned ((trunc x).tmod 256) - x| < 1) ↔
      -1 < x ∧ x < 65536 := by
  have hsplit := Int.mul_tdiv_add_tmod (trunc x) 256
  constructor
  · rintro ⟨⟨hhi, hlo⟩, ⟨hhi8, hlo8⟩, hnear⟩
    refine ⟨trunc_nonneg_iff.mp (by omega), ?_⟩
    have hhi' : (toUnsigned ((trunc x).tdiv 256) : Rat) ≤ 255 := by
      exact_mod_cast Nat.le_of_lt_succ hhi8
    have hlo' : (toUnsigned ((trunc x).tmod 256) : Rat) ≤ 255 := by
      exact_mod_cast Nat.le_of_lt_succ hlo8
    linarith [(abs_lt.mp hnear).1]
  · rintro ⟨hlow, hhigh⟩
    have h0 := trunc_nonneg_iff.mpr hlow
    have hlt : trunc x < 65536 := (trunc_lt_iff (by decide)).mpr (by exact_mod_cast hhigh)
    rw [Int.tdiv_eq_ediv_of_nonneg h0, Int.tmod_eq_emod_of_nonneg h0] at *
    have hhi := toUnsigned_of_nonneg (by omega : 0 ≤ trunc x / 256) (by omega)
    have hlo := toUnsigned_of_nonneg (by omega : 0 ≤ trunc x % 256) (by omega)
    have hcode : (toUnsigned (trunc x / 256) : Rat) * 256 + toUnsigned (trunc x % 256) =
        trunc x := by
      have : (toUnsigned (trunc x / 256) : Int) * 256 + toUnsigned (trunc x % 256) = trunc x := by
        omega
      exact_mod_cast this
    exact ⟨⟨by omega, by omega⟩, ⟨by omega, by omega⟩, hcode ▸ abs_trunc_sub_lt x⟩

section Encoders

variable {c r : ObdConversion} {v x : Rat}

theorem encodes_oneByte (hb : c.scale.bytes = 1) (hrev : r.convrev v = oneByte x)
    (hv : c.scale.step * x + c.scale.offset = v) : c.Encodes r v ↔ -1 < x ∧ x < 256 := by
  have hdec : c.decode (r.convrev v).bytes - v =
      (c.scale.step * toUnsigned (trunc x) + c.scale.offset) -
        (c.scale.step * x + c.scale.offset) := by
    rw [hrev, decode, conv_scale, if_pos hb, hv]
    rfl
  rw [← oneByte_iff, ← near_iff c.scale_step_pos c.scale.offset, ← hdec]
  constructor
  · rintro ⟨-, h1, h2, h3⟩
    rw [hrev] at h1 h2
    exact ⟨h1 _ (by simp [oneByte]), h2 _ (by simp [oneByte]), step_eq c ▸ h3⟩
  · rintro ⟨h1, h2, h3⟩
    refine ⟨Or.inl (by rw [hrev]; rfl), ?_, ?_, step_eq c ▸ h3⟩
    · rw [hrev]
      simpa [oneByte] using h1
    · rw [hrev]
      simpa [oneByte] using h2

theorem encodes_twoBytes (hb : c.scale.bytes = 2) (hrev : r.convrev v = twoBytes x)
    (hv : c.scale.step * x + c.scale.offset = v) : c.Encodes r v ↔ -1 < x ∧ x < 65536 := by
  have hdec : c.decode (r.convrev v).bytes - v =
      (c.scale.step * ((toUnsigned ((trunc x).tdiv 256) : Rat) * 256 +
          toUnsigned ((trunc x).tmod 256)) + c.scale.offset) -
        (c.scale.step * x + c.scale.offset) := by
    rw [hrev, decode, conv_scale, if_neg (by omega), hv]
    rfl
  rw [← twoBytes_iff, ← near_iff c.scale_step_pos c.scale.offset, ← hdec]
  constructor
  · rintro ⟨-, h1, h2, h3⟩
    rw [hrev] at h1 h2
    exact ⟨⟨h1 _ (by simp [twoBytes]), h1 _ (by simp [twoBytes])⟩,
      ⟨h2 _ (by simp [twoBytes]), h2 _ (by simp [twoBytes])⟩, step_eq c ▸ h3⟩
  · rintro ⟨h1, h2, h3⟩
    refine ⟨Or.inr (by rw [hrev]; rfl), ?_, ?_, step_eq c ▸ h3⟩
    · rw [hrev]
      simpa [twoBytes] using h1
    · rw [hrev]
      simpa [twoBytes] using h2

/-- The fuel trims add the code of zero to a number that is already unsigned. -/
theorem encodes_trim (hv : 0.78125 * x = v) :
    pid06to09.Encodes .pid06to09 v ↔ -1 < x ∧ x < 128 := by
  have hx : 128 * v / 100 = x := by
    rw [← hv]
    norm_num
    ring
  have hrev : convrev .pid06to09 v = ⟨[trunc x], [(toUnsigned (trunc x) + 128) % 2 ^ 32]⟩ := by
    rw [← hx]
    rfl
  have hdec : pid06to09.decode (convrev .pid06to09 v).bytes - v =
      (0.78125 * (((toUnsigned (trunc x) + 128) % 2 ^ 32 : Nat) : Rat) + (-100)) -
        (0.78125 * (x + 128) + (-100)) := by
    rw [hrev, decode, conv_scale, ← hv]
    simp only [scale, List.getD_cons_zero, ↓reduceIte]
    ring
  have hstep : pid06to09.step = 0.78125 := by
    rw [step_eq]
    rfl
  -- the place of the value on the scale is `x + 128`, and it is `x` that is made unsigned
  have hnear : |pid06to09.decode (convrev .pid06to09 v).bytes - v| < pid06to09.step ↔
      |(((toUnsigned (trunc x) + 128) % 2 ^ 32 : Nat) : Rat) - (x + 128)| < 1 := by
    rw [hdec, hstep, near_iff (by norm_num)]
  constructor
  · -- a negative `x` is out of the range of an `unsigned int`, one from 128 on out of a byte
    rintro ⟨-, h1, h2, h3⟩
    rw [hnear] at h3
    rw [hrev] at h1 h2
    have h0 : 0 ≤ trunc x := h1 _ (by simp)
    have hbyte : (toUnsigned (trunc x) + 128) % 2 ^ 32 < 256 := h2 _ (by simp)
    have hle : (((toUnsigned (trunc x) + 128) % 2 ^ 32 : Nat) : Rat) ≤ 255 := by
      exact_mod_cast Nat.le_of_lt_succ hbyte
    exact ⟨trunc_nonneg_iff.mp h0, by linarith [(abs_lt.mp h3).1]⟩
  · rintro ⟨hlow, hhigh⟩
    have h0 := trunc_nonneg_iff.mpr hlow
    have hlt : trunc x < 128 := (trunc_lt_iff (by decide)).mpr (by exact_mod_cast hhigh)
    have hu := toUnsigned_of_nonneg h0 (by omega)
    have hcode : ((toUnsigned (trunc x) + 128) % 2 ^ 32 : Nat) = toUnsigned (trunc x) + 128 := by
      omega
    have hplace : ((toUnsigned (trunc x) + 128 : Nat) : Rat) - (x + 128) = trunc x - x := by
      have hu' : (toUnsigned (trunc x) : Rat) = trunc x := by exact_mod_cast hu
      push_cast
      rw [hu']
      ring
    refine ⟨Or.inl (by rw [hrev]; rfl), ?_, ?_, ?_⟩
    · rw [hrev]
      simpa using h0
    · rw [hrev, hcode]
      simp only [List.mem_singleton, forall_eq]
      omega
    · rw [hnear, hcode, hplace]
      exact abs_trunc_sub_lt x

end Encoders

/-- **What can be encoded**: the values between the ends of the scale. -/
theorem encodes_iff (c : ObdConversion) (v : Rat) :
    c.Encodes c v ↔ c.lowest < v ∧ v < c.highest := by
  have ha := c.scale_step_pos
  by_cases htrim : c = .pid06to09
  · subst htrim
    rw [encodes_trim (x := v / 0.78125) (by norm_num; ring), lowest, if_pos rfl, highest, step_eq,
      offset_eq, width_eq, lt_div_iff₀ (by norm_num), div_lt_iff₀ (by norm_num)]
    norm_num [scale]
  · have hv : c.scale.step * ((v - c.scale.offset) / c.scale.step) + c.scale.offset = v := by
      field_simp
      ring
    have hrev := convrev_scale htrim v
    rw [lowest, if_neg htrim, highest, step_eq, offset_eq, width_eq]
    rcases c.scale_bytes with hb | hb
    · rw [hb, if_pos rfl] at hrev
      rw [encodes_oneByte hb hrev hv, hb, lt_div_iff₀ ha, div_lt_iff₀ ha]
      constructor <;> rintro ⟨h1, h2⟩ <;> constructor <;> linarith
    · rw [hb, if_neg (by decide)] at hrev
      rw [encodes_twoBytes hb hrev hv, hb, lt_div_iff₀ ha, div_lt_iff₀ ha]
      constructor <;> rintro ⟨h1, h2⟩ <;> constructor <;> linarith

/-! ## Declared ranges -/

/-- The bound a value has to be above, where rows declare values below the
scale. -/
def lowLimit : ObdConversion → Option Rat
  | .pid06to09 => some (-0.78125)
  | .pid0A => some (-3)
  | _ => none

/-- The bound a value has to be below, where rows declare values above it. -/
def highLimit : ObdConversion → Option Rat
  | .pid0B => some 256
  | .pid24to2B | .pid34to3B | .pid44 => some 1.998848
  | .pid32 => some 8192
  | .pid42 => some 65.536
  | _ => none

/-- What a value has to be, besides in the declared range of a row. -/
def Encodable (c : ObdConversion) (v : Rat) : Prop :=
  (∀ low ∈ c.lowLimit, low < v) ∧ ∀ high ∈ c.highLimit, v < high

instance (c : ObdConversion) (v : Rat) : Decidable (c.Encodable v) :=
  inferInstanceAs (Decidable (_ ∧ _))

/-- The limits are the ends of the scale, where a row reaches them. -/
def LimitsOk (cmd : ObdServiceCmd) (c : ObdConversion) : Prop :=
  (c.lowLimit.getD c.lowest = c.lowest ∧ c.highLimit.getD c.highest = c.highest) ∧
    (c.lowLimit = none → c.lowest < cmd.minValue) ∧
    (c.highLimit = none → cmd.maxValue < c.highest)

instance (cmd : ObdServiceCmd) (c : ObdConversion) : Decidable (LimitsOk cmd c) :=
  inferInstanceAs (Decidable ((_ ∧ _) ∧ _ ∧ _))

/-- The rows name decoder and encoder of one pair, and the limits fit them. -/
theorem rows_limitsOk : ∀ cmd ∈ obdcmdsMode1,
    cmd.conv = cmd.convrev ∧ ∀ c ∈ cmd.conv, LimitsOk cmd c := by
  decide +kernel

end ObdConversion

open ObdConversion

/-- **Declared ranges.** In the range its row declares, a value survives
encoding exactly when it is encodable. -/
theorem encodes_declared {cmd : ObdServiceCmd} (hcmd : cmd ∈ obdcmdsMode1) {c r : ObdConversion}
    (hc : cmd.conv = some c) (hr : cmd.convrev = some r) {v : Rat} (hmin : cmd.minValue ≤ v)
    (hmax : v ≤ cmd.maxValue) : c.Encodes r v ↔ c.Encodable v := by
  obtain ⟨hpair, hlimits⟩ := rows_limitsOk cmd hcmd
  obtain rfl : c = r := by simpa [hc, hr] using hpair
  obtain ⟨⟨hlow, hhigh⟩, hmin', hmax'⟩ := hlimits c hc
  rw [encodes_iff, ObdConversion.Encodable]
  refine and_congr ?_ ?_
  · cases hl : c.lowLimit with
    | none => simpa using lt_of_lt_of_le (hmin' hl) hmin
    | some low =>
      rw [hl, Option.getD_some] at hlow
      simp [hlow]
  · cases hh : c.highLimit with
    | none => simpa using lt_of_le_of_lt hmax (hmax' hh)
    | some high =>
      rw [hh, Option.getD_some] at hhigh
      simp [hhigh]

end ObdGpsLogger.Obdinfo
