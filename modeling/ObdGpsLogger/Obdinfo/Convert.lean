import ObdGpsLogger.CLib.Arith
import ObdGpsLogger.Obdinfo.ServiceCommands

/-!
# Bytes and values

`obdconvertfunctions.c` turns the bytes of a reply into a value, and
`obdrevconvertfunctions.c` a value into bytes: one of each for every row of
the table that has a conversion.

Mirroring notes:
- `float` and `double` are exact rationals, and the constants the decimal
  numbers written in the source.
- A decoder gets four bytes and uses the first, or the first two.
- An encoder stores one byte or two, and returns how many (`Encoded.bytes`).
  The integers it converts to `unsigned int` on the way are reported as well
  (`Encoded.converted`): the conversion of a negative `float` is undefined, and
  that of a negative `long` wraps.
-/

namespace ObdGpsLogger.Obdinfo

open CLib

/-- What an encoder stores through `A`, `B`, …, and the integers it converted
to `unsigned int`. -/
structure Encoded where
  converted : List Int
  bytes : List Nat
  deriving DecidableEq, Repr

/-- `*A = (unsigned int)x`: a value in one byte. -/
def oneByte (x : Rat) : Encoded := ⟨[trunc x], [toUnsigned (trunc x)]⟩

/-- `*A = (unsigned int)((long)x / 256)`, `*B = (unsigned int)((long)x % 256)`. -/
def twoBytes (x : Rat) : Encoded :=
  let high := (trunc x).tdiv 256
  let low := (trunc x).tmod 256
  ⟨[high, low], [toUnsigned high, toUnsigned low]⟩

/-! ## From bytes to values -/

/-- `obdConvert_04`. -/
def obdConvert04 (A _ _ _ : Rat) : Rat := A * 100 / 255

/-- `obdConvert_05`. -/
def obdConvert05 (A _ _ _ : Rat) : Rat := A - 40

/-- `obdConvert_06_09`. -/
def obdConvert06To09 (A _ _ _ : Rat) : Rat := (A - 128) * 100 / 128

/-- `obdConvert_0A`. -/
def obdConvert0A (A _ _ _ : Rat) : Rat := A * 3

/-- `obdConvert_0B`. -/
def obdConvert0B (A _ _ _ : Rat) : Rat := A

/-- `obdConvert_0C`. -/
def obdConvert0C (A B _ _ : Rat) : Rat := (A * 256 + B) / 4

/-- `obdConvert_0D`. -/
def obdConvert0D (A _ _ _ : Rat) : Rat := A

/-- `obdConvert_0E`. -/
def obdConvert0E (A _ _ _ : Rat) : Rat := A / 2 - 64

/-- `obdConvert_0F`. -/
def obdConvert0F (A _ _ _ : Rat) : Rat := A - 40

/-- `obdConvert_10`. -/
def obdConvert10 (A B _ _ : Rat) : Rat := (A * 256 + B) / 100

/-- `obdConvert_11`. -/
def obdConvert11 (A _ _ _ : Rat) : Rat := A * 100 / 255

/-- `obdConvert_14_1B`. -/
def obdConvert14To1B (A _ _ _ : Rat) : Rat := A * 0.005

/-- `obdConvert_1F`. -/
def obdConvert1F (A B _ _ : Rat) : Rat := A * 256 + B

/-- `obdConvert_21`. -/
def obdConvert21 (A B _ _ : Rat) : Rat := A * 256 + B

/-- `obdConvert_22`. -/
def obdConvert22 (A B _ _ : Rat) : Rat := (A * 256 + B) * 0.079

/-- `obdConvert_23`. -/
def obdConvert23 (A B _ _ : Rat) : Rat := (A * 256 + B) * 10

/-- `obdConvert_24_2B`. -/
def obdConvert24To2B (A B _ _ : Rat) : Rat := (A * 256 + B) * 0.0000305

/-- `obdConvert_2C`. -/
def obdConvert2C (A _ _ _ : Rat) : Rat := A * 100 / 255

/-- `obdConvert_2D`. -/
def obdConvert2D (A _ _ _ : Rat) : Rat := A * 0.78125 - 100

/-- `obdConvert_2E`. -/
def obdConvert2E (A _ _ _ : Rat) : Rat := A * 100 / 255

/-- `obdConvert_2F`. -/
def obdConvert2F (A _ _ _ : Rat) : Rat := A * 100 / 255

/-- `obdConvert_30`. -/
def obdConvert30 (A _ _ _ : Rat) : Rat := A

/-- `obdConvert_31`. -/
def obdConvert31 (A B _ _ : Rat) : Rat := A * 256 + B

/-- `obdConvert_32`. -/
def obdConvert32 (A B _ _ : Rat) : Rat := (A * 256 + B) / 4 - 8192

/-- `obdConvert_33`. -/
def obdConvert33 (A _ _ _ : Rat) : Rat := A

/-- `obdConvert_34_3B`. -/
def obdConvert34To3B (A B _ _ : Rat) : Rat := (A * 256 + B) * 0.0000305

/-- `obdConvert_3C_3F`. -/
def obdConvert3CTo3F (A B _ _ : Rat) : Rat := (A * 256 + B) / 10 - 40

/-- `obdConvert_42`. -/
def obdConvert42 (A B _ _ : Rat) : Rat := (A * 256 + B) / 1000

/-- `obdConvert_43`. -/
def obdConvert43 (A B _ _ : Rat) : Rat := (A * 256 + B) * 100 / 255

/-- `obdConvert_44`. -/
def obdConvert44 (A B _ _ : Rat) : Rat := (A * 256 + B) * 0.0000305

/-- `obdConvert_45`. -/
def obdConvert45 (A _ _ _ : Rat) : Rat := A * 100 / 255

/-- `obdConvert_46`. -/
def obdConvert46 (A _ _ _ : Rat) : Rat := A - 40

/-- `obdConvert_47_4B`. -/
def obdConvert47To4B (A _ _ _ : Rat) : Rat := A * 100 / 255

/-- `obdConvert_4C`. -/
def obdConvert4C (A _ _ _ : Rat) : Rat := A * 100 / 255

/-- `obdConvert_4D`. -/
def obdConvert4D (A B _ _ : Rat) : Rat := A * 256 + B

/-- `obdConvert_4E`. -/
def obdConvert4E (A B _ _ : Rat) : Rat := A * 256 + B

/-- `obdConvert_52`. -/
def obdConvert52 (A _ _ _ : Rat) : Rat := A * 100 / 255

/-! ## From values to bytes -/

/-- `obdRevConvert_04`. -/
def obdRevConvert04 (val : Rat) : Encoded := oneByte (255 * val / 100)

/-- `obdRevConvert_05`. -/
def obdRevConvert05 (val : Rat) : Encoded := oneByte (val + 40)

/-- `obdRevConvert_06_09`: the offset is added after the conversion. -/
def obdRevConvert06To09 (val : Rat) : Encoded :=
  ⟨[trunc (128 * val / 100)], [(toUnsigned (trunc (128 * val / 100)) + 128) % 2 ^ 32]⟩

/-- `obdRevConvert_0A`. -/
def obdRevConvert0A (val : Rat) : Encoded := oneByte (val / 3)

/-- `obdRevConvert_0B`. -/
def obdRevConvert0B (val : Rat) : Encoded := oneByte val

/-- `obdRevConvert_0C`. -/
def obdRevConvert0C (val : Rat) : Encoded := twoBytes (val * 4)

/-- `obdRevConvert_0D`. -/
def obdRevConvert0D (val : Rat) : Encoded := oneByte val

/-- `obdRevConvert_0E`. -/
def obdRevConvert0E (val : Rat) : Encoded := oneByte ((val + 64) * 2)

/-- `obdRevConvert_0F`. -/
def obdRevConvert0F (val : Rat) : Encoded := oneByte (val + 40)

/-- `obdRevConvert_10`. -/
def obdRevConvert10 (val : Rat) : Encoded := twoBytes (val * 100)

/-- `obdRevConvert_11`. -/
def obdRevConvert11 (val : Rat) : Encoded := oneByte (255 * val / 100)

/-- `obdRevConvert_14_1B`. -/
def obdRevConvert14To1B (val : Rat) : Encoded := oneByte (val / 0.005)

/-- `obdRevConvert_1F`. -/
def obdRevConvert1F (val : Rat) : Encoded := twoBytes val

/-- `obdRevConvert_21`. -/
def obdRevConvert21 (val : Rat) : Encoded := twoBytes val

/-- `obdRevConvert_22`. -/
def obdRevConvert22 (val : Rat) : Encoded := twoBytes (val / 0.079)

/-- `obdRevConvert_23`. -/
def obdRevConvert23 (val : Rat) : Encoded := twoBytes (val / 10)

/-- `obdRevConvert_24_2B`. -/
def obdRevConvert24To2B (val : Rat) : Encoded := twoBytes (val / 0.0000305)

/-- `obdRevConvert_2C`. -/
def obdRevConvert2C (val : Rat) : Encoded := oneByte (255 * val / 100)

/-- `obdRevConvert_2D`. -/
def obdRevConvert2D (val : Rat) : Encoded := oneByte ((val + 100) / 0.78125)

/-- `obdRevConvert_2E`. -/
def obdRevConvert2E (val : Rat) : Encoded := oneByte (255 * val / 100)

/-- `obdRevConvert_2F`. -/
def obdRevConvert2F (val : Rat) : Encoded := oneByte (255 * val / 100)

/-- `obdRevConvert_30`. -/
def obdRevConvert30 (val : Rat) : Encoded := oneByte val

/-- `obdRevConvert_31`. -/
def obdRevConvert31 (val : Rat) : Encoded := twoBytes val

/-- `obdRevConvert_32`. -/
def obdRevConvert32 (val : Rat) : Encoded := twoBytes ((val + 8192) * 4)

/-- `obdRevConvert_33`. -/
def obdRevConvert33 (val : Rat) : Encoded := oneByte val

/-- `obdRevConvert_34_3B`. -/
def obdRevConvert34To3B (val : Rat) : Encoded := twoBytes (val / 0.0000305)

/-- `obdRevConvert_3C_3F`. -/
def obdRevConvert3CTo3F (val : Rat) : Encoded := twoBytes ((val + 40) * 10)

/-- `obdRevConvert_42`. -/
def obdRevConvert42 (val : Rat) : Encoded := twoBytes (val * 1000)

/-- `obdRevConvert_43`. -/
def obdRevConvert43 (val : Rat) : Encoded := twoBytes (val * 255 / 100)

/-- `obdRevConvert_44`. -/
def obdRevConvert44 (val : Rat) : Encoded := twoBytes (val / 0.0000305)

/-- `obdRevConvert_45`. -/
def obdRevConvert45 (val : Rat) : Encoded := oneByte (255 * val / 100)

/-- `obdRevConvert_46`. -/
def obdRevConvert46 (val : Rat) : Encoded := oneByte (val + 40)

/-- `obdRevConvert_47_4B`. -/
def obdRevConvert47To4B (val : Rat) : Encoded := oneByte (255 * val / 100)

/-- `obdRevConvert_4C`. -/
def obdRevConvert4C (val : Rat) : Encoded := oneByte (255 * val / 100)

/-- `obdRevConvert_4D`. -/
def obdRevConvert4D (val : Rat) : Encoded := twoBytes val

/-- `obdRevConvert_4E`. -/
def obdRevConvert4E (val : Rat) : Encoded := twoBytes val

/-- `obdRevConvert_52`. -/
def obdRevConvert52 (val : Rat) : Encoded := oneByte (255 * val / 100)

/-! ## The function pointers of a row -/

/-- The decoder that a row of the table names. -/
def ObdConversion.conv : ObdConversion → Rat → Rat → Rat → Rat → Rat
  | .pid04 => obdConvert04
  | .pid05 => obdConvert05
  | .pid06to09 => obdConvert06To09
  | .pid0A => obdConvert0A
  | .pid0B => obdConvert0B
  | .pid0C => obdConvert0C
  | .pid0D => obdConvert0D
  | .pid0E => obdConvert0E
  | .pid0F => obdConvert0F
  | .pid10 => obdConvert10
  | .pid11 => obdConvert11
  | .pid14to1B => obdConvert14To1B
  | .pid1F => obdConvert1F
  | .pid21 => obdConvert21
  | .pid22 => obdConvert22
  | .pid23 => obdConvert23
  | .pid24to2B => obdConvert24To2B
  | .pid2C => obdConvert2C
  | .pid2D => obdConvert2D
  | .pid2E => obdConvert2E
  | .pid2F => obdConvert2F
  | .pid30 => obdConvert30
  | .pid31 => obdConvert31
  | .pid32 => obdConvert32
  | .pid33 => obdConvert33
  | .pid34to3B => obdConvert34To3B
  | .pid3Cto3F => obdConvert3CTo3F
  | .pid42 => obdConvert42
  | .pid43 => obdConvert43
  | .pid44 => obdConvert44
  | .pid45 => obdConvert45
  | .pid46 => obdConvert46
  | .pid47to4B => obdConvert47To4B
  | .pid4C => obdConvert4C
  | .pid4D => obdConvert4D
  | .pid4E => obdConvert4E
  | .pid52 => obdConvert52

/-- The encoder that a row of the table names. -/
def ObdConversion.convrev : ObdConversion → Rat → Encoded
  | .pid04 => obdRevConvert04
  | .pid05 => obdRevConvert05
  | .pid06to09 => obdRevConvert06To09
  | .pid0A => obdRevConvert0A
  | .pid0B => obdRevConvert0B
  | .pid0C => obdRevConvert0C
  | .pid0D => obdRevConvert0D
  | .pid0E => obdRevConvert0E
  | .pid0F => obdRevConvert0F
  | .pid10 => obdRevConvert10
  | .pid11 => obdRevConvert11
  | .pid14to1B => obdRevConvert14To1B
  | .pid1F => obdRevConvert1F
  | .pid21 => obdRevConvert21
  | .pid22 => obdRevConvert22
  | .pid23 => obdRevConvert23
  | .pid24to2B => obdRevConvert24To2B
  | .pid2C => obdRevConvert2C
  | .pid2D => obdRevConvert2D
  | .pid2E => obdRevConvert2E
  | .pid2F => obdRevConvert2F
  | .pid30 => obdRevConvert30
  | .pid31 => obdRevConvert31
  | .pid32 => obdRevConvert32
  | .pid33 => obdRevConvert33
  | .pid34to3B => obdRevConvert34To3B
  | .pid3Cto3F => obdRevConvert3CTo3F
  | .pid42 => obdRevConvert42
  | .pid43 => obdRevConvert43
  | .pid44 => obdRevConvert44
  | .pid45 => obdRevConvert45
  | .pid46 => obdRevConvert46
  | .pid47to4B => obdRevConvert47To4B
  | .pid4C => obdRevConvert4C
  | .pid4D => obdRevConvert4D
  | .pid4E => obdRevConvert4E
  | .pid52 => obdRevConvert52

end ObdGpsLogger.Obdinfo
