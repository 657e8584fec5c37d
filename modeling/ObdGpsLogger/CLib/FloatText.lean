import Mathlib.Algebra.Order.Floor.Ring
import Mathlib.Data.Int.Log
import Mathlib.Data.Rat.Floor
import Mathlib.Tactic.Linarith
import Mathlib.Tactic.NormNum
import Mathlib.Tactic.Ring
import ObdGpsLogger.CLib.ScanInt

/-!
# `%f` printing

`fmtF x` is what `printf("%f", x)` writes: a sign, the whole part, and six digits
of the fraction. The last digit is rounded (`rint`), to the even neighbour if it
is in the middle of two.

`readF` is the number such a text stands for. Reading back what was printed gives
the number with its fraction cut to millionths (`readF_fmtF`), which is at most
half a millionth away (`abs_millionths_sub_le`).

`double` is the rounding that a program makes that keeps such a number in 53 bits.
-/

namespace ObdGpsLogger.CLib

/-! ## Rounding -/

/-- The nearest whole number, the even one if there are two. -/
def rint (x : Rat) : Int :=
  let below := ⌊x⌋
  if x - below < 1 / 2 then below
  else if 1 / 2 < x - below then below + 1
  else if below % 2 = 0 then below
  else below + 1

theorem abs_rint_sub_le (x : Rat) : |(rint x : Rat) - x| ≤ 1 / 2 := by
  have hle := Int.floor_le x
  have hlt := Int.lt_floor_add_one x
  unfold rint
  dsimp only
  rw [abs_le]
  split
  · constructor <;> linarith
  split
  · push_cast
    constructor <;> linarith
  split
  · constructor <;> linarith
  · push_cast
    constructor <;> linarith

theorem rint_nonneg {x : Rat} (h : 0 ≤ x) : 0 ≤ rint x := by
  have hfloor := Int.floor_nonneg.mpr h
  unfold rint
  dsimp only
  split
  · exact hfloor
  split
  · omega
  split <;> omega

/-- Rounding to the nearest integer does not go beyond an integer that bounds
the number from above. -/
theorem rint_le {x : Rat} {n : Int} (h : x ≤ n) : rint x ≤ n := by
  have habs := (abs_le.mp (abs_rint_sub_le x)).2
  by_contra hlt
  have hge : ((n + 1 : Int) : Rat) ≤ rint x := Int.cast_le.mpr (by omega)
  push_cast at hge
  linarith

/-! ## Doubles -/

/-- The exponent of the last of the 53 bits of a number. -/
def lastBit (x : Rat) : Int := Int.log 2 |x| - 52

/-- The nearest number of 53 bits. Its exponent is not bounded. -/
def double (x : Rat) : Rat := (rint (x / 2 ^ lastBit x) : Rat) * 2 ^ lastBit x

/-- Storing a number in a `double` changes it by half of its last bit at most,
that is by one part in 2 to the power of 53. -/
theorem abs_double_sub_le {x : Rat} (hx : x ≠ 0) : |double x - x| ≤ |x| / 2 ^ 53 := by
  have hpos : (0 : Rat) < 2 ^ lastBit x := zpow_pos (by norm_num) _
  have hsplit : double x - x =
      ((rint (x / 2 ^ lastBit x) : Rat) - x / 2 ^ lastBit x) * 2 ^ lastBit x := by
    rw [double, sub_mul, div_mul_cancel₀ x hpos.ne']
  -- the number has its first bit where the logarithm says
  have hfirst : (2 : Rat) ^ lastBit x * 2 ^ 52 ≤ |x| := by
    have hlog := Int.zpow_log_le_self (b := 2) (by decide) (abs_pos.mpr hx)
    have hshift : (2 : Rat) ^ lastBit x * 2 ^ 52 = 2 ^ Int.log 2 |x| := by
      rw [lastBit, zpow_sub₀ (by norm_num)]
      norm_num
    rw [hshift]
    exact_mod_cast hlog
  calc |double x - x| = |(rint (x / 2 ^ lastBit x) : Rat) - x / 2 ^ lastBit x| * 2 ^ lastBit x := by
        rw [hsplit, abs_mul, abs_of_pos hpos]
    _ ≤ 1 / 2 * 2 ^ lastBit x := mul_le_mul_of_nonneg_right (abs_rint_sub_le _) hpos.le
    _ = (2 ^ lastBit x * 2 ^ 52) / 2 ^ 53 := by ring
    _ ≤ |x| / 2 ^ 53 := div_le_div_of_nonneg_right hfirst (by positivity)

/-! ## The number that is printed -/

/-- The millionths that are printed, without the sign. -/
def printedMillionths (x : Rat) : Nat := (rint (|x| * 10 ^ 6)).toNat

/-- The number that a printed text reads as: `x`, rounded to whole millionths. -/
def millionths (x : Rat) : Rat :=
  (if x < 0 then -(printedMillionths x : Rat) else printedMillionths x) / 10 ^ 6

/-- The number that `%f` prints differs from the one it is given by half a
millionth at most. -/
theorem abs_millionths_sub_le (x : Rat) : |millionths x - x| ≤ 1 / 2 / 10 ^ 6 := by
  have hnonneg : 0 ≤ rint (|x| * 10 ^ 6) := rint_nonneg (by positivity)
  have hcast : (printedMillionths x : Rat) = (rint (|x| * 10 ^ 6) : Rat) := by
    unfold printedMillionths
    exact_mod_cast Int.toNat_of_nonneg hnonneg
  have habs := abs_le.mp (abs_rint_sub_le (|x| * 10 ^ 6))
  unfold millionths
  rw [hcast, abs_le]
  split
  · next hneg =>
    rw [abs_of_neg hneg] at habs ⊢
    constructor <;> linarith
  · next hpos =>
    rw [abs_of_nonneg (not_lt.mp hpos)] at habs ⊢
    constructor <;> linarith

/-- A bound of 10 to the power of `k` on a number bounds its printed millionths,
so the printed text has `k + 7` digits at most. -/
theorem printedMillionths_le {x : Rat} {k : Nat} (h : |x| ≤ 10 ^ k) :
    printedMillionths x ≤ 10 ^ (k + 6) := by
  have hint : rint (|x| * 10 ^ 6) ≤ ((10 ^ (k + 6) : Nat) : Int) := by
    refine rint_le ?_
    push_cast
    rw [pow_add]
    exact mul_le_mul_of_nonneg_right h (by positivity)
  exact Int.toNat_le.mpr hint

/-- The number is that of the millionths, with its sign. -/
theorem millionths_eq {x : Rat} {k : Nat} (h : |x| ≤ 10 ^ k) :
    ∃ n : Int, millionths x = n / 10 ^ 6 ∧ |n| ≤ 10 ^ (k + 6) := by
  have hle : printedMillionths x ≤ 10 ^ (k + 6) := printedMillionths_le h
  refine ⟨if x < 0 then -(printedMillionths x : Int) else printedMillionths x, ?_, ?_⟩
  · unfold millionths
    split <;> push_cast <;> rfl
  · have habs : |if x < 0 then -(printedMillionths x : Int) else printedMillionths x| =
        printedMillionths x := by
      split
      · rw [abs_neg, Nat.abs_cast]
      · exact Nat.abs_cast _
    rw [habs]
    exact_mod_cast hle

/-! ## The text -/

/-- `printf("%0*i", w, n)`, for a number of at most `w` digits. -/
def zeroPadded (w n : Nat) : List Char :=
  List.replicate (w - (Nat.toDigits 10 n).length) '0' ++ Nat.toDigits 10 n

/-- Millionths, as digits with a point in them. -/
def pointed (n : Nat) : List Char :=
  Nat.toDigits 10 (n / 10 ^ 6) ++ '.' :: zeroPadded 6 (n % 10 ^ 6)

/-- `printf("%f", x)`: a sign, the whole part, a point and six places. -/
def fmtF (x : Rat) : List Char := (if x < 0 then ['-'] else []) ++ pointed (printedMillionths x)

/-- The number that digits with a point in them stand for. -/
def readPointed (s : List Char) : Option Rat :=
  match scanRadix 10 s.length s with
  | (whole, '.' :: s) =>
    match scanRadix 10 s.length s with
    | (fraction, []) =>
      some ((ofRadix 10 whole : Rat) + (ofRadix 10 fraction : Rat) / 10 ^ fraction.length)
    | _ => none
  | _ => none

/-- The number a text of this form stands for. -/
def readF : List Char → Option Rat
  | '-' :: s => (readPointed s).map fun x => -x
  | s => readPointed s

/-! ## Reading it back -/

theorem zeroPadded_length {w n : Nat} (hw : 0 < w) (h : n < 10 ^ w) :
    (zeroPadded w n).length = w := by
  have hlen := (Nat.length_toDigits_le_iff (b := 10) (by decide) hw).mpr h
  rw [zeroPadded, List.length_append, List.length_replicate]
  omega

/-- Zeroes in front of the digits of a number do not change its value, whatever
the base is. -/
theorem ofRadix_zeroes (base : Nat) (ds : List Nat) : ∀ k : Nat,
    ofRadix base (List.replicate k 0 ++ ds) = ofRadix base ds
  | 0 => rfl
  | k + 1 => by
    have ih := ofRadix_zeroes base ds k
    unfold ofRadix at ih ⊢
    rw [List.replicate_succ, List.cons_append, List.foldl_cons, Nat.mul_zero, Nat.add_zero]
    exact ih

/-- A number that is printed with zeroes in front, up to a given width, is read
back as its value, and all its digits are used. -/
theorem scanRadix_zeroPadded (w n : Nat) :
    ∃ ds, scanRadix 10 (zeroPadded w n).length (zeroPadded w n) = (ds, []) ∧
      ds.length = (zeroPadded w n).length ∧ ofRadix 10 ds = n := by
  have hdigit : ∀ c ∈ zeroPadded w n, digitVal 10 c = some (c.toNat - 48) := by
    intro c hc
    rcases List.mem_append.mp hc with hc | hc
    · rw [List.eq_of_mem_replicate hc]
      decide
    · exact digitVal_ten (Nat.isDigit_of_mem_toDigits (by decide) (by decide) hc)
  have hscan := @scanRadix_append 10 _ [] (by simp) _ _ hdigit (Nat.le_refl _)
  rw [List.append_nil] at hscan
  refine ⟨_, hscan, List.length_map _, ?_⟩
  rw [zeroPadded, List.map_append, List.map_replicate]
  show ofRadix 10 (List.replicate _ 0 ++ _) = n
  rw [ofRadix_zeroes, ofRadix, List.foldl_map]
  exact Nat.ofDigitChars_ten_toDigits

theorem pointed_fraction_length (n : Nat) : (zeroPadded 6 (n % 10 ^ 6)).length = 6 :=
  zeroPadded_length (by decide) (Nat.mod_lt _ (by decide))

theorem readPointed_pointed (n : Nat) : readPointed (pointed n) = some ((n : Rat) / 10 ^ 6) := by
  obtain ⟨fs, hfs, hflen, hfval⟩ := scanRadix_zeroPadded 6 (n % 10 ^ 6)
  have hpoint : EndsNumber ('.' :: zeroPadded 6 (n % 10 ^ 6)) := fun c hc => by
    obtain rfl := Option.some.inj hc
    decide
  have hroom : (Nat.toDigits 10 (n / 10 ^ 6)).length ≤ (pointed n).length := by simp [pointed]
  obtain ⟨ws, hws, -, hwval⟩ := scanRadix_toDigits hpoint hroom
  have hscan : scanRadix 10 (pointed n).length (pointed n) =
      (ws, '.' :: zeroPadded 6 (n % 10 ^ 6)) := hws
  have hsplit : (n : Rat) = 10 ^ 6 * (n / 10 ^ 6 : Nat) + (n % 10 ^ 6 : Nat) := by
    exact_mod_cast (Nat.div_add_mod n (10 ^ 6)).symm
  rw [readPointed, hscan]
  simp only [hfs]
  rw [hwval, hfval, hflen, pointed_fraction_length, hsplit]
  congr 1
  field_simp

theorem pointed_ne_minus (n : Nat) : ∃ c cs, pointed n = c :: cs ∧ c ≠ '-' := by
  obtain ⟨c, cs, hc⟩ := List.exists_cons_of_ne_nil (Nat.toDigits_ne_nil (b := 10) (n := n / 10 ^ 6))
  have hdigit : c.isDigit := Nat.isDigit_of_mem_toDigits (by decide) (by decide)
    (hc ▸ List.mem_cons_self ..)
  refine ⟨c, _, by rw [pointed, hc]; rfl, ?_⟩
  rintro rfl
  exact absurd hdigit (by decide)

/-- **A printed number** is read back with its fraction cut to millionths. -/
theorem readF_fmtF (x : Rat) : readF (fmtF x) = some (millionths x) := by
  have hread := readPointed_pointed (printedMillionths x)
  unfold fmtF millionths
  by_cases hneg : x < 0
  · rw [if_pos hneg, if_pos hneg]
    show (readPointed (pointed (printedMillionths x))).map _ = _
    rw [hread, Option.map_some, neg_div]
  · obtain ⟨c, cs, hc, hne⟩ := pointed_ne_minus (printedMillionths x)
    rw [if_neg hneg, if_neg hneg, List.nil_append, ← hread, hc]
    unfold readF
    split
    · next heq => exact absurd (List.cons.inj heq).1 hne
    · rfl

/-! ## What it is made of -/

theorem fmtF_ne_nil (x : Rat) : fmtF x ≠ [] := by
  simp [fmtF, pointed]

theorem mem_zeroPadded {w n : Nat} {c : Char} (hc : c ∈ zeroPadded w n) : c.isDigit := by
  rcases List.mem_append.mp hc with hc | hc
  · rw [List.eq_of_mem_replicate hc]
    decide
  · exact Nat.isDigit_of_mem_toDigits (by decide) (by decide) hc

/-- What `%f` prints is made of a sign, decimal digits and a point, and of
nothing else. -/
theorem mem_fmtF {x : Rat} {c : Char} (hc : c ∈ fmtF x) : c = '-' ∨ c = '.' ∨ c.isDigit := by
  rcases List.mem_append.mp hc with hc | hc
  · split at hc
    · exact Or.inl (List.mem_singleton.mp hc)
    · cases hc
  rcases List.mem_append.mp hc with hc | hc
  · exact Or.inr (Or.inr (Nat.isDigit_of_mem_toDigits (by decide) (by decide) hc))
  rcases List.mem_cons.mp hc with hc | hc
  · exact Or.inr (Or.inl hc)
  · exact Or.inr (Or.inr (mem_zeroPadded hc))

/-- A number below a power of ten does not take many columns. -/
theorem fmtF_length_le {x : Rat} {k : Nat} (h : |x| < 10 ^ k) : (fmtF x).length ≤ k + 9 := by
  have hle := printedMillionths_le h.le
  have hwhole : printedMillionths x / 10 ^ 6 < 10 ^ (k + 1) := by
    rw [pow_add] at hle
    have hdiv : printedMillionths x / 10 ^ 6 ≤ 10 ^ k :=
      Nat.div_le_of_le_mul (by rw [Nat.mul_comm]; exact hle)
    have hpos : 0 < 10 ^ k := Nat.pow_pos (by decide)
    rw [pow_succ]
    omega
  have hdigits := (Nat.length_toDigits_le_iff (b := 10) (by decide) (Nat.succ_pos k)).mpr hwhole
  have hsign : (if x < 0 then ['-'] else []).length ≤ 1 := by
    split <;> decide
  rw [fmtF, pointed, List.length_append, List.length_append, List.length_cons,
    pointed_fraction_length]
  omega

end ObdGpsLogger.CLib
