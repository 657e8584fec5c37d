import Mathlib.Data.Int.DivMod
import ObdGpsLogger.CLib.Scanf

/-!
# `%i` scanning and printing, and formats with a literal front

`fmtD z` is what `printf("%i", z)` and `printf("%li", z)` write. `scanInt` is
one `%i` or `%li` conversion of `sscanf`, with its optional field width: white
space is skipped, a sign is read, and the base is guessed from the digits: `0x`
starts a hexadecimal number, `0` an octal one, anything else a decimal one. The
value is `strtol`'s, which stays within a 64-bit `long`; stored in an `int` it
wraps around (`toInt`). `atoi` is `strtol` in base 10, where no digits give 0.

`scanAfter` is for formats such as `"key=%i"`: literal text, then one
conversion. Its result says whether `sscanf` returns 1, and what it stored.

`scanInt_fmtD` is the round trip: `%li` reads back any `long` that was printed.
-/

namespace ObdGpsLogger.CLib

/-- `printf("%i", z)`: the decimal digits, behind a `-` where `z` is negative. -/
def fmtD (z : Int) : List Char :=
  if z < 0 then '-' :: Nat.toDigits 10 (-z).toNat else Nat.toDigits 10 z.toNat

/-! ## Digits in any base -/

/-- The value of a digit in base `base`. -/
def digitVal (base : Nat) (c : Char) : Option Nat := (hexVal c).filter (· < base)

/-- Up to `w` digits from the head of the text, and what follows them. -/
def scanRadix (base : Nat) : Nat → List Char → List Nat × List Char
  | 0, s => ([], s)
  | _ + 1, [] => ([], [])
  | w + 1, c :: s =>
    match digitVal base c with
    | none => ([], c :: s)
    | some d => (d :: (scanRadix base w s).1, (scanRadix base w s).2)

/-- The value of a string of digits in a given base, the most significant first. -/
def ofRadix (base : Nat) (ds : List Nat) : Nat := ds.foldl (fun a d => base * a + d) 0

/-- `strtol` of a sign and digits: a `long`, the nearest one if need be. -/
def strtol (neg : Bool) (base : Nat) (ds : List Nat) : Int :=
  if neg then max (-2 ^ 63) (-(ofRadix base ds : Int)) else min (2 ^ 63 - 1) (ofRadix base ds)

/-- A `long` stored in an `int`: the value of its low 32 bits, with a sign. -/
def toInt (z : Int) : Int := Int.bmod z (2 ^ 32)

/-- A number from 0 up to half of the range of a 32-bit `int` is kept when it is
stored in one. -/
theorem toInt_of_lt {z : Int} (h : 0 ≤ z) (hlt : z < 2 ^ 31) : toInt z = z := by
  rw [toInt, Int.bmod_def]
  omega

theorem toInt_lt_iff {z : Int} (h : 0 ≤ z) : toInt z < z ↔ 2 ^ 31 ≤ z := by
  rw [toInt, Int.bmod_def]
  split <;> omega

/-! ## One conversion -/

/-- The digits of a number whose sign and prefix have been read. -/
def scanInBase (base : Nat) (neg : Bool) (w : Nat) (s : List Char) : Option (Int × List Char) :=
  match scanRadix base w s with
  | ([], _) => none
  | (d :: ds, rest) => some (strtol neg base (d :: ds), rest)

/-- The base is guessed; `0x` needs two columns of the field. -/
def scanGuessed (neg : Bool) (w : Nat) : List Char → Option (Int × List Char)
  | '0' :: x :: s =>
    if (x = 'x' ∨ x = 'X') ∧ 2 ≤ w then scanInBase 16 neg (w - 2) s
    else scanInBase 8 neg w ('0' :: x :: s)
  | '0' :: s => scanInBase 8 neg w ('0' :: s)
  | s => scanInBase 10 neg w s

/-- The optional sign, which takes one column of the field. -/
def scanIntSigned (w : Nat) : List Char → Option (Int × List Char)
  | '-' :: s => scanGuessed true (w - 1) s
  | '+' :: s => scanGuessed false (w - 1) s
  | s => scanGuessed false w s

/-- `%li` with an optional field width: the value and the text behind it,
unless the conversion fails. -/
def scanInt (width : Option Nat) (s : List Char) : Option (Int × List Char) :=
  let field := s.dropWhile isspace
  scanIntSigned (width.getD field.length) field

/-- `%s` with a field width: a text without white space. -/
def scanStr (width : Nat) (s : List Char) : Option (List Char × List Char) :=
  let word := ((s.dropWhile isspace).takeWhile fun c => !isspace c).take width
  if word = [] then none else some (word, (s.dropWhile isspace).drop word.length)

/-- `%x` with an optional field width, as such a conversion. -/
def scanHexItem (width : Option Nat) (s : List Char) : Option (Nat × List Char) :=
  match scanHex width s with
  | .item v rest => some (v, rest)
  | _ => none

/-- A format that starts with literal text, followed by one conversion: what it
stores, if `sscanf` returns 1. -/
def scanAfter {α : Type} (literal : List Char) (conv : List Char → Option (α × List Char))
    (s : List Char) : Option α :=
  if literal.isPrefixOf s then (conv (s.drop literal.length)).map Prod.fst else none

/-- `atoi`: blanks, a sign and decimal digits are read as a `long` and stored in
an `int`. -/
def atoi (s : List Char) : Int :=
  let decimal := fun neg s => toInt (strtol neg 10 (scanRadix 10 s.length s).1)
  match s.dropWhile isspace with
  | '-' :: s => decimal true s
  | '+' :: s => decimal false s
  | s => decimal false s

/-! ## Reading back a printed number -/

/-- Digits in front of something else are read, all of them. -/
theorem scanRadix_append {base : Nat} {v : Char → Nat} {rest : List Char}
    (hrest : ∀ c ∈ rest.head?, digitVal base c = none) : ∀ {w : Nat} {cs : List Char},
    (∀ c ∈ cs, digitVal base c = some (v c)) → cs.length ≤ w →
    scanRadix base w (cs ++ rest) = (cs.map v, rest)
  | 0, cs, _, hw => by
    obtain rfl := List.length_eq_zero_iff.mp (Nat.le_zero.mp hw)
    rfl
  | w + 1, [], _, _ => by
    cases rest with
    | nil => rfl
    | cons c cs =>
      have hc := hrest c rfl
      simp [scanRadix, hc]
  | w + 1, c :: cs, hcs, hw => by
    have hc := hcs c (List.mem_cons_self ..)
    have ih := scanRadix_append (w := w) hrest (fun d hd => hcs d (List.mem_cons_of_mem _ hd))
      (Nat.le_of_succ_le_succ hw)
    simp [scanRadix, hc, ih]

/-- A decimal digit has a value in base ten, and it is the distance of its
character from `0`. -/
theorem digitVal_ten {c : Char} (h : c.isDigit) : digitVal 10 c = some (c.toNat - 48) := by
  have hrange : '0' ≤ c ∧ c ≤ '9' := by
    simpa [Char.isDigit, Char.le_def] using h
  have hle : c.toNat ≤ 57 := by
    have := hrange.2
    rw [Char.le_def, UInt32.le_iff_toNat_le] at this
    exact this
  have hlt : c.toNat - 48 < 10 := by omega
  rw [digitVal, hexVal, if_pos hrange]
  simp [hlt]

theorem isDigit_not_isspace {c : Char} (h : c.isDigit) : isspace c = false := by
  have hge : 48 ≤ c.toNat := by
    have := (by simpa [Char.isDigit, Char.le_def] using h : '0' ≤ c ∧ c ≤ '9').1
    rw [Char.le_def, UInt32.le_iff_toNat_le] at this
    exact this
  have hne : c ≠ ' ' := by
    rintro rfl
    exact absurd hge (by decide)
  simp [isspace, hne]
  omega

/-- What ends a number: nothing, or a character that is no part of one. -/
def EndsNumber (rest : List Char) : Prop :=
  ∀ c ∈ rest.head?, hexVal c = none ∧ c ≠ 'x' ∧ c ≠ 'X'

/-- The decimal digits of a number, with no further digit behind them, are read
back as its value. -/
theorem scanRadix_toDigits {n w : Nat} {rest : List Char} (hrest : EndsNumber rest)
    (hw : (Nat.toDigits 10 n).length ≤ w) :
    ∃ ds, scanRadix 10 w (Nat.toDigits 10 n ++ rest) = (ds, rest) ∧ ds ≠ [] ∧
      ofRadix 10 ds = n := by
  have hdigit : ∀ c ∈ Nat.toDigits 10 n, digitVal 10 c = some (c.toNat - 48) := fun c hc =>
    digitVal_ten (Nat.isDigit_of_mem_toDigits (by decide) (by decide) hc)
  refine ⟨_, scanRadix_append (fun c hc => ?_) hdigit hw, ?_, ?_⟩
  · rw [digitVal, (hrest c hc).1]
    rfl
  · have hpos : 0 < (Nat.toDigits 10 n).length := Nat.length_toDigits_pos
    intro hnil
    rw [List.map_eq_nil_iff] at hnil
    rw [hnil] at hpos
    exact absurd hpos (by decide)
  · rw [ofRadix, List.foldl_map]
    exact Nat.ofDigitChars_ten_toDigits

/-- The first digit of a positive number is not 0. -/
theorem toDigits_head {n : Nat} (hn : 0 < n) : (Nat.toDigits 10 n).head? ≠ some '0' := by
  induction n using Nat.strongRecOn with
  | ind n ih =>
    by_cases h10 : n < 10
    · rw [Nat.toDigits_of_lt_base h10]
      simp
      omega
    · have ih' := ih (n / 10) (by omega) (by omega)
      obtain ⟨c, cs, hc⟩ := List.exists_cons_of_ne_nil (Nat.toDigits_ne_nil (n := n / 10) (b := 10))
      rw [Nat.toDigits_of_base_le (by decide) (by omega), hc]
      rw [hc] at ih'
      exact ih'

theorem fmtD_ne_nil (z : Int) : fmtD z ≠ [] := by
  unfold fmtD
  split
  · exact List.cons_ne_nil _ _
  · exact Nat.toDigits_ne_nil

/-- What `%d` prints is made of a sign and decimal digits, and of nothing else. -/
theorem fmtD_mem {z : Int} {c : Char} (hc : c ∈ fmtD z) : c = '-' ∨ c.isDigit := by
  unfold fmtD at hc
  split at hc
  · rcases List.mem_cons.mp hc with h | h
    · exact Or.inl h
    · exact Or.inr (Nat.isDigit_of_mem_toDigits (by decide) (by decide) h)
  · exact Or.inr (Nat.isDigit_of_mem_toDigits (by decide) (by decide) hc)

/-- A 64-bit `long` takes at most twenty columns when it is printed: a sign and
nineteen digits. -/
theorem fmtD_length_le {z : Int} (h : -2 ^ 63 ≤ z) (hlt : z < 2 ^ 63) : (fmtD z).length ≤ 20 := by
  have hdigits : ∀ n < 10 ^ 19, (Nat.toDigits 10 n).length ≤ 19 := fun n hn =>
    (Nat.length_toDigits_le_iff (by decide) (by decide)).mpr hn
  unfold fmtD
  split
  · have := hdigits (-z).toNat (by omega)
    rw [List.length_cons]
    omega
  · have := hdigits z.toNat (by omega)
    omega

/-- The base of a printed number is guessed right. -/
theorem scanGuessed_toDigits (neg : Bool) (n : Nat) {w : Nat} {rest : List Char}
    (hrest : EndsNumber rest) (hw : (Nat.toDigits 10 n).length ≤ w) :
    ∃ base ds, scanGuessed neg w (Nat.toDigits 10 n ++ rest) = some (strtol neg base ds, rest) ∧
      ofRadix base ds = n := by
  by_cases hn : n = 0
  · -- `0` is an octal number
    subst hn
    rw [Nat.toDigits_zero] at hw ⊢
    have hoct : scanRadix 8 w (['0'] ++ rest) = ([0], rest) := by
      refine scanRadix_append (v := fun _ => 0) (fun c hc => ?_) (fun c hc => ?_) hw
      · rw [digitVal, (hrest c hc).1]
        rfl
      · obtain rfl := List.mem_singleton.mp hc
        rfl
    refine ⟨8, [0], ?_, rfl⟩
    cases rest with
    | nil =>
      show scanInBase 8 neg w ['0'] = _
      rw [List.append_nil] at hoct
      rw [scanInBase, hoct]
    | cons c cs =>
      obtain ⟨-, hx, hX⟩ := hrest c rfl
      show (if (c = 'x' ∨ c = 'X') ∧ 2 ≤ w then _ else scanInBase 8 neg w ('0' :: c :: cs)) = _
      rw [if_neg (by simp [hx, hX]), scanInBase]
      rw [show '0' :: c :: cs = ['0'] ++ c :: cs from rfl, hoct]
  · -- any other number begins with a digit that is not `0`, so its base is ten
    obtain ⟨ds, hscan, hne, hval⟩ := scanRadix_toDigits hrest hw
    obtain ⟨c, cs, hc⟩ := List.exists_cons_of_ne_nil (Nat.toDigits_ne_nil (n := n) (b := 10))
    have h0 : c ≠ '0' := by
      have hhead := toDigits_head (Nat.pos_of_ne_zero hn)
      rw [hc] at hhead
      exact fun h => hhead (congrArg some h)
    have hten : scanGuessed neg w (Nat.toDigits 10 n ++ rest) =
        scanInBase 10 neg w (Nat.toDigits 10 n ++ rest) := by
      rw [hc, List.cons_append]
      unfold scanGuessed
      split
      · next heq => exact absurd (List.cons.inj heq).1 h0
      · next heq => exact absurd (List.cons.inj heq).1 h0
      · rfl
    refine ⟨10, ds, ?_, hval⟩
    rw [hten, scanInBase, hscan]
    cases ds with
    | nil => exact absurd rfl hne
    | cons d ds => rfl

/-- **Reading back a printed number.** A `long` comes back, and what follows it
is left. -/
theorem scanInt_fmtD {z : Int} (h : -2 ^ 63 ≤ z) (hlt : z < 2 ^ 63) {rest : List Char}
    (hrest : EndsNumber rest) : scanInt none (fmtD z ++ rest) = some (z, rest) := by
  unfold scanInt fmtD
  -- the sign takes a column, and what follows it is a digit
  by_cases hz : z < 0
  · rw [if_pos hz]
    have hskip : ('-' :: Nat.toDigits 10 (-z).toNat ++ rest).dropWhile isspace =
        '-' :: (Nat.toDigits 10 (-z).toNat ++ rest) := rfl
    obtain ⟨base, ds, hscan, hval⟩ := scanGuessed_toDigits true (-z).toNat
      (w := (Nat.toDigits 10 (-z).toNat ++ rest).length) hrest (by simp)
    rw [hskip]
    show scanGuessed true (('-' :: (Nat.toDigits 10 (-z).toNat ++ rest)).length - 1) _ = _
    rw [List.length_cons, Nat.add_sub_cancel, hscan, strtol, if_pos rfl, hval]
    congr 2
    omega
  · rw [if_neg hz]
    obtain ⟨c, cs, hc⟩ := List.exists_cons_of_ne_nil (Nat.toDigits_ne_nil (n := z.toNat) (b := 10))
    have hdig : c.isDigit := Nat.isDigit_of_mem_toDigits (b := 10) (n := z.toNat) (by decide)
      (by decide) (hc ▸ List.mem_cons_self ..)
    have hskip : (Nat.toDigits 10 z.toNat ++ rest).dropWhile isspace =
        Nat.toDigits 10 z.toNat ++ rest := by
      rw [hc, List.cons_append, List.dropWhile_cons_of_neg (by simp [isDigit_not_isspace hdig])]
    have hsign : ∀ w, scanIntSigned w (Nat.toDigits 10 z.toNat ++ rest) =
        scanGuessed false w (Nat.toDigits 10 z.toNat ++ rest) := by
      intro w
      rw [hc, List.cons_append]
      unfold scanIntSigned
      split
      · next heq =>
        rw [(List.cons.inj heq).1] at hdig
        exact absurd hdig (by decide)
      · next heq =>
        rw [(List.cons.inj heq).1] at hdig
        exact absurd hdig (by decide)
      · rfl
    obtain ⟨base, ds, hscan, hval⟩ := scanGuessed_toDigits false z.toNat
      (w := (Nat.toDigits 10 z.toNat ++ rest).length) hrest (by simp)
    dsimp only
    rw [hskip, hsign, Option.getD_none, hscan, strtol, if_neg Bool.false_ne_true, hval]
    congr 2
    omega

/-! ## Literal fronts -/

/-- A text with another literal front gives nothing. -/
theorem scanAfter_eq_none {α : Type} {literal s : List Char}
    {conv : List Char → Option (α × List Char)} (h : ¬ literal <+: s) :
    scanAfter literal conv s = none := by
  rw [scanAfter, if_neg (fun hp => h (List.isPrefixOf_iff_prefix.mp hp))]

/-- Behind its literal front, the text goes to the conversion. -/
theorem scanAfter_append {α : Type} (literal s : List Char)
    (conv : List Char → Option (α × List Char)) :
    scanAfter literal conv (literal ++ s) = (conv s).map Prod.fst := by
  rw [scanAfter, if_pos (List.isPrefixOf_iff_prefix.mpr (List.prefix_append ..)),
    List.drop_left]

/-- `%s` reads a word that fits, up to white space. -/
theorem scanStr_word {width : Nat} {word rest : List Char} (hne : word ≠ [])
    (hword : ∀ c ∈ word, isspace c = false) (hw : word.length ≤ width)
    (hrest : ∀ c ∈ rest.head?, isspace c = true) :
    scanStr width (word ++ rest) = some (word, rest) := by
  obtain ⟨c, cs, rfl⟩ := List.exists_cons_of_ne_nil hne
  have hskip : (c :: cs ++ rest).dropWhile isspace = c :: cs ++ rest := by
    rw [List.cons_append, List.dropWhile_cons_of_neg (by simp [hword c (List.mem_cons_self ..)])]
  have htake : (c :: cs ++ rest).takeWhile (fun c => !isspace c) = c :: cs := by
    rw [List.takeWhile_append_of_pos (by simpa using hword)]
    cases rest with
    | nil => simp
    | cons d ds => simp [hrest d rfl]
  unfold scanStr
  dsimp only
  rw [hskip, htake, List.take_of_length_le hw, if_neg hne, List.drop_left]

end ObdGpsLogger.CLib
