import Mathlib.Algebra.Group.Int.Defs
import Mathlib.Algebra.Group.Nat.Defs
import ObdGpsLogger.CLib.Text

/-!
# `%X` printing and `%x` scanning

The two directions of a hexadecimal text protocol. `fmtX w n` is what
`printf("%0wX", n)` writes for an unsigned `n`; `scanHex` is one `%x`
conversion of `sscanf`, with its optional field width; `sscanf` runs a format
made of such conversions and of white space.

The conversion follows ISO C: white space is skipped, then the longest prefix
that is a `strtoul` number in base 16 (sign and `0x` included) within the
field width is taken, and `0x` alone is no number. The value is `strtoul`'s,
cut to a 32-bit `unsigned int`: a magnitude past `ULONG_MAX` gives
`ULONG_MAX`, a minus sign negates modulo `2 ^ 64`.

`assigned_hexText` is the rule a round trip uses: however the hex pairs of a
line are spaced, `%2x %2x …` reads back their values.
-/

namespace ObdGpsLogger.CLib

/-! ## Printing -/

/-- `printf("%0wX", n)`: upper-case hex, zero-padded to `w` digits. -/
def fmtX (w n : Nat) : List Char :=
  ((Nat.toDigits 16 n).map Char.toUpper).leftpad w '0'

/-- The upper-case digit of a value below 16. -/
def upperDigit (d : Nat) : Char :=
  if d < 10 then Char.ofNat (48 + d) else Char.ofNat (55 + d)

/-- A byte that is printed with `%02X` is the two upper-case digits of its
halves, high one first. -/
theorem fmtX_byte : ∀ n < 256, fmtX 2 n = [upperDigit (n / 16), upperDigit (n % 16)] := by
  decide +kernel

/-- A value below 16 that is printed with `%X` is one upper-case hex digit. -/
theorem fmtX_digit : ∀ n < 16, fmtX 1 n = [upperDigit n] := by
  decide

/-- The sixteen hex digits as `%X` prints them. -/
def hexChars : List Char := "0123456789ABCDEF".toList

theorem upperDigit_mem : ∀ d < 16, upperDigit d ∈ hexChars := by
  decide

/-- A byte that is printed with `%02X` is made of hex digits only. -/
theorem mem_fmtX_byte {n : Nat} (hn : n < 256) {c : Char} (hc : c ∈ fmtX 2 n) : c ∈ hexChars := by
  rw [fmtX_byte n hn] at hc
  rcases List.mem_cons.mp hc with rfl | hc
  · exact upperDigit_mem _ (by omega)
  · obtain rfl := List.mem_singleton.mp hc
    exact upperDigit_mem _ (by omega)

/-- Any number that is printed with `%X`, whatever the width, is made of hex
digits only. -/
theorem mem_fmtX {w n : Nat} {c : Char} (hc : c ∈ fmtX w n) : c ∈ hexChars := by
  have hdigit : ∀ d < 16, (Nat.digitChar d).toUpper ∈ hexChars := by decide
  have hdigits : ∀ n, ∀ c ∈ Nat.toDigits 16 n, c.toUpper ∈ hexChars := by
    intro n
    induction n using Nat.strongRecOn with
    | ind n ih =>
      by_cases hn : n < 16
      · rw [Nat.toDigits_of_lt_base hn]
        intro c hc
        rw [List.mem_singleton.mp hc]
        exact hdigit n hn
      · rw [Nat.toDigits_of_base_le (by decide) (by omega)]
        intro c hc
        rcases List.mem_append.mp hc with hc | hc
        · exact ih (n / 16) (by omega) c hc
        · rw [List.mem_singleton.mp hc]
          exact hdigit _ (Nat.mod_lt _ (by decide))
  unfold fmtX at hc
  rcases List.mem_append.mp hc with hc | hc
  · rw [List.eq_of_mem_replicate hc]
    decide
  · obtain ⟨d, hd, rfl⟩ := List.mem_map.mp hc
    exact hdigits n d hd

theorem fmtX_byte_length {n : Nat} (hn : n < 256) : (fmtX 2 n).length = 2 := by
  rw [fmtX_byte n hn]
  rfl

/-! ## Character classes -/

/-- `isspace` in the C locale: a blank, or one of the characters 9 to 13. -/
def isspace (c : Char) : Bool :=
  c == ' ' || (9 ≤ c.toNat && c.toNat ≤ 13)

/-- The value of a hex digit of either case. -/
def hexVal (c : Char) : Option Nat :=
  if '0' ≤ c ∧ c ≤ '9' then some (c.toNat - 48)
  else if 'A' ≤ c ∧ c ≤ 'F' then some (c.toNat - 55)
  else if 'a' ≤ c ∧ c ≤ 'f' then some (c.toNat - 87)
  else none

theorem hexVal_upperDigit : ∀ d < 16, hexVal (upperDigit d) = some d := by
  decide

/-! ## One conversion -/

/-- Up to `w` hex digits from the head of the text, and what follows them. -/
def scanDigits : Nat → List Char → List Nat × List Char
  | 0, s => ([], s)
  | _ + 1, [] => ([], [])
  | w + 1, c :: s =>
    match hexVal c with
    | none => ([], c :: s)
    | some d => (d :: (scanDigits w s).1, (scanDigits w s).2)

/-- The value of a string of hex digits, the most significant first. -/
def ofDigits (ds : List Nat) : Nat := ds.foldl (fun a d => 16 * a + d) 0

/-- `strtoul` of a sign and hex digits, stored in an `unsigned int`. -/
def strtoul (neg : Bool) (ds : List Nat) : Nat :=
  (if 2 ^ 64 ≤ ofDigits ds then 2 ^ 64 - 1
   else if neg then (2 ^ 64 - ofDigits ds) % 2 ^ 64
   else ofDigits ds) % 2 ^ 32

/-- The outcome of one conversion: a stored value with the text behind it, a
matching failure, or an input failure (the text had ended). -/
inductive Conv where
  | item (v : Nat) (rest : List Char)
  | mismatch
  | eof
  deriving DecidableEq, Repr

/-- The digits of a number whose sign and prefix have been read. -/
def scanNumber (neg : Bool) (w : Nat) (s : List Char) : Conv :=
  match scanDigits w s with
  | ([], _) => .mismatch
  | (d :: ds, rest) => .item (strtoul neg (d :: ds)) rest

/-- The optional `0x`, which needs two columns of the field. -/
def scanPrefixed (neg : Bool) (w : Nat) : List Char → Conv
  | '0' :: x :: s =>
    if (x = 'x' ∨ x = 'X') ∧ 2 ≤ w then scanNumber neg (w - 2) s
    else scanNumber neg w ('0' :: x :: s)
  | s => scanNumber neg w s

/-- The optional sign, which takes one column of the field. -/
def scanSigned (w : Nat) : List Char → Conv
  | '-' :: s => scanPrefixed true (w - 1) s
  | '+' :: s => scanPrefixed false (w - 1) s
  | s => scanPrefixed false w s

/-- The conversion `%x`, with a field width or without one: blanks are skipped,
and a sign, a prefix `0x` and digits are read. -/
def scanHex (width : Option Nat) (s : List Char) : Conv :=
  match s.dropWhile isspace with
  | [] => .eof
  | c :: cs => scanSigned (width.getD (c :: cs).length) (c :: cs)

/-! ## Formats -/

/-- What a scan format is made of here: white space and `%x` conversions. -/
inductive Directive where
  | space
  | hex (width : Option Nat)
  deriving DecidableEq, Repr

/-- The values a format stores, in order, until a conversion fails. -/
def assigned : List Directive → List Char → List Nat
  | [], _ => []
  | .space :: f, s => assigned f (s.dropWhile isspace)
  | .hex w :: f, s =>
    match scanHex w s with
    | .item v rest => v :: assigned f rest
    | _ => []

/-- The result of `sscanf`: the return value and the stored values. -/
structure ScanResult where
  ret : Int
  vals : List Nat
  deriving DecidableEq, Repr

/-- `sscanf(s, format, …)`: the number of stored values, or `EOF` when the
text ends before the first conversion. -/
def sscanf (f : List Directive) (s : List Char) : ScanResult :=
  { ret := if assigned f s = [] ∧ s.dropWhile isspace = [] then -1 else (assigned f s).length
    vals := assigned f s }

/-- `%2x` `n` times with white space in between. -/
def hexPairs : Nat → List Directive
  | 0 => []
  | 1 => [.hex (some 2)]
  | n + 2 => .hex (some 2) :: .space :: hexPairs (n + 1)

theorem sscanf_ret_nonneg {f : List Directive} {s : List Char} (h : assigned f s ≠ []) :
    (sscanf f s).ret = (assigned f s).length := by
  simp [sscanf, h]

/-! ## What a field of two columns can hold -/

theorem hexVal_lt {c : Char} {d : Nat} (h : hexVal c = some d) : d < 16 := by
  unfold hexVal at h
  simp only [Char.le_def, UInt32.le_iff_toNat_le] at h
  have hnat : c.val.toNat = c.toNat := rfl
  have h9 : '9'.val.toNat = 57 := rfl
  have hF : 'F'.val.toNat = 70 := rfl
  have hf : 'f'.val.toNat = 102 := rfl
  split at h
  · injection h with h
    omega
  · split at h
    · injection h with h
      omega
    · split at h
      · injection h with h
        omega
      · cases h

/-- The digits of a field are digits, and no more than it has columns. -/
theorem scanDigits_spec : ∀ (w : Nat) (s : List Char),
    (scanDigits w s).1.length ≤ w ∧ ∀ d ∈ (scanDigits w s).1, d < 16
  | 0, s => by simp [scanDigits]
  | _ + 1, [] => by simp [scanDigits]
  | w + 1, c :: s => by
    obtain ⟨hlen, hdig⟩ := scanDigits_spec w s
    rw [scanDigits]
    cases hc : hexVal c with
    | none => simp
    | some d =>
      refine ⟨Nat.succ_le_succ hlen, fun e he => ?_⟩
      rcases List.mem_cons.mp he with rfl | he
      · exact hexVal_lt hc
      · exact hdig e he

/-- Two hex digits, or fewer, make a number that fits into a byte. -/
theorem ofDigits_byte {ds : List Nat} (hlen : ds.length ≤ 2) (hdig : ∀ d ∈ ds, d < 16) :
    ofDigits ds < 256 := by
  match ds with
  | [] => decide
  | [a] =>
    have ha := hdig a (by simp)
    simp only [ofDigits, List.foldl_cons, List.foldl_nil]
    omega
  | [a, b] =>
    have ha := hdig a (by simp)
    have hb := hdig b (by simp)
    simp only [ofDigits, List.foldl_cons, List.foldl_nil]
    omega
  | _ :: _ :: _ :: _ =>
    simp only [List.length_cons] at hlen
    omega

/-- What `%2x` stores: a byte, or the negative of one. -/
def ByteLike (v : Nat) : Prop := v < 256 ∨ 2 ^ 32 - 256 < v

theorem strtoul_byteLike {neg : Bool} {ds : List Nat} (h : ofDigits ds < 256) :
    ByteLike (strtoul neg ds) := by
  unfold ByteLike strtoul
  rw [if_neg (by omega)]
  cases neg with
  | false =>
    rw [if_neg Bool.false_ne_true]
    omega
  | true =>
    rw [if_pos rfl]
    omega

theorem scanNumber_byteLike {neg : Bool} {w v : Nat} {s rest : List Char} (hw : w ≤ 2)
    (h : scanNumber neg w s = .item v rest) : ByteLike v := by
  obtain ⟨hlen, hdig⟩ := scanDigits_spec w s
  unfold scanNumber at h
  split at h
  · cases h
  · next d ds rest' hs =>
    rw [hs] at hlen hdig
    injection h with hv
    subst hv
    exact strtoul_byteLike (ofDigits_byte (Nat.le_trans hlen hw) hdig)

theorem scanPrefixed_byteLike {neg : Bool} {w v : Nat} {s rest : List Char} (hw : w ≤ 2)
    (h : scanPrefixed neg w s = .item v rest) : ByteLike v := by
  unfold scanPrefixed at h
  split at h
  · split at h
    · exact scanNumber_byteLike (by omega) h
    · exact scanNumber_byteLike hw h
  · exact scanNumber_byteLike hw h

/-- A `%2x` stores a byte, or the negative of one. -/
theorem scanHex_byteLike {v : Nat} {s rest : List Char} (h : scanHex (some 2) s = .item v rest) :
    ByteLike v := by
  unfold scanHex scanSigned at h
  split at h
  · cases h
  · split at h
    · exact scanPrefixed_byteLike (Nat.sub_le 2 1) h
    · exact scanPrefixed_byteLike (Nat.sub_le 2 1) h
    · exact scanPrefixed_byteLike (Nat.le_refl 2) h

/-- Whatever the text is, each conversion in a row of `%2x` stores a value that
two columns can hold. -/
theorem assigned_byteLike : ∀ (n : Nat) {s : List Char} {v : Nat},
    v ∈ assigned (hexPairs n) s → ByteLike v
  | 0, _, _, h => by simp [hexPairs, assigned] at h
  | 1, s, v, h => by
    rw [hexPairs, assigned] at h
    split at h
    · next w rest hw =>
      obtain rfl : v = w := by simpa [assigned] using h
      exact scanHex_byteLike hw
    · cases h
  | n + 2, s, v, h => by
    rw [hexPairs, assigned] at h
    split at h
    · next w rest hw =>
      rcases List.mem_cons.mp h with rfl | h
      · exact scanHex_byteLike hw
      · exact assigned_byteLike (n + 1) h
    · cases h

/-- A minus sign and a digit other than 0, after white space. -/
def minusDigit (s : List Char) : Bool :=
  match s.dropWhile isspace with
  | '-' :: c :: _ => (hexVal c).any (· != 0)
  | _ => false

/-- One column has no room for the prefix `0x`, so what is left to it is a
number. -/
theorem scanPrefixed_one (neg : Bool) (s : List Char) :
    scanPrefixed neg 1 s = scanNumber neg 1 s := by
  unfold scanPrefixed
  split
  · rw [if_neg (by omega)]
  · rfl

/-- A field of one column holds a digit, or else nothing that `%x` could read. -/
theorem scanNumber_one (neg : Bool) (c : Char) (s : List Char) :
    scanNumber neg 1 (c :: s) =
      match hexVal c with
      | none => .mismatch
      | some d => .item (strtoul neg [d]) s := by
  unfold scanNumber
  rw [scanDigits]
  cases hexVal c <;> rfl

theorem strtoul_digit (neg : Bool) {d : Nat} (h : d < 16) :
    strtoul neg [d] = if neg = true ∧ d ≠ 0 then 2 ^ 32 - d else d := by
  have hval : ofDigits [d] = d := by simp [ofDigits]
  unfold strtoul
  rw [hval, if_neg (by omega)]
  cases neg with
  | false =>
    rw [if_neg Bool.false_ne_true, if_neg (fun h => absurd h.1 Bool.false_ne_true)]
    omega
  | true =>
    rw [if_pos rfl]
    by_cases h0 : d = 0
    · rw [if_neg (fun h => h.2 h0)]
      omega
    · rw [if_pos ⟨rfl, h0⟩]
      omega

theorem scanNumber_byte {w v : Nat} {s rest : List Char} (hw : w ≤ 2)
    (h : scanNumber false w s = .item v rest) : v < 256 := by
  obtain ⟨hlen, hdig⟩ := scanDigits_spec w s
  unfold scanNumber at h
  split at h
  · cases h
  · next d ds rest' hs =>
    rw [hs] at hlen hdig
    injection h with hv
    have hbyte : ofDigits (d :: ds) < 256 := ofDigits_byte (Nat.le_trans hlen hw) hdig
    rw [← hv, strtoul, if_neg (by omega), if_neg Bool.false_ne_true]
    omega

theorem scanPrefixed_byte {v : Nat} {s rest : List Char}
    (h : scanPrefixed false 2 s = .item v rest) : v < 256 := by
  unfold scanPrefixed at h
  split at h
  · split at h
    · exact scanNumber_byte (by omega) h
    · exact scanNumber_byte (Nat.le_refl 2) h
  · exact scanNumber_byte (Nat.le_refl 2) h

/-- **What `%2x` stores**: the negative of a digit after a minus sign, unless it
is 0, and a byte in any other case. -/
theorem scanHex_two {v : Nat} {s rest : List Char} (h : scanHex (some 2) s = .item v rest) :
    if minusDigit s then 2 ^ 32 - 16 < v ∧ v < 2 ^ 32 else v < 256 := by
  unfold scanHex at h
  unfold minusDigit
  split at h
  · cases h
  · next c cs hfield =>
    rw [hfield]
    unfold scanSigned at h
    dsimp only [Option.getD_some] at h
    split at h
    · next t heq =>
      -- a minus sign
      rw [heq]
      rw [scanPrefixed_one] at h
      cases t with
      | nil => cases h
      | cons x t =>
        rw [scanNumber_one] at h
        cases hx : hexVal x with
        | none =>
          rw [hx] at h
          cases h
        | some d =>
          rw [hx] at h
          injection h with hv
          have hd := hexVal_lt hx
          rw [strtoul_digit true hd] at hv
          show if (hexVal x).any (· != 0) = true then 2 ^ 32 - 16 < v ∧ v < 2 ^ 32 else v < 256
          rw [hx, Option.any_some]
          by_cases h0 : d = 0
          · rw [if_neg (fun h => h.2 h0)] at hv
            rw [if_neg (by simp [h0])]
            omega
          · rw [if_pos ⟨rfl, h0⟩] at hv
            rw [if_pos (by simp [h0])]
            omega
    · next t heq =>
      rw [heq]
      rw [scanPrefixed_one] at h
      exact scanNumber_byte (by omega) h
    · next hm hp =>
      have hno : ¬ (match c :: cs with
          | '-' :: c :: _ => (hexVal c).any (· != 0)
          | _ => false) = true := by
        split
        · next t heq => exact absurd heq (hm _)
        · exact Bool.false_ne_true
      rw [if_neg hno]
      exact scanPrefixed_byte h

/-- After a minus sign and a digit, the conversion succeeds. -/
theorem scanHex_minusDigit {s : List Char} (h : minusDigit s = true) :
    ∃ v rest, scanHex (some 2) s = .item v rest := by
  unfold minusDigit at h
  split at h
  · next c rest hfield =>
    cases hc : hexVal c with
    | none =>
      rw [hc] at h
      cases h
    | some d =>
      refine ⟨strtoul true [d], rest, ?_⟩
      unfold scanHex
      rw [hfield]
      show scanPrefixed true 1 (c :: rest) = _
      rw [scanPrefixed_one, scanNumber_one, hc]
  · cases h

/-! ## Reading back hex pairs -/

/-- A hex digit is no sign, nor the letter of a prefix. -/
theorem hexVal_ne {c : Char} {d : Nat} (h : hexVal c = some d) :
    ∀ e ∈ ['-', '+', 'x', 'X'], c ≠ e := by
  have hnone : ['-', '+', 'x', 'X'].all (fun e => hexVal e == none) = true := by decide
  intro e he heq
  have hval := List.all_eq_true.mp hnone e he
  rw [← heq, h] at hval
  cases hval

/-- A hex digit is not white space, so skipping white space stops in front of
one. -/
theorem isspace_of_hexVal {c : Char} {d : Nat} (h : hexVal c = some d) : isspace c = false := by
  have hlow : 48 ≤ c.toNat := by
    unfold hexVal at h
    simp only [Char.le_def, UInt32.le_iff_toNat_le] at h
    have hnat : c.val.toNat = c.toNat := rfl
    have h0 : '0'.val.toNat = 48 := rfl
    have hA : 'A'.val.toNat = 65 := rfl
    have ha : 'a'.val.toNat = 97 := rfl
    split at h
    · omega
    · split at h
      · omega
      · split at h
        · omega
        · cases h
  have hspace : c ≠ ' ' := by
    rintro rfl
    exact absurd hlow (by decide)
  simp only [isspace, beq_eq_false_iff_ne.mpr hspace, Bool.false_or, Bool.and_eq_false_imp,
    decide_eq_true_eq, decide_eq_false_iff_not]
  omega

section Pair

variable {hi lo : Char} {a b : Nat}

/-- A field of two columns reads exactly two digits. -/
theorem scanSigned_pair (hhi : hexVal hi = some a) (hlo : hexVal lo = some b) (rest : List Char) :
    scanSigned 2 (hi :: lo :: rest) = .item (16 * a + b) rest := by
  have hdig : scanNumber false 2 (hi :: lo :: rest) = .item (16 * a + b) rest := by
    have hval : strtoul false [a, b] = 16 * a + b := by
      have hfold : ofDigits [a, b] = 16 * a + b := by simp [ofDigits]
      have ha := hexVal_lt hhi
      have hb := hexVal_lt hlo
      rw [strtoul, hfold]
      rw [if_neg (by omega), if_neg (by decide)]
      omega
    simp [scanNumber, scanDigits, hhi, hlo, hval]
  -- the second column is no `x`, so no prefix is taken
  have hpre : scanPrefixed false 2 (hi :: lo :: rest) = .item (16 * a + b) rest := by
    have hx := hexVal_ne hlo 'x' (by decide)
    have hX := hexVal_ne hlo 'X' (by decide)
    rw [← hdig]
    unfold scanPrefixed
    split
    · next x s heq =>
      obtain ⟨-, hx', -⟩ : hi = '0' ∧ lo = x ∧ rest = s := by simpa using heq
      rw [if_neg (by rw [← hx']; simp [hx, hX]), ← heq]
    · rfl
  -- nor is the first a sign
  have hm := hexVal_ne hhi '-' (by decide)
  have hp := hexVal_ne hhi '+' (by decide)
  rw [← hpre]
  unfold scanSigned
  split
  · next heq => exact absurd (List.cons.inj heq).1 hm
  · next heq => exact absurd (List.cons.inj heq).1 hp
  · rfl

/-- `%2x` skips white space and reads a pair of hex digits behind it as one
byte. -/
theorem scanHex_pair (hhi : hexVal hi = some a) (hlo : hexVal lo = some b) {ws : List Char}
    (hws : ∀ c ∈ ws, isspace c = true) (rest : List Char) :
    scanHex (some 2) (ws ++ hi :: lo :: rest) = .item (16 * a + b) rest := by
  have hdrop : (ws ++ hi :: lo :: rest).dropWhile isspace = hi :: lo :: rest := by
    rw [List.dropWhile_append_of_pos hws,
      List.dropWhile_cons_of_neg (by rw [isspace_of_hexVal hhi]; decide)]
  unfold scanHex
  rw [hdrop]
  exact scanSigned_pair hhi hlo rest

end Pair

/-- A single digit, whatever follows it that is none. -/
theorem scanNumber_single {c : Char} {a : Nat} (hc : hexVal c = some a) {s : List Char}
    (hs : ∀ d ∈ s.head?, hexVal d = none) : ∀ {w : Nat}, 0 < w →
    scanNumber false w (c :: s) = .item a s := by
  intro w hw
  obtain ⟨w, rfl⟩ : ∃ v, w = v + 1 := ⟨w - 1, by omega⟩
  have hrest : scanDigits w s = ([], s) := by
    cases w with
    | zero => rfl
    | succ w =>
      cases s with
      | nil => rfl
      | cons d s => rw [scanDigits, hs d rfl]
  have hval := strtoul_digit false (hexVal_lt hc)
  rw [if_neg (by simp)] at hval
  simp [scanNumber, scanDigits, hc, hrest, hval]

/-- The two columns `%2x` looks at, behind white space, and the value they give:
a sign and a digit, two digits, or a digit and something else. A `0x` that is
cut off gives none. -/
def twoColumns : List Char → Option Nat
  | '-' :: c :: _ => (hexVal c).map fun d => if d = 0 then 0 else 2 ^ 32 - d
  | '+' :: c :: _ => hexVal c
  | c :: d :: _ =>
    if c = '0' ∧ (d = 'x' ∨ d = 'X') then none
    else (hexVal c).map fun a => ((hexVal d).map fun b => 16 * a + b).getD a
  | [c] => hexVal c
  | [] => none

/-- The value that a conversion stores, if it has stored one. -/
def Conv.value : Conv → Option Nat
  | .item v _ => some v
  | _ => none

theorem scanNumber_value_one (neg : Bool) (c : Char) (s : List Char) :
    (scanNumber neg 1 (c :: s)).value =
      (hexVal c).map fun d => if neg = true ∧ d ≠ 0 then 2 ^ 32 - d else d := by
  rw [scanNumber_one]
  cases hc : hexVal c with
  | none => rfl
  | some d => exact congrArg some (strtoul_digit neg (hexVal_lt hc))

theorem twoColumns_pair {c d : Char} (hm : c ≠ '-') (hp : c ≠ '+') (s : List Char) :
    twoColumns (c :: d :: s) =
      if c = '0' ∧ (d = 'x' ∨ d = 'X') then none
      else (hexVal c).map fun a => ((hexVal d).map fun b => 16 * a + b).getD a := by
  unfold twoColumns
  split
  · next heq => exact absurd (List.cons.inj heq).1 hm
  · next heq => exact absurd (List.cons.inj heq).1 hp
  · next heq =>
    obtain ⟨rfl, hrest⟩ := List.cons.inj heq
    obtain ⟨rfl, -⟩ := List.cons.inj hrest
    rfl
  · next heq => cases heq
  · next heq => cases heq

/-- The value `%2x` reads from two columns that have neither a sign nor a
prefix: that of both digits, or of the first alone. -/
theorem scanNumber_value_two (c d : Char) (s : List Char) :
    (scanNumber false 2 (c :: d :: s)).value =
      (hexVal c).map fun a => ((hexVal d).map fun b => 16 * a + b).getD a := by
  cases hc : hexVal c with
  | none => simp [scanNumber, scanDigits, hc, Conv.value]
  | some a =>
    cases hd : hexVal d with
    | none =>
      rw [scanNumber_single hc (fun e he => by rw [← Option.some.inj he]; exact hd) (by decide)]
      rfl
    | some b =>
      have ha := hexVal_lt hc
      have hb := hexVal_lt hd
      have hfold : ofDigits [a, b] = 16 * a + b := by simp [ofDigits]
      have hval : strtoul false [a, b] = 16 * a + b := by
        rw [strtoul, hfold, if_neg (by omega), if_neg (by decide)]
        omega
      simp [scanNumber, scanDigits, hc, hd, hval, Conv.value]

/-- The value `%2x` reads from two columns of which no sign takes the first:
what `twoColumns` says. -/
theorem scanPrefixed_value {c : Char} (hm : c ≠ '-') (hp : c ≠ '+') (s : List Char) :
    (scanPrefixed false 2 (c :: s)).value = twoColumns (c :: s) := by
  cases s with
  | nil =>
    have hnum : scanPrefixed false 2 [c] = scanNumber false 2 [c] := by
      unfold scanPrefixed
      split
      · next heq => cases heq
      · rfl
    have hone : twoColumns [c] = hexVal c := by simp [twoColumns]
    rw [hnum, hone]
    cases hc : hexVal c with
    | none => simp [scanNumber, scanDigits, hc, Conv.value]
    | some a =>
      rw [scanNumber_single hc (by simp) (by decide)]
      rfl
  | cons d s =>
    rw [twoColumns_pair hm hp, ← scanNumber_value_two c d s]
    unfold scanPrefixed
    split
    · next x t heq =>
      obtain ⟨rfl, rfl, rfl⟩ : c = '0' ∧ d = x ∧ s = t := by simpa using heq
      -- a prefix that fills the width leaves no digit
      by_cases hx : d = 'x' ∨ d = 'X'
      · rw [if_pos ⟨hx, Nat.le_refl 2⟩, if_pos ⟨rfl, hx⟩]
        rfl
      · rw [if_neg (fun h => hx h.1), if_neg (fun h => hx h.2)]
    · next hno =>
      rw [if_neg]
      rintro ⟨rfl, -⟩
      exact hno d s rfl

/-- **`%2x` as a function of the text**: the value of the first two columns
behind the white space. -/
theorem scanHex_two_value (s : List Char) :
    (scanHex (some 2) s).value = twoColumns (s.dropWhile isspace) := by
  unfold scanHex
  cases hfield : s.dropWhile isspace with
  | nil => rfl
  | cons c cs =>
    show (scanSigned 2 (c :: cs)).value = _
    unfold scanSigned
    -- a sign in the first column, which leaves one for a digit, or none
    split
    · next t heq =>
      rw [heq, scanPrefixed_one]
      cases t with
      | nil => rfl
      | cons d t =>
        rw [scanNumber_value_one]
        show _ = (hexVal d).map fun d => if d = 0 then 0 else 2 ^ 32 - d
        refine congrArg (fun f => (hexVal d).map f) (funext fun n => ?_)
        by_cases hn : n = 0 <;> simp [hn]
    · next t heq =>
      rw [heq, scanPrefixed_one]
      cases t with
      | nil => rfl
      | cons d t =>
        rw [scanNumber_value_one]
        show _ = hexVal d
        simp
    · next hm hp =>
      refine scanPrefixed_value ?_ ?_ cs
      · rintro rfl
        exact hm cs rfl
      · rintro rfl
        exact hp cs rfl

/-- `%2x` skips white space and reads a printed byte. -/
theorem scanHex_byte {n : Nat} (hn : n < 256) {ws : List Char}
    (hws : ∀ c ∈ ws, isspace c = true) (rest : List Char) :
    scanHex (some 2) (ws ++ (fmtX 2 n ++ rest)) = .item n rest := by
  have hhi := hexVal_upperDigit (n / 16) (by omega)
  have hlo := hexVal_upperDigit (n % 16) (Nat.mod_lt _ (by decide))
  rw [fmtX_byte n hn, List.cons_append, List.cons_append, List.nil_append,
    scanHex_pair hhi hlo hws, Nat.div_add_mod]

/-- A byte that was printed with `%02X` is read back by `%2x`, if it is at the
start of the text. -/
theorem scanHex_fmtX {n : Nat} (hn : n < 256) (rest : List Char) :
    scanHex (some 2) (fmtX 2 n ++ rest) = .item n rest :=
  scanHex_byte hn (fun c (h : c ∈ []) => nomatch h) rest

/-- A single digit that was printed with `%X` is read back by `%x`, if the text
ends behind it. -/
theorem scanHex_digit : ∀ n < 16, scanHex none (fmtX 1 n) = .item n [] := by
  decide

/-- White space in a format changes nothing in front of a conversion. -/
theorem assigned_space_hex (w : Option Nat) (f : List Directive) (s : List Char) :
    assigned (.space :: .hex w :: f) s = assigned (.hex w :: f) s := by
  have hidem : (s.dropWhile isspace).dropWhile isspace = s.dropWhile isspace := by
    cases hs : s.dropWhile isspace with
    | nil => rfl
    | cons c cs =>
      have hc := List.head?_dropWhile_not isspace s
      rw [hs] at hc
      exact List.dropWhile_cons_of_neg (by simpa using hc)
  simp only [assigned, scanHex, hidem]

/-- White space in front of conversions changes nothing. -/
theorem assigned_hexPairs_space {c : Char} (hc : isspace c = true) (s : List Char) :
    ∀ n : Nat, assigned (hexPairs n) (c :: s) = assigned (hexPairs n) s
  | 0 => rfl
  | 1 => by
    simp only [hexPairs, assigned, scanHex, List.dropWhile_cons_of_pos hc]
  | n + 2 => by
    simp only [hexPairs, assigned, scanHex, List.dropWhile_cons_of_pos hc]

/-- A text of hex pairs with white space between and around them, and the bytes
it stands for. -/
inductive HexText : List Char → List Nat → Prop
  | nil : HexText [] []
  | space {c : Char} {s : List Char} {bytes : List Nat} (hc : isspace c = true)
      (h : HexText s bytes) : HexText (c :: s) bytes
  | pair {hi lo : Char} {a b : Nat} {s : List Char} {bytes : List Nat} (hhi : hexVal hi = some a)
      (hlo : hexVal lo = some b) (h : HexText s bytes) :
      HexText (hi :: lo :: s) ((16 * a + b) :: bytes)

namespace HexText

variable {s t : List Char} {bytes more : List Nat}

theorem append (h : HexText s bytes) (ht : HexText t more) : HexText (s ++ t) (bytes ++ more) := by
  induction h with
  | nil => exact ht
  | space hc _ ih => exact .space hc ih
  | pair hhi hlo _ ih => exact .pair hhi hlo ih

theorem spaces (h : HexText s bytes) : ∀ {ws : List Char}, (∀ c ∈ ws, isspace c = true) →
    HexText (ws ++ s) bytes
  | [], _ => h
  | c :: _, hws => .space (hws c (List.mem_cons_self ..))
      (h.spaces fun d hd => hws d (List.mem_cons_of_mem _ hd))

theorem byte {n : Nat} (hn : n < 256) (h : HexText s bytes) :
    HexText (fmtX 2 n ++ s) (n :: bytes) := by
  have hpair := HexText.pair (hexVal_upperDigit (n / 16) (by omega))
    (hexVal_upperDigit (n % 16) (Nat.mod_lt _ (by decide))) h
  rw [Nat.div_add_mod] at hpair
  rw [fmtX_byte n hn]
  exact hpair

/-- Each byte of such a text takes two characters at least, so the text is at
least twice as long as the number of its bytes. -/
theorem length (h : HexText s bytes) : 2 * bytes.length ≤ s.length := by
  induction h with
  | nil => exact Nat.le_refl 0
  | space _ _ ih => exact Nat.le_succ_of_le ih
  | pair _ _ _ ih =>
    simp only [List.length_cons]
    omega

theorem lt (h : HexText s bytes) : ∀ b ∈ bytes, b < 256 := by
  induction h with
  | nil => exact fun _ hb => absurd hb List.not_mem_nil
  | space _ _ ih => exact ih
  | pair hhi hlo _ ih =>
    intro b hb
    rcases List.mem_cons.mp hb with rfl | hb
    · have := hexVal_lt hhi
      have := hexVal_lt hlo
      omega
    · exact ih b hb

/-- A text of bytes in hex is made of white space and hex digits, and of nothing
else. -/
theorem mem (h : HexText s bytes) : ∀ c ∈ s, isspace c = true ∨ (hexVal c).isSome = true := by
  induction h with
  | nil => exact fun _ hc => absurd hc List.not_mem_nil
  | space hsp _ ih =>
    intro c hc
    rcases List.mem_cons.mp hc with rfl | hc
    · exact Or.inl hsp
    · exact ih c hc
  | pair hhi hlo _ ih =>
    intro c hc
    rcases List.mem_cons.mp hc with rfl | hc
    · exact Or.inr (by rw [hhi]; rfl)
    · rcases List.mem_cons.mp hc with rfl | hc
      · exact Or.inr (by rw [hlo]; rfl)
      · exact ih c hc

end HexText

/-- **Reading back hex pairs.** Whatever the spacing, `n` conversions store the
first `n` bytes. -/
theorem assigned_hexText {s : List Char} {bytes : List Nat} (h : HexText s bytes) :
    ∀ n : Nat, assigned (hexPairs n) s = bytes.take n := by
  induction h with
  | nil =>
    have heof : scanHex (some 2) [] = .eof := rfl
    intro n
    match n with
    | 0 => rfl
    | 1 => simp [hexPairs, assigned, heof]
    | n + 2 => simp [hexPairs, assigned, heof]
  | space hc _ ih =>
    intro n
    rw [assigned_hexPairs_space hc, ih]
  | @pair hi lo a b s bytes hhi hlo _ ih =>
    have hscan : scanHex (some 2) (hi :: lo :: s) = .item (16 * a + b) s :=
      scanHex_pair hhi hlo (fun c (h : c ∈ []) => nomatch h) s
    intro n
    match n with
    | 0 => rfl
    | 1 =>
      rw [hexPairs, assigned, hscan]
      rfl
    | n + 2 =>
      have hskip : assigned (.space :: hexPairs (n + 1)) s = assigned (hexPairs (n + 1)) s := by
        cases n <;> exact assigned_space_hex ..
      rw [hexPairs, assigned, hscan]
      dsimp only
      rw [hskip, ih]
      rfl

/-- A line of printed bytes, each with some white space before it. -/
def pairsText (ps : List (List Char × Nat)) : List Char :=
  ps.flatMap fun p => p.1 ++ fmtX 2 p.2

/-- What `pairsText` is made of: white space and bytes. -/
def PairsOk (ps : List (List Char × Nat)) : Prop :=
  ∀ p ∈ ps, (∀ c ∈ p.1, isspace c = true) ∧ p.2 < 256

theorem hexText_pairsText : ∀ {ps : List (List Char × Nat)}, PairsOk ps →
    HexText (pairsText ps) (ps.map Prod.snd)
  | [], _ => .nil
  | p :: ps, h => by
    obtain ⟨hws, hb⟩ := h p (List.mem_cons_self ..)
    have ih := hexText_pairsText fun q hq => h q (List.mem_cons_of_mem _ hq)
    rw [pairsText, List.flatMap_cons, List.append_assoc]
    exact (ih.byte hb).spaces hws

/-- On a line of bytes, `n` conversions of `%2x` store the first `n` of them, or
all if there are fewer. -/
theorem assigned_pairs (n : Nat) {ps : List (List Char × Nat)} (h : PairsOk ps) :
    assigned (hexPairs n) (pairsText ps) = (ps.map Prod.snd).take n :=
  assigned_hexText (hexText_pairsText h) n

end ObdGpsLogger.CLib
