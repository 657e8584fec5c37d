import ObdGpsLogger.CLib.Scanf

/-!
# Trouble codes as text and as bytes

`src/obdinfo/dtccodes.c` checks and encodes the text of a trouble code, such
as `P0123`; `obderrconvert` of `src/obdinfo/obdservicecommands.c` writes the
text of two bytes.

`obderrconvert_humantobytes` says that what is encoded is written back,
`humantobytes_obderrconvert` that what is written is encoded back, and
`dtcHumantobytes_isSome_iff` what is encoded: of the texts `dtc_isvalid` lets
through, those whose first digit is at most 3.

Mirroring notes:
- `dtc_humantobytes` returns the two bytes, or `none` for `-1`, when it leaves
  both outputs alone.
-/

namespace ObdGpsLogger.Obdinfo

open CLib

/-- `dtc_isvalid`: a letter of `PCBU` and four upper-case hex digits. -/
def dtcIsvalid (test : List Char) : Bool :=
  match test with
  | [c, a, b, d, e] =>
    (c == 'P' || c == 'C' || c == 'B' || c == 'U') &&
      [a, b, d, e].all fun x => ('0' ≤ x && x ≤ '9') || ('A' ≤ x && x ≤ 'F')
  | _ => false

/-- The offset of a letter, in quarters of the high digit. -/
def letterOffset (c : Char) : Option Nat :=
  if c = 'P' then some 0x00
  else if c = 'C' then some 0x04
  else if c = 'B' then some 0x08
  else if c = 'U' then some 0x0C
  else none

/-- `dtc_humantobytes`: what is stored in `*A` and `*B`. `none`: nothing is. -/
def dtcHumantobytes (human : List Char) : Option (Nat × Nat) :=
  if dtcIsvalid human = false then none
  else
    let mod : Int := (human.getD 1 nul).toNat - '0'.toNat
    if 3 < mod ∨ mod < 0 then none
    else
      match letterOffset (human.getD 0 nul) with
      | none => none
      | some offset =>
        match (sscanf [.hex (some 1), .hex (some 2)] (human.drop 2)).vals with
        | [one, two] => some (one + (mod.toNat + offset) <<< 4, two)
        | _ => none

/-- `obderrconvert`: the text of a trouble code that two bytes stand for. -/
def obderrconvert (A B : Nat) : List Char :=
  let partcode := (A >>> 4) % 16
  let part : Char × Nat :=
    if partcode < 0x04 then ('P', partcode)
    else if partcode < 0x08 then ('C', partcode - 4)
    else if partcode < 0x0C then ('B', partcode - 8)
    else ('U', partcode - 12)
  snprintf 6 (part.1 :: (Nat.toDigits 10 part.2 ++ fmtX 1 (A % 16) ++ fmtX 2 B))

/-! ## The texts -/

/-- What `dtc_isvalid` takes for a digit. -/
def isDtcDigit (x : Char) : Bool := ('0' ≤ x && x ≤ '9') || ('A' ≤ x && x ≤ 'F')

theorem isDtcDigit_upperDigit : ∀ d < 16, isDtcDigit (upperDigit d) = true := by
  decide

/-- A character that may stand in a code, behind the letter, is a hex digit: a
decimal or an upper-case one. -/
theorem exists_upperDigit {x : Char} (h : isDtcDigit x = true) : ∃ d < 16, x = upperDigit d := by
  simp only [isDtcDigit, Bool.or_eq_true, Bool.and_eq_true, decide_eq_true_eq, Char.le_def,
    UInt32.le_iff_toNat_le] at h
  have hnat : x.val.toNat = x.toNat := rfl
  have h0 : '0'.val.toNat = 48 := rfl
  have h9 : '9'.val.toNat = 57 := rfl
  have hA : 'A'.val.toNat = 65 := rfl
  have hF : 'F'.val.toNat = 70 := rfl
  rcases h with h | h
  · refine ⟨x.toNat - 48, by omega, ?_⟩
    rw [upperDigit, if_pos (by omega), show 48 + (x.toNat - 48) = x.toNat by omega,
      Char.ofNat_toNat]
  · refine ⟨x.toNat - 55, by omega, ?_⟩
    rw [upperDigit, if_neg (by omega), show 55 + (x.toNat - 55) = x.toNat by omega,
      Char.ofNat_toNat]

theorem letterOffset_isSome_iff (c : Char) : (letterOffset c).isSome ↔
    (c == 'P' || c == 'C' || c == 'B' || c == 'U') = true := by
  unfold letterOffset
  by_cases hP : c = 'P'
  · simp [hP]
  by_cases hC : c = 'C'
  · simp [hC]
  by_cases hB : c = 'B'
  · simp [hB]
  by_cases hU : c = 'U'
  · simp [hU]
  simp [hP, hC, hB, hU]

/-- The text of a letter and four digits. -/
def dtcText (c : Char) (d₁ d₂ d₃ d₄ : Nat) : List Char :=
  [c, upperDigit d₁, upperDigit d₂, upperDigit d₃, upperDigit d₄]

/-- **A valid text**: a letter and four hex digits. -/
theorem dtcIsvalid_iff {test : List Char} : dtcIsvalid test = true ↔
    ∃ c offset d₁ d₂ d₃ d₄, letterOffset c = some offset ∧
      (d₁ < 16 ∧ d₂ < 16 ∧ d₃ < 16 ∧ d₄ < 16) ∧ test = dtcText c d₁ d₂ d₃ d₄ := by
  constructor
  · intro h
    unfold dtcIsvalid at h
    split at h
    · next c a b d e =>
      rw [Bool.and_eq_true, ← letterOffset_isSome_iff, Option.isSome_iff_exists] at h
      obtain ⟨⟨offset, hoffset⟩, hdigits⟩ := h
      have hdig : isDtcDigit a = true ∧ isDtcDigit b = true ∧ isDtcDigit d = true ∧
          isDtcDigit e = true := by
        simpa [List.all_cons, isDtcDigit] using hdigits
      obtain ⟨d₁, h₁, rfl⟩ := exists_upperDigit hdig.1
      obtain ⟨d₂, h₂, rfl⟩ := exists_upperDigit hdig.2.1
      obtain ⟨d₃, h₃, rfl⟩ := exists_upperDigit hdig.2.2.1
      obtain ⟨d₄, h₄, rfl⟩ := exists_upperDigit hdig.2.2.2
      exact ⟨c, offset, d₁, d₂, d₃, d₄, hoffset, ⟨h₁, h₂, h₃, h₄⟩, rfl⟩
    · cases h
  · rintro ⟨c, offset, d₁, d₂, d₃, d₄, hoffset, ⟨h₁, h₂, h₃, h₄⟩, rfl⟩
    show (_ && [upperDigit d₁, upperDigit d₂, upperDigit d₃, upperDigit d₄].all isDtcDigit) = true
    rw [Bool.and_eq_true, ← letterOffset_isSome_iff, hoffset]
    simp [isDtcDigit_upperDigit _ h₁, isDtcDigit_upperDigit _ h₂, isDtcDigit_upperDigit _ h₃,
      isDtcDigit_upperDigit _ h₄]

/-! ## Encoding -/

/-- `%1X` in front of several digits reads the first of them, and leaves the
others. -/
theorem scanHex_one {d : Nat} (hd : d < 16) (rest : List Char) :
    scanHex (some 1) (upperDigit d :: rest) = .item d rest := by
  have hnum : scanNumber false 1 (upperDigit d :: rest) = .item d rest := by
    have hval : strtoul false [d] = d := by
      rw [strtoul, show ofDigits [d] = d by simp [ofDigits], if_neg (by omega), if_neg (by decide)]
      omega
    simp [scanNumber, scanDigits, hexVal_upperDigit _ hd, hval]
  have hpre : scanPrefixed false 1 (upperDigit d :: rest) = .item d rest := by
    unfold scanPrefixed
    split
    · next x s heq =>
      rw [if_neg (by omega), ← heq]
      exact hnum
    · exact hnum
  have hsigned : scanSigned 1 (upperDigit d :: rest) = .item d rest := by
    have hm := hexVal_ne (hexVal_upperDigit _ hd) '-' (by decide)
    have hp := hexVal_ne (hexVal_upperDigit _ hd) '+' (by decide)
    unfold scanSigned
    split
    · next heq => exact absurd (List.cons.inj heq).1 hm
    · next heq => exact absurd (List.cons.inj heq).1 hp
    · exact hpre
  rw [scanHex, List.dropWhile_cons_of_neg (by rw [isspace_of_hexVal (hexVal_upperDigit _ hd)]; decide)]
  exact hsigned

/-- What the second `sscanf` reads from the three digits behind the first: one
digit, and a byte made of the other two. -/
theorem scan_dtcText {d₂ d₃ d₄ : Nat} (h₂ : d₂ < 16) (h₃ : d₃ < 16) (h₄ : d₄ < 16) :
    (sscanf [.hex (some 1), .hex (some 2)] [upperDigit d₂, upperDigit d₃, upperDigit d₄]).vals =
      [d₂, 16 * d₃ + d₄] := by
  have hbyte : [upperDigit d₃, upperDigit d₄] = fmtX 2 (16 * d₃ + d₄) ++ [] := by
    rw [fmtX_byte _ (by omega), List.append_nil, show (16 * d₃ + d₄) / 16 = d₃ by omega,
      show (16 * d₃ + d₄) % 16 = d₄ by omega]
  rw [sscanf, assigned, scanHex_one h₂]
  dsimp only
  rw [hbyte, assigned, scanHex_fmtX (by omega)]
  rfl

/-- The number behind the letter is below 4 for the first four digits only. -/
theorem upperDigit_mod : ∀ d < 16,
    (3 < ((upperDigit d).toNat : Int) - '0'.toNat ∨ ((upperDigit d).toNat : Int) - '0'.toNat < 0 ↔
      4 ≤ d) ∧ (d < 4 → (((upperDigit d).toNat : Int) - '0'.toNat).toNat = d) := by
  decide

/-- The bytes as which a text of a letter and four digits is encoded; it is
refused if its first digit is above 3. -/
theorem dtcHumantobytes_dtcText {c : Char} {offset d₁ d₂ d₃ d₄ : Nat}
    (hc : letterOffset c = some offset) (h₁ : d₁ < 16) (h₂ : d₂ < 16) (h₃ : d₃ < 16)
    (h₄ : d₄ < 16) : dtcHumantobytes (dtcText c d₁ d₂ d₃ d₄) =
      if d₁ < 4 then some (d₂ + (d₁ + offset) <<< 4, 16 * d₃ + d₄) else none := by
  have hvalid : dtcIsvalid (dtcText c d₁ d₂ d₃ d₄) = true :=
    dtcIsvalid_iff.mpr ⟨c, offset, d₁, d₂, d₃, d₄, hc, ⟨h₁, h₂, h₃, h₄⟩, rfl⟩
  obtain ⟨hmod, hval⟩ := upperDigit_mod d₁ h₁
  have hscan := scan_dtcText h₂ h₃ h₄
  rw [dtcHumantobytes, if_neg (by rw [hvalid]; decide)]
  show (if 3 < ((upperDigit d₁).toNat : Int) - '0'.toNat ∨
    ((upperDigit d₁).toNat : Int) - '0'.toNat < 0 then none else _) = _
  by_cases hd : d₁ < 4
  · rw [if_neg (fun h => absurd (hmod.mp h) (by omega)), if_pos hd]
    show (match letterOffset c with
      | none => none
      | some offset => match (sscanf [.hex (some 1), .hex (some 2)]
          [upperDigit d₂, upperDigit d₃, upperDigit d₄]).vals with
        | [one, two] =>
          some (one + ((((upperDigit d₁).toNat : Int) - '0'.toNat).toNat + offset) <<< 4, two)
        | _ => none) = _
    rw [hc, hscan, hval hd]
  · rw [if_pos (hmod.mpr (by omega)), if_neg hd]

/-- **What can be encoded**: the valid texts whose first digit is below 4. -/
theorem dtcHumantobytes_isSome_iff {human : List Char} (h : dtcIsvalid human = true) :
    (dtcHumantobytes human).isSome ↔ human.getD 1 nul ≤ '3' := by
  obtain ⟨c, offset, d₁, d₂, d₃, d₄, hc, ⟨h₁, h₂, h₃, h₄⟩, rfl⟩ := dtcIsvalid_iff.mp h
  have hdigit : ∀ d < 16, (upperDigit d ≤ '3' ↔ d < 4) := by decide
  rw [dtcHumantobytes_dtcText hc h₁ h₂ h₃ h₄, show (dtcText c d₁ d₂ d₃ d₄).getD 1 nul =
    upperDigit d₁ from rfl, hdigit d₁ h₁]
  split <;> simp [*]

theorem letterOffset_cases {c : Char} {offset : Nat} (h : letterOffset c = some offset) :
    c = 'P' ∧ offset = 0x00 ∨ c = 'C' ∧ offset = 0x04 ∨ c = 'B' ∧ offset = 0x08 ∨
      c = 'U' ∧ offset = 0x0C := by
  unfold letterOffset at h
  split at h
  · exact Or.inl ⟨by assumption, (Option.some.inj h).symm⟩
  · split at h
    · exact Or.inr (Or.inl ⟨by assumption, (Option.some.inj h).symm⟩)
    · split at h
      · exact Or.inr (Or.inr (Or.inl ⟨by assumption, (Option.some.inj h).symm⟩))
      · split at h
        · exact Or.inr (Or.inr (Or.inr ⟨by assumption, (Option.some.inj h).symm⟩))
        · cases h

/-- The bytes of a text of a letter and four digits are written as this text
again. -/
theorem obderrconvert_dtcText {c : Char} {offset d₁ d₂ d₃ d₄ : Nat}
    (hc : letterOffset c = some offset) (h₁ : d₁ < 4) (h₂ : d₂ < 16) (h₃ : d₃ < 16)
    (h₄ : d₄ < 16) :
    obderrconvert (d₂ + (d₁ + offset) <<< 4) (16 * d₃ + d₄) = dtcText c d₁ d₂ d₃ d₄ := by
  have hoff := letterOffset_cases hc
  have hshift : (d₁ + offset) <<< 4 = 16 * (d₁ + offset) := by
    rw [Nat.shiftLeft_eq]
    omega
  have hpart : ((d₂ + (d₁ + offset) <<< 4) >>> 4) % 16 = d₁ + offset := by
    rw [hshift, Nat.shiftRight_eq_div_pow]
    omega
  have hlow : (d₂ + (d₁ + offset) <<< 4) % 16 = d₂ := by
    rw [hshift]
    omega
  have hdigit : ∀ d < 4, Nat.toDigits 10 d = [upperDigit d] := by decide
  unfold obderrconvert
  dsimp only
  rw [hpart, hlow, fmtX_digit d₂ h₂, fmtX_byte _ (by omega),
    show (16 * d₃ + d₄) / 16 = d₃ by omega, show (16 * d₃ + d₄) % 16 = d₄ by omega]
  -- one case for each letter, as in the chain of the code
  rcases hoff with ⟨rfl, rfl⟩ | ⟨rfl, rfl⟩ | ⟨rfl, rfl⟩ | ⟨rfl, rfl⟩
  · rw [if_pos (by omega), Nat.add_zero, hdigit d₁ h₁]
    rfl
  · rw [if_neg (by omega), if_pos (by omega), Nat.add_sub_cancel, hdigit d₁ h₁]
    rfl
  · rw [if_neg (by omega), if_neg (by omega), if_pos (by omega), Nat.add_sub_cancel,
      hdigit d₁ h₁]
    rfl
  · rw [if_neg (by omega), if_neg (by omega), if_neg (by omega), Nat.add_sub_cancel,
      hdigit d₁ h₁]
    rfl

/-- The texts that are encoded, and as what: a letter, a digit below 4 and three
hex digits. -/
theorem dtcHumantobytes_eq_some_iff {human : List Char} {A B : Nat} :
    dtcHumantobytes human = some (A, B) ↔
      ∃ c offset d₁ d₂ d₃ d₄, letterOffset c = some offset ∧
        (d₁ < 4 ∧ d₂ < 16 ∧ d₃ < 16 ∧ d₄ < 16) ∧ human = dtcText c d₁ d₂ d₃ d₄ ∧
          A = d₂ + (d₁ + offset) <<< 4 ∧ B = 16 * d₃ + d₄ := by
  constructor
  · intro h
    have hvalid : dtcIsvalid human = true := by
      by_contra hno
      rw [dtcHumantobytes, if_pos (by simpa using hno)] at h
      cases h
    obtain ⟨c, offset, d₁, d₂, d₃, d₄, hc, ⟨h₁, h₂, h₃, h₄⟩, rfl⟩ := dtcIsvalid_iff.mp hvalid
    rw [dtcHumantobytes_dtcText hc h₁ h₂ h₃ h₄] at h
    split at h
    · next hd =>
      obtain ⟨rfl, rfl⟩ := Prod.mk.inj (Option.some.inj h)
      exact ⟨c, offset, d₁, d₂, d₃, d₄, hc, ⟨hd, h₂, h₃, h₄⟩, rfl, rfl, rfl⟩
    · cases h
  · rintro ⟨c, offset, d₁, d₂, d₃, d₄, hc, ⟨h₁, h₂, h₃, h₄⟩, rfl, rfl, rfl⟩
    rw [dtcHumantobytes_dtcText hc (by omega) h₂ h₃ h₄, if_pos h₁]

/-- **Encoded and written back**, a text is the same, and the two are bytes. -/
theorem obderrconvert_humantobytes {human : List Char} {A B : Nat}
    (h : dtcHumantobytes human = some (A, B)) :
    obderrconvert A B = human ∧ A < 256 ∧ B < 256 := by
  obtain ⟨c, offset, d₁, d₂, d₃, d₄, hc, ⟨h₁, h₂, h₃, h₄⟩, rfl, rfl, rfl⟩ :=
    dtcHumantobytes_eq_some_iff.mp h
  have hoff := letterOffset_cases hc
  refine ⟨obderrconvert_dtcText hc h₁ h₂ h₃ h₄, ?_, by omega⟩
  rw [Nat.shiftLeft_eq]
  omega

/-! ## Both ways -/

/-- The letter of a high digit, and what is left of it. -/
theorem exists_letterOffset {p : Nat} (h : p < 16) :
    ∃ c offset d, letterOffset c = some offset ∧ d < 4 ∧ p = d + offset := by
  by_cases h₁ : p < 0x04
  · exact ⟨'P', 0x00, p, by decide, h₁, rfl⟩
  by_cases h₂ : p < 0x08
  · exact ⟨'C', 0x04, p - 0x04, by decide, by omega, by omega⟩
  by_cases h₃ : p < 0x0C
  · exact ⟨'B', 0x08, p - 0x08, by decide, by omega, by omega⟩
  · exact ⟨'U', 0x0C, p - 0x0C, by decide, by omega, by omega⟩

/-- **Written and encoded**, two bytes are the same. -/
theorem humantobytes_obderrconvert {A B : Nat} (hA : A < 256) (hB : B < 256) :
    dtcHumantobytes (obderrconvert A B) = some (A, B) := by
  obtain ⟨c, offset, d, hc, hd, hp⟩ := exists_letterOffset (show A / 16 < 16 by omega)
  have hAeq : A = A % 16 + (d + offset) <<< 4 := by
    rw [Nat.shiftLeft_eq, ← hp]
    omega
  have hBeq : B = 16 * (B / 16) + B % 16 := by omega
  have htext := obderrconvert_dtcText hc hd (show A % 16 < 16 by omega)
    (show B / 16 < 16 by omega) (show B % 16 < 16 by omega)
  rw [← hAeq, ← hBeq] at htext
  rw [htext]
  exact dtcHumantobytes_eq_some_iff.mpr
    ⟨c, offset, d, A % 16, B / 16, B % 16, hc, ⟨hd, by omega, by omega, by omega⟩, rfl, hAeq, hBeq⟩

/-- A call of `dtc_humantobytes` with these outputs: what it returns, and the
outputs after it. -/
def callHumantobytes (human : List Char) (A B : Nat) : Int × Nat × Nat :=
  match dtcHumantobytes human with
  | none => (-1, A, B)
  | some (a, b) => (0, a, b)

/-- One of the letters, a digit up to `3`, and three hex digits in capitals. -/
def IsDtc (s : List Char) : Prop :=
  ∃ c ∈ ['P', 'C', 'B', 'U'], ∃ a ∈ ['0', '1', '2', '3'], ∃ x y z, s = [c, a, x, y, z] ∧
    isDtcDigit x = true ∧ isDtcDigit y = true ∧ isDtcDigit z = true

/-- **The texts that are encoded** are those of a letter, a digit below 4 and
three digits in upper case, and no others. -/
theorem humantobytes_isSome_iff (human : List Char) :
    (dtcHumantobytes human).isSome ↔ IsDtc human := by
  rw [Option.isSome_iff_exists]
  constructor
  · rintro ⟨⟨A, B⟩, h⟩
    obtain ⟨c, offset, d₁, d₂, d₃, d₄, hc, ⟨h₁, h₂, h₃, h₄⟩, rfl, -, -⟩ :=
      dtcHumantobytes_eq_some_iff.mp h
    have hletter : c ∈ ['P', 'C', 'B', 'U'] := by
      rcases letterOffset_cases hc with ⟨rfl, -⟩ | ⟨rfl, -⟩ | ⟨rfl, -⟩ | ⟨rfl, -⟩ <;> simp
    have hdigit : ∀ d < 4, upperDigit d ∈ ['0', '1', '2', '3'] := by decide
    exact ⟨c, hletter, upperDigit d₁, hdigit d₁ h₁, _, _, _, rfl, isDtcDigit_upperDigit _ h₂,
      isDtcDigit_upperDigit _ h₃, isDtcDigit_upperDigit _ h₄⟩
  · rintro ⟨c, hc, a, ha, x, y, z, rfl, hx, hy, hz⟩
    have hletter : ∃ offset, letterOffset c = some offset := by
      rw [← Option.isSome_iff_exists, letterOffset_isSome_iff]
      simpa [or_assoc] using hc
    have hdigit : ∃ d < 4, a = upperDigit d := by
      simp only [List.mem_cons, List.not_mem_nil, or_false] at ha
      rcases ha with rfl | rfl | rfl | rfl
      · exact ⟨0, by decide, rfl⟩
      · exact ⟨1, by decide, rfl⟩
      · exact ⟨2, by decide, rfl⟩
      · exact ⟨3, by decide, rfl⟩
    obtain ⟨offset, hoffset⟩ := hletter
    obtain ⟨d₁, h₁, rfl⟩ := hdigit
    obtain ⟨d₂, h₂, rfl⟩ := exists_upperDigit hx
    obtain ⟨d₃, h₃, rfl⟩ := exists_upperDigit hy
    obtain ⟨d₄, h₄, rfl⟩ := exists_upperDigit hz
    exact ⟨_, dtcHumantobytes_eq_some_iff.mpr
      ⟨c, offset, d₁, d₂, d₃, d₄, hoffset, ⟨h₁, h₂, h₃, h₄⟩, rfl, rfl, rfl⟩⟩

/-- **Text and bytes are inverse.** A call succeeds for the texts of trouble
codes and no others; then the outputs are bytes and are written as that text,
else they are what they were; and two bytes written as text come back. -/
theorem callHumantobytes_inverse (human : List Char) (A B : Nat) :
    ((callHumantobytes human A B).1 = 0 ↔ IsDtc human) ∧
      ((callHumantobytes human A B).1 = 0 →
        (callHumantobytes human A B).2.1 < 256 ∧ (callHumantobytes human A B).2.2 < 256 ∧
          obderrconvert (callHumantobytes human A B).2.1 (callHumantobytes human A B).2.2
            = human) ∧
      ((callHumantobytes human A B).1 ≠ 0 → (callHumantobytes human A B).2 = (A, B)) ∧
      ∀ a < 256, ∀ b < 256, callHumantobytes (obderrconvert a b) A B = (0, a, b) := by
  have hback : ∀ a < 256, ∀ b < 256, callHumantobytes (obderrconvert a b) A B = (0, a, b) := by
    intro a ha b hb
    rw [callHumantobytes, humantobytes_obderrconvert ha hb]
  rw [← humantobytes_isSome_iff]
  cases h : dtcHumantobytes human with
  | none =>
    have hcall : callHumantobytes human A B = (-1, A, B) := by rw [callHumantobytes, h]
    have hfail : ¬ (-1 : Int) = 0 := by decide
    rw [hcall]
    exact ⟨iff_of_false hfail Bool.false_ne_true, fun h0 => absurd h0 hfail, fun _ => rfl, hback⟩
  | some bytes =>
    obtain ⟨a, b⟩ := bytes
    have hcall : callHumantobytes human A B = (0, a, b) := by rw [callHumantobytes, h]
    obtain ⟨htext, ha, hb⟩ := obderrconvert_humantobytes h
    rw [hcall]
    exact ⟨iff_of_true rfl rfl, fun _ => ⟨ha, hb, htext⟩, fun hno => absurd rfl hno, hback⟩

/-- A text that is none, and the two ways for `P0171`. -/
example : callHumantobytes "P4000".toList 7 8 = (-1, 7, 8) ∧
    callHumantobytes "P0171".toList 7 8 = (0, 1, 0x71) := by decide

end ObdGpsLogger.Obdinfo
