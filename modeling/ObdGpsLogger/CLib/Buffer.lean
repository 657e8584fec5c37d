import ObdGpsLogger.CLib.Text

/-!
# Fixed-size `char` arrays

`Buffer n` is a `char buf[n]`: exactly `n` cells, whatever the operations
before left in them. Cells keep what was written there until something else
is written, which is the point of the type: `memmove` towards the front
leaves the old tail in place, and a scan for a NUL or another character may
run into it, or past the end.

`scan` is the cell-by-cell search a `strstr` with a one-character needle
makes. It has three outcomes, and the third (no NUL, no match, end of the
array) is the one a C program must not reach.
-/

namespace ObdGpsLogger.CLib

/-- `char buf[n]`. -/
structure Buffer (n : Nat) where
  cells : List Char
  size : cells.length = n

namespace Buffer

variable {n : Nat}

/-- An array of `n` characters after `memset(buf, 0, n)`. -/
def zeroed (n : Nat) : Buffer n := ⟨List.replicate n nul, List.length_replicate ..⟩

/-- Write a text at a position; what does not fit is cut off. -/
def store (b : Buffer n) (pos : Nat) (bs : List Char) : Buffer n :=
  ⟨(b.cells.take pos ++ bs ++ b.cells.drop (pos + bs.length)).take n, by
    have := b.size
    simp only [List.length_take, List.length_append, List.length_drop]
    omega⟩

/-- `memmove(buf, buf + k, n - k)`: the last `k` cells keep what they held. -/
def moveDown (b : Buffer n) (k : Nat) : Buffer n :=
  ⟨b.cells.drop k ++ b.cells.drop (n - k), by
    have := b.size
    simp only [List.length_append, List.length_drop]
    omega⟩

/-- What the cells are after bytes have been stored inside the array: those in
front and those behind stay. -/
theorem store_cells {b : Buffer n} {pos : Nat} {bs : List Char} (h : pos + bs.length ≤ n) :
    (b.store pos bs).cells = b.cells.take pos ++ bs ++ b.cells.drop (pos + bs.length) := by
  have hsz := b.size
  refine List.take_of_length_le ?_
  simp only [List.length_append, List.length_take, List.length_drop]
  omega

/-- The front goes, and the end is there twice. -/
theorem moveDown_cells {b : Buffer n} {pre r : List Char} (h : b.cells = pre ++ r) :
    (b.moveDown pre.length).cells = r ++ b.cells.drop (n - pre.length) := by
  show b.cells.drop pre.length ++ b.cells.drop (n - pre.length) = _
  rw [h, List.drop_left]

end Buffer

/-! ## Scanning for a character -/

/-- How a search for a character in memory can end. -/
inductive Scan where
  /-- Found, with the text before it and the memory from it on. -/
  | found (before rest : List Char)
  /-- A NUL came first. -/
  | absent
  /-- The search ran over the last cell. -/
  | overrun
  deriving DecidableEq, Repr

/-- Put one more visited cell in front of a search result. -/
def Scan.push (d : Char) : Scan → Scan
  | .found before rest => .found (d :: before) rest
  | .absent => .absent
  | .overrun => .overrun

/-- `strstr(mem, c)` on an array, cell by cell. -/
def scan (c : Char) : List Char → Scan
  | [] => .overrun
  | d :: mem =>
    if d = c then .found [] (d :: mem)
    else if d = nul then .absent
    else (scan c mem).push d

/-- A match inside a NUL-free prefix is found there. -/
theorem scan_of_mem {c : Char} {tail : List Char} :
    ∀ {s : List Char}, nul ∉ s → c ∈ s →
      scan c (s ++ tail) =
        .found (s.takeWhile (fun d => d != c)) (s.dropWhile (fun d => d != c) ++ tail)
  | [], _, hc => absurd hc (by simp)
  | d :: s, hs, hc => by
    have hdn : d ≠ nul := fun h => hs (h ▸ List.mem_cons_self ..)
    rw [List.cons_append, scan]
    by_cases hdc : d = c
    · simp [hdc]
    · have hc' : c ∈ s := (List.mem_cons.mp hc).resolve_left (fun h => hdc h.symm)
      rw [if_neg hdc, if_neg hdn, scan_of_mem (fun h => hs (List.mem_cons_of_mem _ h)) hc']
      simp [Scan.push, hdc]

/-- Without a match in a NUL-free prefix the search goes on behind it. -/
theorem scan_of_not_mem {c : Char} {tail : List Char} :
    ∀ {s : List Char}, nul ∉ s → c ∉ s →
      scan c (s ++ tail) = s.foldr Scan.push (scan c tail)
  | [], _, _ => rfl
  | d :: s, hs, hc => by
    have hdn : d ≠ nul := fun h => hs (h ▸ List.mem_cons_self ..)
    have hdc : d ≠ c := fun h => hc (h ▸ List.mem_cons_self ..)
    rw [List.cons_append, scan, if_neg hdc, if_neg hdn,
      scan_of_not_mem (fun h => hs (List.mem_cons_of_mem _ h))
        (fun h => hc (List.mem_cons_of_mem _ h))]
    rfl

/-- Visiting more cells first keeps what was found, and puts them before it. -/
theorem foldr_push (r : Scan) : ∀ (s : List Char),
    s.foldr Scan.push r =
      match r with
      | .found before rest => .found (s ++ before) rest
      | .absent => .absent
      | .overrun => .overrun
  | [] => by cases r <;> rfl
  | d :: s => by
    rw [List.foldr_cons, foldr_push r s]
    cases r <;> rfl

/-- A match is the first: the text before it has neither it nor a NUL, and
together with what follows it is the memory. -/
theorem scan_eq_found {c : Char} :
    ∀ {mem before rest : List Char}, scan c mem = .found before rest →
      mem = before ++ rest ∧ rest.head? = some c
  | [], _, _, h => by simp [scan] at h
  | d :: mem, before, rest, h => by
    rw [scan] at h
    split at h
    · next hdc =>
      injection h with h₁ h₂
      subst h₁ h₂
      exact ⟨rfl, by simp [hdc]⟩
    · split at h
      · cases h
      · cases hm : scan c mem with
        | absent => rw [hm] at h; cases h
        | overrun => rw [hm] at h; cases h
        | found before' rest' =>
          rw [hm] at h
          injection h with h₁ h₂
          subst h₁ h₂
          obtain ⟨hmem, hhead⟩ := scan_eq_found hm
          exact ⟨by rw [hmem]; rfl, hhead⟩

/-- The search reports a NUL first exactly when the memory holds a C string
without the character. -/
theorem scan_eq_absent {c : Char} (hcn : c ≠ nul) :
    ∀ (mem : List Char), scan c mem = .absent ↔ nul ∈ mem ∧ c ∉ cstr mem
  | [] => by simp [scan]
  | d :: mem => by
    have ih := scan_eq_absent hcn mem
    rw [scan]
    by_cases hdc : d = c
    · subst hdc
      simp [cstr, hcn]
    · by_cases hdn : d = nul
      · subst hdn
        simp [cstr, hdc]
      · have hcd : ¬ c = d := fun h => hdc h.symm
        have hnd : ¬ nul = d := fun h => hdn h.symm
        rw [if_neg hdc, if_neg hdn]
        cases hm : scan c mem with
        | absent => simpa [Scan.push, cstr, hdn, hcd, hnd] using ih.mp hm
        | found _ _ =>
          rw [hm] at ih
          simpa [Scan.push, cstr, hdn, hcd, hnd] using ih
        | overrun =>
          rw [hm] at ih
          simpa [Scan.push, cstr, hdn, hcd, hnd] using ih

/-- A NUL anywhere in an array ends every search inside it, whatever the
character that is looked for. -/
theorem scan_ne_overrun {c : Char} {mem : List Char} (h : nul ∈ mem) : scan c mem ≠ .overrun := by
  induction mem with
  | nil => cases h
  | cons d mem ih =>
    rw [scan]
    split
    · intro hs
      cases hs
    · split
      · intro hs
        cases hs
      · next hd =>
        have hne := ih ((List.mem_cons.mp h).resolve_left fun he => hd he.symm)
        cases hs : scan c mem with
        | overrun => exact absurd hs hne
        | found before rest =>
          intro hpush
          cases hpush
        | absent =>
          intro hpush
          cases hpush

/-- `NULL != strstr(buf, needle)`; `none` if neither the text nor a NUL is in
the array, and the search runs over its last cell. -/
def Buffer.holds {n : Nat} (b : Buffer n) (needle : List Char) : Option Bool :=
  if (strstr (cstr b.cells) needle).isSome then some true
  else if nul ∈ b.cells then some false
  else none

/-- `strcspn(mem, reject)`; `none` if neither a character of `reject` nor a NUL
is in the array. -/
def strcspn (reject : List Char) (mem : List Char) : Option Nat :=
  let len := (mem.takeWhile fun c => c != nul && !reject.contains c).length
  if len < mem.length then some len else none

/-- The span ends with the first character that is rejected, or with the text. -/
theorem strcspn_append {reject span mem : List Char} {c : Char}
    (hspan : ∀ d ∈ span, d ≠ nul ∧ d ∉ reject) (hc : c = nul ∨ c ∈ reject) :
    strcspn reject (span ++ c :: mem) = some span.length := by
  have hstop : (span ++ c :: mem).takeWhile (fun d => d != nul && !reject.contains d) = span := by
    rw [List.takeWhile_append_of_pos, List.takeWhile_cons_of_neg, List.append_nil]
    · rcases hc with rfl | hc
      · simp
      · simp [hc]
    · intro d hd
      obtain ⟨hnul, hrej⟩ := hspan d hd
      simp [hnul, hrej]
  rw [strcspn, hstop, if_pos]
  rw [List.length_append, List.length_cons]
  omega

/-! ## A text in an array -/

/-- The array holds a text, and is zero behind it. -/
structure Buffer.Holding {n : Nat} (buf : Buffer n) (text : List Char) : Prop where
  cells : buf.cells = text ++ List.replicate (n - text.length) nul
  fits : text.length ≤ n

theorem holding_zeroed (n : Nat) : (Buffer.zeroed n).Holding [] := ⟨rfl, Nat.zero_le n⟩

namespace Buffer.Holding

variable {n : Nat} {buf : Buffer n} {text : List Char}

theorem cstr_eq (h : buf.Holding text) : cstr buf.cells = cstr text := by
  rw [h.cells]
  exact cstr_append_zeros fun c hc => List.eq_of_mem_replicate hc

/-- An array that holds a text has a NUL in it exactly if there is one in the
text itself, or room for one behind it. -/
theorem nul_mem_iff (h : buf.Holding text) : nul ∈ buf.cells ↔ text.length < n ∨ nul ∈ text := by
  rw [h.cells, List.mem_append, List.mem_replicate]
  constructor
  · intro hn
    rcases hn with hn | hn
    · exact Or.inr hn
    · exact Or.inl (by omega)
  · intro hn
    rcases hn with hn | hn
    · exact Or.inr ⟨by omega, rfl⟩
    · exact Or.inl hn

/-- Bytes that are stored right behind the text an array holds go on with that
text, if there is room for them. -/
theorem store (h : buf.Holding text) {bs : List Char} (hfits : text.length + bs.length ≤ n) :
    (buf.store text.length bs).Holding (text ++ bs) := by
  refine ⟨?_, by rw [List.length_append]; exact hfits⟩
  rw [Buffer.store_cells hfits, h.cells, List.take_left, List.drop_append,
    List.drop_eq_nil_of_le (Nat.le_add_right ..), List.nil_append, List.drop_replicate,
    List.length_append]
  congr 2
  omega

/-- A NUL that is the last character of the text an array holds need not be
counted: it is what ends the text without it. -/
theorem terminate (h : buf.Holding (text ++ [nul])) : buf.Holding text := by
  have hfits := h.fits
  rw [List.length_append, List.length_singleton] at hfits
  refine ⟨?_, by omega⟩
  rw [h.cells, List.length_append, List.length_singleton, List.append_assoc,
    List.singleton_append, ← List.replicate_succ]
  congr 2
  omega

end Buffer.Holding

/-! ## Reading -/

/-- How a non-blocking `read` can end: with bytes (none of them at the end of
the file), with nothing there yet, or with another error. -/
inductive ReadResult where
  | data (bs : List Char)
  | eagain
  | error
  deriving DecidableEq, Repr

/-- The bytes that a `read` has delivered: none where it failed. -/
def ReadResult.bytes : ReadResult → List Char
  | .data bs => bs
  | .eagain => []
  | .error => []

end ObdGpsLogger.CLib
