import Mathlib.Data.List.TakeWhile
import Mathlib.Tactic.Conv

/-!
# C strings over character lists

The programs modelled here pass text around as NUL-terminated `char` buffers.
A buffer is a `List Char` (a byte of the wire is the character with that
code; nothing below depends on codes above 255 being absent), and the string
functions are the list functions of this file: `cstr` is what a reader of the
buffer sees, `strstr` returns the tail at the first match, and the results of
a `strtok` loop with one delimiter set are the list `strtokAll`.

Nothing here knows about any particular program. The lemmas are the ones a
proof about tokenised text needs: how a token list grows over an append, and
when a search text cannot occur.
-/

namespace ObdGpsLogger.CLib

/-- The character that ends a C string. -/
def nul : Char := Char.ofNat 0

/-- The C string at the start of `mem`: everything before the first NUL. -/
def cstr (mem : List Char) : List Char :=
  mem.takeWhile (fun c => c != nul)

/-- Without a NUL the whole list is the string. -/
theorem cstr_eq_self {s : List Char} (h : nul ∉ s) : cstr s = s := by
  unfold cstr
  rw [List.takeWhile_eq_self_iff]
  intro c hc
  have hne : c ≠ nul := fun he => h (he ▸ hc)
  simpa using hne

/-- Memory that is all NULs is the empty string. -/
theorem cstr_eq_nil : ∀ {mem : List Char}, (∀ c ∈ mem, c = nul) → cstr mem = []
  | [], _ => rfl
  | c :: _, h => by
    obtain rfl := h c (List.mem_cons_self ..)
    rfl

/-- A search that stops inside `s` does not look at what follows. -/
theorem takeWhile_append_of_mem {α : Type} {p : α → Bool} {e : α} {s : List α} (he : e ∈ s)
    (hp : p e = false) (t : List α) : (s ++ t).takeWhile p = s.takeWhile p := by
  rw [List.takeWhile_append, if_neg]
  intro hlen
  have hself := (List.takeWhile_prefix p).eq_of_length hlen
  have hpe := List.takeWhile_eq_self_iff.mp hself e he
  rw [hp] at hpe
  cases hpe

/-- The string in front of zeros is the string. -/
theorem cstr_append_zeros {s zeros : List Char} (h : ∀ c ∈ zeros, c = nul) :
    cstr (s ++ zeros) = cstr s := by
  by_cases hs : nul ∈ s
  · exact takeWhile_append_of_mem hs (by simp) zeros
  · have hall : ∀ c ∈ s, (c != nul) = true := by
      intro c hc
      have hne : c ≠ nul := fun he => hs (he ▸ hc)
      simpa using hne
    rw [cstr_eq_self hs]
    show (s ++ zeros).takeWhile (fun c => c != nul) = s
    rw [List.takeWhile_append_of_pos hall]
    exact (congrArg (s ++ ·) (cstr_eq_nil h)).trans (List.append_nil s)

/-- `snprintf(buf, n, …)` of a text: at most `n - 1` characters are kept. -/
def snprintf (n : Nat) (s : List Char) : List Char := s.take (n - 1)

theorem snprintf_eq_self {n : Nat} {s : List Char} (h : s.length < n) :
    snprintf n s = s :=
  List.take_of_length_le (by omega)

/-- `snprintf` of two texts in a row: if the first of them fits, all of it is
kept, and the second is cut to the room that is left. -/
theorem snprintf_append {n : Nat} {s : List Char} (h : s.length < n) (t : List Char) :
    snprintf n (s ++ t) = s ++ snprintf (n - s.length) t := by
  unfold snprintf
  rw [List.take_append, List.take_of_length_le (by omega)]
  congr 2
  omega

/-- `strncat(dst, src, n)`: at most `n` characters of `src` are appended. -/
def strncat (dst src : List Char) (n : Nat) : List Char := dst ++ src.take n

/-! ## Searching -/

/-- `strstr(hay, needle)`: the tail of `hay` from the first occurrence of
`needle` on, `none` for `NULL`. -/
def strstr : List Char → List Char → Option (List Char)
  | [], needle => if needle = [] then some [] else none
  | c :: cs, needle =>
    if needle.isPrefixOf (c :: cs) then some (c :: cs) else strstr cs needle

/-- A needle with a character the text does not have is not found. -/
theorem strstr_eq_none {needle : List Char} {c : Char} (hc : c ∈ needle) :
    ∀ {hay : List Char}, c ∉ hay → strstr hay needle = none
  | [], _ => by
    have hne : needle ≠ [] := List.ne_nil_of_mem hc
    simp [strstr, hne]
  | d :: hay, hn => by
    have hp : needle.isPrefixOf (d :: hay) = false := by
      rw [Bool.eq_false_iff]
      intro hp
      exact hn ((List.isPrefixOf_iff_prefix.mp hp).subset hc)
    have ih := strstr_eq_none hc (fun h => hn (List.mem_cons_of_mem _ h))
    simp [strstr, hp, ih]

/-- A needle that stands somewhere in the text is found. -/
theorem strstr_ne_none (needle post : List Char) :
    ∀ (pre : List Char), strstr (pre ++ (needle ++ post)) needle ≠ none
  | [] => by
    cases needle with
    | nil => cases post <;> simp [strstr]
    | cons c cs =>
      have hp : (c :: cs).isPrefixOf (c :: (cs ++ post)) = true :=
        List.isPrefixOf_iff_prefix.mpr ⟨post, rfl⟩
      simp [strstr, hp]
  | d :: pre => by
    rw [List.cons_append, strstr]
    split
    · simp
    · exact strstr_ne_none needle post pre

/-- What `strstr` finds does stand somewhere in the text: a search that finds
something is a proof of it. -/
theorem infix_of_strstr {needle : List Char} : ∀ {hay : List Char},
    strstr hay needle ≠ none → needle <:+: hay
  | [], h => by
    by_cases hn : needle = []
    · exact hn ▸ List.nil_infix
    · exact absurd (by simp [strstr, hn]) h
  | c :: hay, h => by
    rw [strstr] at h
    split at h
    · next hp => exact (List.isPrefixOf_iff_prefix.mp hp).isInfix
    · exact (infix_of_strstr h).trans (List.suffix_cons c hay).isInfix

/-- A search for a text of one character drops what stands in front of the first
such character. -/
theorem strstr_char (c : Char) :
    ∀ (s : List Char), strstr s [c] =
      if c ∈ s then some (s.dropWhile (fun d => d != c)) else none
  | [] => by simp [strstr]
  | d :: s => by
    rw [strstr, strstr_char c s]
    by_cases hd : d = c
    · subst hd
      simp [List.isPrefixOf]
    · have hcd : c ≠ d := fun h => hd h.symm
      simp [List.isPrefixOf, hd, hcd]

/-! ## Tokens -/

/-- One call of `strtok` on the text its saved pointer is at: the next token
and the text behind the delimiter that ended it. -/
def strtok (delim : Char → Bool) (s : List Char) : Option (List Char × List Char) :=
  match s.dropWhile delim with
  | [] => none
  | c :: cs =>
    some ((c :: cs).takeWhile (fun d => !delim d),
      ((c :: cs).dropWhile (fun d => !delim d)).tail)

/-- Everything a `strtok` loop with one delimiter set returns, in order. -/
def strtokAll (delim : Char → Bool) (s : List Char) : List (List Char) :=
  (s.splitOnP delim).filter (fun t => !t.isEmpty)

@[simp] theorem strtokAll_nil (delim : Char → Bool) : strtokAll delim [] = [] := rfl

/-- A delimiter at the front of a text is skipped by `strtok`: it makes no empty
token. -/
@[simp] theorem strtokAll_delim {delim : Char → Bool} {c : Char} (hc : delim c = true)
    (s : List Char) : strtokAll delim (c :: s) = strtokAll delim s := by
  simp [strtokAll, List.splitOnP_cons_eq_if_modifyHead, hc]

/-- Any number of delimiters at the front of a text are skipped by `strtok`. -/
theorem strtokAll_delims {delim : Char → Bool} :
    ∀ {ds : List Char}, (∀ c ∈ ds, delim c = true) → ∀ (s : List Char),
      strtokAll delim (ds ++ s) = strtokAll delim s
  | [], _, _ => rfl
  | d :: ds, h, s => by
    rw [List.cons_append, strtokAll_delim (h d (List.mem_cons_self ..))]
    exact strtokAll_delims (fun c hc => h c (List.mem_cons_of_mem _ hc)) s

/-- A delimiter-free text in front of a delimiter is one token. -/
theorem strtokAll_token {delim : Char → Bool} {t : List Char} {c : Char}
    (hne : t ≠ []) (ht : ∀ d ∈ t, delim d = false) (hc : delim c = true)
    (s : List Char) : strtokAll delim (t ++ c :: s) = t :: strtokAll delim s := by
  unfold strtokAll
  rw [List.splitOnP_append_cons_of_forall_mem ht c hc, List.filter_cons_of_pos]
  simpa using hne

/-- A line without delimiters, and the delimiters that end it: the line is a
token, and the search goes on behind it. -/
theorem strtokAll_line {delim : Char → Bool} {t ds : List Char} (hne : t ≠ [])
    (ht : ∀ d ∈ t, delim d = false) (hds : ds ≠ []) (hd : ∀ d ∈ ds, delim d = true)
    (s : List Char) : strtokAll delim (t ++ (ds ++ s)) = t :: strtokAll delim s := by
  obtain ⟨d, ds', rfl⟩ := List.exists_cons_of_ne_nil hds
  rw [List.cons_append, strtokAll_token hne ht (hd d (List.mem_cons_self ..)),
    strtokAll_delims fun e he => hd e (List.mem_cons_of_mem _ he)]

/-- A text that is made of lines without delimiters, each ended by the same
ones, has these lines as its first tokens. -/
theorem strtokAll_lines {delim : Char → Bool} {ds : List Char} (hds : ds ≠ [])
    (hd : ∀ d ∈ ds, delim d = true) (s : List Char) :
    ∀ {ts : List (List Char)}, (∀ t ∈ ts, t ≠ [] ∧ ∀ d ∈ t, delim d = false) →
      strtokAll delim ((ts.flatMap fun t => t ++ ds) ++ s) = ts ++ strtokAll delim s
  | [], _ => rfl
  | t :: ts, h => by
    obtain ⟨hne, ht⟩ := h t (List.mem_cons_self ..)
    have ih := strtokAll_lines hds hd s fun u hu => h u (List.mem_cons_of_mem _ hu)
    rw [List.flatMap_cons, List.append_assoc, List.append_assoc, strtokAll_line hne ht hds hd, ih]
    rfl

/-- A delimiter-free text at the end is the last token. -/
theorem strtokAll_last {delim : Char → Bool} {t : List Char}
    (hne : t ≠ []) (ht : ∀ d ∈ t, delim d = false) : strtokAll delim t = [t] := by
  unfold strtokAll
  rw [List.splitOnP_eq_singleton ht, List.filter_cons_of_pos (by simpa using hne)]
  rfl

/-- `strtok` finds no more tokens in a text than there are characters in it,
since no token is empty. -/
theorem strtokAll_length_le (delim : Char → Bool) : ∀ (s : List Char),
    (strtokAll delim s).length ≤ s.length
  | [] => Nat.le_refl _
  | c :: s => by
    have ih := strtokAll_length_le delim s
    cases hc : delim c with
    | true =>
      rw [strtokAll_delim hc]
      exact Nat.le_succ_of_le ih
    | false =>
      unfold strtokAll at ih ⊢
      rw [List.splitOnP_cons_eq_if_modifyHead, if_neg (by simp [hc])]
      -- at most the first token is new
      cases hs : s.splitOnP delim with
      | nil => simp
      | cons t ts =>
        rw [hs] at ih
        have htail : (ts.filter fun t => !t.isEmpty).length ≤
            ((t :: ts).filter fun t => !t.isEmpty).length :=
          ((List.sublist_cons_self t ts).filter _).length_le
        simp only [List.modifyHead_cons, List.filter_cons, List.isEmpty_cons, Bool.not_false,
          if_true, List.length_cons]
        omega

/-- **The token list is what the calls return**: the first call's token, then
the tokens of the text the saved pointer is left at. -/
theorem strtokAll_eq_strtok (delim : Char → Bool) (s : List Char) :
    strtokAll delim s =
      match strtok delim s with
      | none => []
      | some (t, rest) => t :: strtokAll delim rest := by
  -- what the first call skips gives no token
  have hskip : strtokAll delim s = strtokAll delim (s.dropWhile delim) := by
    conv_lhs => rw [← List.takeWhile_append_dropWhile (p := delim) (l := s)]
    exact strtokAll_delims (fun c hc => List.mem_takeWhile_imp hc) _
  rw [hskip]
  unfold strtok
  cases hs : s.dropWhile delim with
  | nil => rfl
  | cons c cs =>
    have hhead := List.head?_dropWhile_not delim s
    rw [hs] at hhead
    have hc : delim c = false := by simpa using hhead
    have hne : (c :: cs).takeWhile (fun d => !delim d) ≠ [] := by simp [hc]
    have hno : ∀ d ∈ (c :: cs).takeWhile (fun d => !delim d), delim d = false := by
      intro d hd
      simpa using List.mem_takeWhile_imp hd
    have hsplit := List.takeWhile_append_dropWhile (p := fun d => !delim d) (l := c :: cs)
    dsimp only
    conv_lhs => rw [← hsplit]
    cases hrest : (c :: cs).dropWhile (fun d => !delim d) with
    | nil =>
      -- the token ends with the text
      rw [List.append_nil, strtokAll_last hne hno]
      rfl
    | cons e es =>
      -- or at a delimiter, which the call swallows
      have he := List.head?_dropWhile_not (fun d => !delim d) (c :: cs)
      rw [hrest] at he
      exact strtokAll_token hne hno (by simpa using he) es

/-! ## Lines of a file -/

/-- What is left of a line is read into a buffer of `size` bytes, `room` of
which are free, up to its newline or the end of the room; the lines behind it
likewise. -/
def fgetsFrom (size : Nat) : Nat → List Char → List Char → List (List Char)
  | _, got, [] => if got = [] then [] else [got]
  | room, got, c :: text =>
    if c = '\n' ∨ room ≤ 1 then (got ++ [c]) :: fgetsFrom size (size - 1) [] text
    else fgetsFrom size (room - 1) (got ++ [c]) text

/-- Everything a `while(NULL != fgets(line, size, f))` loop reads, in order. -/
def fgetsAll (size : Nat) (text : List Char) : List (List Char) := fgetsFrom size (size - 1) [] text

/-- A line and its newline, with room for both. -/
theorem fgetsFrom_line (size : Nat) (text : List Char) : ∀ {line got : List Char} {room : Nat},
    '\n' ∉ line → line.length < room →
    fgetsFrom size room got (line ++ '\n' :: text) = (got ++ line ++ ['\n']) :: fgetsAll size text
  | [], got, room, _, _ => by
    rw [List.nil_append, List.append_nil, fgetsFrom, if_pos (Or.inl rfl)]
    rfl
  | c :: line, got, room, hline, hroom => by
    rw [List.length_cons] at hroom
    have hc : c ≠ '\n' := fun h => hline (h ▸ List.mem_cons_self ..)
    rw [List.cons_append, fgetsFrom, if_neg fun h => h.elim hc fun _ => by omega,
      fgetsFrom_line size text (fun h => hline (List.mem_cons_of_mem _ h)) (by omega)]
    simp

/-- A line that no newline ends is the last one of a file, and `fgets` returns
what has been read of it. -/
theorem fgetsFrom_last (size : Nat) : ∀ {line got : List Char} {room : Nat},
    '\n' ∉ line → line.length ≤ room →
    fgetsFrom size room got line = if got ++ line = [] then [] else [got ++ line]
  | [], got, room, _, _ => by
    rw [List.append_nil]
    rfl
  | [c], got, room, hline, hroom => by
    rw [fgetsFrom]
    split
    · simp [fgetsFrom]
    · simp [fgetsFrom]
  | c :: d :: line, got, room, hline, hroom => by
    rw [List.length_cons, List.length_cons] at hroom
    have hc : c ≠ '\n' := fun h => hline (h ▸ List.mem_cons_self ..)
    rw [fgetsFrom, if_neg fun h => h.elim hc fun _ => by omega,
      fgetsFrom_last size (fun h => hline (List.mem_cons_of_mem _ h))
        (by rw [List.length_cons]; omega)]
    simp

/-- A line that fills the room: its newline is a line of its own. -/
theorem fgetsFrom_full (size : Nat) (text : List Char) :
    ∀ {line got : List Char} {room : Nat}, '\n' ∉ line → line ≠ [] → line.length = room →
    fgetsFrom size room got (line ++ '\n' :: text) =
      (got ++ line) :: ['\n'] :: fgetsAll size text
  | [], _, _, _, hne, _ => absurd rfl hne
  | [c], got, room, hline, _, hroom => by
    obtain rfl : room = 1 := hroom.symm
    rw [List.cons_append, fgetsFrom, if_pos (Or.inr (Nat.le_refl 1)), List.nil_append, fgetsFrom,
      if_pos (Or.inl rfl)]
    rfl
  | c :: d :: line, got, room, hline, _, hroom => by
    rw [List.length_cons, List.length_cons] at hroom
    have hc : c ≠ '\n' := fun h => hline (h ▸ List.mem_cons_self ..)
    rw [List.cons_append, fgetsFrom, if_neg fun h => h.elim hc fun _ => by omega,
      fgetsFrom_full size text (fun h => hline (List.mem_cons_of_mem _ h))
        (List.cons_ne_nil d line) (by rw [List.length_cons]; omega)]
    simp

/-- **A line that fits** is read, with its newline or with the newline as a
line of its own. -/
theorem fgetsAll_line {size : Nat} {line : List Char} (hne : line ≠ [])
    (hline : '\n' ∉ line) (hfit : line.length ≤ size - 1) (text : List Char) :
    fgetsAll size (line ++ '\n' :: text) = (line ++ ['\n']) :: fgetsAll size text ∨
      fgetsAll size (line ++ '\n' :: text) = line :: ['\n'] :: fgetsAll size text := by
  rcases Nat.lt_or_eq_of_le hfit with hlt | heq
  · exact Or.inl (fgetsFrom_line size text hline hlt)
  · exact Or.inr (fgetsFrom_full size text hline hne heq)

end ObdGpsLogger.CLib
