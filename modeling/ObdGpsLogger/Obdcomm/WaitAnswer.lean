import Mathlib.Data.Stream.Init
import ObdGpsLogger.Obdcomm.UpgradeBaud

/-!
# Waiting for the answer to a new speed

The first `while` of `attempt_upgradebaudrate` (`waitAnswer`) reads until there
is a `?` or an `OK` in `elm_response`. Only the adapter can end it: there is no
limit on the time, as there is in the second `while`, and when the 64 bytes are
full each `read` asks for none. A full array has no room for the NUL either,
and `strstr` runs over its end.

`waits_iff` says for which reads the loop ends all the same, and has a string
to look at whenever it looks.

Mirroring notes:
- A `read` delivers what it was asked for at most: of a longer chunk only what
  fits is taken.
- `waitStates` are the states in which the condition of the loop is tested. A
  read asks for `64 - readcount` bytes behind `readcount`.
-/

namespace ObdGpsLogger.Obdcomm

open CLib

/-! ## The states of the loop -/

/-- The array `elm_response` and the count of the bytes in it. -/
structure WaitState where
  elmResponse : Buffer 64
  readcount : Nat

/-- The states in which the condition of the first `while` is tested. -/
def waitStates (elmResponse : Buffer 64) (readcount : Nat) : List ReadResult → List WaitState
  | [] => [⟨elmResponse, readcount⟩]
  | nbytes :: reads =>
    ⟨elmResponse, readcount⟩ ::
      if answered elmResponse = some false then
        match nbytes with
        | .error => []
        | .eagain => waitStates elmResponse readcount reads
        | .data bs =>
          let bs := bs.take (64 - readcount)
          waitStates (elmResponse.store readcount bs) (readcount + bs.length) reads
      else []

/-- What the loop needs to be safe: the array has a NUL in it, so that a search
ends, and what is read goes inside. -/
structure WaitState.Sound (s : WaitState) : Prop where
  inside : s.readcount ≤ 64
  terminated : nul ∈ s.elmResponse.cells

/-- The loop ends after finitely many reads, with a string in the array at
each test. -/
def Waits (reads : Stream' ReadResult) : Prop :=
  ∃ n, (waitAnswer (Buffer.zeroed 64) 0 (reads.take n)).isSome ∧
    ∀ s ∈ waitStates (Buffer.zeroed 64) 0 (reads.take n), s.Sound

/-! ## What is heard -/

/-- What a text of the array has become after some reads. -/
def heardFrom (text : List Char) (reads : List ReadResult) : List Char :=
  (text ++ reads.flatMap ReadResult.bytes).take 64

/-- The first 64 bytes that the adapter sends. -/
def heard (reads : List ReadResult) : List Char := heardFrom [] reads

/-- One of the two words is in front of a NUL. -/
def Recognised (text : List Char) : Prop :=
  ['?'] <:+: cstr text ∨ ['O', 'K'] <:+: cstr text

/-- A text that has a NUL in it, or leaves room for one behind it, in the array
of 64 bytes. -/
def Terminated (text : List Char) : Prop := text.length < 64 ∨ nul ∈ text

/-- After `k` reads one of the words is there (or an error comes), and the
array still has a NUL. -/
structure AnswersAt (reads : Stream' ReadResult) (k : Nat) : Prop where
  noError : ∀ i < k, reads.get i ≠ .error
  ends : Recognised (heard (reads.take k)) ∨ reads.get k = .error
  terminated : Terminated (heard (reads.take k))

theorem heardFrom_nil {text : List Char} (h : text.length ≤ 64) : heardFrom text [] = text := by
  rw [heardFrom, List.flatMap_nil, List.append_nil, List.take_of_length_le h]

/-- Reads are heard one after the other: what the first of them leaves is what
the others go on from. -/
theorem heardFrom_cons (text : List Char) (r : ReadResult) (reads : List ReadResult) :
    heardFrom text (r :: reads) = heardFrom (heardFrom text [r]) reads := by
  unfold heardFrom
  rw [List.flatMap_cons, List.flatMap_singleton, ← List.append_assoc]
  rcases Nat.le_total (text ++ r.bytes).length 64 with hle | hge
  · rw [List.take_of_length_le hle]
  · have hlen : (List.take 64 (text ++ r.bytes)).length = 64 := List.length_take_of_le hge
    rw [List.take_append_of_le_length hge, List.take_append_of_le_length (Nat.le_of_eq hlen.symm),
      List.take_of_length_le (Nat.le_of_eq hlen)]

/-- A full array without a NUL hears nothing more. -/
theorem Terminated.before {text : List Char} {reads : List ReadResult} (hfits : text.length ≤ 64)
    (h : Terminated (heardFrom text reads)) : Terminated text := by
  by_contra hfull
  unfold Terminated at hfull
  have hsame : heardFrom text reads = text := by
    rw [heardFrom, List.take_append_of_le_length (by omega), List.take_of_length_le hfits]
  rw [hsame] at h
  exact hfull h

section Held

variable {buf : Buffer 64} {text : List Char}

theorem terminated_iff (h : buf.Holding text) : nul ∈ buf.cells ↔ Terminated text := h.nul_mem_iff

/-- A search in an array that holds a string has an outcome, and finds what
stands in the string. -/
theorem holds_eq (h : buf.Holding text) (hn : Terminated text) {needle : List Char} {b : Bool} :
    buf.holds needle = some b ↔ (b = true ↔ needle <:+: cstr text) := by
  have hfound : (strstr (cstr text) needle).isSome ↔ needle <:+: cstr text := by
    rw [Option.isSome_iff_ne_none]
    refine ⟨infix_of_strstr, fun ⟨pre, post, hs⟩ => ?_⟩
    rw [← hs, List.append_assoc]
    exact strstr_ne_none needle post pre
  rw [Buffer.holds, h.cstr_eq]
  by_cases hs : (strstr (cstr text) needle).isSome
  · rw [if_pos hs, Option.some_inj, ← hfound, eq_true hs]
    cases b <;> simp
  · rw [if_neg hs, if_pos ((terminated_iff h).mpr hn), Option.some_inj, ← hfound, eq_false hs]
    cases b <;> simp

/-- The test of the loop, on an array that holds a string, has an outcome: the
words are in the string, or they are not. -/
theorem answered_cases (h : buf.Holding text) (hn : Terminated text) :
    (answered buf = some true ∧ Recognised text) ∨
      (answered buf = some false ∧ ¬ Recognised text) := by
  unfold answered Recognised
  by_cases hq : ['?'] <:+: cstr text
  · rw [(holds_eq h hn (b := true)).mpr (iff_of_true rfl hq)]
    exact Or.inl ⟨rfl, Or.inl hq⟩
  · rw [(holds_eq h hn (b := false)).mpr (iff_of_false Bool.false_ne_true hq)]
    by_cases hok : ['O', 'K'] <:+: cstr text
    · exact Or.inl ⟨(holds_eq h hn).mpr (iff_of_true rfl hok), Or.inr hok⟩
    · refine Or.inr ⟨(holds_eq h hn).mpr (iff_of_false Bool.false_ne_true hok), ?_⟩
      exact not_or.mpr ⟨hq, hok⟩

/-- The bytes of a read go behind the text in the array, as many of them as fit. -/
theorem heardFrom_data (hfits : text.length ≤ 64) (bs : List Char) :
    heardFrom text [.data bs] = text ++ bs.take (64 - text.length) := by
  rw [heardFrom, List.flatMap_singleton, List.take_append, List.take_of_length_le hfits]
  rfl

end Held

/-! ## The loop -/

theorem mem_waitStates (buf : Buffer 64) (readcount : Nat) (reads : List ReadResult) :
    ⟨buf, readcount⟩ ∈ waitStates buf readcount reads := by
  cases reads with
  | nil => exact List.mem_singleton_self _
  | cons r reads =>
    cases r <;> exact List.mem_cons_self ..

/-- If one of the words is in the array already, the loop is over and nothing
more is read. -/
theorem waitAnswer_answered {buf : Buffer 64} (hyes : answered buf = some true) (readcount : Nat)
    (reads : List ReadResult) : waitAnswer buf readcount reads = some (some buf) ∧
      waitStates buf readcount reads = [⟨buf, readcount⟩] := by
  have hstop : ¬ answered buf = some false := by
    rw [hyes]
    decide
  cases reads with
  | nil => exact ⟨by rw [waitAnswer, hyes], rfl⟩
  | cons r reads =>
    cases r <;> exact ⟨by rw [waitAnswer, hyes], by rw [waitStates, if_neg hstop]⟩

/-- **One turn of the loop**, if no word is in the array: it hears one read, and
goes on with what is in the array then. -/
theorem waitAnswer_turn {buf : Buffer 64} {text : List Char} (h : buf.Holding text)
    (hno : answered buf = some false) {r : ReadResult} (hr : r ≠ .error) :
    ∃ buf', buf'.Holding (heardFrom text [r]) ∧ ∀ reads,
      waitAnswer buf text.length (r :: reads) =
        waitAnswer buf' (heardFrom text [r]).length reads ∧
      waitStates buf text.length (r :: reads) =
        ⟨buf, text.length⟩ :: waitStates buf' (heardFrom text [r]).length reads := by
  cases r with
  | error => exact absurd rfl hr
  | eagain =>
    have hsame : heardFrom text [.eagain] = text := by
      rw [heardFrom, List.flatMap_singleton]
      exact (congrArg _ (List.append_nil text)).trans (List.take_of_length_le h.fits)
    rw [hsame]
    refine ⟨buf, h, fun reads => ⟨?_, ?_⟩⟩
    · rw [waitAnswer, hno]
    · rw [waitStates, if_pos hno]
  | data bs =>
    have hlen : text.length + (bs.take (64 - text.length)).length ≤ 64 := by
      have hfits := h.fits
      rw [List.length_take]
      omega
    rw [heardFrom_data h.fits, List.length_append]
    refine ⟨_, h.store hlen, fun reads => ⟨?_, ?_⟩⟩
    · rw [waitAnswer, hno]
    · rw [waitStates, if_pos hno]

/-- **A loop that ends** with a string at each test has heard a word, or met an
error, while there was room for the NUL. -/
theorem answersFrom_of_waits : ∀ (n : Nat) {reads : Stream' ReadResult} {buf : Buffer 64}
    {text : List Char}, buf.Holding text →
    (waitAnswer buf text.length (reads.take n)).isSome →
    (∀ s ∈ waitStates buf text.length (reads.take n), s.Sound) →
    ∃ k, (∀ i < k, reads.get i ≠ .error) ∧
      (Recognised (heardFrom text (reads.take k)) ∨ reads.get k = .error) ∧
      Terminated (heardFrom text (reads.take k)) := by
  intro n
  induction n with
  | zero =>
    intro reads buf text h hret hsound
    have hn := (terminated_iff h).mp (hsound _ (List.mem_singleton_self _)).terminated
    -- no read is left, so the loop is over only if a word is there
    rcases answered_cases h hn with ⟨-, hword⟩ | ⟨hno, -⟩
    · refine ⟨0, fun i hi => absurd hi (Nat.not_lt_zero i), Or.inl ?_, ?_⟩
      · exact (heardFrom_nil h.fits).symm ▸ hword
      · exact (heardFrom_nil h.fits).symm ▸ hn
    · rw [Stream'.take_zero, waitAnswer, hno] at hret
      cases hret
  | succ n ih =>
    intro reads buf text h hret hsound
    rw [Stream'.take_succ] at hret hsound
    have hn := (terminated_iff h).mp (hsound _ (mem_waitStates buf text.length _)).terminated
    -- a word, an error of `read`, or one more turn
    rcases answered_cases h hn with ⟨-, hword⟩ | ⟨hno, -⟩
    · refine ⟨0, fun i hi => absurd hi (Nat.not_lt_zero i), Or.inl ?_, ?_⟩
      · exact (heardFrom_nil h.fits).symm ▸ hword
      · exact (heardFrom_nil h.fits).symm ▸ hn
    · by_cases hr : reads.head = .error
      · refine ⟨0, fun i hi => absurd hi (Nat.not_lt_zero i), Or.inr hr, ?_⟩
        exact (heardFrom_nil h.fits).symm ▸ hn
      · obtain ⟨buf', hbuf', hturn⟩ := waitAnswer_turn h hno hr
        rw [(hturn _).1] at hret
        rw [(hturn _).2] at hsound
        obtain ⟨k, hnoerr, hends, hterm⟩ := ih hbuf' hret fun s hs =>
          hsound s (List.mem_cons_of_mem _ hs)
        refine ⟨k + 1, fun i hi => ?_, ?_, ?_⟩
        · cases i with
          | zero => exact hr
          | succ i => exact hnoerr i (Nat.lt_of_succ_lt_succ hi)
        · rw [Stream'.take_succ, heardFrom_cons]
          exact hends
        · rw [Stream'.take_succ, heardFrom_cons]
          exact hterm

/-- **The loop ends** with the first word or error, if the array has a NUL then. -/
theorem waits_of_answersFrom : ∀ (k : Nat) {reads : Stream' ReadResult} {buf : Buffer 64}
    {text : List Char}, buf.Holding text → (∀ i < k, reads.get i ≠ .error) →
    (Recognised (heardFrom text (reads.take k)) ∨ reads.get k = .error) →
    Terminated (heardFrom text (reads.take k)) →
    (waitAnswer buf text.length (reads.take (k + 1))).isSome ∧
      ∀ s ∈ waitStates buf text.length (reads.take (k + 1)), s.Sound := by
  intro k
  induction k with
  | zero =>
    intro reads buf text h _ hends hterm
    rw [Stream'.take_zero, heardFrom_nil h.fits] at hends hterm
    have hsound : WaitState.Sound ⟨buf, text.length⟩ := ⟨h.fits, (terminated_iff h).mpr hterm⟩
    rw [Stream'.take_succ, Stream'.take_zero]
    rcases answered_cases h hterm with ⟨hyes, -⟩ | ⟨hno, hunheard⟩
    · obtain ⟨hret, hstates⟩ := waitAnswer_answered hyes text.length [reads.head]
      rw [hret, hstates]
      exact ⟨rfl, List.forall_mem_singleton.mpr hsound⟩
    · -- what ends the loop without a word is an error of `read`
      have herr : reads.head = .error := hends.resolve_left hunheard
      rw [herr, waitAnswer, waitStates, hno, if_pos rfl]
      exact ⟨rfl, List.forall_mem_singleton.mpr hsound⟩
  | succ k ih =>
    intro reads buf text h hnoerr hends hterm
    -- a text that is terminated later was so before
    have hn : Terminated text := hterm.before h.fits
    have hsound : WaitState.Sound ⟨buf, text.length⟩ := ⟨h.fits, (terminated_iff h).mpr hn⟩
    rw [Stream'.take_succ, heardFrom_cons] at hends hterm
    rw [Stream'.take_succ]
    rcases answered_cases h hn with ⟨hyes, -⟩ | ⟨hno, -⟩
    · obtain ⟨hret, hstates⟩ := waitAnswer_answered hyes text.length
        (reads.head :: reads.tail.take (k + 1))
      rw [hret, hstates]
      exact ⟨rfl, List.forall_mem_singleton.mpr hsound⟩
    · obtain ⟨buf', hbuf', hturn⟩ := waitAnswer_turn h hno (hnoerr 0 (Nat.succ_pos k))
      rw [(hturn _).1, (hturn _).2]
      obtain ⟨hret, hrest⟩ := ih hbuf' (fun i hi => hnoerr (i + 1) (Nat.succ_lt_succ hi))
        hends hterm
      exact ⟨hret, List.forall_mem_cons.mpr ⟨hsound, hrest⟩⟩

/-- **The first wait** ends, with a string to search at each test, if and only
if the adapter answers (or the port fails) while there is room for the NUL. -/
theorem waits_iff (reads : Stream' ReadResult) : Waits reads ↔ ∃ k, AnswersAt reads k := by
  constructor
  · intro ⟨n, hret, hsound⟩
    obtain ⟨k, hnoerr, hends, hterm⟩ := answersFrom_of_waits n (holding_zeroed 64) hret hsound
    exact ⟨k, hnoerr, hends, hterm⟩
  · intro ⟨k, hanswers⟩
    obtain ⟨hret, hsound⟩ := waits_of_answersFrom k (holding_zeroed 64) hanswers.noError
      hanswers.ends hanswers.terminated
    exact ⟨k + 1, hret, hsound⟩

/-- The reads at an adapter that says nothing. -/
def silence : Stream' ReadResult := Stream'.const .eagain

/-- On a port that stays silent, the loop does not come to an end: each read
gives nothing, and the loop reads again. -/
theorem silence_waits : ¬ Waits silence := by
  intro ⟨n, hret, _⟩
  have hend : ∀ n : Nat, waitAnswer (Buffer.zeroed 64) 0 (silence.take n) = none := by
    intro n
    have hno : answered (Buffer.zeroed 64) = some false := by decide
    induction n with
    | zero => rw [Stream'.take_zero, waitAnswer, hno]
    | succ n ih =>
      change waitAnswer (Buffer.zeroed 64) 0 (.eagain :: silence.take n) = none
      rw [waitAnswer, hno]
      exact ih
  rw [hend n] at hret
  cases hret

end ObdGpsLogger.Obdcomm
