import ObdGpsLogger.Obdcomm.ObdSerial

/-!
# What the line loop of `getobdbytes` does

The loop goes through the *logical* lines of a reply (`logicalLines`): a line
without a colon is one, and a run of lines with colons is joined into one. It
takes the values of the first logical line that `parseobdline` accepts. A
logical line of at most three characters is to be skipped, but the `continue`
that skips it does not fetch the next token. A joined line has fetched it
already; a plain one has not, and is met again and again.

`readLines` says this without fuel, `none` standing for a loop that never
ends, and `lineLoop_eq_readLines` shows that the loop computes it. From it
follow when the loop ends (`lineLoop_ends_iff`) and when the values it stores
stay inside the caller's array (`parseReply_bounded_iff`).
-/

namespace ObdGpsLogger.Obdcomm

open CLib

/-- A line as `parseobdline` gets to see it. -/
structure LogicalLine where
  joined : Bool
  text : List Char
  deriving DecidableEq, Repr

/-- The logical lines of a token list; `acc` is the line being joined. -/
def logicalLines (acc : Option (List Char)) : List (List Char) → List LogicalLine
  | [] => (acc.map fun longline => ⟨true, longline⟩).toList
  | line :: lines =>
    match strstr line [':'] with
    | some colon =>
      logicalLines (some (strncat (acc.getD []) colon.tail
        (longlineSize - (acc.getD []).length - 1))) lines
    | none =>
      (acc.map fun longline => ⟨true, longline⟩).toList ++
        ⟨false, line⟩ :: logicalLines none lines

/-- A line that the loop cannot get past: three characters at most, and no part
of a longer reply. -/
def Stalls (l : LogicalLine) : Prop := l.joined = false ∧ l.text.length ≤ 3

/-- A line that ends the loop: it is parsed with success. -/
def Accepted (mode cmd : Nat) (l : LogicalLine) : Prop :=
  3 < l.text.length ∧ (parseobdline l.text mode cmd localRetsSize).status = .success

instance (l : LogicalLine) : Decidable (Stalls l) := inferInstanceAs (Decidable (_ ∧ _))

instance (mode cmd : Nat) (l : LogicalLine) : Decidable (Accepted mode cmd l) :=
  inferInstanceAs (Decidable (_ ∧ _))

/-- The loop over logical lines; `none` when it never ends. -/
def readLines (mode cmd : Nat) : List LogicalLine → ObdSerialStatus → Option ObdBytes
  | [], ret => some (finish ret [])
  | l :: ls, ret =>
    if l.text.length ≤ 3 then
      if l.joined then readLines mode cmd ls ret else none
    else
      let p := parseobdline l.text mode cmd localRetsSize
      if p.status = .success then some (finish p.status (copyRets 0 p))
      else readLines mode cmd ls p.status

variable {mode cmd : Nat}

/-! ## Joining -/

/-- The inner loop finishes the line being joined. -/
theorem logicalLines_some : ∀ (longline : List Char) (lines : List (List Char)),
    logicalLines (some longline) lines =
      ⟨true, (joinColons longline lines).1⟩ :: logicalLines none (joinColons longline lines).2
  | _, [] => rfl
  | longline, line :: lines => by
    rw [logicalLines, joinColons]
    cases hc : strstr line [':'] with
    | none => simp [logicalLines, hc]
    | some colon => exact logicalLines_some _ lines

/-- The first logical line of a token list, as the loop computes it. -/
theorem logicalLines_cons (line : List Char) (rest : List (List Char)) :
    logicalLines none (line :: rest) =
      if (strstr line [':']).isSome then
        ⟨true, (joinColons [] (line :: rest)).1⟩ ::
          logicalLines none (joinColons [] (line :: rest)).2
      else ⟨false, line⟩ :: logicalLines none rest := by
  rw [logicalLines, joinColons]
  cases hc : strstr line [':'] with
  | none => rfl
  | some colon => exact logicalLines_some _ rest

/-- The inner loop stops at once at a line without a colon. -/
theorem joinColons_plain {line : List Char} (h : (strstr line [':']).isSome = false)
    (rest : List (List Char)) : (joinColons [] (line :: rest)).2 = line :: rest := by
  rw [joinColons]
  cases hc : strstr line [':'] with
  | none => rfl
  | some colon => rw [hc] at h; cases h

theorem joinColons_length_le : ∀ (longline : List Char) (lines : List (List Char)),
    (joinColons longline lines).2.length ≤ lines.length
  | _, [] => Nat.le_refl _
  | longline, line :: lines => by
    rw [joinColons]
    split
    · exact Nat.le_refl _
    · exact Nat.le_succ_of_le (joinColons_length_le _ lines)

/-- A line with a colon is behind the loop once it is joined. -/
theorem joinColons_length_lt {line : List Char} (h : (strstr line [':']).isSome = true)
    (rest : List (List Char)) : (joinColons [] (line :: rest)).2.length ≤ rest.length := by
  rw [joinColons]
  cases hc : strstr line [':'] with
  | none => rw [hc] at h; cases h
  | some colon => exact joinColons_length_le _ rest

/-! ## The loop computes `readLines` -/

/-- A short plain line: every iteration finds the same line again. -/
theorem lineLoop_short {line : List Char} {rest : List (List Char)} {ret : ObdSerialStatus}
    (hplain : (strstr line [':']).isSome = false) (hshort : line.length ≤ 3) :
    ∀ fuel, lineLoop mode cmd fuel (line :: rest) ret = none
  | 0 => rfl
  | fuel + 1 => by
    rw [lineLoop]
    simp only [hplain, Bool.false_eq_true, if_false, joinColons_plain hplain, if_pos hshort,
      lineLoop_short hplain hshort fuel]

/-- **The loop against its meaning.** Whatever the fuel, a result of the loop
is the result of `readLines`; and with more fuel than tokens the loop has one
whenever `readLines` does. -/
theorem lineLoop_eq_readLines : ∀ (fuel : Nat) (lines : List (List Char)) (ret : ObdSerialStatus),
    (∀ r, lineLoop mode cmd fuel lines ret = some r →
      readLines mode cmd (logicalLines none lines) ret = some r) ∧
    (lines.length < fuel →
      lineLoop mode cmd fuel lines ret = readLines mode cmd (logicalLines none lines) ret)
  | 0, _, _ => ⟨fun _ h => (by cases h), fun h => absurd h (Nat.not_lt_zero _)⟩
  | _ + 1, [], _ => ⟨fun _ h => h, fun _ => rfl⟩
  | fuel + 1, line :: rest, ret => by
    rw [logicalLines_cons, lineLoop]
    by_cases hj : (strstr line [':']).isSome = true
    · -- joined lines: whatever happens, the loop has moved on
      have hlen := joinColons_length_lt hj rest
      simp only [hj, if_true, readLines]
      split
      · have ih := lineLoop_eq_readLines fuel (joinColons [] (line :: rest)).2 ret
        exact ⟨ih.1, fun h => ih.2 (by rw [List.length_cons] at h; omega)⟩
      · split
        · exact ⟨fun _ h => h, fun _ => rfl⟩
        · have ih := lineLoop_eq_readLines fuel (joinColons [] (line :: rest)).2
            (parseobdline (joinColons [] (line :: rest)).1 mode cmd localRetsSize).status
          exact ⟨ih.1, fun h => ih.2 (by rw [List.length_cons] at h; omega)⟩
    · -- a plain line: the loop is stuck at it, ends with it, or fetches the next
      rw [Bool.not_eq_true] at hj
      simp only [hj, Bool.false_eq_true, if_false, readLines, joinColons_plain hj]
      split
      · next hshort =>
        rw [lineLoop_short hj hshort]
        exact ⟨fun _ h => h, fun _ => rfl⟩
      · split
        · exact ⟨fun _ h => h, fun _ => rfl⟩
        · have ih := lineLoop_eq_readLines fuel rest
            (parseobdline line mode cmd localRetsSize).status
          exact ⟨ih.1, fun h => ih.2 (by rw [List.length_cons] at h; omega)⟩

/-- With more fuel than there are lines, the loop over the lines ends, and with
what the reply means. -/
theorem lineLoop_of_fuel {fuel : Nat} {lines : List (List Char)} (h : lines.length < fuel)
    (ret : ObdSerialStatus) :
    lineLoop mode cmd fuel lines ret = readLines mode cmd (logicalLines none lines) ret :=
  (lineLoop_eq_readLines fuel lines ret).2 h

/-- The loop can end only with what the reply means. -/
theorem readLines_of_lineLoop {fuel : Nat} {lines : List (List Char)} {ret : ObdSerialStatus}
    {r : ObdBytes} (h : lineLoop mode cmd fuel lines ret = some r) :
    readLines mode cmd (logicalLines none lines) ret = some r :=
  (lineLoop_eq_readLines fuel lines ret).1 r h

/-! ## Termination -/

/-- No line stalls before an accepted one. -/
def Passable (mode cmd : Nat) (ls : List LogicalLine) : Prop :=
  ∀ pre l post, ls = pre ++ l :: post → Stalls l → ∃ a ∈ pre, Accepted mode cmd a

theorem passable_nil : Passable mode cmd [] := fun pre l post h => by
  simp at h

/-- Some lines are passable exactly if the first of them does not stall the
loop, and it is accepted or the others are passable. -/
theorem passable_cons {l : LogicalLine} {ls : List LogicalLine} :
    Passable mode cmd (l :: ls) ↔ ¬ Stalls l ∧ (Accepted mode cmd l ∨ Passable mode cmd ls) := by
  constructor
  · intro h
    refine ⟨fun hs => ?_, ?_⟩
    · obtain ⟨a, ha, -⟩ := h [] l ls rfl hs
      cases ha
    · by_cases hacc : Accepted mode cmd l
      · exact Or.inl hacc
      · refine Or.inr fun pre m post hsplit hs => ?_
        obtain ⟨a, ha, haa⟩ := h (l :: pre) m post (by rw [hsplit]; rfl) hs
        rcases List.mem_cons.mp ha with rfl | ha
        · exact absurd haa hacc
        · exact ⟨a, ha, haa⟩
  · intro ⟨hns, hrest⟩ pre m post hsplit hs
    cases pre with
    | nil =>
      obtain ⟨rfl, -⟩ : l = m ∧ ls = post := by simpa using hsplit
      exact absurd hs hns
    | cons k pre =>
      obtain ⟨rfl, htail⟩ : l = k ∧ ls = pre ++ m :: post := by simpa using hsplit
      rcases hrest with hacc | hpass
      · exact ⟨l, List.mem_cons_self .., hacc⟩
      · obtain ⟨a, ha, haa⟩ := hpass pre m post htail hs
        exact ⟨a, List.mem_cons_of_mem _ ha, haa⟩

/-- The meaning of a reply is defined when no line stalls too early. -/
theorem readLines_isSome_iff : ∀ (ls : List LogicalLine) (ret : ObdSerialStatus),
    (readLines mode cmd ls ret).isSome ↔ Passable mode cmd ls
  | [], _ => iff_of_true rfl passable_nil
  | l :: ls, ret => by
    rw [passable_cons, readLines]
    by_cases hshort : l.text.length ≤ 3
    · have hna : ¬ Accepted mode cmd l := fun h => absurd hshort (Nat.not_le.mpr h.1)
      rw [if_pos hshort]
      cases hj : l.joined with
      | true =>
        have hns : ¬ Stalls l := fun h => absurd h.1 (by rw [hj]; decide)
        simpa [hns, hna] using readLines_isSome_iff ls ret
      | false => simpa using fun h => absurd ⟨hj, hshort⟩ h
    · have hns : ¬ Stalls l := fun h => hshort h.2
      rw [if_neg hshort]
      by_cases hp : (parseobdline l.text mode cmd localRetsSize).status = .success
      · have hacc : Accepted mode cmd l := ⟨Nat.not_le.mp hshort, hp⟩
        simp [hp, hns, hacc]
      · have hna : ¬ Accepted mode cmd l := fun h => hp h.2
        simpa [hp, hns, hna] using readLines_isSome_iff ls _

/-- **When the line loop ends.** With any mode, command and reply, the loop
ends if and only if no plain line of at most three characters comes before the
first line it accepts. -/
theorem lineLoop_ends_iff (mode cmd : Nat) (retbuf : List Char) :
    (∃ fuel, (lineLoop mode cmd fuel (strtokAll isDelim retbuf) .error).isSome) ↔
      Passable mode cmd (logicalLines none (strtokAll isDelim retbuf)) := by
  rw [← readLines_isSome_iff _ .error]
  constructor
  · intro ⟨fuel, h⟩
    obtain ⟨r, hr⟩ := Option.isSome_iff_exists.mp h
    rw [readLines_of_lineLoop hr]
    rfl
  · intro h
    exact ⟨_, by rwa [lineLoop_of_fuel (Nat.lt_succ_self _)]⟩

/-- What `readserialdata` has read fits its buffer with a byte to spare, which
stays a NUL. -/
theorem readserialdata_length {n : Nat} : ∀ {reads : List SerialRead} {buf : List Char}
    {nbytes : Int} {buf' : List Char}, readserialdata n buf reads = some (nbytes, buf') →
      buf'.length < n
  | [], _, _, _, h => by cases h
  | r :: rs, buf, nbytes, buf', h => by
    rw [readserialdata] at h
    split at h
    · cases h
    · next hfit =>
      have hlen : (buf ++ r.result.bytes).length < n := by
        rw [List.length_append]
        omega
      split at h
      · obtain ⟨-, rfl⟩ := Prod.mk.inj (Option.some.inj h)
        exact hlen
      · split at h
        · obtain ⟨-, rfl⟩ := Prod.mk.inj (Option.some.inj h)
          exact hlen
        · exact readserialdata_length h

/-- A reply has fewer tokens than `retbuf` bytes, so with that much fuel a call
that returns at all has its result. -/
theorem getobdbytes_fuel {numbytesExpected : Int} {x : Exchange} {fuel : Nat} {r : ObdBytes}
    (h : getobdbytes mode cmd numbytesExpected x fuel = some r) :
    getobdbytes mode cmd numbytesExpected x retbufSize = some r := by
  unfold getobdbytes at h ⊢
  split at h
  · next hw =>
    rw [if_pos hw]
    exact h
  · next hw =>
    rw [if_neg hw]
    cases hs : readserialdata retbufSize [] x.reads with
    | none =>
      rw [hs] at h
      cases h
    | some p =>
      obtain ⟨nbytes, buf⟩ := p
      rw [hs] at h
      dsimp only at h ⊢
      split at h
      · next hn =>
        rw [if_pos hn]
        exact h
      · next hn =>
        rw [if_neg hn]
        unfold parseReply at h ⊢
        cases hm : replyMarker (cstr buf) with
        | some status =>
          rw [hm] at h
          exact h
        | none =>
          rw [hm] at h
          dsimp only at h ⊢
          -- a reply has fewer lines than the buffer has bytes
          have htokens : (strtokAll isDelim (cstr buf)).length < retbufSize := by
            have := strtokAll_length_le isDelim (cstr buf)
            have := (List.takeWhile_prefix (fun c => c != nul) (l := buf)).length_le
            have := readserialdata_length hs
            unfold cstr at *
            omega
          rw [lineLoop_of_fuel htokens, readLines_of_lineLoop h]

/-! ## The accepted line -/

/-- The first line that `parseobdline` accepts. -/
def acceptedLine (mode cmd : Nat) (ls : List LogicalLine) : Option LogicalLine :=
  ls.find? fun l => Accepted mode cmd l

/-- **Where a success comes from**: if the loop over the lines succeeds, its
values are those of the first line it has accepted. -/
theorem readLines_success {mode cmd : Nat} : ∀ {ls : List LogicalLine} {ret : ObdSerialStatus}
    {r : ObdBytes}, readLines mode cmd ls ret = some r → r.status = .success → ret ≠ .success →
      ∃ a, acceptedLine mode cmd ls = some a ∧ Accepted mode cmd a ∧
        r = finish .success (copyRets 0 (parseobdline a.text mode cmd localRetsSize))
  | [], ret, r, h, hs, hret => by
    obtain rfl := Option.some.inj h
    exact absurd hs hret
  | l :: ls, ret, r, h, hs, hret => by
    rw [readLines] at h
    unfold acceptedLine
    rw [List.find?_cons]
    split at h
    · next hlen =>
      -- a short line is not accepted: the loop is past it, or stuck
      have hna : ¬ Accepted mode cmd l := fun hacc => absurd hlen (Nat.not_le.mpr hacc.1)
      rw [decide_eq_false hna]
      split at h
      · exact readLines_success h hs hret
      · cases h
    · next hlen =>
      dsimp only at h
      split at h
      · next hp =>
        have hacc : Accepted mode cmd l := ⟨Nat.not_le.mp hlen, hp⟩
        rw [decide_eq_true hacc]
        rw [hp] at h
        exact ⟨l, rfl, hacc, (Option.some.inj h).symm⟩
      · next hp =>
        have hna : ¬ Accepted mode cmd l := fun hacc => hp hacc.2
        rw [decide_eq_false hna]
        exact readLines_success h hs hp

/-- The text in `retbuf` when the reads are over. -/
def Exchange.retbuf (x : Exchange) : List Char :=
  match readserialdata retbufSize [] x.reads with
  | none => []
  | some (_, buf) => cstr buf

theorem replyMarker_ne_success (retbuf : List Char) : replyMarker retbuf ≠ some .success := by
  unfold replyMarker
  repeat' split
  all_goals decide

/-- A call that succeeds has got through the checks to the line loop. -/
theorem getobdbytes_success {numbytesExpected : Int} {x : Exchange} {fuel : Nat} {r : ObdBytes}
    (h : getobdbytes mode cmd numbytesExpected x fuel = some r) (hs : r.status = .success) :
    readLines mode cmd (logicalLines none (strtokAll isDelim x.retbuf)) .error = some r := by
  unfold getobdbytes at h
  unfold Exchange.retbuf
  split at h
  · obtain rfl := Option.some.inj h
    cases hs
  · cases hread : readserialdata retbufSize [] x.reads with
    | none =>
      rw [hread] at h
      cases h
    | some p =>
      obtain ⟨nbytes, buf⟩ := p
      rw [hread] at h
      dsimp only at h ⊢
      split at h
      · obtain rfl := Option.some.inj h
        cases hs
      · unfold parseReply at h
        split at h
        · next status hm =>
          obtain rfl := Option.some.inj h
          exact absurd (hm.trans (congrArg some hs)) (replyMarker_ne_success _)
        · exact readLines_of_lineLoop h

/-- The answer of an adapter to mode 04 keeps the loop going for ever. -/
theorem lineLoop_ok_stuck : ¬ ∀ (mode cmd : Nat) (retbuf : List Char), nul ∉ retbuf →
    retbuf.length < retbufSize →
    ∃ fuel, (lineLoop mode cmd fuel (strtokAll isDelim retbuf) .error).isSome := by
  intro h
  obtain ⟨fuel, hend⟩ := h 0x04 0x00 ['\r', 'O', 'K', '\r', '>'] (by decide) (by decide)
  have htokens : strtokAll isDelim ['\r', 'O', 'K', '\r', '>'] = [['O', 'K']] := by decide
  rw [htokens, lineLoop_short (by decide) (by decide)] at hend
  cases hend

/-! ## The caller's array -/

/-- The writes stay inside an array of `retvalsSize` items, and no more are
reported. -/
def Bounded (retvalsSize : Nat) (r : ObdBytes) : Prop :=
  (∀ s ∈ r.stores, s.1 < retvalsSize) ∧ ∀ n, r.numbytesReturned = some n → n ≤ retvalsSize

/-- The values are written from the front of the array. -/
theorem bounded_finish {retvalsSize : Nat} (ret : ObdSerialStatus) (p : ParsedLine) :
    Bounded retvalsSize (finish ret (copyRets 0 p)) ↔ p.valsRead ≤ retvalsSize := by
  unfold Bounded finish copyRets
  simp only [List.length_map, List.length_range, Option.some.injEq, forall_eq']
  constructor
  · exact fun h => h.2
  · intro h
    refine ⟨fun s hs => ?_, h⟩
    obtain ⟨i, hi, rfl⟩ := List.mem_map.mp hs
    have := List.mem_range.mp hi
    dsimp only
    omega

/-- How many hex pairs can be read off a line: twenty behind its head at most. -/
def hexPairCount (mode : Nat) (line : List Char) : Nat :=
  (assigned (hexPairs (countSub mode + 20)) line).length

/-- The hex pairs of an accepted line are its head and its values. -/
theorem parseobdline_valsRead {line : List Char} {n : Nat}
    (h : (parseobdline line mode cmd n).status = .success) :
    hexPairCount mode line = countSub mode + (parseobdline line mode cmd n).valsRead := by
  have hsub : countSub mode ≤ 2 := by
    unfold countSub
    split <;> omega
  unfold parseobdline at h ⊢
  dsimp only at h ⊢
  by_cases hret : (sscanf (hexPairs (countSub mode + 20)) line).ret ≤ 2
  · rw [if_pos hret] at h
    cases h
  · -- more than two values were stored, so the count is not that of an empty line
    have hne : assigned (hexPairs (countSub mode + 20)) line ≠ [] := by
      intro hnil
      refine hret ?_
      rw [sscanf, hnil]
      dsimp only
      split <;> decide
    have hcount := sscanf_ret_nonneg hne
    rw [if_neg hret] at h ⊢
    split at h
    · cases h
    · next h0 =>
      rw [if_neg h0]
      split at h
      · cases h
      · next h1 =>
        rw [if_neg h1, hcount]
        rw [hcount] at hret
        unfold hexPairCount
        dsimp only
        omega

/-- The first accepted line, if the loop gets there, has no more hex pairs
behind its head than the array has items. -/
def Roomy (mode cmd retvalsSize : Nat) (ls : List LogicalLine) : Prop :=
  ∀ pre a post, ls = pre ++ a :: post → (∀ l ∈ pre, ¬ Stalls l ∧ ¬ Accepted mode cmd l) →
    Accepted mode cmd a → hexPairCount mode a.text ≤ countSub mode + retvalsSize

theorem roomy_cons {retvalsSize : Nat} {l : LogicalLine} {ls : List LogicalLine} :
    Roomy mode cmd retvalsSize (l :: ls) ↔
      (Accepted mode cmd l → hexPairCount mode l.text ≤ countSub mode + retvalsSize) ∧
      (¬ Stalls l → ¬ Accepted mode cmd l → Roomy mode cmd retvalsSize ls) := by
  constructor
  · intro h
    refine ⟨h [] l ls rfl (by simp), fun hns hna pre a post hsplit hpre => ?_⟩
    refine h (l :: pre) a post (by rw [hsplit]; rfl) fun k hk => ?_
    rcases List.mem_cons.mp hk with rfl | hk
    · exact ⟨hns, hna⟩
    · exact hpre k hk
  · intro ⟨hfirst, hrest⟩ pre a post hsplit hpre hacc
    cases pre with
    | nil =>
      obtain ⟨rfl, -⟩ : l = a ∧ ls = post := by simpa using hsplit
      exact hfirst hacc
    | cons k pre =>
      obtain ⟨rfl, htail⟩ : l = k ∧ ls = pre ++ a :: post := by simpa using hsplit
      have hk := hpre l (List.mem_cons_self ..)
      exact hrest hk.1 hk.2 pre a post htail
        (fun m hm => hpre m (List.mem_cons_of_mem _ hm)) hacc

theorem readLines_bounded_iff {retvalsSize : Nat} : ∀ (ls : List LogicalLine)
    (ret : ObdSerialStatus), (∀ r, readLines mode cmd ls ret = some r → Bounded retvalsSize r) ↔
      Roomy mode cmd retvalsSize ls
  | [], ret => by
    refine iff_of_true (fun r h => ?_) (fun pre a post h => by simp at h)
    injection h with h
    subst h
    exact ⟨by simp [finish], by simp [finish]⟩
  | l :: ls, ret => by
    rw [roomy_cons, readLines]
    by_cases hshort : l.text.length ≤ 3
    · have hna : ¬ Accepted mode cmd l := fun h => absurd hshort (Nat.not_le.mpr h.1)
      rw [if_pos hshort]
      cases hj : l.joined with
      | true =>
        have hns : ¬ Stalls l := fun h => absurd h.1 (by rw [hj]; decide)
        simpa [hns, hna] using readLines_bounded_iff ls ret
      | false => simpa [hna] using fun h => absurd ⟨hj, hshort⟩ h
    · have hns : ¬ Stalls l := fun h => hshort h.2
      rw [if_neg hshort]
      by_cases hp : (parseobdline l.text mode cmd localRetsSize).status = .success
      · have hacc : Accepted mode cmd l := ⟨Nat.not_le.mp hshort, hp⟩
        simp [hp, hacc, bounded_finish, parseobdline_valsRead hp]
      · have hna : ¬ Accepted mode cmd l := fun h => hp h.2
        simpa [hp, hns, hna] using readLines_bounded_iff ls _

/-- **When the caller's array is big enough.** With any mode, command, reply
and array, everything `getobdbytes` writes and reports stays within the array
if and only if the reply is turned down as a whole or the first line accepted
has no more hex pairs behind its head than the array has items. -/
theorem parseReply_bounded_iff (mode cmd retvalsSize : Nat) (retbuf : List Char) :
    (∀ fuel r, parseReply mode cmd fuel retbuf = some r → Bounded retvalsSize r) ↔
      replyMarker retbuf ≠ none ∨
        Roomy mode cmd retvalsSize (logicalLines none (strtokAll isDelim retbuf)) := by
  unfold parseReply
  cases replyMarker retbuf with
  | some status =>
    refine iff_of_true (fun fuel r h => ?_) (Or.inl (by simp))
    injection h with h
    subst h
    exact ⟨by simp, by simp⟩
  | none =>
    rw [← readLines_bounded_iff _ .error]
    simp only [ne_eq, not_true_eq_false, false_or]
    constructor
    · intro h r hr
      exact h _ r (by rwa [lineLoop_of_fuel (Nat.lt_succ_self _)])
    · intro h fuel r hr
      exact h r (readLines_of_lineLoop hr)

/-- An adapter that sends five values for one PID. -/
def fiveValues : List Char := "410C0102030405\r\r>".toList

/-- A caller with four items is given five values. -/
theorem parseReply_overflows : ¬ ∀ (mode cmd retvalsSize : Nat) (retbuf : List Char) fuel r,
    parseReply mode cmd fuel retbuf = some r → Bounded retvalsSize r := by
  intro h
  have hbounded := h 0x01 0x0C 4 fiveValues 2
    ⟨.success, [(0, 1), (1, 2), (2, 3), (3, 4), (4, 5)], some 5⟩ (by decide)
  exact absurd (hbounded.2 5 rfl) (by decide)

end ObdGpsLogger.Obdcomm
