import ObdGpsLogger.Machine.Run
import ObdGpsLogger.Sim.FdSimPort

/-!
# What lies behind `readbuf_pos`

`readLine` keeps a length (`readbuf_pos`) but searches the array as a C
string, and `memmove` does not clear what it moves away from. So the search
is right only as long as the cells behind the received bytes stop it. This
file finds the exact condition, `FreshTail`:

* if a `\r` has arrived, the terminators after it must end inside the received
  bytes, or the first cell behind them must not be a terminator;
* if none has arrived, the cells behind the received bytes must hold a NUL
  with no `\r` before it;
* with echo on they must hold a NUL, which ends the echoed text.

A call that meets it does what the ideal line reader `frame` does
(`takeData_fresh`). A call that does not meet it either leaves the array or
drives `readbuf_pos` below zero (`takeData_stale`). `readLine_sound_iff` carries
both along a run: the reader keeps `0 ≤ readbuf_pos ≤ 4096` and hands out
only bytes received after the previous line exactly when every call meets
the condition.
-/

namespace ObdGpsLogger.Sim

open CLib Machine

/-- What the cells behind the received bytes must be like for a delivery of
`bs`. -/
def FreshTail (p : FDSimPort) (mEcho : Bool) (bs : List Char) : Prop :=
  (mEcho = true → nul ∈ p.leftover bs.length) ∧
  if '\r' ∈ p.pending ++ bs then
    (frame p.pending bs).1 ≠ [] ∨
      ∃ c, (p.leftover bs.length).head? = some c ∧ isTerm c = false
  else nul ∈ p.leftover bs.length ∧ '\r' ∉ cstr (p.leftover bs.length)

instance (p : FDSimPort) (mEcho : Bool) (bs : List Char) : Decidable (FreshTail p mEcho bs) := by
  unfold FreshTail
  have : Decidable (∃ c, (p.leftover bs.length).head? = some c ∧ isTerm c = false) :=
    decidable_of_iff ((p.leftover bs.length).head?.any (fun c => !isTerm c) = true) (by
      cases (p.leftover bs.length).head? <;> simp)
  infer_instance

/-- The states in which `readLine` has kept its books. -/
structure PortWf (p : FDSimPort) : Prop where
  nonneg : 0 ≤ p.readbufPos
  le : p.readbufPos ≤ readbufSize
  noNul : nul ∉ p.pending

theorem init_wf : PortWf FDSimPort.init :=
  ⟨by decide, by decide, by simp [FDSimPort.pending, FDSimPort.init]⟩

theorem connect_wf {p : FDSimPort} (hwf : PortWf p) (conn : Int) : PortWf (p.connect conn) :=
  ⟨by simpa using hwf.nonneg, by simpa using hwf.le, by simpa using hwf.noNul⟩

/-! ## The ideal reader -/

/-- A line handed out, with the terminators that were dropped after it. -/
structure Taken where
  line : List Char
  term : List Char

section Frame

variable {pend bs : List Char}

theorem frame_of_mem (h : '\r' ∈ pend ++ bs) :
    frame pend bs = (((pend ++ bs).dropWhile (fun c => c != '\r')).dropWhile isTerm,
      some ((pend ++ bs).takeWhile (fun c => c != '\r'))) :=
  if_pos h

theorem frame_of_not_mem (h : '\r' ∉ pend ++ bs) : frame pend bs = (pend ++ bs, none) := if_neg h

/-- What has arrived is the line, its terminators and the rest. -/
theorem frame_pieces (hmem : '\r' ∈ pend ++ bs) :
    ∃ t : Taken, (frame pend bs).2 = some t.line ∧
      pend ++ bs = (t.line ++ t.term) ++ (frame pend bs).1 ∧
      t.term ≠ [] ∧ ∀ c ∈ t.term, isTerm c = true := by
  rw [frame_of_mem hmem]
  generalize hd : (pend ++ bs).dropWhile (fun c => c != '\r') = d
  have hsplit := List.takeWhile_append_dropWhile (p := fun c => c != '\r') (l := pend ++ bs)
  rw [hd] at hsplit
  refine ⟨⟨_, d.takeWhile isTerm⟩, rfl, ?_, ?_, fun c hc => List.mem_takeWhile_imp hc⟩
  · rw [List.append_assoc, List.takeWhile_append_dropWhile, hsplit]
  · -- `d` starts with the `\r` that was found
    cases d with
    | nil =>
      have hall := List.dropWhile_eq_nil_iff.mp hd _ hmem
      exact absurd hall (by simp)
    | cons e es =>
      have he := List.head?_dropWhile_not (fun c => c != '\r') (pend ++ bs)
      rw [hd] at he
      have het : isTerm e = true := by simpa [isTerm] using Or.inl he
      simp [het]

/-- Terminators that end inside the bytes, or before the cell behind them, are
all that is skipped. -/
theorem skip_terms {tail : List Char} (hmem : '\r' ∈ pend ++ bs)
    (hstop : (frame pend bs).1 ≠ [] ∨ ∃ c, tail.head? = some c ∧ isTerm c = false) :
    ((pend ++ bs).dropWhile (fun c => c != '\r') ++ tail).dropWhile isTerm
      = (frame pend bs).1 ++ tail := by
  rw [frame_of_mem hmem] at hstop ⊢
  rw [List.dropWhile_append]
  cases hr : ((pend ++ bs).dropWhile (fun c => c != '\r')).dropWhile isTerm with
  | cons c r => rfl
  | nil =>
    obtain ⟨c, hc, hct⟩ := hstop.resolve_left (fun h => h hr)
    cases tail with
    | nil => cases hc
    | cons e es =>
      injection hc with hc
      subst hc
      simp [hct]

end Frame

/-! ## One delivery -/

section Delivery

variable {p : FDSimPort} {mEcho : Bool} {bs : List Char}

theorem pending_length (hwf : PortWf p) : p.pending.length = p.readbufPos.toNat := by
  have h₁ := hwf.nonneg
  have h₂ := hwf.le
  have h₃ := p.readbuf.size
  unfold FDSimPort.pending
  rw [List.length_take]
  omega

/-- After the `read`, the array is the received bytes and the leftover. -/
theorem store_pending (hfit : p.readbufPos.toNat + bs.length ≤ readbufSize) :
    (p.readbuf.store p.readbufPos.toNat bs).cells
      = (p.pending ++ bs) ++ p.leftover bs.length :=
  Buffer.store_cells hfit

theorem leftover_length (hwf : PortWf p)
    (hfit : p.readbufPos.toNat + bs.length ≤ readbufSize) :
    (p.pending ++ bs).length + (p.leftover bs.length).length = readbufSize := by
  have h := p.readbuf.size
  unfold FDSimPort.leftover
  rw [List.length_append, pending_length hwf, List.length_drop]
  omega

/-- The echo needs its NUL behind the received bytes. -/
theorem echoText_store (hwf : PortWf p) (hbs : nul ∉ bs)
    (hfit : p.readbufPos.toNat + bs.length ≤ readbufSize) :
    echoText mEcho ((p.readbuf.store p.readbufPos.toNat bs).cells.drop p.readbufPos.toNat)
      = if mEcho = true ∧ nul ∉ p.leftover bs.length then none
        else some (if mEcho then bs ++ cstr (p.leftover bs.length) else []) := by
  have hdrop : (p.readbuf.store p.readbufPos.toNat bs).cells.drop p.readbufPos.toNat
      = bs ++ p.leftover bs.length := by
    rw [store_pending hfit, List.append_assoc, ← pending_length hwf, List.drop_left]
  have hcstr : cstr (bs ++ p.leftover bs.length) = bs ++ cstr (p.leftover bs.length) := by
    unfold cstr
    refine List.takeWhile_append_of_pos ?_
    intro c hc
    have : c ≠ nul := fun h => hbs (h ▸ hc)
    simpa using this
  rw [hdrop, echoText, hcstr]
  cases mEcho <;> simp [hbs]

/-- `takeData` after its read, when the echo gets through. -/
theorem takeData_eq (hwf : PortWf p) (hbs : nul ∉ bs)
    (hfit : p.readbufPos.toNat + bs.length ≤ readbufSize)
    (hecho : mEcho = true → nul ∈ p.leftover bs.length) :
    p.takeData mEcho bs =
      let buf := p.readbuf.store p.readbufPos.toNat bs
      let echo := if mEcho then bs ++ cstr (p.leftover bs.length) else []
      match scan '\r' ((p.pending ++ bs) ++ p.leftover bs.length) with
      | .overrun => none
      | .absent => some ({ p with readbuf := buf, readbufPos := p.readbufPos + bs.length },
          ⟨none, echo⟩)
      | .found line lineend =>
        (p.takeLine buf (p.readbufPos + bs.length) line lineend).map fun p' =>
          (p', ⟨some line, echo⟩) := by
  have hpos := hwf.nonneg
  have hcells := store_pending hfit
  have hgot : echoText mEcho (((p.pending ++ bs) ++ p.leftover bs.length).drop p.readbufPos.toNat) =
      some (if mEcho then bs ++ cstr (p.leftover bs.length) else []) := by
    rw [← hcells, echoText_store hwf hbs hfit, if_neg fun h => h.2 (hecho h.1)]
  unfold FDSimPort.takeData
  rw [if_neg (by omega)]
  cases hs : scan '\r' ((p.pending ++ bs) ++ p.leftover bs.length) <;>
    simp only [hcells, hgot, hs]

/-- A port whose array starts with its pending bytes has its books in order. -/
theorem portWf_of_cells {p : FDSimPort} {r behind : List Char}
    (hcells : p.readbuf.cells = r ++ behind) (hpos : p.readbufPos = r.length) (hnul : nul ∉ r) :
    PortWf p ∧ p.pending = r ∧ p.leftover 0 = behind := by
  have hsz := p.readbuf.size
  rw [hcells, List.length_append] at hsz
  have hnat : p.readbufPos.toNat = r.length := by omega
  have hpend : p.pending = r := by
    unfold FDSimPort.pending
    rw [hcells, hnat, List.take_left]
  refine ⟨⟨by omega, by omega, by rwa [hpend]⟩, hpend, ?_⟩
  unfold FDSimPort.leftover
  rw [Nat.add_zero, hcells, hnat, List.drop_left]

/-- Taking a line that ends inside the array: the rest moves to the front. -/
theorem takeLine_eq (line : List Char) {lineend pre r : List Char} (buf : Buffer readbufSize)
    (hcells : buf.cells = pre ++ r) (hdrop : lineend.dropWhile isTerm = r) (hr : r ≠ [])
    (received : Int) :
    p.takeLine buf received line lineend =
      some { p with
        lastread := line
        readbuf := buf.moveDown pre.length
        readbufPos := received - pre.length } := by
  have hsz := buf.size
  rw [hcells, List.length_append] at hsz
  have hk : readbufSize - r.length = pre.length := by omega
  unfold FDSimPort.takeLine
  rw [hdrop]
  cases r with
  | nil => exact absurd rfl hr
  | cons c rest => dsimp only; rw [hk]

/-- **A fresh delivery.** The call does what the ideal line reader does, and
echoes the bytes up to the NUL behind them. The cells behind its pending bytes
are then the leftover, with the last `k` cells of the array once more behind
it if `k` bytes were taken off. -/
theorem takeData_fresh (hwf : PortWf p) (hbs : nul ∉ bs)
    (hfit : p.readbufPos.toNat + bs.length ≤ readbufSize) (hF : FreshTail p mEcho bs) :
    ∃ p', p.takeData mEcho bs = some (p', ⟨(frame p.pending bs).2,
        if mEcho then bs ++ cstr (p.leftover bs.length) else []⟩) ∧
      PortWf p' ∧ p'.pending = (frame p.pending bs).1 ∧
      ∃ k ≤ (p.pending ++ bs).length, p'.leftover 0 =
        p.leftover bs.length ++ ((p.pending ++ bs) ++ p.leftover bs.length).drop (readbufSize - k) := by
  obtain ⟨hecho, hcr⟩ := hF
  have hpos := hwf.nonneg
  have hnul : nul ∉ p.pending ++ bs := by simp [hwf.noNul, hbs]
  have hlen := leftover_length hwf hfit
  have hplen := pending_length hwf
  rw [takeData_eq hwf hbs hfit hecho]
  by_cases hmem : '\r' ∈ p.pending ++ bs
  · -- a line: the terminators stop before the first leftover cell
    rw [if_pos hmem] at hcr
    obtain ⟨t, -, hsplit, -⟩ := frame_pieces hmem
    have hskip := skip_terms hmem hcr
    have hne : (frame p.pending bs).1 ++ p.leftover bs.length ≠ [] := by
      intro hnil
      obtain ⟨h₁, h₂⟩ := List.append_eq_nil_iff.mp hnil
      rcases hcr with h | ⟨c, hc, -⟩
      · exact h h₁
      · rw [h₂] at hc
        cases hc
    have hcells : (p.readbuf.store p.readbufPos.toNat bs).cells
        = (t.line ++ t.term) ++ ((frame p.pending bs).1 ++ p.leftover bs.length) := by
      rw [store_pending hfit, ← List.append_assoc, ← hsplit]
    have htaken := congrArg List.length hsplit
    rw [List.length_append, List.length_append, hplen] at htaken
    have hmoved := Buffer.moveDown_cells hcells
    rw [List.append_assoc, store_pending hfit] at hmoved
    have hline : (frame p.pending bs).2 = some ((p.pending ++ bs).takeWhile fun c => c != '\r') :=
      congrArg Prod.snd (frame_of_mem hmem)
    rw [scan_of_mem hnul hmem, hline]
    dsimp only
    rw [takeLine_eq _ _ hcells hskip hne]
    obtain ⟨hwf', hpend', hleft'⟩ := portWf_of_cells (p := { p with
        lastread := (p.pending ++ bs).takeWhile (fun c => c != '\r')
        readbuf := Buffer.moveDown _ _
        readbufPos := p.readbufPos + bs.length - (t.line ++ t.term).length }) hmoved
      (by dsimp only; omega) (fun h => hnul (hsplit ▸ List.mem_append_right _ h))
    refine ⟨_, rfl, hwf', hpend', (t.line ++ t.term).length, ?_, hleft'⟩
    rw [hsplit]
    exact (List.prefix_append _ _).length_le
  · -- no terminator yet: the search stops at the leftover's NUL
    rw [if_neg hmem] at hcr
    have habs := (scan_eq_absent (by decide : '\r' ≠ nul) _).mpr hcr
    rw [scan_of_not_mem hnul hmem, foldr_push, habs, frame_of_not_mem hmem]
    dsimp only
    have hall : ((p.pending ++ bs) ++ p.leftover bs.length).drop (readbufSize - 0) = [] :=
      List.drop_of_length_le (by rw [List.length_append]; omega)
    obtain ⟨hwf', hpend', hleft'⟩ := portWf_of_cells (p := { p with
        readbuf := p.readbuf.store p.readbufPos.toNat bs
        readbufPos := p.readbufPos + bs.length }) (store_pending hfit)
      (by rw [List.length_append, hplen]; dsimp only; omega) hnul
    exact ⟨_, rfl, hwf', hpend', 0, Nat.zero_le _, by rw [hall, List.append_nil, hleft']⟩

/-- Skipping the terminators a text starts with makes it shorter. -/
theorem dropWhile_isTerm_lt {s : List Char} {c : Char} (hc : s.head? = some c)
    (hct : isTerm c = true) : (s.dropWhile isTerm).length < s.length := by
  cases s with
  | nil => cases hc
  | cons d s =>
    injection hc with hc
    subst hc
    rw [List.dropWhile_cons_of_pos hct]
    exact Nat.lt_succ_of_le (List.length_dropWhile_le isTerm s)

/-- A line taken past the received bytes costs more than was received. -/
theorem takeLine_neg (line echo : List Char) {lineend : List Char} (buf : Buffer readbufSize)
    {received : Int}
    (hlen : lineend.dropWhile isTerm = [] ∨
      received + (lineend.dropWhile isTerm).length < readbufSize) :
    (p.takeLine buf received line lineend).map (fun p' => (p', LineRead.mk (some line) echo)) = none ∨
      ∃ p' o, (p.takeLine buf received line lineend).map
        (fun p' => (p', LineRead.mk (some line) echo)) = some (p', o) ∧ p'.readbufPos < 0 := by
  unfold FDSimPort.takeLine
  cases hr : lineend.dropWhile isTerm with
  | nil => exact Or.inl rfl
  | cons c rest =>
    rw [hr] at hlen
    have hlt := hlen.resolve_left (by simp)
    refine Or.inr ⟨_, _, rfl, ?_⟩
    dsimp only
    omega

/-- **A stale delivery.** Without the condition the call leaves the array or
puts `readbuf_pos` below zero. -/
theorem takeData_stale (hwf : PortWf p) (hbs : nul ∉ bs)
    (hfit : p.readbufPos.toNat + bs.length ≤ readbufSize) (hF : ¬ FreshTail p mEcho bs) :
    p.takeData mEcho bs = none ∨
      ∃ p' o, p.takeData mEcho bs = some (p', o) ∧ p'.readbufPos < 0 := by
  have hpos := hwf.nonneg
  have hnul : nul ∉ p.pending ++ bs := by simp [hwf.noNul, hbs]
  have hlen := leftover_length hwf hfit
  have hplen := pending_length hwf
  by_cases hecho : mEcho = true → nul ∈ p.leftover bs.length
  · rw [takeData_eq hwf hbs hfit hecho]
    by_cases hmem : '\r' ∈ p.pending ++ bs
    · -- the terminators run on into the leftover
      rw [scan_of_mem hnul hmem]
      refine takeLine_neg _ _ _ ?_
      have hno : ¬ ((frame p.pending bs).1 ≠ [] ∨
          ∃ c, (p.leftover bs.length).head? = some c ∧ isTerm c = false) :=
        fun h => hF ⟨hecho, by rw [if_pos hmem]; exact h⟩
      obtain ⟨hnil, htail⟩ := not_or.mp hno
      rw [frame_of_mem hmem, not_not] at hnil
      dsimp only at hnil
      rw [List.dropWhile_append, hnil]
      cases hl : p.leftover bs.length with
      | nil => exact Or.inl rfl
      | cons c es =>
        have hct : isTerm c = true := by
          cases hc : isTerm c with
          | true => rfl
          | false => exact absurd ⟨c, by rw [hl]; rfl, hc⟩ htail
        have hlt := dropWhile_isTerm_lt (s := c :: es) rfl hct
        rw [hl, List.length_append] at hlen
        simp only [List.isEmpty_nil, if_true]
        exact Or.inr (by omega)
    · -- the line end that is found lies in the leftover
      rw [scan_of_not_mem hnul hmem, foldr_push]
      cases hs : scan '\r' (p.leftover bs.length) with
      | overrun => exact Or.inl rfl
      | absent =>
        exact absurd ⟨hecho, by rw [if_neg hmem]; exact (scan_eq_absent (by decide) _).mp hs⟩ hF
      | found before rest =>
        refine takeLine_neg _ _ _ ?_
        obtain ⟨hsplit, hhead⟩ := scan_eq_found hs
        have hlt := dropWhile_isTerm_lt hhead (by decide)
        have hsum := congrArg List.length hsplit
        rw [List.length_append] at hsum hlen
        exact Or.inr (by omega)
  · -- the echo runs over the end of the array
    rw [Classical.not_imp] at hecho
    unfold FDSimPort.takeData
    rw [if_neg (by omega)]
    dsimp only
    rw [echoText_store hwf hbs hfit, if_pos hecho]
    exact Or.inl rfl

end Delivery

/-! ## Runs -/

/-- What a call may be given: a client is there, and a non-empty delivery
without NUL fits the space `read` is offered. -/
def Fits (p : FDSimPort) (q : Poll) : Prop :=
  0 < q.conn ∧
  match q.result with
  | .data bs => bs ≠ [] ∧ nul ∉ bs ∧ p.readbufPos + bs.length ≤ readbufSize
  | .eagain => True
  | .error => False

instance : ∀ (p : FDSimPort) (q : Poll), Decidable (Fits p q)
  | _, ⟨_, _, .data _⟩ => inferInstanceAs (Decidable (_ ∧ _ ∧ _ ∧ _))
  | _, ⟨_, _, .eagain⟩ => inferInstanceAs (Decidable (_ ∧ True))
  | _, ⟨_, _, .error⟩ => inferInstanceAs (Decidable (_ ∧ False))

/-- `FreshTail` for whatever a call is given. -/
def FreshPoll (p : FDSimPort) (q : Poll) : Prop :=
  match q.result with
  | .data bs => FreshTail p q.mEcho bs
  | _ => True

instance : ∀ (p : FDSimPort) (q : Poll), Decidable (FreshPoll p q)
  | p, ⟨mEcho, _, .data bs⟩ => inferInstanceAs (Decidable (FreshTail p mEcho bs))
  | _, ⟨_, _, .eagain⟩ => inferInstanceAs (Decidable True)
  | _, ⟨_, _, .error⟩ => inferInstanceAs (Decidable True)

/-- The lines are the pieces of the received bytes between terminators, in
order and without gaps; `pend` is what is left. -/
def Split (bytes : List Char) (lines : List (List Char)) (pend : List Char) : Prop :=
  ∃ ts : List Taken, lines = ts.map Taken.line ∧
    bytes = (ts.flatMap fun t => t.line ++ t.term) ++ pend ∧
    ∀ t ∈ ts, t.term ≠ [] ∧ ∀ c ∈ t.term, isTerm c = true

/-- After the calls `qs` the port is within its buffer, and every line it
returned consists of bytes received after the end of the line before. -/
def PortOk (qs : List Poll) : Prop :=
  ∃ p os, run FDSimPort.readLine FDSimPort.init qs = some (p, os) ∧
    0 ≤ p.readbufPos ∧ p.readbufPos ≤ readbufSize ∧
    Split (received qs) (returned os) p.pending

/-- The lines in the bytes of a stream, and what is pending behind them, stay so
when one more delivery is framed. -/
theorem split_frame {bytes bs pend : List Char} {lines : List (List Char)}
    (h : Split bytes lines pend) :
    Split (bytes ++ bs) (lines ++ (frame pend bs).2.toList) (frame pend bs).1 := by
  obtain ⟨ts, hlines, hbytes, hterm⟩ := h
  by_cases hmem : '\r' ∈ pend ++ bs
  · obtain ⟨t, hline, hsplit, ht⟩ := frame_pieces hmem
    refine ⟨ts ++ [t], by simp [hlines, hline], ?_, ?_⟩
    · rw [hbytes, List.append_assoc, hsplit]
      simp
    · intro u hu
      rcases List.mem_append.mp hu with hu | hu
      · exact hterm u hu
      · obtain rfl := List.mem_singleton.mp hu
        exact ht
  · rw [frame_of_not_mem hmem]
    exact ⟨ts, by simp [hlines], by rw [hbytes, List.append_assoc], hterm⟩

/-- What a call gives the ideal line reader. -/
def framePoll (pend : List Char) (q : Poll) : List Char × Option (List Char) :=
  match q.result with
  | .data (b :: bs) => frame pend (b :: bs)
  | _ => (pend, none)

/-- What a call does that meets its conditions: what the ideal line reader
does, and an echo of everything up to the first NUL. The cells behind the
pending bytes are then the ones that were behind the bytes received, and
perhaps the last cells of the array once more. -/
structure FreshRead (p : FDSimPort) (q : Poll) (p' : FDSimPort) (o : LineRead) : Prop where
  wf : PortWf p'
  pending : p'.pending = (framePoll p.pending q).1
  line : o.line = (framePoll p.pending q).2
  echo : o.echo = if q.mEcho = true ∧ q.result.bytes ≠ [] then
    q.result.bytes ++ cstr (p.leftover q.result.bytes.length) else []
  behind : ∃ k ≤ (p.pending ++ q.result.bytes).length, p'.leftover 0 =
    p.leftover q.result.bytes.length ++
      ((p.pending ++ q.result.bytes) ++ p.leftover q.result.bytes.length).drop (readbufSize - k)

/-- A call that meets its conditions gets through. -/
theorem readLine_fresh {p : FDSimPort} {q : Poll} (hwf : PortWf p) (hfit : Fits p q)
    (hF : FreshPoll p q) : ∃ p' o, p.readLine q = some (p', o) ∧ FreshRead p q p' o := by
  obtain ⟨hconn, hfit⟩ := hfit
  have hwf' := connect_wf hwf q.conn
  unfold FDSimPort.readLine
  rw [if_neg (by omega)]
  unfold FreshPoll at hF
  cases hq : q.result with
  -- nothing has come: the port and the framer stay as they are
  | eagain =>
    have hnn := hwf.nonneg
    have hle := hwf.le
    have hsize : p.readbufPos.toNat + ([] : List Char).length ≤ readbufSize := by simp; omega
    have hlen := leftover_length hwf hsize
    have hbehind : ((p.pending ++ []) ++ p.leftover 0).drop readbufSize = [] :=
      List.drop_of_length_le (by simpa using hlen.le)
    refine ⟨_, _, rfl, hwf', ?_, ?_, ?_, 0, Nat.zero_le _, ?_⟩
    · simp [framePoll, hq]
    · simp [framePoll, hq]
    · simp [hq, ReadResult.bytes]
    · simpa [hq, ReadResult.bytes] using hbehind
  | error => rw [hq] at hfit; exact hfit.elim
  -- a delivery is stored and searched, and its lines are those of the framer
  | data bs =>
    rw [hq] at hfit hF
    obtain ⟨hne, hnul, hsize⟩ := hfit
    cases bs with
    | nil => exact absurd rfl hne
    | cons b bs =>
      have hnn := hwf.nonneg
      obtain ⟨p', hdata, hwf₁, hpend₁, htail⟩ := takeData_fresh hwf' hnul
        (by simp only [connect_readbufPos]; omega)
        (show FreshTail (p.connect q.conn) q.mEcho (b :: bs) by simpa [FreshTail] using hF)
      rw [connect_pending] at hdata hpend₁ htail
      rw [connect_leftover] at hdata htail
      refine ⟨p', _, hdata, hwf₁, ?_, ?_, ?_, ?_⟩
      · simpa [framePoll, hq] using hpend₁
      · simp [framePoll, hq]
      · simp [hq, ReadResult.bytes]
      · simpa [hq, ReadResult.bytes] using htail

/-- A call that does not leaves the array or the counter below zero. -/
theorem readLine_stale {p : FDSimPort} {q : Poll} (hwf : PortWf p) (hfit : Fits p q)
    (hF : ¬ FreshPoll p q) :
    p.readLine q = none ∨ ∃ p' o, p.readLine q = some (p', o) ∧ p'.readbufPos < 0 := by
  obtain ⟨hconn, hfit⟩ := hfit
  have hwf' := connect_wf hwf q.conn
  unfold FDSimPort.readLine
  rw [if_neg (by omega)]
  unfold FreshPoll at hF
  cases hq : q.result with
  | eagain => rw [hq] at hF; exact absurd trivial hF
  | error => rw [hq] at hfit; exact hfit.elim
  | data bs =>
    rw [hq] at hfit hF
    obtain ⟨hne, hnul, hsize⟩ := hfit
    cases bs with
    | nil => exact absurd rfl hne
    | cons b bs =>
      have hnn := hwf.nonneg
      refine takeData_stale hwf' hnul (by simp only [connect_readbufPos]; omega) ?_
      simpa [FreshTail] using hF

/-- The books of a run: the port is in order and the lines split the bytes. -/
def PortInv (qs : List Poll) (os : List LineRead) (p : FDSimPort) : Prop :=
  PortWf p ∧ Split (received qs) (returned os) p.pending

theorem portInv_step {qs : List Poll} {os : List LineRead} {p : FDSimPort} {q : Poll}
    (h : PortInv qs os p) (hP : Fits p q ∧ FreshPoll p q) :
    ∃ p' o, p.readLine q = some (p', o) ∧ PortInv (qs ++ [q]) (os ++ [o]) p' := by
  obtain ⟨hwf, hsplit⟩ := h
  obtain ⟨p', o, hread, hfresh⟩ := readLine_fresh hwf hP.1 hP.2
  refine ⟨p', o, hread, hfresh.wf, ?_⟩
  have hrec : received (qs ++ [q]) = received qs ++ q.result.bytes := by simp [received]
  have hret : returned (os ++ [o]) = returned os ++ o.line.toList := by
    unfold returned
    rw [List.filterMap_append]
    cases ho : o.line <;> simp [ho]
  rw [hrec, hret, hfresh.line, hfresh.pending]
  unfold framePoll
  cases hq : q.result with
  | eagain => simpa [ReadResult.bytes] using hsplit
  | error => simpa [ReadResult.bytes] using hsplit
  | data bs =>
    cases bs with
    | nil => simpa [ReadResult.bytes] using hsplit
    | cons b bs => exact split_frame hsplit

theorem portInv_init : PortInv [] [] FDSimPort.init :=
  ⟨init_wf, [], rfl, by simp [received, FDSimPort.pending, FDSimPort.init], by simp⟩

/-- A call is fresh whenever it leaves the port within its buffer. -/
theorem freshPoll_of_ok {qs : List Poll} {q : Poll} {p : FDSimPort} {os : List LineRead}
    (hrun : run FDSimPort.readLine FDSimPort.init qs = some (p, os)) (hwf : PortWf p)
    (hfit : Fits p q) (hok : PortOk (qs ++ [q])) : FreshPoll p q := by
  by_contra hF
  obtain ⟨p', os', hrun', hnn, -, -⟩ := hok
  obtain ⟨u, os₁, os₂, h₁, h₂, -⟩ := run_append_eq_some hrun'
  rw [hrun] at h₁
  obtain ⟨rfl, rfl⟩ : p = u ∧ os = os₁ := by simpa using h₁
  obtain ⟨o, hstep, -⟩ := run_singleton.mp h₂
  rcases readLine_stale hwf hfit hF with h | ⟨p₁, o₁, h, hneg⟩
  · rw [h] at hstep
    cases hstep
  · rw [h] at hstep
    obtain ⟨rfl, -⟩ : p₁ = p' ∧ o₁ = o := by simpa using hstep
    omega

/-- From a state with its books in order: if every further prefix stays in
order, every further call was fresh. -/
theorem along_fresh_of_ok : ∀ (qs : List Poll) {qs₀ : List Poll} {os₀ : List LineRead}
    {p : FDSimPort}, run FDSimPort.readLine FDSimPort.init qs₀ = some (p, os₀) →
      PortInv qs₀ os₀ p → Along FDSimPort.readLine Fits p qs →
      (∀ pre, pre <+: qs → PortOk (qs₀ ++ pre)) → Along FDSimPort.readLine FreshPoll p qs
  | [], _, _, _, _, _, _, _ => trivial
  | q :: qs, qs₀, os₀, p, hrun, hinv, hfit, hok => by
    have hF := freshPoll_of_ok hrun hinv.1 hfit.1 (hok [q] ⟨qs, rfl⟩)
    refine ⟨hF, fun p' o hstep => ?_⟩
    obtain ⟨p₁, o₁, hstep₁, hinv₁⟩ := portInv_step hinv ⟨hfit.1, hF⟩
    rw [hstep] at hstep₁
    obtain ⟨rfl, rfl⟩ : p' = p₁ ∧ o = o₁ := by simpa using hstep₁
    refine along_fresh_of_ok qs ?_ hinv₁ (hfit.2 p' o hstep) ?_
    · rw [run_append hrun, run_cons_of_step hstep]
      rfl
    · rintro pre ⟨post, rfl⟩
      have := hok (q :: pre) ⟨post, rfl⟩
      simpa using this

/-- **The reader is sound exactly while what it left behind stays out of the
way.** For deliveries that fit, the port stays within its buffer and returns
only bytes received after the previous line, at every point of the run, if
and only if every call finds the cells behind its bytes fresh. -/
theorem readLine_sound_iff {qs : List Poll}
    (hfit : Along FDSimPort.readLine Fits FDSimPort.init qs) :
    (∀ pre, pre <+: qs → PortOk pre) ↔
      Along FDSimPort.readLine FreshPoll FDSimPort.init qs := by
  constructor
  · intro hok
    exact along_fresh_of_ok qs rfl portInv_init hfit hok
  · rintro hF pre ⟨post, rfl⟩
    obtain ⟨p, os, hrun, hwf, hsplit⟩ := run_progress (I := PortInv)
      (fun _ _ _ _ h hP => portInv_step h hP) portInv_init (hfit.and hF).left
    exact ⟨p, os, hrun, hwf.nonneg, hwf.le, hsplit⟩

/-- A long command, and then the start of a shorter one. -/
def longThenShort : List Poll :=
  [⟨false, 1, .data (List.replicate 3000 'A' ++ ['\r'])⟩,
    ⟨false, 1, .data (List.replicate 1500 'B')⟩]

/-- The old `\r` behind the short text is found, and 3001 bytes are taken off
a count of 1500. -/
theorem longThenShort_pos :
    (run FDSimPort.readLine FDSimPort.init longThenShort).map (fun r => r.1.readbufPos)
      = some (-1501) := by
  decide +kernel

theorem longThenShort_fits : Along FDSimPort.readLine Fits FDSimPort.init longThenShort := by
  decide +kernel

/-- The port does not stay within its buffer on every run. -/
theorem readLine_not_sound :
    ¬ ∀ qs, Along FDSimPort.readLine Fits FDSimPort.init qs → ∀ pre, pre <+: qs → PortOk pre := by
  intro h
  obtain ⟨p, os, hrun, hnn, -⟩ := h longThenShort longThenShort_fits longThenShort List.prefix_rfl
  have hpos := longThenShort_pos
  rw [hrun] at hpos
  injection hpos with hpos
  dsimp only at hpos
  omega

/-- A first command, read in two pieces, is handled soundly. -/
theorem readLine_sound_reset :
    PortOk [⟨true, 1, .data ['A', 'T']⟩, ⟨true, 1, .data ['Z', '\r']⟩] :=
  (readLine_sound_iff (by decide +kernel)).mpr (by decide +kernel) _ List.prefix_rfl

end ObdGpsLogger.Sim
