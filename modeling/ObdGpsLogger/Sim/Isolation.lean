import ObdGpsLogger.Sim.FdSimPortInv

/-!
# One client after another

A socket or Bluetooth port has one client at a time. When a client goes, its
connection is closed, but `readbuf` and `readbuf_pos` stay as they are. So the
lines of the next client may depend on what earlier ones sent.

`sessions_isolated_iff` says when they do not: nothing may be pending, the
cells behind the first must hold no terminator, and the last one a NUL
(`Clean`). One direction is a relation between two ports that the client cannot
tell apart (`Related`): where their arrays differ, no search ever stops or
starts. The other has, for everything that a port may be left with, a text
that shows it.
-/

namespace ObdGpsLogger.Sim

open CLib Machine

/-! ## A connection -/

/-- What a client's socket receives before a call of `readLine`, and the echo
setting of that call. -/
structure Arrival where
  mEcho : Bool
  bytes : List Char

/-- The room that is left in the buffer, `sizeof(readbuf)-readbuf_pos`. -/
def FDSimPort.space (p : FDSimPort) : Nat := (readbufSize - p.readbufPos).toNat

/-- `read` on a socket: as many bytes as there are and fit. A `read` of no
bytes returns 0. -/
def readSocket (space : Nat) (unread : List Char) : ReadResult :=
  if space = 0 then .data [] else if unread = [] then .eagain else .data (unread.take space)

/-- The lines that are returned during one connection, until the port closes
it; `none` when a call leaves the array. -/
def sessionLines (fd : Int) : FDSimPort → List Char → List Arrival → Option (List (List Char))
  | _, _, [] => some []
  | p, unread, a :: as =>
    match p.readLine ⟨a.mEcho, fd, readSocket p.space (unread ++ a.bytes)⟩ with
    | none => none
    | some (p', o) =>
      if p'.connected = 0 then some o.line.toList
      else (sessionLines fd p' ((unread ++ a.bytes).drop p.space) as).map (o.line.toList ++ ·)

/-- A `read` returns no more than fits. -/
def Offered (p : FDSimPort) (q : Poll) : Prop :=
  p.readbufPos + q.result.bytes.length ≤ readbufSize

instance (p : FDSimPort) (q : Poll) : Decidable (Offered p q) :=
  inferInstanceAs (Decidable (_ ≤ _))

/-- A port that has no client, after whatever happened before. -/
structure Vacant (p : FDSimPort) (qs : List Poll) : Prop where
  offered : Along FDSimPort.readLine Offered FDSimPort.init qs
  reached : ∃ os, run FDSimPort.readLine FDSimPort.init qs = some (p, os)
  vacant : p.connected = 0

/-- Nothing is left of earlier clients that the next one could notice. -/
structure Clean (p : FDSimPort) : Prop where
  pos : p.readbufPos = 0
  terms : ∀ c ∈ p.readbuf.cells.tail, isTerm c = false
  last : p.readbuf.cells.getLast? = some nul

/-! ## Arrays that cannot be told apart -/

/-- A NUL in both, and no `\r` before it. -/
inductive Shield : List Char → List Char → Prop where
  | both (xs ys : List Char) : Shield (nul :: xs) (nul :: ys)
  | cons {x y : Char} {xs ys : List Char} :
      x ≠ '\r' → y ≠ '\r' → Shield xs ys → Shield (x :: xs) (y :: ys)

/-- Two arrays that agree, but for cells without a terminator that a NUL of
both stands behind. -/
inductive Alike : List Char → List Char → Prop where
  | nil : Alike [] []
  | same (c : Char) {xs ys : List Char} : Alike xs ys → Alike (c :: xs) (c :: ys)
  | hidden {x y : Char} {xs ys : List Char} :
      isTerm x = false → isTerm y = false → Shield xs ys → Alike xs ys →
      Alike (x :: xs) (y :: ys)

section Arrays

variable {xs ys as bs : List Char}

theorem Shield.append (h : Shield xs ys) (as bs : List Char) : Shield (xs ++ as) (ys ++ bs) := by
  induction h with
  | both xs ys => exact Shield.both ..
  | cons hx hy _ ih => exact Shield.cons hx hy ih

theorem Shield.scan (h : Shield xs ys) :
    scan '\r' xs = .absent ∧ scan '\r' ys = .absent := by
  induction h with
  | both xs ys => exact ⟨rfl, rfl⟩
  | cons hx hy _ ih =>
    rw [CLib.scan, CLib.scan, if_neg hx, if_neg hy, ih.1, ih.2]
    constructor <;> split <;> rfl

theorem Shield.nul_mem (h : Shield xs ys) : nul ∈ xs ∧ nul ∈ ys := by
  induction h with
  | both xs ys => exact ⟨List.mem_cons_self .., List.mem_cons_self ..⟩
  | cons _ _ _ ih => exact ⟨List.mem_cons_of_mem _ ih.1, List.mem_cons_of_mem _ ih.2⟩

theorem Alike.refl : ∀ xs : List Char, Alike xs xs
  | [] => Alike.nil
  | c :: xs => Alike.same c (Alike.refl xs)

theorem Alike.length_eq (h : Alike xs ys) : xs.length = ys.length := by
  induction h with
  | nil => rfl
  | same c _ ih => exact congrArg Nat.succ ih
  | hidden _ _ _ _ ih => exact congrArg Nat.succ ih

theorem Alike.append (h : Alike xs ys) (h' : Alike as bs) : Alike (xs ++ as) (ys ++ bs) := by
  induction h with
  | nil => exact h'
  | same c _ ih => exact Alike.same c ih
  | hidden hx hy hs _ ih => exact Alike.hidden hx hy (hs.append as bs) ih

theorem Alike.drop (h : Alike xs ys) (n : Nat) : Alike (xs.drop n) (ys.drop n) := by
  induction h generalizing n with
  | nil => rw [List.drop_nil]; exact Alike.nil
  | same c h ih =>
    cases n with
    | zero => exact Alike.same c h
    | succ n => exact ih n
  | hidden hx hy hs h ih =>
    cases n with
    | zero => exact Alike.hidden hx hy hs h
    | succ n => exact ih n

/-- Skipping terminators stops at the same cell. -/
theorem Alike.dropWhile (h : Alike xs ys) :
    Alike (xs.dropWhile isTerm) (ys.dropWhile isTerm) := by
  induction h with
  | nil => exact Alike.nil
  | same c h ih =>
    rw [List.dropWhile_cons, List.dropWhile_cons]
    split
    · exact ih
    · exact Alike.same c h
  | hidden hx hy hs h _ =>
    rw [List.dropWhile_cons_of_neg (by simp [hx]), List.dropWhile_cons_of_neg (by simp [hy])]
    exact Alike.hidden hx hy hs h

theorem Alike.nul_mem_iff (h : Alike xs ys) : nul ∈ xs ↔ nul ∈ ys := by
  induction h with
  | nil => exact Iff.rfl
  | same c _ ih => rw [List.mem_cons, List.mem_cons, ih]
  | hidden _ _ hs _ _ =>
    exact iff_of_true (List.mem_cons_of_mem _ hs.nul_mem.1) (List.mem_cons_of_mem _ hs.nul_mem.2)

/-- An echo gets through from both, or from neither. -/
theorem Alike.echoText (h : Alike xs ys) (mEcho : Bool) :
    Option.Rel (fun _ _ => True) (echoText mEcho xs) (echoText mEcho ys) := by
  unfold Sim.echoText
  cases mEcho with
  | false => exact Option.Rel.some trivial
  | true =>
    rw [if_pos rfl, if_pos rfl]
    by_cases hnul : nul ∈ xs
    · rw [if_pos hnul, if_pos (h.nul_mem_iff.mp hnul)]
      exact Option.Rel.some trivial
    · rw [if_neg hnul, if_neg fun hmem => hnul (h.nul_mem_iff.mpr hmem)]
      exact Option.Rel.none

/-- Two searches end in the same way: both at the same place, or both without a
match. -/
inductive SameScan : Scan → Scan → Prop where
  | found (before : List Char) {r r' : List Char} :
      Alike r r' → SameScan (.found before r) (.found before r')
  | absent : SameScan .absent .absent
  | overrun : SameScan .overrun .overrun

theorem SameScan.push {a b : Scan} (h : SameScan a b) (c : Char) :
    SameScan (a.push c) (b.push c) := by
  cases h with
  | found before h => exact SameScan.found (c :: before) h
  | absent => exact SameScan.absent
  | overrun => exact SameScan.overrun

theorem isTerm_cr_ne {c : Char} (h : isTerm c = false) : c ≠ '\r' := by
  rintro rfl
  cases h

/-- **A search ends the same way**, and finds the same text. -/
theorem Alike.scan (h : Alike xs ys) : SameScan (scan '\r' xs) (scan '\r' ys) := by
  induction h with
  | nil => exact SameScan.overrun
  | same c h ih =>
    rw [CLib.scan, CLib.scan]
    split
    · exact SameScan.found [] (Alike.same c h)
    · split
      · exact SameScan.absent
      · exact ih.push c
  | hidden hx hy hs _ _ =>
    rw [CLib.scan, CLib.scan, if_neg (isTerm_cr_ne hx), if_neg (isTerm_cr_ne hy), hs.scan.1,
      hs.scan.2]
    have hpush : ∀ d, Scan.push d .absent = .absent := fun _ => rfl
    rw [hpush, hpush, ite_self, ite_self]
    exact SameScan.absent

/-- Texts without terminators, with a NUL behind them. -/
theorem alike_of_terms : ∀ {xs ys : List Char}, xs.length = ys.length →
    (∀ c ∈ xs, isTerm c = false) → (∀ c ∈ ys, isTerm c = false) →
    Shield (xs ++ [nul]) (ys ++ [nul]) ∧ Alike (xs ++ [nul]) (ys ++ [nul])
  | [], [], _, _, _ => ⟨Shield.both .., Alike.refl _⟩
  | x :: xs, y :: ys, hlen, hx, hy => by
    obtain ⟨hs, ha⟩ := alike_of_terms (Nat.succ.inj hlen)
      (fun c hc => hx c (List.mem_cons_of_mem _ hc)) (fun c hc => hy c (List.mem_cons_of_mem _ hc))
    have hxt := hx x (List.mem_cons_self ..)
    have hyt := hy y (List.mem_cons_self ..)
    exact ⟨Shield.cons (isTerm_cr_ne hxt) (isTerm_cr_ne hyt) hs, Alike.hidden hxt hyt hs ha⟩

end Arrays

/-! ## Ports that cannot be told apart -/

/-- Two ports that the current client cannot tell apart. The next read
overwrites the cell at `readbuf_pos`. -/
structure Related (p q : FDSimPort) : Prop where
  connected : p.connected = q.connected
  pos : p.readbufPos = q.readbufPos
  pending : p.pending = q.pending
  behind : Alike (p.leftover 1) (q.leftover 1)

/-- What two calls return that cannot be told apart: the ports, and the line. -/
def SameRead (r r' : Option (FDSimPort × LineRead)) : Prop :=
  Option.Rel (fun a b => Related a.1 b.1 ∧ a.2.line = b.2.line) r r'

section Steps

variable {p q : FDSimPort} {bs : List Char}

theorem Related.connect (h : Related p q) (conn : Int) :
    Related (p.connect conn) (q.connect conn) := by
  unfold FDSimPort.connect
  rw [← h.connected]
  split
  · exact ⟨rfl, h.pos, h.pending, h.behind⟩
  · exact h

theorem Related.disconnect (h : Related p q) :
    Related { p with connected := 0 } { q with connected := 0 } :=
  ⟨rfl, h.pos, h.pending, h.behind⟩

/-- If two ports cannot be told apart, the cells behind what they have read are
alike. -/
theorem Related.leftover (h : Related p q) {n : Nat} (hn : 0 < n) :
    Alike (p.leftover n) (q.leftover n) := by
  have hdrop : ∀ r : FDSimPort, r.leftover n = (r.leftover 1).drop (n - 1) := by
    intro r
    unfold FDSimPort.leftover
    rw [List.drop_drop]
    congr 1
    omega
  rw [hdrop p, hdrop q]
  exact h.behind.drop _

/-- The arrays of two ports after the same read. -/
theorem Related.stored (h : Related p q) (hbs : bs ≠ [])
    (hfit : p.readbufPos.toNat + bs.length ≤ readbufSize) :
    (p.readbuf.store p.readbufPos.toNat bs).cells = (p.pending ++ bs) ++ p.leftover bs.length ∧
    (q.readbuf.store q.readbufPos.toNat bs).cells = (p.pending ++ bs) ++ q.leftover bs.length ∧
    Alike (p.leftover bs.length) (q.leftover bs.length) := by
  refine ⟨store_pending hfit, ?_, h.leftover (List.length_pos_iff.mpr hbs)⟩
  rw [h.pending]
  exact store_pending (h.pos ▸ hfit)

/-- Two ports that hand out the same line from arrays that are alike. -/
theorem related_takeLine (h : Related p q) {buf buf' : Buffer readbufSize} {done : List Char}
    {tail tail' : List Char} (hcells : buf.cells = done ++ tail)
    (hcells' : buf'.cells = done ++ tail') (htail : Alike tail tail') {received : Int}
    (hdone : received = done.length) (line : List Char) {r r' : List Char} (hr : Alike r r') :
    Option.Rel Related (p.takeLine buf received line r) (q.takeLine buf' received line r') := by
  have hall : Alike buf.cells buf'.cells := by
    rw [hcells, hcells']
    exact (Alike.refl done).append htail
  have hskip := hr.dropWhile
  have hlen := hskip.length_eq
  unfold FDSimPort.takeLine
  generalize r.dropWhile isTerm = s at hskip hlen
  generalize r'.dropWhile isTerm = s' at hskip hlen
  cases hs : s with
  | nil =>
    rw [hs, List.length_nil] at hlen
    obtain rfl := List.eq_nil_of_length_eq_zero hlen.symm
    exact Option.Rel.none
  | cons c rest =>
    cases hs' : s' with
    | nil => rw [hs, hs'] at hlen; cases hlen
    | cons c' rest' =>
      rw [hs, hs'] at hlen
      dsimp only
      rw [← hlen]
      generalize readbufSize - (c :: rest).length = k
      have hmoved : Alike (buf.moveDown k).cells (buf'.moveDown k).cells :=
        (hall.drop k).append (hall.drop (readbufSize - k))
      refine Option.Rel.some ⟨h.connected, rfl, ?_, hmoved.drop _⟩
      -- what is pending has been received in this connection or before in both
      show (buf.cells.drop k ++ _).take (received - k).toNat =
        (buf'.cells.drop k ++ _).take (received - k).toNat
      by_cases hk : k ≤ done.length
      · have hm : (received - k).toNat = (done.drop k).length := by
          rw [List.length_drop]
          omega
        rw [hcells, hcells', List.drop_append_of_le_length hk, List.drop_append_of_le_length hk,
          List.append_assoc, List.append_assoc, hm, List.take_left, List.take_left]
      · have hm : (received - k).toNat = 0 := by omega
        rw [hm, List.take_zero, List.take_zero]

theorem related_takeData (h : Related p q) (mEcho : Bool) (hbs : bs ≠ [])
    (hfits : 0 ≤ p.readbufPos → p.readbufPos.toNat + bs.length ≤ readbufSize) :
    SameRead (p.takeData mEcho bs) (q.takeData mEcho bs) := by
  unfold FDSimPort.takeData SameRead
  rw [← h.pos]
  by_cases hneg : p.readbufPos < 0
  · rw [if_pos hneg, if_pos hneg]
    exact Option.Rel.none
  rw [if_neg hneg, if_neg hneg]
  have hfit := hfits (by omega)
  obtain ⟨hcells, hcells', htail⟩ := h.stored hbs hfit
  rw [← h.pos] at hcells'
  -- the cells are the same up to the first NUL or terminator behind what has been read
  have hall : Alike (p.readbuf.store p.readbufPos.toNat bs).cells
      (q.readbuf.store p.readbufPos.toNat bs).cells := by
    rw [hcells, hcells']
    exact (Alike.refl _).append htail
  have hplen : p.pending.length = p.readbufPos.toNat := by
    unfold FDSimPort.pending
    rw [List.length_take, p.readbuf.size]
    omega
  have hreceived : p.readbufPos + bs.length = ((p.pending ++ bs).length : Nat) := by
    rw [List.length_append, hplen]
    omega
  dsimp only
  have hecho := (hall.drop p.readbufPos.toNat).echoText mEcho
  generalize echoText mEcho _ = e at hecho
  generalize echoText mEcho _ = e' at hecho
  cases hecho with
  | none => exact Option.Rel.none
  | some _ =>
    dsimp only
    have hscan := hall.scan
    generalize scan '\r' (p.readbuf.store p.readbufPos.toNat bs).cells = a at hscan
    generalize scan '\r' (q.readbuf.store p.readbufPos.toNat bs).cells = b at hscan
    -- what the search for `\r` finds is the same in both arrays
    cases hscan with
    | overrun => exact Option.Rel.none
    | absent =>
      refine Option.Rel.some ⟨⟨h.connected, rfl, ?_, ?_⟩, rfl⟩
      · show List.take _ _ = List.take _ _
        rw [hcells, hcells', hreceived, Int.toNat_natCast, List.take_left, List.take_left]
      · exact hall.drop _
    | found before hr =>
      have hline := related_takeLine h hcells hcells' htail hreceived before hr
      dsimp only
      generalize p.takeLine _ _ _ _ = a at hline
      generalize q.takeLine _ _ _ _ = b at hline
      cases hline with
      | none => exact Option.Rel.none
      | some hrel => exact Option.Rel.some ⟨hrel, rfl⟩

/-- One call of `readLine` on ports that cannot be told apart: it returns the
same, and they still cannot. -/
theorem related_readLine (h : Related p q) (poll : Poll)
    (hfits : 0 ≤ p.readbufPos → poll.result.bytes ≠ [] →
      p.readbufPos.toNat + poll.result.bytes.length ≤ readbufSize) :
    SameRead (p.readLine poll) (q.readLine poll) := by
  have hconn := h.connect poll.conn
  unfold FDSimPort.readLine
  rw [← h.connected]
  split
  · exact Option.Rel.some ⟨hconn, rfl⟩
  · cases hres : poll.result with
    | eagain => exact Option.Rel.some ⟨hconn, rfl⟩
    | error => exact Option.Rel.some ⟨hconn.disconnect, rfl⟩
    | data bs =>
      cases bs with
      | nil => exact Option.Rel.some ⟨hconn.disconnect, rfl⟩
      | cons b bs =>
        refine related_takeData hconn poll.mEcho (List.cons_ne_nil b bs) ?_
        rw [hres] at hfits
        rw [connect_readbufPos]
        exact fun hpos => hfits hpos (List.cons_ne_nil b bs)

/-- A read from the socket asks for no more than fits behind the position, so
what it returns fits, too. -/
theorem readSocket_fits (p : FDSimPort) (unread : List Char) (hpos : 0 ≤ p.readbufPos) :
    (readSocket p.space unread).bytes ≠ [] →
      p.readbufPos.toNat + (readSocket p.space unread).bytes.length ≤ readbufSize := by
  unfold readSocket
  intro hne
  split at hne
  · exact absurd rfl hne
  · split at hne
    · exact absurd rfl hne
    · next hspace hunread =>
      have hlen : (unread.take p.space).length ≤ p.space := List.length_take_le ..
      rw [if_neg hspace, if_neg hunread]
      show p.readbufPos.toNat + (unread.take p.space).length ≤ readbufSize
      have hspace' : p.space = ((readbufSize : Int) - p.readbufPos).toNat := rfl
      omega

/-- **A whole connection** returns the same lines. -/
theorem related_sessionLines (fd : Int) (as : List Arrival) : ∀ {p q : FDSimPort}
    (unread : List Char), Related p q →
      sessionLines fd p unread as = sessionLines fd q unread as := by
  induction as with
  | nil => intro p q unread _; rfl
  | cons a as ih =>
    intro p q unread h
    have hspace : q.space = p.space := by
      unfold FDSimPort.space
      rw [h.pos]
    have hread := related_readLine h ⟨a.mEcho, fd, readSocket p.space (unread ++ a.bytes)⟩
      (readSocket_fits p _)
    rw [sessionLines, sessionLines, hspace]
    unfold SameRead at hread
    generalize p.readLine _ = r at hread
    generalize q.readLine _ = r' at hread
    cases hread with
    | none => rfl
    | @some r r' hrel =>
      obtain ⟨p', o⟩ := r
      obtain ⟨q', o'⟩ := r'
      obtain ⟨hrel, hline⟩ := hrel
      dsimp only at hrel hline ⊢
      rw [hline, hrel.connected, ih _ hrel]

/-- A clean array, from its second cell on, has no terminator in it, and a NUL
in its last cell. -/
theorem Clean.tail_eq (h : Clean p) : ∃ init, p.readbuf.cells.tail = init ++ [nul] ∧
    init.length = readbufSize - 2 ∧ ∀ c ∈ init, isTerm c = false := by
  have hsize := p.readbuf.size
  have hlen : p.readbuf.cells.tail.length = readbufSize - 1 := by rw [List.length_tail, hsize]
  have hlast : p.readbuf.cells.tail.getLast? = some nul := by
    have hdrop : p.readbuf.cells.tail = p.readbuf.cells.drop 1 := List.drop_one.symm
    rw [hdrop, List.getLast?_drop, if_neg (by rw [hsize]; decide)]
    exact h.last
  obtain ⟨init, hinit⟩ := List.getLast?_eq_some_iff.mp hlast
  refine ⟨init, hinit, ?_, fun c hc => h.terms c (hinit ▸ List.mem_append_left _ hc)⟩
  rw [hinit, List.length_append, List.length_singleton] at hlen
  omega

/-- Two ports whose arrays are clean cannot be told apart by any client, if both
or neither of them is connected. -/
theorem related_of_clean (hp : Clean p) (hq : Clean q) (hconnected : p.connected = q.connected) :
    Related p q := by
  obtain ⟨init, hinit, hlen, hterms⟩ := hp.tail_eq
  obtain ⟨init', hinit', hlen', hterms'⟩ := hq.tail_eq
  have hleft : ∀ {r : FDSimPort}, Clean r → r.leftover 1 = r.readbuf.cells.tail := by
    intro r hr
    unfold FDSimPort.leftover
    rw [hr.pos]
    exact List.drop_one
  refine ⟨hconnected, hp.pos.trans hq.pos.symm, ?_, ?_⟩
  · unfold FDSimPort.pending
    rw [hp.pos, hq.pos]
    rfl
  · rw [hleft hp, hleft hq, hinit, hinit']
    exact (alike_of_terms (hlen.trans hlen'.symm) hterms hterms').2

end Steps

/-! ## Texts that show what is left -/

section Shows

variable {p : FDSimPort} {bs : List Char} {fd : Int}

/-- A delivery that goes to the front of the array: what is searched for a
terminator is that, and the cells that were behind it. -/
theorem takeData_zero (hpos : p.readbufPos = 0) (hlen : bs.length ≤ readbufSize) :
    p.takeData false bs =
      match scan '\r' (bs ++ p.readbuf.cells.drop bs.length) with
      | .overrun => none
      | .absent => some ({ p with readbuf := p.readbuf.store 0 bs, readbufPos := bs.length },
          ⟨none, []⟩)
      | .found line lineend =>
        (p.takeLine (p.readbuf.store 0 bs) bs.length line lineend).map fun p' =>
          (p', ⟨some line, []⟩) := by
  have hcells : (p.readbuf.store 0 bs).cells = bs ++ p.readbuf.cells.drop bs.length := by
    rw [Buffer.store_cells (by omega), Nat.zero_add]
    rfl
  unfold FDSimPort.takeData
  rw [if_neg (by omega), hpos, Int.toNat_zero, Int.zero_add, ← hcells]
  rfl

/-- What a delivery can do: the search ends at a NUL and the bytes stay, or a line
is taken and what stands behind its terminators moves to the front. -/
theorem takeData_cases {mEcho : Bool} {p' : FDSimPort} {o : LineRead}
    (h : p.takeData mEcho bs = some (p', o)) : p'.connected = p.connected ∧
      (scan '\r' (p.readbuf.store p.readbufPos.toNat bs).cells = .absent ∧ o.line = none ∧
          p'.readbuf = p.readbuf.store p.readbufPos.toNat bs ∨
        ∃ line lineend c rest, o.line = some line ∧
          scan '\r' (p.readbuf.store p.readbufPos.toNat bs).cells = .found line lineend ∧
          lineend.dropWhile isTerm = c :: rest ∧
          p'.readbuf = (p.readbuf.store p.readbufPos.toNat bs).moveDown
            (readbufSize - (c :: rest).length)) := by
  unfold FDSimPort.takeData at h
  -- the read fits, the echo ends, and the search for `\r` ends too
  split at h
  · cases h
  dsimp only at h
  split at h
  · cases h
  split at h
  · cases h
  · next hs =>
    obtain ⟨rfl, rfl⟩ := Prod.mk.inj (Option.some.inj h)
    exact ⟨rfl, Or.inl ⟨hs, rfl, rfl⟩⟩
  · next line lineend hs =>
    obtain ⟨u, hu, heq⟩ := Option.map_eq_some_iff.mp h
    obtain ⟨rfl, rfl⟩ := Prod.mk.inj heq
    unfold FDSimPort.takeLine at hu
    split at hu
    · cases hu
    · next c rest hd =>
      obtain rfl := Option.some.inj hu
      exact ⟨rfl, Or.inr ⟨line, lineend, c, rest, rfl, hs, hd, rfl⟩⟩

/-- The lines of a session whose next bytes fit the array: those of the first
delivery, and those of the rest of the session. -/
theorem sessionLines_cons (hfd : 0 < fd) (hne : bs ≠ []) (hlen : bs.length ≤ p.space)
    (as : List Arrival) :
    sessionLines fd p [] (⟨false, bs⟩ :: as) =
      match (p.connect fd).takeData false bs with
      | none => none
      | some (p', o) => (sessionLines fd p' [] as).map (o.line.toList ++ ·) := by
  obtain ⟨b, bs', rfl⟩ := List.exists_cons_of_ne_nil hne
  have hspace : p.space ≠ 0 := by
    rw [List.length_cons] at hlen
    omega
  -- a read that has room for all of the bytes returns them in one piece
  have hread : readSocket p.space ([] ++ b :: bs') = .data (b :: bs') := by
    unfold readSocket
    rw [List.nil_append, if_neg hspace, if_neg (List.cons_ne_nil b bs'),
      List.take_of_length_le hlen]
  have hline : p.readLine ⟨false, fd, .data (b :: bs')⟩ =
      (p.connect fd).takeData false (b :: bs') := by
    unfold FDSimPort.readLine
    rw [if_neg (by dsimp only; omega)]
  have hconnected : (p.connect fd).connected ≠ 0 := by
    unfold FDSimPort.connect
    split
    · dsimp only
      omega
    · next h => exact h
  rw [sessionLines, hread, hline]
  cases hdata : (p.connect fd).takeData false (b :: bs') with
  | none => rfl
  | some r =>
    obtain ⟨p', o⟩ := r
    dsimp only
    rw [if_neg (by rw [(takeData_cases hdata).1]; exact hconnected), List.nil_append,
      List.drop_of_length_le hlen]

/-- A port whose position is in front of its array has no lines to give: its
first byte would be stored outside. -/
theorem sessionLines_neg (hfd : 0 < fd) (hpos : p.readbufPos < 0) (c : Char) (as : List Arrival) :
    sessionLines fd p [] (⟨false, [c]⟩ :: as) = none := by
  have hspace : [c].length ≤ p.space := by
    unfold FDSimPort.space
    show 1 ≤ _
    omega
  rw [sessionLines_cons hfd (List.cons_ne_nil c []) hspace]
  unfold FDSimPort.takeData
  rw [connect_readbufPos, if_pos hpos]

/-- A text without a `\r` and without a NUL: the search goes on behind it. -/
theorem takeData_text (hpos : p.readbufPos = 0) (hlen : bs.length ≤ readbufSize)
    (hbs : ∀ c ∈ bs, c ≠ nul ∧ c ≠ '\r') :
    p.takeData false bs =
      match scan '\r' (p.readbuf.cells.drop bs.length) with
      | .overrun => none
      | .absent => some ({ p with readbuf := p.readbuf.store 0 bs, readbufPos := bs.length },
          ⟨none, []⟩)
      | .found line lineend =>
        (p.takeLine (p.readbuf.store 0 bs) bs.length (bs ++ line) lineend).map fun p' =>
          (p', ⟨some (bs ++ line), []⟩) := by
  rw [takeData_zero hpos hlen,
    scan_of_not_mem (fun h => (hbs _ h).1 rfl) (fun h => (hbs _ h).2 rfl), foldr_push]
  cases scan '\r' (p.readbuf.cells.drop bs.length) <;> rfl

/-- A text of letters, as many as one likes, has no NUL and no carriage return
in it. -/
theorem letters (n : Nat) : ∀ c ∈ List.replicate n 'a', c ≠ nul ∧ c ≠ '\r' := by
  intro c hc
  obtain rfl := List.eq_of_mem_replicate hc
  decide

theorem connect_readbuf (p : FDSimPort) (conn : Int) : (p.connect conn).readbuf = p.readbuf := by
  unfold FDSimPort.connect
  split <;> rfl

/-- A search behind the first cell of a clean array ends at a NUL. -/
theorem Clean.scan_drop (h : Clean p) {n : Nat} (hn : 0 < n) (hle : n < readbufSize) :
    scan '\r' (p.readbuf.cells.drop n) = .absent := by
  refine (scan_eq_absent (by decide) _).mpr ⟨?_, fun hmem => ?_⟩
  · refine List.mem_of_getLast? (l := p.readbuf.cells.drop n) ?_
    rw [List.getLast?_drop, if_neg (by rw [p.readbuf.size]; omega)]
    exact h.last
  · have hdrop := (List.takeWhile_sublist _).subset hmem
    obtain ⟨m, rfl⟩ : ∃ m, n = 1 + m := ⟨n - 1, by omega⟩
    rw [← List.drop_drop, List.drop_one] at hdrop
    exact absurd (h.terms _ (List.mem_of_mem_drop hdrop)) (by decide)

/-- At position 0 the whole array is offered to a read. -/
theorem space_zero (hpos : p.readbufPos = 0) : p.space = readbufSize := by
  unfold FDSimPort.space
  rw [hpos]
  rfl

/-- What a connection that sends letters gives. -/
theorem sessionLines_letters (hfd : 0 < fd) (hpos : p.readbufPos = 0) {n : Nat} (hn : 0 < n)
    (hle : n < readbufSize) :
    sessionLines fd p [] [⟨false, List.replicate n 'a'⟩] =
      match scan '\r' (p.readbuf.cells.drop n) with
      | .overrun => none
      | .absent => some []
      | .found line lineend =>
        ((p.connect fd).takeLine (p.readbuf.store 0 (List.replicate n 'a')) n
          (List.replicate n 'a' ++ line) lineend).map fun _ => [List.replicate n 'a' ++ line] := by
  have hlen : (List.replicate n 'a').length = n := List.length_replicate
  have hne : List.replicate n 'a' ≠ [] := by
    rw [← List.length_pos_iff, hlen]
    exact hn
  rw [sessionLines_cons hfd hne (by rw [hlen, space_zero hpos]; omega), takeData_text (by
    rw [connect_readbufPos]; exact hpos) (by omega) (letters n), connect_readbuf, hlen]
  cases scan '\r' (p.readbuf.cells.drop n) with
  | overrun => rfl
  | absent => rfl
  | found line lineend =>
    dsimp only
    cases (p.connect fd).takeLine (p.readbuf.store 0 (List.replicate n 'a')) n
      (List.replicate n 'a' ++ line) lineend <;> rfl

/-- **An old `\r`** ends a line of letters that is not finished. -/
theorem shows_cr (hfd : 0 < fd) (hpos : p.readbufPos = 0) {n : Nat} (hn : 0 < n)
    (hle : n < readbufSize) (hcr : p.readbuf.cells[n]? = some '\r') :
    sessionLines fd p [] [⟨false, List.replicate n 'a'⟩] ≠ some [] := by
  rw [sessionLines_letters hfd hpos hn hle]
  obtain ⟨hlt, hget⟩ := List.getElem?_eq_some_iff.mp hcr
  rw [List.drop_eq_getElem_cons hlt, hget, scan, if_pos rfl]
  dsimp only
  intro h
  obtain ⟨p', -, hline⟩ := Option.map_eq_some_iff.mp h
  cases hline

/-- **A last cell in use** lets the search for the end of a line leave the array. -/
theorem shows_last (hfd : 0 < fd) (hpos : p.readbufPos = 0) {c : Char}
    (hlast : p.readbuf.cells.getLast? = some c) (hnul : c ≠ nul) (hcr : c ≠ '\r') :
    sessionLines fd p [] [⟨false, List.replicate (readbufSize - 1) 'a'⟩] ≠ some [] := by
  rw [sessionLines_letters hfd hpos (by decide) (by decide)]
  obtain ⟨init, hinit⟩ := List.getLast?_eq_some_iff.mp hlast
  have hsize := p.readbuf.size
  rw [hinit, List.length_append, List.length_singleton] at hsize
  have hinitlen : init.length = readbufSize - 1 := by omega
  rw [hinit, ← hinitlen, List.drop_left, scan, if_neg hcr, if_neg hnul]
  intro h
  cases h

/-- A line of `n` bytes, all of them letters but the last. -/
def lettersLine (n : Nat) : List Char := List.replicate (n - 1) 'a' ++ ['\r']

theorem lettersLine_length {n : Nat} (hn : 0 < n) : (lettersLine n).length = n := by
  rw [lettersLine, List.length_append, List.length_replicate, List.length_singleton]
  omega

theorem lettersLine_ne_nil (n : Nat) : lettersLine n ≠ [] :=
  List.append_ne_nil_of_right_ne_nil _ (List.cons_ne_nil _ _)

theorem takeData_lettersLine (hpos : p.readbufPos = 0) {n : Nat} (hn : 0 < n)
    (hle : n < readbufSize) :
    p.takeData false (lettersLine n) =
      (p.takeLine (p.readbuf.store 0 (lettersLine n)) n (List.replicate (n - 1) 'a')
        ('\r' :: p.readbuf.cells.drop n)).map fun p' =>
          (p', ⟨some (List.replicate (n - 1) 'a'), []⟩) := by
  have hlen := lettersLine_length hn
  have hstop : ∀ c ∈ List.replicate (n - 1) 'a', (c != '\r') = true := fun c hc => by
    simpa using (letters _ c hc).2
  have hnul : nul ∉ lettersLine n := by
    intro hmem
    rcases List.mem_append.mp hmem with hmem | hmem
    · exact (letters _ _ hmem).1 rfl
    · exact absurd (List.mem_singleton.mp hmem) (by decide)
  have hscan : scan '\r' (lettersLine n ++ p.readbuf.cells.drop n) =
      .found (List.replicate (n - 1) 'a') ('\r' :: p.readbuf.cells.drop n) := by
    rw [scan_of_mem hnul (List.mem_append_right _ (List.mem_singleton_self _)), lettersLine,
      List.takeWhile_append_of_pos hstop, List.dropWhile_append_of_pos hstop]
    simp
  rw [takeData_zero hpos (by omega), hlen, hscan]

/-- A NUL in the last cell ends every search, so a delivery that leaves it there
has an outcome. -/
theorem takeData_isSome (hpos : p.readbufPos = 0) (hlast : p.readbuf.cells.getLast? = some nul)
    (bs : List Char) (hlen : bs.length < readbufSize) : ∃ r, p.takeData false bs = some r := by
  have hend : (bs ++ p.readbuf.cells.drop bs.length).getLast? = some nul := by
    rw [List.getLast?_append, List.getLast?_drop, if_neg (by rw [p.readbuf.size]; omega), hlast]
    rfl
  rw [takeData_zero hpos (by omega)]
  cases hs : scan '\r' (bs ++ p.readbuf.cells.drop bs.length) with
  | overrun => exact absurd hs (scan_ne_overrun (List.mem_of_getLast? hend))
  | absent => exact ⟨_, rfl⟩
  | found line lineend =>
    -- the NUL is no terminator, so it stops the skipping too
    obtain ⟨hsplit, hhead⟩ := scan_eq_found hs
    have hmem : nul ∈ lineend := by
      rw [hsplit, List.getLast?_append] at hend
      cases hl : lineend.getLast? with
      | none =>
        rw [List.getLast?_eq_none_iff.mp hl] at hhead
        cases hhead
      | some c =>
        rw [hl] at hend
        obtain rfl := Option.some.inj hend
        exact List.mem_of_getLast? hl
    have hne : lineend.dropWhile isTerm ≠ [] := fun hnil =>
      absurd (List.dropWhile_eq_nil_iff.mp hnil nul hmem) (by decide)
    dsimp only
    unfold FDSimPort.takeLine
    cases hd : lineend.dropWhile isTerm with
    | nil => exact absurd hd hne
    | cons c rest => exact ⟨_, rfl⟩

/-- **An old `\n`** behind a line is taken off with it. -/
theorem shows_lf (hfd : 0 < fd) (hpos : p.readbufPos = 0) {n : Nat} (hn : 0 < n)
    (hle : n < readbufSize) (hlf : p.readbuf.cells[n]? = some '\n') :
    sessionLines fd p [] [⟨false, lettersLine n⟩, ⟨false, ['a']⟩] = none := by
  have hlen := lettersLine_length hn
  obtain ⟨hlt, hget⟩ := List.getElem?_eq_some_iff.mp hlf
  have hsize := p.readbuf.size
  have hskip : (n : Int) + (('\r' :: p.readbuf.cells.drop n).dropWhile isTerm).length <
      readbufSize := by
    have hshort : (('\r' :: p.readbuf.cells.drop n).dropWhile isTerm).length ≤
        (p.readbuf.cells.drop (n + 1)).length := by
      rw [List.drop_eq_getElem_cons hlt, hget, List.dropWhile_cons_of_pos (by decide),
        List.dropWhile_cons_of_pos (by decide)]
      exact List.length_dropWhile_le ..
    rw [List.length_drop] at hshort
    omega
  rw [sessionLines_cons hfd (lettersLine_ne_nil n) (by rw [hlen, space_zero hpos]; omega),
    takeData_lettersLine (by rw [connect_readbufPos]; exact hpos) hn hle, connect_readbuf]
  rcases takeLine_neg (p := p.connect fd) (List.replicate (n - 1) 'a') []
    (p.readbuf.store 0 (lettersLine n)) (Or.inr hskip) with hnone | ⟨p', o, hsome, hneg⟩
  · rw [hnone]
  · rw [hsome]
    dsimp only
    rw [sessionLines_neg hfd hneg]
    rfl

/-- On a clean port the line is taken, and the letter behind it read. -/
theorem Clean.line_lines (h : Clean p) (hfd : 0 < fd) {n : Nat} (hn : 0 < n)
    (hle : n < readbufSize) :
    sessionLines fd p [] [⟨false, lettersLine n⟩, ⟨false, ['a']⟩] ≠ none := by
  have hlen := lettersLine_length hn
  have hsize := p.readbuf.size
  have hcells : (p.readbuf.store 0 (lettersLine n)).cells =
      lettersLine n ++ p.readbuf.cells.drop n := by
    rw [Buffer.store_cells (by omega), Nat.zero_add, hlen]
    rfl
  have hlt : n < p.readbuf.cells.length := by omega
  -- the cell behind the line stops the skipping
  have hterm : isTerm p.readbuf.cells[n] = false := by
    obtain ⟨m, rfl⟩ : ∃ m, n = m + 1 := ⟨n - 1, by omega⟩
    refine h.terms _ (List.mem_of_getElem? (i := m) ?_)
    rw [List.getElem?_tail, List.getElem?_eq_getElem hlt]
  have hskip : ('\r' :: p.readbuf.cells.drop n).dropWhile isTerm = p.readbuf.cells.drop n := by
    rw [List.drop_eq_getElem_cons hlt, List.dropWhile_cons_of_pos (by decide),
      List.dropWhile_cons_of_neg (by simp [hterm])]
  have hne : p.readbuf.cells.drop n ≠ [] := by
    rw [List.drop_eq_getElem_cons hlt]
    exact List.cons_ne_nil _ _
  have htake := takeLine_eq (p := p.connect fd) (List.replicate (n - 1) 'a')
    (p.readbuf.store 0 (lettersLine n)) hcells hskip hne n
  rw [hlen] at htake
  rw [sessionLines_cons hfd (lettersLine_ne_nil n) (by rw [hlen, space_zero h.pos]; omega),
    takeData_lettersLine (by rw [connect_readbufPos]; exact h.pos) hn hle, connect_readbuf, htake]
  dsimp only [Option.map_some]
  generalize hp' : FDSimPort.mk .. = p'
  have hpos : p'.readbufPos = 0 := by
    rw [← hp']
    exact Int.sub_self _
  have hlast : p'.readbuf.cells.getLast? = some nul := by
    rw [← hp']
    show (_ ++ (p.readbuf.store 0 (lettersLine n)).cells.drop (readbufSize - n)).getLast? = _
    rw [hcells, List.getLast?_append, List.getLast?_drop, List.getLast?_append, List.getLast?_drop,
      if_neg (by simp; omega), if_neg (by omega), h.last]
    rfl
  rw [sessionLines_cons hfd (List.cons_ne_nil 'a' []) (by rw [space_zero hpos]; decide)]
  obtain ⟨⟨q, o⟩, hq⟩ := takeData_isSome (p := p'.connect fd)
    (by rw [connect_readbufPos]; exact hpos) (by rw [connect_readbuf]; exact hlast) ['a']
    (by decide)
  rw [hq]
  exact nofun

/-- On a clean port letters without a `\r` give no line. -/
theorem Clean.no_lines (h : Clean p) (hfd : 0 < fd) {n : Nat} (hn : 0 < n)
    (hle : n < readbufSize) : sessionLines fd p [] [⟨false, List.replicate n 'a'⟩] = some [] := by
  rw [sessionLines_letters hfd h.pos hn hle, h.scan_drop hn hle]

/-- On a clean port a single `\r` gives the empty line. -/
theorem Clean.empty_line (h : Clean p) (hfd : 0 < fd) :
    sessionLines fd p [] [⟨false, ['\r']⟩] = some [[]] := by
  have hpos : (p.connect fd).readbufPos = 0 := by
    rw [connect_readbufPos]
    exact h.pos
  have hline := takeData_lettersLine hpos (n := 1) Nat.one_pos (by decide)
  obtain ⟨r, hr⟩ := takeData_isSome hpos
    (by rw [connect_readbuf]; exact h.last) ['\r'] (by decide)
  rw [sessionLines_cons hfd (List.cons_ne_nil _ _) (by rw [space_zero h.pos]; decide), hr]
  change _ = some r at hr
  rw [show ['\r'] = lettersLine 1 from rfl, hline] at hr
  obtain ⟨p', -, rfl⟩ := Option.map_eq_some_iff.mp hr
  rfl

/-- **Bytes that are pending** stand before the next client's `\r`, or leave
it no space. -/
theorem shows_pending (hfd : 0 < fd) (hpos : 0 < p.readbufPos)
    (hhead : p.readbuf.cells.head? ≠ some '\r') :
    sessionLines fd p [] [⟨false, ['\r']⟩] ≠ some [[]] := by
  by_cases hspace : p.space = 0
  · -- the read returns 0, and the port closes the connection
    have hread : readSocket p.space ([] ++ ['\r']) = .data [] := if_pos hspace
    have hline : p.readLine ⟨false, fd, .data []⟩ =
        some ({ p.connect fd with connected := 0 }, ⟨none, []⟩) := by
      unfold FDSimPort.readLine
      rw [if_neg (by dsimp only; omega)]
    rw [sessionLines, hread, hline]
    exact nofun
  · rw [sessionLines_cons hfd (List.cons_ne_nil '\r' []) (Nat.pos_of_ne_zero hspace)]
    have hstart : ((p.connect fd).readbuf.store p.readbufPos.toNat ['\r']).cells.head? ≠
        some '\r' := by
      have hfit : p.readbufPos.toNat + ['\r'].length ≤ readbufSize := by
        have hdef : p.space = ((readbufSize : Int) - p.readbufPos).toNat := rfl
        show p.readbufPos.toNat + 1 ≤ _
        omega
      obtain ⟨m, hm⟩ : ∃ m, p.readbufPos.toNat = m + 1 := ⟨p.readbufPos.toNat - 1, by omega⟩
      have hsize := p.readbuf.size
      rw [connect_readbuf, Buffer.store_cells hfit, hm]
      cases hcells : p.readbuf.cells with
      | nil => rw [hcells] at hsize; cases hsize
      | cons c cs =>
        rw [hcells] at hhead
        exact hhead
    cases hdata : (p.connect fd).takeData false ['\r'] with
    | none =>
      intro h
      cases h
    | some r =>
      obtain ⟨p', o⟩ := r
      show some (o.line.toList ++ []) ≠ _
      rcases (takeData_cases hdata).2 with ⟨-, hline, -⟩ | ⟨line, lineend, c, rest, hline, hs, -, -⟩
      · rw [hline]
        intro h
        cases h
      · -- a line from before the `\r`
        rw [hline]
        rw [connect_readbufPos] at hs
        obtain ⟨hsplit, hcr⟩ := scan_eq_found hs
        intro h
        obtain rfl := (List.cons.inj (Option.some.inj h)).1
        rw [List.nil_append] at hsplit
        exact hstart (hsplit ▸ hcr)

end Shows

/-! ## What a port can be left with -/

/-- A delivery never leaves a `\r` in the first cell. -/
theorem head_takeData {p p' : FDSimPort} {mEcho : Bool} {bs : List Char} {o : LineRead}
    (h : p.takeData mEcho bs = some (p', o)) : p'.readbuf.cells.head? ≠ some '\r' := by
  rcases (takeData_cases h).2 with ⟨hs, -, hbuf⟩ | ⟨line, lineend, c, rest, -, hs, hd, hbuf⟩
  · -- it would have been found
    rw [hbuf]
    intro hhead
    obtain ⟨cs, hcs⟩ := List.head?_eq_some_iff.mp hhead
    rw [hcs, scan, if_pos rfl] at hs
    cases hs
  · -- the first character behind the terminators moves there
    rw [hbuf]
    generalize p.readbuf.store p.readbufPos.toNat bs = buf at hs
    have hc : isTerm c = false := by
      have hnot := List.head?_dropWhile_not isTerm lineend
      rw [hd] at hnot
      simpa using hnot
    have hcells : buf.cells = (line ++ lineend.takeWhile isTerm) ++ (c :: rest) := by
      rw [List.append_assoc, ← hd, List.takeWhile_append_dropWhile]
      exact (scan_eq_found hs).1
    have hdrop : buf.cells.drop (readbufSize - (c :: rest).length) = c :: rest := by
      have hsize := buf.size
      rw [hcells, List.length_append] at hsize
      rw [hcells, ← hsize, Nat.add_sub_cancel, List.drop_left]
    show (buf.cells.drop _ ++ _).head? ≠ _
    rw [hdrop]
    intro hhead
    obtain rfl := Option.some.inj hhead
    cases hc

/-- A call of `readLine` does not bring a carriage return to the front of the
array: what it moves there begins behind one. -/
theorem head_readLine {p p' : FDSimPort} {q : Poll} {o : LineRead}
    (h : p.readbuf.cells.head? ≠ some '\r') (hstep : p.readLine q = some (p', o)) :
    p'.readbuf.cells.head? ≠ some '\r' := by
  rw [← connect_readbuf p q.conn] at h
  unfold FDSimPort.readLine at hstep
  split at hstep
  · obtain ⟨rfl, -⟩ := Prod.mk.inj (Option.some.inj hstep)
    exact h
  · split at hstep
    · obtain ⟨rfl, -⟩ := Prod.mk.inj (Option.some.inj hstep)
      exact h
    · obtain ⟨rfl, -⟩ := Prod.mk.inj (Option.some.inj hstep)
      exact h
    · obtain ⟨rfl, -⟩ := Prod.mk.inj (Option.some.inj hstep)
      exact h
    · exact head_takeData hstep

theorem Vacant.head {p : FDSimPort} {qs : List Poll} (h : Vacant p qs) :
    p.readbuf.cells.head? ≠ some '\r' := by
  obtain ⟨os, hrun⟩ := h.reached
  exact run_history (I := fun _ _ p => p.readbuf.cells.head? ≠ some '\r')
    (fun _ _ _ _ _ _ hI hstep => head_readLine hI hstep) (by decide) hrun

/-! ## The condition -/

/-- If two ports give the same lines in every session, and one of them is clean,
so is the other: what is left over shows in some session. -/
theorem clean_of_sessionLines {p₁ p₂ : FDSimPort} {qs : List Poll} (h₂ : Vacant p₂ qs)
    (hclean : Clean p₁)
    (heq : ∀ as, sessionLines 1 p₁ [] as = sessionLines 1 p₂ [] as) : Clean p₂ := by
  have hfd : (0 : Int) < 1 := Int.one_pos
  -- a session of one letter, or of an empty line, shows a position that is not 0
  have hpos : p₂.readbufPos = 0 := by
    rcases Int.lt_trichotomy p₂.readbufPos 0 with hneg | hzero | hpos
    · have hnone := sessionLines_neg hfd hneg 'a' []
      have hlines := hclean.no_lines hfd Nat.one_pos (by decide)
      rw [← heq] at hnone
      exact nomatch hnone.symm.trans hlines
    · exact hzero
    · exact absurd ((heq _).symm.trans (hclean.empty_line hfd)) (shows_pending hfd hpos h₂.head)
  have hsize := p₂.readbuf.size
  -- letters up to a terminator that was left over make a line of it
  have hterms : ∀ c ∈ p₂.readbuf.cells.tail, isTerm c = false := by
    intro c hc
    by_contra hterm
    obtain ⟨m, hm⟩ := List.mem_iff_getElem?.mp hc
    rw [List.getElem?_tail] at hm
    have hlt := (List.getElem?_eq_some_iff.mp hm).1
    rw [hsize] at hlt
    have hcases : c = '\r' ∨ c = '\n' := by
      simpa [isTerm] using (Bool.not_eq_false _).mp hterm
    rcases hcases with rfl | rfl
    · exact shows_cr hfd hpos m.succ_pos hlt hm
        ((heq _).symm.trans (hclean.no_lines hfd m.succ_pos hlt))
    · exact hclean.line_lines hfd m.succ_pos hlt
        ((heq _).trans (shows_lf hfd hpos m.succ_pos hlt hm))
  have hne : p₂.readbuf.cells.tail ≠ [] := by
    rw [← List.length_pos_iff, List.length_tail, hsize]
    decide
  have hlast := List.getLast?_eq_some_getLast hne
  have hwhole : p₂.readbuf.cells.getLast? = some (p₂.readbuf.cells.tail.getLast hne) := by
    rw [← hlast, ← List.drop_one, List.getLast?_drop, if_neg (by rw [hsize]; decide)]
  refine ⟨hpos, hterms, ?_⟩
  -- letters up to the last cell show what is in there, unless it is a NUL
  by_contra hnul
  refine shows_last hfd hpos hwhole (fun h => hnul (hwhole.trans (congrArg some h))) ?_
    ((heq _).symm.trans (hclean.no_lines hfd (by decide) (by decide)))
  exact isTerm_cr_ne (hterms _ (List.getLast_mem hne))

/-- **Connections are isolated exactly while nothing is left behind.** Take two
histories of a port, the first of which leaves it clean. Whatever a client
sends, the lines of its connection are the same after both if and only if the
second leaves the port clean as well. -/
theorem sessions_isolated_iff {p₁ p₂ : FDSimPort} {qs₁ qs₂ : List Poll} (h₁ : Vacant p₁ qs₁)
    (h₂ : Vacant p₂ qs₂) (hclean : Clean p₁) :
    (∀ fd > 0, ∀ as, sessionLines fd p₁ [] as = sessionLines fd p₂ [] as) ↔ Clean p₂ := by
  constructor
  · intro heq
    exact clean_of_sessionLines h₂ hclean (heq 1 Int.one_pos)
  · intro h fd _ as
    have hrel := related_of_clean hclean h (h₁.vacant.trans h₂.vacant.symm)
    exact related_sessionLines fd as [] hrel

/-! ## Two histories -/

theorem init_vacant : Vacant FDSimPort.init [] := ⟨trivial, ⟨[], rfl⟩, rfl⟩

/-- Nothing is pending, and the array is as the constructor leaves it. -/
theorem clean_of_zeroed {p : FDSimPort} (hpos : p.readbufPos = 0)
    (hcells : ∀ c ∈ p.readbuf.cells, c = nul) : Clean p := by
  refine ⟨hpos, fun c hc => ?_, ?_⟩
  · obtain rfl := hcells c (List.mem_of_mem_tail hc)
    rfl
  · have hne : p.readbuf.cells ≠ [] := by
      rw [← List.length_pos_iff, p.readbuf.size]
      decide
    rw [List.getLast?_eq_some_getLast hne, hcells _ (List.getLast_mem hne)]

theorem init_clean : Clean FDSimPort.init :=
  clean_of_zeroed rfl fun _ hc => List.eq_of_mem_replicate hc

/-- A client that goes after a whole command. -/
def wholeCommand : List Poll :=
  [⟨false, 1, .data ['A', 'T', 'Z', '\r']⟩, ⟨false, 1, .data []⟩]

theorem wholeCommand_clean : ∃ p, Vacant p wholeCommand ∧ Clean p := by
  have hend : (run FDSimPort.readLine FDSimPort.init wholeCommand).map
      (fun r => decide (r.1.connected = 0 ∧ r.1.readbufPos = 0 ∧
        r.1.readbuf.cells.all (fun c => c == nul) = true)) = some true := by decide +kernel
  obtain ⟨⟨p, os⟩, hrun, hp⟩ := Option.map_eq_some_iff.mp hend
  obtain ⟨hvacant, hpos, hcells⟩ := of_decide_eq_true hp
  exact ⟨p, ⟨by decide +kernel, ⟨os, hrun⟩, hvacant⟩, clean_of_zeroed hpos fun c hc =>
    eq_of_beq (List.all_eq_true.mp hcells c hc)⟩

/-- The next client sees what it would see on a new port. -/
theorem wholeCommand_isolated : ∃ p, Vacant p wholeCommand ∧
    ∀ fd > 0, ∀ as, sessionLines fd FDSimPort.init [] as = sessionLines fd p [] as := by
  obtain ⟨p, hp, hclean⟩ := wholeCommand_clean
  exact ⟨p, hp, (sessions_isolated_iff init_vacant hp init_clean).mpr hclean⟩

/-- A client that goes after two bytes of a command. -/
def halfCommand : List Poll := [⟨false, 1, .data ['A', 'T']⟩, ⟨false, 1, .data []⟩]

/-- The next client sends `Z`, and is handed `ATZ`. -/
theorem halfCommand_lines : ∃ p, Vacant p halfCommand ∧
    sessionLines 1 p [] [⟨false, ['Z', '\r']⟩] = some [['A', 'T', 'Z']] := by
  have hend : (run FDSimPort.readLine FDSimPort.init halfCommand).map
      (fun r => decide (r.1.connected = 0 ∧
        sessionLines 1 r.1 [] [⟨false, ['Z', '\r']⟩] = some [['A', 'T', 'Z']])) = some true := by
    decide +kernel
  obtain ⟨⟨p, os⟩, hrun, hp⟩ := Option.map_eq_some_iff.mp hend
  obtain ⟨hvacant, hlines⟩ := of_decide_eq_true hp
  exact ⟨p, ⟨by decide +kernel, ⟨os, hrun⟩, hvacant⟩, hlines⟩

/-- Connections are not isolated after every history. -/
theorem sessions_not_isolated :
    ¬ ∀ p₁ p₂ qs₁ qs₂, Vacant p₁ qs₁ → Vacant p₂ qs₂ →
      ∀ fd > 0, ∀ as, sessionLines fd p₁ [] as = sessionLines fd p₂ [] as := by
  intro h
  obtain ⟨p, hp, hlines⟩ := halfCommand_lines
  have hfresh : sessionLines 1 FDSimPort.init [] [⟨false, ['Z', '\r']⟩] = some [['Z']] := by
    decide +kernel
  have heq := h FDSimPort.init p [] halfCommand init_vacant hp 1 Int.one_pos
    [⟨false, ['Z', '\r']⟩]
  rw [hfresh, hlines] at heq
  exact absurd heq (by decide)

end ObdGpsLogger.Sim
