import Mathlib.Data.Stream.Init
import ObdGpsLogger.CLib.Buffer
import ObdGpsLogger.CLib.Scanf

/-!
# A reply from the network

`gen_dosockcmd` and `socket_simgen_getvalue` of
`src/sim/generators/socket/gen_socket.c`: a command goes out, and what comes
back is read until there is a prompt. TCP may cut the reply anywhere.

The pointer that is read to stays at the start of the array, so each piece is
written over the one before, and a `read` that delivers nothing, at the end of
the connection, leaves the loop where it was. `assembles_iff` says which
replies are put together all the same: those that come in one piece, and those
that an error ends.

Mirroring notes:
- `results` are the results of the calls of `read`. The loop gives `none` if
  they are used up and it wants more, and if its `strstr` runs over the end of
  the array.
- `n` is 1024 where `socket_simgen_getvalue` is the caller. The array of a
  caller may hold anything before.
- `written` is what `write` returns.
-/

namespace ObdGpsLogger.Sim

open CLib

/-- The result of a `read` on the socket. -/
inductive Received where
  /-- The read delivered a positive number of bytes. -/
  | chunk (first : Char) (more : List Char)
  /-- The connection has ended: the read returned 0. -/
  | eof
  /-- The read failed: it returned -1. -/
  | error
  deriving DecidableEq, Repr

/-- The bytes that a read has delivered. -/
def Received.bytes : Received → List Char
  | .chunk first more => first :: more
  | .eof => []
  | .error => []

/-- The `while` loop of `gen_dosockcmd`. `curr_ret` is `ret` all along. -/
def readLoop {n : Nat} (ret : Buffer n) (totalread : Nat) :
    List Received → Option (Int × Buffer n)
  | [] => if totalread < n then none else some (totalread, ret)
  | .error :: _ => if totalread < n then some (-1, ret) else some (totalread, ret)
  | nread :: results =>
    if totalread < n then
      match scan '>' (ret.store 0 nread.bytes).cells with
      | .found _ _ =>
        some ((totalread + nread.bytes.length : Nat), ret.store 0 nread.bytes)
      | .absent => readLoop (ret.store 0 nread.bytes) (totalread + nread.bytes.length) results
      | .overrun => none
    else some (totalread, ret)

/-- `gen_dosockcmd`: what it returns, and `ret`. -/
def genDosockcmd {n : Nat} (ret : Buffer n) (cmd : List Char) (written : Int)
    (results : List Received) : Option (Int × Buffer n) :=
  if written ≠ cmd.length then some (-1, ret) else readLoop (Buffer.zeroed n) 0 results

/-- The command that is written, printed with `"%02X %02X\n"`. -/
def getvalueCmd (mode PID : Nat) : List Char :=
  snprintf 32 (fmtX 2 mode ++ ' ' :: fmtX 2 PID ++ ['\n'])

/-- The `sscanf` of `socket_simgen_getvalue`: what it returns, and what is in
`A` to `D`. -/
def decodeReply (retbuf : List Char) : Int × List Nat :=
  let count := (sscanf (hexPairs 6) (cstr retbuf)).ret
  (if count < 2 then 0 else count - 2, (sscanf (hexPairs 6) (cstr retbuf)).vals.drop 2)

/-- `socket_simgen_getvalue`: the value returned and the bytes stored. `none`:
an array is overrun, or the loop does not end. -/
def socketSimgenGetvalue {n : Nat} (retbuf : Buffer n) (mode PID : Nat) (written : Int)
    (results : List Received) : Option (Int × List Nat) :=
  match genDosockcmd retbuf (getvalueCmd mode PID) written results with
  | none => none
  | some (ret, retbuf) => some (if ret = -1 then (-1, []) else decodeReply retbuf.cells)

/-! ## Replies -/

/-- A piece of a reply that does not end it. -/
def Received.goesOn (r : Received) : Prop :=
  r ≠ .eof ∧ r ≠ .error ∧ '>' ∉ r.bytes

/-- None of these reads has ended the reply. -/
def Going (results : List Received) : Prop := ∀ r ∈ results, r.goesOn

/-- All the bytes of some reads, in the order in which they came. -/
def joined (results : List Received) : List Char := results.flatMap Received.bytes

/-- The reads of a reply with fewer than `n` bytes before its prompt, and no
`read` delivers more than it was asked for. -/
structure WithinRet (n : Nat) (reads : Stream' Received) : Prop where
  before : ∀ k, Going (reads.take k) → (joined (reads.take k)).length < n
  asked : ∀ k, Going (reads.take k) → (joined (reads.take (k + 1))).length ≤ n

/-- What ends the reply, be it a prompt, an error or the end of the connection,
ends the loop; and a reply with a prompt is in `ret` as it was sent, and is
decoded as it was sent. -/
def Assembles (n : Nat) (reads : Stream' Received) : Prop :=
  ∃ k, Going (reads.take k) ∧ ¬ (reads.get k).goesOn ∧
    ∀ (any : Buffer n) (cmd : List Char), ∃ ret retbuf,
      genDosockcmd any cmd cmd.length (reads.take (k + 1)) = some (ret, retbuf) ∧
      ('>' ∈ (reads.get k).bytes →
        (∃ zeros, retbuf.cells = joined (reads.take (k + 1)) ++ zeros ∧ ∀ c ∈ zeros, c = nul) ∧
        ∀ mode PID, socketSimgenGetvalue any mode PID (getvalueCmd mode PID).length
          (reads.take (k + 1)) = some (decodeReply (joined (reads.take (k + 1)))))

/-- The whole reply in one piece: the prompt is in it, where `strstr` sees it,
or else it fills the array. -/
def OnePiece (n : Nat) (r : Received) : Prop :=
  '>' ∈ r.bytes ∧ ('>' ∈ cstr r.bytes ∨ r.bytes.length = n)

theorem joined_take_succ (reads : Stream' Received) (k : Nat) :
    joined (reads.take (k + 1)) = joined (reads.take k) ++ (reads.get k).bytes := by
  rw [Stream'.take_succ', joined, List.flatMap_append, List.flatMap_singleton]
  rfl

/-- A piece that lets the loop go on has at least one byte in it. -/
theorem Received.bytes_ne_nil {r : Received} (h : r.goesOn) : r.bytes ≠ [] := by
  cases r with
  | chunk first more => exact List.cons_ne_nil _ _
  | eof => exact absurd rfl h.1
  | error => exact absurd rfl h.2.1

theorem joined_eq_nil {results : List Received} (h : Going results) (hnil : joined results = []) :
    results = [] := by
  rcases results with _ | ⟨r, results⟩
  · rfl
  · have hr := (List.append_eq_nil_iff.mp hnil).1
    exact absurd hr (Received.bytes_ne_nil (h r (List.mem_cons_self ..)))

theorem Going.noPrompt {results : List Received} (h : Going results) : '>' ∉ joined results := by
  intro hp
  obtain ⟨r, hr, hmem⟩ := List.mem_flatMap.mp hp
  exact (h r hr).2.2 hmem

/-- A reply is ended by the end of the file, by an error, or by a piece with a
prompt in it. -/
theorem not_goesOn_cases {r : Received} (h : ¬ r.goesOn) :
    r = .eof ∨ r = .error ∨ '>' ∈ r.bytes := by
  unfold Received.goesOn at h
  tauto

/-! ## The array while the reply goes on -/

/-- No prompt is in the array, and it is zero from `totalread` on: each piece
is written over the ones before, and none reaches farther than all together. -/
structure Unprompted {n : Nat} (ret : Buffer n) (totalread : Nat) : Prop where
  noPrompt : '>' ∉ ret.cells
  tail : ∀ c ∈ ret.cells.drop totalread, c = nul

theorem unprompted_zeroed (n : Nat) : Unprompted (Buffer.zeroed n) 0 := by
  have hzero : ∀ c ∈ (Buffer.zeroed n).cells, c = nul := fun c hc => List.eq_of_mem_replicate hc
  refine ⟨fun hp => ?_, hzero⟩
  exact absurd (hzero _ hp) (by decide)

theorem store_zero_cells {n : Nat} {ret : Buffer n} {bs : List Char} (h : bs.length ≤ n) :
    (ret.store 0 bs).cells = bs ++ ret.cells.drop bs.length := by
  rw [Buffer.store_cells (by omega), Nat.zero_add]
  rfl

theorem Unprompted.store {n : Nat} {ret : Buffer n} {totalread : Nat} {bs : List Char}
    (h : Unprompted ret totalread) (hbs : '>' ∉ bs) (hle : bs.length ≤ n) :
    Unprompted (ret.store 0 bs) (totalread + bs.length) := by
  refine ⟨?_, ?_⟩ <;> rw [store_zero_cells hle]
  · rw [List.mem_append, not_or]
    exact ⟨hbs, fun hp => h.noPrompt (List.mem_of_mem_drop hp)⟩
  · intro c hc
    rw [Nat.add_comm, ← List.drop_drop, List.drop_left, List.drop_drop, Nat.add_comm,
      ← List.drop_drop] at hc
    exact h.tail c (List.mem_of_mem_drop hc)

theorem Unprompted.absent {n : Nat} {ret : Buffer n} {totalread : Nat}
    (h : Unprompted ret totalread) (hlt : totalread < n) : scan '>' ret.cells = .absent := by
  have hlen : 0 < (ret.cells.drop totalread).length := by
    rw [List.length_drop, ret.size]
    omega
  obtain ⟨c, hc⟩ := List.exists_mem_of_length_pos hlen
  have hnul : nul ∈ ret.cells := h.tail c hc ▸ List.mem_of_mem_drop hc
  exact (scan_eq_absent (by decide) _).mpr
    ⟨hnul, fun hp => h.noPrompt ((List.takeWhile_sublist _).subset hp)⟩

/-- One piece: it is written to the start of the array, and the loop goes on. -/
theorem readLoop_goesOn {n : Nat} {ret : Buffer n} {totalread : Nat} {r : Received}
    (h : Unprompted ret totalread) (hr : r.goesOn) (hlt : totalread + r.bytes.length < n)
    (results : List Received) :
    readLoop ret totalread (r :: results) =
      readLoop (ret.store 0 r.bytes) (totalread + r.bytes.length) results := by
  have habsent := (h.store hr.2.2 (by omega)).absent hlt
  cases r with
  | chunk first more =>
    rw [readLoop, if_pos (by omega), habsent]
    exact Received.noConfusion
  | eof => exact absurd rfl hr.1
  | error => exact absurd rfl hr.2.1

/-- **All the pieces before the last read** leave the loop going: they have been
counted, but the array has only the last of them. -/
theorem readLoop_going {n : Nat} : ∀ {results : List Received} {ret : Buffer n} {totalread : Nat},
    Unprompted ret totalread → Going results → totalread + (joined results).length < n →
    ∃ ret', Unprompted ret' (totalread + (joined results).length) ∧ (results = [] → ret' = ret) ∧
      ∀ rest, readLoop ret totalread (results ++ rest) =
        readLoop ret' (totalread + (joined results).length) rest
  | [], ret, _, h, _, _ => ⟨ret, h, fun _ => rfl, fun _ => rfl⟩
  | r :: results, ret, totalread, h, hgoing, hlt => by
    have hr := hgoing r (List.mem_cons_self ..)
    have hsum : totalread + (joined (r :: results)).length =
        totalread + r.bytes.length + (joined results).length := by
      simp [joined, Nat.add_assoc]
    rw [hsum] at hlt ⊢
    obtain ⟨ret', hunprompted, -, hrun⟩ := readLoop_going (h.store hr.2.2 (by omega))
      (fun x hx => hgoing x (List.mem_cons_of_mem _ hx)) hlt
    refine ⟨ret', hunprompted, nofun, fun rest => ?_⟩
    rw [List.cons_append, readLoop_goesOn h hr (by omega), hrun]

/-! ## The last read -/

/-- The end of the connection does not end the loop. -/
theorem readLoop_eof {n : Nat} {ret : Buffer n} {totalread : Nat} (h : Unprompted ret totalread)
    (hlt : totalread < n) : readLoop ret totalread [.eof] = none := by
  have hsame : (ret.store 0 Received.eof.bytes).cells = ret.cells :=
    store_zero_cells (Nat.zero_le _)
  rw [readLoop, if_pos hlt, hsame, h.absent hlt]
  · exact if_pos hlt
  · exact Received.noConfusion

/-- A prompt that `strstr` sees in a piece ends the loop, with that piece alone
in the array. -/
theorem readLoop_seen {n : Nat} {ret : Buffer n} {totalread : Nat} {r : Received}
    (hlt : totalread < n) (hle : r.bytes.length ≤ n) (hseen : '>' ∈ cstr r.bytes) :
    readLoop ret totalread [r] =
      some (((totalread + r.bytes.length : Nat) : Int), ret.store 0 r.bytes) := by
  have hsplit : r.bytes = cstr r.bytes ++ r.bytes.dropWhile (· != nul) :=
    List.takeWhile_append_dropWhile.symm
  have hnul : nul ∉ cstr r.bytes := fun h => by simpa using List.mem_takeWhile_imp h
  have hscan : ∃ before rest, scan '>' (ret.store 0 r.bytes).cells = .found before rest := by
    rw [store_zero_cells hle, hsplit, List.append_assoc, scan_of_mem hnul hseen]
    exact ⟨_, _, rfl⟩
  obtain ⟨before, rest, hscan⟩ := hscan
  cases r with
  | chunk first more =>
    rw [readLoop, if_pos hlt, hscan]
    exact Received.noConfusion
  | eof => cases hseen
  | error => cases hseen

/-- A prompt that it does not see ends the loop only if the array is full. -/
theorem readLoop_unseen {n : Nat} {ret : Buffer n} {totalread : Nat} {r : Received}
    (hlt : totalread < n) (hle : r.bytes.length ≤ n) (hp : '>' ∈ r.bytes)
    (hunseen : '>' ∉ cstr r.bytes) :
    readLoop ret totalread [r] =
      if totalread + r.bytes.length < n then none
      else some (((totalread + r.bytes.length : Nat) : Int), ret.store 0 r.bytes) := by
  have hnul : nul ∈ r.bytes := by
    by_contra hno
    rw [cstr_eq_self hno] at hunseen
    exact hunseen hp
  have habsent : scan '>' (ret.store 0 r.bytes).cells = .absent := by
    rw [store_zero_cells hle, scan_eq_absent (by decide)]
    refine ⟨List.mem_append_left _ hnul, ?_⟩
    unfold cstr at hunseen ⊢
    rwa [takeWhile_append_of_mem hnul (by simp)]
  cases r with
  | chunk first more =>
    rw [readLoop, if_pos hlt, habsent]
    · simp [readLoop]
    · exact Received.noConfusion
  | eof => cases hp
  | error => cases hp

/-- Where a piece with a prompt in it ends the loop, `strstr` has seen the
prompt, or else the array is full. -/
theorem readLoop_prompt {n : Nat} {ret retbuf : Buffer n} {totalread : Nat} {r : Received}
    {code : Int} (hlt : totalread < n) (hle : totalread + r.bytes.length ≤ n)
    (hp : '>' ∈ r.bytes) (hrun : readLoop ret totalread [r] = some (code, retbuf)) :
    retbuf = ret.store 0 r.bytes ∧
      ('>' ∈ cstr r.bytes ∨ totalread + r.bytes.length = n) := by
  by_cases hseen : '>' ∈ cstr r.bytes
  · rw [readLoop_seen hlt (by omega) hseen] at hrun
    cases hrun
    exact ⟨rfl, .inl hseen⟩
  · rw [readLoop_unseen hlt (by omega) hp hseen] at hrun
    split at hrun
    · cases hrun
    · cases hrun
      exact ⟨rfl, .inr (by omega)⟩

/-- The last piece at the start of the array and behind all others: there are
no others. -/
theorem joined_overlay {pre bs tail zeros : List Char} (hp : '>' ∈ bs) (hpre : '>' ∉ pre)
    (h : bs ++ tail = pre ++ bs ++ zeros) : pre = [] := by
  have hfirst := congrArg (List.takeWhile (· != '>')) h
  have hall : ∀ c ∈ pre, (c != '>') = true := by
    intro c hc
    have hne : c ≠ '>' := fun he => hpre (he ▸ hc)
    simpa using hne
  rw [takeWhile_append_of_mem hp (by simp), List.append_assoc, List.takeWhile_append_of_pos hall,
    takeWhile_append_of_mem hp (by simp)] at hfirst
  have hlen := congrArg List.length hfirst
  rw [List.length_append] at hlen
  exact List.length_eq_zero_iff.mp (by omega)

/-- The array after the pieces before the last read. -/
theorem genDosockcmd_last {n : Nat} {reads : Stream' Received} (h : WithinRet n reads) {k : Nat}
    (hgoing : Going (reads.take k)) :
    ∃ ret : Buffer n, Unprompted ret (joined (reads.take k)).length ∧
      (k = 0 → ret = Buffer.zeroed n) ∧
      ∀ (any : Buffer n) (cmd : List Char),
        genDosockcmd any cmd cmd.length (reads.take (k + 1)) =
          readLoop ret (joined (reads.take k)).length [reads.get k] := by
  obtain ⟨ret, hunprompted, hnil, hrun⟩ := readLoop_going (unprompted_zeroed n) hgoing
    (by rw [Nat.zero_add]; exact h.before k hgoing)
  rw [Nat.zero_add] at hunprompted hrun
  refine ⟨ret, hunprompted, fun hk => hnil (by rw [hk]; rfl), fun any cmd => ?_⟩
  rw [Stream'.take_succ', genDosockcmd, if_neg (by simp), hrun]

theorem joined_take_one (reads : Stream' Received) :
    joined (reads.take 1) = (reads.get 0).bytes := by
  rw [joined_take_succ]
  rfl

theorem WithinRet.onePiece_le {n : Nat} {reads : Stream' Received} (h : WithinRet n reads)
    (hgoing : Going (reads.take 0)) : (reads.get 0).bytes.length ≤ n := by
  have hle := h.asked 0 hgoing
  rwa [joined_take_one] at hle

/-- A reply that comes in one piece is in the array from its first byte on, and
its length is what is returned. -/
theorem genDosockcmd_onePiece {n : Nat} {reads : Stream' Received} (h : WithinRet n reads)
    (hone : OnePiece n (reads.get 0)) (any : Buffer n) (cmd : List Char) :
    genDosockcmd any cmd cmd.length (reads.take 1) =
      some (((reads.get 0).bytes.length : Int),
        (Buffer.zeroed n).store 0 (reads.get 0).bytes) := by
  have hgoing : Going (reads.take 0) := fun _ hr => absurd hr List.not_mem_nil
  have hlt : 0 < n := h.before 0 hgoing
  have hle := h.onePiece_le hgoing
  obtain ⟨ret, -, hzero, hlast⟩ := genDosockcmd_last h hgoing
  obtain rfl := hzero rfl
  rw [hlast]
  show readLoop (Buffer.zeroed n) 0 [reads.get 0] = _
  by_cases hseen : '>' ∈ cstr (reads.get 0).bytes
  · rw [readLoop_seen hlt hle hseen, Nat.zero_add]
  · have hfull := hone.2.resolve_left hseen
    rw [readLoop_unseen hlt hle hone.1 hseen, Nat.zero_add, if_neg (by omega)]

/-- Where a reply is assembled as it should be, it was ended by an error, or
came in one piece. -/
theorem Assembles.ends {n : Nat} {reads : Stream' Received} (h : WithinRet n reads)
    (hassembles : Assembles n reads) :
    ∃ k, Going (reads.take k) ∧
      (reads.get k = .error ∨ k = 0 ∧ OnePiece n (reads.get 0)) := by
  obtain ⟨k, hgoing, hends, hall⟩ := hassembles
  obtain ⟨ret, hunprompted, -, hlast⟩ := genDosockcmd_last h hgoing
  have hlt := h.before k hgoing
  have hle := h.asked k hgoing
  rw [joined_take_succ, List.length_append] at hle
  obtain ⟨code, retbuf, hrun, hwhole⟩ := hall (Buffer.zeroed n) []
  rw [hlast] at hrun
  refine ⟨k, hgoing, ?_⟩
  rcases not_goesOn_cases hends with heof | herror | hp
  · rw [heof, readLoop_eof hunprompted hlt] at hrun
    cases hrun
  · exact .inl herror
  · right
    obtain ⟨⟨zeros, hcells, -⟩, -⟩ := hwhole hp
    have hret := readLoop_prompt hlt (by omega) hp hrun
    rw [hret.1, store_zero_cells (by omega), joined_take_succ] at hcells
    have hnone := joined_overlay hp hgoing.noPrompt hcells
    have hk : k = 0 := by
      simpa using congrArg List.length (joined_eq_nil hgoing hnone)
    subst hk
    rw [hnone, List.length_nil, Nat.zero_add] at hret
    exact ⟨rfl, hp, hret.2⟩

/-- A reply that comes in one piece is assembled as it should be. -/
theorem OnePiece.assembles {n : Nat} {reads : Stream' Received} (h : WithinRet n reads)
    (hone : OnePiece n (reads.get 0)) : Assembles n reads := by
  have hgoing : Going (reads.take 0) := fun _ hr => absurd hr List.not_mem_nil
  have hjoined := joined_take_one reads
  have hcells : ((Buffer.zeroed n).store 0 (reads.get 0).bytes).cells =
      (reads.get 0).bytes ++ (Buffer.zeroed n).cells.drop (reads.get 0).bytes.length :=
    store_zero_cells (h.onePiece_le hgoing)
  have hzeros : ∀ c ∈ (Buffer.zeroed n).cells.drop (reads.get 0).bytes.length, c = nul :=
    fun c hc => List.eq_of_mem_replicate (List.mem_of_mem_drop hc)
  refine ⟨0, hgoing, fun hgoes => hgoes.2.2 hone.1, fun any cmd => ⟨_, _,
    genDosockcmd_onePiece h hone any cmd, fun _ => ⟨⟨_, ?_, hzeros⟩, fun mode PID => ?_⟩⟩⟩
  · rw [hcells, hjoined]
  · rw [socketSimgenGetvalue, genDosockcmd_onePiece h hone]
    dsimp only
    rw [if_neg (by omega), hcells, hjoined]
    unfold decodeReply
    rw [cstr_append_zeros hzeros]

/-- **Replies from the network**: a reply is assembled if and only if an error
ends it, or it comes in one piece. -/
theorem assembles_iff {n : Nat} {reads : Stream' Received} (h : WithinRet n reads) :
    Assembles n reads ↔
      ∃ k, Going (reads.take k) ∧
        (reads.get k = .error ∨ k = 0 ∧ OnePiece n (reads.get 0)) := by
  refine ⟨Assembles.ends h, ?_⟩
  rintro ⟨k, hgoing, herror | ⟨-, hone⟩⟩
  · obtain ⟨ret, -, -, hlast⟩ := genDosockcmd_last h hgoing
    refine ⟨k, hgoing, fun hgoes => hgoes.2.1 herror, fun any cmd => ⟨-1, ret, ?_, ?_⟩⟩
    · rw [hlast, herror, readLoop, if_pos (h.before k hgoing)]
    · rw [herror]
      exact fun hp => absurd hp List.not_mem_nil
  · exact hone.assembles h

/-- A reply with a prompt, and then the end of the connection. -/
def onePieceReply : Stream' Received :=
  Stream'.cons (.chunk '4' "1 0C 1A F8 \r\r>".toList) (Stream'.const .eof)

/-- The reply in one piece is assembled: it is all in the array. -/
theorem onePieceReply_assembled : Assembles 1024 onePieceReply := by
  have hfirst : ¬ (onePieceReply.get 0).goesOn := fun h => h.2.2 (by decide)
  have hstart : ∀ k, Going (onePieceReply.take k) → k = 0 := by
    rintro (_ | k) hgoing
    · rfl
    · exact absurd (hgoing _ (List.mem_cons_self ..)) hfirst
  refine (assembles_iff ⟨fun k hgoing => ?_, fun k hgoing => ?_⟩).mpr
    ⟨0, fun _ hr => absurd hr List.not_mem_nil, .inr ⟨rfl, by decide, .inl (by decide)⟩⟩
  · obtain rfl := hstart k hgoing
    decide
  · obtain rfl := hstart k hgoing
    decide

/-- The same reply as before, in two pieces: it is cut in front of its last two
bytes. -/
def twoPieceReply : Stream' Received :=
  Stream'.cons (.chunk '4' "1 0C 1A F8 \r".toList)
    (Stream'.cons (.chunk '\r' ['>']) (Stream'.const .eof))

/-- The first piece is lost, and with it the value. -/
theorem twoPieceReply_lost :
    ¬ Assembles 1024 twoPieceReply ∧
      socketSimgenGetvalue (Buffer.zeroed 1024) 1 0x0C 6 (twoPieceReply.take 2) =
        some (0, []) ∧
      decodeReply (joined (twoPieceReply.take 2)) = (2, [0x1A, 0xF8]) := by
  have hstart : ∀ k, Going (twoPieceReply.take k) → k = 0 ∨ k = 1 := by
    rintro (_ | _ | k) hgoing
    · exact .inl rfl
    · exact .inr rfl
    · have hsecond := hgoing (twoPieceReply.get 1) (List.mem_cons_of_mem _ (List.mem_cons_self ..))
      exact absurd (show '>' ∈ (twoPieceReply.get 1).bytes by decide) hsecond.2.2
  refine ⟨fun hassembles => ?_, by decide +kernel, by decide +kernel⟩
  have hfits : WithinRet 1024 twoPieceReply := by
    refine ⟨fun k hgoing => ?_, fun k hgoing => ?_⟩ <;>
      rcases hstart k hgoing with rfl | rfl <;> decide
  obtain ⟨k, hgoing, hends⟩ := hassembles.ends hfits
  rcases hstart k hgoing with rfl | rfl
  · exact hends.elim (by decide) fun h => absurd h.2.1 (by decide)
  · exact hends.elim (by decide) fun h => absurd h.1 (by decide)

end ObdGpsLogger.Sim
