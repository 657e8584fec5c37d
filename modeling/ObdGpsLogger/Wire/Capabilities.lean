import ObdGpsLogger.Obdcomm.SupportedCommands
import ObdGpsLogger.Sim.Adapter
import ObdGpsLogger.Sim.GenLogger
import ObdGpsLogger.Wire.RoundTrip

/-!
# Bitmaps from the simulator to the logger

The logger asks which PIDs are supported, one request for each block, and a
simulator that plays back a log answers with the bitmaps it made of the log's
columns. The list that comes out should have exactly the PIDs of those columns,
and the two PIDs that ask for the next block (`DiscoversColumns`).

`getobdcapabilities_logger_iff` says when it does: if `e_timeout` is not negative,
or nothing is wished for. `ATST-4` makes it negative (`Sim.AtSettings`), and then
even an ECU without a delay is too late for every request.

The requests are one conversation (`getobdbytes_conversation`): each finds the
simulator in the state the one before has left it in.
-/

namespace ObdGpsLogger.Wire

open CLib Machine Obdcomm Obdinfo Sim

/-! ## Conversations -/

/-- The passes of the loop that a request takes to arrive: the last one brings
its end. -/
structure Delivery where
  pre : List Moment
  last : Moment

/-- All of the passes in which a line arrives, in order. -/
def Delivery.moments (d : Delivery) : List Moment := d.pre ++ [d.last]

/-- The passes bring the text, and nothing ends the loop. -/
structure Delivery.Brings (d : Delivery) (ecuCount : Nat) (text : List Char) : Prop where
  quiet : ∀ q ∈ d.moments, Quiet ecuCount q
  lastBytes : d.last.result.bytes ≠ []
  text : delivered d.moments = text

/-- The logger's end of an exchange: the request is written, and what the
simulator wrote is read in time, cut in any way. -/
structure Hears (x : Exchange) (text : List Char) (outs : List (List Char)) : Prop where
  wrote : text.length ≤ x.wrote
  reads : readBytes x.reads = outs.flatten
  inTime : InTime x.reads

section Conversation

variable (parseATcmd : SimSettings → Bool → List Char → AtResult)

/-- **A conversation.** Any number of requests for values are answered, each
from the state the one before has left. -/
theorem getobdbytes_conversation {s : SimState} (hs : Ready s []) (hheaders : s.ss.eHeaders = 0)
    (cmd : Nat → Nat) {ds : Nat → Delivery} : ∀ (n : Nat),
    (∀ i < n, (obdGetCmdForPID (cmd i)).isSome) →
    (∀ i < n, (ds i).Brings s.ss.ecuCount (sendbuf 0x01 (cmd i) 0)) →
    (∀ i < n, ∀ v ∈ askedValues s.ss (ds i).last.ask (cmd i), Answers v) →
    ∃ (state : Nat → SimState) (outs : Nat → List (List Char)), state 0 = s ∧
      (SameSession s (state n) ∧ Ready (state n) []) ∧
      ∀ i < n, run (mainLoop parseATcmd) (state i) (ds i).moments = some (state (i + 1), outs i) ∧
        ∀ x fuel, Hears x (sendbuf 0x01 (cmd i) 0) (outs i) → 8 ≤ fuel →
          getobdbytes 0x01 (cmd i) 0 x fuel =
            some (readBack (askedValues s.ss (ds i).last.ask (cmd i)))
  | 0, _, _, _ =>
    ⟨fun _ => s, fun _ => [], rfl, ⟨sameSession_refl s, hs⟩,
      fun _ h => absurd h (Nat.not_lt_zero _)⟩
  | n + 1, hpid, hds, hvals => by
    obtain ⟨state, outs, h0, ⟨hsame, hready⟩, hruns⟩ := getobdbytes_conversation hs hheaders cmd n
      (fun i hi => hpid i (by omega)) (fun i hi => hds i (by omega))
      (fun i hi => hvals i (by omega))
    obtain ⟨hquiet, hlast, htext⟩ := hds n (Nat.lt_succ_self n)
    -- the settings are those of the start, up to the freeze frames
    have hasked : askedValues (state n).ss (ds n).last.ask (cmd n) =
        askedValues s.ss (ds n).last.ask (cmd n) := by
      obtain ⟨-, f, hf, hss⟩ := hsame
      rw [askedValues, askedValues, hss, ecuLoop_mapEcus _ _ hf]
      rfl
    have hheaders' : (state n).ss.eHeaders = 0 := by
      obtain ⟨-, f, -, hss⟩ := hsame
      rw [hss]
      exact hheaders
    obtain ⟨s', out, hsame', hready', hrun, hback⟩ := getobdbytes_session parseATcmd (cmd n) 0
      hready hheaders' (hpid n (Nat.lt_succ_self n)) (Nat.zero_le 8)
      (hsame.ecuCount ▸ hquiet) hlast htext (hasked ▸ hvals n (Nat.lt_succ_self n))
    refine ⟨fun i => if i ≤ n then state i else s', fun i => if i < n then outs i else out,
      by simpa using h0, ?_, fun i hi => ?_⟩
    · simpa using And.intro (hsame.trans hsame') hready'
    · rcases Nat.lt_or_eq_of_le (Nat.le_of_lt_succ hi) with hlt | rfl
      · simpa [hlt, Nat.le_of_lt hlt, Nat.succ_le_of_lt hlt] using hruns i hlt
      · refine ⟨by simpa [Delivery.moments] using hrun, fun x fuel hx hfuel => ?_⟩
        simp only [Nat.lt_irrefl, if_false] at hx
        rw [← hasked]
        exact hback x.wrote x.reads fuel hx.wrote hx.reads hx.inTime hfuel

end Conversation

/-! ## Bitmaps -/

/-- A generator that answers as the Logger generator does at some time, with
whatever the caller left in the cells. Where that calls through `NULL`, the
answer may be anything. -/
def PlaysBack (g : LoggerGen) (gen : Simgen) : Prop :=
  ∀ mode pid, ∃ fuel currtime cells,
    loggerSimgenGetvalue g fuel currtime cells pid = .nullCall ∨
      loggerSimgenGetvalue g fuel currtime cells pid = .value (gen.getvalue mode pid)

/-- The four bytes that a bitmap is sent in, the most significant first. -/
def bitmapBytes (bits : Nat) : List Nat :=
  (List.range 4).map fun i => (bits >>> (8 * (3 - i))) % 256

theorem playsBack_block {g : LoggerGen} {gen : Simgen} (h : PlaysBack g gen) {b : Nat} (hb : b < 4)
    (mode : Nat) : (gen.getvalue mode (0x20 * b)).count = 4 ∧
      (gen.getvalue mode (0x20 * b)).bytes = bitmapBytes (g.block b) := by
  obtain ⟨fuel, currtime, cells, hout⟩ := h mode (0x20 * b)
  rw [getvalue_block hb] at hout
  rcases hout with hout | hout
  · cases hout
  · injection hout with hv
    rw [← hv]
    exact ⟨rfl, rfl⟩

/-- What the logger is told of a block by a simulator that plays back a log. -/
def bitmapReply (g : LoggerGen) (b : Nat) : ObdBytes := gotBytes (bitmapBytes (g.block b))

theorem bitmapReply_fourBytes (g : LoggerGen) (b : Nat) : (bitmapReply g b).fourBytes := ⟨rfl, rfl⟩

/-- Read back, the bytes have the bits of the bitmap. -/
theorem bitmapReply_testBit (g : LoggerGen) (b : Nat) {j : Nat} (hj : j < 32) :
    (bitmapReply g b).val.testBit j = (g.block b).testBit j := by
  have hval : (bitmapReply g b).val = g.block b % 2 ^ 32 := by
    show (g.block b >>> 24) % 256 * (256 * 256 * 256) + (g.block b >>> 16) % 256 * (256 * 256) +
      (g.block b >>> 8) % 256 * 256 + (g.block b >>> 0) % 256 = g.block b % 2 ^ 32
    simp only [Nat.shiftRight_eq_div_pow]
    omega
  rw [hval, Nat.testBit_mod_two_pow]
  simp [hj]

/-- The rows with a column are those of the PIDs from 1 on, the PIDs that ask
for a next block excepted. -/
theorem rows_logged : ∀ cmd ∈ obdcmdsMode1, cmd.dbColumn ≠ none →
    0 < cmd.cmdid ∧ cmd.cmdid < 0x53 ∧ cmd.cmdid ≠ 0x20 ∧ cmd.cmdid ≠ 0x40 := by
  decide

theorem logged_bounds {db : LogFile} {pid : Nat} (h : db.Logged pid) :
    0 < pid ∧ pid < 0x53 ∧ pid ≠ 0x20 ∧ pid ≠ 0x40 := by
  obtain ⟨cmd, hcmd, rfl, column, -, hcol⟩ := h
  exact rows_logged cmd hcmd (by rw [hcol]; exact Option.some_ne_none column)

section Discovery

variable {db : LogFile} {now : Timeval} {wishlist : Option (List ObdServiceCmd)}

/-- The PIDs that the logger takes from the bitmap of a block: those of the
columns of the log in that block, and the one that asks for the next block. -/
theorem mem_blockPids_bitmap (db : LogFile) (now : Timeval)
    (wishlist : Option (List ObdServiceCmd)) {b : Nat} (hb : b < 4) (p : Nat) :
    p ∈ blockPids wishlist (0x20 * b) (bitmapReply (loggerSimgenCreate db now) b).val ↔
      inWishlist wishlist p = true ∧ (0x20 * b < p ∧ p ≤ 0x20 * (b + 1)) ∧
        (b < 2 ∧ p = 0x20 * (b + 1) ∨ db.Logged p) := by
  rw [mem_blockPids]
  constructor
  · rintro ⟨k, hk, rfl, hbit, hwish⟩
    rw [bitmapReply_testBit _ _ (by omega), create_testBit db now hb (by omega)] at hbit
    have hpid : bitPid b (31 - k) = 0x20 * b + 1 + k := by
      unfold bitPid
      omega
    rw [hpid] at hbit
    exact ⟨hwish, by omega, hbit.imp_left fun h => ⟨h.1, by omega⟩⟩
  · rintro ⟨hwish, hrange, hlogged⟩
    refine ⟨p - (0x20 * b + 1), by omega, by omega, ?_, hwish⟩
    have hpid : bitPid b (31 - (p - (0x20 * b + 1))) = p := by
      unfold bitPid
      omega
    rw [bitmapReply_testBit _ _ (by omega), create_testBit db now hb (by omega), hpid]
    exact hlogged.imp_left fun h => ⟨h.1, by omega⟩

/-- Two blocks say that there is a next one; the third does not. -/
theorem bitmapReply_continues {b : Nat} (hb : b < 3) :
    (bitmapReply (loggerSimgenCreate db now) b).byte 3 % 2 = 1 ↔ b < 2 := by
  have hbit := val_testBit_zero (bitmapReply (loggerSimgenCreate db now) b)
  rw [bitmapReply_testBit _ _ (by decide)] at hbit
  rw [← decide_eq_true_iff (p := _ % 2 = 1), ← hbit, create_testBit db now (by omega) (by decide)]
  constructor
  · rintro (h | h)
    · exact h.1
    · have := logged_bounds h
      unfold bitPid at this
      omega
  · exact fun h => Or.inl ⟨h, rfl⟩

/-- One turn of the loop over the blocks, the first of which is not empty. -/
theorem blockLoop_bitmap {answer : Replies} {fuel i cmd : Nat} {caps : List Nat} {r : ObdBytes}
    (hr : answer i cmd = some r) (h4 : r.fourBytes) (hne : cmd = 0x00 → r.val ≠ 0) :
    blockLoop wishlist answer (fuel + 1) i cmd caps =
      if r.byte 3 % 2 = 1 then
        blockLoop wishlist answer fuel (i + 1) (cmd + 0x20) (caps ++ blockPids wishlist cmd r.val)
      else some ⟨caps ++ blockPids wishlist cmd r.val, i + 1, false⟩ := by
  rw [blockLoop, hr, Option.bind_some, if_neg (not_not.mpr h4), if_neg fun h => hne h.1 h.2]

/-- **Discovery from bitmaps.** Three answers make the list. -/
theorem getobdcapabilities_bitmaps {answer : Replies}
    (hanswer : ∀ b < 3, answer b (0x20 * b) = some (bitmapReply (loggerSimgenCreate db now) b))
    {fuel : Nat} (hfuel : 3 ≤ fuel) :
    ∃ pids, getobdcapabilities wishlist answer fuel = some ⟨pids, 3, 0⟩ ∧
      pids.Pairwise (· < ·) ∧ ∀ p, p ∈ pids ↔
        p = 0 ∨ inWishlist wishlist p = true ∧ (db.Logged p ∨ p = 0x20 ∨ p = 0x40) := by
  obtain ⟨k, rfl⟩ := Nat.exists_eq_add_of_le' hfuel
  have h0 : (bitmapReply (loggerSimgenCreate db now) 0).byte 3 % 2 = 1 :=
    (bitmapReply_continues (by decide)).mpr (by decide)
  have h1 : (bitmapReply (loggerSimgenCreate db now) 1).byte 3 % 2 = 1 :=
    (bitmapReply_continues (by decide)).mpr (by decide)
  have h2 : ¬ (bitmapReply (loggerSimgenCreate db now) 2).byte 3 % 2 = 1 := fun h =>
    absurd ((bitmapReply_continues (by decide)).mp h) (by decide)
  -- the first block continues, so it is not empty
  have hne : (bitmapReply (loggerSimgenCreate db now) 0).val ≠ 0 := by
    intro hzero
    have hbit := val_testBit_zero (bitmapReply (loggerSimgenCreate db now) 0)
    rw [hzero, Nat.zero_testBit, h0] at hbit
    exact absurd hbit (by decide)
  have h4 := bitmapReply_fourBytes (loggerSimgenCreate db now)
  have hmem := fun b (hb : b < 4) => mem_blockPids_bitmap db now wishlist hb
  have hanswer0 := hanswer 0 (by decide)
  have hanswer1 := hanswer 1 (by decide)
  have hanswer2 := hanswer 2 (by decide)
  generalize bitmapReply (loggerSimgenCreate db now) = r at *
  have hloop : blockLoop wishlist answer (k + 3) 0 0x00 [0x00] =
      some ⟨[0x00] ++ (blockPids wishlist (0x20 * 0) (r 0).val ++
        (blockPids wishlist (0x20 * 1) (r 1).val ++ blockPids wishlist (0x20 * 2) (r 2).val)),
        3, false⟩ := by
    rw [blockLoop_bitmap hanswer0 (h4 0) fun _ => hne, if_pos h0,
      blockLoop_bitmap hanswer1 (h4 1) nofun, if_pos h1,
      blockLoop_bitmap hanswer2 (h4 2) nofun, if_neg h2, List.append_assoc, List.append_assoc]
  have hcaps : getobdcapabilities wishlist answer (k + 3) =
      some ⟨[0x00] ++ (blockPids wishlist (0x20 * 0) (r 0).val ++
        (blockPids wishlist (0x20 * 1) (r 1).val ++ blockPids wishlist (0x20 * 2) (r 2).val)),
        3, 0⟩ := by
    rw [getobdcapabilities, hloop]
    rfl
  obtain ⟨more, hpids, hsorted, -⟩ := pids_of_returned hcaps
  rw [← hpids] at hsorted
  refine ⟨_, hcaps, hsorted, fun p => ?_⟩
  rw [List.mem_append, List.mem_append, List.mem_append, List.mem_singleton,
    hmem 0 (by decide), hmem 1 (by decide), hmem 2 (by decide)]
  refine or_congr_right ?_
  rw [← and_or_left, ← and_or_left]
  refine and_congr_right fun _ => ?_
  constructor
  · rintro (⟨-, h | h⟩ | ⟨-, h | h⟩ | ⟨-, h | h⟩)
    · exact Or.inr (Or.inl h.2)
    · exact Or.inl h
    · exact Or.inr (Or.inr h.2)
    · exact Or.inl h
    · exact absurd h.1 (by decide)
    · exact Or.inl h
  · rintro (h | rfl | rfl)
    · have hbounds := logged_bounds h
      by_cases h20 : p ≤ 0x20
      · exact Or.inl ⟨by omega, Or.inr h⟩
      · by_cases h40 : p ≤ 0x40
        · exact Or.inr (Or.inl ⟨by omega, Or.inr h⟩)
        · exact Or.inr (Or.inr ⟨by omega, Or.inr h⟩)
    · exact Or.inl ⟨by decide, Or.inl ⟨by decide, rfl⟩⟩
    · exact Or.inr (Or.inl ⟨by decide, Or.inl ⟨by decide, rfl⟩⟩)

end Discovery

/-! ## The whole way -/

theorem bitmap_answers {v : GenValue} {bits : Nat} (hcount : v.count = 4)
    (hbytes : v.bytes = bitmapBytes bits) : Answers v := by
  refine Or.inr ⟨by omega, by omega, fun k hk => ?_⟩
  have hmem : v.abcd k ∈ v.bytes := List.mem_map_of_mem (List.mem_range.mpr hk)
  rw [hbytes] at hmem
  obtain ⟨i, -, hi⟩ := List.mem_map.mp hmem
  rw [← hi]
  exact Nat.mod_lt _ (by decide)

/-- The only ECU, which answers at once, is asked every time. -/
theorem askedValues_only {ss : SimSettings} (hone : ss.ecudelays = [⟨0, 0⟩])
    (htimeout : 0 ≤ ss.eTimeout) {gens : Nat → Simgen} {pid : Nat}
    (hcount : ((gens 0).getvalue 0x01 pid).count ≠ -1) :
    askedValues ss gens pid = [(gens 0).getvalue 0x01 pid] := by
  rw [askedValues, hone, ecuLoop, if_neg (by dsimp only; omega)]
  dsimp only
  rw [if_neg hcount]
  rfl

/-- With a negative timeout the only ECU, which has no delay, is late: no ECU is
asked. -/
theorem askedValues_late {ss : SimSettings} (hone : ss.ecudelays = [⟨0, 0⟩])
    (htimeout : ss.eTimeout < 0) (gens : Nat → Simgen) (pid : Nat) :
    askedValues ss gens pid = [] := by
  rw [askedValues, hone, ecuLoop, if_pos (by dsimp only; omega)]
  rfl

/-- What the logger should find out: in ascending order, 0 and those PIDs of the
log's columns, 0x20 and 0x40 that are wished for; and the lookup finds exactly
these. -/
structure DiscoversColumns (db : LogFile) (wishlist : Option (List ObdServiceCmd)) (c : Capabilities) :
    Prop where
  ascending : c.pids.Pairwise (· < ·)
  pids : ∀ p, p ∈ c.pids ↔
    p = 0 ∨ inWishlist wishlist p = true ∧ (db.Logged p ∨ p = 0x20 ∨ p = 0x40)
  found : ∀ p, isobdcapabilitysupported c.pids p = 1 ↔ p ∈ c.pids

/-- The logger finds out which columns the log has, however the replies to its
three requests are cut into reads. -/
def DiscoversLog (parseATcmd : SimSettings → Bool → List Char → AtResult) (db : LogFile)
    (wishlist : Option (List ObdServiceCmd)) (s : SimState) (ds : Nat → Delivery) : Prop :=
  ∃ (state : Nat → SimState) (outs : Nat → List (List Char)), state 0 = s ∧
    (∀ b < 3, run (mainLoop parseATcmd) (state b) (ds b).moments = some (state (b + 1), outs b)) ∧
    ∀ device : Nat → Nat → Exchange,
      (∀ b < 3, Hears (device b (0x20 * b)) (sendbuf 0x01 (0x20 * b) 0) (outs b)) →
      ∀ fuel, 3 ≤ fuel →
        ∃ c, getobdcapabilities wishlist (ask device) fuel = some c ∧ DiscoversColumns db wishlist c

/-- A first block without an answer ends the discovery. -/
theorem getobdcapabilities_noAnswer {wishlist : Option (List ObdServiceCmd)} {answer : Replies}
    {r : ObdBytes} (hanswer : answer 0 0x00 = some r) (hr : ¬ r.fourBytes) {fuel : Nat}
    (hfuel : 1 ≤ fuel) : getobdcapabilities wishlist answer fuel = some ⟨[0x00], 1, 0⟩ := by
  obtain ⟨k, rfl⟩ := Nat.exists_eq_add_of_le' hfuel
  rw [getobdcapabilities, blockLoop, hanswer, Option.bind_some, if_pos hr]
  rfl

/-- A device on which the logger reads a text at once. -/
theorem hears_atOnce (text : List Char) (outs : List (List Char)) :
    Hears ⟨text.length, [⟨.data outs.flatten, 0⟩]⟩ text outs where
  wrote := Int.le_refl _
  reads := List.append_nil _
  inTime := by
    intro r hr
    obtain rfl := List.mem_singleton.mp hr
    show (0 : Int) ≤ obdcommTimeout
    decide

section Logger

variable (parseATcmd : SimSettings → Bool → List Char → AtResult) {db : LogFile} {now : Timeval}
  {wishlist : Option (List ObdServiceCmd)} {s : SimState} {ds : Nat → Delivery}

/-- With a timeout that is not negative the ECU is asked, so the three bitmaps
are read and the columns are found. -/
theorem discoversLog_of_timeout (hs : Ready s []) (hheaders : s.ss.eHeaders = 0)
    (hone : s.ss.ecudelays = [⟨0, 0⟩]) (htimeout : 0 ≤ s.ss.eTimeout)
    (hds : ∀ b < 3, (ds b).Brings s.ss.ecuCount (sendbuf 0x01 (0x20 * b) 0))
    (hgen : ∀ b < 3, PlaysBack (loggerSimgenCreate db now) ((ds b).last.ask 0)) :
    DiscoversLog parseATcmd db wishlist s ds := by
  -- a block is answered with its bitmap, which has four bytes
  have hplays := fun b (hb : b < 3) => playsBack_block (hgen b hb) (by omega : b < 4) 0x01
  have hasked : ∀ b < 3, askedValues s.ss (ds b).last.ask (0x20 * b) =
      [((ds b).last.ask 0).getvalue 0x01 (0x20 * b)] := fun b hb =>
    askedValues_only hone htimeout (by rw [(hplays b hb).1]; decide)
  have hvals : ∀ b < 3, ∀ v ∈ askedValues s.ss (ds b).last.ask (0x20 * b), Answers v := by
    intro b hb v hv
    rw [hasked b hb, List.mem_singleton] at hv
    obtain ⟨hcount, hbytes⟩ := hplays b hb
    rw [← hv] at hcount hbytes
    exact bitmap_answers hcount hbytes
  obtain ⟨state, outs, h0, -, hruns⟩ := getobdbytes_conversation parseATcmd hs hheaders
    (fun b => 0x20 * b) 3 (fun b hb => obdGetCmdForPID_isSome_iff.mpr (by omega)) hds hvals
  refine ⟨state, outs, h0, fun b hb => (hruns b hb).1, fun device hdevice fuel hfuel => ?_⟩
  have hanswer : ∀ b < 3,
      ask device b (0x20 * b) = some (bitmapReply (loggerSimgenCreate db now) b) := by
    intro b hb
    obtain ⟨hcount, hbytes⟩ := hplays b hb
    rw [ask, (hruns b hb).2 _ _ (hdevice b hb) (by decide), hasked b hb, readBack,
      List.find?_cons_of_pos (by simp [hcount])]
    dsimp only
    rw [hbytes]
    rfl
  -- the three replies are read back, and the bits are counted
  obtain ⟨pids, hcaps, hsorted, hmem⟩ :=
    getobdcapabilities_bitmaps hanswer hfuel
  exact ⟨_, hcaps, hsorted, hmem, isobdcapabilitysupported_iff hsorted⟩

/-- With a negative timeout the first request has no answer, so no column is
found: the list is `[0]`. -/
theorem discoversLog_of_late (hs : Ready s []) (hheaders : s.ss.eHeaders = 0)
    (hone : s.ss.ecudelays = [⟨0, 0⟩]) (htimeout : s.ss.eTimeout < 0)
    (hds : ∀ b < 3, (ds b).Brings s.ss.ecuCount (sendbuf 0x01 (0x20 * b) 0)) :
    DiscoversLog parseATcmd db wishlist s ds ↔ DiscoversColumns db wishlist ⟨[0x00], 1, 0⟩ := by
  have hnone : ∀ b < 3, askedValues s.ss (ds b).last.ask (0x20 * b) = [] := fun b _ =>
    askedValues_late hone htimeout _ _
  have hvals : ∀ b < 3, ∀ v ∈ askedValues s.ss (ds b).last.ask (0x20 * b), Answers v := by
    intro b hb v hv
    rw [hnone b hb] at hv
    cases hv
  obtain ⟨state, outs, h0, -, hruns⟩ := getobdbytes_conversation parseATcmd hs hheaders
    (fun b => 0x20 * b) 3 (fun b hb => obdGetCmdForPID_isSome_iff.mpr (by omega)) hds hvals
  have hcaps : ∀ device : Nat → Nat → Exchange,
      Hears (device 0 0x00) (sendbuf 0x01 (0x20 * 0) 0) (outs 0) → ∀ fuel, 3 ≤ fuel →
        getobdcapabilities wishlist (ask device) fuel = some ⟨[0x00], 1, 0⟩ := by
    intro device hhears fuel hfuel
    have hanswer : ask device 0 0x00 = some (readBack []) := by
      rw [← hnone 0 (by decide)]
      exact (hruns 0 (by decide)).2 _ retbufSize hhears (by decide)
    exact getobdcapabilities_noAnswer hanswer (fun h => nomatch h.1) (by omega)
  constructor
  · rintro ⟨state', outs', h0', hruns', hall⟩
    -- the simulator writes the same either way
    have hout : outs' 0 = outs 0 := by
      have hsame := (hruns' 0 (by decide)).symm.trans ((h0'.trans h0.symm) ▸ (hruns 0 (by decide)).1)
      exact (Prod.mk.inj (Option.some.inj hsame)).2
    obtain ⟨c, hc, hdiscovers⟩ := hall
      (fun b _ => ⟨(sendbuf 0x01 (0x20 * b) 0).length, [⟨.data (outs' b).flatten, 0⟩]⟩)
      (fun b _ => hears_atOnce _ _) 3 (Nat.le_refl 3)
    rw [hcaps _ (hout ▸ hears_atOnce _ _) 3 (Nat.le_refl 3)] at hc
    exact Option.some.inj hc ▸ hdiscovers
  · intro h
    exact ⟨state, outs, h0, fun b hb => (hruns b hb).1, fun device hdevice fuel hfuel =>
      ⟨_, hcaps device (hdevice 0 (by decide)) fuel hfuel, h⟩⟩

/-- The list `[0]` is right if nothing is wished for. -/
theorem discoversColumns_zero_iff : DiscoversColumns db wishlist ⟨[0x00], 1, 0⟩ ↔
    ∀ p, inWishlist wishlist p = true → ¬ (db.Logged p ∨ p = 0x20 ∨ p = 0x40) := by
  constructor
  · intro h p hwish hlogged
    have hmem := (h.pids p).mpr (Or.inr ⟨hwish, hlogged⟩)
    obtain rfl := List.mem_singleton.mp hmem
    rcases hlogged with hlogged | h20 | h40
    · exact Nat.lt_irrefl 0 (logged_bounds hlogged).1
    · cases h20
    · cases h40
  · intro h
    have hsorted : [0x00].Pairwise fun a b : Nat => a < b := List.pairwise_singleton ..
    refine ⟨hsorted, fun p => ?_, isobdcapabilitysupported_iff hsorted⟩
    rw [List.mem_singleton]
    exact ⟨Or.inl, fun hp => hp.resolve_right fun hwish => h p hwish.1 hwish.2⟩

/-- **Supported PIDs come through** from a simulator whose only ECU, without a
delay, plays back a log, with headers off: exactly if `e_timeout` is not negative,
or none of the PIDs in question is wished for. -/
theorem getobdcapabilities_logger_iff (hs : Ready s []) (hheaders : s.ss.eHeaders = 0)
    (hone : s.ss.ecudelays = [⟨0, 0⟩])
    (hds : ∀ b < 3, (ds b).Brings s.ss.ecuCount (sendbuf 0x01 (0x20 * b) 0))
    (hgen : ∀ b < 3, PlaysBack (loggerSimgenCreate db now) ((ds b).last.ask 0)) :
    DiscoversLog parseATcmd db wishlist s ds ↔ 0 ≤ s.ss.eTimeout ∨
      ∀ p, inWishlist wishlist p = true → ¬ (db.Logged p ∨ p = 0x20 ∨ p = 0x40) := by
  rcases Int.lt_or_le s.ss.eTimeout 0 with hlate | htimeout
  · rw [discoversLog_of_late parseATcmd hs hheaders hone hlate hds, discoversColumns_zero_iff]
    exact (or_iff_right (Int.not_le.mpr hlate)).symm
  · exact iff_of_true (discoversLog_of_timeout parseATcmd hs hheaders hone htimeout hds hgen)
      (Or.inl htimeout)

end Logger

/-- A log with the columns of three sensors. -/
def threeColumns : LogFile :=
  { columns := ["rpm", "vss", "fli", "time", "trip", "ecu"]
    minTime := 0
    maxTime := 0
    est := fun _ _ => some 50 }

/-- The Logger generator at the moment it is created. -/
def playback : Simgen :=
  { getvalue := fun _ pid =>
      match loggerSimgenGetvalue (loggerSimgenCreate threeColumns ⟨0, 0⟩) 1 ⟨0, 0⟩ (fun _ => 0)
        pid with
      | .value v => v
      | _ => ⟨0, fun _ => 0⟩
    geterrorcodes := none }

theorem playback_playsBack : PlaysBack (loggerSimgenCreate threeColumns ⟨0, 0⟩) playback := by
  have hseltime : (loggerSimgenCreate threeColumns ⟨0, 0⟩).seltime 1 ⟨0, 0⟩ = some 0 := by
    decide +kernel
  intro mode pid
  refine ⟨1, ⟨0, 0⟩, fun _ => 0, ?_⟩
  cases hout : loggerSimgenGetvalue (loggerSimgenCreate threeColumns ⟨0, 0⟩) 1 ⟨0, 0⟩ (fun _ => 0)
      pid with
  | nullCall => exact Or.inl rfl
  | value v =>
    refine Or.inr ?_
    simp [playback, hout]
  | running =>
    unfold loggerSimgenGetvalue callConvrev at hout
    rw [hseltime] at hout
    dsimp only at hout
    repeat' split at hout
    all_goals cases hout

/-- How the requests for the blocks reach it. -/
def playbackDelivery (b : Nat) : Delivery :=
  ⟨[], .reading (sendbuf 0x01 (0x20 * b) 0) fun _ => playback⟩

theorem playbackDelivery_brings (ecuCount : Nat) : ∀ b < 3,
    (playbackDelivery b).Brings ecuCount (sendbuf 0x01 (0x20 * b) 0) := by
  have hne : ∀ b < 3, sendbuf 0x01 (0x20 * b) 0 ≠ [] := by decide
  intro b hb
  refine ⟨fun q hq => ?_, hne b hb, List.append_nil _⟩
  obtain rfl := List.mem_singleton.mp hq
  exact quiet_reading (hne b hb) _ _

/-- A log of three columns, with all commands wished for: its three PIDs are
discovered. -/
theorem getobdcapabilities_threeColumns : DiscoversLog (parseATcmd fun _ => (false, 0)) threeColumns
    none (SimState.init FDSimPort.init oneEcu) playbackDelivery :=
  (getobdcapabilities_logger_iff (parseATcmd fun _ => (false, 0)) (init_ready oneEcu) rfl
    (by decide) (playbackDelivery_brings _) fun _ _ => playback_playsBack).mpr (Or.inl (by decide))

/-- The line `ATST-4`, which makes the timeout negative. -/
def timeoutMinus : Sending := ⟨"ATST-4".toList, [], .reading "ATST-4\r".toList fun _ => playback⟩

/-- The log of three columns, behind a client that has sent `ATST-4`: none of
its PIDs is discovered. -/
theorem threeColumns_undiscovered : ∃ (s : SimState) (outs : List (List Char)),
    exchange (fun _ => (false, 0)) (SimState.init FDSimPort.init oneEcu) timeoutMinus =
      some (s, outs) ∧
    Ready s [] ∧ s.ss.eHeaders = 0 ∧ s.ss.ecudelays = [⟨0, 0⟩] ∧
    (∀ b < 3, (playbackDelivery b).Brings s.ss.ecuCount (sendbuf 0x01 (0x20 * b) 0)) ∧
    (∀ b < 3, PlaysBack (loggerSimgenCreate threeColumns ⟨0, 0⟩) ((playbackDelivery b).last.ask 0)) ∧
    ¬ DiscoversLog (parseATcmd fun _ => (false, 0)) threeColumns none s playbackDelivery := by
  have hserves : Adapter.Serves ⟨oneEcu, oneEcu.eEcho ≠ 0, "GARBAGE".toList⟩ timeoutMinus := by
    refine ⟨⟨fun q hq => ?_, by decide, by decide, by decide, by decide, by decide⟩, by decide,
      Or.inl (by decide)⟩
    obtain rfl := List.mem_singleton.mp hq
    exact quiet_reading (by decide) _ _
  obtain ⟨s, outs, hrun, hpres, -⟩ :=
    exchange_refines (fun _ => (false, 0)) _ _ timeoutMinus (init_presents oneEcu) hserves
  obtain ⟨f, -, hss⟩ := hpres.settings
  -- the command's own settings, which the ECUs' trouble codes do not bear on
  have hset : ∀ a : Adapter, a = (Adapter.command (fun _ => (false, 0))
      ⟨oneEcu, oneEcu.eEcho ≠ 0, "GARBAGE".toList⟩ timeoutMinus).1 →
      a.ss.eHeaders = 0 ∧ a.ss.ecudelays = [⟨0, 0⟩] ∧ a.ss.eTimeout < 0 := by
    rintro _ rfl
    decide +kernel
  obtain ⟨hheaders, hone, htimeout⟩ := hset _ rfl
  have hheaders : s.ss.eHeaders = 0 := hss ▸ hheaders
  have hone : s.ss.ecudelays = [⟨0, 0⟩] := hss ▸ hone
  have htimeout : s.ss.eTimeout < 0 := hss ▸ htimeout
  refine ⟨s, outs, hrun, hpres.ready, hheaders, hone, playbackDelivery_brings _,
    fun _ _ => playback_playsBack, fun h => ?_⟩
  have hall := (discoversLog_of_late _ hpres.ready hheaders hone htimeout
    (playbackDelivery_brings _)).mp h
  exact discoversColumns_zero_iff.mp hall 0x20 (by decide) (Or.inr (Or.inl rfl))

end ObdGpsLogger.Wire
