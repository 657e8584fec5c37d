import Mathlib.Data.List.Basic
import ObdGpsLogger.Obdcomm.ReplyLoop
import ObdGpsLogger.Obdinfo.ServiceCommands

/-!
# `supportedcommands.c` — which PIDs a device supports

`getobdcapabilities` asks for the bitmaps of mode 01, one block of 32 PIDs
after the other, as long as the last bit of a block says that there is a next
one. When the very first bitmap is empty it asks for every PID instead
(`getobdcapabilities_guess`).

Mirroring notes:
- The linked list is the list of its PIDs; a new element goes behind the last.
- The `i`-th call of `getobdbytes`, should it be for `cmd`, meets the exchange
  `device i cmd`. It returns `none` when it does not return.
- `while(1)` has fuel. Nothing in the function itself bounds it.
- `obdbytes` has four entries. What `getobdbytes` stores behind them is not
  looked at. The entries are 32 bits wide, so their sum fits `unsigned long`.
-/

namespace ObdGpsLogger.Obdcomm

open CLib Obdinfo

/-! ## The code -/

/-- The value of `obdbytes[i]` after the call: what was stored last, or the 0 it
began with. -/
def ObdBytes.byte (r : ObdBytes) (i : Nat) : Nat := (r.stores.lookup i).getD 0

/-- `OBD_SUCCESS == cap_status && 4 == bytes_returned`. -/
def ObdBytes.fourBytes (r : ObdBytes) : Prop := r.status = .success ∧ r.numbytesReturned = some 4

/-- `OBD_SUCCESS == cap_status && bytes_returned > 0`. -/
def ObdBytes.answered (r : ObdBytes) : Prop :=
  r.status = .success ∧ ∃ n, r.numbytesReturned = some n ∧ 0 < n

instance (r : ObdBytes) : Decidable r.fourBytes := inferInstanceAs (Decidable (_ ∧ _))

instance (r : ObdBytes) : Decidable r.answered :=
  decidable_of_iff (r.status = .success ∧ 0 < r.numbytesReturned.getD 0) (by
    unfold ObdBytes.answered
    cases r.numbytesReturned <;> simp)

/-- The `unsigned long` made of the four bytes. -/
def ObdBytes.val (r : ObdBytes) : Nat :=
  r.byte 0 * (256 * 256 * 256) + r.byte 1 * (256 * 256) + r.byte 2 * 256 + r.byte 3

/-- `in_wishlist`: a PID is wished for, or there is no list of wishes. -/
def inWishlist (wishlist : Option (List ObdServiceCmd)) (c : Nat) : Bool :=
  match wishlist with
  | none => true
  | some cmds => cmds.any fun cmd => cmd.cmdid == c

/-- The `for` loop over the bits of a block: bit `31 - k` is for the `k`-th PID
behind `current_cmd`. -/
def blockPids (wishlist : Option (List ObdServiceCmd)) (currentCmd val : Nat) : List Nat :=
  ((List.range 32).filter fun k =>
    val.testBit (31 - k) && inWishlist wishlist (currentCmd + 1 + k)).map (currentCmd + 1 + ·)

/-- What the loop over the blocks leaves behind: the list, the number of blocks
asked for, and `must_guess`. -/
structure Discovered where
  caps : List Nat
  blocks : Nat
  mustGuess : Bool
  deriving DecidableEq, Repr

/-- The answer to the `i`-th call, for a command. -/
abbrev Replies := Nat → Nat → Option ObdBytes

/-- The `while(1)` loop, after `asked` calls. -/
def blockLoop (wishlist : Option (List ObdServiceCmd)) (answer : Replies) :
    Nat → Nat → Nat → List Nat → Option Discovered
  | 0, _, _, _ => none
  | fuel + 1, asked, currentCmd, caps =>
    (answer asked currentCmd).bind fun r =>
      if ¬ r.fourBytes then some ⟨caps, asked + 1, false⟩
      else if currentCmd = 0x00 ∧ r.val = 0 then some ⟨caps, asked + 1, true⟩
      else
        let caps := caps ++ blockPids wishlist currentCmd r.val
        if r.byte 3 % 2 = 1 then
          blockLoop wishlist answer fuel (asked + 1) (currentCmd + 0x20) caps
        else some ⟨caps, asked + 1, false⟩

/-- The PIDs `getobdcapabilities_guess` tries. -/
def guessPids : List Nat := List.range' 0x01 0x51

/-- The loop of `getobdcapabilities_guess` over the PIDs left. -/
def guessLoop (wishlist : Option (List ObdServiceCmd)) (answer : Replies) :
    Nat → List Nat → List Nat → Option (List Nat)
  | _, [], caps => some caps
  | asked, currpid :: pids, caps =>
    (answer asked currpid).bind fun r =>
      guessLoop wishlist answer (asked + 1) pids
        (if r.answered ∧ inWishlist wishlist currpid = true then caps ++ [currpid] else caps)

/-- What `getobdcapabilities` returns, and how many calls of each kind it made. -/
structure Capabilities where
  pids : List Nat
  blockQueries : Nat
  guessQueries : Nat
  deriving DecidableEq, Repr

/-- `getobdcapabilities`: the blocks are asked for, and where the first one is
all zero, the commands one by one. -/
def getobdcapabilities (wishlist : Option (List ObdServiceCmd)) (answer : Replies) (fuel : Nat) :
    Option Capabilities :=
  (blockLoop wishlist answer fuel 0 0x00 [0x00]).bind fun d =>
    if d.mustGuess then
      (guessLoop wishlist answer d.blocks guessPids d.caps).map fun caps =>
        ⟨caps, d.blocks, guessPids.length⟩
    else some ⟨d.caps, d.blocks, 0⟩

/-- `isobdcapabilitysupported`: a search that ends at the first larger PID. -/
def isobdcapabilitysupported : List Nat → Nat → Int
  | [], _ => 0
  | currcap :: caps, pid =>
    if pid = currcap then 1
    else if pid < currcap then 0
    else isobdcapabilitysupported caps pid

/-- The calls of `getobdbytes`, with fuel for any reply (`getobdbytes_fuel`). -/
def ask (device : Nat → Nat → Exchange) : Replies := fun i cmd =>
  getobdbytes 0x01 cmd 0 (device i cmd) retbufSize

/-! ## What the list should hold -/

/-- Block `i` answered four bytes, and says that there is a next one. -/
def Continues (answer : Replies) (i : Nat) : Prop :=
  ∃ r, answer i (0x20 * i) = some r ∧ r.fourBytes ∧ r.byte 3 % 2 = 1

/-- Block `i` answered four bytes, and its bit for `pid` is set. -/
def SetIn (answer : Replies) (i pid : Nat) : Prop :=
  ∃ r k, answer i (0x20 * i) = some r ∧ r.fourBytes ∧ k < 32 ∧ pid = 0x20 * i + 1 + k ∧
    r.val.testBit (31 - k) = true

/-- A block advertises `pid`, and all blocks before it continue. -/
def Advertised (answer : Replies) (pid : Nat) : Prop :=
  ∃ i, SetIn answer i pid ∧ ∀ j < i, Continues answer j

/-- The device answers the first block with four bytes that are all zero. -/
def FirstBlockZero (answer : Replies) : Prop :=
  ∃ r, answer 0 0x00 = some r ∧ r.fourBytes ∧ r.val = 0

/-- The device answered `pid` when it was asked for it: query 0 was for the
first block. -/
def Guessed (answer : Replies) (pid : Nat) : Prop :=
  FirstBlockZero answer ∧ pid ∈ guessPids ∧ ∃ r, answer pid pid = some r ∧ r.answered

/-- The bit for the next block is the last bit of the value. -/
theorem val_testBit_zero (r : ObdBytes) : r.val.testBit 0 = decide (r.byte 3 % 2 = 1) := by
  have hmod : r.val % 2 = r.byte 3 % 2 := by
    unfold ObdBytes.val
    omega
  rw [Nat.testBit_zero, hmod]

/-! ## Sorted lists -/

/-- **The lookup.** In an ascending list the early exit misses nothing. -/
theorem isobdcapabilitysupported_iff : ∀ {caps : List Nat}, caps.Pairwise (· < ·) →
    ∀ (pid : Nat), isobdcapabilitysupported caps pid = 1 ↔ pid ∈ caps
  | [], _, pid => by simp [isobdcapabilitysupported]
  | c :: caps, h, pid => by
    obtain ⟨hlt, htail⟩ := List.pairwise_cons.mp h
    have ih := isobdcapabilitysupported_iff htail pid
    rw [isobdcapabilitysupported, List.mem_cons]
    split
    · next heq => simp [heq]
    · next hne =>
      split
      · next hearly =>
        -- all that follows is larger still
        have hno : pid ∉ caps := fun hm => by
          have := hlt pid hm
          omega
        simp [hne, hno]
      · simp [hne, ih]

section Block

variable {wishlist : Option (List ObdServiceCmd)} {currentCmd val : Nat}

theorem mem_blockPids {p : Nat} : p ∈ blockPids wishlist currentCmd val ↔
    ∃ k < 32, p = currentCmd + 1 + k ∧ val.testBit (31 - k) = true ∧
      inWishlist wishlist p = true := by
  simp only [blockPids, List.mem_map, List.mem_filter, List.mem_range, Bool.and_eq_true]
  constructor
  · rintro ⟨k, ⟨hk, hbit, hwish⟩, rfl⟩
    exact ⟨k, hk, rfl, hbit, hwish⟩
  · rintro ⟨k, hk, rfl, hbit, hwish⟩
    exact ⟨k, ⟨hk, hbit, hwish⟩, rfl⟩

theorem blockPids_sorted : (blockPids wishlist currentCmd val).Pairwise (· < ·) := by
  unfold blockPids
  rw [List.pairwise_map]
  refine List.Pairwise.filter _ (List.pairwise_lt_range.imp ?_)
  intro a b hab
  omega

end Block

/-! ## The loop over the blocks -/

section Loops

variable {wishlist : Option (List ObdServiceCmd)} {answer : Replies}

/-- What the loop adds from block `i` on: PIDs of these blocks, in order, each
wished for and advertised. -/
structure Added (wishlist : Option (List ObdServiceCmd)) (answer : Replies) (i : Nat)
    (more : List Nat) : Prop where
  sorted : more.Pairwise (· < ·)
  mem : ∀ p, p ∈ more ↔ inWishlist wishlist p = true ∧
    ∃ m, i ≤ m ∧ SetIn answer m p ∧ ∀ j, i ≤ j → j < m → Continues answer j

theorem SetIn.bounds {m p : Nat} (h : SetIn answer m p) : 0x20 * m < p ∧ p ≤ 0x20 * m + 0x20 := by
  obtain ⟨r, k, -, -, hk, rfl, -⟩ := h
  omega

/-- A block that did not answer four bytes adds nothing. -/
theorem added_none {i : Nat} {r : ObdBytes} (hr : answer i (0x20 * i) = some r)
    (h4 : ¬ r.fourBytes) : Added wishlist answer i [] := by
  refine ⟨List.Pairwise.nil, fun p => iff_of_false (fun h => (by cases h)) ?_⟩
  rintro ⟨-, m, him, ⟨s, k, hs, hs4, -⟩, hcont⟩
  rcases Nat.eq_or_lt_of_le him with rfl | hlt
  · rw [hr] at hs
    obtain rfl := Option.some.inj hs
    exact h4 hs4
  · obtain ⟨s, hs, hs4, -⟩ := hcont i (Nat.le_refl i) hlt
    rw [hr] at hs
    obtain rfl := Option.some.inj hs
    exact h4 hs4

/-- A block that answered adds its own PIDs, and those of the blocks behind it
if it continues. -/
theorem added_block {i : Nat} {r : ObdBytes} {more : List Nat}
    (hr : answer i (0x20 * i) = some r) (h4 : r.fourBytes)
    (hmore : if r.byte 3 % 2 = 1 then Added wishlist answer (i + 1) more else more = []) :
    Added wishlist answer i (blockPids wishlist (0x20 * i) r.val ++ more) := by
  -- the PIDs of the block itself
  have hown : ∀ p, p ∈ blockPids wishlist (0x20 * i) r.val ↔
      inWishlist wishlist p = true ∧ SetIn answer i p := by
    intro p
    rw [mem_blockPids]
    constructor
    · rintro ⟨k, hk, hp, hbit, hwish⟩
      exact ⟨hwish, r, k, hr, h4, hk, hp, hbit⟩
    · rintro ⟨hwish, s, k, hs, -, hk, hp, hbit⟩
      rw [hr] at hs
      obtain rfl := Option.some.inj hs
      exact ⟨k, hk, hp, hbit, hwish⟩
  -- and of the blocks behind it
  have hrest : more.Pairwise (· < ·) ∧ ∀ p, p ∈ more ↔ inWishlist wishlist p = true ∧
      ∃ m, i + 1 ≤ m ∧ SetIn answer m p ∧ ∀ j, i ≤ j → j < m → Continues answer j := by
    split at hmore
    · next hbit =>
      have hci : Continues answer i := ⟨r, hr, h4, hbit⟩
      refine ⟨hmore.sorted, fun p => (hmore.mem p).trans (and_congr_right fun _ => ?_)⟩
      refine exists_congr fun m => and_congr_right fun him => and_congr_right fun _ => ?_
      constructor
      · intro h j hij hjm
        rcases Nat.eq_or_lt_of_le hij with rfl | hlt
        · exact hci
        · exact h j hlt hjm
      · exact fun h j hij hjm => h j (by omega) hjm
    · next hbit =>
      subst hmore
      refine ⟨List.Pairwise.nil, fun p => iff_of_false (fun h => (by cases h)) ?_⟩
      rintro ⟨-, m, him, -, hcont⟩
      obtain ⟨s, hs, -, hs3⟩ := hcont i (Nat.le_refl i) him
      rw [hr] at hs
      obtain rfl := Option.some.inj hs
      exact hbit hs3
  refine ⟨List.pairwise_append.mpr ⟨blockPids_sorted, hrest.1, fun a ha b hb => ?_⟩, fun p => ?_⟩
  · obtain ⟨-, hsa⟩ := (hown a).mp ha
    obtain ⟨-, m, him, hsb, -⟩ := (hrest.2 b).mp hb
    have := hsa.bounds
    have := hsb.bounds
    omega
  · rw [List.mem_append, hown, hrest.2]
    constructor
    · rintro (⟨hwish, hset⟩ | ⟨hwish, m, him, hset, hcont⟩)
      · exact ⟨hwish, i, Nat.le_refl i, hset, fun j hij hji => absurd hij (by omega)⟩
      · exact ⟨hwish, m, by omega, hset, hcont⟩
    · rintro ⟨hwish, m, him, hset, hcont⟩
      rcases Nat.eq_or_lt_of_le him with rfl | hlt
      · exact Or.inl ⟨hwish, hset⟩
      · exact Or.inr ⟨hwish, m, hlt, hset, hcont⟩

/-- **A loop over the blocks that has returned** either met an empty first
block, or added what the blocks from `i` on advertise. -/
theorem blockLoop_returned : ∀ {fuel i : Nat} {caps : List Nat} {d : Discovered},
    blockLoop wishlist answer fuel i (0x20 * i) caps = some d →
    (i = 0 ∧ d = ⟨caps, 1, true⟩ ∧ FirstBlockZero answer) ∨
    (d.mustGuess = false ∧ ∃ more, d.caps = caps ++ more ∧ Added wishlist answer i more) := by
  intro fuel
  induction fuel with
  | zero =>
    intro i caps d h
    cases h
  | succ fuel ih =>
    intro i caps d h
    rw [blockLoop] at h
    obtain ⟨r, hr, h⟩ := Option.bind_eq_some_iff.mp h
    split at h
    · next h4 =>
      -- no four bytes: the blocks end here
      obtain rfl := Option.some.inj h
      exact Or.inr ⟨rfl, [], (List.append_nil caps).symm, added_none hr h4⟩
    · next h4 =>
      rw [not_not] at h4
      split at h
      · next hzero =>
        obtain rfl := Option.some.inj h
        have hi : i = 0 := by omega
        subst hi
        exact Or.inl ⟨rfl, rfl, r, hr, h4, hzero.2⟩
      · next hzero =>
        dsimp only at h
        split at h
        · next hbit =>
          have hnext : 0x20 * i + 0x20 = 0x20 * (i + 1) := by omega
          rw [hnext] at h
          rcases ih h with ⟨hi, -⟩ | ⟨hguess, more, hcaps, hadded⟩
          · -- only the first block is tested for being empty
            exact absurd hi (Nat.succ_ne_zero i)
          · refine Or.inr ⟨hguess, blockPids wishlist (0x20 * i) r.val ++ more, ?_,
              added_block hr h4 (by rw [if_pos hbit]; exact hadded)⟩
            rw [hcaps, List.append_assoc]
        · next hbit =>
          obtain rfl := Option.some.inj h
          exact Or.inr ⟨rfl, blockPids wishlist (0x20 * i) r.val ++ [],
            by rw [List.append_nil], added_block hr h4 (by rw [if_neg hbit])⟩

/-- If all bits of the first block are 0, the loop over the blocks ends there,
and the PIDs have to be guessed. -/
theorem mustGuess_of_zero (hz : FirstBlockZero answer) {fuel : Nat} {caps : List Nat}
    {d : Discovered} (h : blockLoop wishlist answer fuel 0 0x00 caps = some d) :
    d.mustGuess = true := by
  obtain ⟨r, hr, h4, hval⟩ := hz
  cases fuel with
  | zero => cases h
  | succ fuel =>
    rw [blockLoop, hr, Option.bind_some, if_neg (not_not.mpr h4), if_pos ⟨rfl, hval⟩] at h
    obtain rfl := Option.some.inj h
    rfl

/-- **The loop over the blocks ends**, at the latest with the first command
that takes more than two digits: no reply can repeat it. -/
theorem blockLoop_returns (hret : ∀ i cmd, (answer i cmd).isSome)
    (hcmd : ∀ i r, answer i 0x100 = some r → ¬ r.fourBytes) :
    ∀ (fuel i : Nat) (caps : List Nat), i ≤ 8 → 9 ≤ i + fuel →
      ∃ d, blockLoop wishlist answer fuel i (0x20 * i) caps = some d ∧ d.blocks ≤ 9
  | 0, i, _, h8, hfuel => by omega
  | fuel + 1, i, caps, h8, hfuel => by
    obtain ⟨r, hr⟩ := Option.isSome_iff_exists.mp (hret i (0x20 * i))
    rw [blockLoop, hr, Option.bind_some]
    by_cases h4 : r.fourBytes
    · -- the block of a command with three digits did not answer
      have hi : i < 8 := by
        refine Nat.lt_of_le_of_ne h8 fun he => ?_
        subst he
        exact hcmd 8 r hr h4
      rw [if_neg (not_not.mpr h4)]
      split
      · exact ⟨_, rfl, by dsimp only; omega⟩
      · dsimp only
        split
        · have hnext : 0x20 * i + 0x20 = 0x20 * (i + 1) := by omega
          rw [hnext]
          exact blockLoop_returns hret hcmd fuel (i + 1) _ (by omega) (by omega)
        · exact ⟨_, rfl, by dsimp only; omega⟩
    · rw [if_pos h4]
      exact ⟨_, rfl, by dsimp only; omega⟩

/-! ## The loop over the PIDs -/

/-- If each request returns, the loop that guesses returns, too, when it has
been through its PIDs. -/
theorem guessLoop_returns (hret : ∀ i cmd, (answer i cmd).isSome) :
    ∀ (pids : List Nat) (asked : Nat) (caps : List Nat),
      ∃ caps', guessLoop wishlist answer asked pids caps = some caps'
  | [], _, caps => ⟨caps, rfl⟩
  | pid :: pids, asked, caps => by
    obtain ⟨r, hr⟩ := Option.isSome_iff_exists.mp (hret asked pid)
    rw [guessLoop, hr, Option.bind_some]
    exact guessLoop_returns hret pids (asked + 1) _

/-- The loop that guesses adds to the list those of its PIDs, in order, that are
in the wishlist and have been answered. -/
theorem guessLoop_returned : ∀ {n pid : Nat} {caps caps' : List Nat},
    guessLoop wishlist answer pid (List.range' pid n) caps = some caps' →
    ∃ more, caps' = caps ++ more ∧ more.Pairwise (· < ·) ∧ ∀ p, p ∈ more ↔
      p ∈ List.range' pid n ∧ inWishlist wishlist p = true ∧
        ∃ r, answer p p = some r ∧ r.answered := by
  intro n
  induction n with
  | zero =>
    intro pid caps caps' h
    obtain rfl := Option.some.inj h
    exact ⟨[], (List.append_nil caps).symm, List.Pairwise.nil, by simp⟩
  -- the induction is on the number of PIDs that are still to be asked for
  | succ n ih =>
    intro pid caps caps' h
    rw [List.range'_succ, guessLoop] at h
    obtain ⟨r, hr, h⟩ := Option.bind_eq_some_iff.mp h
    have hhead : (∃ s, answer pid pid = some s ∧ s.answered) ↔ r.answered := by
      rw [hr]
      constructor
      · rintro ⟨s, hs, ha⟩
        exact Option.some.inj hs ▸ ha
      · exact fun ha => ⟨r, rfl, ha⟩
    obtain ⟨more, hcaps, hsorted, hmem⟩ := ih h
    rw [List.range'_succ]
    -- the PID is taken if it has been answered and is wished for
    by_cases htake : r.answered ∧ inWishlist wishlist pid = true
    · rw [if_pos htake, List.append_assoc] at hcaps
      refine ⟨pid :: more, hcaps, List.pairwise_cons.mpr ⟨fun p hp => ?_, hsorted⟩, fun p => ?_⟩
      · have := List.mem_range'_1.mp ((hmem p).mp hp).1
        omega
      · rw [List.mem_cons, List.mem_cons, hmem]
        constructor
        · rintro (rfl | h)
          · exact ⟨Or.inl rfl, htake.2, hhead.mpr htake.1⟩
          · exact ⟨Or.inr h.1, h.2⟩
        · rintro ⟨rfl | h, hrest⟩
          · exact Or.inl rfl
          · exact Or.inr ⟨h, hrest⟩
    · rw [if_neg htake] at hcaps
      refine ⟨more, hcaps, hsorted, fun p => ?_⟩
      rw [List.mem_cons, hmem]
      constructor
      · exact fun h => ⟨Or.inr h.1, h.2⟩
      · rintro ⟨rfl | h, hrest⟩
        · exact absurd ⟨hhead.mp hrest.2, hrest.1⟩ htake
        · exact ⟨h, hrest⟩

/-! ## The whole function -/

/-- A first block that is not empty takes part in the loop like the others. -/
theorem added_first {more : List Nat} (hadded : Added wishlist answer 0 more)
    (hz : ¬ FirstBlockZero answer) (p : Nat) :
    p ∈ more ↔ inWishlist wishlist p = true ∧ (Advertised answer p ∨ Guessed answer p) := by
  rw [hadded.mem]
  refine and_congr_right fun _ => ?_
  constructor
  · rintro ⟨m, -, hset, hcont⟩
    exact Or.inl ⟨m, hset, fun j hj => hcont j (Nat.zero_le j) hj⟩
  · rintro (⟨m, hset, hcont⟩ | hguess)
    · exact ⟨m, Nat.zero_le m, hset, fun j _ hj => hcont j hj⟩
    · exact absurd hguess.1 hz

/-- An empty first block advertises nothing, and has no next. -/
theorem not_advertised {p : Nat} (hz : FirstBlockZero answer) : ¬ Advertised answer p := by
  obtain ⟨r, hr, -, hval⟩ := hz
  rintro ⟨m, ⟨s, k, hs, -, -, -, hbit⟩, hcont⟩
  rcases Nat.eq_zero_or_pos m with rfl | hpos
  · obtain rfl : r = s := Option.some.inj (hr.symm.trans hs)
    rw [hval, Nat.zero_testBit] at hbit
    cases hbit
  · obtain ⟨s, hs, -, hodd⟩ := hcont 0 hpos
    obtain rfl : r = s := Option.some.inj (hr.symm.trans hs)
    have hbit := val_testBit_zero r
    rw [hval, Nat.zero_testBit, hodd] at hbit
    cases hbit

/-- What `getobdcapabilities` should return: a sorted list with 0 and what was
advertised or answered, after at most nine calls for blocks, and calls for
single PIDs only if the first block was empty. -/
structure Discovers (wishlist : Option (List ObdServiceCmd)) (answer : Replies)
    (caps : Capabilities) : Prop where
  blockQueries_le : caps.blockQueries ≤ 9
  guessQueries_le : caps.guessQueries ≤ 0x51
  guesses : 0 < caps.guessQueries → FirstBlockZero answer
  head : caps.pids.head? = some 0
  sorted : caps.pids.Pairwise (· < ·)
  mem : ∀ p, 0 < p → (p ∈ caps.pids ↔
    inWishlist wishlist p = true ∧ (Advertised answer p ∨ Guessed answer p))

/-- **A list that is returned** is 0 and, in ascending order, what was advertised
or answered. -/
theorem pids_of_returned {fuel : Nat} {caps : Capabilities}
    (h : getobdcapabilities wishlist answer fuel = some caps) :
    ∃ more, caps.pids = 0 :: more ∧ (0 :: more).Pairwise (· < ·) ∧
      (∀ p, p ∈ more ↔
        inWishlist wishlist p = true ∧ (Advertised answer p ∨ Guessed answer p)) ∧
      caps.guessQueries ≤ 0x51 ∧ (0 < caps.guessQueries → FirstBlockZero answer) := by
  unfold getobdcapabilities at h
  obtain ⟨d, hd, h⟩ := Option.bind_eq_some_iff.mp h
  rcases blockLoop_returned (i := 0) hd with
    ⟨-, rfl, hz⟩ | ⟨hguess, more, hcaps, hadded⟩
  · -- an empty first block: the PIDs are tried one by one
    rw [if_pos rfl] at h
    obtain ⟨pids, hpids, rfl⟩ := Option.map_eq_some_iff.mp h
    obtain ⟨more, rfl, hsorted, hmem⟩ := guessLoop_returned hpids
    have hpos : ∀ p ∈ more, 0 < p := fun p hp => (List.mem_range'_1.mp ((hmem p).mp hp).1).1
    refine ⟨more, rfl, List.pairwise_cons.mpr ⟨hpos, hsorted⟩, fun p => ?_, Nat.le_refl 0x51,
      fun _ => hz⟩
    rw [hmem]
    constructor
    · exact fun h => ⟨h.2.1, Or.inr ⟨hz, h.1, h.2.2⟩⟩
    · rintro ⟨hwish, hadv | ⟨-, hpid, hans⟩⟩
      · exact absurd hadv (not_advertised hz)
      · exact ⟨hpid, hwish, hans⟩
  · -- otherwise the list is what the blocks advertise
    have hz : ¬ FirstBlockZero answer := fun hz => by
      rw [mustGuess_of_zero hz hd] at hguess
      cases hguess
    rw [if_neg (by rw [hguess]; exact Bool.false_ne_true)] at h
    obtain rfl := Option.some.inj h
    have hpos : ∀ p ∈ more, 0 < p := fun p hp => by
      obtain ⟨-, m, -, hset, -⟩ := (hadded.mem p).mp hp
      have := hset.bounds
      omega
    exact ⟨more, hcaps, List.pairwise_cons.mpr ⟨hpos, hadded.sorted⟩, added_first hadded hz,
      Nat.zero_le 0x51, fun hguessed => absurd hguessed (Nat.lt_irrefl 0)⟩

theorem discovers_of_answers (hret : ∀ i cmd, (answer i cmd).isSome)
    (hcmd : ∀ i r, answer i 0x100 = some r → ¬ r.fourBytes) {fuel : Nat} (hfuel : 9 ≤ fuel) :
    ∃ caps, getobdcapabilities wishlist answer fuel = some caps ∧
      Discovers wishlist answer caps := by
  have hloop : ∃ d, blockLoop wishlist answer fuel 0 0x00 [0x00] = some d ∧ d.blocks ≤ 9 :=
    blockLoop_returns hret hcmd fuel 0 [0x00] (Nat.zero_le 8) (by omega)
  obtain ⟨d, hd, hblocks⟩ := hloop
  have hreturns : ∃ caps, getobdcapabilities wishlist answer fuel = some caps ∧
      caps.blockQueries = d.blocks := by
    unfold getobdcapabilities
    rw [hd, Option.bind_some]
    split
    · obtain ⟨pids, hpids⟩ := guessLoop_returns hret guessPids d.blocks d.caps
      rw [hpids]
      exact ⟨_, rfl, rfl⟩
    · exact ⟨_, rfl, rfl⟩
  obtain ⟨caps, hcaps, hqueries⟩ := hreturns
  obtain ⟨more, hpids, hsorted, hmem, hguess, hzero⟩ := pids_of_returned hcaps
  refine ⟨caps, hcaps, hqueries ▸ hblocks, hguess, hzero, ?_, hpids ▸ hsorted, fun p hp => ?_⟩
  · rw [hpids]
    rfl
  · rw [hpids, List.mem_cons, or_iff_right (Nat.ne_of_gt hp), hmem]

end Loops

/-! ## Devices -/

/-- A line accepted for a command repeats it, in two hex digits. -/
theorem parseobdline_cmd {line : List Char} {mode cmd n : Nat} (hmode : haveCmd mode = true)
    (h : (parseobdline line mode cmd n).status = .success) : ByteLike cmd := by
  unfold parseobdline at h
  dsimp only at h
  split at h
  · cases h
  · next hret =>
    split at h
    · cases h
    · split at h
      · cases h
      · next hcmd =>
        rw [not_and, not_not] at hcmd
        have hcmd := hcmd hmode
        -- the second of the scanned values
        have hlen : 1 < (assigned (hexPairs (countSub mode + 20)) line).length := by
          unfold sscanf at hret
          dsimp only at hret
          split at hret <;> omega
        refine assigned_byteLike (countSub mode + 20) (s := line) ?_
        have hget : (sscanf (hexPairs (countSub mode + 20)) line).vals.getD 1 0 =
            (assigned (hexPairs (countSub mode + 20)) line)[1] := by
          rw [List.getD_eq_getElem?_getD, sscanf, List.getElem?_eq_getElem hlen]
          rfl
        rw [← hcmd, hget]
        exact List.getElem_mem hlen

/-- No device succeeds for a command of three digits. -/
theorem getobdbytes_cmd {cmd fuel : Nat} {numbytesExpected : Int} {x : Exchange} {r : ObdBytes}
    (h : getobdbytes 0x01 cmd numbytesExpected x fuel = some r) (hs : r.status = .success) :
    ByteLike cmd := by
  obtain ⟨a, -, hacc, -⟩ := readLines_success (getobdbytes_success h hs) hs (by decide)
  exact parseobdline_cmd rfl hacc.2

/-- A first block that says that there is a next one. -/
def oneBlockReply : List Char := "41 00 80 00 00 01\r\r>".toList

/-- An adapter that answers any request with it. -/
def oneBlock (_ _ : Nat) : Exchange := ⟨8, [⟨.data oneBlockReply, 0⟩]⟩

theorem oneBlock_returns (i cmd : Nat) :
    ∃ fuel, (getobdbytes 0x01 cmd 0 (oneBlock i cmd) fuel).isSome := by
  have hread : readserialdata retbufSize [] [⟨.data oneBlockReply, 0⟩] =
      some (20, oneBlockReply) := by decide
  have hmarker : replyMarker (cstr oneBlockReply) = none := by decide
  have hlines : logicalLines none (strtokAll isDelim (cstr oneBlockReply)) =
      [⟨false, "41 00 80 00 00 01".toList⟩] := by decide
  refine ⟨retbufSize, ?_⟩
  unfold getobdbytes oneBlock
  split
  · rfl
  · rw [hread]
    dsimp only
    rw [if_neg (by decide), parseReply, hmarker]
    dsimp only
    rw [lineLoop_of_fuel (by decide), hlines, readLines_isSome_iff, passable_cons]
    exact ⟨by decide, Or.inr passable_nil⟩

end ObdGpsLogger.Obdcomm
