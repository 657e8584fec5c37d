import ObdGpsLogger.CLib.ScanInt
import ObdGpsLogger.Obdcomm.ReplyLoop
import ObdGpsLogger.Obdinfo.ConvertRange

/-!
# `getobdvalue` — from a reply to a value

`getobdvalue` of `src/obdcomm/obdserial.c` lets `getobdbytes` write to a local
array of four items, and hands all four to the decoder of the PID. The array is
not initialised, and how many items the reply has filled is not looked at. A
decoder reads one of them, or two (`ObdConversion.arity`), and a reply can be
accepted with a single one: `getobdvalue_determined_iff` says that the value
depends on what was in the array before exactly if the reply supplies fewer
bytes than the decoder reads.

Mirroring notes:
- The array is a function from indices. What `getobdbytes` writes behind its
  end is not looked at.
- `float` is exact.
- `getobderrorcodes` meets one exchange or two; it has no result (`none`) when the
  second is missing.
-/

namespace ObdGpsLogger.Obdcomm

open CLib Obdinfo

/-- The type `OBDConvFunc` of a conversion: a value of four bytes. -/
abbrev OBDConvFunc := Rat → Rat → Rat → Rat → Rat

/-- The caller's array after `getobdbytes` has written to it. -/
def ObdBytes.fill (r : ObdBytes) (obdbytes : Nat → Nat) : Nat → Nat :=
  r.stores.foldl (fun cells s => Function.update cells s.1 s.2) obdbytes

/-- What `getobdvalue` stores in `*ret`. -/
def valueOf (conv : Option OBDConvFunc) (numbytesReturned : Nat) (obdbytes : Nat → Nat) : Rat :=
  match conv with
  | none => (List.range numbytesReturned).foldl (fun ret i => ret * 256 + obdbytes i) 0
  | some conv => conv (obdbytes 0) (obdbytes 1) (obdbytes 2) (obdbytes 3)

/-- `getobdvalue`, with what is in `obdbytes` before: what it returns, and what
it stores in `*ret`, if anything. -/
def getobdvalue (cmd : Nat) (numbytes : Int) (conv : Option OBDConvFunc) (x : Exchange)
    (fuel : Nat) (obdbytes : Nat → Nat) : Option (ObdSerialStatus × Option Rat) :=
  (getobdbytes 0x01 cmd numbytes x fuel).map fun r =>
    if r.status ≠ .success then (r.status, none)
    else (.success, some (valueOf conv (r.numbytesReturned.getD 0) (r.fill obdbytes)))

/-! ## What is in the array -/

/-- The items the reply has supplied, and those it has not. -/
theorem fill_copyRets (status : ObdSerialStatus) (p : ParsedLine) (obdbytes : Nat → Nat)
    (i : Nat) :
    (finish status (copyRets 0 p)).fill obdbytes i =
      if i < p.valsRead then p.retvals.getD i 0 else obdbytes i := by
  unfold ObdBytes.fill finish copyRets
  dsimp only
  rw [List.foldl_map]
  induction p.valsRead with
  | zero => rfl
  | succ n ih =>
    rw [List.range_succ, List.foldl_append, List.foldl_cons, List.foldl_nil, Nat.zero_add]
    by_cases hi : i = n
    · rw [hi, Function.update_self, if_pos (Nat.lt_succ_self n)]
    · rw [Function.update_of_ne hi, ih]
      by_cases hlt : i < n
      · rw [if_pos hlt, if_pos (Nat.lt_succ_of_lt hlt)]
      · rw [if_neg hlt, if_neg (by omega)]

/-- How many bytes a reply supplies: those behind the two of the head, on the
line that is accepted. -/
def suppliedValues (cmd : Nat) (retbuf : List Char) : Nat :=
  match acceptedLine 0x01 cmd (logicalLines none (strtokAll isDelim retbuf)) with
  | none => 0
  | some a => hexPairCount 0x01 a.text - 2

/-- A line is accepted with one value at least. -/
theorem valsRead_pos {line : List Char} {cmd n : Nat}
    (h : (parseobdline line 0x01 cmd n).status = .success) :
    0 < (parseobdline line 0x01 cmd n).valsRead := by
  have hcount := parseobdline_valsRead h
  unfold parseobdline at h ⊢
  dsimp only at h ⊢
  split at h
  · cases h
  · next hret =>
    rw [if_neg hret]
    split at h
    · cases h
    · next h0 =>
      rw [if_neg h0]
      split at h
      · cases h
      · next h1 =>
        rw [if_neg h1]
        have hsub : countSub 0x01 = 2 := rfl
        dsimp only
        omega

/-- **After a success** the array holds what the reply supplied, and what was
there before behind it. -/
theorem getobdbytes_fill {cmd : Nat} {numbytes : Int} {x : Exchange} {fuel : Nat} {r : ObdBytes}
    (h : getobdbytes 0x01 cmd numbytes x fuel = some r) (hs : r.status = .success) :
    0 < suppliedValues cmd x.retbuf ∧ ∃ values : Nat → Nat, ∀ (obdbytes : Nat → Nat) (i : Nat),
      r.fill obdbytes i = if i < suppliedValues cmd x.retbuf then values i else obdbytes i := by
  obtain ⟨a, ha, hacc, rfl⟩ := readLines_success (getobdbytes_success h hs) hs (by decide)
  have hcount := parseobdline_valsRead hacc.2
  have hpos := valsRead_pos hacc.2
  have hsub : countSub 0x01 = 2 := rfl
  have hsupplied : suppliedValues cmd x.retbuf =
      (parseobdline a.text 0x01 cmd localRetsSize).valsRead := by
    unfold suppliedValues
    rw [ha]
    dsimp only
    omega
  rw [hsupplied]
  exact ⟨hpos, _, fun obdbytes i => fill_copyRets _ _ obdbytes i⟩

/-! ## The value -/

/-- A run that succeeds, whatever was in the array. -/
theorem getobdvalue_success {cmd : Nat} {numbytes : Int} {conv : Option OBDConvFunc}
    {x : Exchange} {fuel : Nat} {obdbytes : Nat → Nat} {v : Option Rat}
    (h : getobdvalue cmd numbytes conv x fuel obdbytes = some (.success, v)) :
    ∃ r, getobdbytes 0x01 cmd numbytes x fuel = some r ∧ r.status = .success ∧
      ∀ obdbytes, getobdvalue cmd numbytes conv x fuel obdbytes =
        some (.success, some (valueOf conv (r.numbytesReturned.getD 0) (r.fill obdbytes))) := by
  unfold getobdvalue at h ⊢
  obtain ⟨r, hr, hv⟩ := Option.map_eq_some_iff.mp h
  by_cases hs : r.status = .success
  · refine ⟨r, hr, hs, fun obdbytes => ?_⟩
    rw [hr, Option.map_some, if_neg (not_not.mpr hs)]
  · rw [if_pos hs] at hv
    exact absurd (Prod.mk.inj hv).1 hs

/-- **The value is determined by the reply.** Where `getobdvalue` succeeds with
the decoder of a PID, what it stores does not depend on what was in its array,
exactly if the reply supplies as many bytes as the decoder reads. -/
theorem getobdvalue_determined_iff {cmd : Nat} {numbytes : Int} {c : ObdConversion}
    {x : Exchange} {fuel : Nat} {obdbytes : Nat → Nat} {v : Option Rat}
    (h : getobdvalue cmd numbytes (some c.conv) x fuel obdbytes = some (.success, v)) :
    (∀ before before' : Nat → Nat,
      getobdvalue cmd numbytes (some c.conv) x fuel before =
        getobdvalue cmd numbytes (some c.conv) x fuel before') ↔
      c.arity ≤ suppliedValues cmd x.retbuf := by
  obtain ⟨r, hr, hs, hvalue⟩ := getobdvalue_success h
  obtain ⟨hpos, values, hfill⟩ := getobdbytes_fill hr hs
  have harity : c.arity = 1 ∨ c.arity = 2 := c.scale_bytes
  constructor
  · -- with one byte supplied and two read, the second is what was there
    intro hsame
    by_contra hshort
    have h2 : c.arity = 2 := by omega
    have hone : suppliedValues cmd x.retbuf = 1 := by omega
    have heq := hsame (fun _ => 0) fun _ => 1
    rw [hvalue, hvalue] at heq
    have hval := Option.some.inj (Prod.mk.inj (Option.some.inj heq)).2
    simp only [valueOf, hfill, hone] at hval
    exact ObdConversion.conv_ne h2 (by norm_num) hval
  · intro hle before before'
    rw [hvalue, hvalue]
    congr 3
    refine ObdConversion.conv_congr ?_ fun h2 => ?_
    · rw [hfill, hfill, if_pos hpos, if_pos hpos]
    · rw [hfill, hfill, if_pos (by omega), if_pos (by omega)]

/-- A reply with one byte for the engine speed, which has two. -/
def oneByteReply : Exchange := ⟨6, [⟨.data "41 0C 1A\r\r>".toList, 0⟩]⟩

/-- A reply with one byte to a request for the engine speed is accepted, and the
second byte of the value is whatever was in the array. -/
theorem oneByteReply_undetermined : ¬ ∀ (cmd : Nat) (numbytes : Int) (c : ObdConversion)
    (x : Exchange) (fuel : Nat) (before before' : Nat → Nat) (v v' : Rat),
    getobdvalue cmd numbytes (some c.conv) x fuel before = some (.success, some v) →
    getobdvalue cmd numbytes (some c.conv) x fuel before' = some (.success, some v') →
    v = v' := by
  intro h
  have hrun : ∀ before, getobdvalue 0x0C 2 (some (ObdConversion.conv .pid0C)) oneByteReply 2 before =
      some (.success, some (valueOf (some (ObdConversion.conv .pid0C)) 1
        (Function.update before 0 0x1A))) := by
    intro before
    rfl
  have heq := h 0x0C 2 .pid0C oneByteReply 2 (fun _ => 0) (fun _ => 4) _ _ (hrun _) (hrun _)
  dsimp only [valueOf] at heq
  exact ObdConversion.conv_ne (c := .pid0C) rfl (by decide) heq

/-- A reply with both bytes gives the same value, whatever was in the array. -/
theorem twoByteReply_determined :
    getobdvalue 0x0C 2 (some (ObdConversion.conv .pid0C))
        ⟨6, [⟨.data "41 0C 1A F8\r\r>".toList, 0⟩]⟩ 2 (fun _ => 0) =
      getobdvalue 0x0C 2 (some (ObdConversion.conv .pid0C))
        ⟨6, [⟨.data "41 0C 1A F8\r\r>".toList, 0⟩]⟩ 2 (fun _ => 4) := by
  have hrun : getobdvalue 0x0C 2 (some (ObdConversion.conv .pid0C))
      ⟨6, [⟨.data "41 0C 1A F8\r\r>".toList, 0⟩]⟩ 2 (fun _ => 0) = some (.success, _) := rfl
  exact (getobdvalue_determined_iff hrun).mpr (by decide) _ _

/-! ## Trouble codes -/

/-- `getnumobderrors`, with what is in `obdbytes` before. -/
def getnumobderrors (x : Exchange) (fuel : Nat) (obdbytes : Nat → Nat) : Option Nat :=
  (getobdbytes 0x01 0x01 0 x fuel).map fun r =>
    if r.status ≠ .success ∨ r.numbytesReturned.getD 0 = 0 then 0
    else if 0 < r.fill obdbytes 0 then r.fill obdbytes 0 &&& 0x7F
    else 0

/-- What `getobderrorcodes` sends and prints; and what it returns, and stores in
`retvals` and `*numbytes_returned`. -/
structure ErrorCodes where
  sent : List (List Char)
  printed : List Char
  result : ObdBytes

/-- `getobderrorcodes`, over the exchanges that it meets, with what is in
`codecount` before. -/
def getobderrorcodes : List Exchange → Nat → (Nat → Nat) → Option ErrorCodes
  | [], _, _ => none
  | x :: xs, fuel, codecount =>
    (getobdbytes 0x01 0x01 0 x fuel).bind fun ret =>
      let sent := [sendbuf 0x01 0x01 0]
      if ret.status ≠ .success then some ⟨sent, [], ⟨ret.status, [], none⟩⟩
      else
        let codecount := ret.fill codecount 0
        let numtroubles := toInt ((codecount &&& 0xFFFFFF7F : Nat) : Int)
        let mil := if codecount &&& 0x80 ≠ 0 then "on".toList else "off".toList
        let printed := fmtD numtroubles ++ " trouble codes set [MIL is ".toList ++ mil ++
          "]\n".toList
        if numtroubles = 0 then some ⟨sent, printed, ⟨.success, [], some 0⟩⟩
        else
          xs.head?.bind fun y => (getobdbytes 0x03 0x00 0 y fuel).map fun ret =>
            ⟨sent ++ [sendbuf 0x03 0x00 0], printed, ret⟩

end ObdGpsLogger.Obdcomm
