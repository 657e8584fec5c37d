import ObdGpsLogger.Obdinfo.ServiceCommands

/-!
# The binary search for a PID

`obdGetCmdForPID_recursive` of `src/obdinfo/obdservicecommands.c`, which is kept
beside the linear search. It compares the last row and the middle one, and goes
on without them: to the right of the middle, or to the left.

A range can end up empty, or with its last index in front of its first, and the
row at the last index is read all the same. `obdGetCmdForPIDRecursive_eq` says that this
row is always there, and that the outcome is that of the linear search.

Mirroring notes:
- The table is an argument here. A row that is read outside of it has no result
  (`none`).
- Indices are `int`. The sum of two of them does not run over: tables have far
  fewer than 2^30 rows.
-/

namespace ObdGpsLogger.Obdinfo

/-- `obdcmds_mode1[idx]`, if there is such a row. -/
def rowAt (cmds : List ObdServiceCmd) (idx : Int) : Option ObdServiceCmd :=
  if 0 ≤ idx then cmds[idx.toNat]? else none

/-- The middle of two indices, rounded towards zero, is not below the first and
not above the last. -/
theorem middle_bounds {firstIdx lastIdx : Int} (h : firstIdx < lastIdx) :
    firstIdx ≤ (lastIdx + firstIdx).tdiv 2 ∧ (lastIdx + firstIdx).tdiv 2 ≤ lastIdx := by
  rw [Int.tdiv_eq_ediv]
  have hsign : Int.sign 2 = 1 := rfl
  split <;> omega

/-- `obdGetCmdForPID_recursive` between two indices. `none`: it reads outside of
the table. -/
def obdGetCmdForPIDRecursive (cmds : List ObdServiceCmd) (pid : Nat) (firstIdx lastIdx : Int) :
    Option (Option ObdServiceCmd) :=
  match rowAt cmds lastIdx with
  | some last =>
    if pid = last.cmdid then some (some last)
    else if _h : lastIdx ≤ firstIdx then some none
    else
      let middleIdx := (lastIdx + firstIdx).tdiv 2
      match rowAt cmds middleIdx with
      | some middle =>
        if pid = middle.cmdid then some (some middle)
        else if middle.cmdid < pid then
          obdGetCmdForPIDRecursive cmds pid (middleIdx + 1) (lastIdx - 1)
        else obdGetCmdForPIDRecursive cmds pid firstIdx (middleIdx - 1)
      | none => none
  | none => none
  termination_by (lastIdx - firstIdx).toNat
  decreasing_by
    all_goals
      have hmiddle := middle_bounds (Int.not_le.mp _h)
      omega

/-- The linear search through a table of commands. -/
def findCmd (cmds : List ObdServiceCmd) (pid : Nat) : Option ObdServiceCmd :=
  cmds.find? fun o => pid == o.cmdid

theorem obdGetCmdForPID_eq (pid : Nat) : obdGetCmdForPID pid = findCmd obdcmdsMode1 pid := rfl

/-! ## The two searches -/

/-- A table with its rows in the order of their PIDs, from PID 0 on. -/
structure PidTable where
  rows : List ObdServiceCmd
  ascending : rows.Pairwise fun a b => a.cmdid < b.cmdid
  first : rows.head?.map ObdServiceCmd.cmdid = some 0

/-- The index of the final row of a table. -/
def PidTable.last (t : PidTable) : Int := t.rows.length - 1

section Ranges

variable {t : PidTable}

theorem rowAt_eq_some {cmds : List ObdServiceCmd} {idx : Int} {row : ObdServiceCmd} :
    rowAt cmds idx = some row ↔ ∃ i : Nat, idx = i ∧ cmds[i]? = some row := by
  unfold rowAt
  constructor
  · intro h
    split at h
    · next hpos => exact ⟨idx.toNat, (Int.toNat_of_nonneg hpos).symm, h⟩
    · cases h
  · rintro ⟨i, rfl, h⟩
    rw [if_pos (Int.natCast_nonneg i)]
    exact h

/-- An index from 0 up to the last index of a table has a row. -/
theorem PidTable.exists_row {idx : Int} (hpos : 0 ≤ idx) (hlast : idx ≤ t.last) :
    ∃ row, rowAt t.rows idx = some row := by
  have hlt : idx.toNat < t.rows.length := by
    unfold PidTable.last at hlast
    omega
  exact ⟨t.rows[idx.toNat], (if_pos hpos).trans (List.getElem?_eq_getElem hlt)⟩

/-- The rows of a table are in the order of their PIDs, so a later row has the
larger PID. -/
theorem PidTable.cmdid_lt {i j : Int} {a b : ObdServiceCmd} (ha : rowAt t.rows i = some a)
    (hb : rowAt t.rows j = some b) (h : i < j) : a.cmdid < b.cmdid := by
  obtain ⟨i, rfl, ha⟩ := rowAt_eq_some.mp ha
  obtain ⟨j, rfl, hb⟩ := rowAt_eq_some.mp hb
  obtain ⟨hi, rfl⟩ := List.getElem?_eq_some_iff.mp ha
  obtain ⟨hj, rfl⟩ := List.getElem?_eq_some_iff.mp hb
  exact List.pairwise_iff_getElem.mp t.ascending i j hi hj (Int.ofNat_lt.mp h)

theorem PidTable.lt_of_cmdid_lt {i j : Int} {a b : ObdServiceCmd} (ha : rowAt t.rows i = some a)
    (hb : rowAt t.rows j = some b) (h : a.cmdid < b.cmdid) : i < j := by
  by_contra hle
  rcases Int.lt_or_eq_of_le (Int.not_lt.mp hle) with hji | rfl
  · have hrev := t.cmdid_lt hb ha hji
    omega
  · obtain rfl := Option.some.inj (ha.symm.trans hb)
    exact Nat.lt_irrefl _ h

/-- The first row of a table is that of PID 0, where the recursive search
begins. -/
theorem PidTable.cmdid_zero {row : ObdServiceCmd} (h : rowAt t.rows 0 = some row) :
    row.cmdid = 0 := by
  have hhead : t.rows.head? = some row := by rw [List.head?_eq_getElem?]; exact h
  have hfirst := t.first
  rw [hhead] at hfirst
  exact Option.some.inj hfirst

/-- The linear search finds the row with a PID. -/
theorem PidTable.findCmd_row {i : Int} {row : ObdServiceCmd} (h : rowAt t.rows i = some row) :
    findCmd t.rows row.cmdid = some row := by
  obtain ⟨n, rfl, hn⟩ := rowAt_eq_some.mp h
  cases hfind : findCmd t.rows row.cmdid with
  | none =>
    have hno := List.find?_eq_none.mp hfind row (List.mem_of_getElem? hn)
    exact absurd (beq_self_eq_true row.cmdid) hno
  | some o =>
    have hid : row.cmdid = o.cmdid := by simpa using List.find?_some hfind
    obtain ⟨j, hj⟩ := List.getElem?_of_mem (List.mem_of_find?_eq_some hfind)
    have ho : rowAt t.rows j = some o := rowAt_eq_some.mpr ⟨j, rfl, hj⟩
    -- rows with one PID have one index
    rcases Int.lt_trichotomy n j with hlt | heq | hlt
    · have hids := t.cmdid_lt h ho hlt
      omega
    · rw [heq, ho] at h
      exact h
    · have hids := t.cmdid_lt ho h hlt
      omega

/-- What the linear search finds is in a range. -/
def PidTable.Within (t : PidTable) (pid : Nat) (firstIdx lastIdx : Int) : Prop :=
  ∀ idx row, rowAt t.rows idx = some row → row.cmdid = pid → firstIdx ≤ idx ∧ idx ≤ lastIdx

/-- **A range** that can hold the PID is searched to the same outcome; it may
be empty, as long as there is a row at its last index. -/
theorem searched_range {pid : Nat} : ∀ {firstIdx lastIdx : Int}, 0 ≤ firstIdx → 0 ≤ lastIdx →
    lastIdx ≤ t.last → t.Within pid firstIdx lastIdx →
    obdGetCmdForPIDRecursive t.rows pid firstIdx lastIdx = some (findCmd t.rows pid) := by
  intro firstIdx lastIdx
  fun_induction obdGetCmdForPIDRecursive t.rows pid firstIdx lastIdx with
  | case1 firstIdx lastIdx last hrow hpid =>
    intro _ _ _ _
    rw [hpid, t.findCmd_row hrow]
  | case2 firstIdx lastIdx last hrow hne hle =>
    intro _ _ _ hwithin
    -- a row with the PID would be the last one
    refine congrArg some (Eq.symm (List.find?_eq_none.mpr fun o ho hpid => ?_))
    obtain ⟨i, hi⟩ := List.getElem?_of_mem ho
    have hrow' : rowAt t.rows i = some o := rowAt_eq_some.mpr ⟨i, rfl, hi⟩
    have hid : pid = o.cmdid := beq_iff_eq.mp hpid
    obtain ⟨hfirst, hlast⟩ := hwithin i o hrow' hid.symm
    obtain rfl : (i : Int) = lastIdx := by omega
    rw [hrow] at hrow'
    exact hne (hid.trans (congrArg ObdServiceCmd.cmdid (Option.some.inj hrow')).symm)
  | case3 firstIdx lastIdx last hrow hne hle middleIdx middle hmid hpid =>
    intro _ _ _ _
    rw [hpid, t.findCmd_row hmid]
  | case4 firstIdx lastIdx last hrow hne hle middleIdx middle hmid hne' hlt ih =>
    intro hfirst _ hlast hwithin
    have hmiddle := middle_bounds (Int.not_le.mp hle)
    refine ih (by omega) (by omega) (by omega) fun idx row hidx hid => ?_
    have hright := t.lt_of_cmdid_lt hmid hidx (by omega)
    have hlast' : idx ≠ lastIdx := by
      rintro rfl
      rw [hrow] at hidx
      exact hne (hid.symm.trans (congrArg ObdServiceCmd.cmdid (Option.some.inj hidx)).symm)
    have hrange := hwithin idx row hidx hid
    omega
  | case5 firstIdx lastIdx last hrow hne hle middleIdx middle hmid hne' hnlt ih =>
    intro hfirst _ hlast hwithin
    have hmiddle := middle_bounds (Int.not_le.mp hle)
    -- the PID is below that of the middle row, which is not the first row then
    have hzero : middleIdx ≠ 0 := by
      intro h0
      rw [h0] at hmid
      have hid := t.cmdid_zero hmid
      omega
    refine ih hfirst (by omega) (by omega) fun idx row hidx hid => ?_
    have hleft := t.lt_of_cmdid_lt hidx hmid (by omega)
    have hrange := hwithin idx row hidx hid
    omega
  | case6 firstIdx lastIdx last hrow hne hle middleIdx hnone =>
    intro hfirst _ hlast _
    have hmiddle := middle_bounds (Int.not_le.mp hle)
    obtain ⟨row, hrow'⟩ := t.exists_row (Int.le_trans hfirst hmiddle.1)
      (Int.le_trans hmiddle.2 hlast)
    rw [hnone] at hrow'
    cases hrow'
  | case7 firstIdx lastIdx hnone =>
    intro _ hpos hlast _
    obtain ⟨row, hrow⟩ := t.exists_row hpos hlast
    rw [hnone] at hrow
    cases hrow

theorem PidTable.last_nonneg : 0 ≤ t.last := by
  have hfirst := t.first
  unfold PidTable.last
  cases hrows : t.rows with
  | nil =>
    rw [hrows] at hfirst
    cases hfirst
  | cons row rows =>
    rw [List.length_cons]
    omega

/-- All rows are in the range from the first to the last. -/
theorem PidTable.within_table (pid : Nat) : t.Within pid 0 t.last := by
  intro idx row hidx _
  obtain ⟨i, rfl, hi⟩ := rowAt_eq_some.mp hidx
  obtain ⟨hlt, -⟩ := List.getElem?_eq_some_iff.mp hi
  unfold PidTable.last
  omega

/-- **The binary search** ends, reads rows of the table only, and finds what the
linear search finds. -/
theorem obdGetCmdForPIDRecursive_eq (t : PidTable) (pid : Nat) :
    obdGetCmdForPIDRecursive t.rows pid 0 t.last = some (findCmd t.rows pid) :=
  searched_range (Int.le_refl 0) PidTable.last_nonneg (Int.le_refl _) (PidTable.within_table pid)

end Ranges

/-- `obdcmds_mode1` without its empty row. -/
def knownRows : PidTable where
  rows := obdcmdsMode1.dropLast
  ascending := by
    have hids : (obdcmdsMode1.dropLast.map ObdServiceCmd.cmdid).Pairwise (· < ·) := by
      rw [List.map_dropLast, cmdids_eq, List.dropLast_concat]
      exact List.pairwise_lt_range
    exact List.pairwise_map.mp hids
  first := rfl

/-- On the rows of the table the searches agree: the empty row is never found. -/
theorem knownRows_searched (pid : Nat) :
    obdGetCmdForPIDRecursive knownRows.rows pid 0 knownRows.last = some (obdGetCmdForPID pid) := by
  have hempty : obdcmdsMode1 = knownRows.rows ++ [⟨0, 0, none, none, 0, 0, none, none, none⟩] := rfl
  have hsearch := searched_range (Int.le_refl 0) knownRows.last_nonneg (Int.le_refl _)
    (knownRows.within_table pid)
  rw [hsearch, obdGetCmdForPID_eq, hempty]
  unfold findCmd
  rw [List.find?_append]
  cases hfind : knownRows.rows.find? fun o => pid == o.cmdid with
  | some o => rfl
  | none =>
    have hpos : pid ≠ 0 := by
      rintro rfl
      cases hfind
    rw [Option.none_or, List.find?_cons_of_neg (by simpa using hpos)]
    rfl

end ObdGpsLogger.Obdinfo
