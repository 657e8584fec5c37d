import Mathlib.Algebra.Order.Field.Basic
import ObdGpsLogger.CLib.FloatText
import ObdGpsLogger.Sim.LogReplay
import ObdGpsLogger.Sql.Table

/-!
# What is played back of the rows of a log

The `SELECT` of `logger_simgen_getvalue` in `gen_logger.c` takes the last sample
before a time and the first one that is not, and interpolates between the two.
`estimate` is that statement on the rows of the table `obd`.

`estimate_between` is what it is worth: between two samples with nothing in
between, the value is on the line from the one to the other, and a sample is
played back as it was stored.

Mirroring notes:
- The time stands in the statement as `%f` prints it (`millionths`).
- Where two samples have the same time, SQLite may take either; here it is the
  first one.
-/

namespace ObdGpsLogger.Sim

open CLib Sql

/-! ## The statement -/

/-- The name of the column `time`. -/
def timeColumn : Name := "time".toList

section Statement

variable (t : Table Rat)

/-- The time `obd.time` of a row, if it is not NULL. -/
def sampleTime (r : List (Option Rat)) : Option Rat := cell t.columns r timeColumn

/-- The times of all the samples that have one. -/
def sampleTimes : List Rat := t.rows.filterMap (sampleTime t)

/-- `SELECT MAX(obd.time) FROM obd WHERE time < at`. -/
def lastBefore (x : Rat) : Option Rat := ((sampleTimes t).filter (· < x)).max?

/-- `SELECT MIN(obd.time) FROM obd WHERE time >= at`. -/
def firstFrom (x : Rat) : Option Rat := ((sampleTimes t).filter (x ≤ ·)).min?

/-- `FROM obd s, obd e WHERE s.time = … AND e.time = …`: its first line. -/
def neighbours (x : Rat) : Option (List (Option Rat) × List (Option Rat)) :=
  (t.rows.flatMap fun s => t.rows.map fun e => (s, e)).find? fun p =>
    sqlEq (sampleTime t p.1) (lastBefore t x) && sqlEq (sampleTime t p.2) (firstFrom t x)

/-- `s.c + ((at-s.time)/(e.time-s.time))*(e.c - s.c)`; `NULL` where there is a
`NULL` in it. -/
def interpolated (column : Name) (x : Rat) (s e : List (Option Rat)) : Option Rat := do
  let sTime ← sampleTime t s
  let eTime ← sampleTime t e
  let sValue ← cell t.columns s column
  let eValue ← cell t.columns e column
  if eTime - sTime = 0 then none
  else some (sValue + (x - sTime) / (eTime - sTime) * (eValue - sValue))

/-- `sqlite3_column_double` of the `SELECT`, unless it cannot be prepared. -/
def estimate (column : Name) (seltime : Rat) : Option Rat :=
  if column ∈ t.columns ∧ timeColumn ∈ t.columns then
    some (columnDouble ((neighbours t (millionths seltime)).bind fun p =>
      interpolated t column (millionths seltime) p.1 p.2))
  else none

/-- The log as the generator sees it, for a table `obd`. -/
def LogFile.ofTable : LogFile :=
  logOf (t.columns.map String.ofList) (t.rows.map (sampleTime t))
    fun column seltime => estimate t column.toList seltime

end Statement

/-! ## The two samples -/

section Samples

variable {t : Table Rat}

/-- Two samples on both sides of a time, with none between them. -/
structure Around (t : Table Rat) (x : Rat) (s e : List (Option Rat)) (sTime eTime : Rat) :
    Prop where
  s_mem : s ∈ t.rows
  e_mem : e ∈ t.rows
  s_time : sampleTime t s = some sTime
  e_time : sampleTime t e = some eTime
  before : sTime < x
  behind : x ≤ eTime
  adjacent : ∀ u ∈ sampleTimes t, u ≤ sTime ∨ eTime ≤ u

theorem mem_sampleTimes {u : Rat} : u ∈ sampleTimes t ↔ ∃ r ∈ t.rows, sampleTime t r = some u :=
  List.mem_filterMap

/-- Two values are equal to SQLite if both are there and they are the same:
`NULL` is equal to nothing. -/
theorem sqlEq_some {a b : Option Rat} : sqlEq a b = true ↔ ∃ v, a = some v ∧ b = some v := by
  unfold sqlEq
  split
  · simp [Comparison.holds, eq_comm]
  · next h =>
    refine iff_of_false Bool.false_ne_true ?_
    rintro ⟨v, rfl, rfl⟩
    exact h v v rfl rfl

theorem lastBefore_eq {x u : Rat} (h : lastBefore t x = some u) :
    u < x ∧ ∀ v ∈ sampleTimes t, v < x → v ≤ u := by
  obtain ⟨hmem, hmax⟩ := List.max?_eq_some_iff.mp h
  obtain ⟨-, hlt⟩ := List.mem_filter.mp hmem
  exact ⟨of_decide_eq_true hlt, fun v hv hlt =>
    hmax v (List.mem_filter.mpr ⟨hv, decide_eq_true hlt⟩)⟩

theorem firstFrom_eq {x u : Rat} (h : firstFrom t x = some u) :
    x ≤ u ∧ ∀ v ∈ sampleTimes t, x ≤ v → u ≤ v := by
  obtain ⟨hmem, hmin⟩ := List.min?_eq_some_iff.mp h
  obtain ⟨-, hle⟩ := List.mem_filter.mp hmem
  exact ⟨of_decide_eq_true hle, fun v hv hle =>
    hmin v (List.mem_filter.mpr ⟨hv, decide_eq_true hle⟩)⟩

/-- The pair of samples that the two joins find for a time is around it: one
before, one behind, and none between them. -/
theorem neighbours_around {x : Rat} {s e : List (Option Rat)}
    (h : neighbours t x = some (s, e)) : ∃ sTime eTime, Around t x s e sTime eTime := by
  have hmem := List.mem_of_find?_eq_some h
  have htest := List.find?_some h
  obtain ⟨s', hs, hmem⟩ := List.mem_flatMap.mp hmem
  obtain ⟨e', he, hpair⟩ := List.mem_map.mp hmem
  obtain ⟨rfl, rfl⟩ := Prod.mk.inj hpair
  obtain ⟨hfrom, hto⟩ := Bool.and_eq_true_iff.mp htest
  obtain ⟨sTime, hstime, hlast⟩ := sqlEq_some.mp hfrom
  obtain ⟨eTime, hetime, hfirst⟩ := sqlEq_some.mp hto
  obtain ⟨hlt, hmax⟩ := lastBefore_eq hlast
  obtain ⟨hle, hmin⟩ := firstFrom_eq hfirst
  refine ⟨sTime, eTime, hs, he, hstime, hetime, hlt, hle, fun u hu => ?_⟩
  rcases lt_or_ge u x with hlt' | hge
  · exact Or.inl (hmax u hu hlt')
  · exact Or.inr (hmin u hu hge)

/-- Between the first and the last sample there is something to join. -/
theorem neighbours_isSome {x u v : Rat} (hu : u ∈ sampleTimes t) (hv : v ∈ sampleTimes t)
    (hlt : u < x) (hle : x ≤ v) : (neighbours t x).isSome := by
  have hbefore : u ∈ (sampleTimes t).filter (· < x) := List.mem_filter.mpr ⟨hu, decide_eq_true hlt⟩
  have hfrom : v ∈ (sampleTimes t).filter (x ≤ ·) := List.mem_filter.mpr ⟨hv, decide_eq_true hle⟩
  obtain ⟨sTime, hlast⟩ := Option.isSome_iff_exists.mp (List.isSome_max?_of_mem hbefore)
  obtain ⟨eTime, hfirst⟩ := Option.isSome_iff_exists.mp (List.isSome_min?_of_mem hfrom)
  obtain ⟨s, hs, hstime⟩ := mem_sampleTimes.mp
    (List.mem_of_mem_filter (List.max?_eq_some_iff.mp hlast).1)
  obtain ⟨e, he, hetime⟩ := mem_sampleTimes.mp
    (List.mem_of_mem_filter (List.min?_eq_some_iff.mp hfirst).1)
  refine List.find?_isSome.mpr ⟨(s, e), ?_, ?_⟩
  · exact List.mem_flatMap.mpr ⟨s, hs, List.mem_map_of_mem he⟩
  · exact Bool.and_eq_true_iff.mpr
      ⟨sqlEq_some.mpr ⟨sTime, hstime, hlast⟩, sqlEq_some.mpr ⟨eTime, hetime, hfirst⟩⟩

/-! ## The value -/

/-- `w` is on the line from the value of one sample to that of the other, at
time `x`. -/
structure OnLine (x sTime eTime sValue eValue w : Rat) : Prop where
  slope : (w - sValue) * (eTime - sTime) = (x - sTime) * (eValue - sValue)
  min_le : min sValue eValue ≤ w
  le_max : w ≤ max sValue eValue
  exact_end : x = eTime → w = eValue

theorem onLine {x sTime eTime sValue eValue : Rat} (hlt : sTime < x) (hle : x ≤ eTime) :
    OnLine x sTime eTime sValue eValue
      (sValue + (x - sTime) / (eTime - sTime) * (eValue - sValue)) := by
  have hlength : 0 < eTime - sTime := by linarith
  have hne : eTime - sTime ≠ 0 := hlength.ne'
  have hpos : 0 ≤ (x - sTime) / (eTime - sTime) := div_nonneg (by linarith) hlength.le
  have hone : (x - sTime) / (eTime - sTime) ≤ 1 := (div_le_one hlength).mpr (by linarith)
  refine ⟨?_, ?_, ?_, ?_⟩
  · rw [add_sub_cancel_left]
    field_simp
  · rcases le_total sValue eValue with h | h
    · rw [min_eq_left h]
      nlinarith
    · rw [min_eq_right h]
      nlinarith
  · rcases le_total sValue eValue with h | h
    · rw [max_eq_right h]
      nlinarith
    · rw [max_eq_left h]
      nlinarith
  · rintro rfl
    rw [div_self hne]
    ring

/-- What is played back of a column at a time, when it is between two samples:
`NULL` reads as 0. -/
def PlaysLine (t : Table Rat) (column : Name) (x : Rat) (s e : List (Option Rat))
    (sTime eTime w : Rat) : Prop :=
  (∀ sValue eValue, cell t.columns s column = some sValue → cell t.columns e column = some eValue →
    OnLine x sTime eTime sValue eValue w) ∧
  (cell t.columns s column = none ∨ cell t.columns e column = none → w = 0)

theorem interpolated_plays {x sTime eTime : Rat} {s e : List (Option Rat)}
    (h : Around t x s e sTime eTime) (column : Name) :
    PlaysLine t column x s e sTime eTime (columnDouble (interpolated t column x s e)) := by
  have hne : eTime - sTime ≠ 0 := by
    have hlt := h.before
    have hle := h.behind
    intro hzero
    linarith
  unfold interpolated
  rw [h.s_time, h.e_time]
  refine ⟨fun sValue eValue hs he => ?_, fun hnull => ?_⟩
  · rw [hs, he]
    simp only [Option.bind_eq_bind, Option.bind_some, if_neg hne]
    exact onLine h.before h.behind
  · rcases hnull with hs | he
    · rw [hs]
      rfl
    · rw [he]
      cases cell t.columns s column <;> rfl

/-- **What is played back** between two samples is the value on the line from
the one to the other, whatever other samples there are; at the first one or in
front of it, or behind the last, it is 0. -/
theorem estimate_between {column : Name} (hcolumn : column ∈ t.columns)
    (htime : timeColumn ∈ t.columns) (seltime : Rat) :
    ∃ w, estimate t column seltime = some w ∧
      ((∃ s e sTime eTime, Around t (millionths seltime) s e sTime eTime ∧
          PlaysLine t column (millionths seltime) s e sTime eTime w) ∨
        ((∀ u ∈ sampleTimes t, millionths seltime ≤ u) ∨
          ∀ u ∈ sampleTimes t, u < millionths seltime) ∧ w = 0) := by
  unfold estimate
  rw [if_pos ⟨hcolumn, htime⟩]
  refine ⟨_, rfl, ?_⟩
  cases hpair : neighbours t (millionths seltime) with
  | some p =>
    obtain ⟨s, e⟩ := p
    obtain ⟨sTime, eTime, haround⟩ := neighbours_around hpair
    exact Or.inl ⟨s, e, sTime, eTime, haround, interpolated_plays haround column⟩
  | none =>
    refine Or.inr ⟨?_, rfl⟩
    by_contra hboth
    obtain ⟨hsome, hsome'⟩ := not_or.mp hboth
    push Not at hsome hsome'
    obtain ⟨u, hu, hlt⟩ := hsome
    obtain ⟨v, hv, hle⟩ := hsome'
    have := neighbours_isSome hu hv hlt hle
    rw [hpair] at this
    cases this

end Samples

/-- Two samples of the speed, ten seconds apart. -/
def twoSpeeds : Table Rat where
  columns := ["vss".toList, timeColumn]
  rows := [[some 50, some 100], [some 70, some 110]]
  width := by decide

/-- Four seconds on it is 58 km/h. -/
example : estimate twoSpeeds "vss".toList 104 = some 58 := by decide +kernel

theorem estimate_between_twoSpeeds : ∃ w, estimate twoSpeeds "vss".toList 104 = some w ∧
    ((∃ s e sTime eTime, Around twoSpeeds (millionths 104) s e sTime eTime ∧
        PlaysLine twoSpeeds "vss".toList (millionths 104) s e sTime eTime w) ∨
      ((∀ u ∈ sampleTimes twoSpeeds, millionths 104 ≤ u) ∨
        ∀ u ∈ sampleTimes twoSpeeds, u < millionths 104) ∧ w = 0) :=
  estimate_between (by decide) (by decide) 104

end ObdGpsLogger.Sim
