import Mathlib.Data.List.MinMax
import ObdGpsLogger.Sim.GenLogger

/-!
# A log, played back over and over

The Logger generator answers from the log at the time since it was created,
and starts over when the log is at its end (`LoggerGen.seltime`). What is asked
of the time it selects (`Replays`) is that it is a time of the log, and that it
is the time since the start up to whole lengths of the log.

A log all of whose samples have one time, or that has none, has no length: the
loop that takes lengths off goes on for ever. `replays_iff` says that there is
an answer for every other log.
-/

namespace ObdGpsLogger.Sim

open CLib Obdinfo

/-! ## The times of a log -/

/-- `sqlite3_column_double` of an aggregate: `NULL` reads as 0. -/
def columnDouble (value : Option Rat) : Rat := value.getD 0

/-- The first and the last of the times in `obd`, as `MIN` and `MAX` pick them:
`NULL` does not count. -/
def timeRange (times : List (Option Rat)) : Rat × Rat :=
  (columnDouble (times.filterMap id).min?, columnDouble (times.filterMap id).max?)

/-- The log with these columns whose samples were taken at these times. -/
def logOf (columns : List String) (times : List (Option Rat))
    (est : String → Rat → Option Rat) : LogFile :=
  { columns := columns
    minTime := (timeRange times).1
    maxTime := (timeRange times).2
    est := est }

/-- The log has a length: not all of its samples are of one and the same time. -/
def HasLength (times : List (Option Rat)) : Prop :=
  ∃ s t : Rat, some s ∈ times ∧ some t ∈ times ∧ s < t

theorem timeRange_spec (times : List (Option Rat)) :
    (timeRange times).1 ≤ (timeRange times).2 ∧
      ((timeRange times).1 < (timeRange times).2 ↔ HasLength times) := by
  have hmem : ∀ s, some s ∈ times ↔ s ∈ times.filterMap id := by simp
  unfold timeRange HasLength
  simp only [hmem]
  generalize times.filterMap id = ts
  cases hmin : ts.min? with
  | none =>
    obtain rfl := List.min?_eq_none_iff.mp hmin
    simp [columnDouble]
  | some lo =>
    cases hmax : ts.max? with
    | none =>
      obtain rfl := List.max?_eq_none_iff.mp hmax
      cases hmin
    | some hi =>
      obtain ⟨hlo, hle⟩ := List.min?_eq_some_iff.mp hmin
      obtain ⟨hhi, hge⟩ := List.max?_eq_some_iff.mp hmax
      refine ⟨hle hi hhi, fun h => ⟨lo, hi, hlo, hhi, h⟩, ?_⟩
      rintro ⟨s, t, hs, ht, hlt⟩
      exact (hle s hs).trans_lt (hlt.trans_le (hge t ht))

/-! ## The time that is selected -/

/-- `seltime` is a time of the log, and the time since the start up to whole
lengths of the log. -/
structure InLog (g : LoggerGen) (currtime : Timeval) (seltime : Rat) : Prop where
  min_le : g.db.minTime ≤ seltime
  le_max : seltime ≤ g.db.maxTime
  turns : ∃ k : Int, seltime =
    g.db.minTime + currtime.since g.simstart - k * (g.db.maxTime - g.db.minTime)

/-- The loop ends, at a time that is in the log and as far into it as it should
be. -/
def Replays (g : LoggerGen) (currtime : Timeval) : Prop :=
  ∃ seltime enough, (∀ fuel, enough ≤ fuel → g.seltime fuel currtime = some seltime) ∧
    InLog g currtime seltime

/-- The columns change neither the log nor the start. -/
theorem addColumn_db (g : LoggerGen) (columnname : String) :
    (g.addColumn columnname).db = g.db ∧ (g.addColumn columnname).simstart = g.simstart := by
  unfold LoggerGen.addColumn
  split
  · exact ⟨rfl, rfl⟩
  · split
    · exact ⟨rfl, rfl⟩
    · exact ⟨rfl, rfl⟩

theorem create_db (db : LogFile) (now : Timeval) :
    (loggerSimgenCreate db now).db = db ∧ (loggerSimgenCreate db now).simstart = now := by
  have hfold : ∀ (columns : List String) (g : LoggerGen),
      (columns.foldl LoggerGen.addColumn g).db = g.db ∧
        (columns.foldl LoggerGen.addColumn g).simstart = g.simstart := by
    intro columns
    induction columns with
    | nil => exact fun g => ⟨rfl, rfl⟩
    | cons column columns ih =>
      intro g
      obtain ⟨hdb, hstart⟩ := ih (g.addColumn column)
      obtain ⟨hdb', hstart'⟩ := addColumn_db g column
      exact ⟨hdb.trans hdb', hstart.trans hstart'⟩
  exact hfold ..

/-- **Every run of the loop** that ends selects a time of the log: not before
its first sample, and not behind its last. -/
theorem seltime_inLog {g : LoggerGen} {fuel : Nat} {currtime : Timeval} {seltime : Rat}
    (helapsed : 0 ≤ currtime.since g.simstart)
    (h : g.seltime fuel currtime = some seltime) : InLog g currtime seltime := by
  obtain ⟨hle, hlow, k, hk⟩ := wrapDown_spec h
  refine ⟨hlow _ (by linarith) (by linarith), hle, k, ?_⟩
  rw [hk]
  push_cast
  ring

/-- **The loop ends** if the samples of the log are not all of one time, or no
time has passed: otherwise it takes off nothing. -/
theorem seltime_ends_iff (columns : List String) (times : List (Option Rat))
    (est : String → Rat → Option Rat) (simstart currtime : Timeval) :
    (∃ fuel seltime,
      (loggerSimgenCreate (logOf columns times est) simstart).seltime fuel currtime =
        some seltime) ↔
      HasLength times ∨ currtime.since simstart ≤ 0 := by
  obtain ⟨hrange, hlength⟩ := timeRange_spec times
  obtain ⟨hdb, hstart⟩ := create_db (logOf columns times est) simstart
  unfold LoggerGen.seltime
  rw [hdb, hstart]
  show (∃ fuel seltime, wrapDown (timeRange times).2 ((timeRange times).2 - (timeRange times).1)
    fuel ((timeRange times).1 + currtime.since simstart) = some seltime) ↔ _
  rw [← hlength]
  constructor
  · rintro ⟨fuel, seltime, h⟩
    by_contra hno
    obtain ⟨hflat, hpassed⟩ := not_or.mp hno
    have heq := le_antisymm hrange (not_lt.mp hflat)
    have hlate : (timeRange times).2 < (timeRange times).1 + currtime.since simstart := by
      linarith [not_le.mp hpassed]
    rw [sub_eq_zero.mpr heq.symm, wrapDown_zero hlate] at h
    cases h
  · rintro (hlt | hnone)
    · exact wrapDown_ends (sub_pos.mpr hlt) _
    · exact ⟨1, _, if_neg (not_lt.mpr (by linarith))⟩

/-- **Log replay**: an answer is found if and only if the samples of the log
are not all of one time, or no time has passed. -/
theorem replays_iff (columns : List String) (times : List (Option Rat))
    (est : String → Rat → Option Rat) (simstart currtime : Timeval)
    (helapsed : 0 ≤ currtime.since simstart) :
    Replays (loggerSimgenCreate (logOf columns times est) simstart) currtime ↔
      HasLength times ∨ currtime.since simstart = 0 := by
  have hends := seltime_ends_iff columns times est simstart currtime
  have hstart := (create_db (logOf columns times est) simstart).2
  rw [← hstart] at helapsed
  constructor
  · rintro ⟨seltime, enough, hall, -⟩
    rw [hstart] at helapsed
    exact (hends.mp ⟨enough, seltime, hall enough le_rfl⟩).imp_right (le_antisymm · helapsed)
  · intro h
    obtain ⟨fuel, seltime, hrun⟩ := hends.mpr (h.imp_right le_of_eq)
    exact ⟨seltime, fuel, fun _ hle => wrapDown_mono hle hrun, seltime_inLog helapsed hrun⟩

/-- Two samples, ten seconds apart, twenty-five seconds on. -/
theorem replays_twoSamples :
    Replays (loggerSimgenCreate (logOf ["rpm"] [some 100, some 110] fun _ _ => none) ⟨0, 0⟩)
      ⟨25, 0⟩ :=
  (replays_iff ["rpm"] [some 100, some 110] (fun _ _ => none) ⟨0, 0⟩ ⟨25, 0⟩
    (by decide +kernel)).mpr (.inl ⟨100, 110, by simp, by simp, by norm_num⟩)

/-- One sample, one second on: no run of the loop ends. -/
theorem oneSample_stuck :
    ¬ Replays (loggerSimgenCreate (logOf ["rpm"] [some 100] fun _ _ => none) ⟨0, 0⟩) ⟨1, 0⟩ := by
  rintro ⟨seltime, enough, hall, -⟩
  have hends := (seltime_ends_iff ["rpm"] [some 100] (fun _ _ => none) ⟨0, 0⟩ ⟨1, 0⟩).mp
    ⟨enough, seltime, hall enough le_rfl⟩
  rcases hends with ⟨s, t, hs, ht, hlt⟩ | hnone
  · simp only [List.mem_singleton, Option.some.injEq] at hs ht
    rw [hs, ht] at hlt
    exact lt_irrefl _ hlt
  · exact absurd hnone (by decide +kernel)

end ObdGpsLogger.Sim
