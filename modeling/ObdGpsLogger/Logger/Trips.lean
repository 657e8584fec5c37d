import ObdGpsLogger.Logger.MainLoop

/-!
# The trips of a run

What the trip table is for: it cuts the time of a run into intervals that do
not overlap, and every row of the log is filed under the trip whose interval
contains its time, or under trip 0 before the first one.

`InOrder` says this of a log up to a time. Inside a pass it holds only once
the current trip has been given its end, or while no trip is on (`Pending`):
`starttrip` leaves the end at its default, and a row may be inserted before
the constant update reaches its trip. Each operation of a pass keeps
`Pending` (`pending_beginTrip`, `pending_endTrip`, `pending_insertObd`), and
the constant update turns it into `InOrder` again (`run_inOrder`).
-/

namespace ObdGpsLogger.Logger

open Machine

/-- A row is filed under one of the trips, inside its interval. -/
def Filed (created : List Trip) (trip time : Int) : Prop :=
  ∃ c ∈ created, c.tripid = trip ∧ c.start ≤ time ∧ time ≤ c.endTime

/-- A row is filed under trip 0, and no trip starts before it. -/
def Early (created : List Trip) (trip time : Int) : Prop :=
  trip = 0 ∧ ∀ c ∈ created, time ≤ c.start

/-- The log `l` is in order at the time `t`: the rows of `db` are as they
were, and the trips created since are intervals up to `t`, one after the
other, that contain the rows filed under them. -/
structure InOrder (db : TripTable) (t : Int) (created : List Trip) (l : TripLog) : Prop where
  rows : l.trips.rows = db.rows ++ created
  interval : ∀ c ∈ created, c.start ≤ c.endTime ∧ c.endTime ≤ t
  apart : created.Pairwise fun a b => a.endTime ≤ b.start
  current : l.currenttrip = (created.getLast?.map Trip.tripid).getD 0
  started : l.ontrip = true → created ≠ []
  obd : ∀ r ∈ l.obd, Filed created r.trip r.time
  gps : ∀ r ∈ l.gps, r.time ≤ t ∧ (Early created r.trip r.time ∨ Filed created r.trip r.time)

/-- The log would be in order after an update of the current trip, and is in
order already while no trip is on. -/
structure Pending (db : TripTable) (t : Int) (l : TripLog) : Prop where
  touched : ∃ created, InOrder db t created (l.touchTrip t)
  idle : l.ontrip = false → ∃ created, InOrder db t created l

section Operations

variable {db : TripTable} {t u : Int} {created : List Trip} {l : TripLog}

theorem Filed.mono {trip time : Int} {more : List Trip} (h : Filed created trip time) :
    Filed (created ++ more) trip time := by
  obtain ⟨c, hc, hrest⟩ := h
  exact ⟨c, List.mem_append_left _ hc, hrest⟩

/-- A log that is in order at a time is in order at any later time: no trip in
it lies in the future. -/
theorem InOrder.later (h : InOrder db t created l) (htu : t ≤ u) : InOrder db u created l :=
  { h with
    interval := fun c hc => ⟨(h.interval c hc).1, Int.le_trans (h.interval c hc).2 htu⟩
    gps := fun r hr => ⟨Int.le_trans (h.gps r hr).1 htu, (h.gps r hr).2⟩ }

/-- The current trip is the last one created, if there is one. -/
theorem InOrder.cases_current (h : InOrder db t created l) :
    (created = [] ∧ l.currenttrip = 0) ∨
      ∃ pre c, created = pre ++ [c] ∧ l.currenttrip = c.tripid := by
  have hcurrent := h.current
  cases hlast : created.getLast? with
  | none =>
    rw [hlast] at hcurrent
    exact Or.inl ⟨List.getLast?_eq_none_iff.mp hlast, hcurrent⟩
  | some c =>
    rw [hlast] at hcurrent
    obtain ⟨pre, hpre⟩ := List.getLast?_eq_some_iff.mp hlast
    exact Or.inr ⟨pre, c, hpre, hcurrent⟩

/-- An update of the current trip keeps the log in order: the last interval
grows up to `t`. -/
theorem InOrder.touch (h : InOrder db t created l) :
    ∃ created', InOrder db t created' (l.touchTrip t) := by
  rcases h.cases_current with ⟨rfl, h0⟩ | ⟨pre, c, rfl, hc⟩
  · -- no row has the id 0
    refine ⟨[], { h with rows := ?_ }⟩
    -- only the last row has the current id
    show (updatetrip l.trips l.currenttrip t).rows = _
    rw [updatetrip_rows, map_update_absent, h.rows]
    -- the positions were filed in a trip, or before all of them
    intro r hr
    have := l.trips.positive r hr
    omega
  · -- the last interval grows, so it still contains its rows
    have hcm : c ∈ pre ++ [c] := List.mem_append_right _ (List.mem_singleton_self c)
    have hcint := h.interval c hcm
    have hfiled : ∀ {trip time : Int}, Filed (pre ++ [c]) trip time →
        Filed (pre ++ [{ c with endTime := t }]) trip time := by
      intro trip time ⟨d, hd, hid, hlo, hhi⟩
      rcases List.mem_append.mp hd with hd | hd
      · exact ⟨d, List.mem_append_left _ hd, hid, hlo, hhi⟩
      · obtain rfl := List.mem_singleton.mp hd
        exact ⟨_, List.mem_append_right _ (List.mem_singleton_self _), hid, hlo,
          Int.le_trans hhi hcint.2⟩
    refine ⟨pre ++ [{ c with endTime := t }], ?_, ?_, ?_, ?_, ?_, ?_, ?_⟩
    · show (updatetrip l.trips l.currenttrip t).rows = _
      rw [hc, updatetrip_newest (by rw [h.rows, List.append_assoc]), List.append_assoc]
    · -- the intervals: the last one ends at `t` now
      intro d hd
      rcases List.mem_append.mp hd with hd | hd
      · exact h.interval d (List.mem_append_left _ hd)
      · obtain rfl := List.mem_singleton.mp hd
        exact ⟨Int.le_trans hcint.1 hcint.2, Int.le_refl t⟩
    · -- its start is what it was, so the intervals are still apart
      have hap := List.pairwise_append.mp h.apart
      refine List.pairwise_append.mpr ⟨hap.1, List.pairwise_singleton .., ?_⟩
      intro a ha b hb
      obtain rfl := List.mem_singleton.mp hb
      exact hap.2.2 a ha c (List.mem_singleton_self c)
    · simpa [TripLog.touchTrip] using hc
    · simp
    · exact fun r hr => hfiled (h.obd r hr)
    · intro r hr
      refine ⟨(h.gps r hr).1, ?_⟩
      rcases (h.gps r hr).2 with ⟨h0, hearly⟩ | hf
      · refine Or.inl ⟨h0, fun d hd => ?_⟩
        rcases List.mem_append.mp hd with hd | hd
        · exact hearly d (List.mem_append_left _ hd)
        · obtain rfl := List.mem_singleton.mp hd
          exact hearly c hcm
      · exact Or.inr (hfiled hf)

/-- A log that is in order at an earlier time would be in order after an update
at a later one, too. -/
theorem InOrder.pending (h : InOrder db t created l) (htu : t ≤ u) : Pending db u l :=
  ⟨(h.later htu).touch, fun _ => ⟨created, h.later htu⟩⟩

/-- After an update of the current trip its row ends at `t`. -/
theorem touchTrip_endTime {c : Trip} (hc : c ∈ (l.touchTrip t).trips.rows)
    (hid : c.tripid = l.currenttrip) : c.endTime = t := by
  unfold TripLog.touchTrip at hc
  dsimp only at hc
  rw [updatetrip_rows] at hc
  obtain ⟨d, -, rfl⟩ := List.mem_map.mp hc
  rw [Trip.update_tripid] at hid
  simp [Trip.update, hid]

/-- A row inserted now belongs to the current trip. -/
theorem InOrder.filed_now (h : InOrder db t created (l.touchTrip t)) :
    (created = [] ∧ l.currenttrip = 0) ∨ Filed created l.currenttrip t := by
  rcases h.cases_current with h0 | ⟨pre, c, rfl, hc⟩
  · exact Or.inl h0
  · have hcm : c ∈ pre ++ [c] := List.mem_append_right _ (List.mem_singleton_self c)
    have hrow : c ∈ (l.touchTrip t).trips.rows := h.rows ▸ List.mem_append_right _ hcm
    have hend := touchTrip_endTime hrow hc.symm
    have hint := h.interval c hcm
    exact Or.inr ⟨c, hcm, hc.symm, Int.le_trans hint.1 hint.2, Int.le_of_eq hend.symm⟩

/-- A trip may begin at the time at which a log is in order: an update of the
new trip at that time puts the log in order again. -/
theorem InOrder.beginTrip (h : InOrder db t created l) : Pending db t (l.beginTrip t) := by
  -- the row has no end yet; the update will give it the time it started at
  refine ⟨⟨created ++ [⟨l.trips.nextId, t, t⟩], ?_, ?_, ?_, ?_, ?_, ?_, ?_⟩,
    fun hoff => by cases hoff⟩
  · have hrows : (starttrip l.trips t).2.rows = l.trips.rows ++ [⟨l.trips.nextId, t, noEnd⟩] := rfl
    have hnew := updatetrip_newest hrows t
    unfold TripLog.touchTrip TripLog.beginTrip
    exact hnew.trans (by rw [h.rows, List.append_assoc])
  · intro c hc
    rcases List.mem_append.mp hc with hc | hc
    · exact h.interval c hc
    · obtain rfl := List.mem_singleton.mp hc
      exact ⟨Int.le_refl t, Int.le_refl t⟩
  · refine List.pairwise_append.mpr ⟨h.apart, List.pairwise_singleton .., ?_⟩
    intro a ha b hb
    obtain rfl := List.mem_singleton.mp hb
    exact (h.interval a ha).2
  · simp [TripLog.touchTrip, TripLog.beginTrip, starttrip]
  · simp
  · exact fun r hr => (h.obd r hr).mono
  · intro r hr
    refine ⟨(h.gps r hr).1, ?_⟩
    rcases (h.gps r hr).2 with ⟨h0, hearly⟩ | hf
    · refine Or.inl ⟨h0, fun c hc => ?_⟩
      rcases List.mem_append.mp hc with hc | hc
      · exact hearly c hc
      · obtain rfl := List.mem_singleton.mp hc
        exact (h.gps r hr).1
    · exact Or.inr hf.mono

/-- Ending the trip that is on, at the time of the pass, puts the log in order
again. -/
theorem Pending.inOrder_endTrip (h : Pending db t l) :
    ∃ created, InOrder db t created (l.endTrip t) := by
  obtain ⟨created, hin⟩ := h.touched
  exact ⟨created, { hin with started := fun hoff => by cases hoff }⟩

theorem pending_endTrip (h : Pending db t l) : Pending db t (l.endTrip t) := by
  obtain ⟨created, hin⟩ := h.inOrder_endTrip
  exact hin.pending (Int.le_refl t)

theorem pending_beginTrip (h : Pending db t l) (hoff : l.ontrip = false) :
    Pending db t (l.beginTrip t) := by
  obtain ⟨created, hin⟩ := h.idle hoff
  exact hin.beginTrip

/-- A row of values is filed under the trip that is on. -/
theorem pending_insertObd (h : Pending db t l) (hon : l.ontrip = true)
    (bindings : List (Option Rat)) : Pending db t (l.insertObd t bindings) := by
  obtain ⟨created, hin⟩ := h.touched
  refine ⟨⟨created, { hin with obd := fun r hr => ?_ }⟩, fun hoff => ?_⟩
  · rcases List.mem_append.mp hr with hr | hr
    · exact hin.obd r hr
    · obtain rfl := List.mem_singleton.mp hr
      exact hin.filed_now.resolve_left fun h0 => hin.started hon h0.1
  · have hoff' : l.ontrip = false := hoff
    rw [hon] at hoff'
    cases hoff'

/-- A position is filed under the current trip, whether on or not. -/
theorem InOrder.insertGps (h : InOrder db t created (l.touchTrip t)) (gpsstatus : Int)
    (p : GpsPosition) : InOrder db t created ((l.touchTrip t).insertGps t gpsstatus p) := by
  refine { h with gps := fun r hr => ?_ }
  rcases List.mem_append.mp hr with hr | hr
  · exact h.gps r hr
  · obtain rfl := List.mem_singleton.mp hr
    refine ⟨Int.le_refl t, ?_⟩
    rcases h.filed_now with ⟨rfl, h0⟩ | hf
    · exact Or.inl ⟨h0, by simp⟩
    · exact Or.inr hf

end Operations

/-! ## One pass -/

section Passes

variable {cfg : Setup} {db : TripTable} {t : Int} {s : LoopState}

theorem pending_signalPhase {l : TripLog} (h : Pending db t l) (starttripSignal : Bool) :
    Pending db t (signalPhase l t starttripSignal).1 := by
  unfold signalPhase
  split
  · split
    · exact pending_beginTrip (pending_endTrip h) rfl
    · next hoff => exact pending_beginTrip h (Bool.not_eq_true _ ▸ hoff)
  · exact h

theorem pending_obdPhase {l : TripLog} (h : Pending db t l) (obdstatus : Obdcomm.ObdSerialStatus)
    (bindings : List (Option Rat)) : Pending db t (obdPhase l t obdstatus bindings).1 := by
  unfold obdPhase
  split
  · -- a success files its row under the trip that is on, or a new one
    by_cases hon : l.ontrip = true
    · rw [if_pos hon]
      exact pending_insertObd h hon bindings
    · rw [if_neg hon]
      exact pending_insertObd (pending_beginTrip h (Bool.not_eq_true _ ▸ hon)) rfl bindings
  · exact h
  · split
    · exact pending_endTrip h
    · exact h

theorem pending_sample (cfg : Setup) (h : Pending db t s.toTripLog) (q : Pass) :
    Pending db t (LoopState.sample cfg s t q).1.toTripLog := by
  unfold LoopState.sample
  split
  · exact pending_obdPhase h ..
  · exact h

/-- A pass leaves the log in order at its time. -/
theorem inOrder_pass (cfg : Setup) {created : List Trip} {u : Int}
    (h : InOrder db u created s.toTripLog) (hut : u ≤ t) (q : Pass) :
    ∃ created', InOrder db t created' (LoopState.pass cfg s t q).1.toTripLog := by
  have hsignal := pending_signalPhase (h.pending hut) q.starttripSignal
  obtain ⟨created', htouched⟩ := (pending_sample cfg
    (s := { s with
      toTripLog := (signalPhase s.toTripLog t q.starttripSignal).1, timeInsert := some t })
    hsignal q).touched
  refine ⟨created', ?_⟩
  unfold LoopState.pass LoopState.locate
  dsimp only
  split
  · split
    · exact htouched.insertGps ..
    · exact htouched
  · split <;> exact htouched

end Passes

/-! ## Whole runs -/

/-- The times the passes read off the clock. -/
def clock (qs : List Pass) : List Int := qs.filterMap Pass.starttime

theorem clock_append (qs : List Pass) (q : Pass) :
    clock (qs ++ [q]) = clock qs ++ q.starttime.toList := by
  unfold clock
  rw [List.filterMap_append]
  cases hq : q.starttime <;> simp [hq]

/-- What a run keeps: before the first time nothing has been created, and
after it the log is in order at the last time. -/
def RunInv (db : TripTable) (qs : List Pass) (s : LoopState) : Prop :=
  s.timeInsert = (clock qs).getLast? ∧
    ∀ t, (∀ u ∈ s.timeInsert, u ≤ t) → ∃ created, InOrder db t created s.toTripLog

theorem runInv_init (cfg : Setup) (db : TripTable) (gpsdata : Bool) (samplecount : Int) :
    RunInv db [] (LoopState.init cfg db gpsdata samplecount) :=
  ⟨rfl, fun t _ => ⟨[], by
    refine ⟨?_, ?_, List.Pairwise.nil, rfl, ?_, ?_, ?_⟩ <;> simp [LoopState.init]⟩⟩

/-- A pass at a time no earlier than the last keeps it. -/
theorem runInv_step {cfg : Setup} {db : TripTable} {qs : List Pass} {s s' : LoopState} {q : Pass}
    {ended : List Int} (h : RunInv db qs s) (hclock : (clock (qs ++ [q])).Pairwise (· ≤ ·))
    (hstep : iteration cfg s q = some (s', ended)) : RunInv db (qs ++ [q]) s' := by
  have hcons := clock_append qs q
  rw [hcons] at hclock
  rcases iteration_cases hstep with ⟨hq, hlog, htime, -⟩ | ⟨t, hq, hlog, htime, -⟩
  · unfold RunInv
    rw [hcons, hq, hlog, htime, Option.toList_none, List.append_nil]
    exact h
  · rw [hq] at hcons hclock
    have hlast : ∀ u ∈ s.timeInsert, u ≤ t := by
      intro u hu
      rw [h.1] at hu
      exact (List.pairwise_append.mp hclock).2.2 u (List.mem_of_getLast? hu) t
        (List.mem_singleton_self t)
    obtain ⟨created, hin⟩ := h.2 t hlast
    obtain ⟨created', hin'⟩ := inOrder_pass cfg (s := s.counted) hin (Int.le_refl t) q
    refine ⟨by rw [hcons, htime]; simp, fun u hu => ⟨created', ?_⟩⟩
    rw [hlog]
    exact hin'.later (hu t htime)

theorem runInv_run {cfg : Setup} {db : TripTable} {gpsdata : Bool} {samplecount : Int}
    {qs : List Pass} {s : LoopState} {ended : List (List Int)}
    (hclock : (clock qs).Pairwise (· ≤ ·))
    (hrun : run (iteration cfg) (LoopState.init cfg db gpsdata samplecount) qs = some (s, ended)) :
    RunInv db qs s := by
  refine run_history (I := fun qs _ s => (clock qs).Pairwise (· ≤ ·) → RunInv db qs s)
    (fun qs _ s q s' _ h hstep hclock => ?_) (fun _ => runInv_init ..) hrun hclock
  have hpre : (clock qs).Pairwise (· ≤ ·) := by
    unfold clock at hclock ⊢
    rw [List.filterMap_append] at hclock
    exact (List.pairwise_append.mp hclock).1
  exact runInv_step (h hpre) hclock hstep

/-- Behind the loop, the log is in order at the last time. -/
theorem inOrder_atExit {db : TripTable} {qs : List Pass} {s : LoopState} (h : RunInv db qs s)
    {t : Int} (ht : ∀ u ∈ s.timeInsert, u ≤ t) : ∃ created, InOrder db t created (atExit s) := by
  unfold atExit
  cases hu : s.timeInsert with
  | none => exact h.2 t ht
  | some u =>
    obtain ⟨created, hin⟩ := h.2 u (by simp [hu])
    have hut := ht u hu
    show ∃ created, InOrder db t created (if s.ontrip then s.endTrip u else s.toTripLog)
    split
    · obtain ⟨created', hin'⟩ := (hin.pending (Int.le_refl u)).inOrder_endTrip
      exact ⟨created', hin'.later hut⟩
    · exact ⟨created, hin.later hut⟩

/-- **The trips of a run are intervals, one after the other, that contain
their rows.** On a clock that does not go back, after every pass and behind
the loop, the trips created in the run each start before they end, end before
the next one starts, and contain every row filed under them; rows filed under
no trip come before the first; and the trips of earlier runs are unchanged. -/
theorem run_inOrder {cfg : Setup} {db : TripTable} {gpsdata : Bool} {samplecount : Int}
    {qs : List Pass} {s : LoopState} {ended : List (List Int)}
    (hclock : (clock qs).Pairwise (· ≤ ·))
    (hrun : run (iteration cfg) (LoopState.init cfg db gpsdata samplecount) qs = some (s, ended)) :
    (∃ t created, InOrder db t created s.toTripLog) ∧
      ∃ t created, InOrder db t created (atExit s) := by
  have hinv := runInv_run hclock hrun
  have hlast : ∀ u ∈ s.timeInsert, u ≤ s.timeInsert.getD 0 := by
    intro u hu
    rw [hu]
    exact Int.le_refl u
  obtain ⟨created, hin⟩ := hinv.2 _ hlast
  exact ⟨⟨_, created, hin⟩, _, inOrder_atExit hinv hlast⟩

/-- A pass with one command and no GPS. -/
def drivePass (time : Int) (obdstatus : Obdcomm.ObdSerialStatus) : Pass :=
  { starttime := some time
    starttripSignal := false
    obdvalue := fun _ => (obdstatus, 0)
    staleStatus := .error
    gpsstatus := -1
    position := ⟨0, 0, 0, 0, 0, 0⟩
    opengps := false
    endtimeRead := true
    exitSignal := false }

/-- A drive of two samples, after which the engine stops. -/
def drive : List Pass :=
  [drivePass 1000000 .success, drivePass 2000000 .success, drivePass 3000000 .noData]

/-- A table `trip` without rows. -/
def emptyDb : TripTable := ⟨[], List.Pairwise.nil, by simp⟩

/-- The loop over the drive, from an empty database. -/
def driveRun : Option (LoopState × List (List Int)) :=
  run (iteration ⟨true, 1⟩) (LoopState.init ⟨true, 1⟩ emptyDb false (-1)) drive

/-- The log of the drive is in order in the loop, and again when the program has
left it. -/
theorem drive_inOrder : ∃ s ended, driveRun = some (s, ended) ∧
    (∃ t created, InOrder emptyDb t created s.toTripLog) ∧
      ∃ t created, InOrder emptyDb t created (atExit s) := by
  obtain ⟨⟨s, ended⟩, hrun⟩ := Option.isSome_iff_exists.mp (show driveRun.isSome by decide)
  exact ⟨s, ended, hrun, run_inOrder (show (clock drive).Pairwise (· ≤ ·) by decide) hrun⟩

end ObdGpsLogger.Logger
