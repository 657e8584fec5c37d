import ObdGpsLogger.Logger.Finished

/-!
# What a run leaves in the tables

Four things hold of everything a run has written, whatever happens in it.

`Dated`: trips start, and positions are filed, at times that were read off the
clock, no two positions at the same one; and a row has a value for every
command.

`Started`: every trip with rows has one at the very time it starts. A trip
begins because of a signal or of a success. The success files a row at once.
After a signal the same pass files a row, or ends the trip, or the loop
(`openInv_step`).

`gps_trip_nonneg`: no position is filed under a negative trip.
-/

namespace ObdGpsLogger.Logger

open Machine

/-! ## Times off the clock -/

/-- `ts` are the times so far, `gs` those at which there may be a position,
`n` is the number of commands. -/
structure Dated (db : TripTable) (n : Nat) (ts gs : List Int) (l : TripLog) : Prop where
  trips : ∀ c ∈ l.trips.rows, (∃ d ∈ db.rows, d.tripid = c.tripid) ∨ c.start ∈ ts
  values : ∀ r ∈ l.obd, r.values.length = n
  gps : (l.gps.map GpsRow.time).Sublist gs

section Operations

variable {db : TripTable} {n : Nat} {ts gs : List Int} {l : TripLog} {t : Int}

theorem Dated.beginTrip (h : Dated db n ts gs l) (ht : t ∈ ts) :
    Dated db n ts gs (l.beginTrip t) where
  trips := by
    intro c hc
    rcases List.mem_append.mp hc with hc | hc
    · exact h.trips c hc
    · obtain rfl := List.mem_singleton.mp hc
      exact Or.inr ht
  values := h.values
  gps := h.gps

theorem Dated.touchTrip (h : Dated db n ts gs l) (t : Int) : Dated db n ts gs (l.touchTrip t) where
  trips := by
    intro c hc
    have hc' : c ∈ (updatetrip l.trips l.currenttrip t).rows := hc
    rw [updatetrip_rows] at hc'
    obtain ⟨d, hd, rfl⟩ := List.mem_map.mp hc'
    rw [Trip.update_tripid]
    unfold Trip.update
    split <;> exact h.trips d hd
  values := h.values
  gps := h.gps

theorem Dated.endTrip (h : Dated db n ts gs l) (t : Int) : Dated db n ts gs (l.endTrip t) :=
  have ht := h.touchTrip t
  ⟨ht.trips, ht.values, ht.gps⟩

theorem Dated.insertObd (h : Dated db n ts gs l) {bindings : List (Option Rat)}
    (hn : bindings.length = n) (t : Int) : Dated db n ts gs (l.insertObd t bindings) where
  trips := h.trips
  values := by
    intro r hr
    rcases List.mem_append.mp hr with hr | hr
    · exact h.values r hr
    · obtain rfl := List.mem_singleton.mp hr
      exact hn
  gps := h.gps

theorem Dated.insertGps (h : Dated db n ts gs l) (t gpsstatus : Int) (p : GpsPosition) :
    Dated db n ts (gs ++ [t]) (l.insertGps t gpsstatus p) where
  trips := h.trips
  values := h.values
  gps := by
    show ((l.gps ++ [_]).map GpsRow.time).Sublist _
    rw [List.map_append]
    exact h.gps.append (List.Sublist.refl [t])

theorem dated_signalPhase (h : Dated db n ts gs l) (ht : t ∈ ts) (starttripSignal : Bool) :
    Dated db n ts gs (signalPhase l t starttripSignal).1 := by
  unfold signalPhase
  split
  · split
    · exact (h.endTrip t).beginTrip ht
    · exact h.beginTrip ht
  · exact h

theorem dated_obdPhase (h : Dated db n ts gs l) (ht : t ∈ ts) (obdstatus : Obdcomm.ObdSerialStatus)
    {bindings : List (Option Rat)} (hn : bindings.length = n) :
    Dated db n ts gs (obdPhase l t obdstatus bindings).1 := by
  unfold obdPhase
  split
  · split
    · exact h.insertObd hn t
    · exact (h.beginTrip ht).insertObd hn t
  · exact h
  · split
    · exact h.endTrip t
    · exact h

end Operations

theorem length_sampleObd (obdvalue : Nat → Obdcomm.ObdSerialStatus × Rat) :
    ∀ (m i : Nat) (obdstatus : Obdcomm.ObdSerialStatus) (bindings : List (Option Rat)),
      (sampleObd obdvalue i m obdstatus bindings).2.length = bindings.length
  | 0, _, _, _ => rfl
  | m + 1, i, _, bindings => by
    rw [sampleObd]
    split
    · rw [length_sampleObd obdvalue m, List.length_set]
    · rfl

theorem locate_bindings (s : LoopState) (t : Int) (q : Pass) :
    (s.locate t q).bindings = s.bindings := by
  unfold LoopState.locate
  split <;> split <;> rfl

/-- The array of values keeps its length over a pass, so there is always a place
for the value of every command. -/
theorem bindings_iteration {cfg : Setup} {s s' : LoopState} {q : Pass} {ended : List Int}
    (h : iteration cfg s q = some (s', ended)) : s'.bindings.length = s.bindings.length := by
  unfold iteration at h
  split at h
  · split at h
    · obtain ⟨rfl, -⟩ := Prod.mk.inj (Option.some.inj h)
      rfl
    · next t hq =>
      obtain ⟨rfl, -⟩ := Prod.mk.inj (Option.some.inj h)
      show (LoopState.locate _ t q).bindings.length = _
      rw [locate_bindings]
      unfold LoopState.sample
      split
      · exact length_sampleObd ..
      · rfl
  · cases h

/-- A pass reads one more time off the clock: what it files has that time, and
what was there before has one of the earlier times. -/
theorem dated_pass {cfg : Setup} {db : TripTable} {ts gs : List Int} {s : LoopState} (t : Int)
    (q : Pass) (h : Dated db cfg.numCommands ts gs s.toTripLog)
    (hn : s.bindings.length = cfg.numCommands) :
    Dated db cfg.numCommands (ts ++ [t]) (gs ++ [t]) (LoopState.pass cfg s t q).1.toTripLog := by
  have ht : t ∈ ts ++ [t] := List.mem_append_right _ (List.mem_singleton_self t)
  have hlater : Dated db cfg.numCommands (ts ++ [t]) gs s.toTripLog :=
    { h with trips := fun c hc => (h.trips c hc).imp_right (List.mem_append_left _) }
  have hsignal := dated_signalPhase hlater ht q.starttripSignal
  have hsample : Dated db cfg.numCommands (ts ++ [t]) gs (LoopState.sample cfg
      { s with
        toTripLog := (signalPhase s.toTripLog t q.starttripSignal).1
        timeInsert := some t } t q).1.toTripLog := by
    unfold LoopState.sample
    split
    · exact dated_obdPhase hsignal ht _ ((length_sampleObd ..).trans hn)
    · exact hsignal
  -- the positions wait for the end of the pass
  unfold LoopState.pass
  dsimp only
  rw [locate_log]
  split
  · exact (hsample.touchTrip t).insertGps ..
  · exact { hsample.touchTrip t with gps := hsample.gps.trans (List.sublist_append_left ..) }

theorem dated_step {cfg : Setup} {db : TripTable} {qs : List Pass} {s s' : LoopState} {q : Pass}
    {ended : List Int}
    (h : Dated db cfg.numCommands (clock qs) (clock qs) s.toTripLog ∧
      s.bindings.length = cfg.numCommands)
    (hstep : iteration cfg s q = some (s', ended)) :
    Dated db cfg.numCommands (clock (qs ++ [q])) (clock (qs ++ [q])) s'.toTripLog ∧
      s'.bindings.length = cfg.numCommands := by
  refine ⟨?_, (bindings_iteration hstep).trans h.2⟩
  rw [clock_append]
  rcases iteration_cases hstep with ⟨hq, hlog, -⟩ | ⟨t, hq, hlog, -⟩
  · rw [hq, hlog, Option.toList_none, List.append_nil]
    exact h.1
  · rw [hq, hlog]
    exact dated_pass (s := s.counted) t q h.1 h.2

/-! ## The first row of a trip -/

/-- Trip `id` has a row of `obd` at the very time it starts. -/
def Started (l : TripLog) (id : Int) : Prop :=
  ∃ r ∈ l.obd, r.trip = id ∧ ∃ c ∈ l.trips.rows, c.tripid = id ∧ c.start = r.time

/-- The current trip is one that starts at time `t`. -/
def StartsNow (t : Int) (l : TripLog) : Prop :=
  ∃ c ∈ l.trips.rows, c.tripid = l.currenttrip ∧ c.start = t

/-- No row is lost, and no trip; nor does a start change. -/
structure Grows (l l' : TripLog) : Prop where
  obd : ∀ r ∈ l.obd, r ∈ l'.obd
  trips : ∀ c ∈ l.trips.rows, ∃ c' ∈ l'.trips.rows, c'.tripid = c.tripid ∧ c'.start = c.start

/-- Every row of the log is of a trip that has a row at its very start, maybe
the row itself. -/
def AllStarted (l : TripLog) : Prop := ∀ r ∈ l.obd, Started l r.trip

section Starts

variable {l l' : TripLog} {t : Int} {id : Int}

theorem Started.mono (h : Started l id) (hgrows : Grows l l') : Started l' id := by
  obtain ⟨r, hr, hid, c, hc, hcid, hstart⟩ := h
  obtain ⟨c', hc', hid', hstart'⟩ := hgrows.trips c hc
  exact ⟨r, hgrows.obd r hr, hid, c', hc', hid'.trans hcid, hstart'.trans hstart⟩

theorem grows_beginTrip (l : TripLog) (t : Int) : Grows l (l.beginTrip t) where
  obd := fun _ hr => hr
  trips := fun c hc => ⟨c, List.mem_append_left _ hc, rfl, rfl⟩

theorem grows_touchTrip (l : TripLog) (t : Int) : Grows l (l.touchTrip t) where
  obd := fun _ hr => hr
  trips := by
    intro c hc
    refine ⟨c.update l.currenttrip t, ?_, Trip.update_tripid .., ?_⟩
    · show _ ∈ (updatetrip l.trips l.currenttrip t).rows
      rw [updatetrip_rows]
      exact List.mem_map_of_mem hc
    · unfold Trip.update
      split <;> rfl

theorem grows_endTrip (l : TripLog) (t : Int) : Grows l (l.endTrip t) :=
  ⟨(grows_touchTrip l t).obd, (grows_touchTrip l t).trips⟩

theorem grows_insertObd (l : TripLog) (t : Int) (bindings : List (Option Rat)) :
    Grows l (l.insertObd t bindings) where
  obd := fun _ hr => List.mem_append_left _ hr
  trips := fun c hc => ⟨c, hc, rfl, rfl⟩

theorem startsNow_beginTrip (l : TripLog) (t : Int) : StartsNow t (l.beginTrip t) :=
  ⟨_, List.mem_append_right _ (List.mem_singleton_self _), rfl, rfl⟩

/-- Where a log has the same rows as before and neither rows nor trips are lost,
all its rows are still of trips that have started. -/
theorem AllStarted.mono (h : AllStarted l) (hgrows : Grows l l') (hobd : l'.obd = l.obd) :
    AllStarted l' := by
  intro r hr
  rw [hobd] at hr
  exact (h r hr).mono hgrows

/-- A row is filed under a trip that has one, or starts now. -/
theorem started_insertObd (h : Started l l.currenttrip ∨ StartsNow t l)
    (bindings : List (Option Rat)) : Started (l.insertObd t bindings) l.currenttrip := by
  rcases h with h | ⟨c, hc, hid, hstart⟩
  · exact h.mono (grows_insertObd l t bindings)
  · exact ⟨_, List.mem_append_right _ (List.mem_singleton_self _), rfl, c, hc, hid, hstart⟩

theorem allStarted_insertObd (hall : AllStarted l) (h : Started l l.currenttrip ∨ StartsNow t l)
    (bindings : List (Option Rat)) : AllStarted (l.insertObd t bindings) := by
  intro r hr
  rcases List.mem_append.mp hr with hr | hr
  · exact (hall r hr).mono (grows_insertObd l t bindings)
  · obtain rfl := List.mem_singleton.mp hr
    exact started_insertObd h bindings

/-- The signal phase of a pass may begin or end a trip, but files no row, so all
rows are still rows of trips that have started. -/
theorem allStarted_signalPhase (hall : AllStarted l) (starttripSignal : Bool) :
    AllStarted (signalPhase l t starttripSignal).1 := by
  unfold signalPhase
  split
  · split
    · exact (hall.mono (grows_endTrip l t) rfl).mono (grows_beginTrip ..) rfl
    · exact hall.mono (grows_beginTrip l t) rfl
  · exact hall

/-- If a trip is on behind the signal phase, it had started before, or it is the
one that the signal begins and starts now. -/
theorem started_signalPhase (hon : l.ontrip = true → Started l l.currenttrip)
    (starttripSignal : Bool) (h : (signalPhase l t starttripSignal).1.ontrip = true) :
    Started (signalPhase l t starttripSignal).1 (signalPhase l t starttripSignal).1.currenttrip ∨
      StartsNow t (signalPhase l t starttripSignal).1 := by
  unfold signalPhase at h ⊢
  cases starttripSignal with
  | false => exact Or.inl (hon h)
  | true =>
    rw [if_pos rfl]
    split <;> exact Or.inr (startsNow_beginTrip ..)

theorem obd_signalPhase (l : TripLog) (t : Int) (starttripSignal : Bool) :
    (signalPhase l t starttripSignal).1.obd = l.obd := by
  unfold signalPhase
  split
  · split <;> rfl
  · rfl

/-- The OBD data: a trip that is on afterwards has its first row, if the loop
goes on. -/
theorem started_obdPhase (hall : AllStarted l)
    (hon : l.ontrip = true → Started l l.currenttrip ∨ StartsNow t l)
    (obdstatus : Obdcomm.ObdSerialStatus) (bindings : List (Option Rat)) :
    AllStarted (obdPhase l t obdstatus bindings).1 ∧
    (obdstatus ≠ .error → (obdPhase l t obdstatus bindings).1.ontrip = true →
      Started (obdPhase l t obdstatus bindings).1
        (obdPhase l t obdstatus bindings).1.currenttrip) := by
  unfold obdPhase
  split
  · -- a success: there is a trip to file the row under
    by_cases h : l.ontrip = true
    · rw [if_pos h]
      exact ⟨allStarted_insertObd hall (hon h) bindings, fun _ _ =>
        started_insertObd (hon h) bindings⟩
    · rw [if_neg h]
      have hnow := Or.inr (a := Started (l.beginTrip t) (l.beginTrip t).currenttrip)
        (startsNow_beginTrip l t)
      exact ⟨allStarted_insertObd (hall.mono (grows_beginTrip l t) rfl) hnow bindings, fun _ _ =>
        started_insertObd hnow bindings⟩
  · exact ⟨hall, fun h => absurd rfl h⟩
  · split
    · exact ⟨hall.mono (grows_endTrip l t) rfl, fun _ h => nomatch h⟩
    · next h => exact ⟨hall, fun _ h' => absurd h' h⟩

end Starts

/-! ## Whole runs -/

/-- What a run keeps about the trips and their rows. Without a serial port
there are no rows; with one, a trip that is on when the loop goes on has its
first row. -/
structure OpenInv (cfg : Setup) (s : LoopState) : Prop where
  rows : AllStarted s.toTripLog
  on : s.left = false → cfg.serialOpen = true → s.ontrip = true →
    Started s.toTripLog s.currenttrip
  none : cfg.serialOpen = false → s.obd = []

theorem openInv_init (cfg : Setup) (db : TripTable) (gpsdata : Bool) (samplecount : Int) :
    OpenInv cfg (LoopState.init cfg db gpsdata samplecount) where
  rows := by
    intro r hr
    cases hr
  on := by
    intro _ _ hon
    cases hon
  none := fun _ => rfl

/-- What a pass does behind the OBD data files no OBD row, and the trips in the
table only grow. -/
theorem grows_rest (s : LoopState) (t : Int) (q : Pass) :
    Grows s.toTripLog
        (LoopState.locate { s with toTripLog := s.toTripLog.touchTrip t } t q).toTripLog ∧
      (LoopState.locate { s with toTripLog := s.toTripLog.touchTrip t } t q).obd = s.obd ∧
      (LoopState.locate { s with toTripLog := s.toTripLog.touchTrip t } t q).ontrip = s.ontrip ∧
      (LoopState.locate { s with toTripLog := s.toTripLog.touchTrip t } t q).currenttrip =
        s.currenttrip ∧
      (LoopState.locate { s with toTripLog := s.toTripLog.touchTrip t } t q).receiveExitsignal =
        s.receiveExitsignal := by
  have hgrows := grows_touchTrip s.toTripLog t
  have hexit : ∀ u : LoopState, (u.locate t q).receiveExitsignal = u.receiveExitsignal := by
    intro u
    unfold LoopState.locate
    split <;> split <;> rfl
  rw [hexit, locate_log]
  split
  · exact ⟨⟨hgrows.obd, hgrows.trips⟩, rfl, rfl, rfl, rfl⟩
  · exact ⟨hgrows, rfl, rfl, rfl, rfl⟩

/-- What sampling adds to the log is a row of a trip that is on, and that trip
has started before or starts with this row. -/
theorem started_sample {cfg : Setup} {s : LoopState} {t : Int} (q : Pass)
    (hall : AllStarted s.toTripLog)
    (hon : cfg.serialOpen = true → s.ontrip = true →
      Started s.toTripLog s.currenttrip ∨ StartsNow t s.toTripLog)
    (hnone : cfg.serialOpen = false → s.obd = []) :
    AllStarted (LoopState.sample cfg s t q).1.toTripLog ∧
    (cfg.serialOpen = true → (LoopState.sample cfg s t q).1.receiveExitsignal = false →
      (LoopState.sample cfg s t q).1.ontrip = true →
      Started (LoopState.sample cfg s t q).1.toTripLog
        (LoopState.sample cfg s t q).1.currenttrip) ∧
    (cfg.serialOpen = false → (LoopState.sample cfg s t q).1.obd = []) := by
  unfold LoopState.sample
  split
  · next hopen =>
    obtain ⟨hrows, hfirst⟩ := started_obdPhase hall (hon hopen)
      (sampleObd q.obdvalue 0 cfg.numCommands q.staleStatus s.bindings).1
      (sampleObd q.obdvalue 0 cfg.numCommands q.staleStatus s.bindings).2
    refine ⟨hrows, fun _ hexit => hfirst fun herror => ?_, fun hclosed => ?_⟩
    · -- an error makes the loop end
      have hexit' : (s.receiveExitsignal ||
        (sampleObd q.obdvalue 0 cfg.numCommands q.staleStatus s.bindings).1 == .error) = false :=
          hexit
      rw [herror] at hexit'
      simp at hexit'
    · rw [hopen] at hclosed
      cases hclosed
  · next hclosed => exact ⟨hall, fun hopen => absurd hopen hclosed, hnone⟩

/-- A pass gives every trip that is on its first row, if the loop goes on. -/
theorem openInv_step {cfg : Setup} {s s' : LoopState} {q : Pass} {ended : List Int}
    (h : OpenInv cfg s) (hstep : iteration cfg s q = some (s', ended)) : OpenInv cfg s' := by
  unfold iteration at hstep
  split at hstep
  · next hgoes =>
    have hleft : s.left = false := by
      unfold LoopState.goesOn at hgoes
      rw [Bool.and_eq_true, Bool.not_eq_true'] at hgoes
      exact hgoes.1
    split at hstep
    · obtain ⟨rfl, -⟩ := Prod.mk.inj (Option.some.inj hstep)
      exact ⟨h.rows, fun hl => absurd hl (by simp), h.none⟩
    · next t hq =>
      obtain ⟨rfl, -⟩ := Prod.mk.inj (Option.some.inj hstep)
      -- the two halves of a pass: up to the sampling, and behind it
      obtain ⟨hrows, hfirst, hnone⟩ := started_sample
        (s := { s.counted with
          toTripLog := (signalPhase s.toTripLog t q.starttripSignal).1, timeInsert := some t })
        q (allStarted_signalPhase h.rows q.starttripSignal)
        (fun hopen => started_signalPhase (h.on hleft hopen) q.starttripSignal)
        (fun hclosed => (obd_signalPhase ..).trans (h.none hclosed))
      obtain ⟨hgrows, hobd, hontrip, hcurrent, hexit⟩ := grows_rest (LoopState.sample cfg
        { s.counted with
          toTripLog := (signalPhase s.toTripLog t q.starttripSignal).1
          timeInsert := some t } t q).1 t q
      refine ⟨hrows.mono hgrows hobd, fun hl hopen hon => ?_, fun hclosed => ?_⟩
      · have hl' : (LoopState.pass cfg s.counted t q).1.receiveExitsignal = false := by
          simp only [Bool.or_eq_false_iff] at hl
          exact hl.1.2
        have hfirst' := hfirst hopen (hexit.symm.trans hl') (hontrip.symm.trans hon)
        exact hcurrent ▸ hfirst'.mono hgrows
      · exact hobd.trans (hnone hclosed)
  · cases hstep

/-- What is known of the log `l` of a run that read the times `ts`. -/
structure RunLog (db : TripTable) (n : Nat) (ts : List Int) (l : TripLog) : Prop where
  order : ∀ t, (∀ u ∈ ts, u ≤ t) → ∃ created, InOrder db t created l
  dated : Dated db n ts ts l
  started : AllStarted l

/-- **Every run** has such a log, after each of its passes and behind the loop,
whatever is signalled and sampled on it. -/
theorem runLog_run {cfg : Setup} {db : TripTable} {gpsdata : Bool} {samplecount : Int}
    {qs : List Pass} {s : LoopState} {ended : List (List Int)}
    (hclock : (clock qs).Pairwise (· ≤ ·))
    (hrun : run (iteration cfg) (LoopState.init cfg db gpsdata samplecount) qs = some (s, ended)) :
    RunLog db cfg.numCommands (clock qs) s.toTripLog ∧
      RunLog db cfg.numCommands (clock qs) (atExit s) := by
  have hinv := runInv_run hclock hrun
  have hlast : ∀ t, (∀ u ∈ clock qs, u ≤ t) → ∀ u ∈ s.timeInsert, u ≤ t := by
    intro t ht u hu
    rw [hinv.1] at hu
    exact ht u (List.mem_of_getLast? hu)
  -- each of the three properties is an invariant of its own
  have hopen : OpenInv cfg s := by
    refine run_history (I := fun _ _ s => OpenInv cfg s) (fun _ _ s q s' _ h hstep => ?_)
      (openInv_init ..) hrun
    exact openInv_step h hstep
  have hdated : Dated db cfg.numCommands (clock qs) (clock qs) s.toTripLog ∧
      s.bindings.length = cfg.numCommands := by
    refine run_history (I := fun qs _ s =>
      Dated db cfg.numCommands (clock qs) (clock qs) s.toTripLog ∧
        s.bindings.length = cfg.numCommands) (fun qs _ s q s' _ h hstep => ?_) ?_ hrun
    · exact dated_step h hstep
    · refine ⟨⟨fun c hc => Or.inl ⟨c, hc, rfl⟩, ?_, List.Sublist.slnil⟩, List.length_replicate ..⟩
      intro r hr
      cases hr
  -- behind the loop the current trip may get an end, which changes no row
  have hgrows : ∀ t, AllStarted (s.endTrip t) := fun t => hopen.rows.mono (grows_endTrip _ t) rfl
  refine ⟨⟨fun t ht => hinv.2 t (hlast t ht), hdated.1, hopen.rows⟩,
    fun t ht => inOrder_atExit hinv (hlast t ht), ?_, ?_⟩
  · unfold atExit
    split
    · split
      · exact hdated.1.endTrip _
      · exact hdated.1
    · exact hdated.1
  · unfold atExit
    split
    · split
      · exact hgrows _
      · exact hopen.rows
    · exact hopen.rows

/-! ## The operations of a pass -/

/-- What the five operations on the log keep is kept by a pass. -/
theorem iteration_keeps {I : TripLog → Prop} (hbegin : ∀ l t, I l → I (l.beginTrip t))
    (htouch : ∀ l t, I l → I (l.touchTrip t)) (hend : ∀ l t, I l → I (l.endTrip t))
    (hobd : ∀ l t bindings, I l → I (l.insertObd t bindings))
    (hgps : ∀ l t gpsstatus p, I l → I (l.insertGps t gpsstatus p)) {cfg : Setup}
    {s s' : LoopState} {q : Pass} {ended : List Int} (h : I s.toTripLog)
    (hstep : iteration cfg s q = some (s', ended)) : I s'.toTripLog := by
  rcases iteration_cases hstep with ⟨-, hlog, -⟩ | ⟨t, -, hlog, -⟩
  · rwa [hlog]
  · rw [hlog]
    -- through the pass, phase by phase: what the signal asks for
    have hsignal : I (signalPhase s.toTripLog t q.starttripSignal).1 := by
      unfold signalPhase
      split
      · split
        · exact hbegin _ t (hend _ t h)
        · exact hbegin _ t h
      · exact h
    -- a row in the trip that is on, or in a new one; or the end of the trip
    have hphase : ∀ (obdstatus : Obdcomm.ObdSerialStatus) (bindings : List (Option Rat)),
        I (obdPhase (signalPhase s.toTripLog t q.starttripSignal).1 t obdstatus bindings).1 := by
      intro obdstatus bindings
      unfold obdPhase
      split
      · split
        · exact hobd _ t bindings hsignal
        · exact hobd _ t bindings (hbegin _ t hsignal)
      · exact hsignal
      · split
        · exact hend _ t hsignal
        · exact hsignal
    unfold LoopState.pass
    dsimp only
    rw [locate_log]
    -- sampling, and the update of the current trip behind it
    have hsample : I ((LoopState.sample cfg { s.counted with
        toTripLog := (signalPhase s.counted.toTripLog t q.starttripSignal).1
        timeInsert := some t } t q).1.toTripLog.touchTrip t) := by
      refine htouch _ t ?_
      unfold LoopState.sample
      split
      · exact hphase ..
      · exact hsignal
    split
    · exact hgps _ t _ _ hsample
    · exact hsample

/-- **No position has a negative trip**: a position is filed with the id of the
current trip, or with 0 where there is none. -/
theorem gps_trip_nonneg {cfg : Setup} {db : TripTable} {gpsdata : Bool} {samplecount : Int}
    {qs : List Pass} {s : LoopState} {ended : List (List Int)}
    (hrun : run (iteration cfg) (LoopState.init cfg db gpsdata samplecount) qs = some (s, ended)) :
    ∀ r ∈ s.gps, 0 ≤ r.trip := by
  have hinv : 0 ≤ s.currenttrip ∧ ∀ r ∈ s.gps, 0 ≤ r.trip := by
    refine run_history (I := fun _ _ (s : LoopState) => 0 ≤ s.currenttrip ∧ ∀ r ∈ s.gps, 0 ≤ r.trip)
      (fun _ _ s q s' _ h hstep => ?_) ⟨Int.le_refl 0, fun r hr => absurd hr List.not_mem_nil⟩ hrun
    refine iteration_keeps (I := fun (l : TripLog) => 0 ≤ l.currenttrip ∧ ∀ r ∈ l.gps, 0 ≤ r.trip)
      (fun l t h => ⟨?_, h.2⟩) (fun l t h => h) (fun l t h => h) (fun l t b h => h)
      (fun l t g p h => ⟨h.1, fun r hr => ?_⟩) h hstep
    · show 0 ≤ l.trips.nextId
      exact Int.le_trans (by decide) (TripTable.nextId_pos l.trips)
    · rcases List.mem_append.mp hr with hr | hr
      · exact h.2 r hr
      · rw [List.mem_singleton.mp hr]
        exact h.1
  exact hinv.2

/-- What keeps the trips of the positions ascending. -/
structure Ascending (l : TripLog) : Prop where
  fresh : l.currenttrip < l.trips.nextId
  below : ∀ r ∈ l.gps, r.trip ≤ l.currenttrip
  sorted : l.gps.Pairwise fun a b => a.trip ≤ b.trip

theorem Ascending.touchTrip {l : TripLog} (h : Ascending l) (t : Int) :
    Ascending (l.touchTrip t) where
  fresh := by
    show l.currenttrip < (updatetrip l.trips l.currenttrip t).nextId
    rw [nextId_updatetrip]
    exact h.fresh
  below := h.below
  sorted := h.sorted

/-- **The trips of the positions only go up** along the table, since a new trip
gets an id larger than all before it. -/
theorem gps_trips_ascending {cfg : Setup} {db : TripTable} {gpsdata : Bool} {samplecount : Int}
    {qs : List Pass} {s : LoopState} {ended : List (List Int)}
    (hrun : run (iteration cfg) (LoopState.init cfg db gpsdata samplecount) qs = some (s, ended)) :
    s.gps.Pairwise fun a b => a.trip ≤ b.trip := by
  have hinit : Ascending (LoopState.init cfg db gpsdata samplecount).toTripLog :=
    ⟨Int.lt_of_lt_of_le Int.zero_lt_one (TripTable.nextId_pos db),
      fun r hr => absurd hr List.not_mem_nil, List.Pairwise.nil⟩
  have hinv : Ascending s.toTripLog := by
    refine run_history (I := fun _ _ (s : LoopState) => Ascending s.toTripLog)
      (fun _ _ s q s' _ h hstep => ?_) hinit hrun
    refine iteration_keeps (I := Ascending) (fun l t h => ⟨?_, fun r hr => ?_, h.sorted⟩)
      (fun l t h => h.touchTrip t) (fun l t h => ⟨(h.touchTrip t).fresh, h.below, h.sorted⟩)
      (fun l t b h => ⟨h.fresh, h.below, h.sorted⟩) (fun l t g p h => ⟨h.fresh, fun r hr => ?_, ?_⟩)
      h hstep
    · show l.trips.nextId < (starttrip l.trips t).2.nextId
      rw [nextId_starttrip]
      omega
    · exact Int.le_of_lt (Int.lt_of_le_of_lt (h.below r hr) h.fresh)
    · rcases List.mem_append.mp hr with hr | hr
      · exact h.below r hr
      · rw [List.mem_singleton.mp hr]
        exact Int.le_refl _
    · refine List.pairwise_append.mpr ⟨h.sorted, List.pairwise_singleton .., fun a ha b hb => ?_⟩
      rw [List.mem_singleton.mp hb]
      exact h.below a ha
  exact hinv.sorted

end ObdGpsLogger.Logger
