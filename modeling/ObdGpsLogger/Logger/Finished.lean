import ObdGpsLogger.Logger.Trips

/-!
# Finished trips

The loop keeps the id of a trip in `currenttrip` after it has ended the trip,
and its constant update and its GPS insert go on using it. So a trip that has
ended because the engine stopped stays as it is only as long as each later
pass, until a new trip begins, comes at the very time of the one before and
brings no position (`Undisturbed`). `finished_iff` shows that this is exact:
along a run, the trips reported as ended are left alone if and only if every
pass meets that condition.

A trip that is not the current one is out of reach of every operation of a
pass (`Aside`, `Passed`), which is what makes the condition enough; and the
current trip has a row that ends at the last time (`Tracked`, `EndedInv`),
which is what makes it necessary.
-/

namespace ObdGpsLogger.Logger

open Machine Obdcomm

/-- From `l` to `l'` the row of the trip `c` stays as it is, and no row is
filed under it. -/
structure Untouched (c : Int) (l l' : TripLog) : Prop where
  row : l'.trips.row c = l.trips.row c
  obd : ∃ more, l'.obd = l.obd ++ more ∧ ∀ r ∈ more, r.trip ≠ c
  gps : ∃ more, l'.gps = l.gps ++ more ∧ ∀ r ∈ more, r.trip ≠ c

/-- The trip `c` exists, and is not the current one. -/
def Aside (c : Int) (l : TripLog) : Prop := c < l.trips.nextId ∧ c ≠ l.currenttrip

/-- An operation that leaves the trip `c` alone, and aside. -/
structure Passed (c : Int) (l l' : TripLog) : Prop where
  untouched : Untouched c l l'
  aside : Aside c l'

section Operations

variable {c t : Int} {l l' l'' : TripLog}

theorem Untouched.refl (c : Int) (l : TripLog) : Untouched c l l :=
  ⟨rfl, ⟨[], by simp⟩, ⟨[], by simp⟩⟩

theorem Untouched.trans (h₁ : Untouched c l l') (h₂ : Untouched c l' l'') :
    Untouched c l l'' := by
  obtain ⟨o₁, ho₁, hn₁⟩ := h₁.obd
  obtain ⟨o₂, ho₂, hn₂⟩ := h₂.obd
  obtain ⟨g₁, hg₁, hm₁⟩ := h₁.gps
  obtain ⟨g₂, hg₂, hm₂⟩ := h₂.gps
  refine ⟨h₂.row.trans h₁.row, ⟨o₁ ++ o₂, by rw [ho₂, ho₁, List.append_assoc], ?_⟩,
    ⟨g₁ ++ g₂, by rw [hg₂, hg₁, List.append_assoc], ?_⟩⟩
  · exact fun r hr => (List.mem_append.mp hr).elim (hn₁ r) (hn₂ r)
  · exact fun r hr => (List.mem_append.mp hr).elim (hm₁ r) (hm₂ r)

theorem Passed.trans (h₁ : Passed c l l') (h₂ : Passed c l' l'') : Passed c l l'' :=
  ⟨h₁.untouched.trans h₂.untouched, h₂.aside⟩

/-- A new trip begins with an id of its own, and so leaves the rows of all trips
before it alone. -/
theorem passed_beginTrip (h : c < l.trips.nextId) (t : Int) : Passed c l (l.beginTrip t) where
  untouched := ⟨row_starttrip_of_ne l.trips (Int.ne_of_lt h) t, ⟨[], by simp [TripLog.beginTrip]⟩,
    ⟨[], by simp [TripLog.beginTrip]⟩⟩
  aside := by
    refine ⟨?_, Int.ne_of_lt h⟩
    have := nextId_starttrip l.trips t
    show c < (starttrip l.trips t).2.nextId
    omega

theorem Aside.passed_touchTrip (h : Aside c l) (t : Int) : Passed c l (l.touchTrip t) where
  untouched := ⟨row_updatetrip_of_ne l.trips h.2 t, ⟨[], by simp [TripLog.touchTrip]⟩,
    ⟨[], by simp [TripLog.touchTrip]⟩⟩
  aside := ⟨by simpa [TripLog.touchTrip, nextId_updatetrip] using h.1, h.2⟩

theorem Aside.passed_endTrip (h : Aside c l) (t : Int) : Passed c l (l.endTrip t) :=
  have hp := h.passed_touchTrip t
  ⟨⟨hp.untouched.row, hp.untouched.obd, hp.untouched.gps⟩, hp.aside⟩

theorem Aside.passed_insertObd (h : Aside c l) (t : Int) (bindings : List (Option Rat)) :
    Passed c l (l.insertObd t bindings) where
  untouched := ⟨rfl, ⟨_, rfl, by simpa using Ne.symm h.2⟩, ⟨[], by simp [TripLog.insertObd]⟩⟩
  aside := h

theorem Aside.passed_insertGps (h : Aside c l) (t gpsstatus : Int) (p : GpsPosition) :
    Passed c l (l.insertGps t gpsstatus p) where
  untouched := ⟨rfl, ⟨[], by simp [TripLog.insertGps]⟩, ⟨_, rfl, by simpa using Ne.symm h.2⟩⟩
  aside := h

theorem Aside.refl (h : Aside c l) : Passed c l l := ⟨Untouched.refl c l, h⟩

end Operations

/-! ## A pass leaves the trips aside alone -/

section Passes

variable {cfg : Setup} {c t : Int} {l : TripLog} {s : LoopState} {q : Pass}

theorem passed_signalPhase (h : Aside c l) (starttripSignal : Bool) :
    Passed c l (signalPhase l t starttripSignal).1 := by
  unfold signalPhase
  split
  · split
    · have hend := h.passed_endTrip t
      exact hend.trans (passed_beginTrip hend.aside.1 t)
    · exact passed_beginTrip h.1 t
  · exact h.refl

theorem passed_obdPhase (h : Aside c l) (obdstatus : ObdSerialStatus)
    (bindings : List (Option Rat)) : Passed c l (obdPhase l t obdstatus bindings).1 := by
  unfold obdPhase
  split
  · split
    · exact h.passed_insertObd t bindings
    · have hbegin := passed_beginTrip h.1 t
      exact hbegin.trans (hbegin.aside.passed_insertObd t bindings)
  · exact h.refl
  · split
    · exact h.passed_endTrip t
    · exact h.refl

theorem passed_sample (cfg : Setup) (h : Aside c s.toTripLog) (q : Pass) :
    Passed c s.toTripLog (LoopState.sample cfg s t q).1.toTripLog := by
  unfold LoopState.sample
  split
  · exact passed_obdPhase h ..
  · exact h.refl

theorem passed_locate (h : Aside c s.toTripLog) (q : Pass) :
    Passed c s.toTripLog (s.locate t q).toTripLog := by
  unfold LoopState.locate
  split
  · split
    · exact h.passed_insertGps ..
    · exact h.refl
  · split <;> exact h.refl

/-- What a pass does behind the OBD data, which is to file a position and to
update the current trip, leaves the rows of the other trips alone. -/
theorem passed_rest (h : Aside c s.toTripLog) (q : Pass) :
    Passed c s.toTripLog
      (LoopState.locate { s with toTripLog := s.toTripLog.touchTrip t } t q).toTripLog :=
  have htouch := h.passed_touchTrip t
  htouch.trans (passed_locate (s := { s with toTripLog := s.toTripLog.touchTrip t }) htouch.aside q)

/-- **A trip that is not the current one survives a pass.** -/
theorem passed_pass (cfg : Setup) (h : Aside c s.toTripLog) (q : Pass) :
    Passed c s.toTripLog (LoopState.pass cfg s t q).1.toTripLog := by
  have hsignal := passed_signalPhase (t := t) h q.starttripSignal
  have hsample := passed_sample cfg (t := t)
    (s := { s with
      toTripLog := (signalPhase s.toTripLog t q.starttripSignal).1, timeInsert := some t })
    hsignal.aside q
  exact (hsignal.trans hsample).trans (passed_rest hsample.aside q)

/-- All commands of a pass are answered; without commands, `obdstatus` happens
to hold a success. -/
def Sampled (cfg : Setup) (q : Pass) : Prop :=
  cfg.serialOpen = true ∧
    if cfg.numCommands = 0 then q.staleStatus = .success
    else ∀ k < cfg.numCommands, (q.obdvalue k).1 = .success

instance (cfg : Setup) (q : Pass) : Decidable (Sampled cfg q) := by
  unfold Sampled
  infer_instance

/-- **A pass that begins a trip while none is on leaves the others alone.** -/
theorem passed_pass_of_begin (hlt : c < s.trips.nextId) (hoff : s.ontrip = false)
    (hbegin : q.starttripSignal = true ∨ Sampled cfg q) :
    Passed c s.toTripLog (LoopState.pass cfg s t q).1.toTripLog := by
  by_cases hsig : q.starttripSignal = true
  · -- the signal begins it, before the first use of the old one
    have hsignal : Passed c s.toTripLog (signalPhase s.toTripLog t q.starttripSignal).1 := by
      unfold signalPhase
      rw [if_pos hsig, hoff]
      exact passed_beginTrip hlt t
    have hsample := passed_sample cfg (t := t)
      (s := { s with
        toTripLog := (signalPhase s.toTripLog t q.starttripSignal).1, timeInsert := some t })
      hsignal.aside q
    exact (hsignal.trans hsample).trans (passed_rest hsample.aside q)
  · -- a success begins it, before its row is filed
    obtain ⟨hopen, hall⟩ := hbegin.resolve_left hsig
    have hstatus : (sampleObd q.obdvalue 0 cfg.numCommands q.staleStatus s.bindings).1 = .success :=
      (sampleObd_eq_success ..).mpr (by simpa using hall)
    have hsample : Passed c s.toTripLog (LoopState.sample cfg
        { s with
          toTripLog := (signalPhase s.toTripLog t q.starttripSignal).1
          timeInsert := some t } t q).1.toTripLog := by
      have hnew := passed_beginTrip hlt t
      have hrow := hnew.aside.passed_insertObd t
        (sampleObd q.obdvalue 0 cfg.numCommands q.staleStatus s.bindings).2
      unfold LoopState.sample signalPhase
      simp only [hopen, hsig, Bool.false_eq_true, if_true, if_false, hstatus, obdPhase, hoff]
      exact hnew.trans hrow
    exact hsample.trans (passed_rest hsample.aside q)

/-- Where a command has no answer, sampling cannot begin a trip: if none was on
before, none is on afterwards. -/
theorem sample_idle (hoff : s.ontrip = false) (hno : ¬ Sampled cfg q) :
    LoopState.sample cfg s t q =
      ({ s with
        bindings := (LoopState.sample cfg s t q).1.bindings
        receiveExitsignal := (LoopState.sample cfg s t q).1.receiveExitsignal }, []) := by
  unfold LoopState.sample
  split
  · next hopen =>
    unfold obdPhase
    dsimp only
    split
    · next hstatus =>
      exact absurd ⟨hopen, by simpa using (sampleObd_eq_success ..).mp hstatus⟩ hno
    · rfl
    · rw [hoff]; rfl
  · rfl

theorem locate_log (s : LoopState) (t : Int) (q : Pass) :
    (s.locate t q).toTripLog =
      if s.gpsdata = true ∧ 0 ≤ q.gpsstatus then
        s.toTripLog.insertGps t q.gpsstatus q.position
      else s.toTripLog := by
  unfold LoopState.locate
  by_cases hdata : s.gpsdata = true
  · by_cases hfix : 0 ≤ q.gpsstatus <;> simp [hdata, hfix]
  · rw [if_neg hdata]
    split <;> simp [hdata]

/-- A pass that begins no trip while none is on only updates the current trip,
and files a position if there is one. -/
theorem pass_idle (hoff : s.ontrip = false) (hsig : q.starttripSignal = false)
    (hno : ¬ Sampled cfg q) :
    (LoopState.pass cfg s t q).1.toTripLog =
      if s.gpsdata = true ∧ 0 ≤ q.gpsstatus then
        (s.toTripLog.touchTrip t).insertGps t q.gpsstatus q.position
      else s.toTripLog.touchTrip t := by
  unfold LoopState.pass signalPhase
  dsimp only
  rw [hsig, locate_log]
  simp only [Bool.false_eq_true, if_false]
  rw [sample_idle (s := { s with timeInsert := some t }) hoff hno]

end Passes

/-! ## The current trip -/

/-- The invariant for the trips `ended` so far and the current one: the table
has given all of their ids, the current trip has a row, no ended trip is on, and
a current trip that is not on is an ended one. -/
structure Tracked (ended : List Int) (l : TripLog) : Prop where
  current : l.currenttrip < l.trips.nextId
  known : l.currenttrip ≠ 0 → (l.trips.row l.currenttrip).isSome
  on : l.ontrip = true → l.currenttrip ≠ 0
  past : ∀ c ∈ ended, c ≠ 0 ∧ c < l.trips.nextId ∧ (c = l.currenttrip → l.ontrip = false)
  idle : l.ontrip = false → l.currenttrip ≠ 0 → l.currenttrip ∈ ended

section Tracking

variable {cfg : Setup} {ended : List Int} {t : Int} {l : TripLog} {s s' : LoopState} {q : Pass}

theorem row_starttrip (db : TripTable) (t : Int) :
    (starttrip db t).2.row (starttrip db t).1 = some ⟨db.nextId, t, noEnd⟩ := by
  have hold : db.rows.find? (fun r => r.tripid == db.nextId) = none := by
    rw [List.find?_eq_none]
    intro r hr
    have := TripTable.lt_nextId hr
    simp only [beq_iff_eq]
    omega
  unfold TripTable.row
  rw [starttrip_rows, List.find?_append]
  simp [starttrip, hold]

theorem Tracked.beginTrip (h : Tracked ended l) (t : Int) : Tracked ended (l.beginTrip t) where
  current := by
    show l.trips.nextId < (starttrip l.trips t).2.nextId
    rw [nextId_starttrip]
    exact Int.lt_succ _
  known := fun _ => by
    show ((starttrip l.trips t).2.row (starttrip l.trips t).1).isSome
    rw [row_starttrip]
    rfl
  on := fun _ => by
    have := l.trips.nextId_pos
    show l.trips.nextId ≠ 0
    omega
  past := fun c hc => by
    obtain ⟨h0, hlt, -⟩ := h.past c hc
    have := nextId_starttrip l.trips t
    refine ⟨h0, ?_, fun he => absurd he (Int.ne_of_lt hlt)⟩
    show c < (starttrip l.trips t).2.nextId
    omega
  idle := fun hoff => by cases hoff

theorem Tracked.touchTrip (h : Tracked ended l) (t : Int) : Tracked ended (l.touchTrip t) where
  current := by simpa [TripLog.touchTrip, nextId_updatetrip] using h.current
  known := fun hne => by simpa [TripLog.touchTrip, row_updatetrip] using h.known hne
  on := h.on
  past := fun c hc => by simpa [TripLog.touchTrip, nextId_updatetrip] using h.past c hc
  idle := h.idle

theorem Tracked.endTrip (h : Tracked ended l) (hon : l.ontrip = true) (t : Int) :
    Tracked (ended ++ [l.currenttrip]) (l.endTrip t) where
  current := (h.touchTrip t).current
  known := (h.touchTrip t).known
  on := fun hoff => by cases hoff
  past := fun c hc => by
    rcases List.mem_append.mp hc with hc | hc
    · obtain ⟨h0, hlt, -⟩ := (h.touchTrip t).past c hc
      exact ⟨h0, hlt, fun _ => rfl⟩
    · obtain rfl := List.mem_singleton.mp hc
      exact ⟨h.on hon, (h.touchTrip t).current, fun _ => rfl⟩
  idle := fun _ _ => List.mem_append_right _ (List.mem_singleton_self _)

theorem tracked_signalPhase (h : Tracked ended l) (starttripSignal : Bool) :
    Tracked (ended ++ (signalPhase l t starttripSignal).2)
      (signalPhase l t starttripSignal).1 := by
  unfold signalPhase
  split
  · split
    · next hon => exact (h.endTrip hon t).beginTrip t
    · rw [List.append_nil]
      exact h.beginTrip t
  · rwa [List.append_nil]

theorem tracked_obdPhase (h : Tracked ended l) (obdstatus : ObdSerialStatus)
    (bindings : List (Option Rat)) :
    Tracked (ended ++ (obdPhase l t obdstatus bindings).2)
      (obdPhase l t obdstatus bindings).1 := by
  unfold obdPhase
  split
  · rw [List.append_nil]
    split
    · exact { h with }
    · exact { h.beginTrip t with }
  · rwa [List.append_nil]
  · split
    · next hon => exact h.endTrip hon t
    · rwa [List.append_nil]

theorem tracked_sample (cfg : Setup) (h : Tracked ended s.toTripLog) (q : Pass) :
    Tracked (ended ++ (LoopState.sample cfg s t q).2)
      (LoopState.sample cfg s t q).1.toTripLog := by
  unfold LoopState.sample
  split
  · exact tracked_obdPhase h ..
  · rwa [List.append_nil]

/-- A pass keeps track, and its trip ends at its time. -/
theorem tracked_pass (cfg : Setup) (h : Tracked ended s.toTripLog) (q : Pass) :
    Tracked (ended ++ (LoopState.pass cfg s t q).2) (LoopState.pass cfg s t q).1.toTripLog ∧
      ((LoopState.pass cfg s t q).1.currenttrip ≠ 0 →
        ∃ r, (LoopState.pass cfg s t q).1.trips.row (LoopState.pass cfg s t q).1.currenttrip
          = some r ∧ r.endTime = t) := by
  have hsample := tracked_sample cfg (t := t)
    (s := { s with
      toTripLog := (signalPhase s.toTripLog t q.starttripSignal).1, timeInsert := some t })
    (tracked_signalPhase (t := t) h q.starttripSignal) q
  have htouch := hsample.touchTrip t
  unfold LoopState.pass
  dsimp only
  rw [← List.append_assoc, locate_log]
  generalize (LoopState.sample cfg { s with
      toTripLog := (signalPhase s.toTripLog t q.starttripSignal).1, timeInsert := some t } t q).1
    = u at hsample htouch ⊢
  have hrow : u.currenttrip ≠ 0 → ∃ r, (u.toTripLog.touchTrip t).trips.row u.currenttrip
      = some r ∧ r.endTime = t := by
    intro hne
    obtain ⟨r, hr⟩ := Option.isSome_iff_exists.mp (hsample.known hne)
    refine ⟨{ r with endTime := t }, ?_, rfl⟩
    show (updatetrip u.trips u.currenttrip t).row u.currenttrip = _
    rw [row_updatetrip, hr]
    rfl
  split
  · exact ⟨{ htouch with }, hrow⟩
  · exact ⟨htouch, hrow⟩

/-- What a run keeps: it is on track, and the current trip ends at the last
time. -/
structure EndedInv (ended : List Int) (s : LoopState) : Prop where
  tracked : Tracked ended s.toTripLog
  upToDate : s.currenttrip ≠ 0 →
    ∃ r, s.trips.row s.currenttrip = some r ∧ s.timeInsert = some r.endTime

theorem endedInv_init (cfg : Setup) (db : TripTable) (gpsdata : Bool) (samplecount : Int) :
    EndedInv [] (LoopState.init cfg db gpsdata samplecount) where
  tracked :=
    { current := db.nextId_pos
      known := fun h => absurd rfl h
      on := fun h => by cases h
      past := by simp
      idle := fun _ h => absurd rfl h }
  upToDate := fun h => absurd rfl h

theorem endedInv_step {e : List Int} (h : EndedInv ended s)
    (hstep : iteration cfg s q = some (s', e)) : EndedInv (ended ++ e) s' := by
  rcases iteration_cases hstep with ⟨-, hlog, htime, rfl⟩ | ⟨t, -, hlog, htime, rfl⟩
  · rw [List.append_nil]
    refine ⟨hlog ▸ h.tracked, ?_⟩
    rw [hlog, htime]
    exact h.upToDate
  · obtain ⟨htracked, hrow⟩ := tracked_pass cfg (t := t) (s := s.counted) h.tracked q
    refine ⟨hlog ▸ htracked, ?_⟩
    rw [hlog, htime]
    intro hne
    obtain ⟨r, hr, hend⟩ := hrow hne
    exact ⟨r, hr, congrArg some hend.symm⟩

end Tracking

/-! ## When ended trips stay as they are -/

/-- A pass leaves the trips that have ended alone: none has just ended, or the
pass begins a new one, or it comes at the last time and brings no position. -/
def Undisturbed (cfg : Setup) (s : LoopState) (q : Pass) : Prop :=
  s.ontrip = false → s.currenttrip ≠ 0 →
    q.starttime = none ∨ q.starttripSignal = true ∨ Sampled cfg q ∨
      (q.starttime = s.timeInsert ∧ ¬ (s.gpsdata = true ∧ 0 ≤ q.gpsstatus))

instance (cfg : Setup) (s : LoopState) (q : Pass) : Decidable (Undisturbed cfg s q) := by
  unfold Undisturbed
  infer_instance

/-- A trip that a pass of the run has ended is the same after every later
pass, and behind the loop: its row does not change, and no row is filed under
it. -/
def FinishedStays (cfg : Setup) (s₀ : LoopState) (qs : List Pass) : Prop :=
  ∀ pre mid post, qs = pre ++ (mid ++ post) → ∀ s ended s' ended',
    run (iteration cfg) s₀ pre = some (s, ended) →
    run (iteration cfg) s mid = some (s', ended') →
    ∀ c ∈ ended.flatten, Untouched c s.toTripLog s'.toTripLog ∧ Untouched c s.toTripLog (atExit s')

section Runs

variable {cfg : Setup} {ended : List Int} {s s' : LoopState} {q : Pass} {e : List Int}

/-- A pass in which nothing disturbs the ended trips: their rows are the same
before and after it. -/
theorem untouched_step (h : EndedInv ended s) (hstep : iteration cfg s q = some (s', e))
    (hq : Undisturbed cfg s q) {c : Int} (hc : c ∈ ended) :
    Untouched c s.toTripLog s'.toTripLog := by
  obtain ⟨h0, hlt, hoff⟩ := h.tracked.past c hc
  rcases iteration_cases hstep with ⟨-, hlog, -⟩ | ⟨t, ht, hlog, -⟩
  · rw [hlog]
    exact Untouched.refl ..
  · rw [hlog]
    by_cases hcur : c = s.currenttrip
    · have hoff' := hoff hcur
      by_cases hbegin : q.starttripSignal = true ∨ Sampled cfg q
      · exact (passed_pass_of_begin (s := s.counted) hlt hoff' hbegin).untouched
      · obtain ⟨hsig, hsam⟩ := not_or.mp hbegin
        obtain ⟨htime, hnofix⟩ := (((hq hoff' (hcur ▸ h0)).resolve_left (by simp [ht])).resolve_left
          hsig).resolve_left hsam
        have hidle : (LoopState.pass cfg s.counted t q).1.toTripLog = s.toTripLog.touchTrip t :=
          (pass_idle (s := s.counted) hoff' (Bool.not_eq_true _ ▸ hsig) hsam).trans (if_neg hnofix)
        obtain ⟨r, hr, hend⟩ := h.upToDate (hcur ▸ h0)
        rw [ht, hend] at htime
        injection htime with htime
        rw [hidle, hcur]
        refine ⟨?_, ⟨[], by simp [TripLog.touchTrip]⟩, ⟨[], by simp [TripLog.touchTrip]⟩⟩
        -- the update writes the end that is there already
        exact (row_updatetrip ..).trans (by rw [hr, htime]; rfl)
    · exact (passed_pass cfg (s := s.counted) ⟨hlt, hcur⟩ q).untouched

/-- One pass, the bad case: the trip that ended last is disturbed. -/
theorem undisturbed_of_untouched (h : EndedInv ended s)
    (hstep : iteration cfg s q = some (s', e))
    (hkeep : ∀ c ∈ ended, Untouched c s.toTripLog s'.toTripLog) : Undisturbed cfg s q := by
  intro hoff hne
  have hkept := hkeep _ (h.tracked.idle hoff hne)
  rcases iteration_cases hstep with ⟨ht, -⟩ | ⟨t, ht, hlog, -⟩
  · exact Or.inl ht
  · rw [hlog] at hkept
    by_cases hbegin : q.starttripSignal = true ∨ Sampled cfg q
    · exact Or.inr (hbegin.elim Or.inl fun h => Or.inr (Or.inl h))
    · obtain ⟨hsig, hsam⟩ := not_or.mp hbegin
      have hidle : (LoopState.pass cfg s.counted t q).1.toTripLog
          = if s.gpsdata = true ∧ 0 ≤ q.gpsstatus then
              (s.toTripLog.touchTrip t).insertGps t q.gpsstatus q.position
            else s.toTripLog.touchTrip t :=
        pass_idle (s := s.counted) hoff (Bool.not_eq_true _ ▸ hsig) hsam
      rw [hidle] at hkept
      refine Or.inr (Or.inr (Or.inr ⟨?_, fun hfix => ?_⟩))
      · -- the row's end is the time of this pass, and was the time of the last
        obtain ⟨r, hr, hend⟩ := h.upToDate hne
        have hrow : (updatetrip s.trips s.currenttrip t).row s.currenttrip
            = s.trips.row s.currenttrip := by
          rw [← hkept.row]
          split <;> rfl
        rw [row_updatetrip, hr] at hrow
        injection hrow with hrow
        rw [ht, hend, ← congrArg Trip.endTime hrow]
      · -- the position is filed under the trip
        rw [if_pos hfix] at hkept
        obtain ⟨more, hmore, hnot⟩ := hkept.gps
        exact hnot _ (List.append_cancel_left hmore ▸ List.mem_singleton_self _) rfl

theorem endedInv_run {s₀ : LoopState} (h₀ : EndedInv [] s₀) {qs : List Pass} {es : List (List Int)}
    (hrun : run (iteration cfg) s₀ qs = some (s, es)) : EndedInv es.flatten s := by
  refine run_history (I := fun _ es s => EndedInv es.flatten s)
    (fun _ es s q s' e h hstep => ?_) h₀ hrun
  simpa using endedInv_step h hstep

/-- Any number of passes in which nothing disturbs the ended trips leave the
rows of these trips as they are. -/
theorem untouched_run : ∀ (mid : List Pass) {ended : List Int} {s s' : LoopState}
    {es : List (List Int)}, EndedInv ended s → Along (iteration cfg) (Undisturbed cfg) s mid →
      run (iteration cfg) s mid = some (s', es) →
      ∀ c ∈ ended, Untouched c s.toTripLog s'.toTripLog
  | [], _, s, s', es, _, _, hrun, c, _ => by
    obtain ⟨rfl, -⟩ : s = s' ∧ [] = es := by simpa using hrun
    exact Untouched.refl ..
  | q :: mid, ended, s, s', es, h, hal, hrun, c, hc => by
    obtain ⟨s₁, e, es', hstep, hrun', -⟩ := run_cons_eq_some.mp hrun
    have hone := untouched_step h hstep hal.1 hc
    exact hone.trans (untouched_run mid (endedInv_step h hstep) (hal.2 s₁ e hstep) hrun' c
      (List.mem_append_left _ hc))

/-- What follows the loop leaves the ended trips alone. -/
theorem untouched_atExit (h : EndedInv ended s) {c : Int} (hc : c ∈ ended) :
    Untouched c s.toTripLog (atExit s) := by
  unfold atExit
  split
  · split
    · next hon =>
      obtain ⟨-, hlt, hoff⟩ := h.tracked.past c hc
      have haside : Aside c s.toTripLog := ⟨hlt, fun he => by rw [hoff he] at hon; cases hon⟩
      exact (haside.passed_endTrip _).untouched
    · exact Untouched.refl ..
  · exact Untouched.refl ..

/-- The bad case, over the passes still to come. -/
theorem along_of_finishedStays {s₀ : LoopState} (h₀ : EndedInv [] s₀) :
    ∀ (qs : List Pass) {pre : List Pass} {s t : LoopState} {es es' : List (List Int)},
      run (iteration cfg) s₀ pre = some (s, es) → run (iteration cfg) s qs = some (t, es') →
      FinishedStays cfg s₀ (pre ++ qs) → Along (iteration cfg) (Undisturbed cfg) s qs
  | [], _, _, _, _, _, _, _, _ => trivial
  | q :: qs, pre, s, t, es, es', hpre, hrun, hstays => by
    obtain ⟨s₁, e, es₁, hstep, hrun', -⟩ := run_cons_eq_some.mp hrun
    have hone : run (iteration cfg) s [q] = some (s₁, [e]) := run_singleton.mpr ⟨e, hstep, rfl⟩
    have hpass := undisturbed_of_untouched (endedInv_run h₀ hpre) hstep fun c hc =>
      (hstays pre [q] qs rfl s es s₁ [e] hpre hone c hc).1
    refine ⟨hpass, fun s₂ e₂ hstep₂ => ?_⟩
    obtain ⟨rfl, rfl⟩ : s₁ = s₂ ∧ e = e₂ := by
      rw [hstep] at hstep₂
      exact Prod.mk.inj (Option.some.inj hstep₂)
    have hnext : run (iteration cfg) s₀ (pre ++ [q]) = some (s₁, es ++ [e]) := by
      rw [run_append hpre, hone]
      rfl
    exact along_of_finishedStays h₀ qs hnext hrun' (by simpa using hstays)

end Runs

/-- **When a finished trip stays finished.** In a run of the loop, from any
database, the trips reported as ended keep their rows and get no more rows
filed under them if and only if every pass is undisturbed. -/
theorem finished_iff {cfg : Setup} {db : TripTable} {gpsdata : Bool} {samplecount : Int}
    {qs : List Pass} {t : LoopState} {es : List (List Int)}
    (hrun : run (iteration cfg) (LoopState.init cfg db gpsdata samplecount) qs = some (t, es)) :
    FinishedStays cfg (LoopState.init cfg db gpsdata samplecount) qs ↔
      Along (iteration cfg) (Undisturbed cfg) (LoopState.init cfg db gpsdata samplecount) qs := by
  have h₀ := endedInv_init cfg db gpsdata samplecount
  constructor
  · intro hstays
    exact along_of_finishedStays h₀ qs (run_nil _) hrun hstays
  · rintro hal pre mid post rfl s es s' es' hpre hmid c hc
    have hinv := endedInv_run h₀ hpre
    have hkept := untouched_run mid hinv (hal.right hpre).left hmid c hc
    have hlast := endedInv_run h₀ (by rw [run_append hpre, hmid]; rfl)
    refine ⟨hkept, hkept.trans (untouched_atExit hlast ?_)⟩
    rw [List.flatten_append]
    exact List.mem_append_left _ hc

/-- After the drive, the engine stays off: the trip goes on growing. -/
theorem finished_disturbed : ¬ ∀ cfg db gpsdata samplecount qs t es,
    run (iteration cfg) (LoopState.init cfg db gpsdata samplecount) qs = some (t, es) →
    FinishedStays cfg (LoopState.init cfg db gpsdata samplecount) qs := by
  intro h
  obtain ⟨⟨t, es⟩, hrun⟩ := Option.isSome_iff_exists.mp
    (show (run (iteration ⟨true, 1⟩) (LoopState.init ⟨true, 1⟩ emptyDb false (-1))
      (drive ++ [drivePass 4000000 .noData])).isSome by decide)
  have hal := along_of_finishedStays (endedInv_init ..) _ (run_nil _) hrun
    (h _ _ _ _ _ _ _ hrun)
  exact absurd hal (by decide)

/-- After the drive, another one: the first trip is left alone. -/
theorem finished_second_drive :
    FinishedStays ⟨true, 1⟩ (LoopState.init ⟨true, 1⟩ emptyDb false (-1))
      (drive ++ [drivePass 4000000 .success, drivePass 5000000 .success]) := by
  obtain ⟨⟨t, es⟩, hrun⟩ := Option.isSome_iff_exists.mp
    (show (run (iteration ⟨true, 1⟩) (LoopState.init ⟨true, 1⟩ emptyDb false (-1))
      (drive ++ [drivePass 4000000 .success, drivePass 5000000 .success])).isSome by decide)
  exact (finished_iff hrun).mpr (by decide)

end ObdGpsLogger.Logger
