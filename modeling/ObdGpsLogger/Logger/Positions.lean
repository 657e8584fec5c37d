import ObdGpsLogger.Logger.Samples

/-!
# The positions of a run

A logger that is connected to gpsd files a position in every pass that gets a
fix, at the time of that pass, and no others (`run_positions`).
-/

namespace ObdGpsLogger.Logger

open Machine

/-- A row of `gps` is the position of a pass. -/
structure PositionOf (p : Pass) (g : GpsRow) : Prop where
  time : p.starttime = some g.time
  fix : 0 ≤ p.gpsstatus
  lat : g.lat = p.position.lat
  lon : g.lon = p.position.lon
  alt : g.alt = if 1 ≤ p.gpsstatus then some p.position.alt else none

/-- What a pass does to the table `gps`. -/
def FilesPosition (p : Pass) (gps gps' : List GpsRow) : Prop :=
  (∃ g, PositionOf p g ∧ gps' = gps ++ [g]) ∨
    (p.starttime = none ∨ p.gpsstatus < 0) ∧ gps' = gps

theorem signalPhase_gps (l : TripLog) (t : Int) (starttripSignal : Bool) :
    (signalPhase l t starttripSignal).1.gps = l.gps := by
  unfold signalPhase
  split
  · split <;> rfl
  · rfl

theorem obdPhase_gps (l : TripLog) (t : Int) (obdstatus : Obdcomm.ObdSerialStatus)
    (bindings : List (Option Rat)) : (obdPhase l t obdstatus bindings).1.gps = l.gps := by
  unfold obdPhase
  split
  · show (TripLog.insertObd _ t bindings).gps = _
    split <;> rfl
  · rfl
  · split <;> rfl

theorem sample_gps (cfg : Setup) (s : LoopState) (t : Int) (q : Pass) :
    (LoopState.sample cfg s t q).1.gps = s.gps ∧
      (LoopState.sample cfg s t q).1.gpsdata = s.gpsdata := by
  unfold LoopState.sample
  split
  · exact ⟨obdPhase_gps .., rfl⟩
  · exact ⟨rfl, rfl⟩

theorem locate_gps {s : LoopState} (hconnected : s.gpsdata = true) {t : Int} {q : Pass}
    (ht : q.starttime = some t) :
    FilesPosition q s.gps (s.locate t q).gps ∧ (s.locate t q).gpsdata = true := by
  unfold LoopState.locate
  rw [if_pos hconnected]
  split
  · next hfix => exact ⟨Or.inl ⟨_, ⟨ht, hfix, rfl, rfl, rfl⟩, rfl⟩, hconnected⟩
  · next hnone => exact ⟨Or.inr ⟨Or.inr (Int.not_le.mp hnone), rfl⟩, hconnected⟩

theorem pass_positions (cfg : Setup) {s : LoopState} (hconnected : s.gpsdata = true) {t : Int}
    {q : Pass} (ht : q.starttime = some t) :
    FilesPosition q s.gps (LoopState.pass cfg s t q).1.gps ∧
      (LoopState.pass cfg s t q).1.gpsdata = true := by
  unfold LoopState.pass
  dsimp only
  have hsignal := signalPhase_gps s.toTripLog t q.starttripSignal
  generalize signalPhase s.toTripLog t q.starttripSignal = a at hsignal ⊢
  obtain ⟨hgps, hdata⟩ := sample_gps cfg { s with toTripLog := a.1, timeInsert := some t } t q
  generalize LoopState.sample cfg { s with toTripLog := a.1, timeInsert := some t } t q = b
    at hgps hdata ⊢
  have hbefore : (b.1.toTripLog.touchTrip t).gps = s.gps := hgps.trans hsignal
  rw [← hbefore]
  exact locate_gps (s := { b.1 with toTripLog := b.1.toTripLog.touchTrip t })
    (hdata.trans hconnected) ht

/-- **One pass** with a connection to gpsd files the position it has got, if
any, and keeps the connection. -/
theorem iteration_positions {cfg : Setup} {s s' : LoopState} {q : Pass} {ended : List Int}
    (h : iteration cfg s q = some (s', ended)) (hconnected : s.gpsdata = true) :
    FilesPosition q s.gps s'.gps ∧ s'.gpsdata = true := by
  unfold iteration at h
  split at h
  · split at h
    · next hnone =>
      obtain ⟨rfl, -⟩ := Prod.mk.inj (Option.some.inj h)
      exact ⟨Or.inr ⟨Or.inl hnone, rfl⟩, hconnected⟩
    · next t ht =>
      obtain ⟨rfl, -⟩ := Prod.mk.inj (Option.some.inj h)
      exact pass_positions cfg (s := s.counted) hconnected ht
  · cases h

/-- **Many passes**: one position for each that gets a fix. -/
theorem run_positions {cfg : Setup} {ps : List Pass} {s s' : LoopState}
    {ended : List (List Int)} (hrun : run (iteration cfg) s ps = some (s', ended))
    (hconnected : s.gpsdata = true) : ∃ rows, s'.gps = s.gps ++ rows ∧
      (∀ g ∈ rows, ∃ p ∈ ps, PositionOf p g) ∧
      ∀ p ∈ ps, p.starttime.isSome → 0 ≤ p.gpsstatus → ∃ g ∈ rows, PositionOf p g := by
  induction ps generalizing s ended with
  | nil =>
    obtain ⟨rfl, -⟩ := Prod.mk.inj (Option.some.inj hrun)
    refine ⟨[], (List.append_nil s.gps).symm, ?_, ?_⟩
    · intro g hg
      cases hg
    · intro p hp
      cases hp
  | cons p ps ih =>
    obtain ⟨s₁, o, os, hstep, hrest, rfl⟩ := run_cons_eq_some.mp hrun
    obtain ⟨hfiles, hconnected₁⟩ := iteration_positions hstep hconnected
    obtain ⟨rows, hrows, hsound, hcomplete⟩ := ih hrest hconnected₁
    -- the first pass files a row in front of those of the others, or none
    rcases hfiles with ⟨g, hg, heq⟩ | ⟨hnone, heq⟩
    · refine ⟨g :: rows, by rw [hrows, heq, List.append_assoc]; rfl, ?_, ?_⟩
      · intro g' hg'
        rcases List.mem_cons.mp hg' with rfl | hg'
        · exact ⟨p, List.mem_cons_self .., hg⟩
        · obtain ⟨q, hq, hpos⟩ := hsound g' hg'
          exact ⟨q, List.mem_cons_of_mem _ hq, hpos⟩
      · intro q hq hsome hfix
        rcases List.mem_cons.mp hq with rfl | hq
        · exact ⟨g, List.mem_cons_self .., hg⟩
        · obtain ⟨g', hg', hpos⟩ := hcomplete q hq hsome hfix
          exact ⟨g', List.mem_cons_of_mem _ hg', hpos⟩
    · refine ⟨rows, by rw [hrows, heq], ?_, ?_⟩
      · intro g' hg'
        obtain ⟨q, hq, hpos⟩ := hsound g' hg'
        exact ⟨q, List.mem_cons_of_mem _ hq, hpos⟩
      · intro q hq hsome hfix
        rcases List.mem_cons.mp hq with rfl | hq
        · rcases hnone with hnone | hneg
          · rw [hnone] at hsome
            cases hsome
          · exact absurd hfix (Int.not_le.mpr hneg)
        · exact hcomplete q hq hsome hfix

end ObdGpsLogger.Logger
