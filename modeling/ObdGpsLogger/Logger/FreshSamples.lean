import ObdGpsLogger.Logger.Samples

/-!
# Which results decide about a sample

The status that decides between a row, the end of a trip and the end of the
loop is the last one that the `getobdvalue` loop has left in `obdstatus`. With
a command to send it is the status of a command sent in this pass, and a row is
filed exactly when all of them have succeeded, with the values read
(`Fresh`). With no command to send, which is what a capability query that fails
leads to, the loop has no pass, and `obdstatus` is whatever it was: a row
without values may be filed for as long as it reads as a success.

`fresh_iff` says that the passes of a run are fresh exactly if there is a
command, or nothing to ask.
-/

namespace ObdGpsLogger.Logger

open Machine Obdcomm

/-- `obdstatus`, when the `getobdvalue` loop is over. -/
def LoopState.obdstatus (cfg : Setup) (s : LoopState) (q : Pass) : ObdSerialStatus :=
  (sampleObd q.obdvalue 0 cfg.numCommands q.staleStatus s.bindings).1

/-- A command was sent in this pass, and all have succeeded. -/
def AllRead (cfg : Setup) (q : Pass) : Prop :=
  cfg.serialOpen = true ∧ 0 < cfg.numCommands ∧
    ∀ k < cfg.numCommands, (q.obdvalue k).1 = .success

instance (cfg : Setup) (q : Pass) : Decidable (AllRead cfg q) :=
  inferInstanceAs (Decidable (_ ∧ _ ∧ _))

/-- The values that a pass reads, one for each command. -/
def readValues (cfg : Setup) (q : Pass) : List (Option Rat) :=
  (List.range cfg.numCommands).map fun k => some (q.obdvalue k).2

/-- **A fresh pass**: the deciding status is that of a command sent in it, after
successes only, and there is one more row exactly when all commands have
succeeded, with the values they gave. -/
structure Fresh (cfg : Setup) (s : LoopState) (q : Pass) : Prop where
  decided : cfg.serialOpen = true → q.starttime ≠ none →
    ∃ k < cfg.numCommands, (∀ j < k, (q.obdvalue j).1 = .success) ∧
      s.obdstatus cfg q = (q.obdvalue k).1
  filed : ∀ (t : Int) (s' : LoopState) (ended : List Int), q.starttime = some t →
    iteration cfg s q = some (s', ended) →
    s'.obd = s.obd ++
      if AllRead cfg q then [⟨readValues cfg q, t, s'.currenttrip⟩] else []

/-! ## One pass -/

/-- After a success, the values are those read, each in its own column. -/
theorem sampleObd_values (obdvalue : Nat → ObdSerialStatus × Rat) {n : Nat}
    {obdstatus : ObdSerialStatus} {bindings : List (Option Rat)} (hn : bindings.length = n)
    (h : (sampleObd obdvalue 0 n obdstatus bindings).1 = .success) :
    (sampleObd obdvalue 0 n obdstatus bindings).2 =
      (List.range n).map fun k => some (obdvalue k).2 := by
  obtain ⟨-, hbound⟩ := sampleObd_bindings obdvalue n 0 obdstatus bindings h (by omega)
  apply List.ext_getElem?
  intro k
  rw [hbound, List.getElem?_map]
  by_cases hk : k < n
  · rw [if_pos (by omega), List.getElem?_range hk]
    rfl
  · rw [if_neg (by omega), List.getElem?_eq_none (by omega),
      List.getElem?_eq_none (by rw [List.length_range]; omega)]
    rfl

/-- The OBD phase files one row if the status is a success, with the values and
the time it is given and the trip that is on then, and otherwise none. -/
theorem obd_obdPhase (l : TripLog) (t : Int) (obdstatus : ObdSerialStatus)
    (bindings : List (Option Rat)) :
    (obdPhase l t obdstatus bindings).1.obd = l.obd ++
      if obdstatus = .success then
        [⟨bindings, t, (obdPhase l t obdstatus bindings).1.currenttrip⟩] else [] := by
  by_cases hstatus : obdstatus = .success
  · rw [if_pos hstatus, hstatus]
    unfold obdPhase
    dsimp only
    by_cases h : l.ontrip = true
    · rw [if_pos h]
      rfl
    · rw [if_neg h]
      rfl
  · rw [if_neg hstatus, List.append_nil]
    unfold obdPhase
    split
    · exact absurd rfl hstatus
    · rfl
    · split <;> rfl

/-- The rows a pass files: one if there is a serial port and the status of the
pass is a success, with the values that have been sampled in this pass. -/
theorem obd_iteration {cfg : Setup} {s s' : LoopState} {q : Pass} {ended : List Int} {t : Int}
    (hq : q.starttime = some t) (h : iteration cfg s q = some (s', ended)) :
    s'.obd = s.obd ++
      if cfg.serialOpen = true ∧ s.obdstatus cfg q = .success then
        [⟨(sampleObd q.obdvalue 0 cfg.numCommands q.staleStatus s.bindings).2, t,
          s'.currenttrip⟩] else [] := by
  have hpass : s'.toTripLog = (LoopState.pass cfg s.counted t q).1.toTripLog := by
    rcases iteration_cases h with ⟨hnone, -⟩ | ⟨t', ht', hlog, -⟩
    · rw [hnone] at hq
      cases hq
    · rw [ht'] at hq
      obtain rfl := Option.some.inj hq
      exact hlog
  rw [hpass]
  -- the trip of the row is that of the pass: nothing behind the sampling changes it
  unfold LoopState.pass
  obtain ⟨-, hobd, -, htrip, -⟩ := grows_rest (LoopState.sample cfg
    { s.counted with
      toTripLog := (signalPhase s.counted.toTripLog t q.starttripSignal).1
      timeInsert := some t } t q).1 t q
  dsimp only at hobd htrip ⊢
  rw [hobd, htrip]
  unfold LoopState.sample
  by_cases hopen : cfg.serialOpen = true
  · rw [if_pos hopen]
    dsimp only
    rw [obd_obdPhase, obd_signalPhase]
    simp only [hopen, true_and]
    rfl
  · rw [if_neg hopen, if_neg (fun h => hopen h.1), List.append_nil]
    exact obd_signalPhase ..

/-- **With a command to send, or without a port, a pass is fresh**: the status
it looks at is one that it has set itself. -/
theorem fresh_of_commands {cfg : Setup} {s : LoopState} {q : Pass}
    (hn : s.bindings.length = cfg.numCommands)
    (h : cfg.serialOpen = true → q.starttime ≠ none → 0 < cfg.numCommands) : Fresh cfg s q := by
  constructor
  · intro hopen hq
    obtain ⟨n, hcfg⟩ := Nat.exists_eq_succ_of_ne_zero (Nat.ne_of_gt (h hopen hq))
    obtain ⟨k, hk, hbefore, -, hstatus⟩ := sampleObd_status q.obdvalue n 0 q.staleStatus s.bindings
    simp only [Nat.zero_add] at hbefore hstatus
    refine ⟨k, by omega, hbefore, ?_⟩
    rw [LoopState.obdstatus, hcfg]
    exact hstatus
  · intro t s' ended hq hstep
    -- with a command, a status of success is that of all of them
    have hread : cfg.serialOpen = true ∧ s.obdstatus cfg q = .success ↔ AllRead cfg q := by
      constructor
      · rintro ⟨hopen, hstatus⟩
        have hpos := h hopen (by rw [hq]; exact Option.some_ne_none t)
        have hall := (sampleObd_eq_success ..).mp hstatus
        rw [if_neg (Nat.ne_of_gt hpos)] at hall
        exact ⟨hopen, hpos, fun k hk => by simpa using hall k hk⟩
      · rintro ⟨hopen, hpos, hall⟩
        refine ⟨hopen, (sampleObd_eq_success ..).mpr ?_⟩
        rw [if_neg (Nat.ne_of_gt hpos)]
        exact fun k hk => by simpa using hall k hk
    rw [obd_iteration hq hstep]
    by_cases hall : AllRead cfg q
    · rw [if_pos (hread.mpr hall), if_pos hall,
        sampleObd_values q.obdvalue hn (hread.mpr hall).2]
      rfl
    · rw [if_neg (mt hread.mp hall), if_neg hall]

/-! ## A run -/

/-- **The passes of a run are fresh** exactly if there is a command to send, or
no pass that asks for values. -/
theorem fresh_iff {cfg : Setup} {db : TripTable} {gpsdata : Bool} {samplecount : Int}
    {qs : List Pass} {s : LoopState} {ended : List (List Int)}
    (h : run (iteration cfg) (LoopState.init cfg db gpsdata samplecount) qs = some (s, ended)) :
    Along (iteration cfg) (Fresh cfg) (LoopState.init cfg db gpsdata samplecount) qs ↔
      (cfg.serialOpen = true → (∃ q ∈ qs, q.starttime ≠ none) → 0 < cfg.numCommands) := by
  constructor
  · rintro hal hopen ⟨q, hq, hclock⟩
    obtain ⟨s₁, s₂, o, hfresh, -⟩ := hal.exists_mem h hq
    obtain ⟨k, hk, -⟩ := hfresh.decided hopen hclock
    omega
  · intro hcond
    have hinit : (LoopState.init cfg db gpsdata samplecount).bindings.length = cfg.numCommands :=
      List.length_replicate
    refine along_of_invariant (I := fun s => s.bindings.length = cfg.numCommands)
      (fun s q s' o hs hstep => (bindings_iteration hstep).trans hs) hinit fun q hq s hs => ?_
    exact fresh_of_commands hs fun hopen hclock => hcond hopen ⟨q, hq, hclock⟩

/-- Nothing to send, and a status that happens to read as a success. -/
def blindPass : Pass := { drivePass 1000000 .success with staleStatus := .success }

/-- **A row without values is filed** once there is no command to send. -/
theorem noCommands_filed :
    ¬ ∀ (cfg : Setup) (db : TripTable) (gpsdata : Bool) (samplecount : Int) (qs : List Pass)
        (s : LoopState) (ended : List (List Int)),
      run (iteration cfg) (LoopState.init cfg db gpsdata samplecount) qs = some (s, ended) →
      Along (iteration cfg) (Fresh cfg) (LoopState.init cfg db gpsdata samplecount) qs := by
  intro h
  have hfresh := (h ⟨true, 0⟩ emptyDb false (-1) [blindPass] _ _ rfl).1
  have hfiled := hfresh.filed 1000000 _ _ rfl rfl
  revert hfiled
  decide

/-- On the drive there is a command to send, so all of its passes are fresh and
its log is made of what is read on it. -/
theorem drive_fresh : ∃ s ended, driveRun = some (s, ended) ∧
    Along (iteration ⟨true, 1⟩) (Fresh ⟨true, 1⟩) (LoopState.init ⟨true, 1⟩ emptyDb false (-1))
      drive :=
  ⟨_, _, rfl, (fresh_iff (show driveRun = some _ from rfl)).mpr fun _ _ => Nat.one_pos⟩

end ObdGpsLogger.Logger
