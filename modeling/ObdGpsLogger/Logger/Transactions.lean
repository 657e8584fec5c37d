import ObdGpsLogger.Logger.Samples
import ObdGpsLogger.Sql.Transaction

/-!
# What a crash leaves of the log

The logger of `src/logger/main.c` does its writing in transactions: one is open
when the loop starts, and every so many passes it is committed and the next one
is begun. A pass writes to the database several times. `Logging` is the loop with
the statements it sends; `crash_recovers` says what is in the file if the logger
dies between any two of them, and `sessions_consistent` what is in it after any
number of loggers, each of which may have died.

Mirroring notes:
- `BEGIN` and `COMMIT` are those of `obdbegintransaction` and
  `obdcommittransaction`. All statements succeed.
- `samplespersecond` is any number; eight times it is not too large for an
  `int`.
- The statements that create the tables come before all others, and are left
  out: the tables are there.
-/

namespace ObdGpsLogger.Logger

open Machine Obdcomm Sql

/-! ## What is stored -/

/-- What is stored in the file: the rows of the three tables. -/
structure Stored where
  trips : TripTable
  obd : List ObdRow
  gps : List GpsRow

namespace Stored

/-- `INSERT INTO trip (start) VALUES (?)`. -/
def startTrip (t : Int) (d : Stored) : Stored := { d with trips := (starttrip d.trips t).2 }

/-- `UPDATE trip SET end=? WHERE tripid=?`. -/
def updateTrip (id t : Int) (d : Stored) : Stored := { d with trips := updatetrip d.trips id t }

/-- The OBD insert, as a change of the tables. -/
def insertObd (r : ObdRow) (d : Stored) : Stored := { d with obd := d.obd ++ [r] }

/-- The GPS insert, as a change of the tables. -/
def insertGps (r : GpsRow) (d : Stored) : Stored := { d with gps := d.gps ++ [r] }

end Stored

/-- The contents of the file when a run has written the log `l` behind what was
there before it. -/
def TripLog.stored (d : Stored) (l : TripLog) : Stored := ⟨l.trips, d.obd ++ l.obd, d.gps ++ l.gps⟩

section Operations

variable (d : Stored) (l : TripLog) (t : Int)

@[simp] theorem stored_beginTrip : (l.beginTrip t).stored d = (l.stored d).startTrip t := rfl

@[simp] theorem stored_touchTrip :
    (l.touchTrip t).stored d = (l.stored d).updateTrip l.currenttrip t := rfl

@[simp] theorem stored_endTrip :
    (l.endTrip t).stored d = (l.stored d).updateTrip l.currenttrip t := rfl

@[simp] theorem stored_insertObd (bindings : List (Option Rat)) :
    (l.insertObd t bindings).stored d =
      (l.stored d).insertObd ⟨bindings, t, l.currenttrip⟩ := by
  simp [TripLog.stored, TripLog.insertObd, Stored.insertObd]

end Operations

/-- The row of the GPS insert: without a 3d fix its altitude is NULL. -/
def gpsInserted (t gpsstatus : Int) (p : GpsPosition) (trip : Int) : GpsRow :=
  { lat := p.lat
    lon := p.lon
    alt := if 1 ≤ gpsstatus then some p.alt else none
    speed := p.speed
    course := p.course
    gpstime := p.gpstime
    time := t
    trip := trip }

@[simp] theorem stored_insertGps (d : Stored) (l : TripLog) (t gpsstatus : Int) (p : GpsPosition) :
    (l.insertGps t gpsstatus p).stored d =
      (l.stored d).insertGps (gpsInserted t gpsstatus p l.currenttrip) := by
  simp [TripLog.stored, TripLog.insertGps, Stored.insertGps, gpsInserted]

/-! ## The statements of a pass -/

/-- What the branch `if(sig_starttrip)` writes: the trip that is on ends, and
another starts. -/
def signalWrites (l : TripLog) (t : Int) (starttripSignal : Bool) : List (Stored → Stored) :=
  if starttripSignal then
    (if l.ontrip then [Stored.updateTrip l.currenttrip t] else []) ++ [Stored.startTrip t]
  else []

/-- The statements a pass sends after the `getobdvalue` loop: a row if the
status is a success, in a new trip if none is on, and otherwise the end of the
trip that is on. -/
def obdWrites (l : TripLog) (t : Int) (obdstatus : ObdSerialStatus)
    (bindings : List (Option Rat)) : List (Stored → Stored) :=
  match obdstatus with
  | .success =>
    if l.ontrip then [Stored.insertObd ⟨bindings, t, l.currenttrip⟩]
    else [Stored.startTrip t, Stored.insertObd ⟨bindings, t, (l.beginTrip t).currenttrip⟩]
  | .error => []
  | _ => if l.ontrip then [Stored.updateTrip l.currenttrip t] else []

/-- All that a pass of the loop writes, in order. -/
def passWrites (cfg : Setup) (s : LoopState) (t : Int) (q : Pass) : List (Stored → Stored) :=
  let a := signalPhase s.toTripLog t q.starttripSignal
  let sampled := sampleObd q.obdvalue 0 cfg.numCommands q.staleStatus s.bindings
  let b := LoopState.sample cfg { s with toTripLog := a.1, timeInsert := some t } t q
  signalWrites s.toTripLog t q.starttripSignal ++
    (if cfg.serialOpen then obdWrites a.1 t sampled.1 sampled.2 else []) ++
    [Stored.updateTrip b.1.currenttrip t] ++
    if b.1.gpsdata ∧ 0 ≤ q.gpsstatus then
      [Stored.insertGps (gpsInserted t q.gpsstatus q.position b.1.currenttrip)] else []

section Writes

variable (d : Stored)

theorem applyAll_signalWrites (l : TripLog) (t : Int) (starttripSignal : Bool) :
    applyAll (signalWrites l t starttripSignal) (l.stored d) =
      (signalPhase l t starttripSignal).1.stored d := by
  unfold signalWrites signalPhase
  cases starttripSignal with
  | false => rfl
  | true =>
    rw [if_pos rfl, if_pos rfl]
    split <;> rfl

theorem applyAll_obdWrites (l : TripLog) (t : Int) (obdstatus : ObdSerialStatus)
    (bindings : List (Option Rat)) :
    applyAll (obdWrites l t obdstatus bindings) (l.stored d) =
      (obdPhase l t obdstatus bindings).1.stored d := by
  unfold obdWrites obdPhase
  by_cases hon : l.ontrip = true
  · rw [if_pos hon, if_pos hon, if_pos hon, if_pos hon]
    cases obdstatus <;> simp
  · rw [if_neg hon, if_neg hon, if_neg hon, if_neg hon]
    cases obdstatus <;> simp

theorem applyAll_sample (cfg : Setup) (s : LoopState) (l : TripLog) (t : Int) (q : Pass) :
    applyAll (if cfg.serialOpen then
        obdWrites l t (sampleObd q.obdvalue 0 cfg.numCommands q.staleStatus s.bindings).1
          (sampleObd q.obdvalue 0 cfg.numCommands q.staleStatus s.bindings).2 else [])
        (l.stored d) =
      (LoopState.sample cfg { s with toTripLog := l, timeInsert := some t } t q).1.stored d := by
  unfold LoopState.sample
  split
  · exact applyAll_obdWrites d ..
  · rfl

/-- **The statements of a pass** do to the tables what the pass does to the
log. -/
theorem applyAll_passWrites (cfg : Setup) (s : LoopState) (t : Int) (q : Pass) :
    applyAll (passWrites cfg s t q) (s.stored d) = (LoopState.pass cfg s t q).1.stored d := by
  unfold passWrites LoopState.pass
  dsimp only
  rw [applyAll_append, applyAll_append, applyAll_append, applyAll_signalWrites,
    applyAll_sample, locate_log]
  split
  · rw [stored_insertGps]
    rfl
  · rfl

end Writes

/-! ## The loop with its statements -/

/-- `TRANSACTIONTIME`, in seconds. -/
def transactionTime : Int := 8

/-- `basetransactioncount`: the passes of a transaction, ten a second where no
rate is set. -/
def basetransactioncount (samplespersecond : Int) : Int :=
  transactionTime * if samplespersecond = 0 then 10 else samplespersecond

theorem basetransactioncount_ne_zero (samplespersecond : Int) :
    basetransactioncount samplespersecond ≠ 0 := by
  unfold basetransactioncount transactionTime
  split <;> omega

/-- The variables of the loop, with `transactioncount`. -/
structure Logging extends LoopState where
  transactioncount : Int

/-- The variables and the tables in front of the loop, with no pass counted. -/
def Logging.init (cfg : Setup) (d : Stored) (gpsdata : Bool) (samplecount : Int) : Logging :=
  ⟨LoopState.init cfg d.trips gpsdata samplecount, 0⟩

/-- One pass, with the statements it sends. A pass that leaves the loop does not
count. -/
def Logging.step (cfg : Setup) (base : Int) (s : Logging) (q : Pass) :
    Option (Logging × Block Stored) :=
  match iteration cfg s.toLoopState q with
  | none => none
  | some (s', _) =>
    let writes := match q.starttime with
      | none => []
      | some t => passWrites cfg s.counted t q
    if s'.left then some (⟨s', s.transactioncount⟩, ⟨writes, false⟩)
    else
      let transactioncount := (s.transactioncount + 1).tmod base
      some (⟨s', transactioncount⟩, ⟨writes, transactioncount = 0⟩)

/-- The statements that are sent behind the last `COMMIT`: the end of the trip
that is on, if there is one, at the time that was read last. -/
def finalWrites (s : LoopState) : List (Action Stored) :=
  match s.timeInsert with
  | some t => if s.ontrip then [.write (Stored.updateTrip s.currenttrip t)] else []
  | none => []

/-- All that a logger sends, when its loop has sent `blocks`. -/
def Logging.script (s : Logging) (blocks : List (Block Stored)) : List (Action Stored) :=
  .begin :: (blocks.flatMap Block.script ++ .commit :: finalWrites s.toLoopState)

/-- The passes that count: all, but the one that leaves the loop. -/
def completed (s : LoopState) (qs : List Pass) : Nat :=
  if s.left then qs.length - 1 else qs.length

section Runs

variable {cfg : Setup} {base : Int} {d : Stored} {s₀ : LoopState}

/-- What one pass of the loop does to the log, and how its writes do the same to
the tables, be it the pass that leaves the loop or not. -/
theorem step_cases {s s' : Logging} {q : Pass} {b : Block Stored}
    (h : Logging.step cfg base s q = some (s', b)) :
    s.left = false ∧ (∃ ended, iteration cfg s.toLoopState q = some (s'.toLoopState, ended)) ∧
      applyAll b.writes (s.stored d) = s'.stored d ∧
      (s'.left = true ∧ s'.transactioncount = s.transactioncount ∧ b.commits = false ∨
        s'.left = false ∧ s'.transactioncount = (s.transactioncount + 1).tmod base ∧
          b.commits = decide (s'.transactioncount = 0)) := by
  unfold Logging.step at h
  cases hit : iteration cfg s.toLoopState q with
  | none =>
    rw [hit] at h
    cases h
  | some r =>
    obtain ⟨u, ended⟩ := r
    rw [hit] at h
    dsimp only at h
    -- a pass is only made while the loop goes on
    have hgoes : s.left = false := by
      unfold iteration at hit
      split at hit
      · next hgoes =>
        unfold LoopState.goesOn at hgoes
        rw [Bool.and_eq_true, Bool.not_eq_true'] at hgoes
        exact hgoes.1
      · cases hit
    -- what is written in the pass does to the tables what the pass does to the log
    have hwrites : applyAll (match q.starttime with
        | none => []
        | some t => passWrites cfg s.counted t q) (s.stored d) = u.stored d := by
      rcases iteration_cases hit with ⟨hq, hlog, -⟩ | ⟨t, hq, hlog, -⟩
      · rw [hq, hlog]
        rfl
      · rw [hq, hlog]
        exact applyAll_passWrites d cfg s.counted t q
    split at h
    · next hleft =>
      obtain ⟨rfl, rfl⟩ := Prod.mk.inj (Option.some.inj h)
      exact ⟨hgoes, ⟨ended, rfl⟩, hwrites, Or.inl ⟨hleft, rfl, rfl⟩⟩
    · next hleft =>
      obtain ⟨rfl, rfl⟩ := Prod.mk.inj (Option.some.inj h)
      exact ⟨hgoes, ⟨ended, rfl⟩, hwrites, Or.inr ⟨Bool.not_eq_true _ ▸ hleft, rfl, rfl⟩⟩

/-- Counting up and taking the rest modulo the transaction size is what
`transactioncount` does, whatever the sign of the size. -/
theorem tmod_count (m : Nat) (base : Int) :
    (((m % base.natAbs : Nat) : Int) + 1).tmod base = ((m + 1) % base.natAbs : Nat) := by
  -- the sign of `base` does not matter
  have habs : ∀ x : Int, x % base = x % (base.natAbs : Int) := by
    intro x
    rcases Int.natAbs_eq base with h | h
    · rw [← h]
    · conv_lhs => rw [h, Int.emod_neg]
  rw [Int.tmod_eq_emod_of_nonneg (by omega), habs]
  norm_cast
  rw [Nat.mod_add_mod]

/-- What the loop keeps, with the transaction that is open: what is in the file
is the log as it was after the last pass whose number is a multiple of
`base`. -/
structure InTransaction (cfg : Setup) (base : Int) (d : Stored) (s₀ : LoopState) (qs : List Pass)
    (blocks : List (Block Stored)) (s : Logging) : Prop where
  loop : ∃ ended, run (iteration cfg) s₀ qs = some (s.toLoopState, ended)
  length : blocks.length = qs.length
  count : s.transactioncount = (completed s.toLoopState qs % base.natAbs : Nat)
  file : ∃ u ended,
    run (iteration cfg) s₀
        (qs.take (completed s.toLoopState qs / base.natAbs * base.natAbs)) = some (u, ended) ∧
      Connection.execAll ⟨s₀.stored d, some (s₀.stored d)⟩ (blocks.flatMap Block.script) =
        ⟨u.stored d, some (s.stored d)⟩

theorem completed_le (s : LoopState) (qs : List Pass) : completed s qs ≤ qs.length := by
  unfold completed
  split <;> omega

theorem inTransaction_step {qs : List Pass} {blocks : List (Block Stored)} {s s' : Logging}
    {q : Pass} {b : Block Stored} (h : InTransaction cfg base d s₀ qs blocks s)
    (hstep : Logging.step cfg base s q = some (s', b)) :
    InTransaction cfg base d s₀ (qs ++ [q]) (blocks ++ [b]) s' := by
  obtain ⟨hgoes, ⟨ended, hit⟩, hwrites, hcases⟩ := step_cases (d := d) hstep
  obtain ⟨ended₀, hrun⟩ := h.loop
  obtain ⟨u, endedu, hu, hfile⟩ := h.file
  have hcount : completed s.toLoopState qs = qs.length := by
    unfold completed
    rw [hgoes]
    rfl
  have hloop : run (iteration cfg) s₀ (qs ++ [q]) = some (s'.toLoopState, ended₀ ++ [ended]) := by
    rw [run_append hrun, run_cons_of_step hit]
    rfl
  have hconn : Connection.execAll ⟨s₀.stored d, some (s₀.stored d)⟩
      ((blocks ++ [b]).flatMap Block.script) =
        ⟨if b.commits then s'.stored d else u.stored d, some (s'.stored d)⟩ := by
    rw [List.flatMap_append, Connection.execAll_append, hfile, List.flatMap_singleton,
      execAll_script, hwrites]
  -- the passes committed so far are among those of before
  have htake : ∀ n ≤ qs.length, (qs ++ [q]).take n = qs.take n := fun n hn =>
    List.take_append_of_le_length hn
  have hle := Nat.div_mul_le_self qs.length base.natAbs
  rw [hcount] at hu
  refine ⟨⟨_, hloop⟩, by simp [h.length], ?_, ?_⟩
  · rcases hcases with ⟨hleft, hsame, -⟩ | ⟨hleft, hnext, -⟩
    · rw [hsame, h.count, hcount]
      unfold completed
      rw [hleft]
      simp
    · rw [hnext, h.count, hcount, tmod_count]
      unfold completed
      rw [hleft]
      simp
  · rcases hcases with ⟨hleft, -, hno⟩ | ⟨hleft, hnext, hcommits⟩
    · have hdone : completed s'.toLoopState (qs ++ [q]) = qs.length := by
        unfold completed
        rw [hleft]
        simp
      rw [hdone, htake _ hle, hconn, hno]
      exact ⟨u, endedu, hu, rfl⟩
    · have hdone : completed s'.toLoopState (qs ++ [q]) = qs.length + 1 := by
        unfold completed
        rw [hleft]
        simp
      rw [hnext, h.count, hcount, tmod_count] at hcommits
      rw [hdone, hconn, hcommits]
      by_cases hzero : (qs.length + 1) % base.natAbs = 0
      · -- a commit: all passes are in the file
        refine ⟨s'.toLoopState, ended₀ ++ [ended], ?_, by rw [hzero]; rfl⟩
        rw [Nat.div_mul_cancel (Nat.dvd_of_mod_eq_zero hzero), List.take_of_length_le (by simp)]
        exact hloop
      · refine ⟨u, endedu, ?_, ?_⟩
        · rw [Nat.succ_div_of_not_dvd (fun h => hzero (Nat.mod_eq_zero_of_dvd h)), htake _ hle]
          exact hu
        · rw [decide_eq_false (by exact_mod_cast hzero)]
          rfl

theorem inTransaction_run {gpsdata : Bool} {samplecount : Int} {qs : List Pass} {s : Logging}
    {blocks : List (Block Stored)}
    (hrun : run (Logging.step cfg base) (Logging.init cfg d gpsdata samplecount) qs =
      some (s, blocks)) :
    InTransaction cfg base d (LoopState.init cfg d.trips gpsdata samplecount) qs blocks s := by
  refine run_history
    (I := InTransaction cfg base d (LoopState.init cfg d.trips gpsdata samplecount))
    (fun _ _ _ _ _ _ h hstep => inTransaction_step h hstep) ?_ hrun
  exact ⟨⟨[], rfl⟩, rfl, by simp [Logging.init, completed], _, [], by simp [completed], rfl⟩

/-- Before the first pass of a run the file has what was there before the run,
and nothing else. -/
theorem stored_init (cfg : Setup) (d : Stored) (gpsdata : Bool) (samplecount : Int) :
    (LoopState.init cfg d.trips gpsdata samplecount).stored d = d := by
  simp [LoopState.init, TripLog.stored]

/-- The file between two passes, wherever the run is killed: it is the log of a
whole number of passes, not more than have been made. -/
theorem file_blocks {gpsdata : Bool} {samplecount : Int} {qs : List Pass} {s : Logging}
    {blocks : List (Block Stored)} (hbase : base ≠ 0)
    (hrun : run (Logging.step cfg base) (Logging.init cfg d gpsdata samplecount) qs =
      some (s, blocks)) {k : Nat} (hk : k ≤ qs.length) :
    ∃ n ≤ k, ∃ u ended,
      run (iteration cfg) (LoopState.init cfg d.trips gpsdata samplecount) (qs.take n) =
        some (u, ended) ∧
      (Connection.execAll ⟨d, some d⟩ ((blocks.take k).flatMap Block.script)).file = u.stored d ∧
      base ∣ n ∧ k ≤ n + base.natAbs := by
  -- the run up to there
  have hsplit := hrun
  rw [← List.take_append_drop k qs] at hsplit
  obtain ⟨s', blocks₁, blocks₂, hrun', -, rfl⟩ := run_append_eq_some hsplit
  have hlen : blocks₁.length = k := by
    rw [run_length hrun', List.length_take, Nat.min_eq_left hk]
  have hkept := inTransaction_run hrun'
  obtain ⟨u, ended, hu, hfile⟩ := hkept.file
  rw [stored_init] at hfile
  have hdone := completed_le s'.toLoopState (qs.take k)
  have hlast : k ≤ completed s'.toLoopState (qs.take k) + 1 := by
    unfold completed
    rw [List.length_take, Nat.min_eq_left hk]
    split <;> omega
  rw [List.length_take, Nat.min_eq_left hk] at hdone
  generalize completed s'.toLoopState (qs.take k) = m at hu hdone hlast
  have hle := Nat.div_mul_le_self m base.natAbs
  rw [List.take_take, Nat.min_eq_left (hle.trans hdone)] at hu
  refine ⟨m / base.natAbs * base.natAbs, hle.trans hdone, u, ended, hu, ?_, ?_, ?_⟩
  · rw [List.take_append_of_le_length (by omega), List.take_of_length_le (by omega), hfile]
  · exact Int.natAbs_dvd.mp (Int.natCast_dvd_natCast.mpr (Nat.dvd_mul_left ..))
  · have hmod := Nat.mod_lt m (Int.natAbs_pos.mpr hbase)
    have hdiv := Nat.div_add_mod' m base.natAbs
    omega

/-- The last `COMMIT` and what is sent behind it bring all writes into the file,
with the end of the trip that is on. -/
theorem execAll_finalWrites (file : Stored) (s : LoopState) :
    Connection.execAll ⟨file, some (s.stored d)⟩ (.commit :: finalWrites s) =
      ⟨(atExit s).stored d, none⟩ := by
  unfold finalWrites atExit
  cases s.timeInsert with
  | none => rfl
  | some t =>
    by_cases hon : s.ontrip = true
    · simp only [hon, if_true]
      rfl
    · simp only [hon]
      rfl

/-- What is sent behind the last `COMMIT` is one statement at most, so a logger
that dies there has sent all of it or nothing. -/
theorem prefix_finalWrites {s : LoopState} {rest : List (Action Stored)}
    (h : rest <+: finalWrites s) : rest = [] ∨ rest = finalWrites s := by
  have hlen : (finalWrites s).length ≤ 1 := by
    unfold finalWrites
    split
    · split <;> simp
    · simp
  cases rest with
  | nil => exact Or.inl rfl
  | cons a rest => exact Or.inr (h.eq_of_length_le (by rw [List.length_cons]; omega))

/-- The part of a script that is sent before a crash ends in the loop, or
behind it. -/
theorem prefix_script {s : Logging} {blocks : List (Block Stored)} {pre : List (Action Stored)}
    (h : pre <+: s.script blocks) :
    pre = [] ∨ (∃ rest, pre = .begin :: rest ∧ rest <+: blocks.flatMap Block.script) ∨
      pre = .begin :: (blocks.flatMap Block.script ++ [.commit]) ∨ pre = s.script blocks := by
  rcases List.prefix_cons_iff.mp h with rfl | ⟨rest, rfl, hrest⟩
  · exact Or.inl rfl
  · refine Or.inr ?_
    rcases prefix_append_cases hrest with hin | ⟨rest', rfl, hbehind⟩
    · exact Or.inl ⟨rest, rfl, hin⟩
    · rcases List.prefix_cons_iff.mp hbehind with rfl | ⟨r, rfl, hr⟩
      · exact Or.inl ⟨_, rfl, by rw [List.append_nil]⟩
      · rcases prefix_finalWrites hr with rfl | rfl
        · exact Or.inr (Or.inl rfl)
        · exact Or.inr (Or.inr rfl)

/-- The contents of the file behind the loop: the last `COMMIT` brings
everything the loop has filed, and the rest of the script the end of a trip that
is on. -/
theorem file_behind {gpsdata : Bool} {samplecount : Int} {qs : List Pass} {s : Logging}
    {blocks : List (Block Stored)}
    (hrun : run (Logging.step cfg base) (Logging.init cfg d gpsdata samplecount) qs =
      some (s, blocks)) :
    ((Connection.opened d).execAll (.begin :: (blocks.flatMap Block.script ++ [.commit]))).file =
        s.stored d ∧
      ((Connection.opened d).execAll (s.script blocks)).file = (atExit s.toLoopState).stored d := by
  obtain ⟨u, endedu, -, hfile⟩ := (inTransaction_run hrun).file
  rw [stored_init] at hfile
  constructor
  · show (Connection.execAll ⟨d, some d⟩ (blocks.flatMap Block.script ++ _)).file = _
    rw [Connection.execAll_append, hfile]
    rfl
  · show (Connection.execAll ⟨d, some d⟩ (blocks.flatMap Block.script ++ _)).file = _
    rw [Connection.execAll_append, hfile, execAll_finalWrites]

end Runs

/-- What a logger that is started with the tables `d` leaves in the file, when it
has sent `pre`: the log after `n` passes, or behind the loop. -/
structure Leaves (cfg : Setup) (d : Stored) (gpsdata : Bool) (samplecount : Int) (qs : List Pass)
    (pre : List (Action Stored)) (n : Nat) : Prop where
  le : n ≤ qs.length
  file : ∃ u ended, run (iteration cfg) (LoopState.init cfg d.trips gpsdata samplecount)
      (qs.take n) = some (u, ended) ∧
    (((Connection.opened d).execAll pre).file = u.stored d ∨
      n = qs.length ∧ ((Connection.opened d).execAll pre).file = (atExit u).stored d)

/-- Wherever in its script a logger dies, it leaves in the file the log of a
whole number of passes. -/
theorem leaves_prefix {cfg : Setup} {base : Int} {d : Stored} {gpsdata : Bool} {samplecount : Int}
    {qs : List Pass} {s : Logging} {blocks : List (Block Stored)} (hbase : base ≠ 0)
    (hrun : run (Logging.step cfg base) (Logging.init cfg d gpsdata samplecount) qs =
      some (s, blocks)) {pre : List (Action Stored)} (hpre : pre <+: s.script blocks) :
    ∃ n, Leaves cfg d gpsdata samplecount qs pre n ∧ (base ∣ n ∨ n = qs.length) ∧
      ∀ m ≤ qs.length, .begin :: (blocks.take m).flatMap Block.script <+: pre →
        m ≤ n + base.natAbs := by
  have hlen : blocks.length = qs.length := run_length hrun
  obtain ⟨ended, hloop⟩ := (inTransaction_run hrun).loop
  have hall : run (iteration cfg) (LoopState.init cfg d.trips gpsdata samplecount)
      (qs.take qs.length) = some (s.toLoopState, ended) := by
    rw [List.take_length]
    exact hloop
  rcases prefix_script hpre with rfl | ⟨rest, rfl, hin⟩ | rfl | rfl
  · -- before it has sent anything
    refine ⟨0, ⟨Nat.zero_le _, _, [], rfl, Or.inl (stored_init ..).symm⟩,
      Or.inl (Int.dvd_zero _), fun m _ hm => ?_⟩
    exact absurd hm (by simp)
  · obtain ⟨k, hk, hsame, hlast⟩ := file_prefix d d hin
    obtain ⟨n, hn, u, endedu, hu, hfile, hdvd, hlost⟩ := file_blocks hbase hrun (hlen ▸ hk)
    refine ⟨n, ⟨by omega, u, endedu, hu, Or.inl (hsame.trans hfile)⟩, Or.inl hdvd,
      fun m hm hsent => ?_⟩
    exact (hlast m (by omega) ((List.prefix_cons_inj .begin).mp hsent)).trans hlost
  · exact ⟨qs.length, ⟨Nat.le_refl _, _, ended, hall, Or.inl (file_behind hrun).1⟩, Or.inr rfl,
      fun m hm _ => by omega⟩
  · exact ⟨qs.length, ⟨Nat.le_refl _, _, ended, hall, Or.inr ⟨rfl, (file_behind hrun).2⟩⟩,
      Or.inr rfl, fun m hm _ => by omega⟩

/-- **A crash.** Whatever point the logger has come to in its statements, what is
in the file if it dies there is the log as it was after some number of passes: a
multiple of `basetransactioncount`, or all of them. Of the passes that have sent
all they had to send, no more than `basetransactioncount` are lost. And if the
logger does not die, nothing is. -/
theorem crash_recovers {cfg : Setup} {samplespersecond : Int} {d : Stored} {gpsdata : Bool}
    {samplecount : Int} {qs : List Pass} {s : Logging} {blocks : List (Block Stored)}
    (hrun : run (Logging.step cfg (basetransactioncount samplespersecond))
      (Logging.init cfg d gpsdata samplecount) qs = some (s, blocks)) :
    ((Connection.opened d).execAll (s.script blocks)).file = (atExit s.toLoopState).stored d ∧
    ∀ pre, pre <+: s.script blocks → ∃ n,
      Leaves cfg d gpsdata samplecount qs pre n ∧
      (basetransactioncount samplespersecond ∣ n ∨ n = qs.length) ∧
      ∀ m ≤ qs.length, .begin :: (blocks.take m).flatMap Block.script <+: pre →
        m ≤ n + (basetransactioncount samplespersecond).natAbs :=
  ⟨(file_behind hrun).2, fun _ hpre =>
    leaves_prefix (basetransactioncount_ne_zero samplespersecond) hrun hpre⟩

/-- A file in which no table has a row. -/
def noLog : Stored := ⟨emptyDb, [], []⟩

/-- The drive, and a logger that dies on it between any two statements: of the
passes that have been sent, one transaction's worth is lost at most. -/
theorem crash_recovers_drive : ∃ s blocks,
    run (Logging.step ⟨true, 1⟩ (basetransactioncount 1)) (Logging.init ⟨true, 1⟩ noLog false (-1))
      drive = some (s, blocks) ∧
    ((Connection.opened noLog).execAll (s.script blocks)).file =
      (atExit s.toLoopState).stored noLog ∧
    ∀ pre, pre <+: s.script blocks → ∃ n,
      Leaves ⟨true, 1⟩ noLog false (-1) drive pre n ∧
      (basetransactioncount 1 ∣ n ∨ n = drive.length) ∧
      ∀ m ≤ drive.length, .begin :: (blocks.take m).flatMap Block.script <+: pre →
        m ≤ n + (basetransactioncount 1).natAbs := by
  obtain ⟨⟨s, blocks⟩, hrun⟩ := Option.isSome_iff_exists.mp
    (show (run (Logging.step ⟨true, 1⟩ (basetransactioncount 1))
      (Logging.init ⟨true, 1⟩ noLog false (-1)) drive).isSome by decide)
  exact ⟨s, blocks, hrun, crash_recovers hrun⟩

/-! ## One logger after the other -/

/-- A logger, and how many of its statements it sends before it dies; all of
them, if there are no more. -/
structure Session where
  cfg : Setup
  samplespersecond : Int
  gpsdata : Bool
  samplecount : Int
  passes : List Pass
  sent : Nat

/-- The contents of the file behind a session that starts with the contents `d`:
a logger that has ended, or one that has died. -/
def Session.file (x : Session) (d : Stored) : Option Stored :=
  (run (Logging.step x.cfg (basetransactioncount x.samplespersecond))
    (Logging.init x.cfg d x.gpsdata x.samplecount) x.passes).map fun r =>
      ((Connection.opened d).execAll ((r.1.script r.2).take x.sent)).file

/-- What many loggers leave, one after the other. -/
def filesAfter : Stored → List Session → Option Stored
  | d, [] => some d
  | d, x :: xs => (x.file d).bind fun d' => filesAfter d' xs

/-- The trips are intervals up to `t`, one after the other, and every row is
filed under the trip whose interval has its time; positions may be filed under
no trip. -/
structure Consistent (t : Int) (d : Stored) : Prop where
  interval : ∀ c ∈ d.trips.rows, c.start ≤ c.endTime ∧ c.endTime ≤ t
  apart : d.trips.rows.Pairwise fun a b => a.endTime ≤ b.start
  obd : ∀ r ∈ d.obd, Filed d.trips.rows r.trip r.time
  gps : ∀ r ∈ d.gps, r.trip = 0 ∨ Filed d.trips.rows r.trip r.time

/-- What a run that starts at `u` or later adds. -/
theorem Consistent.stored {d : Stored} {u t : Int} {n : Nat} {ts : List Int} {l : TripLog}
    (h : Consistent u d) (hl : RunLog d.trips n ts l) (hut : u ≤ t) (hfrom : ∀ x ∈ ts, u ≤ x)
    (hto : ∀ x ∈ ts, x ≤ t) : Consistent t (l.stored d) := by
  obtain ⟨created, hin⟩ := hl.order t hto
  have hrows : (l.stored d).trips.rows = d.trips.rows ++ created := hin.rows
  have hsorted := l.trips.sorted
  rw [hin.rows] at hsorted
  have hfiled : ∀ {trip time : Int}, Filed created trip time →
      Filed (d.trips.rows ++ created) trip time := by
    intro trip time ⟨c, hc, hrest⟩
    exact ⟨c, List.mem_append_right _ hc, hrest⟩
  refine ⟨?_, ?_, ?_, ?_⟩ <;> rw [hrows]
  · intro c hc
    rcases List.mem_append.mp hc with hc | hc
    · exact ⟨(h.interval c hc).1, Int.le_trans (h.interval c hc).2 hut⟩
    · exact hin.interval c hc
  · refine List.pairwise_append.mpr ⟨h.apart, hin.apart, fun a ha b hb => ?_⟩
    -- the new trips start in the run, which comes later
    rcases hl.dated.trips b (hin.rows ▸ List.mem_append_right _ hb) with ⟨c, hc, hid⟩ | hstart
    · have hlt := (List.pairwise_append.mp hsorted).2.2 c hc b hb
      omega
    · exact Int.le_trans (h.interval a ha).2 (hfrom _ hstart)
  · intro r hr
    rcases List.mem_append.mp hr with hr | hr
    · exact (h.obd r hr).mono
    · exact hfiled (hin.obd r hr)
  · intro r hr
    rcases List.mem_append.mp hr with hr | hr
    · exact (h.gps r hr).imp_right Filed.mono
    · rcases (hin.gps r hr).2 with hearly | hf
      · exact Or.inl hearly.1
      · exact Or.inr (hfiled hf)

/-- A logger on a consistent file, wherever it dies, leaves a consistent file,
as long as the clock does not go back. -/
theorem Consistent.file {d d' : Stored} {u t : Int} {x : Session} (h : Consistent u d)
    (hclock : (clock x.passes).Pairwise (· ≤ ·)) (hut : u ≤ t)
    (hfrom : ∀ v ∈ clock x.passes, u ≤ v) (hto : ∀ v ∈ clock x.passes, v ≤ t)
    (hfile : x.file d = some d') : Consistent t d' := by
  obtain ⟨⟨s, blocks⟩, hrun, rfl⟩ := Option.map_eq_some_iff.mp hfile
  obtain ⟨n, ⟨-, v, ended, hv, hleaves⟩, -⟩ := leaves_prefix
    (basetransactioncount_ne_zero _) hrun (List.take_prefix x.sent (s.script blocks))
  have hsub : (clock (x.passes.take n)).Sublist (clock x.passes) :=
    (List.take_sublist n x.passes).filterMap _
  obtain ⟨hloop, hexit⟩ := runLog_run (hclock.sublist hsub) hv
  have hfrom' : ∀ w ∈ clock (x.passes.take n), u ≤ w := fun w hw => hfrom w (hsub.subset hw)
  have hto' : ∀ w ∈ clock (x.passes.take n), w ≤ t := fun w hw => hto w (hsub.subset hw)
  rcases hleaves with hsame | ⟨-, hsame⟩
  · rw [hsame]
    exact h.stored hloop hut hfrom' hto'
  · rw [hsame]
    exact h.stored hexit hut hfrom' hto'

theorem consistent_noLog (t : Int) : Consistent t noLog :=
  ⟨nofun, List.Pairwise.nil, nofun, nofun⟩

/-- The times that loggers read off the clock. -/
def clocks (xs : List Session) : List Int := xs.flatMap fun x => clock x.passes

/-- **Any number of loggers.** On a clock that does not go back, each may die
between any two of its statements, and the next one goes on from what is in the
file: the trips are intervals, one after the other, and every row is in the
interval of its trip. -/
theorem sessions_consistent : ∀ {xs : List Session} {d d' : Stored} {u t : Int},
    Consistent u d → (clocks xs).Pairwise (· ≤ ·) → u ≤ t → (∀ v ∈ clocks xs, u ≤ v ∧ v ≤ t) →
    filesAfter d xs = some d' → Consistent t d'
  | [], _, _, _, _, h, _, hut, _, hfile => by
    obtain rfl := Option.some.inj hfile
    exact ⟨fun c hc => ⟨(h.interval c hc).1, Int.le_trans (h.interval c hc).2 hut⟩, h.apart,
      h.obd, h.gps⟩
  | x :: xs, d, d', u, t, h, hclock, hut, hbounds, hfile => by
    obtain ⟨d₁, hd₁, hrest⟩ := Option.bind_eq_some_iff.mp hfile
    have hsplit : clocks (x :: xs) = clock x.passes ++ clocks xs := rfl
    rw [hsplit] at hclock hbounds
    obtain ⟨hfirst, hthen, hcross⟩ := List.pairwise_append.mp hclock
    -- the point between the first logger and the others
    obtain ⟨m, hum, hmt, hbefore, hbehind⟩ : ∃ m, u ≤ m ∧ m ≤ t ∧
        (∀ v ∈ clock x.passes, v ≤ m) ∧ ∀ v ∈ clocks xs, m ≤ v := by
      cases hlast : (clock x.passes).getLast? with
      | none =>
        rw [List.getLast?_eq_none_iff] at hlast
        refine ⟨u, Int.le_refl u, hut, fun v hv => absurd hv (by rw [hlast]; simp), fun v hv => ?_⟩
        exact (hbounds v (List.mem_append_right _ hv)).1
      | some m =>
        have hm := List.mem_of_getLast? hlast
        obtain ⟨pre, hpre⟩ := List.getLast?_eq_some_iff.mp hlast
        have hmb := hbounds m (List.mem_append_left _ hm)
        refine ⟨m, hmb.1, hmb.2, fun v hv => ?_, fun v hv => hcross m hm v hv⟩
        rw [hpre] at hv hfirst
        rcases List.mem_append.mp hv with hv | hv
        · exact (List.pairwise_append.mp hfirst).2.2 v hv m (List.mem_singleton_self m)
        · exact Int.le_of_eq (List.mem_singleton.mp hv)
    refine sessions_consistent (h.file hfirst hum
      (fun v hv => (hbounds v (List.mem_append_left _ hv)).1) hbefore hd₁) hthen hmt
      (fun v hv => ⟨hbehind v hv, (hbounds v (List.mem_append_right _ hv)).2⟩) hrest

/-- A logger that dies in the drive, after `sent` statements. -/
def driveSession (sent : Nat) : Session := ⟨⟨true, 1⟩, 1, false, -1, drive, sent⟩

/-- One that dies on it, and one on a later drive that does not. -/
theorem sessions_consistent_drives : ∃ d', filesAfter noLog
      [driveSession 3, ⟨⟨true, 1⟩, 1, false, -1,
        [drivePass 5000000 .success, drivePass 6000000 .success], 100⟩] = some d' ∧
    Consistent 6000000 d' := by
  obtain ⟨d', hd'⟩ := Option.isSome_iff_exists.mp
    (show (filesAfter noLog [driveSession 3, ⟨⟨true, 1⟩, 1, false, -1,
        [drivePass 5000000 .success, drivePass 6000000 .success], 100⟩]).isSome by decide)
  exact ⟨d', hd', sessions_consistent (consistent_noLog 0) (by decide) (by decide) (by decide) hd'⟩

end ObdGpsLogger.Logger
