import ObdGpsLogger.Logger.TripDb
import ObdGpsLogger.Machine.Run
import ObdGpsLogger.Obdcomm.ObdSerial

/-!
# The logger's sampling loop

The `while` loop of `main` in `src/logger/main.c`, built with gpsd and without
D-Bus. One call of `iteration` is one pass through it; the log it writes is
part of the state.

Mirroring notes:
- What a pass meets is a `Pass`: the clock, the signals, the results of the
  `getobdvalue` calls, and what gpsd says. `gettimeofday` may fail; every SQL
  statement succeeds.
- `obdstatus` is not initialised. Without a command to send it keeps whatever
  is in that place, `staleStatus`.
- The values bound to the OBD insert statement survive `sqlite3_reset`, so the
  bindings are part of the state.
- The rows are those inserted by this run. Transactions, the frame rate and
  everything printed are left out, except that a pass reports the trips for
  which it prints `Ending current trip`.
-/

namespace ObdGpsLogger.Logger

open Obdcomm

/-- What is fixed before the loop: whether there is a serial port, and the
length of the command list (`obdnumcols-1`). -/
structure Setup where
  serialOpen : Bool
  numCommands : Nat

/-- What `getgpsposition` stores behind its pointers. -/
structure GpsPosition where
  lat : Rat
  lon : Rat
  alt : Rat
  speed : Rat
  course : Rat
  gpstime : Rat
  deriving DecidableEq, Repr

/-- A row of the table `gps`. Only the altitude may be NULL. -/
structure GpsRow where
  lat : Rat
  lon : Rat
  alt : Option Rat
  speed : Rat
  course : Rat
  gpstime : Rat
  time : Int
  trip : Int
  deriving DecidableEq, Repr

/-- A row of the table `obd`: the values of its commands, its time and its trip. -/
structure ObdRow where
  values : List (Option Rat)
  time : Int
  trip : Int
  deriving DecidableEq, Repr

/-- What one pass through the loop meets. -/
structure Pass where
  starttime : Option Int
  starttripSignal : Bool
  obdvalue : Nat → ObdSerialStatus × Rat
  staleStatus : ObdSerialStatus
  gpsstatus : Int
  position : GpsPosition
  opengps : Bool
  endtimeRead : Bool
  exitSignal : Bool

/-- The database this run writes, and the two variables that say where its
rows go. -/
structure TripLog where
  trips : TripTable
  obd : List ObdRow
  gps : List GpsRow
  currenttrip : Int
  ontrip : Bool

/-- The variables of the loop, with the tables they were written to. -/
structure LoopState extends TripLog where
  timeInsert : Option Int
  timeLastgpscheck : Int
  gpsdata : Bool
  bindings : List (Option Rat)
  samplecount : Int
  receiveExitsignal : Bool
  left : Bool

/-- The variables and the tables in front of the loop. -/
def LoopState.init (cfg : Setup) (db : TripTable) (gpsdata : Bool) (samplecount : Int) :
    LoopState :=
  { trips := db
    obd := []
    gps := []
    currenttrip := 0
    ontrip := false
    timeInsert := none
    timeLastgpscheck := 0
    gpsdata := gpsdata
    bindings := List.replicate cfg.numCommands none
    samplecount := samplecount
    receiveExitsignal := false
    left := false }

namespace TripLog

/-- `currenttrip = starttrip(db, time_insert)`, `ontrip = 1`. -/
def beginTrip (l : TripLog) (t : Int) : TripLog :=
  { l with
    trips := (starttrip l.trips t).2
    currenttrip := (starttrip l.trips t).1
    ontrip := true }

/-- `updatetrip(db, currenttrip, time_insert)`. -/
def touchTrip (l : TripLog) (t : Int) : TripLog :=
  { l with trips := updatetrip l.trips l.currenttrip t }

/-- `updatetrip(db, currenttrip, time_insert)`, `ontrip = 0`. -/
def endTrip (l : TripLog) (t : Int) : TripLog := { l.touchTrip t with ontrip := false }

/-- The OBD insert. After a success all commands were asked, and the time and
the trip go to the two columns behind theirs. -/
def insertObd (l : TripLog) (t : Int) (bindings : List (Option Rat)) : TripLog :=
  { l with obd := l.obd ++ [⟨bindings, t, l.currenttrip⟩] }

/-- The GPS insert; the altitude only with a 3D fix. -/
def insertGps (l : TripLog) (t : Int) (gpsstatus : Int) (p : GpsPosition) : TripLog :=
  { l with
    gps := l.gps ++ [{
      lat := p.lat
      lon := p.lon
      alt := if 1 ≤ gpsstatus then some p.alt else none
      speed := p.speed
      course := p.course
      gpstime := p.gpstime
      time := t
      trip := l.currenttrip }] }

end TripLog

/-- `if(sig_starttrip)`: the log, and the trip that was ended. -/
def signalPhase (l : TripLog) (t : Int) (starttripSignal : Bool) : TripLog × List Int :=
  if starttripSignal then
    if l.ontrip then ((l.endTrip t).beginTrip t, [l.currenttrip])
    else (l.beginTrip t, [])
  else (l, [])

/-- The `getobdvalue` loop over `n` more commands from `i` on: the last
status, and the bindings. -/
def sampleObd (obdvalue : Nat → ObdSerialStatus × Rat) :
    Nat → Nat → ObdSerialStatus → List (Option Rat) → ObdSerialStatus × List (Option Rat)
  | _, 0, obdstatus, bindings => (obdstatus, bindings)
  | i, n + 1, _, bindings =>
    if (obdvalue i).1 = .success then
      sampleObd obdvalue (i + 1) n .success (bindings.set i (some (obdvalue i).2))
    else ((obdvalue i).1, bindings)

/-- With a command to send, the status behind the loop is that of the last
command sent: of the first one that has failed, or of the last of all. -/
theorem sampleObd_status (obdvalue : Nat → ObdSerialStatus × Rat) :
    ∀ (n i : Nat) (obdstatus : ObdSerialStatus) (bindings : List (Option Rat)),
      ∃ k < n + 1, (∀ j < k, (obdvalue (i + j)).1 = .success) ∧
        (k = n ∨ (obdvalue (i + k)).1 ≠ .success) ∧
        (sampleObd obdvalue i (n + 1) obdstatus bindings).1 = (obdvalue (i + k)).1
  | n, i, _, bindings => by
    rw [sampleObd]
    by_cases hi : (obdvalue i).1 = .success
    · rw [if_pos hi]
      cases n with
      | zero =>
        exact ⟨0, Nat.one_pos, fun j hj => absurd hj (Nat.not_lt_zero j), Or.inl rfl, hi.symm⟩
      | succ n =>
        obtain ⟨k, hk, hbefore, hlast, hstatus⟩ := sampleObd_status obdvalue n (i + 1) .success
          (bindings.set i (some (obdvalue i).2))
        have hnext : ∀ j, i + 1 + j = i + (j + 1) := fun j => by omega
        simp only [hnext] at hbefore hlast hstatus
        refine ⟨k + 1, by omega, fun j hj => ?_, ?_, hstatus⟩
        · cases j with
          | zero => exact hi
          | succ j => exact hbefore j (by omega)
        · rcases hlast with rfl | hlast
          · exact Or.inl rfl
          · exact Or.inr hlast
    · rw [if_neg hi]
      exact ⟨0, Nat.succ_pos n, fun j hj => absurd hj (Nat.not_lt_zero j), Or.inr hi, rfl⟩

/-- A success is one of all commands, or of none. -/
theorem sampleObd_eq_success (obdvalue : Nat → ObdSerialStatus × Rat) (n i : Nat)
    (obdstatus : ObdSerialStatus) (bindings : List (Option Rat)) :
    (sampleObd obdvalue i n obdstatus bindings).1 = .success ↔
      if n = 0 then obdstatus = .success else ∀ k < n, (obdvalue (i + k)).1 = .success := by
  cases n with
  | zero => exact Iff.rfl
  | succ n =>
    obtain ⟨k, hk, hbefore, hlast, hstatus⟩ := sampleObd_status obdvalue n i obdstatus bindings
    rw [if_neg (Nat.succ_ne_zero n), hstatus]
    constructor
    · intro h j hj
      obtain rfl := hlast.resolve_right (not_not_intro h)
      rcases Nat.lt_succ_iff_lt_or_eq.mp hj with hj | rfl
      · exact hbefore j hj
      · exact h
    · exact fun h => h k hk

/-- After a success, every value is the one that was read. -/
theorem sampleObd_bindings (obdvalue : Nat → ObdSerialStatus × Rat) :
    ∀ (n i : Nat) (obdstatus : ObdSerialStatus) (bindings : List (Option Rat)),
      (sampleObd obdvalue i n obdstatus bindings).1 = .success → i + n ≤ bindings.length →
      (sampleObd obdvalue i n obdstatus bindings).2.length = bindings.length ∧
      ∀ k, (sampleObd obdvalue i n obdstatus bindings).2[k]? =
        if i ≤ k ∧ k < i + n then some (some (obdvalue k).2) else bindings[k]?
  | 0, i, _, bindings, _, _ => by
    refine ⟨rfl, fun k => ?_⟩
    rw [if_neg (by omega)]
    rfl
  | n + 1, i, obdstatus, bindings, h, hlen => by
    rw [sampleObd] at h ⊢
    split at h
    · next hi =>
      obtain ⟨hlen', hk⟩ := sampleObd_bindings obdvalue n (i + 1) .success _ h
        (by rw [List.length_set]; omega)
      rw [if_pos hi]
      refine ⟨by rw [hlen', List.length_set], fun k => ?_⟩
      rw [hk]
      by_cases hki : k = i
      · subst hki
        rw [if_neg (by omega), if_pos (by omega), List.getElem?_set_self (by omega)]
      · rw [List.getElem?_set_ne (fun h => hki h.symm)]
        congr 1
        simp only [eq_iff_iff]
        omega
    · next hi => exact absurd h hi

/-- What follows the `getobdvalue` loop: the log, and the trip that was ended.
`OBD_ERROR` makes the loop end, but no trip. -/
def obdPhase (l : TripLog) (t : Int) (obdstatus : ObdSerialStatus)
    (bindings : List (Option Rat)) : TripLog × List Int :=
  match obdstatus with
  | .success => ((if l.ontrip then l else l.beginTrip t).insertObd t bindings, [])
  | .error => (l, [])
  | _ => if l.ontrip then (l.endTrip t, [l.currenttrip]) else (l, [])

/-- The branch `if(-1 < obd_serial_port)` of a pass: the commands are read and
the row is stored. -/
def LoopState.sample (cfg : Setup) (s : LoopState) (t : Int) (q : Pass) : LoopState × List Int :=
  if cfg.serialOpen then
    let sampled := sampleObd q.obdvalue 0 cfg.numCommands q.staleStatus s.bindings
    let r := obdPhase s.toTripLog t sampled.1 sampled.2
    ({ s with
      toTripLog := r.1
      bindings := sampled.2
      receiveExitsignal := s.receiveExitsignal || sampled.1 == .error }, r.2)
  else (s, [])

/-- The GPS part: a row when connected and there is a fix, another try at a
connection once in a while when not. -/
def LoopState.locate (s : LoopState) (t : Int) (q : Pass) : LoopState :=
  if s.gpsdata then
    if 0 ≤ q.gpsstatus then
      { s with toTripLog := s.toTripLog.insertGps t q.gpsstatus q.position }
    else s
  else if 10000000 < t - s.timeLastgpscheck then
    { s with gpsdata := q.opengps, timeLastgpscheck := t }
  else s

/-- A pass once the time is known: the signal, the OBD data, the constant
update of the trip, the GPS data. -/
def LoopState.pass (cfg : Setup) (s : LoopState) (t : Int) (q : Pass) : LoopState × List Int :=
  let a := signalPhase s.toTripLog t q.starttripSignal
  let b := LoopState.sample cfg { s with toTripLog := a.1, timeInsert := some t } t q
  (LoopState.locate { b.1 with toTripLog := b.1.toTripLog.touchTrip t } t q, a.2 ++ b.2)

@[simp] theorem sample_timeInsert (cfg : Setup) (s : LoopState) (t : Int) (q : Pass) :
    (LoopState.sample cfg s t q).1.timeInsert = s.timeInsert := by
  unfold LoopState.sample
  split <;> rfl

@[simp] theorem locate_timeInsert (s : LoopState) (t : Int) (q : Pass) :
    (s.locate t q).timeInsert = s.timeInsert := by
  unfold LoopState.locate
  split <;> split <;> rfl

@[simp] theorem pass_timeInsert (cfg : Setup) (s : LoopState) (t : Int) (q : Pass) :
    (LoopState.pass cfg s t q).1.timeInsert = some t := by
  simp [LoopState.pass]

/-- `samplecount == -1 || samplecount-- > 0`, and no `break` so far. -/
def LoopState.goesOn (s : LoopState) : Bool :=
  !s.left && (s.samplecount == -1 || 0 < s.samplecount)

/-- The state once the loop condition has been evaluated. -/
def LoopState.counted (s : LoopState) : LoopState :=
  { s with samplecount := if s.samplecount = -1 then -1 else s.samplecount - 1 }

/-- One pass through the loop, with the trips it reports as ended; `none` when
the loop is over. -/
def iteration (cfg : Setup) (s : LoopState) (q : Pass) : Option (LoopState × List Int) :=
  if s.goesOn then
    match q.starttime with
    | none => some ({ s.counted with left := true }, [])
    | some t =>
      let r := LoopState.pass cfg s.counted t q
      some ({ r.1 with
        receiveExitsignal := r.1.receiveExitsignal || q.exitSignal
        left := !q.endtimeRead || r.1.receiveExitsignal || q.exitSignal }, r.2)
  else none

/-- What an iteration can do: leave at once, or make a pass. -/
theorem iteration_cases {cfg : Setup} {s s' : LoopState} {q : Pass} {ended : List Int}
    (h : iteration cfg s q = some (s', ended)) :
    (q.starttime = none ∧ s'.toTripLog = s.toTripLog ∧ s'.timeInsert = s.timeInsert ∧
      ended = []) ∨
    ∃ t, q.starttime = some t ∧
      s'.toTripLog = (LoopState.pass cfg s.counted t q).1.toTripLog ∧ s'.timeInsert = some t ∧
      ended = (LoopState.pass cfg s.counted t q).2 := by
  unfold iteration at h
  split at h
  · split at h
    · next hq =>
      obtain ⟨rfl, rfl⟩ := Prod.mk.inj (Option.some.inj h)
      exact Or.inl ⟨hq, rfl, rfl, rfl⟩
    · next t hq =>
      obtain ⟨rfl, rfl⟩ := Prod.mk.inj (Option.some.inj h)
      exact Or.inr ⟨t, hq, rfl, pass_timeInsert .., rfl⟩
  · cases h

/-- Behind the loop: a trip that is still on gets its end. -/
def atExit (s : LoopState) : TripLog :=
  match s.timeInsert with
  | some t => if s.ontrip then s.toTripLog.endTrip t else s.toTripLog
  | none => s.toTripLog

end ObdGpsLogger.Logger
