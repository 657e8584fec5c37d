import ObdGpsLogger.CLib.ScanInt
import ObdGpsLogger.Obdcomm.ObdSerial

/-!
# A higher speed for the port

`upgradebaudrate` of `src/obdcomm/obdserial.c`, with what it calls:
`attempt_upgradebaudrate`, `modifybaud` and `guessbaudrate`. The port is made
nonblocking, one speed or each of seven is tried, and what has been changed is
to be put back.

Three things are not put back. The flags, where upgrading is disabled: the
function returns before it. The speed, in the guessing loop: an attempt that
fails half-way goes back to `current_best`, which is -1 until one has been
confirmed, and -1 changes nothing. And the speed again, where going back fails
itself. `upgradebaudrate_leaves_iff` says when all is well.

Mirroring notes:
- A port is its status flags and its line speed. `fcntl` either sets the flags
  or changes nothing, and `F_GETFL` does not fail. The system calls of one
  `modifybaud` (`tcgetattr` to `tcsetattr`) all succeed, or nothing is set.
- What an attempt meets is an `Attempt`. A loop that waits has no result
  (`none`) while the reads given to it do not end it, and where its `strstr`
  runs over the end of the array.
- `blindcmd` ends after a time, and changes neither flags nor speed. It is left
  out, as are the commands that are written, and the messages.
- The `reports` of a run are what the attempts have returned. The program does
  not keep them.
-/

namespace ObdGpsLogger.Obdcomm

open CLib

/-! ## The line speed -/

/-- A serial port: its file status flags and its speed. -/
structure Port where
  flags : Int
  speed : Int
  deriving DecidableEq, Repr

/-- `O_NONBLOCK`, as on Linux. -/
def oNonblock : Int := 0o4000

/-- `fcntl(fd, F_SETFL, flags)`, which may fail. -/
def Port.setFlags (p : Port) (succeeds : Bool) (flags : Int) : Port :=
  if succeeds then { p with flags := flags } else p

/-- The cases of `modifybaud` that are there on every system. -/
def fixedCases : List Int := [38400, 19200, 9600, 4800, 2400, 1200, 600, 300, 150, 134, 110, 75, 50]

/-- The speeds whose cases stand inside an `#ifdef`. -/
def optionalCases : List Int :=
  [4000000, 3500000, 3000000, 2500000, 2000000, 1500000, 1152000, 1000000, 9210600, 576000, 500000,
    460800, 230400, 115200, 76800, 57600, 28800, 14400, 7200]

/-- What a guess of `guessbaudrate` meets. -/
structure Guess where
  calls : Bool
  wrote : Int
  reply : ReadResult

/-- What a call of `modifybaud` meets: whether its system calls succeed, and
the guesses, where it guesses. -/
structure LineCalls where
  calls : Bool
  guesses : Nat → Guess

section Lines

variable (defined : Int → Bool)

/-- The `switch` of `modifybaud` has a case for the speed: one that is always
there, or one that is compiled where the system defines the speed. -/
def HasCase (baudrate : Int) : Prop :=
  baudrate ∈ fixedCases ∨ baudrate ∈ optionalCases ∧ defined baudrate = true

instance (baudrate : Int) : Decidable (HasCase defined baudrate) :=
  inferInstanceAs (Decidable (_ ∨ _))

/-- The part of `modifybaud` from `tcgetattr` on: the speed is set if it has a
case and the calls succeed. -/
def setLine (baudrate : Int) (calls : Bool) (p : Port) : Int × Port :=
  if HasCase defined baudrate ∧ calls then (0, { p with speed := baudrate }) else (-1, p)

/-- `guesses` of `guessbaudrate`: the speeds in the order they are tried. -/
def guessRates : List Int := [9600, 38400, 115200, 57600, 2400, 1200]

/-- The loop of `guessbaudrate` over the speeds that are left. -/
def guessbaudLoop : List (Int × Guess) → Port → Option (Int × Port)
  | [], p => some (-1, p)
  | (guess, g) :: rest, p =>
    let (ret, p) := setLine defined guess g.calls p
    if ret = -1 then some (-1, p)
    else if g.wrote = -1 then some (-1, p)
    else
      match g.reply with
      | .data bs =>
        match ((Buffer.zeroed 1024).store 0 bs).holds ['>'] with
        | none => none
        | some true => some (guess, p)
        | some false => guessbaudLoop rest p
      | .eagain => some (-1, p)
      | .error => some (-1, p)

/-- `guessbaudrate`: the speed at which the adapter answers, and the port
afterwards. -/
def guessbaudrate (guesses : Nat → Guess) (p : Port) : Option (Int × Port) :=
  guessbaudLoop defined (guessRates.zipIdx.map fun x => (x.1, guesses x.2)) p

/-- `modifybaud`: the value returned and the port. A speed of 0 has it guessed. -/
def modifybaud (baudrate : Int) (c : LineCalls) (p : Port) : Option (Int × Port) :=
  if baudrate = -1 then some (0, p)
  else if baudrate = 0 then
    (guessbaudrate defined c.guesses p).map fun x => (if 0 < x.1 then 0 else 1, x.2)
  else some (setLine defined baudrate c.calls p)

end Lines

/-! ## One attempt -/

/-- What an attempt meets: the `write` of the command, the reads of the answer,
the change of the speed, the reads of the greeting at that speed, and the
change back. -/
structure Attempt where
  wrote : Int
  answer : List ReadResult
  upgrade : LineCalls
  greeting : List SerialRead
  back : LineCalls

/-- The test of the first `while`: it is over. -/
def answered (elmResponse : Buffer 64) : Option Bool :=
  match elmResponse.holds ['?'] with
  | none => none
  | some true => some true
  | some false => elmResponse.holds ['O', 'K']

/-- The first `while`; `some none` is a read error. -/
def waitAnswer (elmResponse : Buffer 64) (readcount : Nat) :
    List ReadResult → Option (Option (Buffer 64))
  | [] =>
    match answered elmResponse with
    | some true => some (some elmResponse)
    | _ => none
  | nbytes :: reads =>
    match answered elmResponse with
    | none => none
    | some true => some (some elmResponse)
    | some false =>
      match nbytes with
      | .error => some none
      | .eagain => waitAnswer elmResponse readcount reads
      | .data bs =>
        let bs := bs.take (64 - readcount)
        waitAnswer (elmResponse.store readcount bs) (readcount + bs.length) reads

/-- How long the greeting is waited for, in microseconds: `2000l*timeout`. -/
def greetingTimeout : Int := 2000 * 500

/-- The second `while`; `some none` is a read error. -/
def waitGreeting (elmResponse2 : Buffer 256) (readcount2 : Nat) :
    List SerialRead → Option (Option (Buffer 256))
  | [] =>
    if readcount2 < 5 then
      match elmResponse2.holds ['>'] with
      | some true => some (some elmResponse2)
      | _ => none
    else some (some elmResponse2)
  | nbytes :: reads =>
    if readcount2 < 5 then
      match elmResponse2.holds ['>'] with
      | none => none
      | some true => some (some elmResponse2)
      | some false =>
        match nbytes.result with
        | .error => some none
        | .eagain =>
          if greetingTimeout < nbytes.elapsed then some (some elmResponse2)
          else waitGreeting elmResponse2 readcount2 reads
        | .data bs =>
          let bs := bs.take (256 - readcount2)
          let elmResponse2 := elmResponse2.store readcount2 bs
          if greetingTimeout < nbytes.elapsed then some (some elmResponse2)
          else waitGreeting elmResponse2 (readcount2 + bs.length) reads
    else some (some elmResponse2)

section Attempts

variable (defined : Int → Bool)

/-- What follows a failed attempt: the previous speed is set again. -/
def goBack (previousrate : Int) (a : Attempt) (p : Port) : Option (Int × Port) :=
  (modifybaud defined previousrate a.back p).map fun x => (-1, x.2)

/-- `attempt_upgradebaudrate`: the value returned and the port. `none`: it waits
for an answer for ever, or searches past the end of its array. -/
def attemptUpgradebaudrate (rate previousrate : Int) (a : Attempt) (p : Port) :
    Option (Int × Port) :=
  if a.wrote = -1 then some (-1, p)
  else
    match waitAnswer (Buffer.zeroed 64) 0 a.answer with
    | none => none
    | some none => some (-1, p)
    | some (some elmResponse) =>
      match elmResponse.holds ['O', 'K'] with
      | none => none
      | some false => goBack defined previousrate a p
      | some true =>
        match modifybaud defined rate a.upgrade p with
        | none => none
        | some (ret, p) =>
          if ret = -1 then some (-1, p)
          else
            match waitGreeting (Buffer.zeroed 256) 0 a.greeting with
            | none => none
            | some none => goBack defined previousrate a p
            | some (some elmResponse2) =>
              match elmResponse2.holds ['E', 'L', 'M'] with
              | none => none
              | some true => some (0, p)
              | some false => goBack defined previousrate a p

/-! ## All attempts -/

/-- `speeds` of `upgradebaudrate`, from the slowest to the fastest. -/
def speeds : List Int := [38400, 57600, 115200, 230400, 460800, 500000, 576000]

/-- What `upgradebaudrate` meets: the two `F_SETFL` and the attempts. -/
structure Upgrade where
  nonblocks : Bool
  restores : Bool
  attempts : Nat → Attempt

/-- The return value, the port, and what each attempt at which speed returned. -/
structure Upgraded where
  ret : Int
  port : Port
  reports : List (Int × Int)
  deriving DecidableEq, Repr

/-- The loop over the speeds, for those that are left. -/
def upgradeLoop (currentBest : Int) (p : Port) : List (Int × Attempt) → Option Upgraded
  | [] => some ⟨currentBest, p, []⟩
  | (rate, a) :: rest =>
    match attemptUpgradebaudrate defined rate currentBest a p with
    | none => none
    | some (ret, p) =>
      (upgradeLoop (if ret = 0 then rate else currentBest) p rest).map fun u =>
        { u with reports := (rate, ret) :: u.reports }

/-- Each of the speeds, with what the attempt at it meets. -/
def speedAttempts (attempts : Nat → Attempt) : List (Int × Attempt) :=
  speeds.zipIdx.map fun x => (x.1, attempts x.2)

/-- `upgradebaudrate`: the value returned, the port and the attempts made.
`none`: one of the attempts does not return. -/
def upgradebaudrate (baudrateTarget currentBaudrate : Int) (m : Upgrade) (p : Port) :
    Option Upgraded :=
  let oldFlags := p.flags
  let p := p.setFlags m.nonblocks oNonblock
  if baudrateTarget = -1 then some ⟨0, p, []⟩
  else if 0 < baudrateTarget then
    (attemptUpgradebaudrate defined baudrateTarget currentBaudrate (m.attempts 0) p).map fun x =>
      ⟨if x.1 = 0 then toInt baudrateTarget else -1, x.2.setFlags m.restores oldFlags,
        [(baudrateTarget, x.1)]⟩
  else
    (upgradeLoop defined (-1) p (speedAttempts m.attempts)).map fun u =>
      { u with port := u.port.setFlags m.restores oldFlags }

end Attempts

/-! ## What is to be left -/

/-- The flags of before, and the speed of the last attempt that reported
success, or else the current one. -/
structure LeavesPort (currentBaudrate : Int) (p : Port) (u : Upgraded) : Prop where
  flags : u.port.flags = p.flags
  speed : u.port.speed =
    ((u.reports.filter fun x => x.2 = 0).getLast?.map Prod.fst).getD currentBaudrate

/-! ## What an attempt comes to -/

/-- How an attempt goes: it stops before a speed is set, the adapter refuses, it
is not there any more at the new speed, or it confirms that speed. -/
inductive Outcome where
  | stopped
  | refused
  | dropped
  | confirmed
  deriving DecidableEq, Repr

section Conditions

variable (defined : Int → Bool)

/-- What the adapter and the port do in an attempt. -/
def Attempt.outcome (rate : Int) (a : Attempt) : Option Outcome :=
  if a.wrote = -1 then some .stopped
  else
    match waitAnswer (Buffer.zeroed 64) 0 a.answer with
    | none => none
    | some none => some .stopped
    | some (some elmResponse) =>
      match elmResponse.holds ['O', 'K'] with
      | none => none
      | some false => some .refused
      | some true =>
        if HasCase defined rate ∧ a.upgrade.calls then
          match waitGreeting (Buffer.zeroed 256) 0 a.greeting with
          | none => none
          | some none => some .dropped
          | some (some elmResponse2) =>
            match elmResponse2.holds ['E', 'L', 'M'] with
            | none => none
            | some true => some .confirmed
            | some false => some .dropped
        else some .stopped

/-- An attempt, at a speed, that may have to go back to another. -/
structure Trial where
  rate : Int
  previousrate : Int
  attempt : Attempt

namespace Trial

variable (t : Trial)

/-- The adapter confirms the new speed. -/
def Confirmed : Prop := t.attempt.outcome defined t.rate = some .confirmed

/-- The speed is set, and the adapter does not confirm it. -/
def Dropped : Prop := t.attempt.outcome defined t.rate = some .dropped

/-- The attempt fails in a way that it goes back. -/
def Fails : Prop :=
  t.attempt.outcome defined t.rate = some .refused ∨ t.Dropped defined

/-- Going back is to a speed, and that can be set. -/
def GoesBack : Prop :=
  t.Fails defined ∧ t.previousrate ≠ -1 ∧ t.previousrate ≠ 0 ∧
    HasCase defined t.previousrate ∧ t.attempt.back.calls = true

/-- Going back is to guess, and the first guess can be set. -/
def Guesses : Prop :=
  t.Fails defined ∧ t.previousrate = 0 ∧ (t.attempt.back.guesses 0).calls = true

/-- The attempt changes the speed of the port. -/
def Moves : Prop :=
  t.Confirmed defined ∨ t.Dropped defined ∨ t.GoesBack defined ∨ t.Guesses defined

instance : Decidable (t.Confirmed defined) := inferInstanceAs (Decidable (_ = _))
instance : Decidable (t.Dropped defined) := inferInstanceAs (Decidable (_ = _))
instance : Decidable (t.Fails defined) := inferInstanceAs (Decidable (_ ∨ _))
instance : Decidable (t.GoesBack defined) := inferInstanceAs (Decidable (_ ∧ _))
instance : Decidable (t.Guesses defined) := inferInstanceAs (Decidable (_ ∧ _))
instance : Decidable (t.Moves defined) := inferInstanceAs (Decidable (_ ∨ _))

end Trial

/-- Some attempts, one after the other; a confirmed speed is the one that later
ones go back to. -/
def trialsFrom (previousrate : Int) : List (Int × Attempt) → List Trial
  | [] => []
  | (rate, a) :: rest =>
    ⟨rate, previousrate, a⟩ ::
      trialsFrom (if a.outcome defined rate = some .confirmed then rate else previousrate) rest

/-- The attempts of `upgradebaudrate`: none, one that goes back to the current
speed, or seven that first have none to go back to. -/
def trials (baudrateTarget currentBaudrate : Int) (attempts : Nat → Attempt) : List Trial :=
  if baudrateTarget = -1 then []
  else if 0 < baudrateTarget then
    trialsFrom defined currentBaudrate [(baudrateTarget, attempts 0)]
  else trialsFrom defined (-1) (speedAttempts attempts)

/-- The last attempt that changes the speed. -/
def lastMove (ts : List Trial) : Option Trial := (ts.filter fun t => t.Moves defined).getLast?

/-- The speed of the last attempt that the adapter has confirmed, if any. -/
def lastConfirmed (ts : List Trial) : Option Int :=
  (ts.filter fun t => t.Confirmed defined).getLast?.map Trial.rate

/-- **The flags are as before**: they were not changed, or upgrading is not
disabled and they can be set again. -/
def FlagsKept (baudrateTarget : Int) (m : Upgrade) (p : Port) : Prop :=
  m.nonblocks = false ∨ p.flags = oNonblock ∨ baudrateTarget ≠ -1 ∧ m.restores = true

/-- **The speed is as it should be**: of the attempts that change it, the last
is confirmed, or it can go back, or else it was one at the speed that is wanted
and it does not guess; if none changes it, it was the current one. -/
def SpeedKept (baudrateTarget currentBaudrate : Int) (attempts : Nat → Attempt) (p : Port) :
    Prop :=
  let ts := trials defined baudrateTarget currentBaudrate attempts
  match lastMove defined ts with
  | some t => t.Confirmed defined ∨ t.GoesBack defined ∨
      t.Dropped defined ∧ ¬ t.Guesses defined ∧
        t.rate = (lastConfirmed defined ts).getD currentBaudrate
  | none => p.speed = currentBaudrate

end Conditions

/-! ## One attempt, by what it comes to -/

section Proofs

variable {defined : Int → Bool}

theorem setFlags_flags (p : Port) (succeeds : Bool) (flags : Int) :
    (p.setFlags succeeds flags).flags = if succeeds then flags else p.flags := by
  unfold Port.setFlags
  split <;> rfl

theorem setFlags_speed (p : Port) (succeeds : Bool) (flags : Int) :
    (p.setFlags succeeds flags).speed = p.speed := by
  unfold Port.setFlags
  split <;> rfl

/-- Setting the line of a port sets its speed, if there is a case for it and the
calls succeed, or else nothing at all. -/
theorem setLine_cases (baudrate : Int) (calls : Bool) (p : Port) :
    HasCase defined baudrate ∧ calls = true ∧
        setLine defined baudrate calls p = (0, { p with speed := baudrate }) ∨
      ¬ (HasCase defined baudrate ∧ calls = true) ∧
        setLine defined baudrate calls p = (-1, p) := by
  by_cases h : HasCase defined baudrate ∧ calls = true
  · exact .inl ⟨h.1, h.2, if_pos h⟩
  · exact .inr ⟨h, if_neg h⟩

/-- A guess is the last, or the loop goes on with the port it leaves. -/
theorem guessbaudLoop_cases {guess : Int} {g : Guess} {tries : List (Int × Guess)} {p q : Port}
    {ret : Int} (h : guessbaudLoop defined ((guess, g) :: tries) p = some (ret, q)) :
    q = (setLine defined guess g.calls p).2 ∨
      (setLine defined guess g.calls p).1 ≠ -1 ∧
        guessbaudLoop defined tries (setLine defined guess g.calls p).2 = some (ret, q) := by
  rw [guessbaudLoop] at h
  dsimp only at h
  split at h
  · cases h
    exact .inl rfl
  · next hset =>
    split at h
    · cases h
      exact .inl rfl
    · split at h
      · split at h
        · cases h
        · cases h
          exact .inl rfl
        · exact .inr ⟨hset, h⟩
      · cases h
        exact .inl rfl
      · cases h
        exact .inl rfl

theorem guessbaudLoop_spec : ∀ {tries : List (Int × Guess)} {p q : Port} {ret : Int},
    guessbaudLoop defined tries p = some (ret, q) →
    q.flags = p.flags ∧ (q.speed = p.speed ∨ q.speed ∈ tries.map Prod.fst)
  | [], p, q, ret, h => by
    obtain ⟨-, rfl⟩ := Prod.mk.inj (Option.some.inj h)
    exact ⟨rfl, .inl rfl⟩
  | (guess, g) :: tries, p, q, ret, h => by
    rcases setLine_cases guess g.calls p with ⟨-, -, hset⟩ | ⟨-, hset⟩ <;>
      rcases guessbaudLoop_cases h with rfl | ⟨hgo, hrest⟩ <;> rw [hset] at *
    · exact ⟨rfl, .inr (List.mem_cons_self ..)⟩
    · obtain ⟨hflags, hspeed⟩ := guessbaudLoop_spec hrest
      refine ⟨hflags, .inr ?_⟩
      rcases hspeed with hspeed | hspeed
      · rw [hspeed]
        exact List.mem_cons_self ..
      · exact List.mem_cons_of_mem _ hspeed
    · exact ⟨rfl, .inl rfl⟩
    · exact absurd rfl hgo

/-- Guessing sets a speed if the first guess can be set. -/
theorem guessbaudrate_spec {guesses : Nat → Guess} {p q : Port} {ret : Int}
    (h : guessbaudrate defined guesses p = some (ret, q)) :
    q.flags = p.flags ∧
      if (guesses 0).calls then q.speed ≠ 0 else q.speed = p.speed := by
  have h9600 : HasCase defined 9600 := .inl (by decide)
  refine ⟨(guessbaudLoop_spec h).1, ?_⟩
  rcases setLine_cases 9600 (guesses 0).calls p with ⟨-, hcalls, hset⟩ | ⟨hcalls, hset⟩ <;>
    rcases guessbaudLoop_cases h with rfl | ⟨hgo, hrest⟩
  · rw [if_pos hcalls, hset]
    exact (by decide : (9600 : Int) ≠ 0)
  · rw [if_pos hcalls]
    rw [hset] at hrest
    rcases (guessbaudLoop_spec hrest).2 with hspeed | hspeed
    · rw [hspeed]
      exact (by decide : (9600 : Int) ≠ 0)
    · intro hzero
      rw [hzero] at hspeed
      simp at hspeed
  · rw [if_neg fun hc => hcalls ⟨h9600, hc⟩, hset]
  · rw [hset] at hgo
    exact absurd rfl hgo

/-- **A change of the speed** sets one, or guesses one, or changes nothing. -/
theorem modifybaud_spec {baudrate : Int} {c : LineCalls} {p q : Port} {ret : Int}
    (h : modifybaud defined baudrate c p = some (ret, q)) :
    q.flags = p.flags ∧
      ((baudrate ≠ -1 ∧ baudrate ≠ 0 ∧ HasCase defined baudrate ∧ c.calls = true) ∧
          q.speed = baudrate ∨
        (baudrate = 0 ∧ (c.guesses 0).calls = true) ∧ q.speed ≠ 0 ∨
        ¬ (baudrate ≠ -1 ∧ baudrate ≠ 0 ∧ HasCase defined baudrate ∧ c.calls = true) ∧
          ¬ (baudrate = 0 ∧ (c.guesses 0).calls = true) ∧ q.speed = p.speed) := by
  unfold modifybaud at h
  split at h
  · next hnone =>
    cases h
    exact ⟨rfl, .inr (.inr ⟨fun hs => hs.1 hnone, fun hg => by omega, rfl⟩)⟩
  · next hnone =>
    split at h
    · -- speed 0 asks for a guess
      next hzero =>
      obtain ⟨⟨g, q⟩, hguess, hpair⟩ := Option.map_eq_some_iff.mp h
      obtain ⟨-, rfl⟩ := Prod.mk.inj hpair
      obtain ⟨hflags, hspeed⟩ := guessbaudrate_spec hguess
      refine ⟨hflags, .inr ?_⟩
      split at hspeed
      · next hcalls => exact .inl ⟨⟨hzero, hcalls⟩, hspeed⟩
      · next hcalls => exact .inr ⟨fun hs => hs.2.1 hzero, fun hg => hcalls hg.2, hspeed⟩
    · next hzero =>
      have hset := Option.some.inj h
      -- any other speed is set, or nothing is
      rcases @setLine_cases defined baudrate c.calls p with ⟨hcase, hcalls, hline⟩ | ⟨hno, hline⟩
      · rw [hline] at hset
        cases hset
        exact ⟨rfl, .inl ⟨⟨hnone, hzero, hcase, hcalls⟩, rfl⟩⟩
      · rw [hline] at hset
        cases hset
        exact ⟨rfl, .inr (.inr ⟨fun hs => hno hs.2.2, fun hg => hzero hg.1, rfl⟩)⟩

/-- **An attempt** at a speed, by its outcome: it returns -1 at once where it
was stopped, goes back to the previous speed where the device has refused or not
answered, and stays at the new one where that was confirmed. -/
theorem attempt_eq {rate : Int} (hnone : rate ≠ -1) (hzero : rate ≠ 0) (previousrate : Int)
    (a : Attempt) (p : Port) :
    attemptUpgradebaudrate defined rate previousrate a p =
      match a.outcome defined rate with
      | none => none
      | some .stopped => some (-1, p)
      | some .refused => goBack defined previousrate a p
      | some .dropped => goBack defined previousrate a { p with speed := rate }
      | some .confirmed => some (0, { p with speed := rate }) := by
  have hmodify : modifybaud defined rate a.upgrade p =
      some (setLine defined rate a.upgrade.calls p) := by
    rw [modifybaud, if_neg hnone, if_neg hzero]
  unfold attemptUpgradebaudrate Attempt.outcome
  rw [hmodify]
  rcases setLine_cases rate a.upgrade.calls p with ⟨hcase, hcalls, hset⟩ | ⟨hno, hset⟩
  · rw [hset, if_pos (show HasCase defined rate ∧ a.upgrade.calls = true from ⟨hcase, hcalls⟩)]
    repeat' split
    all_goals simp_all
  · rw [hset, if_neg hno]
    repeat' split
    all_goals simp_all

/-- The speed that an attempt which changes it leaves. -/
def Trial.Leaves (defined : Int → Bool) (t : Trial) (speed : Int) : Prop :=
  t.Confirmed defined ∧ speed = t.rate ∨ t.GoesBack defined ∧ speed = t.previousrate ∨
    t.Guesses defined ∧ speed ≠ 0 ∨
    (t.Dropped defined ∧ ¬ t.GoesBack defined ∧ ¬ t.Guesses defined) ∧ speed = t.rate

theorem Trial.Fails.not_confirmed {t : Trial} (h : t.Fails defined) : ¬ t.Confirmed defined := by
  intro hc
  rcases h with ho | ho <;> cases ho.symm.trans hc

/-- What changes the speed is confirmed or fails. -/
theorem Trial.Moves.confirmed_or_fails {t : Trial} (h : t.Moves defined) :
    t.Confirmed defined ∨ t.Fails defined := by
  rcases h with hc | hd | hg | hg
  · exact .inl hc
  · exact .inr (.inr hd)
  · exact .inr hg.1
  · exact .inr hg.1

/-- An attempt that fails goes back, or guesses, or stays where it is. -/
theorem fails_spec {t : Trial} {p q : Port} {ret : Int} (hfails : t.Fails defined)
    (h : goBack defined t.previousrate t.attempt p = some (ret, q)) :
    ret = -1 ∧ q.flags = p.flags ∧
      (t.Moves defined ∧ t.Leaves defined q.speed ∨
        ¬ t.GoesBack defined ∧ ¬ t.Guesses defined ∧ q.speed = p.speed) := by
  obtain ⟨⟨r, q'⟩, hmodify, hpair⟩ := Option.map_eq_some_iff.mp h
  obtain ⟨rfl, rfl⟩ := Prod.mk.inj hpair
  obtain ⟨hflags, hback⟩ := modifybaud_spec hmodify
  refine ⟨rfl, hflags, ?_⟩
  rcases hback with ⟨hset, hspeed⟩ | ⟨hguess, hspeed⟩ | ⟨hset, hguess, hspeed⟩
  · have hgoes : t.GoesBack defined := ⟨hfails, hset⟩
    exact .inl ⟨.inr (.inr (.inl hgoes)), .inr (.inl ⟨hgoes, hspeed⟩)⟩
  · have hguesses : t.Guesses defined := ⟨hfails, hguess⟩
    exact .inl ⟨.inr (.inr (.inr hguesses)), .inr (.inr (.inl ⟨hguesses, hspeed⟩))⟩
  · exact .inr ⟨fun hg => hset hg.2, fun hg => hguess hg.2, hspeed⟩

/-- **One attempt**: the flags stay, and the speed is left as the trial says. -/
theorem attempt_spec {t : Trial} {p q : Port} {ret : Int} (hnone : t.rate ≠ -1)
    (hzero : t.rate ≠ 0)
    (h : attemptUpgradebaudrate defined t.rate t.previousrate t.attempt p = some (ret, q)) :
    q.flags = p.flags ∧ ret = (if t.Confirmed defined then 0 else -1) ∧
      (t.Moves defined ∧ t.Leaves defined q.speed ∨
        ¬ t.Moves defined ∧ q.speed = p.speed) := by
  rw [attempt_eq hnone hzero] at h
  cases hout : t.attempt.outcome defined t.rate with
  | none =>
    rw [hout] at h
    cases h
  | some outcome =>
    rw [hout] at h
    cases outcome with
    -- nothing was set, so the speed is what it was
    | stopped =>
      cases h
      have hc : ¬ t.Confirmed defined := fun hc => nomatch hout.symm.trans hc
      have hfails : ¬ t.Fails defined := by
        intro hf
        rcases hf with ho | ho <;> cases hout.symm.trans ho
      exact ⟨rfl, (if_neg hc).symm, .inr ⟨fun hm => hm.confirmed_or_fails.elim hc hfails, rfl⟩⟩
    | confirmed =>
      cases h
      exact ⟨rfl, (if_pos hout).symm, .inl ⟨.inl hout, .inl ⟨hout, rfl⟩⟩⟩
    -- the device has not changed its speed: going back either works, or cannot be asked for
    | refused =>
      have hfails : t.Fails defined := .inl hout
      have hd : ¬ t.Dropped defined := fun hd => nomatch hout.symm.trans hd
      obtain ⟨rfl, hflags, hback⟩ := fails_spec hfails h
      refine ⟨hflags, (if_neg hfails.not_confirmed).symm, ?_⟩
      rcases hback with hleft | ⟨hgoes, hguesses, hspeed⟩
      · exact .inl hleft
      · refine .inr ⟨fun hm => ?_, hspeed⟩
        exact hm.elim hfails.not_confirmed fun hm => hm.elim hd fun hm => hm.elim hgoes hguesses
    -- the speed of the port was changed, and going back may leave it so
    | dropped =>
      have hfails : t.Fails defined := .inr hout
      obtain ⟨rfl, hflags, hback⟩ := fails_spec hfails h
      refine ⟨hflags, (if_neg hfails.not_confirmed).symm, .inl ?_⟩
      rcases hback with hleft | ⟨hgoes, hguesses, hspeed⟩
      · exact hleft
      · exact ⟨.inr (.inl hout), .inr (.inr (.inr ⟨⟨hout, hgoes, hguesses⟩, hspeed⟩))⟩

/-- A confirmed attempt is reported with 0. -/
def Trial.report (defined : Int → Bool) (t : Trial) : Int × Int :=
  (t.rate, if t.Confirmed defined then 0 else -1)

/-- The last entry of a list that meets a test is the head if no later one is. -/
theorem getLast?_filter_cons {α : Type} (test : α → Bool) (a : α) (l : List α) :
    ((a :: l).filter test).getLast? =
      ((l.filter test).getLast?).or (if test a then some a else none) := by
  rw [List.filter_cons]
  split
  · rw [List.getLast?_cons]
    cases (l.filter test).getLast? <;> rfl
  · rw [Option.or_none]

theorem lastMove_cons (t : Trial) (ts : List Trial) :
    lastMove defined (t :: ts) =
      (lastMove defined ts).or (if t.Moves defined then some t else none) := by
  unfold lastMove
  rw [getLast?_filter_cons]
  simp only [decide_eq_true_eq]

/-- **All attempts**: the last one that changes the speed leaves it. -/
theorem upgradeLoop_spec : ∀ {tries : List (Int × Attempt)} {currentBest : Int} {p : Port}
    {u : Upgraded}, (∀ x ∈ tries, x.1 ≠ -1 ∧ x.1 ≠ 0) →
    upgradeLoop defined currentBest p tries = some u →
    u.port.flags = p.flags ∧
      u.reports = (trialsFrom defined currentBest tries).map (Trial.report defined) ∧
      match lastMove defined (trialsFrom defined currentBest tries) with
      | some t => t.Leaves defined u.port.speed
      | none => u.port.speed = p.speed
  | [], currentBest, p, u, _, h => by
    cases h
    exact ⟨rfl, rfl, rfl⟩
  | (rate, a) :: tries, currentBest, p, u, hrates, h => by
    obtain ⟨hnone, hzero⟩ := hrates (rate, a) (List.mem_cons_self ..)
    rw [upgradeLoop] at h
    split at h
    · cases h
    · next ret p₁ hattempt =>
      obtain ⟨u', hloop, rfl⟩ := Option.map_eq_some_iff.mp h
      obtain ⟨hflags, hret, hspeed⟩ :=
        attempt_spec (t := ⟨rate, currentBest, a⟩) hnone hzero hattempt
      -- the loop goes on from the rate that was confirmed, or from the one it had
      have hbest : (if ret = 0 then rate else currentBest) =
          if a.outcome defined rate = some .confirmed then rate else currentBest := by
        rw [hret]
        by_cases hc : a.outcome defined rate = some .confirmed <;> simp [Trial.Confirmed, hc]
      rw [hbest] at hloop
      obtain ⟨hflags', hreports, hlast⟩ :=
        upgradeLoop_spec (fun x hx => hrates x (List.mem_cons_of_mem _ hx)) hloop
      refine ⟨hflags'.trans hflags, ?_, ?_⟩
      · rw [trialsFrom, List.map_cons, ← hreports, hret]
        rfl
      · rw [trialsFrom, lastMove_cons]
        -- the last attempt that moves the speed counts: a later one, if there is one
        cases hmove : lastMove defined (trialsFrom defined _ tries) with
        | some t =>
          rw [hmove] at hlast
          exact hlast
        | none =>
          rw [hmove] at hlast
          rcases hspeed with ⟨hmoves, hleaves⟩ | ⟨hstays, hspeed⟩
          · rw [if_pos hmoves]
            exact hlast.symm ▸ hleaves
          · rw [if_neg hstays]
            exact hlast.trans hspeed

/-! ## The last attempt that counts -/

theorem lastConfirmed_cons (t : Trial) (ts : List Trial) :
    lastConfirmed defined (t :: ts) =
      (lastConfirmed defined ts).or (if t.Confirmed defined then some t.rate else none) := by
  unfold lastConfirmed
  rw [getLast?_filter_cons]
  simp only [decide_eq_true_eq]
  cases (ts.filter fun t => t.Confirmed defined).getLast? with
  | some t' => rfl
  | none => split <;> rfl

/-- The last report of success is that of the speed confirmed last. -/
theorem lastReport_eq (ts : List Trial) :
    (((ts.map (Trial.report defined)).filter fun x => x.2 = 0).getLast?.map Prod.fst) =
      lastConfirmed defined ts := by
  have htest : ∀ t : Trial, (decide ((t.report defined).2 = 0)) = decide (t.Confirmed defined) := by
    intro t
    by_cases hc : t.Confirmed defined <;> simp [Trial.report, hc]
  rw [List.filter_map, List.getLast?_map, Option.map_map]
  simp only [Function.comp_def, htest]
  rfl

/-- Of the last attempt that changes the speed, what is confirmed is the last
that is, and what is not goes back to that. -/
theorem lastMove_spec : ∀ {tries : List (Int × Attempt)} {previousrate : Int},
    match lastMove defined (trialsFrom defined previousrate tries) with
    | some t =>
      (t.Confirmed defined →
        lastConfirmed defined (trialsFrom defined previousrate tries) = some t.rate) ∧
      (¬ t.Confirmed defined → t.previousrate =
        (lastConfirmed defined (trialsFrom defined previousrate tries)).getD previousrate)
    | none => lastConfirmed defined (trialsFrom defined previousrate tries) = none
  | [], _ => rfl
  | (rate, a) :: tries, previousrate => by
    rw [trialsFrom, lastMove_cons, lastConfirmed_cons]
    have hrest := @lastMove_spec tries
      (if a.outcome defined rate = some .confirmed then rate else previousrate)
    generalize trialsFrom defined
      (if a.outcome defined rate = some .confirmed then rate else previousrate) tries = ts
      at hrest ⊢
    have hhead : Trial.Confirmed defined ⟨rate, previousrate, a⟩ ↔
        a.outcome defined rate = some .confirmed := Iff.rfl
    -- a later move decides; without one it is this attempt, if it moves the speed at all
    cases hmove : lastMove defined ts with
    | some t =>
      rw [hmove] at hrest
      refine ⟨fun hc => by rw [hrest.1 hc]; rfl, fun hc => ?_⟩
      rw [hrest.2 hc]
      cases lastConfirmed defined ts with
      | some x => rfl
      | none =>
        simp only [hhead]
        split <;> rfl
    | none =>
      rw [hmove] at hrest
      rw [hrest, Option.none_or, Option.none_or]
      by_cases hmoves : Trial.Moves defined ⟨rate, previousrate, a⟩
      · rw [if_pos hmoves]
        exact ⟨fun hc => if_pos hc, fun hc => by rw [if_neg hc]; rfl⟩
      · rw [if_neg hmoves]
        exact if_neg fun hc => hmoves (.inl hc)

/-- The speed that is left is the wanted one, where a speed that is confirmed or
gone back to is. -/
theorem Trial.Leaves.wanted_iff {t : Trial} {speed wanted : Int} (h : t.Leaves defined speed)
    (hconfirmed : t.Confirmed defined → wanted = t.rate)
    (hback : ¬ t.Confirmed defined → t.previousrate ≠ -1 → wanted = t.previousrate) :
    speed = wanted ↔ t.Confirmed defined ∨ t.GoesBack defined ∨
      t.Dropped defined ∧ ¬ t.Guesses defined ∧ t.rate = wanted := by
  rcases h with ⟨hc, rfl⟩ | ⟨hg, rfl⟩ | ⟨hg, hspeed⟩ | ⟨⟨hd, hgoes, hguesses⟩, rfl⟩
  · exact iff_of_true (hconfirmed hc).symm (.inl hc)
  · exact iff_of_true (hback hg.1.not_confirmed hg.2.1).symm (.inr (.inl hg))
  · have hc := hg.1.not_confirmed
    have hprevious : t.previousrate = 0 := hg.2.1
    have hzero : wanted = 0 := (hback hc (by omega)).trans hprevious
    refine iff_of_false (fun he => hspeed (he.trans hzero)) ?_
    rintro (h' | h' | h')
    · exact hc h'
    · exact h'.2.2.1 hprevious
    · exact h'.2.1 hg
  · have hc : ¬ t.Confirmed defined := Trial.Fails.not_confirmed (.inr hd)
    constructor
    · intro he
      exact .inr (.inr ⟨hd, hguesses, he⟩)
    · rintro (h' | h' | h')
      · exact absurd h' hc
      · exact absurd h' hgoes
      · exact h'.2.2

/-- If there is a speed to go back to, it is the one confirmed last, or the
current one where none has been confirmed. -/
theorem getD_of_ne_none {best : Option Int} {first currentBaudrate : Int}
    (hfirst : first = -1 ∨ first = currentBaudrate) (hne : best.getD first ≠ -1) :
    best.getD currentBaudrate = best.getD first := by
  cases best with
  | some x => rfl
  | none => exact (hfirst.resolve_left hne).symm

/-- **The speed after all attempts**, where the first one has the current speed
to go back to, or none. -/
theorem loopSpeed_iff {tries : List (Int × Attempt)} {first currentBaudrate : Int} {p : Port}
    {u : Upgraded} (hfirst : first = -1 ∨ first = currentBaudrate)
    (hrates : ∀ x ∈ tries, x.1 ≠ -1 ∧ x.1 ≠ 0)
    (h : upgradeLoop defined first p tries = some u) :
    u.port.speed =
        ((u.reports.filter fun x => x.2 = 0).getLast?.map Prod.fst).getD currentBaudrate ↔
      match lastMove defined (trialsFrom defined first tries) with
      | some t => t.Confirmed defined ∨ t.GoesBack defined ∨
          t.Dropped defined ∧ ¬ t.Guesses defined ∧
            t.rate = (lastConfirmed defined (trialsFrom defined first tries)).getD currentBaudrate
      | none => p.speed = currentBaudrate := by
  obtain ⟨-, hreports, hspeed⟩ := upgradeLoop_spec hrates h
  have hlast := @lastMove_spec defined tries first
  rw [hreports, lastReport_eq]
  generalize trialsFrom defined first tries = ts at hspeed hlast ⊢
  -- the last attempt that moved the speed decides, if there is one
  cases hmove : lastMove defined ts with
  | none =>
    rw [hmove] at hspeed hlast
    rw [hspeed, hlast]
    rfl
  | some t =>
    rw [hmove] at hspeed hlast
    obtain ⟨hconfirmed, hprevious⟩ := hlast
    refine hspeed.wanted_iff ?_ ?_
    · intro hc
      rw [hconfirmed hc]
      rfl
    · intro hc hne
      rw [hprevious hc] at hne ⊢
      exact getD_of_ne_none hfirst hne

/-- The flags behind the second `F_SETFL` are those the port had before, exactly
if one of the two calls had no effect on them or the second put them back. -/
theorem flags_iff {baudrateTarget : Int} (hdisabled : baudrateTarget ≠ -1) (m : Upgrade)
    {p q : Port} (hq : q.flags = (p.setFlags m.nonblocks oNonblock).flags) :
    (q.setFlags m.restores p.flags).flags = p.flags ↔ FlagsKept baudrateTarget m p := by
  rw [setFlags_flags, hq, setFlags_flags]
  unfold FlagsKept
  cases m.nonblocks <;> cases m.restores <;> simp [hdisabled, eq_comm]

/-- The flags and the speed are kept separately. -/
theorem leavesPort_iff {currentBaudrate : Int} {p : Port} {u : Upgraded} {flags speed : Prop}
    (hflags : u.port.flags = p.flags ↔ flags)
    (hspeed : u.port.speed =
      ((u.reports.filter fun x => x.2 = 0).getLast?.map Prod.fst).getD currentBaudrate ↔ speed) :
    LeavesPort currentBaudrate p u ↔ flags ∧ speed :=
  ⟨fun h => ⟨hflags.mp h.flags, hspeed.mp h.speed⟩,
    fun h => ⟨hflags.mpr h.1, hspeed.mpr h.2⟩⟩

/-- With the target -1 upgrading is disabled and the function returns early: it
leaves the port as it should exactly if the flags were not touched, or were
`O_NONBLOCK` alone before, and the speed is the current one. -/
theorem disabled_iff (currentBaudrate : Int) (m : Upgrade) (p : Port) :
    LeavesPort currentBaudrate p ⟨0, p.setFlags m.nonblocks oNonblock, []⟩ ↔
      FlagsKept (-1) m p ∧ p.speed = currentBaudrate := by
  refine leavesPort_iff ?_ ?_
  · show (p.setFlags m.nonblocks oNonblock).flags = _ ↔ _
    rw [setFlags_flags]
    unfold FlagsKept
    cases m.nonblocks with
    | false => simp
    | true => simpa using (eq_comm : oNonblock = p.flags ↔ _)
  · show (p.setFlags m.nonblocks oNonblock).speed = _ ↔ _
    rw [setFlags_speed]
    rfl

/-- **Some attempts**, and then the flags are set again. -/
theorem loopLeaves_iff {tries : List (Int × Attempt)} {first baudrateTarget currentBaudrate : Int}
    {m : Upgrade} {p : Port} {u : Upgraded} (hdisabled : baudrateTarget ≠ -1)
    (hfirst : first = -1 ∨ first = currentBaudrate) (hrates : ∀ x ∈ tries, x.1 ≠ -1 ∧ x.1 ≠ 0)
    (h : upgradeLoop defined first (p.setFlags m.nonblocks oNonblock) tries = some u) (ret : Int) :
    LeavesPort currentBaudrate p ⟨ret, u.port.setFlags m.restores p.flags, u.reports⟩ ↔
      FlagsKept baudrateTarget m p ∧
        match lastMove defined (trialsFrom defined first tries) with
        | some t => t.Confirmed defined ∨ t.GoesBack defined ∨
            t.Dropped defined ∧ ¬ t.Guesses defined ∧
              t.rate = (lastConfirmed defined (trialsFrom defined first tries)).getD currentBaudrate
        | none => p.speed = currentBaudrate := by
  have hspeed := loopSpeed_iff hfirst hrates h
  rw [setFlags_speed] at hspeed
  refine leavesPort_iff (flags_iff hdisabled m (upgradeLoop_spec hrates h).1) ?_
  rw [setFlags_speed]
  exact hspeed

/-- **Baud upgrade**: whenever it returns, the port is left as it should be if
and only if its flags and its speed are kept. -/
theorem upgradebaudrate_leaves_iff {baudrateTarget currentBaudrate : Int} {m : Upgrade} {p : Port}
    {u : Upgraded} (h : upgradebaudrate defined baudrateTarget currentBaudrate m p = some u) :
    LeavesPort currentBaudrate p u ↔
      FlagsKept baudrateTarget m p ∧
        SpeedKept defined baudrateTarget currentBaudrate m.attempts p := by
  unfold upgradebaudrate at h
  unfold SpeedKept trials
  by_cases hdisabled : baudrateTarget = -1
  · subst hdisabled
    cases h
    exact disabled_iff currentBaudrate m p
  · rw [if_neg hdisabled] at h ⊢
    by_cases hpos : 0 < baudrateTarget
    · rw [if_pos hpos] at h ⊢
      obtain ⟨⟨ret, q⟩, hattempt, rfl⟩ := Option.map_eq_some_iff.mp h
      have hrates : ∀ x ∈ [(baudrateTarget, m.attempts 0)], x.1 ≠ -1 ∧ x.1 ≠ 0 := by
        intro x hx
        rw [List.mem_singleton.mp hx]
        exact ⟨hdisabled, by omega⟩
      -- one attempt is a loop over one speed
      have hloop : upgradeLoop defined currentBaudrate (p.setFlags m.nonblocks oNonblock)
          [(baudrateTarget, m.attempts 0)] =
            some ⟨if ret = 0 then baudrateTarget else currentBaudrate, q,
              [(baudrateTarget, ret)]⟩ := by
        rw [upgradeLoop, hattempt]
        rfl
      exact loopLeaves_iff hdisabled (.inr rfl) hrates hloop _
    · rw [if_neg hpos] at h ⊢
      obtain ⟨u', hloop, rfl⟩ := Option.map_eq_some_iff.mp h
      have hrates : ∀ x ∈ speedAttempts m.attempts, x.1 ≠ -1 ∧ x.1 ≠ 0 := by
        simp [speedAttempts, speeds]
      exact loopLeaves_iff hdisabled (.inl rfl) hrates hloop _

end Proofs

/-- System calls that succeed; no guess gets an answer. -/
def quietCalls : LineCalls := ⟨true, fun _ => ⟨true, 7, .eagain⟩⟩

/-- An adapter that answers `OK` and greets at the new speed, or does not. -/
def attemptOk (greets : Bool) : Attempt where
  wrote := 9
  answer := [.eagain, .data ['O', 'K', '\r']]
  upgrade := quietCalls
  greeting := if greets then [⟨.data ['E', 'L', 'M', '\r', '>'], 80000⟩] else [⟨.eagain, 1000001⟩]
  back := quietCalls

/-- An attempt at a port whose `write` fails. -/
def attemptStopped : Attempt := { attemptOk true with wrote := -1 }

/-- A system on which every speed of `modifybaud` is defined, so that no `case`
is left out by the preprocessor. -/
def allCases : Int → Bool := fun _ => true

/-- An upgrade from 9600 to 38400 in which every call succeeds: it leaves the
port as it should. -/
theorem upgrade_leaves :
    LeavesPort 9600 ⟨0, 9600⟩ ⟨38400, ⟨0, 38400⟩, [(38400, 0)]⟩ := by
  have hrun : upgradebaudrate allCases 38400 9600 ⟨true, true, fun _ => attemptOk true⟩ ⟨0, 9600⟩ =
      some ⟨38400, ⟨0, 38400⟩, [(38400, 0)]⟩ := by decide +kernel
  have hconfirmed : Trial.Confirmed allCases ⟨38400, 9600, attemptOk true⟩ := by decide +kernel
  refine (upgradebaudrate_leaves_iff hrun).mpr ⟨.inr (.inr ⟨by decide, rfl⟩), ?_⟩
  have hlast : lastMove allCases (trials allCases 38400 9600 fun _ => attemptOk true) =
      some ⟨38400, 9600, attemptOk true⟩ := by
    show lastMove allCases [_] = _
    rw [lastMove_cons, if_pos (.inl hconfirmed)]
    rfl
  unfold SpeedKept
  dsimp only
  rw [hlast]
  exact .inl hconfirmed

/-- A port that stays nonblocking where upgrading is disabled, and one that
stays at a speed that the adapter does not have. -/
theorem upgrade_astray :
    (∃ u, upgradebaudrate allCases (-1) 9600 ⟨true, true, fun _ => attemptOk true⟩ ⟨0, 9600⟩ =
        some u ∧ ¬ LeavesPort 9600 ⟨0, 9600⟩ u) ∧
      ∃ u, upgradebaudrate allCases 0 9600
          ⟨true, true, fun i => if i = 0 then attemptOk false else attemptStopped⟩ ⟨0, 9600⟩ =
        some u ∧ ¬ LeavesPort 9600 ⟨0, 9600⟩ u := by
  refine ⟨⟨⟨0, ⟨oNonblock, 9600⟩, []⟩, rfl, fun h => absurd h.flags (by decide)⟩,
    ⟨⟨-1, ⟨0, 38400⟩, speeds.map fun rate => (rate, -1)⟩, by decide +kernel,
      fun h => absurd h.speed (by decide)⟩⟩

end ObdGpsLogger.Obdcomm
