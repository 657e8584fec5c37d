import Mathlib.Data.List.DropRight
import ObdGpsLogger.Sim.EcuDelay
import ObdGpsLogger.Sim.Session

/-!
# What the freeze frames hold

`obdsim_freezeframes` keeps the frames of an ECU in an array and a counter. A
new count of errors, other than 0, appends a frame as long as there is room; a
count of 0 puts the counter back, and leaves the array as it is.

What this is for is a list: the frames captured since the last time the ECU had
no errors (`FrameLog`). `freezeTick_frozen` shows that a tick of the code keeps
the slots below the counter equal to that list (`Frozen`), and
`ticks_frozen` that any number of ticks does. What lies above the counter is
whatever was captured there before a clear.

Which frames these are, `freezeframes_history` says from the whole history: the
first of those whose count differs from the one captured before
(`captures`), since the last count of 0 (`sinceClear`).
-/

namespace ObdGpsLogger.Sim

open Obdinfo

/-- A captured frame: what the generator answered for each PID. -/
abbrev Frame := Nat → GenValue

/-- The last count of errors, and the frames captured since it was 0. -/
structure FrameLog where
  lasterrorcount : Int
  frames : List Frame

/-- The log of an ECU that has had no errors. -/
def FrameLog.empty : FrameLog := ⟨0, []⟩

/-- A tick: errors gone, the same number as before or no room left, or a new
frame. -/
def FrameLog.tick (l : FrameLog) (g : Simgen) : FrameLog :=
  match g.geterrorcodes with
  | none => l
  | some geterrorcodes =>
    let errorcount := (geterrorcodes 0).errorcount
    if errorcount = 0 then .empty
    else if l.lasterrorcount = errorcount ∨ obdsimMaxfreezeframes ≤ l.frames.length then l
    else ⟨errorcount, l.frames ++ [g.getvalue 0x01]⟩

/-- An ECU's slots hold the frames of a log, for all PIDs there are. -/
structure Frozen (e : ObdgenEcu) (l : FrameLog) : Prop where
  last : e.lasterrorcount = l.lasterrorcount
  count : e.ffcount = l.frames.length
  room : l.frames.length ≤ obdsimMaxfreezeframes
  slots : ∀ (i : Nat) (fr : Frame), l.frames[i]? = some fr → ∀ pid < obdcmdsMode1.length,
    (e.ff i).values pid = (fr pid).abcd ∧ (e.ff i).valuecount pid = (fr pid).count

/-- A cleared counter, whatever the slots hold. -/
theorem frozen_empty {e : ObdgenEcu} (hlast : e.lasterrorcount = 0) (hcount : e.ffcount = 0) :
    Frozen e .empty :=
  ⟨hlast, hcount, by decide, fun i fr h => by cases h⟩

/-- **One tick** keeps an ECU and its log in step: what the ECU has in its slots
is what the log says. -/
theorem freezeTick_frozen {e : ObdgenEcu} {l : FrameLog} (h : Frozen e l) (g : Simgen) :
    Frozen (freezeTick g e) (l.tick g) := by
  unfold freezeTick FrameLog.tick
  cases g.geterrorcodes with
  | none => exact h
  | some geterrorcodes =>
    dsimp only
    by_cases hzero : (geterrorcodes 0).errorcount = 0
    · -- no errors: the counter goes back to 0
      rw [if_pos hzero, if_pos hzero]
      exact frozen_empty rfl rfl
    · rw [if_neg hzero, if_neg hzero, h.last, h.count]
      by_cases hsame : l.lasterrorcount = (geterrorcodes 0).errorcount
      · -- the count is the one of before
        rw [if_pos hsame, if_pos (Or.inl hsame)]
        exact h
      · rw [if_neg hsame]
        by_cases hfull : obdsimMaxfreezeframes ≤ l.frames.length
        · -- there is no slot left
          rw [if_pos hfull, if_pos (Or.inr hfull)]
          exact h
        · rw [if_neg hfull, if_neg (not_or.mpr ⟨hsame, hfull⟩)]
          refine ⟨rfl, by simp, ?_, fun i fr hfr pid hpid => ?_⟩
          · rw [List.length_append, List.length_singleton]
            omega
          · dsimp only
            by_cases hi : i < l.frames.length
            · -- an old slot
              rw [List.getElem?_append_left hi] at hfr
              rw [if_neg (by omega)]
              exact h.slots i fr hfr pid hpid
            · -- the slot at the counter, just filled
              obtain ⟨hlt, hget⟩ := List.getElem?_eq_some_iff.mp hfr
              rw [List.length_append, List.length_singleton] at hlt
              obtain rfl : i = l.frames.length := by omega
              obtain rfl : g.getvalue 0x01 = fr := by simpa using hget
              rw [if_pos rfl]
              exact ⟨if_pos hpid, if_pos hpid⟩

/-- **Any number of ticks** keeps an ECU and its log in step, by induction over
the ticks. -/
theorem frozen_foldl : ∀ (ticks : List Simgen) {e : ObdgenEcu} {l : FrameLog}, Frozen e l →
    Frozen (ticks.foldl (fun e g => freezeTick g e) e) (ticks.foldl FrameLog.tick l)
  | [], _, _, h => h
  | g :: ticks, _, _, h => frozen_foldl ticks (freezeTick_frozen h g)

/-! ## All ECUs -/

/-- The settings after some ticks, each with the generators it asks. -/
def SimSettings.ticks (ss : SimSettings) (ticks : List (Nat → Simgen)) : SimSettings :=
  ticks.foldl (fun ss gens => obdsimFreezeframes gens ss) ss

/-- The log that the `i`-th ECU should have after some ticks. -/
def frameLog (ticks : List (Nat → Simgen)) (i : Nat) : FrameLog :=
  (ticks.map fun gens => gens i).foldl FrameLog.tick .empty

/-- The ticks of an ECU depend on its own generator only, and not on the other
ECUs. -/
theorem ticks_ecus : ∀ (ticks : List (Nat → Simgen)) (ss : SimSettings) (i : Nat),
    (ss.ticks ticks).ecus[i]? = ss.ecus[i]?.map fun e =>
      (ticks.map fun gens => gens i).foldl (fun e g => freezeTick g e) e
  | [], ss, i => by
    rw [SimSettings.ticks, List.foldl_nil]
    cases ss.ecus[i]? <;> rfl
  | gens :: ticks, ss, i => by
    have ih := ticks_ecus ticks (obdsimFreezeframes gens ss) i
    have hstep : (obdsimFreezeframes gens ss).ecus[i]? =
        ss.ecus[i]?.map (freezeTick (gens i)) := by
      rw [obdsimFreezeframes, SimSettings.mapEcus]
      exact List.getElem?_mapIdx
    rw [SimSettings.ticks, List.foldl_cons]
    rw [SimSettings.ticks, hstep, Option.map_map] at ih
    exact ih

/-- Ticks change the freeze frames, and no settings: headers are on or off as
they were. -/
theorem ticks_eHeaders : ∀ (ticks : List (Nat → Simgen)) (ss : SimSettings),
    (ss.ticks ticks).eHeaders = ss.eHeaders
  | [], _ => rfl
  | gens :: ticks, ss => ticks_eHeaders ticks (obdsimFreezeframes gens ss)

/-- The ECUs have captured nothing yet, as `obdsim_initialiseecu` leaves them. -/
def NoFrames (ss : SimSettings) : Prop :=
  ∀ e ∈ ss.ecus, e.lasterrorcount = 0 ∧ e.ffcount = 0

instance (ss : SimSettings) : Decidable (NoFrames ss) := inferInstanceAs (Decidable (∀ e ∈ _, _))

/-- After any ticks, every ECU holds the frames of its log. -/
theorem ticks_frozen {ss : SimSettings} (h : NoFrames ss) {ticks : List (Nat → Simgen)} {i : Nat}
    {e : ObdgenEcu} (he : (ss.ticks ticks).ecus[i]? = some e) : Frozen e (frameLog ticks i) := by
  rw [ticks_ecus] at he
  obtain ⟨e₀, he₀, rfl⟩ := Option.map_eq_some_iff.mp he
  obtain ⟨hlast, hcount⟩ := h e₀ (List.mem_of_getElem? he₀)
  exact frozen_foldl _ (frozen_empty hlast hcount)

/-! ## From the history -/

/-- What the generator of an ECU showed at a tick: the count of its errors, and
its values. -/
abbrev Shown := Int × Frame

/-- The history of an ECU. A generator without `geterrorcodes` has none. -/
def shown (ticks : List Simgen) : List Shown :=
  ticks.filterMap fun g => g.geterrorcodes.map fun geterrorcodes =>
    ((geterrorcodes 0).errorcount, g.getvalue 0x01)

/-- The history since the last count of 0. -/
def sinceClear (hist : List Shown) : List Shown := hist.rtakeWhile fun t => t.1 ≠ 0

/-- The ticks whose count is not the one of the capture before, if `last` was
the count there. -/
def captures : Int → List Shown → List Shown
  | _, [] => []
  | last, t :: ts => if t.1 = last then captures last ts else t :: captures t.1 ts

/-- The frames that should be in the slots. -/
def captured (hist : List Shown) : List Shown :=
  (captures 0 (sinceClear hist)).take obdsimMaxfreezeframes.toNat

/-- The count at the last of some captures. -/
def lastCount (last : Int) (cs : List Shown) : Int := (cs.getLast?.map Prod.fst).getD last

theorem lastCount_cons (last : Int) (t : Shown) (cs : List Shown) :
    lastCount last (t :: cs) = lastCount t.1 cs := by
  unfold lastCount
  cases cs with
  | nil => rfl
  | cons c cs => rw [List.getLast?_cons_cons, List.getLast?_cons, Option.map_some]; rfl

theorem captures_concat : ∀ (last : Int) (ts : List Shown) (t : Shown),
    captures last (ts ++ [t]) =
      captures last ts ++ if t.1 = lastCount last (captures last ts) then [] else [t]
  | last, [], t => by
    show (if t.1 = last then [] else [t]) = [] ++ if t.1 = last then [] else [t]
    rw [List.nil_append]
  | last, u :: ts, t => by
    rw [List.cons_append, captures, captures]
    by_cases h : u.1 = last
    · rw [if_pos h, if_pos h]
      exact captures_concat last ts t
    · rw [if_neg h, if_neg h, captures_concat u.1 ts t, lastCount_cons, List.cons_append]

theorem mem_captures : ∀ {last : Int} {ts : List Shown} {t : Shown},
    t ∈ captures last ts → t ∈ ts
  | _, [], _, h => by cases h
  | last, u :: ts, t, h => by
    rw [captures] at h
    split at h
    · exact List.mem_cons_of_mem _ (mem_captures h)
    · rcases List.mem_cons.mp h with rfl | h
      · exact List.mem_cons_self ..
      · exact List.mem_cons_of_mem _ (mem_captures h)

/-- A freeze frame is captured when there are errors, so the count in a capture
is not 0. -/
theorem captured_ne_zero {hist : List Shown} {t : Shown} (h : t ∈ captured hist) : t.1 ≠ 0 := by
  have hmem := mem_captures (List.mem_of_mem_take h)
  simpa using List.mem_rtakeWhile_imp hmem

/-- The log with the captures of a history. -/
def FrameLog.ofHistory (hist : List Shown) : FrameLog :=
  ⟨lastCount 0 (captured hist), (captured hist).map Prod.snd⟩

/-- A tick with errors: if their number is the same as that of the last capture,
or all slots are full, nothing is captured, and otherwise one more slot is. -/
theorem captured_concat {hist : List Shown} {t : Shown} (h : t.1 ≠ 0) :
    captured (hist ++ [t]) =
      if lastCount 0 (captured hist) = t.1 ∨ obdsimMaxfreezeframes ≤ (captured hist).length
      then captured hist else captured hist ++ [t] := by
  have hsince : sinceClear (hist ++ [t]) = sinceClear hist ++ [t] :=
    List.rtakeWhile_concat_pos _ _ _ (by simpa using h)
  have hmax : obdsimMaxfreezeframes = 5 := rfl
  have hcaptured : captured hist = (captures 0 (sinceClear hist)).take 5 := rfl
  have hcons : captured (hist ++ [t]) = ((captures 0 (sinceClear hist)) ++
      if t.1 = lastCount 0 (captures 0 (sinceClear hist)) then [] else [t]).take 5 := by
    rw [← captures_concat, ← hsince]
    rfl
  rw [hcons, hmax]
  rcases Nat.lt_or_ge (captures 0 (sinceClear hist)).length 5 with hlt | hge
  · -- there is room
    have hall : captured hist = captures 0 (sinceClear hist) :=
      List.take_of_length_le (Nat.le_of_lt hlt)
    rw [hall]
    by_cases hsame : lastCount 0 (captures 0 (sinceClear hist)) = t.1
    · rw [if_pos hsame.symm, if_pos (Or.inl hsame), List.append_nil, ← hcaptured, hall]
    · rw [if_neg (fun h => hsame h.symm), if_neg (not_or.mpr ⟨hsame, by omega⟩),
        List.take_of_length_le (by rw [List.length_append, List.length_singleton]; omega)]
  · -- all slots are in use
    rw [List.take_append_of_le_length hge, ← hcaptured, if_pos]
    right
    rw [hcaptured, List.length_take]
    omega

theorem shown_concat (hist : List Simgen) (g : Simgen) :
    shown (hist ++ [g]) = shown hist ++ (g.geterrorcodes.map fun geterrorcodes =>
      ((geterrorcodes 0).errorcount, g.getvalue 0x01)).toList := by
  unfold shown
  rw [List.filterMap_append]
  cases hcodes : g.geterrorcodes <;> simp [hcodes]

/-- **A tick of the log** is the log of the longer history. -/
theorem tick_ofHistory (hist : List Simgen) (g : Simgen) :
    (FrameLog.ofHistory (shown hist)).tick g = FrameLog.ofHistory (shown (hist ++ [g])) := by
  rw [shown_concat]
  generalize shown hist = h
  unfold FrameLog.tick
  cases g.geterrorcodes with
  | none => exact congrArg FrameLog.ofHistory (List.append_nil h).symm
  | some geterrorcodes =>
    show (if (geterrorcodes 0).errorcount = 0 then FrameLog.empty
      else if lastCount 0 (captured h) = (geterrorcodes 0).errorcount ∨
          obdsimMaxfreezeframes ≤ ((captured h).map Prod.snd).length then FrameLog.ofHistory h
      else ⟨(geterrorcodes 0).errorcount, (captured h).map Prod.snd ++ [g.getvalue 0x01]⟩) =
        FrameLog.ofHistory (h ++ [((geterrorcodes 0).errorcount, g.getvalue 0x01)])
    by_cases hzero : (geterrorcodes 0).errorcount = 0
    · have hclear : sinceClear (h ++ [((geterrorcodes 0).errorcount, g.getvalue 0x01)]) = [] :=
        List.rtakeWhile_concat_neg _ _ _ (by simpa using hzero)
      rw [if_pos hzero, FrameLog.ofHistory, captured, hclear]
      rfl
    · rw [if_neg hzero, List.length_map, FrameLog.ofHistory, FrameLog.ofHistory,
        captured_concat hzero]
      split
      · rfl
      · simp [lastCount]

/-- **The log is a function of the history**: what an ECU has captured is
computed from what its generator has shown at the ticks so far. -/
theorem frameLog_eq (ticks : List (Nat → Simgen)) (i : Nat) :
    frameLog ticks i = FrameLog.ofHistory (shown (ticks.map fun gens => gens i)) := by
  unfold frameLog
  generalize ticks.map (fun gens => gens i) = hist
  induction hist using List.reverseRecOn with
  | nil => rfl
  | append_singleton hist g ih => rw [List.foldl_concat, ih, tick_ofHistory]

/-- A tick with errors leaves the slots in use alone. -/
theorem freezeTick_slots {e : ObdgenEcu} {g : Simgen}
    (h : ∀ geterrorcodes, g.geterrorcodes = some geterrorcodes →
      (geterrorcodes 0).errorcount ≠ 0) :
    e.ffcount ≤ (freezeTick g e).ffcount ∧ ∀ k < e.ffcount, (freezeTick g e).ff k = e.ff k := by
  unfold freezeTick
  cases hcodes : g.geterrorcodes with
  | none => exact ⟨Int.le_refl _, fun k _ => rfl⟩
  | some geterrorcodes =>
    dsimp only
    rw [if_neg (h _ hcodes)]
    split
    · exact ⟨Int.le_refl _, fun k _ => rfl⟩
    · split
      · exact ⟨Int.le_refl _, fun k _ => rfl⟩
      · refine ⟨?_, fun k hk => if_neg (Int.ne_of_lt hk)⟩
        show e.ffcount ≤ e.ffcount + 1
        omega

theorem foldl_slots : ∀ (ticks : List Simgen) (e : ObdgenEcu),
    (∀ g ∈ ticks, ∀ geterrorcodes, g.geterrorcodes = some geterrorcodes →
      (geterrorcodes 0).errorcount ≠ 0) →
    ∀ k < e.ffcount, (ticks.foldl (fun e g => freezeTick g e) e).ff k = e.ff k
  | [], _, _, _, _ => rfl
  | g :: ticks, e, h, k, hk => by
    obtain ⟨hle, hslots⟩ := freezeTick_slots (e := e) (h g (List.mem_cons_self ..))
    rw [List.foldl_cons, foldl_slots ticks _ (fun g hg => h g (List.mem_cons_of_mem _ hg)) k
      (Int.lt_of_lt_of_le hk hle), hslots k hk]

/-- **Freeze-frame capture.** After any ticks the counter of an ECU is in range,
is 0 exactly when the last count is, and counts the slots that hold the frames
captured by the history, in order; and further ticks without a count of 0 leave
these slots as they are. -/
theorem freezeframes_history {ss : SimSettings} (h : NoFrames ss)
    (ticks : List (Nat → Simgen)) {i : Nat} {e : ObdgenEcu}
    (he : (ss.ticks ticks).ecus[i]? = some e) :
    (0 ≤ e.ffcount ∧ e.ffcount ≤ obdsimMaxfreezeframes) ∧
      (e.ffcount = 0 ↔ e.lasterrorcount = 0) ∧
      e.ffcount = (captured (shown (ticks.map fun gens => gens i))).length ∧
      (∀ (k : Nat) (t : Shown), (captured (shown (ticks.map fun gens => gens i)))[k]? = some t →
        ∀ pid < obdcmdsMode1.length,
          (e.ff k).values pid = (t.2 pid).abcd ∧ (e.ff k).valuecount pid = (t.2 pid).count) ∧
      ∀ (more : List (Nat → Simgen)) (e' : ObdgenEcu),
        (∀ gens ∈ more, ∀ geterrorcodes, (gens i).geterrorcodes = some geterrorcodes →
          (geterrorcodes 0).errorcount ≠ 0) →
        (ss.ticks (ticks ++ more)).ecus[i]? = some e' →
        ∀ k < e.ffcount, e'.ff k = e.ff k := by
  have hfrozen := ticks_frozen h he
  rw [frameLog_eq] at hfrozen
  have hcount : e.ffcount = (captured (shown (ticks.map fun gens => gens i))).length := by
    rw [hfrozen.count]
    exact congrArg Nat.cast (List.length_map ..)
  have hroom : e.ffcount ≤ obdsimMaxfreezeframes := by
    rw [hfrozen.count]
    exact hfrozen.room
  refine ⟨⟨by omega, hroom⟩, ?_, hcount, fun k t ht pid hpid => ?_, fun more e' hmore he' k hk => ?_⟩
  · -- a capture has errors, so the last count is 0 only without one
    rw [hcount, hfrozen.last, Int.natCast_eq_zero, List.length_eq_zero_iff]
    show _ ↔ lastCount 0 (captured _) = 0
    cases hlast : (captured (shown (ticks.map fun gens => gens i))).getLast? with
    | none =>
      rw [List.getLast?_eq_none_iff.mp hlast]
      exact iff_of_true rfl rfl
    | some t =>
      have hne := captured_ne_zero (List.mem_of_getLast? hlast)
      refine iff_of_false ?_ ?_
      · intro hnil
        rw [hnil] at hlast
        cases hlast
      · rw [lastCount, hlast]
        exact hne
  · -- a slot holds the frame that was captured as the k-th
    refine hfrozen.slots k t.2 ?_ pid hpid
    show (List.map Prod.snd _)[k]? = some t.2
    rw [List.getElem?_map, ht]
    rfl
  · -- without a count of 0 no tick writes to a slot below the counter
    rw [ticks_ecus] at he he'
    obtain ⟨e₀, he₀, rfl⟩ := Option.map_eq_some_iff.mp he
    rw [he₀, Option.map_some, List.map_append, List.foldl_append] at he'
    obtain rfl := Option.some.inj he'
    refine foldl_slots _ _ ?_ k hk
    intro g hg
    obtain ⟨gens, hgens, rfl⟩ := List.mem_map.mp hg
    exact hmore gens hgens

/-- A generator with so many errors, all of whose values are `v`. -/
def erring (errors : Int) (v : Nat) : Simgen :=
  ⟨fun _ _ => ⟨1, fun _ => v⟩, some fun _ => ⟨errors, fun _ => 0⟩⟩

/-- An error, two, none, and an error that stays before another comes: the
second frame since the clear is that of the last tick. -/
theorem freezeframes_cleared : ∃ e : ObdgenEcu, e.ffcount = 2 ∧
    (e.ff 0).values 0x0C 0 = 13 ∧ (e.ff 1).values 0x0C 0 = 15 ∧
    (oneEcu.ticks ([erring 1 10, erring 2 11, erring 0 12, erring 1 13, erring 1 14,
      erring 2 15].map fun g _ => g)).ecus[0]? = some e := by
  have hnone : NoFrames oneEcu := by decide
  obtain ⟨-, -, hcount, hslots, -⟩ := freezeframes_history hnone
    ([erring 1 10, erring 2 11, erring 0 12, erring 1 13, erring 1 14,
      erring 2 15].map fun g _ => g) (i := 0) rfl
  have hfirst := (hslots 0 _ rfl 0x0C (by decide)).1
  have hsecond := (hslots 1 _ rfl 0x0C (by decide)).1
  exact ⟨_, hcount, congrFun hfirst 0, congrFun hsecond 0, rfl⟩

end ObdGpsLogger.Sim
