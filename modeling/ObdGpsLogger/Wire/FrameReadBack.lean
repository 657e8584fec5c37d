import ObdGpsLogger.Sim.EcuDelay
import ObdGpsLogger.Sim.FreezeFrame
import ObdGpsLogger.Wire.Reply

/-!
# Reading freeze frames back

A mode 02 request asks every ECU for a value out of a frozen frame. The
simulator looks at the wrong slots (`frame <= ffcount`, and a frame number
may be negative), and its reply starts with the mode of the request instead of
the mode with `0x40` added, so the logger turns every reply down
(`frame_reply_rejected`). What is left is the case that no reply is due, and
`frames_readBack_iff` says exactly when.
-/

namespace ObdGpsLogger.Wire

open CLib Obdcomm Obdinfo Sim

/-- The log has a value for the PID in frame `f`. -/
def HasValue (l : FrameLog) (pid : Nat) (f : Int) : Prop :=
  0 ≤ f ∧ ∃ fr, l.frames[f.toNat]? = some fr ∧ 0 < (fr pid).count

/-- What mode 02 should do for an ECU: answer if there is a value, look at no
slot but that of a captured frame, and send what the logger reads back as the
frame number and the bytes captured. -/
def FrameReadBack (eHeaders : Int) (l : FrameLog) (pid : Nat) (f : Int) (a : FrameAnswer) :
    Prop :=
  (a.response.isSome ↔ HasValue l pid f) ∧
    (∀ slot, a.slot = some slot → slot = f ∧ 0 ≤ f ∧ f < l.frames.length) ∧
    (eHeaders = 0 → ∀ r, a.response = some r → ∃ fr, l.frames[f.toNat]? = some fr ∧
      parseobdline r 0x02 pid localRetsSize =
        ⟨.success, f.toNat :: (fr pid).bytes, (f.toNat :: (fr pid).bytes).length⟩)

/-- The number is past the slots the simulator looks at, or it is that of a
captured frame, with no value in it unless headers are on. -/
def NothingDue (eHeaders : Int) (l : FrameLog) (pid : Nat) (f : Int) : Prop :=
  obdsimMaxfreezeframes ≤ f ∨ l.frames.length < f ∨
    0 ≤ f ∧ f < l.frames.length ∧ (eHeaders = 0 → ¬ HasValue l pid f)

/-- **The logger accepts no reply**: with headers off, each starts with `02`. -/
theorem frame_reply_rejected {ss : SimSettings} (hheaders : ss.eHeaders = 0) (ecuNum pid : Nat)
    (f : Int) (fr : Freezeframe) :
    (parseobdline (snprintf responseSize (ss.header ecuNum 7 ++ ffmessage ss 0x02 pid f fr)) 0x02
      pid localRetsSize).status ≠ .success := by
  have hheader : ss.header ecuNum 7 = [] := by
    rw [SimSettings.header, if_neg (by simp [hheaders])]
  have hlen : (fmtX 2 0x02).length = 2 := fmtX_byte_length (by decide)
  rw [hheader, List.nil_append, ffmessage]
  split
  · rw [List.append_assoc, List.append_assoc, List.append_assoc, List.append_assoc,
      snprintf_append (by rw [hlen]; decide), snprintf_append (by rw [hlen]; decide)]
    exact parseobdline_other (by decide) (by decide) (by decide) _
  · have hret : (sscanf (hexPairs (countSub 0x02 + 20)) []).ret = -1 := by decide
    simp [parseobdline, snprintf, hret]

theorem HasValue.lt {l : FrameLog} {pid : Nat} {f : Int} (h : HasValue l pid f) :
    0 ≤ f ∧ f < l.frames.length := by
  obtain ⟨h0, fr, hfr, -⟩ := h
  obtain ⟨hlt, -⟩ := List.getElem?_eq_some_iff.mp hfr
  exact ⟨h0, by omega⟩

/-- A captured frame has its values in its slot. -/
theorem hasValue_iff {e : ObdgenEcu} {l : FrameLog} (h : Frozen e l) {pid : Nat}
    (hpid : pid < obdcmdsMode1.length) {f : Int} (h0 : 0 ≤ f) (hlt : f < l.frames.length) :
    HasValue l pid f ↔ 0 < (e.ff f).valuecount pid := by
  have hget := List.getElem?_eq_getElem (by omega : f.toNat < l.frames.length)
  have hslot := (h.slots f.toNat _ hget pid hpid).2
  rw [Int.toNat_of_nonneg h0] at hslot
  rw [HasValue, hget, hslot]
  simp [h0]

/-- The answer of one ECU to a request for a freeze frame: it is read back
exactly if nothing is due for that frame. -/
theorem frameAnswer_iff (ss : SimSettings) {e : ObdgenEcu} {l : FrameLog} (h : Frozen e l)
    {pid : Nat} (hpid : pid < obdcmdsMode1.length) (f : Int) :
    FrameReadBack ss.eHeaders l pid f (frameAnswer ss 0x02 pid f e) ↔
      NothingDue ss.eHeaders l pid f := by
  have hroom := h.room
  have hcount := h.count
  unfold frameAnswer
  by_cases hread : f < obdsimMaxfreezeframes ∧ f ≤ e.ffcount
  · -- a slot is read: it must be a captured one, and its reply is never read back
    rw [if_pos hread]
    constructor
    · intro ⟨hresp, hslot, hparse⟩
      obtain ⟨-, h0, hlt⟩ := hslot f rfl
      refine Or.inr (Or.inr ⟨h0, hlt, fun hheaders hv => ?_⟩)
      obtain ⟨r, hr⟩ := Option.isSome_iff_exists.mp (hresp.mpr hv)
      obtain ⟨fr, -, hok⟩ := hparse hheaders r hr
      dsimp only at hr
      rw [if_pos ((hasValue_iff h hpid h0 hlt).mp hv)] at hr
      injection hr with hr
      have hstatus := congrArg ParsedLine.status hok
      exact frame_reply_rejected hheaders e.ecuNum pid f (e.ff f) (hr ▸ hstatus)
    · intro hnone
      have hcaptured : 0 ≤ f ∧ f < l.frames.length ∧ (ss.eHeaders = 0 → ¬ HasValue l pid f) := by
        rcases hnone with hmax | hlt | hdue
        · omega
        · omega
        · exact hdue
      obtain ⟨h0, hlt, hno⟩ := hcaptured
      have hvalue := hasValue_iff h hpid h0 hlt
      refine ⟨?_, fun slot hs => ⟨(Option.some.inj hs).symm, h0, hlt⟩, fun hheaders r hr => ?_⟩
      · rw [hvalue]
        dsimp only
        split <;> simp_all
      · have hneg := (not_congr hvalue).mp (hno hheaders)
        dsimp only at hr
        rw [if_neg hneg] at hr
        cases hr
  · -- no slot is read, and none should be
    rw [if_neg hread]
    have hpast : obdsimMaxfreezeframes ≤ f ∨ l.frames.length < f := by omega
    have hno : ¬ HasValue l pid f := fun hv => by
      have := hv.lt
      omega
    refine iff_of_true ⟨?_, nofun, nofun⟩ ?_
    · simpa using hno
    · rcases hpast with hmax | hlt
      · exact Or.inl hmax
      · exact Or.inr (Or.inl hlt)

/-- The frame a request asks for: the third value, as an `int`, or 0. -/
def askedFrame (rest : List Nat) : Int := toInt32 (rest.headD 0)

/-- **When freeze frames read back.** After any ticks of
`obdsim_freezeframes`, a mode 02 request for a known PID and a frame number
gets the answers of the ECUs one by one, and each is what it should be if and
only if no ECU has a reply to send that the logger would read, and the frame
number leads to no slot without a captured frame. -/
theorem frames_readBack_iff {ss : SimSettings} (hnone : NoFrames ss)
    (ticks : List (Nat → Simgen)) (gens : Nat → Simgen) {line : List Char} {pid : Nat}
    {rest : List Nat} (hline : (sscanf requestFormat line).vals = 0x02 :: pid :: rest)
    (hpid : (obdGetCmdForPID pid).isSome) :
    (handle (ss.ticks ticks) gens line).responses =
        ((ss.ticks ticks).ecus.filterMap fun e =>
          (frameAnswer (ss.ticks ticks) 0x02 pid (askedFrame rest) e).response) ∧
      ((∀ i e, (ss.ticks ticks).ecus[i]? = some e →
          FrameReadBack ss.eHeaders (frameLog ticks i) pid (askedFrame rest)
            (frameAnswer (ss.ticks ticks) 0x02 pid (askedFrame rest) e)) ↔
        ∀ i < ss.ecuCount, NothingDue ss.eHeaders (frameLog ticks i) pid (askedFrame rest)) := by
  have hrow : pid < obdcmdsMode1.length :=
    Nat.lt_of_lt_of_le (obdGetCmdForPID_isSome_iff.mp hpid) (by decide)
  have hone : ∀ i e, (ss.ticks ticks).ecus[i]? = some e →
      (FrameReadBack ss.eHeaders (frameLog ticks i) pid (askedFrame rest)
          (frameAnswer (ss.ticks ticks) 0x02 pid (askedFrame rest) e) ↔
        NothingDue ss.eHeaders (frameLog ticks i) pid (askedFrame rest)) := by
    intro i e he
    have hframe := frameAnswer_iff (ss.ticks ticks) (ticks_frozen hnone he) hrow
      (askedFrame rest)
    rwa [ticks_eHeaders] at hframe
  refine ⟨?_, fun h i hi => ?_, fun h i e he => (hone i e he).mpr (h i ?_)⟩
  · -- the loop over the ECUs writes one answer after the other
    obtain ⟨cmd, hcmd⟩ := Option.isSome_iff_exists.mp hpid
    rw [handle_of_vals hline, request2, hcmd]
    rfl
  · -- the ticks leave the number of ECUs alone
    obtain ⟨e, he⟩ : ∃ e, (ss.ticks ticks).ecus[i]? = some e := by
      rw [ticks_ecus, List.getElem?_eq_getElem hi]
      exact ⟨_, rfl⟩
    exact (hone i e he).mp (h i e he)
  · rw [ticks_ecus] at he
    obtain ⟨e₀, he₀, -⟩ := Option.map_eq_some_iff.mp he
    exact (List.getElem?_eq_some_iff.mp he₀).1

/-- A generator with one trouble code and an engine speed. -/
def oneCode : Simgen :=
  ⟨fun _ _ => ⟨2, fun _ => 0x42⟩, some fun _ => ⟨1, fun _ => 0x01⟩⟩

/-- A captured value does not come back: the reply starts with `02`. -/
theorem frames_lost : ¬ ∀ (ss : SimSettings) (ticks : List (Nat → Simgen)) (line : List Char)
    (pid : Nat) (rest : List Nat), NoFrames ss →
    (sscanf requestFormat line).vals = 0x02 :: pid :: rest → (obdGetCmdForPID pid).isSome →
    ∀ i e, (ss.ticks ticks).ecus[i]? = some e →
      FrameReadBack ss.eHeaders (frameLog ticks i) pid (askedFrame rest)
        (frameAnswer (ss.ticks ticks) 0x02 pid (askedFrame rest) e) := by
  intro h
  have hread := h oneEcu [fun _ => oneCode] ['0', '2', '0', 'C', '0', '0'] 0x0C [0] (by decide)
    (by decide) (by decide) 0 _ rfl
  obtain ⟨fr, -, hok⟩ := hread.2.2 rfl _ rfl
  exact frame_reply_rejected rfl _ _ _ _ (congrArg ParsedLine.status hok)

/-- A frame that was not captured is not sent: an ECU with one captured frame
has no answer for frame 3. -/
theorem frames_none : FrameReadBack 0 (frameLog [fun _ => oneCode] 0) 0x0C 3
    (frameAnswer (oneEcu.ticks [fun _ => oneCode]) 0x02 0x0C 3
      (freezeTick oneCode obdsimInitialiseecu)) := by
  have h := (frames_readBack_iff (by decide : NoFrames oneEcu) [fun _ => oneCode]
    (fun _ => oneCode)
    (by decide : (sscanf requestFormat ['0', '2', '0', 'C', '3']).vals = [0x02, 0x0C, 3])
    (by decide)).2.mpr fun i hi => Or.inr (Or.inl ?_)
  · exact h 0 _ rfl
  · obtain rfl : i = 0 := Nat.lt_one_iff.mp hi
    decide

end ObdGpsLogger.Wire
