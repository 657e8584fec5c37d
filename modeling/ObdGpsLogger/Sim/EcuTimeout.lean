import Mathlib.Data.List.Chain
import Mathlib.Order.Lattice
import ObdGpsLogger.Sim.EcuDelay
import ObdGpsLogger.Sim.MainLoop

/-!
# Which ECUs a mode 01 request asks

`ecudelay_order` leaves differences of sorted delays, and the main loop adds
them up again to see which ECUs answer within `e_timeout`. As long as every
ECU is in time the sum is the delay of the last one asked. But a late ECU is
skipped *without* adding its difference, so from then on the sum lags behind,
and an ECU is asked as soon as it comes within the remaining time of its
predecessor, however late it is itself.

`ecuLoop_inTime` follows the loop up to the first late ECU, and
`ecuLoop_late_iff` says when it asks none from there on: the remaining time
must be shorter than every gap between late ECUs. A generator that answers -1
ends the loop (`ecuLoop_exit`). Together they give `onTime_iff`.
-/

namespace ObdGpsLogger.Sim

open CLib Obdinfo

/-- The delay `ss->ecus[i].customdelay` of an ECU. -/
def SimSettings.customdelay (ss : SimSettings) (i : Nat) : Int :=
  (ss.ecus.map ObdgenEcu.customdelay).getD i 0

/-- What a request should do: ask the ECUs that are in time, in the order of
their delays, and wait for the slowest of them. -/
def OnTime (ss : SimSettings) (h : Handled) : Prop :=
  (∀ i < ss.ecuCount, i ∈ h.queried ↔ ss.customdelay i ≤ ss.eTimeout) ∧
    (h.queried.map ss.customdelay).Pairwise (· ≤ ·) ∧
    h.accumulatedTime = (h.queried.map ss.customdelay).foldr max 0

/-- The entries up to the first late one, before the differences are taken. -/
def SimSettings.inTime (ss : SimSettings) : List ObdgenEcudelay :=
  (sortedOrder (ss.ecus.map ObdgenEcu.customdelay)).filter fun d => d.delay ≤ ss.eTimeout

/-- The time left when the slowest ECU in time has answered. -/
def SimSettings.remaining (ss : SimSettings) : Int :=
  ss.eTimeout -
    ((ss.ecus.map ObdgenEcu.customdelay).filter fun c => c ≤ ss.eTimeout).foldr max 0

/-- The delays that are longer than the timeout. -/
def SimSettings.lateDelays (ss : SimSettings) : List Int :=
  (ss.ecus.map ObdgenEcu.customdelay).filter fun c => ss.eTimeout < c

/-- The generator makes the simulator exit. -/
def Exits (gens : Nat → Simgen) (mode pid : Nat) (d : ObdgenEcudelay) : Prop :=
  ((gens d.ecu).getvalue mode pid).count = -1

instance (gens : Nat → Simgen) (mode pid : Nat) (d : ObdgenEcudelay) :
    Decidable (Exits gens mode pid d) :=
  inferInstanceAs (Decidable (_ = _))

/-- No generator stops the loop before the last ECU in time, and if none stops
it at all, the late ECUs are further apart than the time left. -/
def Punctual (ss : SimSettings) (gens : Nat → Simgen) (pid : Nat) : Prop :=
  (∀ d ∈ ss.inTime.dropLast, ¬ Exits gens 0x01 pid d) ∧
    ((∃ d ∈ ss.inTime, Exits gens 0x01 pid d) ∨
      ss.lateDelays.Pairwise fun a b => ss.remaining < (a - b).natAbs)

instance (ss : SimSettings) (gens : Nat → Simgen) (pid : Nat) :
    Decidable (Punctual ss gens pid) :=
  inferInstanceAs (Decidable (_ ∧ _))

instance (ss : SimSettings) (h : Handled) : Decidable (OnTime ss h) :=
  inferInstanceAs (Decidable (_ ∧ _))

variable {ss : SimSettings} {gens : Nat → Simgen} {mode pid : Nat}

/-! ## One pass of the loop -/

/-- An entry of the list that is later than the timeout is passed over: the loop
goes on as if it were not there. -/
theorem ecuLoop_skip {acc : Int} {d : ObdgenEcudelay} (h : ss.eTimeout < acc + d.delay)
    (ds : List ObdgenEcudelay) :
    ecuLoop ss gens mode pid acc (d :: ds) = ecuLoop ss gens mode pid acc ds := by
  rw [ecuLoop, if_pos h]

/-- An entry in time is asked, and the loop goes on. -/
theorem ecuLoop_ask {acc : Int} {d : ObdgenEcudelay} (h : acc + d.delay ≤ ss.eTimeout)
    (hx : ¬ Exits gens mode pid d) (ds : List ObdgenEcudelay) :
    (ecuLoop ss gens mode pid acc (d :: ds)).queried =
        d.ecu :: (ecuLoop ss gens mode pid (acc + d.delay) ds).queried ∧
      (ecuLoop ss gens mode pid acc (d :: ds)).accumulatedTime =
        (ecuLoop ss gens mode pid (acc + d.delay) ds).accumulatedTime := by
  unfold Exits at hx
  rw [ecuLoop, if_neg (by omega)]
  dsimp only
  rw [if_neg hx]
  exact ⟨rfl, rfl⟩

/-- An entry in time that exits is the last one asked. -/
theorem ecuLoop_exit {acc : Int} {d : ObdgenEcudelay} (h : acc + d.delay ≤ ss.eTimeout)
    (hx : Exits gens mode pid d) (ds : List ObdgenEcudelay) :
    (ecuLoop ss gens mode pid acc (d :: ds)).queried = [d.ecu] ∧
      (ecuLoop ss gens mode pid acc (d :: ds)).accumulatedTime = acc + d.delay := by
  unfold Exits at hx
  rw [ecuLoop, if_neg (by omega)]
  dsimp only
  rw [if_pos hx]
  exact ⟨rfl, rfl⟩

/-- The ECUs that a request asks are ECUs of the list, in the order of the list. -/
theorem ecuLoop_queried_sublist : ∀ (acc : Int) (ds : List ObdgenEcudelay),
    (ecuLoop ss gens mode pid acc ds).queried.Sublist (ds.map ObdgenEcudelay.ecu)
  | _, [] => List.Sublist.refl _
  | acc, d :: ds => by
    by_cases h : ss.eTimeout < acc + d.delay
    · rw [ecuLoop_skip h]
      exact (ecuLoop_queried_sublist acc ds).cons _
    · by_cases hx : Exits gens mode pid d
      · rw [(ecuLoop_exit (by omega) hx ds).1]
        exact (List.nil_sublist _).cons_cons _
      · rw [(ecuLoop_ask (by omega) hx ds).1]
        exact (ecuLoop_queried_sublist _ ds).cons_cons _

/-- The responses of a request: a line for each ECU that was asked and has a
value, in the order in which they were asked. -/
theorem ecuLoop_responses : ∀ (acc : Int) (ds : List ObdgenEcudelay),
    (ecuLoop ss gens mode pid acc ds).responses =
      (ecuLoop ss gens mode pid acc ds).queried.filterMap fun i =>
        if 0 < ((gens i).getvalue mode pid).count then
          some (valueLine ss (ss.ecuNum i) mode pid ((gens i).getvalue mode pid))
        else none
  | _, [] => rfl
  | acc, d :: ds => by
    by_cases h : ss.eTimeout < acc + d.delay
    · rw [ecuLoop_skip h]
      exact ecuLoop_responses acc ds
    · have ih := ecuLoop_responses (acc + d.delay) ds
      rw [ecuLoop, if_neg h]
      dsimp only
      by_cases hx : ((gens d.ecu).getvalue mode pid).count = -1
      · rw [if_pos hx]
        simp [hx]
      · rw [if_neg hx]
        dsimp only
        rw [List.filterMap_cons]
        split
        · exact congrArg _ ih
        · exact ih

/-! ## The ECUs in time -/

/-- The delay of the last entry, or `acc`. -/
def lastDelay (acc : Int) (ds : List ObdgenEcudelay) : Int :=
  ds.foldl (fun _ d => d.delay) acc

theorem lastDelay_concat (acc : Int) (ds : List ObdgenEcudelay) (d : ObdgenEcudelay) :
    lastDelay acc (ds ++ [d]) = d.delay := by
  simp [lastDelay]

/-- **Up to the first late ECU** the sum is the delay itself, and every ECU is
asked. -/
theorem ecuLoop_inTime : ∀ (ws : List ObdgenEcudelay) (acc : Int) (ds : List ObdgenEcudelay),
    (∀ d ∈ ws, d.delay ≤ ss.eTimeout ∧ ¬ Exits gens mode pid d) →
    (ecuLoop ss gens mode pid acc (deltas acc (ws ++ ds))).queried =
        ws.map ObdgenEcudelay.ecu ++
          (ecuLoop ss gens mode pid (lastDelay acc ws) (deltas (lastDelay acc ws) ds)).queried ∧
      (ecuLoop ss gens mode pid acc (deltas acc (ws ++ ds))).accumulatedTime =
        (ecuLoop ss gens mode pid (lastDelay acc ws)
          (deltas (lastDelay acc ws) ds)).accumulatedTime
  | [], _, _, _ => ⟨rfl, rfl⟩
  | w :: ws, acc, ds, h => by
    obtain ⟨hle, hx⟩ := h w (List.mem_cons_self ..)
    have hsum : acc + (w.delay - acc) = w.delay := by omega
    have hle' : acc + (w.delay - acc) ≤ ss.eTimeout := by omega
    have hask := ecuLoop_ask (d := { w with delay := w.delay - acc }) hle' hx
      (deltas w.delay (ws ++ ds))
    have ih := ecuLoop_inTime ws w.delay ds fun d hd => h d (List.mem_cons_of_mem _ hd)
    dsimp only at hask
    rw [hsum] at hask
    rw [List.cons_append, deltas]
    exact ⟨by rw [hask.1, ih.1]; rfl, by rw [hask.2, ih.2]; rfl⟩

/-! ## The late ECUs -/

/-- The loop past the first late ECU: it asks none exactly if each gap is
longer than the time left; then the sum stays. -/
theorem ecuLoop_late_iff (ss : SimSettings) (gens : Nat → Simgen) (mode pid : Nat) (acc : Int) :
    ∀ (before : Int) (ds : List ObdgenEcudelay),
    ((ecuLoop ss gens mode pid acc (deltas before ds)).queried = [] ↔
        List.IsChain (fun a b => ss.eTimeout - acc < b - a)
          (before :: ds.map ObdgenEcudelay.delay)) ∧
      ((ecuLoop ss gens mode pid acc (deltas before ds)).queried = [] →
        (ecuLoop ss gens mode pid acc (deltas before ds)).accumulatedTime = acc)
  | _, [] => ⟨by simp [deltas, ecuLoop], fun _ => rfl⟩
  | before, d :: ds => by
    rw [deltas, List.map_cons, List.isChain_cons_cons]
    by_cases h : ss.eTimeout < acc + (d.delay - before)
    · -- skipped, and the difference is not added to the sum
      rw [ecuLoop_skip (d := { d with delay := d.delay - before }) h]
      have ih := ecuLoop_late_iff ss gens mode pid acc d.delay ds
      have hgap : ss.eTimeout - acc < d.delay - before := by omega
      exact ⟨by rw [ih.1]; simp [hgap], ih.2⟩
    · -- within the time left of its predecessor: it is asked, late or not
      have hgap : ¬ ss.eTimeout - acc < d.delay - before := by omega
      have hne : (ecuLoop ss gens mode pid acc
          ({ d with delay := d.delay - before } :: deltas d.delay ds)).queried ≠ [] := by
        have hle : acc + ({ d with delay := d.delay - before } : ObdgenEcudelay).delay
            ≤ ss.eTimeout := by
          dsimp only
          omega
        by_cases hx : Exits gens mode pid { d with delay := d.delay - before }
        · rw [(ecuLoop_exit hle hx _).1]
          exact List.cons_ne_nil _ _
        · rw [(ecuLoop_ask hle hx _).1]
          exact List.cons_ne_nil _ _
      exact ⟨iff_of_false hne fun hc => hgap hc.1, fun he => absurd he hne⟩

/-! ## The sorted delays -/

/-- A sorted list is its part in time followed by its late part. -/
theorem sorted_split (t : Int) : ∀ {ds : List ObdgenEcudelay},
    (ds.Pairwise fun a b => a.delay ≤ b.delay) →
    ds = (ds.filter fun d => d.delay ≤ t) ++ ds.filter fun d => t < d.delay
  | [], _ => rfl
  | d :: ds, h => by
    rw [List.pairwise_cons] at h
    by_cases hd : d.delay ≤ t
    · have hnlt : ¬ t < d.delay := by omega
      simpa [hd, hnlt] using sorted_split t h.2
    · have hnone : (ds.filter fun d => d.delay ≤ t) = [] := by
        refine List.filter_eq_nil_iff.mpr fun e he => ?_
        have := h.1 e he
        simpa using (by omega : t < e.delay)
      have hlt : t < d.delay := by omega
      have ih := sorted_split t h.2
      rw [hnone, List.nil_append] at ih
      simpa [hd, hlt, hnone] using ih

/-- In a sorted list the last delay is the largest of all. -/
theorem lastDelay_eq_foldr : ∀ {ds : List ObdgenEcudelay} (acc : Int),
    (ds.Pairwise fun a b => a.delay ≤ b.delay) → (∀ d ∈ ds, acc ≤ d.delay) →
    lastDelay acc ds = (ds.map ObdgenEcudelay.delay).foldr max acc
  | [], _, _, _ => rfl
  | d :: ds, acc, hsorted, hle => by
    rw [List.pairwise_cons] at hsorted
    have ih := lastDelay_eq_foldr d.delay hsorted.2 hsorted.1
    have hmax : ∀ cs : List Int, cs.foldr max d.delay = max d.delay (cs.foldr max acc) := by
      intro cs
      induction cs with
      | nil =>
        have := hle d (List.mem_cons_self ..)
        simp only [List.foldr_nil]
        omega
      | cons c cs ihc =>
        simp only [List.foldr_cons, ihc]
        omega
    rw [List.map_cons, List.foldr_cons, ← hmax, ← ih]
    rfl

/-- Neighbours that are more than `g` apart make a sorted list spread out. -/
theorem isChain_iff_spread {g : Int} (hg : 0 ≤ g) {cs : List Int}
    (hsorted : cs.Pairwise (· ≤ ·)) :
    List.IsChain (fun a b => g < b - a) cs ↔ cs.Pairwise fun a b => g < (a - b).natAbs := by
  have htrans : Trans (fun a b : Int => g < b - a) (fun a b => g < b - a)
      (fun a b => g < b - a) := ⟨fun h₁ h₂ => by omega⟩
  rw [List.isChain_iff_pairwise]
  constructor
  · exact fun h => h.imp fun hab => by omega
  · exact fun h => (h.and hsorted).imp fun hab => by omega

/-! ## The whole request -/

/-- The late entries, before the differences are taken. -/
def SimSettings.late (ss : SimSettings) : List ObdgenEcudelay :=
  (sortedOrder (ss.ecus.map ObdgenEcu.customdelay)).filter fun d => ss.eTimeout < d.delay

theorem inTime_append_late (ss : SimSettings) :
    ss.inTime ++ ss.late = sortedOrder (ss.ecus.map ObdgenEcu.customdelay) :=
  (sorted_split _ (sortedOrder_sorted _)).symm

/-- An entry of the order in which ECUs are asked names an ECU of the settings,
with the delay that was set for it. -/
theorem mem_order {d : ObdgenEcudelay} :
    d ∈ sortedOrder (ss.ecus.map ObdgenEcu.customdelay) ↔
      d.ecu < ss.ecuCount ∧ ss.customdelay d.ecu = d.delay := by
  have hlen : (ss.ecus.map ObdgenEcu.customdelay).length = ss.ecuCount := List.length_map _
  rw [mem_sortedOrder, SimSettings.customdelay, List.getD_eq_getElem?_getD]
  constructor
  · intro h
    obtain ⟨hi, -⟩ := List.getElem?_eq_some_iff.mp h
    exact ⟨hlen ▸ hi, by rw [h]; rfl⟩
  · intro ⟨hi, hd⟩
    rw [List.getElem?_eq_getElem (hlen.symm ▸ hi)] at hd ⊢
    exact congrArg some hd

theorem mem_inTime {d : ObdgenEcudelay} :
    d ∈ ss.inTime ↔ (d.ecu < ss.ecuCount ∧ ss.customdelay d.ecu = d.delay) ∧
      d.delay ≤ ss.eTimeout := by
  rw [SimSettings.inTime, List.mem_filter, mem_order, decide_eq_true_eq]

theorem inTime_sorted (ss : SimSettings) :
    ss.inTime.Pairwise fun a b => a.delay ≤ b.delay :=
  (sortedOrder_sorted _).filter _

theorem late_sorted (ss : SimSettings) : ss.late.Pairwise fun a b => a.delay ≤ b.delay :=
  (sortedOrder_sorted _).filter _

/-- The ECUs in time have in their entries the delays that were set for them. -/
theorem inTime_customdelays (ss : SimSettings) :
    (ss.inTime.map ObdgenEcudelay.ecu).map ss.customdelay =
      ss.inTime.map ObdgenEcudelay.delay := by
  rw [List.map_map]
  exact List.map_congr_left fun d hd => (mem_inTime.mp hd).1.2

/-- The ECUs in time are those whose delay is within the timeout. -/
theorem mem_inTime_ecus {i : Nat} (hi : i < ss.ecuCount) :
    i ∈ ss.inTime.map ObdgenEcudelay.ecu ↔ ss.customdelay i ≤ ss.eTimeout := by
  rw [List.mem_map]
  constructor
  · rintro ⟨d, hd, rfl⟩
    have h := mem_inTime.mp hd
    rw [h.1.2]
    exact h.2
  · intro h
    exact ⟨⟨i, ss.customdelay i⟩, mem_inTime.mpr ⟨⟨hi, rfl⟩, h⟩, rfl⟩

theorem inTime_nonneg (h : ∀ e ∈ ss.ecus, 0 ≤ e.customdelay) (d : ObdgenEcudelay)
    (hd : d ∈ ss.inTime) : 0 ≤ d.delay := by
  have hmem := List.mem_of_getElem? (mem_sortedOrder.mp (List.mem_filter.mp hd).1)
  obtain ⟨e, he, hdelay⟩ := List.mem_map.mp hmem
  exact hdelay ▸ h e he

/-- The time left when the ECUs in time have answered. -/
theorem remaining_eq (h : ∀ e ∈ ss.ecus, 0 ≤ e.customdelay) :
    ss.remaining = ss.eTimeout - lastDelay 0 ss.inTime := by
  have hperm : (ss.inTime.map ObdgenEcudelay.delay).Perm
      ((ss.ecus.map ObdgenEcu.customdelay).filter fun c => c ≤ ss.eTimeout) := by
    have h := (sortedOrder_delays (ss.ecus.map ObdgenEcu.customdelay)).filter
      fun c => c ≤ ss.eTimeout
    rwa [List.filter_map] at h
  have hlast := lastDelay_eq_foldr 0 (inTime_sorted ss) (inTime_nonneg h)
  rw [SimSettings.remaining, hlast, hperm.foldr_eq]

/-- Asking the ECUs in time and no others is what a request should do. -/
theorem onTime_of_inTime (hnn : ∀ e ∈ ss.ecus, 0 ≤ e.customdelay) {h : Handled}
    (hq : h.queried = ss.inTime.map ObdgenEcudelay.ecu)
    (ht : h.accumulatedTime = lastDelay 0 ss.inTime) : OnTime ss h := by
  refine ⟨fun i hi => ?_, ?_, ?_⟩
  · rw [hq]
    exact mem_inTime_ecus hi
  · rw [hq, inTime_customdelays, List.pairwise_map]
    exact inTime_sorted ss
  · rw [hq, inTime_customdelays, ht]
    exact lastDelay_eq_foldr 0 (inTime_sorted ss) (inTime_nonneg hnn)

/-- The gaps the loop looks at are those between late ECUs. -/
theorem late_chain_iff (hnn : ∀ e ∈ ss.ecus, 0 ≤ e.customdelay) (ht : 0 ≤ ss.eTimeout) :
    List.IsChain (fun a b => ss.eTimeout - lastDelay 0 ss.inTime < b - a)
        (lastDelay 0 ss.inTime :: ss.late.map ObdgenEcudelay.delay) ↔
      ss.lateDelays.Pairwise fun a b => ss.remaining < (a - b).natAbs := by
  have hg : 0 ≤ ss.remaining := by
    rw [remaining_eq hnn, lastDelay_eq_foldr 0 (inTime_sorted ss) (inTime_nonneg hnn)]
    have hfold : ∀ cs : List Int, (∀ c ∈ cs, c ≤ ss.eTimeout) → cs.foldr max 0 ≤ ss.eTimeout := by
      intro cs h
      induction cs with
      | nil => exact ht
      | cons c cs ih =>
        have hc := h c (List.mem_cons_self ..)
        have hcs := ih fun d hd => h d (List.mem_cons_of_mem _ hd)
        simp only [List.foldr_cons]
        omega
    have := hfold (ss.inTime.map ObdgenEcudelay.delay) fun c hc => by
      obtain ⟨d, hd, rfl⟩ := List.mem_map.mp hc
      exact (mem_inTime.mp hd).2
    omega
  -- the chain is over the sorted delays; the pairs do not depend on the order
  have hperm : (ss.late.map ObdgenEcudelay.delay).Perm ss.lateDelays := by
    have h := (sortedOrder_delays (ss.ecus.map ObdgenEcu.customdelay)).filter
      fun c => ss.eTimeout < c
    rwa [List.filter_map] at h
  -- the first link is from the last delay in time, and holds since the next is late
  have hhead : ∀ c ∈ (ss.late.map ObdgenEcudelay.delay).head?,
      ss.eTimeout - lastDelay 0 ss.inTime < c - lastDelay 0 ss.inTime := by
    intro c hc
    obtain ⟨d, hd, rfl⟩ := List.mem_map.mp (List.mem_of_head? hc)
    have := decide_eq_true_iff.mp (List.mem_filter.mp hd).2
    omega
  have hsymm : ∀ {a b : Int}, ss.remaining < (a - b).natAbs → ss.remaining < (b - a).natAbs :=
    fun h => by omega
  rw [← hperm.pairwise_iff hsymm, ← isChain_iff_spread hg
    (by rw [List.pairwise_map]; exact late_sorted ss), List.isChain_cons, remaining_eq hnn]
  exact and_iff_right hhead

/-- The loop over the array that `ecudelay_order` leaves. -/
theorem ecudelayOrder_eq (ss : SimSettings) :
    ecudelayOrder (ss.ecus.map ObdgenEcu.customdelay) = deltas 0 (ss.inTime ++ ss.late) := by
  rw [inTime_append_late]
  rfl

/-- A request that no ECU in time ends is handled on time exactly if no two ECUs
that are late are so near to each other that the second is asked. -/
theorem onTime_noExit_iff (ss : SimSettings) (hnn : ∀ e ∈ ss.ecus, 0 ≤ e.customdelay)
    (ht : 0 ≤ ss.eTimeout) (hx : ∀ d ∈ ss.inTime, ¬ Exits gens mode pid d) :
    OnTime ss (ecuLoop ss gens mode pid 0 (ecudelayOrder (ss.ecus.map ObdgenEcu.customdelay))) ↔
      ss.lateDelays.Pairwise fun a b => ss.remaining < (a - b).natAbs := by
  obtain ⟨hqueried, htime⟩ := ecuLoop_inTime ss.inTime 0 ss.late
    fun d hd => ⟨(mem_inTime.mp hd).2, hx d hd⟩
  have hlate := ecuLoop_late_iff ss gens mode pid (lastDelay 0 ss.inTime)
    (lastDelay 0 ss.inTime) ss.late
  rw [ecudelayOrder_eq, ← late_chain_iff hnn ht, ← hlate.1]
  constructor
  · -- an ECU asked past the first late one is late itself
    intro h
    by_contra hne
    obtain ⟨i, hi⟩ := List.exists_mem_of_ne_nil _ hne
    have hmem := (ecuLoop_queried_sublist _ _).subset hi
    rw [deltas_ecus] at hmem
    obtain ⟨d, hd, rfl⟩ := List.mem_map.mp hmem
    obtain ⟨hd, hdlate⟩ := List.mem_filter.mp hd
    have horder := mem_order.mp hd
    have hasked := (h.1 d.ecu horder.1).mp (hqueried ▸ List.mem_append_right _ hi)
    have := decide_eq_true_iff.mp hdlate
    omega
  · intro h
    refine onTime_of_inTime hnn ?_ (htime.trans (hlate.2 h))
    rw [hqueried, h, List.append_nil]

/-- A request that an ECU in time ends is handled on time exactly if that ECU is
the last of those in time: none behind it is asked. -/
theorem onTime_exit_iff (ss : SimSettings) (hnn : ∀ e ∈ ss.ecus, 0 ≤ e.customdelay)
    {before behind : List ObdgenEcudelay} {d : ObdgenEcudelay}
    (hsplit : ss.inTime = before ++ d :: behind)
    (hx : ∀ e ∈ before, ¬ Exits gens mode pid e) (hd : Exits gens mode pid d) :
    OnTime ss (ecuLoop ss gens mode pid 0 (ecudelayOrder (ss.ecus.map ObdgenEcu.customdelay))) ↔
      behind = [] := by
  have hmem : ∀ e ∈ before ++ d :: behind, e.delay ≤ ss.eTimeout := fun e he =>
    (mem_inTime.mp (hsplit ▸ he)).2
  obtain ⟨hqueried, htime⟩ := ecuLoop_inTime before 0
    (d :: (behind ++ ss.late)) fun e he => ⟨hmem e (List.mem_append_left _ he), hx e he⟩
  have hle : lastDelay 0 before + (d.delay - lastDelay 0 before) ≤ ss.eTimeout := by
    have := hmem d (by simp)
    omega
  obtain ⟨hqueried', htime'⟩ := ecuLoop_exit
    (d := { d with delay := d.delay - lastDelay 0 before }) hle hd
    (deltas d.delay (behind ++ ss.late))
  rw [deltas, hqueried'] at hqueried
  rw [deltas, htime'] at htime
  rw [ecudelayOrder_eq, hsplit, List.append_assoc, List.cons_append]
  constructor
  · -- an ECU in time behind the one that exits should have been asked
    intro h
    by_contra hne
    obtain ⟨e, es, rfl⟩ := List.exists_cons_of_ne_nil hne
    have he := mem_inTime.mp (hsplit ▸ (by simp : e ∈ before ++ d :: e :: es))
    have hasked := (h.1 e.ecu he.1.1).mpr (by rw [he.1.2]; exact he.2)
    have hnodup : (ss.inTime.map ObdgenEcudelay.ecu).Nodup :=
      (sortedOrder_nodup _).sublist (List.filter_sublist.map _)
    rw [hqueried] at hasked
    rw [hsplit, List.append_cons, List.map_append, List.nodup_append] at hnodup
    exact hnodup.2.2 e.ecu (by simpa using hasked) e.ecu (by simp) rfl
  · -- nothing is left to ask, so the wait is that of the last one
    rintro rfl
    refine onTime_of_inTime hnn ?_ ?_
    · rw [hqueried, hsplit, List.map_append]
      rfl
    · rw [htime, hsplit, lastDelay_concat]
      dsimp only
      omega

/-- **When only the ECUs in time answer.** With delays and a timeout that are
not negative, a mode 01 request for a known PID asks exactly the ECUs in time,
in the order of their delays, and waits for the slowest of them, if and only
if no generator ends the loop before its last ECU in time, and the late ECUs
are further apart than the time left. -/
theorem onTime_iff {line : List Char} {rest : List Nat}
    (hnn : ∀ e ∈ ss.ecus, 0 ≤ e.customdelay) (ht : 0 ≤ ss.eTimeout)
    (hline : (sscanf requestFormat line).vals = 0x01 :: pid :: rest)
    (hpid : (obdGetCmdForPID pid).isSome) :
    OnTime ss (handle ss.order gens line) ↔ Punctual ss gens pid := by
  rw [handle_mode1 hline hpid]
  by_cases hx : ∀ d ∈ ss.inTime, ¬ Exits gens 0x01 pid d
  · -- no generator ends the loop: only the gaps decide
    have hloop := onTime_noExit_iff ss.order hnn ht hx
    refine Iff.trans hloop ⟨fun h => ⟨?_, Or.inr h⟩, fun h => ?_⟩
    · exact fun d hd => hx d (List.dropLast_subset _ hd)
    · exact h.2.resolve_left fun ⟨d, hd, he⟩ => hx d hd he
  · -- the first ECU in time whose generator exits
    obtain ⟨before, d, behind, hsplit, hb, hd⟩ : ∃ before d behind,
        ss.inTime = before ++ d :: behind ∧ (∀ e ∈ before, ¬ Exits gens 0x01 pid e) ∧
          Exits gens 0x01 pid d := by
      obtain ⟨d, hfind⟩ := Option.isSome_iff_exists.mp (List.find?_isSome.mpr
        (by simpa using hx : ∃ d ∈ ss.inTime, decide (Exits gens 0x01 pid d) = true))
      obtain ⟨hd, before, behind, hsplit, hb⟩ := List.find?_eq_some_iff_append.mp hfind
      exact ⟨before, d, behind, hsplit, fun e he => by simpa using hb e he, by simpa using hd⟩
    have hloop := onTime_exit_iff ss.order hnn hsplit hb hd
    refine Iff.trans hloop ⟨?_, fun h => ?_⟩
    · rintro rfl
      refine ⟨fun e he => hb e ?_, Or.inl ⟨d, by simp [hsplit], hd⟩⟩
      rwa [hsplit, List.dropLast_concat] at he
    · by_contra hne
      refine h.1 d ?_ hd
      rw [hsplit, List.dropLast_append_of_ne_nil (List.cons_ne_nil _ _),
        List.dropLast_cons_of_ne_nil hne]
      simp

/-- An ECU that answers every PID with one byte. -/
def oneByte : Simgen := ⟨fun _ _ => ⟨1, fun _ => 0x42⟩, none⟩

/-- Of two ECUs at 300 ms, with a timeout of 200 ms, one answers: its
difference is 0, and the other's was not added. -/
theorem onTime_skipped : ¬ ∀ (ss : SimSettings) (gens : Nat → Simgen) (line : List Char)
    (pid : Nat) (rest : List Nat), (∀ e ∈ ss.ecus, 0 ≤ e.customdelay) → 0 ≤ ss.eTimeout →
    (sscanf requestFormat line).vals = 0x01 :: pid :: rest → (obdGetCmdForPID pid).isSome →
    OnTime ss (handle ss.order gens line) := by
  intro h
  have hon := h (startSettings [0, 300, 300] (by decide)) (fun _ => oneByte)
    ['0', '1', '0', 'C'] 0x0C [] (by decide) (by decide) (by decide) (by decide)
  exact absurd hon (by decide)

/-- Three ECUs with a gap between the delays that is longer than the time left:
nobody who is late is asked. -/
theorem onTime_spread : OnTime (startSettings [0, 500, 250] (by decide))
    (handle (startSettings [0, 500, 250] (by decide)).order (fun _ => oneByte)
      ['0', '1', '0', 'C']) :=
  (onTime_iff (by decide) (by decide)
    (by decide : (sscanf requestFormat ['0', '1', '0', 'C']).vals = [0x01, 0x0C])
    (by decide)).mpr (by decide)

end ObdGpsLogger.Sim
