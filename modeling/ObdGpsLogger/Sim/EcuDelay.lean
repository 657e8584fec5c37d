import Mathlib.Algebra.Group.Nat.Defs
import Mathlib.Algebra.Ring.Int.Defs
import Mathlib.Data.List.Perm.Basic
import ObdGpsLogger.Sim.Settings

/-!
# `ecudelay_order`

`src/sim/obdsim.cc` sorts the ECUs by their delays, with one pass over the rest
of the array for each place, and then turns the delays into differences, so
that the main loop can add them up again.

Mirroring notes:
- `sortPass` is the inner loop for one `i`: the entry at `i` against each one
  behind it, with a swap whenever the later one is smaller.
- The differences are taken from the end of the array backwards, so each
  subtraction finds the delay before it as it was; `deltas` carries that delay
  along from the front.
-/

namespace ObdGpsLogger.Sim

/-- The inner loop: what stands at `i` in the end, and what stands behind. -/
def sortPass : ObdgenEcudelay → List ObdgenEcudelay → ObdgenEcudelay × List ObdgenEcudelay
  | x, [] => (x, [])
  | x, y :: ys =>
    if y.delay < x.delay then ((sortPass y ys).1, x :: (sortPass y ys).2)
    else ((sortPass x ys).1, y :: (sortPass x ys).2)

/-- The outer loop, for `n` more places. -/
def sortLoop : Nat → List ObdgenEcudelay → List ObdgenEcudelay
  | 0, ds => ds
  | _ + 1, [] => []
  | n + 1, d :: ds => (sortPass d ds).1 :: sortLoop n (sortPass d ds).2

/-- The last loop: each delay becomes the difference to the one before. -/
def deltas : Int → List ObdgenEcudelay → List ObdgenEcudelay
  | _, [] => []
  | before, d :: ds => { d with delay := d.delay - before } :: deltas d.delay ds

/-- The first loop: the ECUs in their own order. -/
def initialOrder (customdelays : List Int) : List ObdgenEcudelay :=
  customdelays.mapIdx fun i delay => ⟨i, delay⟩

/-- The array between the second and the third loop. -/
def sortedOrder (customdelays : List Int) : List ObdgenEcudelay :=
  sortLoop customdelays.length (initialOrder customdelays)

/-- `ecudelay_order`, from the `customdelay` fields of the ECUs. -/
def ecudelayOrder (customdelays : List Int) : List ObdgenEcudelay :=
  deltas 0 (sortedOrder customdelays)

/-! ## Sorting -/

/-- A pass permutes, and puts a smallest entry in front. -/
theorem sortPass_spec : ∀ (x : ObdgenEcudelay) (ys : List ObdgenEcudelay),
    ((sortPass x ys).1 :: (sortPass x ys).2).Perm (x :: ys) ∧
      ∀ d ∈ x :: ys, (sortPass x ys).1.delay ≤ d.delay
  | x, [] => ⟨List.Perm.refl _, by simp [sortPass]⟩
  | x, y :: ys => by
    rw [sortPass]
    split
    · next hlt =>
      -- a swap: `y` goes on, `x` takes its place
      obtain ⟨hperm, hle⟩ := sortPass_spec y ys
      refine ⟨?_, fun d hd => ?_⟩
      · exact (List.Perm.swap ..).trans (hperm.cons x)
      · rcases List.mem_cons.mp hd with rfl | hd
        · have := hle y (List.mem_cons_self ..)
          show (sortPass y ys).1.delay ≤ d.delay
          omega
        · exact hle d hd
    · next hge =>
      obtain ⟨hperm, hle⟩ := sortPass_spec x ys
      refine ⟨?_, fun d hd => ?_⟩
      · exact ((List.Perm.swap ..).trans (hperm.cons y)).trans (List.Perm.swap ..)
      · rcases List.mem_cons.mp hd with rfl | hd
        · exact hle d (List.mem_cons_self ..)
        · rcases List.mem_cons.mp hd with rfl | hd
          · have := hle x (List.mem_cons_self ..)
            dsimp only
            omega
          · exact hle d (List.mem_cons_of_mem _ hd)

theorem sortLoop_perm : ∀ (n : Nat) (ds : List ObdgenEcudelay), (sortLoop n ds).Perm ds
  | 0, _ => List.Perm.refl _
  | _ + 1, [] => List.Perm.refl _
  | n + 1, d :: ds =>
    ((sortLoop_perm n (sortPass d ds).2).cons _).trans (sortPass_spec d ds).1

/-- With a pass for every place of the list, the bubble sort leaves it in the
order of the delays. -/
theorem sortLoop_sorted : ∀ (n : Nat) (ds : List ObdgenEcudelay), ds.length ≤ n →
    (sortLoop n ds).Pairwise fun a b => a.delay ≤ b.delay
  | 0, ds, h => by
    rw [List.length_eq_zero_iff.mp (Nat.le_zero.mp h)]
    exact List.Pairwise.nil
  | _ + 1, [], _ => List.Pairwise.nil
  | n + 1, d :: ds, h => by
    obtain ⟨hperm, hle⟩ := sortPass_spec d ds
    have hlen := hperm.length_eq
    rw [List.length_cons, List.length_cons] at hlen
    rw [List.length_cons] at h
    refine List.Pairwise.cons (fun e he => ?_) (sortLoop_sorted n _ (by omega))
    have hmem := (sortLoop_perm n (sortPass d ds).2).subset he
    exact hle e (hperm.subset (List.mem_cons_of_mem _ hmem))

theorem sortedOrder_perm (customdelays : List Int) :
    (sortedOrder customdelays).Perm (initialOrder customdelays) :=
  sortLoop_perm _ _

theorem sortedOrder_sorted (customdelays : List Int) :
    (sortedOrder customdelays).Pairwise fun a b => a.delay ≤ b.delay :=
  sortLoop_sorted _ _ (by simp [initialOrder])

theorem deltas_length : ∀ (before : Int) (ds : List ObdgenEcudelay),
    (deltas before ds).length = ds.length
  | _, [] => rfl
  | _, d :: ds => congrArg Nat.succ (deltas_length d.delay ds)

theorem deltas_ecus : ∀ (before : Int) (ds : List ObdgenEcudelay),
    (deltas before ds).map ObdgenEcudelay.ecu = ds.map ObdgenEcudelay.ecu
  | _, [] => rfl
  | _, d :: ds => congrArg (d.ecu :: ·) (deltas_ecus d.delay ds)

theorem ecudelayOrder_length (customdelays : List Int) :
    (ecudelayOrder customdelays).length = customdelays.length := by
  rw [ecudelayOrder, deltas_length, (sortedOrder_perm customdelays).length_eq, initialOrder,
    List.length_mapIdx]

/-! ## What the entries are -/

/-- Before the list is sorted, each of its entries has the number of an ECU, and
that ECU's own delay. -/
theorem mem_initialOrder {customdelays : List Int} {d : ObdgenEcudelay} :
    d ∈ initialOrder customdelays ↔ customdelays[d.ecu]? = some d.delay := by
  unfold initialOrder
  rw [List.mem_mapIdx]
  constructor
  · rintro ⟨i, hi, rfl⟩
    exact List.getElem?_eq_getElem hi
  · intro h
    obtain ⟨hi, hd⟩ := List.getElem?_eq_some_iff.mp h
    exact ⟨d.ecu, hi, by rw [hd]⟩

theorem mem_sortedOrder {customdelays : List Int} {d : ObdgenEcudelay} :
    d ∈ sortedOrder customdelays ↔ customdelays[d.ecu]? = some d.delay := by
  rw [(sortedOrder_perm customdelays).mem_iff, mem_initialOrder]

/-- The sorted list has the delays of the ECUs, each as often as ECUs have it,
in some order. -/
theorem sortedOrder_delays (customdelays : List Int) :
    ((sortedOrder customdelays).map ObdgenEcudelay.delay).Perm customdelays := by
  have hinit : (initialOrder customdelays).map ObdgenEcudelay.delay = customdelays := by
    refine List.ext_getElem (by simp [initialOrder]) fun i h₁ h₂ => ?_
    simp [initialOrder]
  have h := (sortedOrder_perm customdelays).map ObdgenEcudelay.delay
  rwa [hinit] at h

/-- The sorted list has the numbers of the ECUs, in some order. -/
theorem sortedOrder_ecus (customdelays : List Int) :
    ((sortedOrder customdelays).map ObdgenEcudelay.ecu).Perm
      (List.range customdelays.length) := by
  have hinit : (initialOrder customdelays).map ObdgenEcudelay.ecu
      = List.range customdelays.length := by
    refine List.ext_getElem (by simp [initialOrder]) fun i h₁ h₂ => ?_
    simp [initialOrder]
  have h := (sortedOrder_perm customdelays).map ObdgenEcudelay.ecu
  rwa [hinit] at h

/-- The sorted list has one entry for every ECU: no ECU would be asked twice. -/
theorem sortedOrder_nodup (customdelays : List Int) :
    ((sortedOrder customdelays).map ObdgenEcudelay.ecu).Nodup :=
  (sortedOrder_ecus customdelays).nodup_iff.mpr List.nodup_range

/-! ## Adding the differences up again -/

/-- The sum of the first differences is the delay before they were taken. -/
theorem sum_deltas : ∀ (before : Int) (ds : List ObdgenEcudelay) (i : Nat) (h : i < ds.length),
    before + (((deltas before ds).take (i + 1)).map ObdgenEcudelay.delay).sum = ds[i].delay
  | before, d :: ds, 0, _ => by
    show before + (d.delay - before + 0) = d.delay
    omega
  | before, d :: ds, i + 1, h => by
    have hi : i < ds.length := Nat.lt_of_succ_lt_succ h
    have ih := sum_deltas d.delay ds i hi
    show before + (d.delay - before +
      (((deltas d.delay ds).take (i + 1)).map ObdgenEcudelay.delay).sum) = ds[i].delay
    omega

/-- A sum of fields that have wrapped around, in an `int` that wraps around too,
is the exact sum wrapped around once. -/
theorem bmod_sum : ∀ (zs : List Int) (n : Nat),
    Int.bmod (zs.map fun z => Int.bmod z n).sum n = Int.bmod zs.sum n
  | [], _ => rfl
  | z :: zs, n => by
    rw [List.map_cons, List.sum_cons, List.sum_cons, Int.bmod_add_bmod, ← Int.add_bmod_bmod,
      bmod_sum zs n, Int.add_bmod_bmod]

/-- The entries of the array are those of the sorted one, at the same places. -/
theorem ecudelayOrder_ecu (customdelays : List Int) (i : Nat)
    (h : i < (ecudelayOrder customdelays).length) (h' : i < (sortedOrder customdelays).length) :
    (ecudelayOrder customdelays)[i].ecu = (sortedOrder customdelays)[i].ecu := by
  have hmap := deltas_ecus 0 (sortedOrder customdelays)
  have hget := congrArg (·[i]?) hmap
  simpa [ecudelayOrder, List.getElem?_eq_getElem, h, h', deltas_length] using hget

/-- **What `ecudelay_order` leaves**: every ECU once, in the order of their
delays, and at each place the differences so far add up to the delay of the ECU
there, in exact numbers and in an `int` whose fields and sums wrap around. -/
theorem ecudelayOrder_spec (customdelays : List Int) :
    ((ecudelayOrder customdelays).map ObdgenEcudelay.ecu).Perm
        (List.range customdelays.length) ∧
      ((ecudelayOrder customdelays).map fun d => customdelays.getD d.ecu 0).Pairwise (· ≤ ·) ∧
      ∀ (i : Nat) (h : i < (ecudelayOrder customdelays).length),
        (((ecudelayOrder customdelays).take (i + 1)).map ObdgenEcudelay.delay).sum =
            customdelays.getD (ecudelayOrder customdelays)[i].ecu 0 ∧
          Int.bmod (((ecudelayOrder customdelays).take (i + 1)).map
              fun d => Int.bmod d.delay (2 ^ 32)).sum (2 ^ 32) =
            Int.bmod (customdelays.getD (ecudelayOrder customdelays)[i].ecu 0) (2 ^ 32) := by
  -- the sorted list has the delays themselves, the list of the program their differences
  have hdelay : ∀ d ∈ sortedOrder customdelays, customdelays.getD d.ecu 0 = d.delay := by
    intro d hd
    rw [List.getD_eq_getElem?_getD, mem_sortedOrder.mp hd]
    rfl
  have hecus : (ecudelayOrder customdelays).map ObdgenEcudelay.ecu
      = (sortedOrder customdelays).map ObdgenEcudelay.ecu := deltas_ecus 0 _
  refine ⟨?_, ?_, fun i h => ?_⟩
  · -- every ECU once
    rw [hecus]
    exact sortedOrder_ecus customdelays
  · -- in order
    have hmap : (ecudelayOrder customdelays).map (fun d => customdelays.getD d.ecu 0)
        = (sortedOrder customdelays).map ObdgenEcudelay.delay := by
      calc (ecudelayOrder customdelays).map (fun d => customdelays.getD d.ecu 0)
          = ((ecudelayOrder customdelays).map ObdgenEcudelay.ecu).map
              (customdelays.getD · 0) := by rw [List.map_map]; rfl
        _ = (sortedOrder customdelays).map fun d => customdelays.getD d.ecu 0 := by
            rw [hecus, List.map_map]; rfl
        _ = (sortedOrder customdelays).map ObdgenEcudelay.delay := List.map_congr_left hdelay
    rw [hmap, List.pairwise_map]
    exact sortedOrder_sorted customdelays
  · -- the sums
    have h' : i < (sortedOrder customdelays).length := by
      rwa [ecudelayOrder, deltas_length] at h
    have hsum := sum_deltas 0 (sortedOrder customdelays) i h'
    rw [Int.zero_add] at hsum
    rw [ecudelayOrder_ecu customdelays i h h', hdelay _ (List.getElem_mem h')]
    have hwrap := bmod_sum
      (((ecudelayOrder customdelays).take (i + 1)).map ObdgenEcudelay.delay) (2 ^ 32)
    rw [List.map_map] at hwrap
    exact ⟨hsum, hwrap.trans (congrArg (Int.bmod · (2 ^ 32)) hsum)⟩

/-- Three ECUs, the second of which answers first. -/
example : ecudelayOrder [20, -5, 20] = [⟨1, -5⟩, ⟨0, 25⟩, ⟨2, 0⟩] := by decide

/-! ## On the settings -/

/-- The settings after `ecudelay_order`. -/
def SimSettings.order (ss : SimSettings) : SimSettings :=
  { ss with
    ecudelays := ecudelayOrder (ss.ecus.map ObdgenEcu.customdelay)
    ecudelays_length := by rw [ecudelayOrder_length, List.length_map] }

/-- The settings `main` enters its loop with, for ECUs with these delays and
no other options. -/
def startSettings (customdelays : List Int) (h : customdelays.length ≤ obdsimMaxecus) :
    SimSettings :=
  SimSettings.order
    { obdsimInitialisesimsettings with
      ecus := customdelays.mapIdx fun i delay =>
        { obdsimInitialiseecu with ecuNum := i, customdelay := delay }
      ecudelays := List.replicate customdelays.length ⟨0, 0⟩
      ecuCount_le := by simpa using h
      ecudelays_length := by simp }

/-- The settings of a simulator with one ECU that has no delay. -/
def oneEcu : SimSettings := startSettings [0] (by decide)

end ObdGpsLogger.Sim
