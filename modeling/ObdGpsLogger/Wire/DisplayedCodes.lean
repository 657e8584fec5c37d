import ObdGpsLogger.Sim.GenGuiFltk
import ObdGpsLogger.Wire.TroubleCodes

/-!
# Codes of the GUI on the wire

The GUI generator fills at most nine codes into the array and returns the
number of all its codes; the main loop has room for ten and lists as many as it
is told there are. So the reply lists what the window shows, and looks at
nothing else, exactly for up to nine codes that can be encoded
(`displayed_iff`).
-/

namespace ObdGpsLogger.Wire

open CLib Obdinfo Sim

/-! ## What the reply should be -/

/-- The bytes of three codes from the `3 * k`-th on, with zeroes for those there
are not. -/
def threeOf (pairs : List (Nat × Nat)) (k : Nat) : List Nat :=
  (List.range 3).flatMap fun i =>
    let p := pairs.getD (3 * k + i) (0, 0)
    [p.1, p.2]

/-- The lines in which an ECU sends its codes, three in each. -/
def codeLines (ss : SimSettings) (ecuNum : Nat) (pairs : List (Nat × Nat)) : List (List Char) :=
  (List.range ((pairs.length + 2) / 3)).map fun k =>
    ss.header ecuNum 7 ++ pairsText (codePairs (space ss.eSpaces) (threeOf pairs k))

/-- The entries of the array the reply loop looks at. -/
def errorReads (errorcount : Nat) : List Nat :=
  (List.range ((errorcount + 2) / 3)).flatMap fun k =>
    let j := 3 * k
    [j * 2, j * 2 + 1] ++
      (if 1 < errorcount - j then [(j + 1) * 2, (j + 1) * 2 + 1] else []) ++
      (if 2 < errorcount - j then [(j + 2) * 2, (j + 2) * 2 + 1] else [])

/-- The first ten codes of the window are listed as themselves, and the reply
looks only at entries that were filled, inside the array. -/
structure Displayed (f : SimGenGuiFltk) (ss : SimSettings) (ecuNum : Nat) : Prop where
  lines : ∀ (g : Simgen) (before : Nat → Nat),
    g.geterrorcodes = some (guifltkSimgenGeterrorcodes f before) →
      ∃ pairs : List (Nat × Nat), (∀ p ∈ pairs, p.1 < 256 ∧ p.2 < 256) ∧
        (pairs.map fun p => obderrconvert p.1 p.2) = f.dtcList.take 10 ∧
        errorLines ss ecuNum g = codeLines ss ecuNum pairs
  reads : ∀ i ∈ errorReads f.dtcList.length, Filled f i ∧ i < 20

/-! ## What it is -/

theorem mem_errorReads {n i : Nat} : i ∈ errorReads n ↔ i < 2 * n := by
  unfold errorReads
  rw [List.mem_flatMap]
  constructor
  · rintro ⟨k, hk, hi⟩
    have := List.mem_range.mp hk
    dsimp only at hi
    split at hi <;> split at hi <;> simp at hi <;> omega
  · intro hi
    refine ⟨i / 6, List.mem_range.mpr (by omega), ?_⟩
    dsimp only
    split <;> split <;> simp <;> omega

/-- The two bytes of each of the items in the list. -/
def itemPairs (f : SimGenGuiFltk) : List (Nat × Nat) := f.dtcList.map itemBytes

theorem itemBytes_lt (text : List Char) : (itemBytes text).1 < 256 ∧ (itemBytes text).2 < 256 := by
  unfold itemBytes
  cases h : dtcHumantobytes text with
  | none => decide
  | some p => exact (obderrconvert_humantobytes h).2

theorem itemByte_lt (texts : List (List Char)) (i : Nat) : itemByte texts i < 256 := by
  unfold itemByte
  split
  · exact (itemBytes_lt _).1
  · exact (itemBytes_lt _).2

/-- The entries of the array at an item of the list are the two bytes of that
item, as long as all items were filled in. -/
theorem entry_item {texts : List (List Char)} {errorcodes : Nat → Nat}
    (hcells : ∀ i < 2 * texts.length, errorcodes i = itemByte texts i) (j : Nat) :
    (if j < texts.length then errorcodes (j * 2) else 0) =
        ((texts.map itemBytes).getD j (0, 0)).1 ∧
      (if j < texts.length then errorcodes (j * 2 + 1) else 0) =
        ((texts.map itemBytes).getD j (0, 0)).2 := by
  by_cases hj : j < texts.length
  · have hget : (texts.map itemBytes).getD j (0, 0) = itemBytes (texts.getD j []) := by
      simp [List.getD_eq_getElem?_getD, List.getElem?_eq_getElem hj]
    rw [if_pos hj, if_pos hj, hcells _ (by omega), hcells _ (by omega), hget, itemByte, itemByte,
      if_pos (by omega), if_neg (by omega), show j * 2 / 2 = j by omega,
      show (j * 2 + 1) / 2 = j by omega]
    exact ⟨rfl, rfl⟩
  · have hget : (texts.map itemBytes).getD j (0, 0) = (0, 0) := by
      simp [List.getD_eq_getElem?_getD, List.getElem?_eq_none (Nat.not_lt.mp hj)]
    rw [if_neg hj, if_neg hj, hget]
    exact ⟨rfl, rfl⟩

theorem threeCodes_items {texts : List (List Char)} {errorcodes : Nat → Nat} {k : Nat}
    (hcells : ∀ i < 2 * texts.length, errorcodes i = itemByte texts i)
    (hk : 3 * k < texts.length) :
    threeCodes texts.length errorcodes (3 * k) = threeOf (texts.map itemBytes) k := by
  obtain ⟨h0, h0'⟩ := entry_item hcells (3 * k)
  obtain ⟨h1, h1'⟩ := entry_item hcells (3 * k + 1)
  obtain ⟨h2, h2'⟩ := entry_item hcells (3 * k + 2)
  have hc1 : 1 < texts.length - 3 * k ↔ 3 * k + 1 < texts.length := by omega
  have hc2 : 2 < texts.length - 3 * k ↔ 3 * k + 2 < texts.length := by omega
  rw [if_pos hk] at h0 h0'
  simp only [threeCodes, hc1, hc2, h0, h0', h1, h1', h2, h2']
  rfl

/-- For nine codes at most, the lines are those of the items. -/
theorem errorLines_items {f : SimGenGuiFltk} (hf : f.Reporting) (hnine : f.dtcList.length ≤ 9)
    (ss : SimSettings) (ecuNum : Nat) {g : Simgen} {before : Nat → Nat}
    (hg : g.geterrorcodes = some (guifltkSimgenGeterrorcodes f before)) :
    errorLines ss ecuNum g = codeLines ss ecuNum (itemPairs f) := by
  obtain ⟨hcount, hcells⟩ := geterrorcodes_reporting hf before
  have hcells' : ∀ i < 2 * f.dtcList.length,
      (guifltkSimgenGeterrorcodes f before 10).errorcodes i = itemByte f.dtcList i := by
    intro i hi
    rw [hcells, if_pos (by omega)]
  rw [errorLines, hg]
  dsimp only
  rw [hcount, Int.toNat_natCast, codeLines, itemPairs, List.length_map]
  refine List.map_congr_left fun k hk => ?_
  have hk := List.mem_range.mp hk
  rw [errorLine_text ss ecuNum (by omega) fun i hi => (hcells' i hi).symm ▸ itemByte_lt _ _,
    threeCodes_items hcells' (by omega)]

/-! ## Reading the lines -/

theorem threeOf_lt {pairs : List (Nat × Nat)} (h : ∀ p ∈ pairs, p.1 < 256 ∧ p.2 < 256) (k : Nat) :
    ∀ b ∈ threeOf pairs k, b < 256 := by
  intro b hb
  obtain ⟨i, -, hb⟩ := List.mem_flatMap.mp hb
  have hp : (pairs.getD (3 * k + i) (0, 0)).1 < 256 ∧ (pairs.getD (3 * k + i) (0, 0)).2 < 256 := by
    rw [List.getD_eq_getElem?_getD]
    cases hget : pairs[3 * k + i]? with
    | none => decide
    | some p => exact h p (List.mem_of_getElem? hget)
  simp only [List.mem_cons, List.not_mem_nil, or_false] at hb
  rcases hb with rfl | rfl
  · exact hp.1
  · exact hp.2

/-- The lines show which bytes they were made of. -/
theorem codeLines_inj {ss : SimSettings} {ecuNum : Nat} {ps qs : List (Nat × Nat)}
    (hps : ∀ p ∈ ps, p.1 < 256 ∧ p.2 < 256) (hqs : ∀ q ∈ qs, q.1 < 256 ∧ q.2 < 256)
    (hlen : ps.length = qs.length) (h : codeLines ss ecuNum ps = codeLines ss ecuNum qs) :
    ps = qs := by
  have hthree : ∀ k < (ps.length + 2) / 3, threeOf ps k = threeOf qs k := by
    intro k hk
    unfold codeLines at h
    rw [← hlen] at h
    have hline := List.map_inj_left.mp h k (List.mem_range.mpr hk)
    have htext := List.append_cancel_left hline
    -- seven conversions read the bytes of a line back
    have hp := assigned_pairs 7 (codePairs_spaced (threeOf_lt hps k) ss.eSpaces).ok
    have hq := assigned_pairs 7 (codePairs_spaced (threeOf_lt hqs k) ss.eSpaces).ok
    have hread : ∀ ts k, ((codePairs (space ss.eSpaces) (threeOf ts k)).map Prod.snd).take 7 =
        0x43 :: threeOf ts k := fun _ _ => rfl
    rw [htext, hq, hread, hread] at hp
    exact (List.cons.inj hp).2.symm
  have hgetD : ∀ i < ps.length, ps.getD i (0, 0) = qs.getD i (0, 0) := by
    intro i hi
    have hk : [(ps.getD (3 * (i / 3) + 0) (0, 0)).1, (ps.getD (3 * (i / 3) + 0) (0, 0)).2,
        (ps.getD (3 * (i / 3) + 1) (0, 0)).1, (ps.getD (3 * (i / 3) + 1) (0, 0)).2,
        (ps.getD (3 * (i / 3) + 2) (0, 0)).1, (ps.getD (3 * (i / 3) + 2) (0, 0)).2] =
      [(qs.getD (3 * (i / 3) + 0) (0, 0)).1, (qs.getD (3 * (i / 3) + 0) (0, 0)).2,
        (qs.getD (3 * (i / 3) + 1) (0, 0)).1, (qs.getD (3 * (i / 3) + 1) (0, 0)).2,
        (qs.getD (3 * (i / 3) + 2) (0, 0)).1, (qs.getD (3 * (i / 3) + 2) (0, 0)).2] :=
      hthree (i / 3) (by omega)
    simp only [List.cons.injEq] at hk
    obtain ⟨ha, ha', hb, hb', hc, hc', -⟩ := hk
    have hi3 : i = 3 * (i / 3) + 0 ∨ i = 3 * (i / 3) + 1 ∨ i = 3 * (i / 3) + 2 := by omega
    rcases hi3 with hr | hr | hr
    · rw [hr]
      exact Prod.ext ha ha'
    · rw [hr]
      exact Prod.ext hb hb'
    · rw [hr]
      exact Prod.ext hc hc'
  refine List.ext_getElem hlen fun i hi hi' => ?_
  have hi := hgetD i hi
  simpa [List.getD_eq_getElem?_getD, *] using hi

/-! ## When the codes are displayed -/

/-- An item that can be encoded is written as its bytes; any other as `P0000`. -/
theorem obderrconvert_itemBytes {text : List Char} (h : dtcIsvalid text = true) :
    obderrconvert (itemBytes text).1 (itemBytes text).2 = text ↔ text.getD 1 nul ≤ '3' := by
  rw [← dtcHumantobytes_isSome_iff h]
  unfold itemBytes
  cases hbytes : dtcHumantobytes text with
  | none =>
    refine iff_of_false (fun heq => ?_) (by simp)
    have hzero : dtcHumantobytes (obderrconvert 0 0) = some (0, 0) := by decide
    have heq : obderrconvert 0 0 = text := heq
    rw [heq, hbytes] at hzero
    cases hzero
  | some p => exact iff_of_true (obderrconvert_humantobytes hbytes).1 rfl

/-- **When the codes are displayed**: nine codes at most, and every first digit
at most 3. -/
theorem displayed_iff {f : SimGenGuiFltk} (hf : f.Reporting) (ss : SimSettings) (ecuNum : Nat) :
    Displayed f ss ecuNum ↔
      f.dtcList.length ≤ 9 ∧ ∀ text ∈ f.dtcList, text.getD 1 nul ≤ '3' := by
  have hbytes : ∀ p ∈ itemPairs f, p.1 < 256 ∧ p.2 < 256 := by
    intro p hp
    obtain ⟨text, -, rfl⟩ := List.mem_map.mp hp
    exact itemBytes_lt text
  constructor
  · rintro ⟨hlines, hreads⟩
    -- the tenth code would be looked at, but is not filled in
    have hnine : f.dtcList.length ≤ 9 := by
      by_contra hlong
      have hfilled := (hreads 18 (mem_errorReads.mpr (by omega))).1
      rw [filled_iff hf] at hfilled
      omega
    refine ⟨hnine, fun text htext => ?_⟩
    obtain ⟨pairs, hpairs, hconv, heq⟩ :=
      hlines ⟨fun _ _ => ⟨0, fun _ => 0⟩, some (guifltkSimgenGeterrorcodes f fun _ => 0)⟩
        (fun _ => 0) rfl
    rw [List.take_of_length_le (by omega)] at hconv
    rw [errorLines_items hf hnine ss ecuNum rfl] at heq
    have hlen : (itemPairs f).length = pairs.length := by
      rw [itemPairs, List.length_map, ← hconv, List.length_map]
    -- the lines leave no choice of the bytes
    obtain rfl := codeLines_inj hbytes hpairs hlen heq
    have hitem : obderrconvert (itemBytes text).1 (itemBytes text).2 = text := by
      rw [itemPairs, List.map_map] at hconv
      exact List.map_inj_left.mp (hconv.trans (List.map_id f.dtcList).symm) text htext
    exact (obderrconvert_itemBytes (f.dtcList_valid text htext)).mp hitem
  · rintro ⟨hnine, hdigits⟩
    refine ⟨fun g before hg => ⟨itemPairs f, hbytes, ?_, errorLines_items hf hnine ss ecuNum hg⟩,
      fun i hi => ?_⟩
    · rw [List.take_of_length_le (by omega), itemPairs, List.map_map]
      exact (List.map_congr_left fun text htext =>
        (obderrconvert_itemBytes (f.dtcList_valid text htext)).mpr (hdigits text htext)).trans
          (List.map_id f.dtcList)
    · rw [mem_errorReads] at hi
      exact ⟨(filled_iff hf i).mpr (by omega), by omega⟩

/-- A window that shows ten codes. -/
def tenCodes : SimGenGuiFltk :=
  { shown := true
    dtcReport := true
    dtcList := List.replicate 10 "P0123".toList
    dtcList_valid := fun text h => by
      rw [List.eq_of_mem_replicate h]
      decide }

/-- A list of ten codes: only nine of them are filled in, so the tenth is not
displayed as it should be. -/
theorem displayed_tenCodes :
    ¬ ∀ (f : SimGenGuiFltk), f.Reporting → ∀ (ss : SimSettings) (ecuNum : Nat),
      Displayed f ss ecuNum := by
  intro h
  have hreads := (h tenCodes ⟨rfl, rfl⟩ obdsimInitialisesimsettings 0).reads 18 (by decide)
  have h01 := hreads.1 (fun _ => 0) (fun _ => 1)
  exact absurd h01 (by decide)

/-- A window that shows one code. -/
def oneItem : SimGenGuiFltk :=
  { shown := true
    dtcReport := true
    dtcList := ["U3FA0".toList]
    dtcList_valid := fun text h => by
      rw [List.mem_singleton.mp h]
      decide }

/-- A list of one code: it is displayed as it should be. -/
theorem displayed_oneItem : Displayed oneItem obdsimInitialisesimsettings 0 :=
  (displayed_iff ⟨rfl, rfl⟩ obdsimInitialisesimsettings 0).mpr
    ⟨by decide, fun text h => by
      rw [List.mem_singleton.mp h]
      decide⟩

end ObdGpsLogger.Wire
