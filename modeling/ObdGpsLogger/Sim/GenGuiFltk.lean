import ObdGpsLogger.Obdinfo.DtcCodes
import ObdGpsLogger.Sim.Generator
import ObdGpsLogger.Sim.MainLoop
import ObdGpsLogger.Sim.SupportedPids

/-!
# The GUI generator

`guifltk_simgen_geterrorcodes` of `src/sim/generators/gui_fltk/simguifltk.fl`:
the codes in the list of the window, as bytes. The user can add to the list
only what `dtc_isvalid` accepts. `guifltk_simgen_getvalue` tells how many there
are, and what the sliders show.

Mirroring notes:
- The array is what the caller put there until it is assigned; `Filled` says
  which entries are.
- `dtc_humantobytes` may fail. Its return value is not looked at, and `A` and
  `B` stay 0.
-/

namespace ObdGpsLogger.Sim

open CLib Obdinfo

/-- What the window of the generator holds. -/
structure SimGenGuiFltk where
  shown : Bool
  dtcReport : Bool
  dtcList : List (List Char)
  dtcList_valid : ∀ text ∈ dtcList, dtcIsvalid text = true

/-- `A` and `B` for an item of the list. -/
def itemBytes (text : List Char) : Nat × Nat := (dtcHumantobytes text).getD (0, 0)

/-- An array in which one entry has been changed. -/
def setEntry (errorcodes : Nat → Nat) (i v : Nat) : Nat → Nat := fun k =>
  if k = i then v else errorcodes k

/-- `for(i=1;i<=nitems && i<num_codes;i++)`, from item `i` on. -/
def fillCodes (numCodes : Nat) : Nat → List (List Char) → (Nat → Nat) → Nat → Nat
  | _, [], errorcodes => errorcodes
  | i, text :: texts, errorcodes =>
    if i < numCodes then
      fillCodes numCodes (i + 1) texts
        (setEntry (setEntry errorcodes (2 * i - 2) (itemBytes text).1) (2 * i - 1)
          (itemBytes text).2)
    else errorcodes

/-- `guifltk_simgen_geterrorcodes`: the count it returns and the array. -/
def guifltkSimgenGeterrorcodes (f : SimGenGuiFltk) (errorcodes : Nat → Nat) (numCodes : Nat) :
    GenErrors :=
  if f.shown = false then ⟨-1, errorcodes⟩
  else if f.dtcReport = false ∨ f.dtcList.length = 0 then ⟨0, errorcodes⟩
  else ⟨f.dtcList.length, fillCodes numCodes 1 f.dtcList errorcodes⟩

/-- The window is shown, and reports its codes. -/
def SimGenGuiFltk.Reporting (f : SimGenGuiFltk) : Prop := f.shown = true ∧ f.dtcReport = true

/-- An entry that the main loop gets from the generator: whatever was there
before makes no difference. -/
def Filled (f : SimGenGuiFltk) (i : Nat) : Prop :=
  ∀ before before', (guifltkSimgenGeterrorcodes f before 10).errorcodes i =
    (guifltkSimgenGeterrorcodes f before' 10).errorcodes i

/-- The entry at index `i`: a byte of the item with half that index. -/
def itemByte (texts : List (List Char)) (i : Nat) : Nat :=
  if i % 2 = 0 then (itemBytes (texts.getD (i / 2) [])).1
  else (itemBytes (texts.getD (i / 2) [])).2

/-- **The loop** fills two entries for each item, as long as there is room for
one code more. -/
theorem fillCodes_apply (numCodes : Nat) : ∀ (texts : List (List Char)) (n : Nat)
    (errorcodes : Nat → Nat) (k : Nat), fillCodes numCodes (n + 1) texts errorcodes k =
      if 2 * n ≤ k ∧ k < 2 * (n + min texts.length (numCodes - (n + 1))) then
        itemByte texts (k - 2 * n)
      else errorcodes k
  | [], n, errorcodes, k => by
    rw [fillCodes, if_neg (by simp)]
  | text :: texts, n, errorcodes, k => by
    rw [fillCodes, List.length_cons]
    by_cases hroom : n + 1 < numCodes
    · rw [if_pos hroom, fillCodes_apply numCodes texts (n + 1)]
      by_cases hrest : 2 * (n + 1) ≤ k ∧
          k < 2 * (n + 1 + min texts.length (numCodes - (n + 1 + 1)))
      · -- an entry for one of the items behind
        rw [if_pos hrest, if_pos (by omega), itemByte, itemByte,
          show (k - 2 * n) % 2 = (k - 2 * (n + 1)) % 2 by omega,
          show (k - 2 * n) / 2 = (k - 2 * (n + 1)) / 2 + 1 by omega]
        rfl
      · rw [if_neg hrest, setEntry, setEntry]
        -- an entry of this very item, or none of the items'
        by_cases hodd : k = 2 * (n + 1) - 1
        · rw [if_pos hodd, if_pos (by omega), itemByte, if_neg (by omega),
            show (k - 2 * n) / 2 = 0 by omega]
          rfl
        · rw [if_neg hodd]
          by_cases heven : k = 2 * (n + 1) - 2
          · rw [if_pos heven, if_pos (by omega), itemByte, if_pos (by omega),
              show (k - 2 * n) / 2 = 0 by omega]
            rfl
          · rw [if_neg heven, if_neg (by omega)]
    · rw [if_neg hroom, if_neg (by omega)]

section Reporting

variable {f : SimGenGuiFltk}

/-- What the main loop gets from a list that is shown: the number of all items,
and the bytes of at most nine of them. -/
theorem geterrorcodes_reporting (hf : f.Reporting) (before : Nat → Nat) :
    (guifltkSimgenGeterrorcodes f before 10).errorcount = f.dtcList.length ∧
      ∀ k, (guifltkSimgenGeterrorcodes f before 10).errorcodes k =
        if k < 2 * min f.dtcList.length 9 then itemByte f.dtcList k else before k := by
  unfold guifltkSimgenGeterrorcodes
  rw [if_neg (by simp [hf.1])]
  by_cases hempty : f.dtcList.length = 0
  · rw [if_pos (Or.inr hempty), hempty]
    exact ⟨rfl, fun k => by rw [if_neg (by omega)]⟩
  · rw [if_neg (by simp [hf.2, List.ne_nil_of_length_pos (Nat.pos_of_ne_zero hempty)])]
    refine ⟨rfl, fun k => ?_⟩
    dsimp only
    rw [fillCodes_apply 10 f.dtcList 0 before k]
    simp

/-- Where errors are reported, the bytes that are filled in are those of the
first nine codes at most. -/
theorem filled_iff (hf : f.Reporting) (k : Nat) :
    Filled f k ↔ k < 2 * min f.dtcList.length 9 := by
  unfold Filled
  constructor
  · intro h
    have h01 := h (fun _ => 0) (fun _ => 1)
    rw [(geterrorcodes_reporting hf _).2, (geterrorcodes_reporting hf _).2] at h01
    by_contra hk
    rw [if_neg hk, if_neg hk] at h01
    exact absurd h01 (by decide)
  · intro hk before before'
    rw [(geterrorcodes_reporting hf _).2, (geterrorcodes_reporting hf _).2, if_pos hk, if_pos hk]

end Reporting

/-! ## Values -/

/-- What else the window holds: the other check button, the bitmaps, and the
sliders. -/
structure SimGenGui extends SimGenGuiFltk where
  dtcMil : Bool
  supported : SupportedPids
  simvalVss : Rat
  simvalRpm : Rat
  simvalMaf : Rat
  simvalThrottlepos : Rat
  simvalTemp : Rat

namespace SimGenGui

variable (f : SimGenGui)

/-- The slider that sets the values of a column, if there is one. -/
def simval (dbColumn : String) : Option Rat :=
  if dbColumn = "vss" then some f.simvalVss
  else if dbColumn = "rpm" then some f.simvalRpm
  else if dbColumn = "maf" then some f.simvalMaf
  else if dbColumn = "throttlepos" then some f.simvalThrottlepos
  else if dbColumn = "temp" then some f.simvalTemp
  else none

/-- The value of `*A` for PID 01: the lamp, and the number of codes. -/
def monitorStatus : Nat :=
  if f.dtcReport then (if f.dtcMil then 0x80 else 0x00) + f.dtcList.length else 0

/-- The window is set to report codes, and to have the lamp on. -/
def lamp : Bool := f.dtcReport && f.dtcMil

/-- The codes that the window reports when it is asked. -/
def reported : List (List Char) := if f.shown ∧ f.dtcReport then f.dtcList else []

end SimGenGui

/-- `guifltk_simgen_getvalue`: bitmaps, the status, or the value of a slider. -/
def guifltkSimgenGetvalue (f : SimGenGui) (cells : Nat → Nat) (pid : Nat) : Outcome :=
  if f.shown = false then .value ⟨-1, cells⟩
  else
    match f.supported.bits pid with
    | some bits => .value ⟨4, bitmapCells bits cells⟩
    | none =>
      if pid = 0x01 then
        .value ⟨4, fun i => if i = 0 then f.monitorStatus else if i < 4 then 0x00 else cells i⟩
      else
        match obdGetCmdForPID pid with
        | none => .value ⟨0, cells⟩
        | some cmd =>
          match cmd.dbColumn.bind f.simval with
          | none => .value ⟨0, cells⟩
          | some val => callConvrev cmd val cells

/-- Every row of the table that has a slider has an encoder, too. -/
theorem sliders_encoded : ∀ cmd ∈ obdcmdsMode1, ∀ column ∈ cmd.dbColumn,
    column ∈ ["vss", "rpm", "maf", "throttlepos", "temp"] → cmd.convrev ≠ none := by
  decide +kernel

theorem simval_isSome {f : SimGenGui} {column : String} (h : (f.simval column).isSome = true) :
    column ∈ ["vss", "rpm", "maf", "throttlepos", "temp"] := by
  by_contra hother
  simp only [List.mem_cons, List.not_mem_nil, or_false, not_or] at hother
  obtain ⟨h1, h2, h3, h4, h5⟩ := hother
  rw [SimGenGui.simval, if_neg h1, if_neg h2, if_neg h3, if_neg h4, if_neg h5] at h
  cases h

/-- No request makes the generator call through `NULL`: it answers with a value,
maybe one of no bytes. -/
theorem guifltkSimgenGetvalue_value (f : SimGenGui) (cells : Nat → Nat) (pid : Nat) :
    ∃ v, guifltkSimgenGetvalue f cells pid = .value v := by
  unfold guifltkSimgenGetvalue
  split
  · exact ⟨_, rfl⟩
  split
  · exact ⟨_, rfl⟩
  split
  · exact ⟨_, rfl⟩
  split
  · exact ⟨_, rfl⟩
  · next cmd hcmd =>
    split
    · exact ⟨_, rfl⟩
    · next val hval =>
      obtain ⟨column, hcolumn, hslider⟩ := Option.bind_eq_some_iff.mp hval
      obtain ⟨r, hr⟩ := Option.ne_none_iff_exists'.mp
        (sliders_encoded cmd (List.mem_of_find?_eq_some hcmd) column hcolumn
          (simval_isSome (by rw [hslider]; rfl)))
      exact ⟨stored (r.convrev val) cells, by rw [callConvrev, hr]⟩

/-- `obdsimgen_gui_fltk`, at one moment. -/
def obdsimgenGuiFltk (f : SimGenGui) (cells before : Nat → Nat) : Simgen :=
  { getvalue := fun _ pid =>
      match guifltkSimgenGetvalue f cells pid with
      | .value v => v
      | _ => ⟨0, cells⟩
    geterrorcodes := some (guifltkSimgenGeterrorcodes f.toSimGenGuiFltk before) }

end ObdGpsLogger.Sim
