import ObdGpsLogger.Sim.Settings

/-!
# Selecting a protocol

`set_obdprotocol` of `src/sim/obdsim.cc` reads the argument of `AT SP`, `AT TP`
and `-p`: spaces, an `A` for "automatic", spaces, and the number of a protocol.
The documented texts are the `Selection`s. What is asked of one (`Honoured`) is
that its protocol is taken and that the automatic mode is the one it names.

`A` is also the number of a protocol. An `A` that comes first is always taken
for the prefix, so protocol A on its own is not found; `honoured_iff` says that
nothing else goes wrong.
-/

namespace ObdGpsLogger.Sim

open CLib

/-! ## The branches of `set_obdprotocol` -/

/-- What follows the prefix: the settings with the protocol `p` begins with. -/
def takeProtocol (automatic : Bool) (p : List Char) (ss : SimSettings) : Int × SimSettings :=
  match findObdprotocol p with
  | none => (-1, ss)
  | some proto =>
    let behind := (p.tail.dropWhile (· == ' ')).headD nul
    (0, { ss with
      eProtocol := proto
      eAutoprotocol := if automatic ∨ (behind == 'A' || behind == 'a') then 1 else 0 })

/-- Spaces at the front of the text do not count, however many there are. -/
theorem setObdprotocol_spaces (n : Nat) (s : List Char) (ss : SimSettings) :
    setObdprotocol (List.replicate n ' ' ++ s) ss = setObdprotocol s ss := by
  unfold setObdprotocol
  rw [List.dropWhile_append_of_pos]
  intro c hc
  rw [List.eq_of_mem_replicate hc]
  rfl

/-- An `A` at the front of the text, in upper or lower case, is the prefix for
automatic protocols. -/
theorem setObdprotocol_marked {c : Char} (hc : c = 'A' ∨ c = 'a') (s : List Char)
    (ss : SimSettings) :
    setObdprotocol (c :: s) ss = takeProtocol true (s.dropWhile (· == ' ')) ss := by
  unfold setObdprotocol takeProtocol
  cases hfind : findObdprotocol (s.dropWhile (· == ' ')) <;>
    rcases hc with rfl | rfl <;> simp [hfind]

/-- Any other character at the front of the text, if it is not a space, begins
the number of the protocol. -/
theorem setObdprotocol_num {c : Char} (hc : c ≠ 'A') (hlower : c ≠ 'a') (hspace : c ≠ ' ')
    (s : List Char) (ss : SimSettings) :
    setObdprotocol (c :: s) ss = takeProtocol false (c :: s) ss := by
  unfold setObdprotocol takeProtocol
  cases hfind : findObdprotocol (c :: s) <;> simp [hc, hlower, hspace, hfind]

theorem dropWhile_spaces (n : Nat) (s : List Char) :
    (List.replicate n ' ' ++ s).dropWhile (· == ' ') = s.dropWhile (· == ' ') := by
  refine List.dropWhile_append_of_pos fun c hc => ?_
  rw [List.eq_of_mem_replicate hc]
  rfl

/-- A protocol is found by its number, which is no space and no `a`. -/
theorem findObdprotocol_self {proto : ObdiiProtocol} (h : proto ∈ obdprotocols) (s : List Char) :
    findObdprotocol (proto.protocolNum :: s) = some proto := by
  have hall : ∀ proto ∈ obdprotocols,
      (obdprotocols.find? fun p => proto.protocolNum == p.protocolNum) = some proto := by decide
  exact hall proto h

theorem protocolNum_ne {proto : ObdiiProtocol} (h : proto ∈ obdprotocols) :
    proto.protocolNum ≠ ' ' ∧ proto.protocolNum ≠ 'a' := by
  have hall : ∀ proto ∈ obdprotocols, proto.protocolNum ≠ ' ' ∧ proto.protocolNum ≠ 'a' := by
    decide
  exact hall proto h

/-- **A failure changes nothing**: where no protocol is found, -1 is returned
and the settings are as they were. -/
theorem setObdprotocol_failed (prot : List Char) (ss : SimSettings)
    (h : (setObdprotocol prot ss).1 ≠ 0) : setObdprotocol prot ss = (-1, ss) := by
  unfold setObdprotocol at h ⊢
  split
  · rfl
  · next c cs heq =>
    simp only [heq] at h ⊢
    split
    · rfl
    · next proto hfind =>
      simp only [hfind] at h
      exact absurd rfl h

/-! ## The documented texts -/

/-- A text `[A]{0-9,A-C}`, with spaces where they are allowed. -/
structure Selection where
  before : Nat
  automatic : Option Char
  between : Nat
  protocol : ObdiiProtocol
  automatic_letter : ∀ c ∈ automatic, c = 'A' ∨ c = 'a'
  protocol_mem : protocol ∈ obdprotocols

namespace Selection

variable (sel : Selection)

/-- The text itself; nothing comes behind the number. -/
def text : List Char :=
  List.replicate sel.before ' ' ++ sel.automatic.toList ++ List.replicate sel.between ' ' ++
    [sel.protocol.protocolNum]

/-- The selection is taken: the return value, the protocol and the automatic
mode are the ones it names. -/
def Honoured (ss : SimSettings) : Prop :=
  setObdprotocol sel.text ss =
    (0, { ss with
      eProtocol := sel.protocol
      eAutoprotocol := if sel.automatic.isSome then 1 else 0 })

/-- The number of a protocol, be it behind a prefix or not, selects that
protocol and succeeds. -/
theorem takeProtocol_num (automatic : Bool) (ss : SimSettings) :
    takeProtocol automatic [sel.protocol.protocolNum] ss =
      (0, { ss with
        eProtocol := sel.protocol
        eAutoprotocol := if automatic then 1 else 0 }) := by
  have hnul : nul ≠ 'A' ∧ nul ≠ 'a' := by decide
  simp [takeProtocol, findObdprotocol_self sel.protocol_mem, hnul]

theorem honoured_of_automatic {c : Char} (h : sel.automatic = some c) (ss : SimSettings) :
    sel.Honoured ss := by
  have hnum := (protocolNum_ne sel.protocol_mem).1
  have hletter := sel.automatic_letter c h
  rw [Honoured, text, h, List.append_assoc, List.append_assoc, setObdprotocol_spaces]
  show setObdprotocol (c :: (List.replicate sel.between ' ' ++ [sel.protocol.protocolNum])) ss = _
  rw [setObdprotocol_marked hletter, dropWhile_spaces]
  simp [hnum, sel.takeProtocol_num]

/-- A selection without a prefix has the number in front, so it is selected as
the number alone would be. -/
theorem text_plain (h : sel.automatic = none) (ss : SimSettings) :
    setObdprotocol sel.text ss = setObdprotocol [sel.protocol.protocolNum] ss := by
  rw [text, h, List.append_assoc, List.append_assoc, setObdprotocol_spaces]
  exact setObdprotocol_spaces ..

/-- **Protocol selection**: a documented text is honoured unless it is protocol
A without a prefix; and whatever the text, a failure changes nothing. -/
theorem honoured_iff (ss : SimSettings) :
    (∀ sel : Selection, sel.Honoured ss ↔
      (sel.automatic.isSome ∨ sel.protocol.protocolNum ≠ 'A')) ∧
    ∀ prot : List Char, (setObdprotocol prot ss).1 = -1 → (setObdprotocol prot ss).2 = ss := by
  refine ⟨fun sel => ?_, fun prot h => ?_⟩
  · cases hauto : sel.automatic with
    | some c => exact iff_of_true (sel.honoured_of_automatic hauto ss) (.inl rfl)
    | none =>
      have hne := protocolNum_ne sel.protocol_mem
      by_cases hA : sel.protocol.protocolNum = 'A'
      · refine iff_of_false (fun hhon => ?_) (by simp [hA])
        -- the only `A` is taken for the prefix, and no number is left
        have hzero : (setObdprotocol sel.text ss).1 = 0 := by rw [hhon]
        rw [sel.text_plain hauto, hA, setObdprotocol_marked (.inl rfl)] at hzero
        have hminus : (takeProtocol true [] ss).1 = -1 := rfl
        exact absurd (hminus.symm.trans hzero) (by decide)
      · refine iff_of_true ?_ (.inr hA)
        rw [Honoured, sel.text_plain hauto, setObdprotocol_num hA hne.2 hne.1,
          sel.takeProtocol_num, hauto]
        rfl
  · rw [setObdprotocol_failed prot ss (by rw [h]; decide)]

/-- The selection `AT SP A`: a protocol whose number is the letter itself. -/
def loneA : Selection where
  before := 0
  automatic := none
  between := 0
  protocol := ⟨'A', "SAE J1939 (CAN 29/250)", .can29⟩
  automatic_letter := fun _ h => absurd h (by simp)
  protocol_mem := by decide

/-- The selection of the protocol `A` without a prefix is refused: the `A` is
taken for the prefix, and no number is left. -/
theorem loneA_refused : ¬ loneA.Honoured obdsimInitialisesimsettings := fun h =>
  absurd (congrArg Prod.fst h) (by decide)

end Selection

end ObdGpsLogger.Sim
