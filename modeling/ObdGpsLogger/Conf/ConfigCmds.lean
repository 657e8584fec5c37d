import ObdGpsLogger.CLib.Cells
import ObdGpsLogger.CLib.ScanInt
import ObdGpsLogger.Obdinfo.ServiceCommands

/-!
# The list of columns

`obd_configCmds` of `src/conf/obdconfigfile.c`: the setting `log_columns` is cut
into tokens, each the name of a column or the number of a PID, and their
commands are put into an array with a `NULL` at its end. This takes two passes,
one to count and one to store.

The passes agree on every list (`obdConfigCmds_eq`), so the array is filled
exactly. Which commands it holds is another matter: `%2X` reads two columns and
leaves the rest of the token alone, so a misspelled name whose first two columns
give a number below 0x53 passes for a PID (`Misread`). `parsed_iff` says that this
is all that goes wrong.

Mirroring notes:
- A command is a row of the table; `NULL` is `none`.
- `strdup` and `malloc` are taken to succeed; the warnings are left out.
- `%2X` reads as ISO C says: a `0x` that ends at the width is a matching failure.
-/

namespace ObdGpsLogger.Conf

open CLib Obdinfo

/-- `toklist`: the characters at which `strtok` cuts the list of columns. -/
def toklist (c : Char) : Bool := c == ',' || c == ':' || c == ' '

/-- The first loop, which counts: the value of `cols` at its end. -/
def countLoop (cols : Nat) : List (List Char) → Nat
  | [] => cols
  | currcmd :: rest =>
    match obdGetCmdForColumn (String.ofList currcmd) with
    | some _ => countLoop (cols + 1) rest
    | none =>
      match scanHexItem (some 2) currcmd with
      | none => countLoop cols rest
      | some (cmdpid, _) =>
        match obdGetCmdForPID cmdpid with
        | some _ => countLoop (cols + 1) rest
        | none => countLoop cols rest

/-- The second loop: the final array and `currcol`, unless it writes outside of
the array. -/
def storeLoop (cmds : Cells (Option ObdServiceCmd)) (currcol : Nat) :
    List (List Char) → Option (Cells (Option ObdServiceCmd) × Nat)
  | [] => some (cmds, currcol)
  | currcmd :: rest =>
    match obdGetCmdForColumn (String.ofList currcmd) with
    | some c => (cmds.write currcol (some c)).bind fun cmds => storeLoop cmds (currcol + 1) rest
    | none =>
      match scanHexItem (some 2) currcmd with
      | none => storeLoop cmds currcol rest
      | some (cmdpid, _) =>
        match obdGetCmdForPID cmdpid with
        | some c => (cmds.write currcol (some c)).bind fun cmds => storeLoop cmds (currcol + 1) rest
        | none => storeLoop cmds currcol rest

/-- `obd_configCmds`: the return value and `*cmds`. -/
def obdConfigCmds (logColumns : List Char) :
    Option (Nat × Cells (Option ObdServiceCmd)) :=
  let cols := countLoop 0 (strtokAll toklist logColumns)
  (storeLoop (malloc (cols + 1)) 0 (strtokAll toklist logColumns)).bind fun (cmds, currcol) =>
    (cmds.write currcol none).map fun cmds => (cols, cmds)

/-! ## The two passes -/

/-- The command either loop takes a token for. -/
def cmdFor (currcmd : List Char) : Option ObdServiceCmd :=
  (obdGetCmdForColumn (String.ofList currcmd)).or
    ((scanHexItem (some 2) currcmd).bind fun item => obdGetCmdForPID item.1)

theorem countLoop_cons (cols : Nat) (currcmd : List Char) (rest : List (List Char)) :
    countLoop cols (currcmd :: rest) = countLoop (cols + (cmdFor currcmd).toList.length) rest := by
  rw [countLoop, cmdFor]
  cases obdGetCmdForColumn (String.ofList currcmd) with
  | some c => rfl
  | none =>
    cases scanHexItem (some 2) currcmd with
    | none => rfl
    | some item =>
      show (match obdGetCmdForPID item.1 with
        | some _ => countLoop (cols + 1) rest
        | none => countLoop cols rest) =
          countLoop (cols + (obdGetCmdForPID item.1).toList.length) rest
      cases obdGetCmdForPID item.1 <;> rfl

theorem storeLoop_cons (cmds : Cells (Option ObdServiceCmd)) (currcol : Nat)
    (currcmd : List Char) (rest : List (List Char)) :
    storeLoop cmds currcol (currcmd :: rest) =
      match cmdFor currcmd with
      | some c => (cmds.write currcol (some c)).bind fun cmds => storeLoop cmds (currcol + 1) rest
      | none => storeLoop cmds currcol rest := by
  rw [storeLoop, cmdFor]
  cases obdGetCmdForColumn (String.ofList currcmd) with
  | some c => rfl
  | none =>
    cases scanHexItem (some 2) currcmd with
    | none => rfl
    | some item => rfl

/-- The first loop adds to its counter the number of commands that its second
scan, with `cmdFor`, finds among the tokens. -/
theorem countLoop_eq : ∀ (toks : List (List Char)) (cols : Nat),
    countLoop cols toks = cols + (toks.filterMap cmdFor).length
  | [], _ => rfl
  | t :: toks, cols => by
    rw [countLoop_cons, countLoop_eq toks, List.filterMap_cons]
    cases cmdFor t with
    | none => rfl
    | some c =>
      show cols + 1 + _ = cols + (_ + 1)
      omega

/-- A command, or the sentinel, goes behind the commands that are stored. -/
theorem write_commands {cs : List ObdServiceCmd} {n : Nat} (h : cs.length < n)
    (x : Option ObdServiceCmd) :
    (filled (cs.map some) n).write cs.length x = some (filled (cs.map some ++ [x]) n) := by
  have hroom : (cs.map some).length < n := by rwa [List.length_map]
  have hwrite := write_filled hroom x
  rwa [List.length_map] at hwrite

/-- The second loop stores them, one behind the other. -/
theorem storeLoop_eq {n : Nat} : ∀ (toks : List (List Char)) (cs : List ObdServiceCmd),
    cs.length + (toks.filterMap cmdFor).length < n →
    storeLoop (filled (cs.map some) n) cs.length toks =
      some (filled ((cs ++ toks.filterMap cmdFor).map some) n,
        (cs ++ toks.filterMap cmdFor).length)
  | [], cs, _ => by simp [storeLoop]
  | t :: toks, cs, h => by
    rw [storeLoop_cons]
    rw [List.filterMap_cons] at h ⊢
    cases hc : cmdFor t with
    | none =>
      rw [hc] at h
      exact storeLoop_eq toks cs h
    | some c =>
      simp only [hc, List.length_cons] at h
      have hlen : (cs ++ [c]).length = cs.length + 1 := by simp
      have hmap : cs.map some ++ [some c] = (cs ++ [c]).map some := by simp
      have ih := storeLoop_eq toks (cs ++ [c]) (n := n) (by omega)
      rw [hlen, List.append_assoc, List.singleton_append] at ih
      dsimp only
      rw [write_commands (by omega), Option.bind_some, hmap]
      exact ih

/-- What is asked of the function: it returns the number of commands, and its
array holds them and the sentinel. -/
def Parsed (logColumns : List Char) (entries : List ObdServiceCmd) : Prop :=
  obdConfigCmds logColumns =
    some (entries.length, entries.map (fun c => some (some c)) ++ [some none])

instance (logColumns : List Char) (entries : List ObdServiceCmd) :
    Decidable (Parsed logColumns entries) :=
  inferInstanceAs (Decidable (_ = _))

/-- **The passes agree**: the second one fills what the first one has asked
for, and the sentinel takes the last cell. -/
theorem obdConfigCmds_eq (logColumns : List Char) :
    Parsed logColumns ((strtokAll toklist logColumns).filterMap cmdFor) := by
  unfold Parsed obdConfigCmds
  generalize strtokAll toklist logColumns = toks
  have hcount : countLoop 0 toks = (toks.filterMap cmdFor).length :=
    (countLoop_eq toks 0).trans (Nat.zero_add _)
  have hstore := storeLoop_eq toks [] (n := (toks.filterMap cmdFor).length + 1)
    (by simp)
  rw [List.map_nil, filled_nil, List.nil_append, List.length_nil] at hstore
  rw [hcount]
  dsimp only
  rw [hstore, Option.bind_some]
  dsimp only
  rw [write_commands (Nat.lt_succ_self _), Option.map_some]
  generalize toks.filterMap cmdFor = cs
  -- commands and sentinel are as many as there are cells
  have hlen : cs.length.succ = (cs.map some ++ [none]).length := by simp
  rw [hlen, filled_length, List.map_append, List.map_map]
  rfl

/-! ## Which commands -/

/-- The number a token of one or two hex digits, and nothing else, is. -/
def hexToken : List Char → Option Nat
  | [c] => hexVal c
  | [c, d] => (hexVal c).bind fun a => (hexVal d).map fun b => 16 * a + b
  | _ => none

/-- The command a token names: that of its column, or of its PID. -/
def named (tok : List Char) : Option ObdServiceCmd :=
  (obdGetCmdForColumn (String.ofList tok)).or ((hexToken tok).bind obdGetCmdForPID)

/-- A token that is no column and no number, but begins like the number of a
PID: the value that `%2X` reads from its first two columns behind white space is
below 0x53. These columns are a digit, two of them, or a sign and a digit, so that
`-0` is misread and `-5`, which gives 2^32 - 5, is not; a `0x` which the width cuts
off gives no value. -/
def Misread (tok : List Char) : Prop :=
  obdGetCmdForColumn (String.ofList tok) = none ∧ hexToken tok = none ∧
    ∃ pid < 0x53, twoColumns (tok.dropWhile isspace) = some pid

theorem scanHexItem_value (tok : List Char) :
    (scanHexItem (some 2) tok).map Prod.fst = twoColumns (tok.dropWhile isspace) := by
  rw [← scanHex_two_value, scanHexItem]
  cases scanHex (some 2) tok <;> rfl

/-- A token that is a PID in hex, of two digits, is read by `%2X` as what it
says. -/
theorem twoColumns_hexToken {tok : List Char} {pid : Nat} (h : hexToken tok = some pid) :
    twoColumns (tok.dropWhile isspace) = some pid := by
  unfold hexToken at h
  split at h
  · next c =>
    rw [List.dropWhile_cons_of_neg (by rw [isspace_of_hexVal h]; decide)]
    simpa [twoColumns] using h
  · next c d =>
    obtain ⟨a, hc, hmap⟩ := Option.bind_eq_some_iff.mp h
    obtain ⟨b, hd, rfl⟩ := Option.map_eq_some_iff.mp hmap
    have hm := hexVal_ne hc '-' (by decide)
    have hp := hexVal_ne hc '+' (by decide)
    have hx := hexVal_ne hd 'x' (by decide)
    have hX := hexVal_ne hd 'X' (by decide)
    rw [List.dropWhile_cons_of_neg (by rw [isspace_of_hexVal hc]; decide), twoColumns_pair hm hp,
      if_neg (fun h => h.2.elim hx hX), hc, hd]
    rfl
  · cases h

/-- A token is taken for what it names, unless it is misread. -/
theorem cmdFor_cases (tok : List Char) :
    (¬ Misread tok ∧ cmdFor tok = named tok) ∨
      (Misread tok ∧ named tok = none ∧ (cmdFor tok).isSome) := by
  have hscan : ((scanHexItem (some 2) tok).bind fun item => obdGetCmdForPID item.1) =
      (twoColumns (tok.dropWhile isspace)).bind obdGetCmdForPID := by
    rw [← scanHexItem_value]
    cases scanHexItem (some 2) tok <;> rfl
  unfold cmdFor named Misread
  rw [hscan]
  cases hcol : obdGetCmdForColumn (String.ofList tok) with
  | some c => exact .inl ⟨fun h => absurd h.1 (by simp), rfl⟩
  | none =>
    rw [Option.none_or, Option.none_or]
    cases hhex : hexToken tok with
    | some pid => exact .inl ⟨fun h => absurd h.2.1 (by simp), by rw [twoColumns_hexToken hhex]⟩
    | none =>
      cases htwo : twoColumns (tok.dropWhile isspace) with
      | none => exact .inl ⟨fun ⟨_, _, _, _, h⟩ => absurd h (by simp), rfl⟩
      | some pid =>
        by_cases hpid : pid < 0x53
        · exact .inr ⟨⟨rfl, rfl, pid, hpid, rfl⟩, rfl, obdGetCmdForPID_isSome_iff.mpr hpid⟩
        · refine .inl ⟨fun ⟨_, _, _, hlt, h⟩ => hpid (Option.some.inj h ▸ hlt), ?_⟩
          show obdGetCmdForPID pid = none
          exact Option.not_isSome_iff_eq_none.mp fun h => hpid (obdGetCmdForPID_isSome_iff.mp h)

/-- Reading the tokens by `%2X` finds no fewer commands than are named by them,
and the same commands exactly if no token is misread. -/
theorem filterMap_named_iff : ∀ toks : List (List Char),
    (toks.filterMap named).length ≤ (toks.filterMap cmdFor).length ∧
      (toks.filterMap cmdFor = toks.filterMap named ↔ ∀ tok ∈ toks, ¬ Misread tok)
  | [] => ⟨Nat.le_refl _, by simp⟩
  | t :: toks => by
    obtain ⟨hle, hiff⟩ := filterMap_named_iff toks
    rcases cmdFor_cases t with ⟨hno, heq⟩ | ⟨hmis, hnone, hsome⟩
    · rw [List.filterMap_cons, List.filterMap_cons, heq, List.forall_mem_cons]
      cases named t with
      | none => exact ⟨hle, hiff.trans (and_iff_right hno).symm⟩
      | some c =>
        refine ⟨Nat.succ_le_succ hle, ?_⟩
        rw [and_iff_right hno, ← hiff]
        exact ⟨fun h => (List.cons.inj h).2, congrArg _⟩
    · obtain ⟨c, hc⟩ := Option.isSome_iff_exists.mp hsome
      rw [List.filterMap_cons_some hc, List.filterMap_cons_none hnone]
      refine ⟨Nat.le_succ_of_le hle, iff_of_false (fun h => ?_) fun h => h t (by simp) hmis⟩
      have hlen := congrArg List.length h
      rw [List.length_cons] at hlen
      omega

/-- **Column lists**: every list fills its array exactly, and what is in the
array are the commands its tokens name, if and only if no token is misread. -/
theorem parsed_iff (logColumns : List Char) :
    (∃ entries, Parsed logColumns entries) ∧
    (Parsed logColumns ((strtokAll toklist logColumns).filterMap named) ↔
      ∀ tok ∈ strtokAll toklist logColumns, ¬ Misread tok) := by
  have heq := obdConfigCmds_eq logColumns
  refine ⟨⟨_, heq⟩, ?_⟩
  rw [← (filterMap_named_iff _).2]
  refine ⟨fun h => ?_, fun h => h ▸ heq⟩
  -- the array determines the entries
  have hcells := congrArg Prod.snd (Option.some.inj (heq.symm.trans h))
  have hmap := List.append_cancel_right hcells
  exact (List.map_inj_right fun a b hab => Option.some.inj (Option.some.inj hab)).mp hmap

/-- `log_columns=fuel`: the token is no column, and `f` is PID 0x0F. -/
theorem fuel_misread :
    ¬ Parsed "fuel".toList ((strtokAll toklist "fuel".toList).filterMap named) := by
  decide +kernel

end ObdGpsLogger.Conf
