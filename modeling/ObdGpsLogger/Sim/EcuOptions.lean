import Mathlib.Data.List.Basic
import ObdGpsLogger.CLib.ScanInt
import ObdGpsLogger.Sim.Settings

/-!
# The ECUs of the command line

The options `-g`, `-s` and `-d` in `main` of `src/sim/obdsim.cc`: each `-g` is
for one more ECU, and a seed or a delay belongs to the last of them. What is
wrong is noted in `mustexit`, and the loop goes on; the program gives up behind
it, before a generator is created.

A seed or a delay before the first `-g` is noted as well, but the ECU it would
belong to is written all the same, at the index -1. `commandLineEcus_iff`:
without such an option all is as it should be.

Mirroring notes:
- The generators that are compiled in are an argument. `strcmp` compares whole
  names.
- Nothing is known of the memory in front of the array: a read there finds no
  seed and no delay, a write there changes no ECU. Both are kept in `accesses`.
- Of an ECU only the fields that the options set are here.
-/

namespace ObdGpsLogger.Sim

open CLib

/-! ## The code -/

/-- `available_generators`, their names, and `DEFAULT_SIMGEN`. -/
structure Generators (G : Type) where
  available : List G
  name : G → List Char
  defaultSimgen : List Char

/-- An option of the command line that is about an ECU, with its argument. -/
inductive EcuOption where
  | g (optarg : List Char)
  | s (optarg : List Char)
  | d (optarg : List Char)
  deriving DecidableEq, Repr

/-- What the options set of a `struct obdgen_ecu`. -/
structure CommandEcu (G : Type) where
  simgen : Option G
  ecuNum : Nat
  seed : Option (List Char)
  customdelay : Int
  deriving DecidableEq, Repr

/-- The variables of the loop, and the indices with which it accesses `ss.ecus`. -/
structure OptionLoop (G : Type) where
  ecus : List (CommandEcu G)
  currentEcu : Nat
  mustexit : Bool
  accesses : List Int

/-- How `main` goes on: the ECUs, and for which of them `create` is called. -/
structure EcuSetup (G : Type) where
  refused : Bool
  ecus : List (CommandEcu G)
  ecuCount : Nat
  created : List Nat
  accesses : List Int

section Code

variable {G : Type} (gens : Generators G)

/-- `find_generator`: the first generator of a name, if there is one. -/
def Generators.find (genName : List Char) : Option G :=
  gens.available.find? fun gen => genName == gens.name gen

/-- `obdsim_initialiseecu`, for the fields that the options set. -/
def initialiseEcu : CommandEcu G := ⟨none, 0, none, 0⟩

/-- The value of `ss.ecus[i]` where it is read. `none`: it is outside of the
array. -/
def ecuAt (ecus : List (CommandEcu G)) (i : Int) : Option (CommandEcu G) :=
  if 0 ≤ i then ecus[i.toNat]? else none

/-- The array after a field of `ss.ecus[i]` is written, if there is such an
entry. -/
def setEcu (ecus : List (CommandEcu G)) (i : Int) (f : CommandEcu G → CommandEcu G) :
    List (CommandEcu G) :=
  if 0 ≤ i then ecus.modify i.toNat f else ecus

/-- The body of the loop: what one option does to the ECUs. -/
def optionStep (st : OptionLoop G) : EcuOption → OptionLoop G
  | .g optarg =>
    if obdsimMaxecus ≤ st.currentEcu then { st with mustexit := true }
    else
      { ecus := setEcu st.ecus st.currentEcu fun ecu =>
          { ecu with simgen := gens.find optarg, ecuNum := st.currentEcu }
        currentEcu := st.currentEcu + 1
        mustexit := st.mustexit || (gens.find optarg).isNone
        accesses := st.accesses ++ [(st.currentEcu : Int)] }
  | .s optarg =>
    let i : Int := st.currentEcu - 1
    { st with
      ecus := setEcu st.ecus i fun ecu => { ecu with seed := some optarg }
      mustexit := st.mustexit || st.currentEcu == 0 || ((ecuAt st.ecus i).bind (·.seed)).isSome
      accesses := st.accesses ++ [i] }
  | .d optarg =>
    let i : Int := st.currentEcu - 1
    { st with
      ecus := setEcu st.ecus i fun ecu => { ecu with customdelay := atoi optarg }
      mustexit := st.mustexit || st.currentEcu == 0 ||
        ((ecuAt st.ecus i).map CommandEcu.customdelay).getD 0 != 0
      accesses := st.accesses ++ [i] }

/-- The loop over all of the options of a command line. -/
def optionLoop (opts : List EcuOption) : OptionLoop G :=
  opts.foldl (optionStep gens) ⟨List.replicate obdsimMaxecus initialiseEcu, 0, false, []⟩

/-- The ECU that is there without a `-g`. -/
def defaultEcu (st : OptionLoop G) : OptionLoop G :=
  if st.currentEcu = 0 then
    { ecus := setEcu st.ecus 0 fun ecu =>
        { ecu with simgen := gens.find gens.defaultSimgen, ecuNum := 0 }
      currentEcu := 1
      mustexit := st.mustexit || (gens.find gens.defaultSimgen).isNone
      accesses := st.accesses ++ [0] }
  else st

/-- The part of `main` from the options to the loop that creates the generators. -/
def setupEcus (opts : List EcuOption) : EcuSetup G :=
  let st := defaultEcu gens (optionLoop gens opts)
  let created := if st.mustexit then [] else List.range st.currentEcu
  ⟨st.mustexit, st.ecus, st.currentEcu, created, st.accesses ++ created.map Int.ofNat⟩

end Code

/-! ## Whose options they are -/

/-- A `-g`, and what is given after it and before the next one. -/
structure EcuArgs where
  gen : List Char
  seeds : List (List Char)
  delays : List (List Char)
  deriving DecidableEq, Repr

/-- An option is for the last `-g` in front of it, and a `-g` asks for one more
ECU. -/
def addOption (args : List EcuArgs) : EcuOption → List EcuArgs
  | .g gen => args ++ [⟨gen, [], []⟩]
  | .s seed => args.modify (args.length - 1) fun a => { a with seeds := a.seeds ++ [seed] }
  | .d delay => args.modify (args.length - 1) fun a => { a with delays := a.delays ++ [delay] }

/-- The ECUs that a command line asks for, each with the options of its own. -/
def ecuArgs (opts : List EcuOption) : List EcuArgs := opts.foldl addOption []

/-- The option is a `-g`. -/
def EcuOption.isGen : EcuOption → Bool
  | .g _ => true
  | _ => false

/-- There is no seed and no delay in front of the first `-g` of the command
line, so each of them belongs to an ECU. -/
def StartsWithGen (opts : List EcuOption) : Prop := ∀ o ∈ opts.head?, o.isGen = true

section Ownership

variable {G : Type} (gens : Generators G)

/-- An ECU as it was asked for, or not. -/
def ownedEcu (k : Nat) : Option EcuArgs → CommandEcu G
  | none => initialiseEcu
  | some a => ⟨gens.find a.gen, k, a.seeds.head?, (a.delays.getLast?.map atoi).getD 0⟩

/-- What the options of a command line should do. -/
structure CommandLineEcus (opts : List EcuOption) : Prop where
  /-- No ECU outside of the array is accessed. -/
  inside : ∀ i ∈ (setupEcus gens opts).accesses, 0 ≤ i ∧ i ≤ 5
  /-- There is one ECU for each `-g` of the command line, or one at all if there
  is none. -/
  count : (setupEcus gens opts).refused = false →
    (setupEcus gens opts).ecuCount = max 1 (opts.countP EcuOption.isGen)
  /-- Each ECU has the generator, the seed and the delay of its own `-g`, and
  that generator exists. -/
  owned : (setupEcus gens opts).refused = false → ∀ k a, (ecuArgs opts)[k]? = some a →
    (setupEcus gens opts).ecus[k]? = some (ownedEcu gens k (some a)) ∧
      (gens.find a.gen).isSome
  byDefault : (setupEcus gens opts).refused = false → opts.countP EcuOption.isGen = 0 →
    (setupEcus gens opts).ecus[0]? = some (ownedEcu gens 0 (some ⟨gens.defaultSimgen, [], []⟩)) ∧
      (gens.find gens.defaultSimgen).isSome
  /-- A command line that is wrong is refused, and it is before a generator is
  created. -/
  refuses : ¬ StartsWithGen opts ∨ (∃ a ∈ ecuArgs opts, 1 < a.seeds.length) ∨
    obdsimMaxecus < opts.countP EcuOption.isGen →
    (setupEcus gens opts).refused = true ∧ (setupEcus gens opts).created = []

/-! ## The loop over the options -/

/-- What the loop has made of the options so far, if there was a `-g`, or
nothing at all. -/
structure Parsed (args : List EcuArgs) (st : OptionLoop G) : Prop where
  current : st.currentEcu = min args.length obdsimMaxecus
  inside : ∀ i ∈ st.accesses, 0 ≤ i ∧ i ≤ 5
  owned : st.mustexit = false → args.length ≤ obdsimMaxecus ∧
    (∀ a ∈ args, a.seeds.length ≤ 1 ∧ (gens.find a.gen).isSome) ∧
    st.ecus = (List.range obdsimMaxecus).map fun k => ownedEcu gens k args[k]?

variable {gens}

/-- One ECU changes, as what is asked for it does. -/
theorem map_ownedEcu_modify {args args' : List EcuArgs} {i : Nat}
    {f : CommandEcu G → CommandEcu G} (hother : ∀ k, k ≠ i → args'[k]? = args[k]?)
    (hat : f (ownedEcu gens i args[i]?) = ownedEcu gens i args'[i]?) :
    ((List.range obdsimMaxecus).map fun k => ownedEcu gens k args[k]?).modify i f =
      (List.range obdsimMaxecus).map fun k => ownedEcu gens k args'[k]? := by
  refine List.ext_getElem? fun k => ?_
  rw [List.getElem?_modify, List.getElem?_map, List.getElem?_map]
  by_cases hk : k < obdsimMaxecus
  · rw [List.getElem?_range hk]
    by_cases hi : i = k
    · subst hi
      simp [hat]
    · simp [hi, hother k (Ne.symm hi)]
  · rw [List.getElem?_eq_none (by rw [List.length_range]; exact Nat.not_lt.mp hk)]
    rfl

theorem setEcu_natCast (ecus : List (CommandEcu G)) (i : Nat) (f : CommandEcu G → CommandEcu G) :
    setEcu ecus i f = ecus.modify i f := by
  rw [setEcu, if_pos (Int.natCast_nonneg i), Int.toNat_natCast]

theorem ecuAt_natCast (ecus : List (CommandEcu G)) (i : Nat) : ecuAt ecus i = ecus[i]? := by
  rw [ecuAt, if_pos (Int.natCast_nonneg i), Int.toNat_natCast]

/-- **A `-g`** asks for one more ECU: behind it, the loop stands as it should
with that ECU as the current one. -/
theorem Parsed.gen {args : List EcuArgs} {st : OptionLoop G} (h : Parsed gens args st)
    (optarg : List Char) :
    Parsed gens (addOption args (.g optarg)) (optionStep gens st (.g optarg)) := by
  have hcurrent := h.current
  rw [addOption, optionStep]
  split
  · -- all places are taken: the option is refused and nothing is stored
    next hfull =>
    refine ⟨?_, h.inside, fun he => ?_⟩
    · dsimp only
      rw [List.length_append, List.length_singleton]
      omega
    · cases he
  · -- there is a place, and its index is the number of ECUs so far
    next hroom =>
    have hlen : st.currentEcu = args.length := by omega
    refine ⟨?_, fun i hi => ?_, fun he => ?_⟩
    · dsimp only
      rw [List.length_append, List.length_singleton]
      omega
    · rcases List.mem_append.mp hi with hold | hnew
      · exact h.inside i hold
      · rw [List.mem_singleton.mp hnew]
        have hmax : obdsimMaxecus = 6 := rfl
        omega
    · obtain ⟨hold, hfound⟩ := Bool.or_eq_false_iff.mp he
      obtain ⟨-, hargs, hecus⟩ := h.owned hold
      refine ⟨?_, fun a ha => ?_, ?_⟩
      · rw [List.length_append, List.length_singleton]
        omega
      · rcases List.mem_append.mp ha with ha | ha
        · exact hargs a ha
        · rw [List.mem_singleton.mp ha]
          exact ⟨Nat.zero_le 1, by simpa using hfound⟩
      · dsimp only
        rw [setEcu_natCast, hecus, hlen]
        -- the other places are those of the ECUs before it
        refine map_ownedEcu_modify (fun k hk => ?_) ?_
        · rcases Nat.lt_or_gt_of_ne hk with hlt | hgt
          · exact List.getElem?_append_left hlt
          · rw [List.getElem?_eq_none (by rw [List.length_append, List.length_singleton]; omega),
              List.getElem?_eq_none (Nat.le_of_lt hgt)]
        · rw [List.getElem?_append_right (Nat.le_refl _), Nat.sub_self,
            List.getElem?_eq_none (Nat.le_refl _)]
          rfl

/-- **A seed or a delay** changes the ECU of the last `-g`. -/
theorem Parsed.own {args : List EcuArgs} {st : OptionLoop G} (h : Parsed gens args st)
    (hne : args ≠ []) {f : CommandEcu G → CommandEcu G} {g : EcuArgs → EcuArgs} {bad : Bool}
    (hgen : ∀ a, (g a).gen = a.gen)
    (hgood : bad = false → ∀ a, args[args.length - 1]? = some a → a.seeds.length ≤ 1 →
      ecuAt st.ecus (st.currentEcu - 1) = some (ownedEcu gens (args.length - 1) (some a)) →
      (g a).seeds.length ≤ 1 ∧ f (ownedEcu gens (args.length - 1) (some a)) =
        ownedEcu gens (args.length - 1) (some (g a))) :
    Parsed gens (args.modify (args.length - 1) g)
      { st with
        ecus := setEcu st.ecus (st.currentEcu - 1) f
        mustexit := st.mustexit || bad
        accesses := st.accesses ++ [(st.currentEcu : Int) - 1] } := by
  have hcurrent := h.current
  have hmax : obdsimMaxecus = 6 := rfl
  have hpos : 0 < args.length := List.length_pos_of_ne_nil hne
  refine ⟨by rw [List.length_modify]; exact hcurrent, fun i hi => ?_, fun he => ?_⟩
  · rcases List.mem_append.mp hi with hold | hnew
    · exact h.inside i hold
    · rw [List.mem_singleton.mp hnew]
      omega
  · obtain ⟨hold, hbad⟩ := Bool.or_eq_false_iff.mp he
    obtain ⟨hlen, hargs, hecus⟩ := h.owned hold
    have hidx : (st.currentEcu : Int) - 1 = (args.length - 1 : Nat) := by omega
    obtain ⟨last, hlast⟩ : ∃ last, args[args.length - 1]? = some last :=
      ⟨_, List.getElem?_eq_getElem (Nat.sub_lt hpos Nat.one_pos)⟩
    -- the ECU of the last `-g`, before the option
    have hecu : ecuAt st.ecus (st.currentEcu - 1) =
        some (ownedEcu gens (args.length - 1) (some last)) := by
      rw [hidx, ecuAt_natCast, hecus, List.getElem?_map, List.getElem?_range (by omega),
        Option.map_some, hlast]
    obtain ⟨hseeds, hf⟩ := hgood hbad last hlast (hargs _ (List.mem_of_getElem? hlast)).1 hecu
    refine ⟨by rw [List.length_modify]; exact hlen, fun a ha => ?_, ?_⟩
    · obtain ⟨k, hk⟩ := List.mem_iff_getElem?.mp ha
      rw [List.getElem?_modify] at hk
      obtain ⟨b, hb, hba⟩ := Option.map_eq_some_iff.mp hk
      have hbargs := hargs b (List.mem_of_getElem? hb)
      split at hba
      · next hk =>
        subst hk
        obtain rfl : last = b := Option.some.inj (hlast.symm.trans hb)
        rw [← hba]
        exact ⟨hseeds, by rw [hgen]; exact hbargs.2⟩
      · obtain rfl : b = a := hba
        exact hbargs
    · dsimp only
      rw [hidx, setEcu_natCast, hecus]
      refine map_ownedEcu_modify (fun k hk => ?_) ?_
      · exact List.getElem?_modify_ne g args (Ne.symm hk)
      · rw [List.getElem?_modify_eq, hlast]
        exact hf

/-- **An option** that is a `-g`, or has one before it. -/
theorem Parsed.step {args : List EcuArgs} {st : OptionLoop G} (h : Parsed gens args st)
    (o : EcuOption) (hlead : args ≠ [] ∨ o.isGen = true) :
    Parsed gens (addOption args o) (optionStep gens st o) := by
  cases o with
  | g optarg => exact h.gen optarg
  | s optarg =>
    have hne : args ≠ [] := hlead.resolve_right Bool.false_ne_true
    rw [optionStep, Bool.or_assoc]
    refine h.own hne (fun _ => rfl) fun hbad a _ hseeds hecu => ?_
    -- there was no seed
    obtain ⟨-, hnone⟩ := Bool.or_eq_false_iff.mp hbad
    rw [hecu] at hnone
    have hnil : a.seeds = [] := by
      cases hs : a.seeds with
      | nil => rfl
      | cons seed seeds =>
        rw [Option.bind_some, ownedEcu, hs] at hnone
        cases hnone
    dsimp only [ownedEcu]
    rw [hnil]
    exact ⟨Nat.le_refl 1, rfl⟩
  | d optarg =>
    have hne : args ≠ [] := hlead.resolve_right Bool.false_ne_true
    rw [optionStep, Bool.or_assoc]
    refine h.own hne (fun _ => rfl) fun _ a _ hseeds _ => ⟨hseeds, ?_⟩
    dsimp only [ownedEcu]
    rw [List.getLast?_concat]
    rfl

/-- **The loop**: every `-g` comes before the options that are its own. -/
theorem parsed_options : ∀ (opts : List EcuOption) {args : List EcuArgs} {st : OptionLoop G},
    Parsed gens args st → (args ≠ [] ∨ StartsWithGen opts) →
    Parsed gens (opts.foldl addOption args) (opts.foldl (optionStep gens) st) := by
  intro opts
  induction opts with
  | nil => exact fun h _ => h
  | cons o opts ih =>
    intro args st h hlead
    have hstep := h.step o (hlead.imp_right fun hs => hs o rfl)
    refine ih hstep (Or.inl ?_)
    have hgen : args ≠ [] ∨ o.isGen = true := hlead.imp_right fun hs => hs o rfl
    intro hnil
    have hlen := congrArg List.length hnil
    cases o with
    | g optarg =>
      rw [addOption, List.length_append] at hlen
      cases hlen
    | s optarg =>
      rw [addOption, List.length_modify] at hlen
      exact hgen.resolve_right Bool.false_ne_true (List.length_eq_zero_iff.mp hlen)
    | d optarg =>
      rw [addOption, List.length_modify] at hlen
      exact hgen.resolve_right Bool.false_ne_true (List.length_eq_zero_iff.mp hlen)

theorem parsed_init : Parsed gens [] ⟨List.replicate obdsimMaxecus initialiseEcu, 0, false, []⟩ :=
  ⟨rfl, fun _ hi => absurd hi List.not_mem_nil, fun _ =>
    ⟨Nat.zero_le _, fun _ ha => absurd ha List.not_mem_nil, rfl⟩⟩

/-- The command line asks for as many ECUs as it has `-g` in it. -/
theorem ecuArgs_length (opts : List EcuOption) :
    (ecuArgs opts).length = opts.countP EcuOption.isGen := by
  have hfrom : ∀ (opts : List EcuOption) (args : List EcuArgs),
      (opts.foldl addOption args).length = args.length + opts.countP EcuOption.isGen := by
    intro opts
    induction opts with
    | nil => exact fun _ => rfl
    | cons o opts ih =>
      intro args
      rw [List.foldl_cons, ih]
      cases o with
      | g optarg =>
        rw [addOption, List.length_append, List.length_singleton, List.countP_cons_of_pos rfl]
        omega
      | s optarg => rw [addOption, List.length_modify, List.countP_cons_of_neg Bool.false_ne_true]
      | d optarg => rw [addOption, List.length_modify, List.countP_cons_of_neg Bool.false_ne_true]
  rw [ecuArgs, hfrom, List.length_nil, Nat.zero_add]

/-! ## The whole command line -/

/-- An index that was used, and an error that was noted, stay. -/
theorem optionLoop_keeps (opts : List EcuOption) (st : OptionLoop G) :
    (∀ i ∈ st.accesses, i ∈ (opts.foldl (optionStep gens) st).accesses) ∧
      (st.mustexit = true → (opts.foldl (optionStep gens) st).mustexit = true) := by
  induction opts generalizing st with
  | nil => exact ⟨fun _ hi => hi, id⟩
  | cons o opts ih =>
    have hstep : (∀ i ∈ st.accesses, i ∈ (optionStep gens st o).accesses) ∧
        (st.mustexit = true → (optionStep gens st o).mustexit = true) := by
      cases o with
      | g optarg =>
        rw [optionStep]
        split
        · exact ⟨fun _ hi => hi, fun _ => rfl⟩
        · exact ⟨fun _ hi => List.mem_append_left _ hi, fun he => by simp [he]⟩
      | s optarg =>
        exact ⟨fun _ hi => List.mem_append_left _ hi, fun he => by simp [optionStep, he]⟩
      | d optarg =>
        exact ⟨fun _ hi => List.mem_append_left _ hi, fun he => by simp [optionStep, he]⟩
    obtain ⟨haccess, hexit⟩ := ih (optionStep gens st o)
    exact ⟨fun i hi => haccess i (hstep.1 i hi), fun he => hexit (hstep.2 he)⟩

/-- **A seed or a delay before the first `-g`** is noted, and the array is left. -/
theorem optionLoop_leading {opts : List EcuOption} (h : ¬ StartsWithGen opts) :
    -1 ∈ (optionLoop gens opts).accesses ∧ (optionLoop gens opts).mustexit = true := by
  cases opts with
  | nil => exact absurd (fun o ho => by cases ho) h
  | cons o opts =>
    have hfirst : -1 ∈ (optionStep gens ⟨List.replicate obdsimMaxecus initialiseEcu, 0, false, []⟩
          o).accesses ∧
        (optionStep gens ⟨List.replicate obdsimMaxecus initialiseEcu, 0, false, []⟩
          o).mustexit = true := by
      cases o with
      | g optarg => exact absurd (fun o ho => Option.some.inj ho ▸ rfl) h
      | s optarg => exact ⟨List.mem_singleton_self _, rfl⟩
      | d optarg => exact ⟨List.mem_singleton_self _, rfl⟩
    obtain ⟨haccess, hexit⟩ := optionLoop_keeps opts
      (optionStep gens ⟨List.replicate obdsimMaxecus initialiseEcu, 0, false, []⟩ o)
    exact ⟨haccess _ hfirst.1, hexit hfirst.2⟩

/-- A command line without a `-g` gets one ECU behind the loop: with the default
generator, no seed and no delay. -/
theorem defaultEcu_of_none {st : OptionLoop G} (h : Parsed gens [] st) :
    (defaultEcu gens st).currentEcu = 1 ∧
      (∀ i ∈ (defaultEcu gens st).accesses, 0 ≤ i ∧ i ≤ 5) ∧
      ((defaultEcu gens st).mustexit = false →
        (defaultEcu gens st).ecus[0]? =
          some (ownedEcu gens 0 (some ⟨gens.defaultSimgen, [], []⟩)) ∧
        (gens.find gens.defaultSimgen).isSome) := by
  have hzero : st.currentEcu = 0 := h.current
  rw [defaultEcu, if_pos hzero]
  refine ⟨rfl, fun i hi => ?_, fun he => ?_⟩
  · rcases List.mem_append.mp hi with hold | hnew
    · exact h.inside i hold
    · rw [List.mem_singleton.mp hnew]
      decide
  · obtain ⟨hold, hfound⟩ := Bool.or_eq_false_iff.mp he
    obtain ⟨-, -, hecus⟩ := h.owned hold
    refine ⟨?_, by simpa using hfound⟩
    rw [hecus]
    rfl

theorem defaultEcu_of_gen {args : List EcuArgs} {st : OptionLoop G} (h : Parsed gens args st)
    (hne : args ≠ []) : defaultEcu gens st = st := by
  have hcurrent := h.current
  have hpos : 0 < args.length := List.length_pos_of_ne_nil hne
  have hmax : obdsimMaxecus = 6 := rfl
  rw [defaultEcu, if_neg (by omega)]

/-- The ECUs that are created are in the array, if it has them. -/
theorem setupEcus_inside {opts : List EcuOption}
    (hcurrent : (defaultEcu gens (optionLoop gens opts)).currentEcu ≤ 6)
    (h : ∀ i ∈ (defaultEcu gens (optionLoop gens opts)).accesses, 0 ≤ i ∧ i ≤ 5) :
    ∀ i ∈ (setupEcus gens opts).accesses, 0 ≤ i ∧ i ≤ 5 := by
  intro i hi
  rcases List.mem_append.mp hi with hold | hcreated
  · exact h i hold
  · obtain ⟨k, hk, rfl⟩ := List.mem_map.mp hcreated
    split at hk
    · exact absurd hk List.not_mem_nil
    · have hlt := List.mem_range.mp hk
      change (0 : Int) ≤ (k : Int) ∧ (k : Int) ≤ 5
      omega

/-- A seed or a delay before the first `-g` leaves the array. -/
theorem not_commandLineEcus {opts : List EcuOption} (hlead : ¬ StartsWithGen opts) :
    ¬ CommandLineEcus gens opts := by
  intro h
  have hleft : -1 ∈ (optionLoop gens opts).accesses := (optionLoop_leading hlead).1
  have hoption : -1 ∈ (defaultEcu gens (optionLoop gens opts)).accesses := by
    unfold defaultEcu
    split
    · exact List.mem_append_left _ hleft
    · exact hleft
  exact absurd (h.inside (-1) (List.mem_append_left _ hoption)).1 (by decide)

/-- A command line without a `-g` sets the ECUs up as it should: there is the
default one. -/
theorem commandLineEcus_of_none {opts : List EcuOption} (hs : StartsWithGen opts)
    (hparsed : Parsed gens (ecuArgs opts) (optionLoop gens opts)) (hnone : ecuArgs opts = []) :
    CommandLineEcus gens opts := by
  have hlen := ecuArgs_length opts
  rw [hnone] at hparsed hlen
  obtain ⟨hcurrent, hinside, hdefault⟩ := defaultEcu_of_none hparsed
  refine ⟨setupEcus_inside (by omega) hinside, fun _ => ?_, fun _ k a ha => ?_,
    fun he _ => hdefault he, fun hbad => ?_⟩
  · rw [← hlen]
    exact hcurrent
  · rw [hnone] at ha
    cases ha
  · rw [hnone, ← hlen] at hbad
    rcases hbad with hlead | ⟨a, ha, -⟩ | hmany
    · exact absurd hs hlead
    · cases ha
    · exact absurd hmany (Nat.not_lt_zero _)

/-- A command line with a `-g` sets the ECUs up as it should: there are those
that the loop over the options has made. -/
theorem commandLineEcus_of_gen {opts : List EcuOption} (hs : StartsWithGen opts)
    (hparsed : Parsed gens (ecuArgs opts) (optionLoop gens opts)) (hne : ecuArgs opts ≠ []) :
    CommandLineEcus gens opts := by
  have hlen := ecuArgs_length opts
  have hmax : obdsimMaxecus = 6 := rfl
  have hst := defaultEcu_of_gen hparsed hne
  have hcurrent := hparsed.current
  have hpos : 0 < (ecuArgs opts).length := List.length_pos_of_ne_nil hne
  have hrefused : (setupEcus gens opts).refused = (optionLoop gens opts).mustexit :=
    congrArg OptionLoop.mustexit hst
  refine ⟨setupEcus_inside (by rw [hst]; omega) (by rw [hst]; exact hparsed.inside),
    fun he => ?_, fun he k a ha => ?_, fun _ hzero => by omega, fun hbad => ?_⟩
  · obtain ⟨hroom, -, -⟩ := hparsed.owned (hrefused ▸ he)
    have hcount : (setupEcus gens opts).ecuCount = (optionLoop gens opts).currentEcu :=
      congrArg OptionLoop.currentEcu hst
    omega
  · obtain ⟨hroom, hargs, hecus⟩ := hparsed.owned (hrefused ▸ he)
    obtain ⟨hk, -⟩ := List.getElem?_eq_some_iff.mp ha
    have hecu : (setupEcus gens opts).ecus = (optionLoop gens opts).ecus :=
      congrArg OptionLoop.ecus hst
    refine ⟨?_, (hargs a (List.mem_of_getElem? ha)).2⟩
    rw [hecu, hecus, List.getElem?_map, List.getElem?_range (by omega), Option.map_some, ha]
  · -- what cannot be set up is refused, and no generator is created
    have hexit : (setupEcus gens opts).refused = true := by
      by_contra hgo
      obtain ⟨hroom, hargs, -⟩ := hparsed.owned (hrefused ▸ Bool.eq_false_iff.mpr hgo)
      rcases hbad with hlead | ⟨a, ha, hseeds⟩ | hmany
      · exact hlead hs
      · exact absurd hseeds (Nat.not_lt.mpr (hargs a ha).1)
      · omega
    exact ⟨hexit, if_pos hexit⟩

/-- **The ECUs of the command line** are as they were asked for, and no other
memory is accessed, if and only if no seed and no delay comes before the first
`-g`. -/
theorem commandLineEcus_iff (gens : Generators G) (opts : List EcuOption) :
    CommandLineEcus gens opts ↔ StartsWithGen opts := by
  constructor
  · intro h
    by_contra hlead
    exact not_commandLineEcus hlead h
  · intro hs
    have hparsed : Parsed gens (ecuArgs opts) (optionLoop gens opts) :=
      parsed_options opts parsed_init (Or.inr hs)
    by_cases hne : ecuArgs opts = []
    · exact commandLineEcus_of_none hs hparsed hne
    · exact commandLineEcus_of_gen hs hparsed hne

end Ownership

/-- The generators of a small build, of which one is the default. -/
def twoGenerators : Generators Bool :=
  ⟨[false, true], fun gen => if gen then "Random".toList else "Cycle".toList, "Cycle".toList⟩

/-- A seed in front of the generator is written outside of the array. -/
theorem seedFirst_outside : ¬ CommandLineEcus twoGenerators [.s "5".toList, .g "Cycle".toList] := by
  intro h
  have hinside := h.inside (-1) (by decide +kernel)
  exact absurd hinside.1 (by decide)

end ObdGpsLogger.Sim
