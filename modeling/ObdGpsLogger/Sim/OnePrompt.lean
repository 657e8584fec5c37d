import Mathlib
import ObdGpsLogger.Machine.Run
import ObdGpsLogger.Sim.EcuDelay
import ObdGpsLogger.Sim.ParseATcmd

/-!
# One prompt for each command

A reader on the other end takes the prompt character as the end of a reply, so
it must not be in one. Most responses are made of printed numbers and fixed
texts, but some quote strings: the version and the device `main` was given, and
the identifier that an earlier AT command has set. `Configured` says that none
of them contains a prompt; every command keeps it, and so does every pass
(`simPass_onePrompt`). `mainLoop_onePrompt` is what follows for a whole run, for
any answers of the generators.
-/

namespace ObdGpsLogger.Sim

open CLib Machine

/-- The character that ends a reply. -/
def promptChar : Char := '>'

/-- A text in which no prompt stands. -/
def Bare (s : List Char) : Prop := promptChar ∉ s

/-- A reply: one prompt, and it is the last byte. -/
def OnePrompt (text : List Char) : Prop :=
  text.count promptChar = 1 ∧ text.getLast? = some promptChar

/-! ## Texts without a prompt -/

@[simp] theorem bare_nil : Bare [] := List.not_mem_nil

@[simp] theorem bare_append {s t : List Char} : Bare (s ++ t) ↔ Bare s ∧ Bare t := by
  simp [Bare]

theorem bare_of_subset {s t : List Char} (h : s ⊆ t) (ht : Bare t) : Bare s := fun hs => ht (h hs)

/-- What follows the two letters of a command, and blanks. -/
theorem bare_argument {s : List Char} (hs : Bare s) :
    Bare ((s.drop 2).dropWhile (fun c => c == ' ')) :=
  bare_of_subset (List.Subset.trans (List.dropWhile_subset ..) (List.drop_subset ..)) hs

theorem bare_snprintf {n : Nat} {s : List Char} (hs : Bare s) : Bare (snprintf n s) :=
  bare_of_subset (List.take_subset ..) hs

theorem bare_flatMap {α : Type} {f : α → List Char} {l : List α} (h : ∀ a ∈ l, Bare (f a)) :
    Bare (l.flatMap f) := by
  intro hmem
  obtain ⟨a, ha, hc⟩ := List.mem_flatMap.mp hmem
  exact h a ha hc

@[simp] theorem bare_fmtX (w n : Nat) : Bare (fmtX w n) := fun h =>
  absurd (mem_fmtX h) (by decide)

theorem bare_toDigits (n : Nat) : Bare (Nat.toDigits 10 n) := fun h =>
  absurd (Nat.isDigit_of_mem_toDigits (by decide) (by decide) h) (by decide)

@[simp] theorem bare_space (eSpaces : Int) : Bare (space eSpaces) := by
  unfold space
  split <;> simp [Bare, promptChar]

@[simp] theorem bare_newline (eLinefeed : Int) : Bare (newline eLinefeed) := by
  unfold newline
  split <;> simp [Bare, promptChar]

/-- `toupper` changes the 26 small letters only. -/
theorem toUpper_cases (c : Char) :
    c.toUpper = c ∨ ∃ n < 26, c.toUpper = Char.ofNat (65 + n) := by
  have hletters : ∀ n < 26, (Char.ofNat (97 + n)).toUpper = Char.ofNat (65 + n) := by decide
  by_cases hc : 'a'.val ≤ c.val ∧ c.val ≤ 'z'.val
  · right
    have hlow : 97 ≤ c.toNat := UInt32.le_iff_toNat_le.mp hc.1
    have hhigh : c.toNat ≤ 122 := UInt32.le_iff_toNat_le.mp hc.2
    refine ⟨c.toNat - 97, by omega, ?_⟩
    have hofNat : Char.ofNat (97 + (c.toNat - 97)) = c := by
      rw [Nat.add_sub_cancel' hlow, Char.ofNat_toNat]
    rw [← hletters _ (by omega), hofNat]
  · left
    exact dif_neg hc

/-- Turning a text to upper case makes no prompt in it. -/
theorem bare_map_toUpper {s : List Char} (hs : Bare s) : Bare (s.map Char.toUpper) := by
  have hcapitals : ∀ n < 26, Char.ofNat (65 + n) ≠ promptChar := by decide
  intro hmem
  obtain ⟨c, hc, hup⟩ := List.mem_map.mp hmem
  rcases toUpper_cases c with h | ⟨n, hn, h⟩
  · rw [h] at hup
    exact hs (hup ▸ hc)
  · exact hcapitals n hn (h.symm.trans hup)

/-- A text without a prompt, with the prompt behind it, has one prompt, and at
its end. -/
theorem onePrompt_of_bare {body : List Char} (h : Bare body) : OnePrompt (body ++ elmPrompt) := by
  constructor
  · rw [List.count_append, List.count_eq_zero.mpr h]
    rfl
  · rw [List.getLast?_append]
    rfl

/-! ## Responses -/

/-- Settings whose strings have no prompt in them, with a protocol of the table. -/
structure Configured (ss : SimSettings) : Prop where
  version : Bare ss.elmVersion
  device : Bare ss.elmDevice
  identifier : ∀ id ∈ ss.deviceIdentifier, Bare id
  protocol : ss.eProtocol ∈ obdprotocols

/-- The settings that `main` starts from are configured: none of their texts has
a prompt in it. -/
theorem initialise_configured : Configured obdsimInitialisesimsettings := by
  refine ⟨?_, ?_, ?_, ?_⟩
  · simp [Bare, promptChar, obdsimInitialisesimsettings, obdsimElmreset]
  · simp [Bare, promptChar, obdsimInitialisesimsettings, obdsimElmreset]
  · simp [Bare, promptChar, obdsimInitialisesimsettings, obdsimElmreset]
  · decide

/-- The settings that `main` starts from are configured with any ECUs, too. -/
theorem startSettings_configured (customdelays : List Int)
    (h : customdelays.length ≤ obdsimMaxecus) : Configured (startSettings customdelays h) := by
  obtain ⟨hversion, hdevice, hid, hproto⟩ := initialise_configured
  exact ⟨hversion, hdevice, hid, hproto⟩

theorem bare_renderObdheader (buflen : Nat) (proto : ObdiiProtocol) (ecuNum messagelen : Nat)
    (spaces dlc : Int) : Bare (renderObdheader buflen proto ecuNum messagelen spaces dlc) := by
  have hdlc :
      Bare (if dlc ≠ 0 then snprintf 8 (fmtX 1 (messagelen + 2) ++ space spaces) else []) := by
    split
    · exact bare_snprintf (by simp)
    · exact bare_nil
  have hliteral : Bare "41".toList ∧ Bare "6B".toList ∧ Bare "48".toList ∧ Bare "F1".toList := by
    simp [Bare, promptChar]
  obtain ⟨h41, h6B, h48, hF1⟩ := hliteral
  unfold renderObdheader
  dsimp only
  cases proto.headertype
  case null => exact bare_nil
  all_goals
    apply bare_snprintf
    simp only [bare_append, bare_fmtX, bare_space, h41, h48, h6B, hF1, hdlc, and_self]

theorem bare_header (ss : SimSettings) (ecuNum messagelen : Nat) :
    Bare (ss.header ecuNum messagelen) := by
  unfold SimSettings.header
  split
  · exact bare_renderObdheader _ _ _ _ _ _
  · exact bare_nil

theorem bare_errorLine (ss : SimSettings) (ecuNum errorcount : Nat) (errorcodes : Nat → Nat)
    (j : Nat) : Bare (errorLine ss ecuNum errorcount errorcodes j) := by
  refine bare_snprintf ?_
  rw [bare_append, bare_append]
  refine ⟨⟨bare_header ss ecuNum 7, bare_fmtX _ _⟩, bare_snprintf ?_⟩
  simp only [bare_append, bare_fmtX, bare_space, and_self]

theorem bare_ffmessage (ss : SimSettings) (mode pid : Nat) (frame : Int) (f : Freezeframe) :
    Bare (ffmessage ss mode pid frame f) := by
  unfold ffmessage
  dsimp only
  split
  · refine bare_snprintf ?_
    simp only [bare_append, bare_fmtX, bare_space, true_and]
    exact bare_flatMap fun k _ => by simp only [bare_append, bare_fmtX, bare_space, and_self]
  · exact bare_nil

theorem bare_shortbuf (ss : SimSettings) (v : Nat) : Bare (shortbuf ss v) :=
  bare_snprintf (by simp only [bare_append, bare_fmtX, bare_space, and_self])

theorem bare_valueLine (ss : SimSettings) (ecuNum mode pid : Nat) (v : GenValue) :
    Bare (valueLine ss ecuNum mode pid v) := by
  unfold valueLine
  dsimp only
  rw [bare_append, bare_append]
  refine ⟨⟨bare_snprintf ?_, bare_flatMap fun b _ => bare_shortbuf ss b⟩, ?_⟩
  · simp only [bare_append, bare_fmtX, bare_space, bare_header, and_self]
  · split
    · exact bare_shortbuf _ _
    · exact bare_nil

theorem bare_ecuLoop (ss : SimSettings) (gens : Nat → Simgen) (mode pid : Nat) :
    ∀ (acc : Int) (ds : List ObdgenEcudelay),
      ∀ r ∈ (ecuLoop ss gens mode pid acc ds).responses, Bare r
  | _, [], _, hr => by cases hr
  | acc, d :: ds, r, hr => by
    rw [ecuLoop] at hr
    split at hr
    · exact bare_ecuLoop ss gens mode pid acc ds r hr
    · dsimp only at hr
      split at hr
      · cases hr
      · dsimp only at hr
        split at hr
        · rcases List.mem_cons.mp hr with rfl | hr
          · exact bare_valueLine _ _ _ _ _
          · exact bare_ecuLoop ss gens mode pid _ ds r hr
        · exact bare_ecuLoop ss gens mode pid _ ds r hr

theorem bare_elmPrompts : Bare elmQueryPrompt ∧ Bare elmOkPrompt ∧ Bare elmNodataPrompt := by
  unfold Bare
  decide

/-- No response to a request has a prompt in it, whatever the ECUs answer. -/
theorem bare_handle (ss : SimSettings) (gens : Nat → Simgen) (line : List Char) :
    ∀ r ∈ (handle ss gens line).responses, Bare r := by
  obtain ⟨hquery, hok, -⟩ := bare_elmPrompts
  have hone : ∀ text, Bare text → ∀ r ∈ (Handled.of [text]).responses, Bare r := by
    intro text htext r hr
    rwa [List.mem_singleton.mp hr]
  -- a request of one number: stored errors, or the reset of them
  have h1 : ∀ mode, ∀ r ∈ (request1 ss gens mode).responses, Bare r := by
    intro mode
    unfold request1
    split
    · intro r hr
      obtain ⟨i, -, hr⟩ := List.mem_flatMap.mp hr
      unfold errorLines at hr
      split at hr
      · cases hr
      · obtain ⟨k, -, rfl⟩ := List.mem_map.mp hr
        exact bare_errorLine _ _ _ _ _
    · split
      · exact hone _ hok
      · exact hone _ hquery
  -- a request of more numbers: a freeze frame, or a value of each ECU in time
  have h2 : ∀ mode pid frame, ∀ r ∈ (request2 ss gens mode pid frame).responses, Bare r := by
    intro mode pid frame
    unfold request2
    split
    · exact hone _ hquery
    · split
      · intro r hr
        obtain ⟨e, -, hr⟩ := List.mem_filterMap.mp hr
        unfold frameAnswer at hr
        split at hr
        · dsimp only at hr
          split at hr
          · obtain rfl := Option.some.inj hr
            exact bare_snprintf (bare_append.mpr ⟨bare_header _ _ _, bare_ffmessage _ _ _ _ _⟩)
          · cases hr
        · cases hr
      · split
        · nofun
        · exact bare_ecuLoop ss gens mode pid 0 ss.ecudelays
  -- any other text is answered with a question mark
  unfold handle
  split
  · exact hone _ hquery
  · exact h1 _
  · exact h2 _ _ _
  · exact h2 _ _ _

/-- The reply to a request ends in its only prompt. -/
theorem request_onePrompt (ss : SimSettings) (gens : Nat → Simgen) (line : List Char) :
    OnePrompt (request ss gens line) := by
  unfold request
  refine onePrompt_of_bare ?_
  rw [bare_append, bare_append]
  refine ⟨⟨bare_newline _, bare_flatMap fun r hr => ?_⟩, ?_⟩
  · exact bare_append.mpr ⟨bare_handle ss gens line r hr, bare_newline _⟩
  · split
    · exact bare_append.mpr ⟨bare_elmPrompts.2.2, bare_newline _⟩
    · exact bare_nil

/-! ## AT commands -/

/-- What a branch must leave behind: settings whose texts have no prompt, and a
reply without one. -/
structure Answered (r : AtResult) : Prop where
  configured : Configured r.ss
  response : ∀ text ∈ r.response, Bare text

theorem answered_unrecognised {ss : SimSettings} (hss : Configured ss) (mEcho : Bool) :
    Answered (unrecognised ss mEcho) :=
  ⟨hss, nofun⟩

theorem answered_respond {ss : SimSettings} (hss : Configured ss) (mEcho : Bool)
    {text : List Char} (htext : Bare text) : Answered (respond ss mEcho text) := by
  refine ⟨hss, fun t ht => ?_⟩
  obtain rfl := Option.some.inj ht
  exact bare_snprintf htext

theorem answered_ok {ss : SimSettings} (hss : Configured ss) (mEcho : Bool) :
    Answered (respond ss mEcho elmOkPrompt) :=
  answered_respond hss mEcho bare_elmPrompts.2.1

/-- A branch keeps the settings configured, for commands without a prompt. -/
def Keeps (branch : AtBranch) : Prop :=
  Relates (fun ss ss' atCmd => ss = ss' ∧ Configured ss ∧ Bare atCmd) (fun _ r _ => Answered r)
    branch

/-- `set_obdprotocol` sets a protocol of the table, if any. -/
theorem setObdprotocol_configured (prot : List Char) {ss : SimSettings} (hss : Configured ss) :
    Configured (setObdprotocol prot ss).2 := by
  unfold setObdprotocol
  dsimp only
  split
  · exact hss
  · split
    · exact hss
    · next proto hproto =>
      exact { hss with protocol := List.mem_of_find?_eq_some hproto }

theorem keeps_atAdaptive : Keeps atAdaptive := by
  apply relates_scan
  intro ss ss' mEcho atCmd v hP
  obtain ⟨rfl, hss, -⟩ := hP
  split
  · apply answered_ok
    exact ⟨hss.version, hss.device, hss.identifier, hss.protocol⟩
  · exact answered_unrecognised hss mEcho

theorem keeps_atProtocol : Keeps atProtocol := by
  apply relates_test
  intro ss ss' mEcho atCmd hP
  obtain ⟨rfl, hss, -⟩ := hP
  have hset := setObdprotocol_configured (atCmd.drop 2) hss
  split
  · exact answered_ok hset mEcho
  · exact answered_unrecognised hset mEcho

/-- The identifier an AT command sets is taken from the command, so it has no
prompt either. -/
theorem keeps_atDevice : Keeps atDevice := by
  apply relates_scan
  intro ss ss' mEcho atCmd v hP
  obtain ⟨rfl, hss, hcmd⟩ := hP
  split
  · exact answered_respond hss mEcho hss.device
  · split
    · refine answered_respond hss mEcho ?_
      cases hid : ss.deviceIdentifier with
      | none => simp [Bare, promptChar]
      | some id => exact hss.identifier id hid
    · split
      · apply answered_ok
        refine ⟨hss.version, hss.device, fun id hid => ?_, hss.protocol⟩
        obtain rfl := Option.some.inj hid
        exact bare_argument hcmd
      · exact answered_unrecognised hss mEcho

theorem keeps_atVoltage (reading : Reading) : Keeps (atVoltage reading) := by
  apply relates_test
  intro ss ss' mEcho atCmd hP
  obtain ⟨rfl, hss, -⟩ := hP
  apply answered_respond hss
  unfold fmtReading
  have hsign : Bare (if (reading ss.eCurrentvoltage).1 then ['-'] else []) := by
    split <;> simp [Bare, promptChar]
  have hpoint : Bare ('.' :: Nat.toDigits 10 ((reading ss.eCurrentvoltage).2 % 10)) := by
    intro hmem
    rcases List.mem_cons.mp hmem with h | h
    · exact absurd h (by decide)
    · exact bare_toDigits _ h
  exact bare_append.mpr ⟨bare_append.mpr ⟨hsign, bare_toDigits _⟩, hpoint⟩

/-- The protocols of the table print without a prompt. -/
theorem bare_obdprotocols : ∀ proto ∈ obdprotocols,
    Bare [proto.protocolNum] ∧ Bare proto.protocolDesc.toList := by
  simp [Bare, promptChar, obdprotocols]

theorem keeps_atProtocolNum : Keeps atProtocolNum := by
  apply relates_test
  intro ss ss' mEcho atCmd hP
  obtain ⟨rfl, hss, -⟩ := hP
  apply answered_respond hss
  have hnum := (bare_obdprotocols _ hss.protocol).1
  rw [bare_append]
  refine ⟨?_, hnum⟩
  split <;> simp [Bare, promptChar]

theorem keeps_atProtocolDesc : Keeps atProtocolDesc := by
  apply relates_test
  intro ss ss' mEcho atCmd hP
  obtain ⟨rfl, hss, -⟩ := hP
  apply answered_respond hss
  have hdesc := (bare_obdprotocols _ hss.protocol).2
  rw [bare_append]
  refine ⟨?_, hdesc⟩
  split <;> simp [Bare, promptChar]

theorem keeps_atReset : Keeps atReset := by
  apply relates_test
  intro ss ss' mEcho atCmd hP
  obtain ⟨rfl, hss, -⟩ := hP
  apply answered_respond
  · exact ⟨hss.version, hss.device, hss.identifier, hss.protocol⟩
  · split
    · exact hss.version
    · split
      · exact bare_elmPrompts.2.1
      · exact hss.version

/-- A branch that scans for a value and sets something else. -/
theorem keeps_set {α : Type} {literal : List Char} {conv : List Char → Option (α × List Char)}
    {set : SimSettings → α → SimSettings} {echo : Bool → α → Bool}
    (h : ∀ ss v, Configured ss → Configured (set ss v)) :
    Keeps fun ss mEcho atCmd => (scanAfter literal conv atCmd).map fun v =>
      respond (set ss v) (echo mEcho v) elmOkPrompt := by
  apply relates_scan
  intro ss ss' mEcho atCmd v hP
  obtain ⟨rfl, hss, -⟩ := hP
  exact answered_ok (h ss v hss) (echo mEcho v)

/-- Every branch of the chain keeps the settings configured and answers without
a prompt. -/
theorem keeps_atBranches (reading : Reading) : ∀ branch ∈ atBranches reading, Keeps branch := by
  simp only [atBranches, List.forall_mem_cons]
  refine ⟨keeps_atAdaptive, ?linefeed, ?headers, keeps_atProtocol, ?spaces, ?echo, ?timeout,
    keeps_atDevice, ?calibrate, keeps_atVoltage reading, keeps_atProtocolNum,
    keeps_atProtocolDesc, ?dlc, ?version, keeps_atReset, nofun⟩
  case version =>
    apply relates_test
    intro ss ss' mEcho atCmd hP
    obtain ⟨rfl, hss, -⟩ := hP
    exact answered_respond hss mEcho hss.version
  all_goals
    apply keeps_set
    intro ss v hss
    exact ⟨hss.version, hss.device, hss.identifier, hss.protocol⟩

/-- An AT command without a prompt leaves configured settings behind, and its
response has no prompt in it. -/
theorem parseATcmd_answered (reading : Reading) {ss : SimSettings} (hss : Configured ss)
    (mEcho : Bool) {line : List Char} (hline : Bare line) :
    Answered (parseATcmd reading ss mEcho line) :=
  parseATcmd_relates (keeps_atBranches reading) ⟨rfl, hss, bare_argument hline⟩
    (answered_unrecognised hss mEcho)

/-! ## Passes of the loop -/

/-- The word at which the loop ends. -/
def exitWord : List Char := "EXIT".toList

/-- A received line without a prompt and without the word, short enough for
`previousline`. -/
structure OrdinaryLine (line : List Char) : Prop where
  bare : Bare line
  noExit : ¬ exitWord <:+: line.map Char.toUpper
  short : line.length < 1024

/-- What a run keeps: neither the settings nor the line that an empty one
repeats can bring a prompt into a reply, or end the loop. -/
structure Answerable (s : SimState) : Prop where
  configured : Configured s.ss
  bare : Bare s.previousline
  noExit : ¬ exitWord <:+: s.previousline.map Char.toUpper

theorem init_answerable (port : FDSimPort) {ss : SimSettings} (hss : Configured ss) :
    Answerable (SimState.init port ss) := by
  refine ⟨hss, ?_, fun hexit => ?_⟩
  · simp [Bare, promptChar, SimState.init]
  · have hx : 'X' ∈ (SimState.init port ss).previousline.map Char.toUpper :=
      hexit.subset (by decide)
    simp [SimState.init] at hx

/-- Freeze frames are numbers, so capturing them leaves the texts of the
settings as they are. -/
theorem freezeframes_configured (gens : Nat → Simgen) {ss : SimSettings} (hss : Configured ss) :
    Configured (obdsimFreezeframes gens ss) :=
  ⟨hss.version, hss.device, hss.identifier, hss.protocol⟩

/-- The loop answers the line, or the previous one in its place. -/
theorem answerLine_ordinary {s : SimState} (hs : Answerable s) {read : List Char}
    (hread : OrdinaryLine read) :
    Bare ((if read = [] then s.previousline else read).map Char.toUpper) ∧
      ¬ exitWord <:+: (if read = [] then s.previousline else read).map Char.toUpper := by
  split
  · exact ⟨bare_map_toUpper hs.bare, hs.noExit⟩
  · exact ⟨bare_map_toUpper hread.bare, hread.noExit⟩

/-- The line that the loop remembers, to answer it again, has no prompt in it
either, and not the word that ends the loop. -/
theorem previousline_ordinary {line : List Char} (hbare : Bare line)
    (hexit : ∃ l : List Char, line = l.map Char.toUpper ∧ ¬ exitWord <:+: line) {read : List Char}
    (hread : OrdinaryLine read) :
    Bare (if read = [] then line else read.take 1024) ∧
      ¬ exitWord <:+: (if read = [] then line else read.take 1024).map Char.toUpper := by
  obtain ⟨l, rfl, hexit⟩ := hexit
  split
  · refine ⟨hbare, ?_⟩
    rw [List.map_map, show Char.toUpper ∘ Char.toUpper = Char.toUpper from
      funext Char.toUpper_toUpper_eq_toUpper]
    exact hexit
  · rw [List.take_of_length_le (Nat.le_of_lt hread.short)]
    exact ⟨hread.bare, hread.noExit⟩

/-- **One line.** It is answered with one prompt, and the next one can be. -/
theorem answer_onePrompt (reading : Reading) {s : SimState} (hs : Answerable s)
    (gens : Nat → Simgen) {read : List Char} (hread : OrdinaryLine read) :
    Answerable (s.answer (parseATcmd reading) gens read).1 ∧
      OnePrompt (s.answer (parseATcmd reading) gens read).2 := by
  obtain ⟨hbare, hexit⟩ := answerLine_ordinary hs hread
  obtain ⟨hpbare, hpexit⟩ := previousline_ordinary hbare ⟨_, rfl, hexit⟩ hread
  unfold SimState.answer
  dsimp only
  generalize (if read = [] then s.previousline else read).map Char.toUpper = line at *
  generalize (if read = [] then line else read.take 1024) = previousline at *
  have hno : (strstr line "EXIT".toList).isSome = false := by
    rw [Option.isSome_eq_false_iff, Option.isNone_iff_eq_none]
    by_contra hfound
    exact hexit (infix_of_strstr hfound)
  rw [if_neg (by rw [hno]; exact Bool.false_ne_true)]
  split
  · -- an AT command
    obtain ⟨hss, hresponse⟩ := parseATcmd_answered reading hs.configured s.mEcho hbare
    refine ⟨⟨hss, hpbare, hpexit⟩, onePrompt_of_bare ?_⟩
    rw [bare_append, bare_append]
    refine ⟨⟨bare_newline _, ?_⟩, bare_newline _⟩
    cases htext : (parseATcmd reading s.ss s.mEcho line).response with
    | none => exact bare_elmPrompts.1
    | some text => exact hresponse text htext
  · exact ⟨⟨hs.configured, hpbare, hpexit⟩, request_onePrompt _ _ _⟩

/-- What `readLine` returns in a pass from this state. -/
def SimState.reads (s : SimState) (m : Moment) : Option LineRead :=
  (s.port.readLine ⟨s.mEcho, m.conn, m.result⟩).map Prod.snd

/-- A pass that receives no line, or an ordinary one. -/
def ReadsOrdinary (s : SimState) (pass : Moment × Reading) : Prop :=
  ∀ r ∈ s.reads pass.1, ∀ line ∈ r.line, OrdinaryLine line

/-- One pass, with what the random number makes `RV` show. -/
def simPass (s : SimState) (pass : Moment × Reading) : Option (SimState × List Char) :=
  mainLoop (parseATcmd pass.2) s pass.1

/-- What a pass can do: nothing but echo, or answer the line it received. -/
theorem simPass_cases {s s' : SimState} {pass : Moment × Reading} {out : List Char}
    (hstep : simPass s pass = some (s', out)) :
    ∃ r s₁, s.reads pass.1 = some r ∧ s₁.ss = obdsimFreezeframes pass.1.tick s.ss ∧
      s₁.previousline = s.previousline ∧
      ((r.line = none ∧ s' = s₁ ∧ out = r.echo) ∨
        ∃ line, r.line = some line ∧ s' = (s₁.answer (parseATcmd pass.2) pass.1.ask line).1 ∧
          out = r.echo ++ (s₁.answer (parseATcmd pass.2) pass.1.ask line).2) := by
  unfold simPass mainLoop at hstep
  split at hstep
  · cases hstep
  · dsimp only at hstep
    cases hread : s.port.readLine ⟨s.mEcho, pass.1.conn, pass.1.result⟩ with
    | none =>
      rw [hread] at hstep
      cases hstep
    | some q =>
      obtain ⟨port, r⟩ := q
      have hreads : s.reads pass.1 = some r := by rw [SimState.reads, hread, Option.map_some]
      rw [hread] at hstep
      dsimp only at hstep
      let ss := obdsimFreezeframes pass.1.tick s.ss
      let mustexit := (List.range ss.ecuCount).any fun i => pass.1.idle i ≠ 0
      refine ⟨r, { s with port := port, ss := ss, mustexit := mustexit }, hreads, rfl, rfl, ?_⟩
      -- the pass ends here, unless a whole line was read
      cases hline : r.line with
      | none =>
        rw [hline] at hstep
        obtain ⟨hs', hout⟩ := Prod.mk.inj (Option.some.inj hstep)
        exact Or.inl ⟨rfl, hs'.symm, hout.symm⟩
      | some line =>
        rw [hline] at hstep
        obtain ⟨hs', hout⟩ := Prod.mk.inj (Option.some.inj hstep)
        exact Or.inr ⟨line, rfl, hs'.symm, hout.symm⟩

/-- **One pass** that reads an ordinary line keeps the state answerable, and
writes one prompt behind the echo, as the last byte. -/
theorem simPass_onePrompt {s s' : SimState} {pass : Moment × Reading} {out : List Char}
    (hs : Answerable s) (hpass : ReadsOrdinary s pass) (hstep : simPass s pass = some (s', out)) :
    Answerable s' ∧ ∀ r line, s.reads pass.1 = some r → r.line = some line →
      ∃ text, out = r.echo ++ text ∧ OnePrompt text := by
  obtain ⟨r, s₁, hreads, hss, hprev, hcases⟩ := simPass_cases hstep
  have hs₁ : Answerable s₁ := by
    refine ⟨?_, ?_, ?_⟩
    · rw [hss]
      exact freezeframes_configured pass.1.tick hs.configured
    · rw [hprev]
      exact hs.bare
    · rw [hprev]
      exact hs.noExit
  rcases hcases with ⟨hnone, rfl, rfl⟩ | ⟨line, hline, rfl, rfl⟩
  · refine ⟨hs₁, fun r' line hr' hline => ?_⟩
    obtain rfl := Option.some.inj (hreads.symm.trans hr')
    rw [hnone] at hline
    cases hline
  · have hanswer := answer_onePrompt pass.2 hs₁ pass.1.ask (hpass r hreads line hline)
    refine ⟨hanswer.1, fun r' line' hr' _ => ?_⟩
    obtain rfl := Option.some.inj (hreads.symm.trans hr')
    exact ⟨_, rfl, hanswer.2⟩

/-- **A run** over ordinary lines keeps the state answerable, by induction over
its passes. -/
theorem run_answerable : ∀ {passes : List (Moment × Reading)} {s t : SimState}
    {outs : List (List Char)}, Answerable s → Along simPass ReadsOrdinary s passes →
    run simPass s passes = some (t, outs) → Answerable t
  | [], s, t, outs, hs, _, hrun => by
    obtain ⟨rfl, -⟩ : s = t ∧ [] = outs := by simpa using hrun
    exact hs
  | pass :: passes, s, t, outs, hs, hal, hrun => by
    obtain ⟨s', out, outs', hstep, hrun', -⟩ := run_cons_eq_some.mp hrun
    exact run_answerable (simPass_onePrompt hs hal.1 hstep).1 (hal.2 s' out hstep) hrun'

/-- **One prompt for each command, at its end.** In a run that receives
ordinary lines, from any configured settings, whatever a pass writes after the
echo has one prompt, which is its last byte, if the pass received a line. -/
theorem mainLoop_onePrompt {port : FDSimPort} {ss : SimSettings} (hss : Configured ss)
    {passes : List (Moment × Reading)} {pass : Moment × Reading}
    (hlines : Along simPass ReadsOrdinary (SimState.init port ss) (passes ++ [pass]))
    {s s' : SimState} {outs : List (List Char)} {out : List Char}
    (hrun : run simPass (SimState.init port ss) passes = some (s, outs))
    (hstep : simPass s pass = some (s', out)) {r : LineRead} {line : List Char}
    (hread : s.reads pass.1 = some r) (hline : r.line = some line) :
    ∃ text, out = r.echo ++ text ∧ OnePrompt text := by
  have hs := run_answerable (init_answerable port hss) hlines.left hrun
  exact (simPass_onePrompt hs (hlines.right hrun).1 hstep).2 r line hread hline

/-- The first command of a session asks for the version. -/
theorem mainLoop_onePrompt_version :
    let pass : Moment × Reading :=
      ({ idle := fun _ => 0
         tick := fun _ => ⟨fun _ _ => ⟨0, fun _ => 0⟩, none⟩
         conn := 1
         result := .data "ati\r".toList
         ask := fun _ => ⟨fun _ _ => ⟨0, fun _ => 0⟩, none⟩ },
        fun _ => (false, 118))
    ∃ s' out text, simPass (SimState.init FDSimPort.init oneEcu) pass = some (s', out) ∧
      out = "ati\r".toList ++ text ∧ OnePrompt text := by
  intro pass
  have hreads : (SimState.init FDSimPort.init oneEcu).reads pass.1 =
      some ⟨some "ati".toList, "ati\r".toList⟩ := by decide +kernel
  have hout :
      ((simPass (SimState.init FDSimPort.init oneEcu) pass).map Prod.snd).isSome = true := by
    decide +kernel
  obtain ⟨⟨s', out⟩, hstep⟩ := Option.isSome_iff_exists.mp (Option.isSome_map ▸ hout)
  have hordinary : ReadsOrdinary (SimState.init FDSimPort.init oneEcu) pass := by
    intro r hr line hline
    obtain rfl := Option.some.inj (hreads.symm.trans hr)
    obtain rfl := Option.some.inj hline
    exact ⟨by simp [Bare, promptChar], by decide, by decide⟩
  have halong : Along simPass ReadsOrdinary (SimState.init FDSimPort.init oneEcu) ([] ++ [pass]) :=
    ⟨hordinary, fun _ _ _ => trivial⟩
  obtain ⟨text, htext⟩ :=
    mainLoop_onePrompt (startSettings_configured [0] (by decide)) halong rfl hstep hreads rfl
  exact ⟨s', out, text, hstep, htext⟩

end ObdGpsLogger.Sim
