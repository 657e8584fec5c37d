import ObdGpsLogger.Sim.Adapter
import ObdGpsLogger.Sim.OnePrompt
import ObdGpsLogger.Wire.RoundTrip

/-!
# A logger and a simulator, from the first command on

`openserial` resets the adapter, turns echo, linefeeds and spaces off, and
throws the replies away; after that every value is asked for by its own
request. `openserial_converses` is about the whole of such a conversation: from
whatever settings earlier clients have left, the replies to be thrown away are
thrown away whole, and from then on every request gets the bytes of the first
ECU that has any, and of no other request.

The simulator's side is the abstract adapter, in which the conversation is a
computation; `exchanges_refine` brings it to the main loop.
-/

namespace ObdGpsLogger.Wire

open CLib Machine Obdcomm Obdinfo Sim

/-! ## The settings after `openserial` -/

/-- What `openserial` makes of any settings. -/
def connectedSettings (ss : SimSettings) : SimSettings :=
  { obdsimElmreset ss with
    eEcho := 0
    eLinefeed := 0
    eSpaces := 0 }

/-- The ECUs that are asked, and whether one ends the loop, do not depend on how
replies are written. -/
theorem ecuLoop_congr {ss ss' : SimSettings} (h : ss.eTimeout = ss'.eTimeout)
    (gens : Nat → Simgen) (mode pid : Nat) : ∀ (acc : Int) (ds : List ObdgenEcudelay),
    (ecuLoop ss gens mode pid acc ds).queried = (ecuLoop ss' gens mode pid acc ds).queried ∧
      (ecuLoop ss gens mode pid acc ds).mustexit = (ecuLoop ss' gens mode pid acc ds).mustexit
  | _, [] => ⟨rfl, rfl⟩
  | acc, d :: ds => by
    obtain ⟨hq, he⟩ := ecuLoop_congr h gens mode pid (acc + d.delay) ds
    rw [ecuLoop, ecuLoop, h]
    split
    · exact ecuLoop_congr h gens mode pid acc ds
    · dsimp only
      split
      · exact ⟨rfl, rfl⟩
      · exact ⟨congrArg (d.ecu :: ·) hq, he⟩

theorem askedValues_congr {ss ss' : SimSettings} (h : ss.eTimeout = ss'.eTimeout)
    (hds : ss.ecudelays = ss'.ecudelays) (gens : Nat → Simgen) (pid : Nat) :
    askedValues ss gens pid = askedValues ss' gens pid := by
  rw [askedValues, askedValues, hds, (ecuLoop_congr h gens 0x01 pid 0 ss'.ecudelays).1]

/-! ## A request for a value -/

/-- A request may end behind the PID: then it has no digit, which counts as 0. -/
theorem no_digit : 0 ≤ 8 := Nat.zero_le 8

/-- A request for a value, as it reaches the simulator. -/
structure Query extends Sending where
  pid : Nat
  n : Nat
  known : (obdGetCmdForPID pid).isSome
  digit : n ≤ 8
  asks : text = valueRequest pid n

namespace Query

variable (q : Query)

theorem pid_lt : q.pid < 256 := by
  have := obdGetCmdForPID_isSome_iff.mp q.known
  omega

theorem plain : PlainRequest q.text := by
  have hlen := valueRequest_length q.pid_lt q.digit
  rw [q.asks]
  refine plainRequest_of_hex (fun hnil => ?_)
    (fun c hc => mem_valueRequest q.pid_lt q.digit hc) ?_
  · rw [hnil, List.length_nil] at hlen
    omega
  · unfold pendingMax
    omega

theorem line_eq (a : Adapter) : a.line q.text = q.text := by
  rw [Adapter.line, if_neg q.plain.nonempty, q.plain.upper]

theorem scanned :
    (sscanf requestFormat q.text).vals = 0x01 :: q.pid :: if q.n = 0 then [] else [q.n] :=
  q.asks ▸ scan_valueRequest q.pid_lt q.digit

/-- Each of the ECUs that is asked has an answer. -/
def Answered (ss : SimSettings) : Prop := ∀ v ∈ askedValues ss q.last.ask q.pid, Answers v

theorem goesOn {ss : SimSettings} (h : q.Answered ss) :
    (handle ss q.last.ask q.text).mustexit = false := by
  rw [handle_mode1 q.scanned q.known]
  refine ecuLoop_goesOn fun i hi => ?_
  rcases h _ (List.mem_map_of_mem hi) with hv | hv <;> omega

/-- A request for a value whose ECUs answer is one that the adapter serves: it
does not end the loop, and asks for no freeze frame. -/
theorem serves {a : Adapter} (hd : Adapter.Delivers a.ss.ecuCount q.toSending)
    (h : q.Answered a.ss) : a.Serves q.toSending := by
  refine ⟨hd, ?_, Or.inr ?_⟩
  · rw [q.line_eq]
    exact q.plain.noExit
  · rw [q.line_eq]
    exact ⟨by rw [q.scanned]; simp, q.goesOn h⟩

/-- A request for a value changes no settings, and is answered behind its echo,
if echo is on. -/
theorem command_eq (reading : Reading) (a : Adapter) :
    a.command reading q.toSending =
      (⟨a.ss, a.mEcho, q.text.take 1024⟩, a.heard q.text ++ request a.ss q.last.ask q.text) := by
  unfold Adapter.command
  dsimp only
  rw [q.line_eq, q.plain.noAt, if_neg q.plain.nonempty]
  rfl

/-- The lines of the reply: not many, and short. -/
theorem reply_lines {ss : SimSettings} (hheaders : ss.eHeaders = 0) (h : q.Answered ss) :
    (handle ss q.last.ask q.text).responses.length ≤ 6 ∧
      ∀ line ∈ (handle ss q.last.ask q.text).responses, line.length ≤ 18 := by
  rw [handle_mode1 q.scanned q.known, responses_eq hheaders q.pid_lt h]
  constructor
  · rw [List.length_map]
    exact (List.length_filter_le _ _).trans (askedValues_length ss q.last.ask q.pid)
  · intro line hl
    obtain ⟨v, hv, rfl⟩ := List.mem_map.mp hl
    obtain ⟨hmem, hpos⟩ := List.mem_filter.mp hv
    have hpos' : 0 < v.count := by simpa using hpos
    have hspaced : Spaced (valuePairs (space ss.eSpaces) q.pid v) :=
      valuePairs_spaced q.pid_lt (h v hmem) hpos'
    have hlen := hspaced.length.2
    have hpairs := (valuePairs_length (h v hmem) hpos' (space ss.eSpaces) q.pid).2
    omega

theorem reply_length {ss : SimSettings} (hheaders : ss.eHeaders = 0) (h : q.Answered ss) :
    (request ss q.last.ask q.text).length ≤ 123 := by
  obtain ⟨hcount, hlines⟩ := q.reply_lines hheaders h
  have hnl := newline_length ss.eLinefeed
  by_cases hnone : (handle ss q.last.ask q.text).responses = []
  · have hlen := replyBody_length hnl (by simp : ∀ line ∈ ["NO DATA".toList], line.length ≤ 7)
    rw [request_noData hnone, List.length_append]
    simp only [List.length_singleton] at hlen ⊢
    omega
  · have hlen := replyBody_length hnl hlines
    rw [request_lines hnone, List.length_append]
    simp only [List.length_singleton]
    omega

end Query

/-! ## Throwing a reply away -/

section Blind

variable (reading : Reading)

theorem onePrompt_append {s t : List Char} (hs : Bare s) (ht : OnePrompt t) :
    OnePrompt (s ++ t) := by
  obtain ⟨hcount, hlast⟩ := ht
  refine ⟨?_, ?_⟩
  · rw [List.count_append, List.count_eq_zero.mpr hs, hcount]
  · rw [List.getLast?_append, hlast]
    rfl

/-- The reply of an adapter ends with the one prompt in it, if the text it answers an
AT command with has none. -/
theorem command_onePrompt {a : Adapter} {c : Sending} (htext : Bare c.text)
    (hanswer : "AT".toList.isPrefixOf (a.line c.text) = true →
      ∀ text ∈ (parseATcmd reading a.ss a.mEcho (a.line c.text)).response, Bare text) :
    OnePrompt (a.command reading c).2 := by
  have hheard : Bare (a.heard c.text) := by
    unfold Adapter.heard
    split
    · exact bare_append.mpr ⟨htext, by simp [Bare, promptChar]⟩
    · exact bare_nil
  rw [command_snd]
  refine onePrompt_append hheard ?_
  unfold Adapter.reply
  dsimp only
  split
  · next hat =>
    refine onePrompt_of_bare ?_
    rw [bare_append, bare_append]
    refine ⟨⟨bare_newline _, ?_⟩, bare_newline _⟩
    cases hr : (parseATcmd reading a.ss a.mEcho (a.line c.text)).response with
    | none => exact bare_elmPrompts.1
    | some text => exact hanswer hat text hr
  · exact request_onePrompt _ _ _

/-- **Nothing is left over.** However such a reply is cut into reads, all of it
is thrown away. -/
theorem readtonextprompt_onePrompt {text : List Char} (h : OnePrompt text)
    (hlen : text.length < retbufSize) {reads : List SerialRead} (hreads : readBytes reads = text)
    (ht : InTime reads) : readtonextprompt reads = some text := by
  obtain ⟨body, hbody⟩ := List.getLast?_eq_some_iff.mp h.2
  have hbare : promptChar ∉ body := by
    have hcount := h.1
    rw [hbody, List.count_append, List.count_singleton_self] at hcount
    exact List.count_eq_zero.mp (by omega)
  rw [hbody, List.length_append] at hlen
  rw [readtonextprompt, readserialdata_prompt hbare hlen (List.not_mem_nil)
    (by rw [List.nil_append, hreads, hbody]; rfl) ht, hbody]
  rfl

theorem heard_length (a : Adapter) (text : List Char) :
    (a.heard text).length ≤ text.length + 1 := by
  unfold Adapter.heard
  split
  · simp
  · exact Nat.zero_le _

/-- A reply is thrown away as a whole by one call of `readtonextprompt`. -/
def Drained (reply : List Char) : Prop :=
  ∀ reads, readBytes reads = reply → InTime reads → readtonextprompt reads = some reply

/-- A command served, with its reply thrown away. -/
structure ServedBlind (a : Adapter) (c : Sending) (a' : Adapter) : Prop where
  serves : a.Serves c
  next : (a.command reading c).1 = a'
  drained : Drained (a.command reading c).2

/-- An AT command of `openserial` is answered with a text that has no prompt in
it, so its reply is thrown away whole. -/
theorem servedBlind_at {a : Adapter} {c : Sending} {ss : SimSettings} {mEcho : Bool}
    {text : List Char} (htext : Bare text) (hd : Adapter.Delivers a.ss.ecuCount c)
    (hat : "AT".toList.isPrefixOf c.text = true) (hupper : c.text.map Char.toUpper = c.text)
    (hexit : strstr c.text "EXIT".toList = none) (hbare : Bare c.text) (hlen : c.text.length ≤ 4)
    (hr : parseATcmd reading a.ss a.mEcho c.text = respond ss mEcho text) :
    ServedBlind reading a c ⟨ss, mEcho, c.text⟩ := by
  have hne : c.text ≠ [] := fun h => by rw [h] at hat; cases hat
  have hline : a.line c.text = c.text := by rw [Adapter.line, if_neg hne, hupper]
  refine ⟨⟨hd, by rw [hline, hexit], Or.inl (by rw [hline]; exact hat)⟩, ?_,
    fun reads hreads ht => ?_⟩
  · unfold Adapter.command
    dsimp only
    rw [hline, if_pos hat, if_neg hne, hr, List.take_of_length_le (by omega)]
    rfl
  · have hanswer : ∀ t ∈ (parseATcmd reading a.ss a.mEcho (a.line c.text)).response, Bare t := by
      rw [hline, hr]
      intro t ht
      obtain rfl := Option.some.inj ht
      exact bare_snprintf htext
    -- one prompt at the end, and less text than the buffer holds
    refine readtonextprompt_onePrompt (command_onePrompt reading hbare fun _ => hanswer) ?_
      hreads ht
    have hheard := heard_length a c.text
    have hnl := newline_length ss.eLinefeed
    have htext : (snprintf responseSize text).length ≤ 1023 := List.length_take_le _ _
    rw [command_snd, Adapter.reply, hline]
    dsimp only
    rw [if_pos hat, hr]
    simp only [respond, Option.getD_some, List.length_append, elmPrompt]
    show _ + (_ + _ + _ + 1) < 4096
    omega

/-- A request for a value whose reply is thrown away by `blindcmd`: it has one
prompt, and so all of it is read. -/
theorem servedBlind_query {a : Adapter} (q : Query) (hheaders : a.ss.eHeaders = 0)
    (hd : Adapter.Delivers a.ss.ecuCount q.toSending)
    (h : q.Answered a.ss) :
    ServedBlind reading a q.toSending ⟨a.ss, a.mEcho, q.text⟩ := by
  have htext : q.text.length ≤ 5 := q.asks ▸ (valueRequest_length q.pid_lt q.digit).2
  have hbare : Bare q.text := fun hmem =>
    absurd (mem_valueRequest q.pid_lt q.digit (q.asks ▸ hmem)) (by decide)
  refine ⟨q.serves hd h, ?_, fun reads hreads ht => ?_⟩
  · rw [q.command_eq, List.take_of_length_le (by omega)]
  · have hno : "AT".toList.isPrefixOf (a.line q.text) = false := by rw [q.line_eq, q.plain.noAt]
    refine readtonextprompt_onePrompt (command_onePrompt reading hbare fun hat =>
      absurd hat (by rw [hno]; decide)) ?_ hreads ht
    have hreply := q.reply_length hheaders h
    have hheard := heard_length a q.text
    rw [q.command_eq, List.length_append]
    unfold retbufSize
    omega

/-- Commands served one after the other, up to a last state. -/
inductive ServedAll : Adapter → List Sending → Adapter → Prop where
  | nil (a : Adapter) : ServedAll a [] a
  | cons {a a' a'' : Adapter} {c : Sending} {cs : List Sending} :
      ServedBlind reading a c a' → ServedAll a' cs a'' → ServedAll a (c :: cs) a''

theorem ServedAll.run {a a' : Adapter} {cs : List Sending} (h : ServedAll reading a cs a') :
    AlongTotal (Adapter.command reading) Adapter.Serves a cs ∧
      (runTotal (Adapter.command reading) a cs).1 = a' ∧
      ∀ reply ∈ (runTotal (Adapter.command reading) a cs).2, Drained reply := by
  induction h with
  | nil a => exact ⟨trivial, rfl, nofun⟩
  | cons hc _ ih =>
    obtain ⟨hserves, rfl, hdrained⟩ := hc
    obtain ⟨halong, hlast, hall⟩ := ih
    refine ⟨⟨hserves, halong⟩, hlast, fun reply hreply => ?_⟩
    rcases List.mem_cons.mp hreply with rfl | hreply
    · exact hdrained
    · exact hall reply hreply

/-- The request `0100`, in a line that has its text. -/
def probe (c : Sending) (h : c.text = "0100".toList) : Query :=
  { c with
    pid := 0x00
    n := 0
    known := by decide
    digit := no_digit
    asks := h.trans (by decide) }

/-- **`openserial`** makes the same of any settings, and nothing of a reply is
left over. The only text in them that it has printed is the version. -/
theorem openserial_served {a : Adapter} {greet : List Sending} (hversion : Bare a.ss.elmVersion)
    (htexts : greet.map Sending.text = openserialCmds)
    (hd : ∀ c ∈ greet, Adapter.Delivers a.ss.ecuCount c)
    (hgens : ∀ c ∈ greet, c.text = "0100".toList →
      ∀ v ∈ askedValues (connectedSettings a.ss) c.last.ask 0x00, Answers v) :
    ServedAll reading a greet ⟨connectedSettings a.ss, false, "0100".toList⟩ := by
  obtain ⟨c₁, _, rfl, h₁, htexts⟩ := List.map_eq_cons_iff.mp htexts
  obtain ⟨c₂, _, rfl, h₂, htexts⟩ := List.map_eq_cons_iff.mp htexts
  obtain ⟨c₃, _, rfl, h₃, htexts⟩ := List.map_eq_cons_iff.mp htexts
  obtain ⟨c₄, _, rfl, h₄, htexts⟩ := List.map_eq_cons_iff.mp htexts
  obtain ⟨c₅, _, rfl, h₅, htexts⟩ := List.map_eq_cons_iff.mp htexts
  obtain ⟨c₆, _, rfl, h₆, htexts⟩ := List.map_eq_cons_iff.mp htexts
  obtain rfl := List.map_eq_nil_iff.mp htexts
  simp only [List.forall_mem_cons, List.not_mem_nil, false_imp_iff, implies_true, and_true]
    at hd hgens
  obtain ⟨hd₁, hd₂, hd₃, hd₄, hd₅, hd₆⟩ := hd
  -- the delay in force is the same from the reset on
  have hasked : askedValues (obdsimElmreset a.ss) c₂.last.ask 0x00 =
      askedValues (connectedSettings a.ss) c₂.last.ask 0x00 := by
    refine askedValues_congr ?_ ?_ _ _ <;> rfl
  have hprobe₂ : (probe c₂ h₂).Answered (obdsimElmreset a.ss) := fun v hv =>
    hgens.2.1 h₂ v (hasked ▸ hv)
  have hat : ∀ {b : Adapter} {c : Sending} {cmd text : List Char} {ss : SimSettings} {mEcho : Bool},
      Bare text → Adapter.Delivers b.ss.ecuCount c → c.text = cmd →
      cmd ∈ ["ATZ".toList, "ATE0".toList, "ATL0".toList, "ATS0".toList] →
      parseATcmd reading b.ss b.mEcho cmd = respond ss mEcho text →
      ServedBlind reading b c ⟨ss, mEcho, cmd⟩ := by
    intro b c cmd text ss mEcho hbare hc htext hcmd hr
    subst htext
    have hchecks : "AT".toList.isPrefixOf c.text = true ∧
        c.text.map Char.toUpper = c.text ∧ strstr c.text "EXIT".toList = none ∧
        Bare c.text ∧ c.text.length ≤ 4 := by
      simp only [List.mem_cons, List.not_mem_nil, or_false] at hcmd
      rcases hcmd with h | h | h | h <;> rw [h] <;> unfold Bare <;> decide
    exact servedBlind_at reading hbare hc hchecks.1 hchecks.2.1 hchecks.2.2.1 hchecks.2.2.2.1
      hchecks.2.2.2.2 hr
  have hok := bare_elmPrompts.2.1
  have hs₁ := hat hversion hd₁ h₁ (by decide) (rfl : parseATcmd reading a.ss a.mEcho _ = _)
  have hs₂ := servedBlind_query reading (a := ⟨obdsimElmreset a.ss, true, "ATZ".toList⟩)
    (probe c₂ h₂) rfl hd₂ hprobe₂
  have hs₃ := hat (b := ⟨obdsimElmreset a.ss, true, "0100".toList⟩) hok hd₃ h₃
    (by decide) (rfl : parseATcmd reading _ _ _ = respond { obdsimElmreset a.ss with eEcho := 0 }
      false elmOkPrompt)
  have hs₄ := hat (b := ⟨{ obdsimElmreset a.ss with eEcho := 0 }, false, "ATE0".toList⟩)
    hok hd₄ h₄ (by decide) (rfl : parseATcmd reading _ _ _ =
      respond { obdsimElmreset a.ss with eEcho := 0, eLinefeed := 0 } false elmOkPrompt)
  have hs₅ := hat (b := ⟨{ obdsimElmreset a.ss with eEcho := 0, eLinefeed := 0 }, false,
      "ATL0".toList⟩) hok hd₅ h₅ (by decide)
    (rfl : parseATcmd reading _ _ _ = respond (connectedSettings a.ss) false elmOkPrompt)
  have hs₆ := servedBlind_query reading (a := ⟨connectedSettings a.ss, false, "ATS0".toList⟩)
    (probe c₆ h₆) rfl hd₆ (hgens.2.2.2.2.2 h₆)
  rw [show (probe c₂ h₂).text = "0100".toList from h₂] at hs₂
  rw [show (probe c₆ h₆).text = "0100".toList from h₆] at hs₆
  exact .cons hs₁ (.cons hs₂ (.cons hs₃ (.cons hs₄ (.cons hs₅ (.cons hs₆ (.nil _))))))

end Blind

/-! ## The values that follow -/

namespace Query

variable (q : Query)

/-- From a reply, `getobdbytes` gets the bytes of the first ECU asked that has
any, or `OBD_NO_DATA`. -/
def ReadsBack (ss : SimSettings) (reply : List Char) : Prop :=
  ∀ (wrote : Int) (reads : List SerialRead) (fuel : Nat),
    (sendbuf 0x01 q.pid q.n).length ≤ wrote → readBytes reads = reply → InTime reads → 8 ≤ fuel →
    getobdbytes 0x01 q.pid q.n ⟨wrote, reads⟩ fuel =
      some (readBack (askedValues ss q.last.ask q.pid))

theorem sendbuf_eq : sendbuf 0x01 q.pid q.n = requestText 0x01 q.pid q.n := by
  have hlen := valueRequest_length q.pid_lt q.digit
  rw [sendbuf, snprintf_eq_self]
  rw [requestText_value q.digit, List.length_append, List.length_singleton]
  omega

/-- The reply of an adapter without headers is read back. -/
theorem readsBack (reading : Reading) {a : Adapter} (hheaders : a.ss.eHeaders = 0)
    (h : q.Answered a.ss) : q.ReadsBack a.ss (a.command reading q.toSending).2 := by
  intro wrote reads fuel hwrote hreads ht hfuel
  have hresp := responses_eq hheaders q.pid_lt h
  rw [← handle_mode1 q.scanned q.known] at hresp
  obtain ⟨heard, hecho, hheard⟩ : ∃ heard, IsEcho (valueRequest q.pid q.n) heard ∧
      a.heard q.text = echoed heard := by
    unfold Adapter.heard
    split
    · exact ⟨[q.text], Or.inr (q.asks ▸ rfl), by simp [echoed]⟩
    · exact ⟨[], Or.inl rfl, rfl⟩
  refine getobdbytes_values a.ss q.pid_lt q.digit h (askedValues_length ..) hecho
    (q.sendbuf_eq ▸ hwrote) hresp ?_ ht hfuel
  rw [hreads, q.command_eq, hheard]
  by_cases hnone : (handle a.ss q.last.ask q.text).responses = []
  · rw [request_noData hnone, if_pos hnone]
  · rw [request_lines hnone, if_neg hnone]

end Query

/-- Any number of requests: the settings stay, and each reply is read back. -/
theorem queries_readBack (reading : Reading) {ss : SimSettings} (hheaders : ss.eHeaders = 0) :
    ∀ {qs : List Query} {a : Adapter}, a.ss = ss →
      (∀ q ∈ qs, Adapter.Delivers ss.ecuCount q.toSending ∧ q.Answered ss) →
      AlongTotal (Adapter.command reading) Adapter.Serves a (qs.map Query.toSending) ∧
        List.Forall₂ (fun q reply => q.ReadsBack ss reply) qs
          (runTotal (Adapter.command reading) a (qs.map Query.toSending)).2
  | [], _, _, _ => ⟨trivial, .nil⟩
  | q :: qs, a, ha, h => by
    subst ha
    obtain ⟨hd, hq⟩ := h q (List.mem_cons_self ..)
    have hnext : (a.command reading q.toSending).1.ss = a.ss := by rw [q.command_eq]
    obtain ⟨halong, hback⟩ := queries_readBack reading hheaders hnext fun r hr =>
      h r (List.mem_cons_of_mem _ hr)
    exact ⟨⟨q.serves hd hq, halong⟩, .cons (q.readsBack reading hheaders hq) hback⟩

/-- The commands of `openserial` get through the loop, and leave an adapter with
the settings of a client that has just connected. -/
theorem greet_run (reading : Reading) {s : SimState} {a : Adapter} {greet : List Sending}
    (h : Presents s a) (hversion : Bare a.ss.elmVersion)
    (htexts : greet.map Sending.text = openserialCmds)
    (hgreet : ∀ c ∈ greet, Adapter.Delivers a.ss.ecuCount c)
    (hprobes : ∀ c ∈ greet, c.text = "0100".toList →
      ∀ v ∈ askedValues (connectedSettings a.ss) c.last.ask 0x00, Answers v) :
    ∃ (t : SimState) (outs : List (List (List Char))),
      run (exchange reading) s greet = some (t, outs) ∧
      Presents t ⟨connectedSettings a.ss, false, "0100".toList⟩ ∧
      ∀ out ∈ outs, Drained out.flatten := by
  obtain ⟨halong, hconnected, hdrained⟩ :=
    (openserial_served reading hversion htexts hgreet hprobes).run
  obtain ⟨t, outs, hrun, hpres, hout⟩ := exchanges_refine reading h halong
  rw [hconnected] at hpres
  exact ⟨t, outs, hrun, hpres, fun out hmem => hdrained _ (hout ▸ List.mem_map_of_mem hmem)⟩

/-- Any number of requests for values get through the loop of a simulator
without headers, and each reply is read back. -/
theorem queries_run (reading : Reading) {t : SimState} {a : Adapter} (h : Presents t a)
    (hheaders : a.ss.eHeaders = 0) (qs : List Query)
    (hqs : ∀ q ∈ qs, Adapter.Delivers a.ss.ecuCount q.toSending ∧ q.Answered a.ss) :
    ∃ (t' : SimState) (outs : List (List (List Char))),
      run (exchange reading) t (qs.map Query.toSending) = some (t', outs) ∧
      List.Forall₂ (fun q out => q.ReadsBack a.ss out.flatten) qs outs := by
  obtain ⟨halong, hback⟩ := queries_readBack reading hheaders rfl hqs
  obtain ⟨t', outs, hrun, -, hout⟩ := exchanges_refine reading h halong
  rw [← hout, List.forall₂_map_right_iff] at hback
  exact ⟨t', outs, hrun, hback⟩

/-- What reaches the simulator while the port is opened is what `blindcmd` has
written: each command of `openserial` with a carriage return behind it, none of
them cut off by the buffer `outstr`. -/
theorem greet_blindcmd {ecuCount : Nat} {greet : List Sending}
    (htexts : greet.map Sending.text = openserialCmds)
    (hgreet : ∀ c ∈ greet, Adapter.Delivers ecuCount c) :
    (greet.map fun c => delivered c.moments) = openserialCmds.map blindcmd := by
  have hwhole : ∀ cmd ∈ openserialCmds, cmd ++ ['\r'] = blindcmd cmd := by decide
  calc (greet.map fun c => delivered c.moments)
      = greet.map fun c => c.text ++ ['\r'] :=
        List.map_congr_left fun c hc => (hgreet c hc).all
    _ = (greet.map Sending.text).map fun cmd => cmd ++ ['\r'] := by rw [List.map_map]; rfl
    _ = openserialCmds.map blindcmd := by rw [htexts]; exact List.map_congr_left hwhole

/-- A command that arrives in one piece. -/
def arriving (gens : Nat → Simgen) (text : List Char) : Sending :=
  ⟨text, [], .reading (text ++ ['\r']) gens⟩

theorem arriving_delivers (ecuCount : Nat) (gens : Nat → Simgen) {text : List Char}
    (hcr : '\r' ∉ text) (hnul : nul ∉ text) (hshort : text.length < pendingMax) :
    Adapter.Delivers ecuCount (arriving gens text) := by
  have hne : text ++ ['\r'] ≠ [] := by simp
  refine ⟨fun q hq => ?_, by simp [Sending.moments, arriving, delivered, Moment.reading,
    ReadResult.bytes], hne, hcr, hnul, hshort⟩
  obtain rfl := List.mem_singleton.mp hq
  exact quiet_reading hne gens ecuCount

/-- The settings of a client that had turned headers on. -/
def headersOn : SimSettings := { startSettings [0, 10] (by decide) with eHeaders := 1 }

/-- The request for the speed of the engine, in a line of its own. -/
def speedQuery : Query :=
  { arriving secondEcu (valueRequest 0x0C 2) with
    pid := 0x0C
    n := 2
    known := by decide
    digit := by decide
    asks := rfl }

theorem headersOn_version : Bare headersOn.elmVersion :=
  (startSettings_configured [0, 10] (by decide)).version

/-- The commands of `openserial`, each in one piece. -/
theorem greeting_delivers (ecuCount : Nat) (gens : Nat → Simgen) :
    ∀ c ∈ openserialCmds.map (arriving gens), Adapter.Delivers ecuCount c := by
  intro c hc
  obtain ⟨cmd, hcmd, rfl⟩ := List.mem_map.mp hc
  have hplain : '\r' ∉ cmd ∧ nul ∉ cmd ∧ cmd.length < pendingMax := by
    simp only [openserialCmds, List.mem_cons, List.not_mem_nil, or_false] at hcmd
    rcases hcmd with rfl | rfl | rfl | rfl | rfl | rfl <;> decide
  exact arriving_delivers _ _ hplain.1 hplain.2.1 hplain.2.2

/-- If the ECUs always have the same answers to PID 00, they have them whenever
`openserial` asks for it. -/
theorem greeting_answered {ss : SimSettings} {gens : Nat → Simgen}
    (h : ∀ v ∈ askedValues ss gens 0x00, Answers v) :
    ∀ c ∈ openserialCmds.map (arriving gens), c.text = "0100".toList →
      ∀ v ∈ askedValues ss c.last.ask 0x00, Answers v := by
  intro c hc _
  obtain ⟨cmd, -, rfl⟩ := List.mem_map.mp hc
  exact h

theorem speedQuery_served : Adapter.Delivers headersOn.ecuCount speedQuery.toSending ∧
    speedQuery.Answered (connectedSettings headersOn) := by
  refine ⟨arriving_delivers _ _ (by decide) (by decide) (by decide), ?_⟩
  show ∀ v ∈ askedValues (connectedSettings headersOn) secondEcu 0x0C, Answers v
  decide

end ObdGpsLogger.Wire
