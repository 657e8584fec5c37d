import ObdGpsLogger.Sim.EcuTimeout
import ObdGpsLogger.Sim.Session
import ObdGpsLogger.Wire.Reply

/-!
# A value from the simulator to the logger

The logger asks for a value with mode 01, the simulator answers, and the
logger reads the answer back. `getobdbytes_roundTrip` says that this gives the
bytes of the first ECU asked that has any, or `OBD_NO_DATA` if none has,
whatever the settings for echo, spaces and line ends, however the request
reaches the simulator and however the reply comes back.
-/

namespace ObdGpsLogger.Wire

open CLib Machine Obdcomm Obdinfo Sim

/-! ## What the simulator writes -/

theorem isNewline_newline (eLinefeed : Int) : IsNewline (newline eLinefeed) := by
  unfold newline IsNewline
  split <;> simp

theorem newline_length (eLinefeed : Int) : (newline eLinefeed).length ≤ 2 := by
  unfold newline
  split <;> decide

/-- What is written for a request that has responses: each of them on a line of
its own, and the prompt. -/
theorem request_lines {ss : SimSettings} {gens : Nat → Simgen} {line : List Char}
    (h : (handle ss gens line).responses ≠ []) :
    request ss gens line =
      replyBody (newline ss.eLinefeed) (handle ss gens line).responses ++ ['>'] := by
  rw [request, if_neg h, replyBody, List.append_nil]
  rfl

/-- What is written for a request that has no responses: `NO DATA` on a line,
and the prompt. -/
theorem request_noData {ss : SimSettings} {gens : Nat → Simgen} {line : List Char}
    (h : (handle ss gens line).responses = []) :
    request ss gens line = replyBody (newline ss.eLinefeed) ["NO DATA".toList] ++ ['>'] := by
  rw [request, if_pos h, h, replyBody, List.flatMap_nil, List.append_nil, List.flatMap_singleton]
  rfl

/-- The line that the simulator echoes, if it echoes at all. -/
def echoLines (s : SimState) (text : List Char) : List (List Char) :=
  if s.mEcho then [text] else []

theorem echo_eq (s : SimState) (text : List Char) :
    s.echo (text ++ ['\r']) = echoed (echoLines s text) := by
  unfold SimState.echo echoLines
  split <;> simp [echoed]

/-! ## The request -/

theorem hexChars_toUpper : ∀ c ∈ hexChars, c.toUpper = c := by
  intro c hc
  have hall : hexChars.all (fun c => c.toUpper == c) = true := by decide
  simpa using List.all_eq_true.mp hall c hc

/-- A text of hex digits that is short enough is a plain request: no AT command,
and not the word that ends the loop. -/
theorem plainRequest_of_hex {text : List Char} (hne : text ≠ [])
    (hhex : ∀ c ∈ text, c ∈ hexChars) (hlen : text.length < pendingMax) : PlainRequest text := by
  have hno : ∀ c ∉ hexChars, c ∉ text := fun c hc hm => hc (hhex c hm)
  have hupper : text.map Char.toUpper = text := by
    rw [List.map_congr_left fun c hc => hexChars_toUpper c (hhex c hc), List.map_id']
  have hat : "AT".toList.isPrefixOf text = false := by
    rw [Bool.eq_false_iff]
    intro hp
    have hmem : 'T' ∈ "AT".toList := by decide
    exact hno 'T' (by decide) ((List.isPrefixOf_iff_prefix.mp hp).subset hmem)
  exact ⟨hne, hupper, strstr_eq_none (by decide : 'X' ∈ "EXIT".toList) (hno 'X' (by decide)), hat,
    hno '\r' (by decide), hno nul (by decide), hlen⟩

/-- The optional number of bytes expected. -/
def countDigit (n : Nat) : List Char := if n = 0 then [] else fmtX 1 n

/-- The request for the value of a PID, with the number of bytes expected. -/
def valueRequest (pid n : Nat) : List Char := fmtX 2 0x01 ++ (fmtX 2 pid ++ countDigit n)

section Request

variable {pid n : Nat}

theorem requestText_value (hn : n ≤ 8) :
    requestText 0x01 pid n = valueRequest pid n ++ ['\r'] := by
  have hmod : ((n : Int) % 2 ^ 32).toNat = n := by omega
  unfold requestText valueRequest countDigit
  rw [if_neg (by decide), hmod]
  by_cases h : n = 0
  · simp [h, obdcmdNewline]
  · rw [if_neg (by omega), if_neg h]
    simp [obdcmdNewline]

theorem mem_valueRequest (hp : pid < 256) (hn : n ≤ 8) {c : Char}
    (hc : c ∈ valueRequest pid n) : c ∈ hexChars := by
  rcases List.mem_append.mp hc with hc | hc
  · exact mem_fmtX_byte (by decide) hc
  · rcases List.mem_append.mp hc with hc | hc
    · exact mem_fmtX_byte hp hc
    · unfold countDigit at hc
      split at hc
      · cases hc
      · rw [fmtX_digit n (by omega)] at hc
        obtain rfl := List.mem_singleton.mp hc
        exact upperDigit_mem n (by omega)

theorem valueRequest_length (hp : pid < 256) (hn : n ≤ 8) :
    4 ≤ (valueRequest pid n).length ∧ (valueRequest pid n).length ≤ 5 := by
  have hdigit : (countDigit n).length ≤ 1 := by
    unfold countDigit
    split
    · decide
    · rw [fmtX_digit n (by omega)]
      exact Nat.le_refl 1
  rw [valueRequest, List.length_append, List.length_append, fmtX_byte_length (by decide),
    fmtX_byte_length hp]
  omega

/-- The simulator scans the mode, the PID and the digit. -/
theorem scan_valueRequest (hp : pid < 256) (hn : n ≤ 8) :
    (sscanf requestFormat (valueRequest pid n)).vals =
      0x01 :: pid :: if n = 0 then [] else [n] := by
  have h1 := scanHex_fmtX (by decide : 0x01 < 256) (fmtX 2 pid ++ countDigit n)
  have h2 := scanHex_fmtX hp (countDigit n)
  have h3 : assigned [.space, .hex none] (countDigit n) = if n = 0 then [] else [n] := by
    rw [assigned_space_hex, assigned, countDigit]
    by_cases h : n = 0
    · rw [if_pos h, if_pos h]
      rfl
    · rw [if_neg h, if_neg h, scanHex_digit n (by omega)]
      rfl
  rw [sscanf, requestFormat, assigned, valueRequest, h1]
  dsimp only
  rw [assigned_space_hex, assigned, h2]
  dsimp only
  rw [h3]

end Request

/-! ## The values -/

/-- What an ECU may answer: nothing, or one to four bytes. -/
def Answers (v : GenValue) : Prop :=
  v.count = 0 ∨ 1 ≤ v.count ∧ v.count ≤ 4 ∧ ∀ k < v.count.toNat, v.abcd k < 256

instance (v : GenValue) : Decidable (Answers v) := inferInstanceAs (Decidable (_ ∨ _ ∧ _ ∧ _))

/-- The answers of the ECUs that a mode 01 request asks, in order. -/
def askedValues (ss : SimSettings) (gens : Nat → Simgen) (pid : Nat) : List GenValue :=
  (ecuLoop ss gens 0x01 pid 0 ss.ecudelays).queried.map fun i => (gens i).getvalue 0x01 pid

/-- What the logger should get: the first bytes that an ECU answered. -/
def readBack (vs : List GenValue) : ObdBytes :=
  match vs.find? fun v => 0 < v.count with
  | none => ⟨.noData, [], none⟩
  | some v => gotBytes v.bytes

/-- The line for a value: the mode, the PID, and the bytes. -/
def valuePairs (sp : List Char) (pid : Nat) (v : GenValue) : List (List Char × Nat) :=
  ([], 0x41) :: (sp, pid) :: v.bytes.map fun b => (sp, b)

section Values

variable {ss : SimSettings} {gens : Nat → Simgen} {pid : Nat} {v : GenValue}

theorem space_cases (eSpaces : Int) : space eSpaces = [] ∨ space eSpaces = [' '] := by
  unfold space
  split
  · exact Or.inr rfl
  · exact Or.inl rfl

theorem valuePairs_spaced (hpid : pid < 256) (hv : Answers v) (hpos : 0 < v.count) :
    Spaced (valuePairs (space ss.eSpaces) pid v) := by
  obtain ⟨-, -, hbytes⟩ := hv.resolve_left (by omega)
  intro p hp
  rcases List.mem_cons.mp hp with rfl | hp
  · exact ⟨Or.inl rfl, by decide⟩
  · rcases List.mem_cons.mp hp with rfl | hp
    · exact ⟨space_cases _, hpid⟩
    · obtain ⟨b, hb, rfl⟩ := List.mem_map.mp hp
      obtain ⟨k, hk, rfl⟩ := List.mem_map.mp hb
      exact ⟨space_cases _, hbytes k (List.mem_range.mp hk)⟩

theorem valuePairs_length (hv : Answers v) (hpos : 0 < v.count) (sp : List Char) (pid : Nat) :
    3 ≤ (valuePairs sp pid v).length ∧ (valuePairs sp pid v).length ≤ 6 := by
  obtain ⟨h1, h4, -⟩ := hv.resolve_left (by omega)
  simp only [valuePairs, GenValue.bytes, List.length_cons, List.length_map, List.length_range]
  omega

/-- With headers off, the line of a value is made of its bytes in hex, behind
those of the mode and the PID. -/
theorem valueLine_eq (hheaders : ss.eHeaders = 0) (hpid : pid < 256) (hv : Answers v)
    (hpos : 0 < v.count) (ecuNum : Nat) :
    valueLine ss ecuNum 0x01 pid v = pairsText (valuePairs (space ss.eSpaces) pid v) := by
  obtain ⟨h1, h4, hbytes⟩ := hv.resolve_left (by omega)
  have hsp : (space ss.eSpaces).length ≤ 1 := by
    rcases space_cases ss.eSpaces with h | h <;> simp [h]
  have hheader : ss.header ecuNum (v.count + 2).toNat = [] := by
    rw [SimSettings.header, if_neg (by simp [hheaders])]
  have hmin : min v.count.toNat 8 = v.count.toNat := by omega
  -- nothing is cut off by the buffers: neither the head of the line nor a byte
  have hhead : snprintf responseSize ([] ++ fmtX 2 (0x01 + 0x40) ++ space ss.eSpaces ++
      fmtX 2 pid) = fmtX 2 0x41 ++ (space ss.eSpaces ++ fmtX 2 pid) := by
    rw [snprintf_eq_self, List.nil_append, List.append_assoc]
    simp only [List.length_append, List.length_nil, fmtX_byte_length hpid,
      fmtX_byte_length (by decide : 0x01 + 0x40 < 256)]
    unfold responseSize
    omega
  have hshort : ∀ b < 256, shortbuf ss b = space ss.eSpaces ++ fmtX 2 b := by
    intro b hb
    rw [shortbuf, snprintf_eq_self]
    rw [List.length_append, fmtX_byte_length hb]
    omega
  have hflat : v.bytes.flatMap (shortbuf ss) =
      pairsText (v.bytes.map fun b => (space ss.eSpaces, b)) := by
    rw [pairsText, List.flatMap_map]
    refine List.flatMap_congr fun b hb => hshort b ?_
    obtain ⟨k, hk, rfl⟩ := List.mem_map.mp hb
    exact hbytes k (List.mem_range.mp hk)
  unfold valueLine
  dsimp only
  rw [hheader, hhead, if_neg (by simp [hheaders]), hmin]
  rw [show (List.range v.count.toNat).map v.abcd = GenValue.bytes v from rfl, hflat]
  simp [valuePairs, pairsText]

/-- The responses to a request for a value, with headers off: a line of bytes
for each ECU that has some, in the order in which the ECUs were asked. -/
theorem responses_eq (hheaders : ss.eHeaders = 0) (hpid : pid < 256)
    (hvals : ∀ v ∈ askedValues ss gens pid, Answers v) :
    (ecuLoop ss gens 0x01 pid 0 ss.ecudelays).responses =
      ((askedValues ss gens pid).filter fun v => 0 < v.count).map fun v =>
        pairsText (valuePairs (space ss.eSpaces) pid v) := by
  have hlines : ∀ is : List Nat, (∀ i ∈ is, Answers ((gens i).getvalue 0x01 pid)) →
      (is.filterMap fun i => if 0 < ((gens i).getvalue 0x01 pid).count then
          some (valueLine ss (ss.ecuNum i) 0x01 pid ((gens i).getvalue 0x01 pid)) else none) =
        ((is.map fun i => (gens i).getvalue 0x01 pid).filter fun v => 0 < v.count).map fun v =>
          pairsText (valuePairs (space ss.eSpaces) pid v) := by
    intro is his
    induction is with
    | nil => rfl
    | cons i is ih =>
      have hv := his i (List.mem_cons_self ..)
      have ih := ih fun j hj => his j (List.mem_cons_of_mem _ hj)
      rw [List.map_cons, List.filterMap_cons]
      by_cases hpos : 0 < ((gens i).getvalue 0x01 pid).count
      · rw [List.filter_cons_of_pos (by simpa using hpos), List.map_cons, if_pos hpos, ← ih,
          valueLine_eq hheaders hpid hv hpos]
      · rw [List.filter_cons_of_neg (by simpa using hpos), if_neg hpos, ← ih]
  rw [ecuLoop_responses]
  exact hlines _ fun i hi => hvals _ (List.mem_map_of_mem hi)

/-- No ECU that answers, be it with or without a value, ends the loop of the
simulator. -/
theorem ecuLoop_goesOn : ∀ {acc : Int} {ds : List ObdgenEcudelay},
    (∀ i ∈ (ecuLoop ss gens 0x01 pid acc ds).queried, ((gens i).getvalue 0x01 pid).count ≠ -1) →
      (ecuLoop ss gens 0x01 pid acc ds).mustexit = false
  | _, [], _ => rfl
  | acc, d :: ds, h => by
    rw [ecuLoop] at h ⊢
    split at h
    · next hlate =>
      rw [if_pos hlate]
      exact ecuLoop_goesOn h
    · next hask =>
      rw [if_neg hask]
      dsimp only at h ⊢
      split at h
      · next hexit => exact absurd hexit (h d.ecu (List.mem_singleton_self _))
      · next hexit =>
        rw [if_neg hexit]
        exact ecuLoop_goesOn fun i hi => h i (List.mem_cons_of_mem _ hi)

/-- At most six ECUs answer a request, as many as the simulator can have. -/
theorem askedValues_length (ss : SimSettings) (gens : Nat → Simgen) (pid : Nat) :
    (askedValues ss gens pid).length ≤ obdsimMaxecus := by
  have hsub : (ecuLoop ss gens 0x01 pid 0 ss.ecudelays).queried.Sublist
      (ss.ecudelays.map ObdgenEcudelay.ecu) := ecuLoop_queried_sublist 0 ss.ecudelays
  have hlen := hsub.length_le
  rw [List.length_map] at hlen
  rw [askedValues, List.length_map]
  exact hlen.trans ss.ecudelays_le

end Values

/-! ## The round trip -/

/-- What the logger may hear before the reply: nothing, or its own request. -/
def IsEcho (text : List Char) (heard : List (List Char)) : Prop := heard = [] ∨ heard = [text]

theorem isEcho_echoLines (s : SimState) (text : List Char) : IsEcho text (echoLines s text) := by
  unfold echoLines
  split
  · exact Or.inr rfl
  · exact Or.inl rfl

section Read

variable {pid n : Nat} {heard : List (List Char)} {vs : List GenValue}

/-- The echo is one more line, of five characters at most. -/
theorem IsEcho.lines (h : IsEcho (valueRequest pid n) heard) (hpid : pid < 256) (hn : n ≤ 8) :
    (∀ line ∈ heard, IsLine line) ∧ heard.length ≤ 1 ∧ (echoed heard).length ≤ 6 := by
  have hlen := valueRequest_length hpid hn
  rcases h with rfl | rfl
  · simp [echoed]
  · refine ⟨fun line hl => ?_, Nat.le_refl _, by simp [echoed]; omega⟩
    obtain rfl := List.mem_singleton.mp hl
    refine ⟨fun hnil => ?_, fun c hc => List.mem_append_left _ (mem_valueRequest hpid hn hc)⟩
    rw [hnil, List.length_nil] at hlen
    omega

/-- The loop over the lines of a reply passes over the echo, if there is one. -/
theorem IsEcho.readLines (h : IsEcho (valueRequest pid n) heard) (hpid : pid < 256)
    (lines : List (List Char)) (ret : ObdSerialStatus) :
    ∃ ret', readLines 0x01 pid ((heard ++ lines).map (LogicalLine.mk false)) ret =
      readLines 0x01 pid (lines.map (LogicalLine.mk false)) ret' := by
  rcases h with rfl | rfl
  · exact ⟨ret, rfl⟩
  · refine readLines_echo (by decide) (by decide) (by decide) ?_ _ ret
    rw [List.length_append, fmtX_byte_length hpid]
    omega

/-- **The logger's side.** From the lines of the ECUs' answers, `getobdbytes`
takes the first answer with bytes. -/
theorem getobdbytes_values (ss : SimSettings) {x : Exchange} {lines : List (List Char)}
    {fuel : Nat} (hpid : pid < 256) (hn : n ≤ 8) (hvs : ∀ v ∈ vs, Answers v)
    (hsix : vs.length ≤ obdsimMaxecus) (hecho : IsEcho (valueRequest pid n) heard)
    (hwrote : (requestText 0x01 pid n).length ≤ x.wrote)
    (hlines : lines = (vs.filter fun v => 0 < v.count).map fun v =>
      pairsText (valuePairs (space ss.eSpaces) pid v))
    (hreads : readBytes x.reads = echoed heard ++
      (replyBody (newline ss.eLinefeed) (if lines = [] then ["NO DATA".toList] else lines) ++ ['>']))
    (ht : InTime x.reads) (hfuel : 8 ≤ fuel) :
    getobdbytes 0x01 pid n x fuel = some (readBack vs) := by
  obtain ⟨hheard, hone, hechoLen⟩ := hecho.lines hpid hn
  have hnl := newline_length ss.eLinefeed
  have hanswered : ∀ v ∈ vs.filter fun v => 0 < v.count, Answers v ∧ 0 < v.count := by
    intro v hv
    obtain ⟨hv, hpos⟩ := List.mem_filter.mp hv
    exact ⟨hvs v hv, by simpa using hpos⟩
  have hfirst : vs.find? (fun v => 0 < v.count) = (vs.filter fun v => 0 < v.count).head? :=
    List.head?_filter.symm
  have hcount : (vs.filter fun v => 0 < v.count).length ≤ 6 :=
    (List.length_filter_le _ _).trans hsix
  rw [readBack, hfirst]
  cases hv : vs.filter fun v => 0 < v.count with
  | nil =>
    -- no ECU had a value
    rw [hv, List.map_nil] at hlines
    rw [hlines, if_pos rfl] at hreads
    have hlen := replyBody_length hnl
      (by simp : ∀ line ∈ ["NO DATA".toList], line.length ≤ 7)
    refine getobdbytes_noData hwrote (isNewline_newline _) hheard ?_ hreads ht fuel
    rw [List.length_append]
    simp only [List.length_singleton] at hlen
    unfold retbufSize
    omega
  | cons v rest =>
    rw [hv] at hanswered hcount
    obtain ⟨hans, hpos⟩ := hanswered v (List.mem_cons_self ..)
    have hspaced : ∀ u ∈ v :: rest, Spaced (valuePairs (space ss.eSpaces) pid u) := fun u hu =>
      valuePairs_spaced hpid (hanswered u hu).1 (hanswered u hu).2
    have hline : ∀ line ∈ lines, IsLine line ∧ line.length ≤ 18 := by
      intro line hl
      rw [hlines, hv] at hl
      obtain ⟨u, hu, rfl⟩ := List.mem_map.mp hl
      have hu6 := (valuePairs_length (hanswered u hu).1 (hanswered u hu).2 (space ss.eSpaces)
        pid).2
      exact ⟨(hspaced u hu).isLine (List.cons_ne_nil _ _),
        (hspaced u hu).length.2.trans (by omega)⟩
    have hall : ∀ line ∈ heard ++ lines, IsLine line := fun line hl =>
      (List.mem_append.mp hl).elim (hheard line) fun hl => (hline line hl).1
    have hne : lines ≠ [] := by
      rw [hlines, hv]
      exact List.cons_ne_nil _ _
    have hlen : lines.length ≤ 6 := by
      rwa [hlines, hv, List.length_map]
    have hbody := replyBody_length hnl fun line hl => (hline line hl).2
    rw [if_neg hne] at hreads
    rw [getobdbytes_lines hwrote (isNewline_newline _) hall (by
        rw [List.length_append]
        unfold retbufSize
        omega) hreads ht,
      lineLoop_of_fuel (by rw [List.length_append]; omega), logicalLines_isLine hall]
    -- the echo is passed over, and the first line taken
    obtain ⟨ret, hskip⟩ := hecho.readLines hpid lines .error
    rw [hskip, hlines, hv]
    obtain ⟨h1, h4, -⟩ := hans.resolve_left (by omega)
    refine readLines_values (hspaced v (List.mem_cons_self ..)) ?_
      (valuePairs_length hans hpos _ _).1 ?_ (by decide) _ ret
    · simp [valuePairs, replyHead, haveCmd, Function.comp_def]
    · simp only [GenValue.bytes, List.length_map, List.length_range]
      unfold localRetsSize
      omega

end Read

section Session

variable (parseATcmd : SimSettings → Bool → List Char → AtResult) {s : SimState}
  {pre : List Moment} {m : Moment}

/-- The exchange, and the state it leaves the simulator in: ready for the next
request of the session. -/
theorem getobdbytes_session (pid n : Nat) (hs : Ready s [])
    (hheaders : s.ss.eHeaders = 0) (hpid : (obdGetCmdForPID pid).isSome) (hn : n ≤ 8)
    (hquiet : ∀ q ∈ pre ++ [m], Quiet s.ss.ecuCount q) (hlast : m.result.bytes ≠ [])
    (hreq : delivered (pre ++ [m]) = sendbuf 0x01 pid n)
    (hvals : ∀ v ∈ askedValues s.ss m.ask pid, Answers v) :
    ∃ s' outs, SameSession s s' ∧ Ready s' [] ∧
      run (mainLoop parseATcmd) s (pre ++ [m]) = some (s', outs) ∧
      ∀ (wrote : Int) (reads : List SerialRead) (fuel : Nat),
        (sendbuf 0x01 pid n).length ≤ wrote → readBytes reads = outs.flatten → InTime reads →
        8 ≤ fuel → getobdbytes 0x01 pid n ⟨wrote, reads⟩ fuel =
          some (readBack (askedValues s.ss m.ask pid)) := by
  have hpid' : pid < 256 := by
    have := obdGetCmdForPID_isSome_iff.mp hpid
    omega
  have hlen := valueRequest_length hpid' hn
  -- the request is not cut off by the buffer it is written to
  have hsend : sendbuf 0x01 pid n = requestText 0x01 pid n := by
    rw [sendbuf, snprintf_eq_self]
    rw [requestText_value hn, List.length_append]
    simp only [List.length_singleton]
    omega
  have hplain : PlainRequest (valueRequest pid n) := by
    refine plainRequest_of_hex (fun hnil => ?_) (fun c hc => mem_valueRequest hpid' hn hc) ?_
    · rw [hnil, List.length_nil] at hlen
      omega
    · unfold pendingMax
      omega
  have hscan := scan_valueRequest hpid' hn
  -- ECUs that answer do not end the loop
  have hexit : (handle s.ss m.ask (valueRequest pid n)).mustexit = false := by
    rw [handle_mode1 hscan hpid]
    refine ecuLoop_goesOn fun i hi => ?_
    rcases hvals _ (List.mem_map_of_mem hi) with h | h <;> omega
  obtain ⟨s', outs, hsame, hs', hrun, hout⟩ := mainLoop_session parseATcmd hs hquiet hplain
    (hreq.trans (hsend.trans (requestText_value hn))) hlast (by rw [hscan]; simp) hexit
  refine ⟨s', outs, hsame, hs', hrun, fun wrote reads fuel hwrote hreads ht hfuel => ?_⟩
  -- from here on it is the client's side: the reply, however it is cut
  have hresp := responses_eq hheaders hpid' hvals
  rw [← handle_mode1 hscan hpid] at hresp
  refine getobdbytes_values s.ss hpid' hn hvals (askedValues_length ..) (isEcho_echoLines s _)
    (hsend ▸ hwrote) hresp ?_ ht hfuel
  rw [hreads, hout, echo_eq]
  split
  · next h => rw [request_noData h]
  · next h => rw [request_lines h]

end Session

/-- **A value comes back.** Whatever the settings but for headers, however the
request for a known PID is delivered, and however the reply is cut into reads
that come in time, `getobdbytes` returns the bytes of the first ECU asked that
has any, or `OBD_NO_DATA`. -/
theorem getobdbytes_roundTrip (parseATcmd : SimSettings → Bool → List Char → AtResult)
    {s : SimState} {pre : List Moment} {m : Moment} (pid n : Nat) (hs : Ready s [])
    (hheaders : s.ss.eHeaders = 0) (hpid : (obdGetCmdForPID pid).isSome) (hn : n ≤ 8)
    (hquiet : ∀ q ∈ pre ++ [m], Quiet s.ss.ecuCount q) (hlast : m.result.bytes ≠ [])
    (hreq : delivered (pre ++ [m]) = sendbuf 0x01 pid n)
    (hvals : ∀ v ∈ askedValues s.ss m.ask pid, Answers v) :
    ∃ s' outs, run (mainLoop parseATcmd) s (pre ++ [m]) = some (s', outs) ∧
      ∀ (wrote : Int) (reads : List SerialRead) (fuel : Nat),
        (sendbuf 0x01 pid n).length ≤ wrote → readBytes reads = outs.flatten → InTime reads →
        8 ≤ fuel → getobdbytes 0x01 pid n ⟨wrote, reads⟩ fuel =
          some (readBack (askedValues s.ss m.ask pid)) := by
  obtain ⟨s', outs, -, -, hrun, hback⟩ :=
    getobdbytes_session parseATcmd pid n hs hheaders hpid hn hquiet hlast hreq hvals
  exact ⟨s', outs, hrun, hback⟩

/-- The engine speed, known to the second of two ECUs. -/
def secondEcu (i : Nat) : Simgen :=
  ⟨fun _ pid => if i = 1 ∧ pid = 0x0C then ⟨2, fun k => if k = 0 then 0x1A else 0xF8⟩
    else ⟨0, fun _ => 0⟩, none⟩

/-- The second of two ECUs has a value: its two bytes come back, with echo on
and the request in two pieces. -/
theorem getobdbytes_secondEcu : ∃ s' outs,
    run (mainLoop fun ss mEcho _ => ⟨ss, mEcho, none⟩)
        (SimState.init FDSimPort.init (startSettings [0, 10] (by decide)))
        [.reading ['0', '1', '0'] secondEcu, .reading ['C', '2', '\r'] secondEcu] =
      some (s', outs) ∧
    ∀ (wrote : Int) (reads : List SerialRead) (fuel : Nat),
      (sendbuf 0x01 0x0C (2 : Nat)).length ≤ wrote → readBytes reads = outs.flatten →
      InTime reads → 8 ≤ fuel → getobdbytes 0x01 0x0C (2 : Nat) ⟨wrote, reads⟩ fuel =
        some ⟨.success, [(0, 0x1A), (1, 0xF8)], some 2⟩ := by
  have hquiet : ∀ q ∈ [Moment.reading ['0', '1', '0'] secondEcu] ++
      [Moment.reading ['C', '2', '\r'] secondEcu], Quiet 2 q := by
    intro q hq
    rcases List.mem_cons.mp hq with rfl | hq
    · exact quiet_reading (List.cons_ne_nil _ _) _ _
    · obtain rfl := List.mem_singleton.mp hq
      exact quiet_reading (List.cons_ne_nil _ _) _ _
  have hback : readBack (askedValues (startSettings [0, 10] (by decide)) secondEcu 0x0C) =
      ⟨.success, [(0, 0x1A), (1, 0xF8)], some 2⟩ := by decide
  have h := getobdbytes_roundTrip (fun ss mEcho _ => ⟨ss, mEcho, none⟩) 0x0C 2
    (init_ready (startSettings [0, 10] (by decide))) rfl (by decide) (by decide)
    hquiet (List.cons_ne_nil _ _) (by decide) (by decide)
  rw [← hback]
  exact h

end ObdGpsLogger.Wire
