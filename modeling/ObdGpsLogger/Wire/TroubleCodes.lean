import ObdGpsLogger.Wire.RoundTrip

/-!
# Trouble codes from the simulator to the logger

Mode 03 sends an ECU's trouble codes three to a line. `getobdbytes` takes the
values of the first line it accepts and leaves the loop, so the codes past
the third are lost; and with echo on it never gets that far, since the echo
of `03` is a line of two characters, which the loop cannot get past.
`getobdbytes_codes_iff` says that otherwise the codes come back.
-/

namespace ObdGpsLogger.Wire

open CLib Machine Obdcomm Sim

/-! ## The lines -/

/-- The three codes from code `j` on, with zeroes for those there are not. -/
def threeCodes (k : Nat) (errorcodes : Nat → Nat) (j : Nat) : List Nat :=
  [errorcodes (j * 2), errorcodes (j * 2 + 1),
    if 1 < k - j then errorcodes ((j + 1) * 2) else 0,
    if 1 < k - j then errorcodes ((j + 1) * 2 + 1) else 0,
    if 2 < k - j then errorcodes ((j + 2) * 2) else 0,
    if 2 < k - j then errorcodes ((j + 2) * 2 + 1) else 0]

/-- The pairs of a line of trouble codes: the mode of the reply, and the bytes. -/
def codePairs (sp : List Char) (bytes : List Nat) : List (List Char × Nat) :=
  ([], 0x43) :: bytes.map fun b => (sp, b)

theorem threeCodes_lt {k j : Nat} {errorcodes : Nat → Nat} (hj : j < k)
    (hbytes : ∀ b < 2 * k, errorcodes b < 256) : ∀ b ∈ threeCodes k errorcodes j, b < 256 := by
  intro b hb
  simp only [threeCodes, List.mem_cons, List.not_mem_nil, or_false] at hb
  rcases hb with rfl | rfl | rfl | rfl | rfl | rfl
  · exact hbytes _ (by omega)
  · exact hbytes _ (by omega)
  all_goals
    split
    · exact hbytes _ (by omega)
    · decide

/-- Up to three codes fit the first line of a reply; what they leave of its six
bytes is zeroes. -/
theorem threeCodes_zero {k : Nat} (errorcodes : Nat → Nat) (h1 : 1 ≤ k) (h3 : k ≤ 3) :
    threeCodes k errorcodes 0 =
      (List.range (2 * k)).map errorcodes ++ List.replicate (6 - 2 * k) 0 := by
  have hk : k = 1 ∨ k = 2 ∨ k = 3 := by omega
  rcases hk with rfl | rfl | rfl <;> rfl

theorem codePairs_spaced {bytes : List Nat} (hbytes : ∀ b ∈ bytes, b < 256) (eSpaces : Int) :
    Spaced (codePairs (space eSpaces) bytes) := by
  intro p hp
  rcases List.mem_cons.mp hp with rfl | hp
  · exact ⟨Or.inl rfl, by decide⟩
  · obtain ⟨b, hb, rfl⟩ := List.mem_map.mp hp
    exact ⟨space_cases _, hbytes b hb⟩

/-- A header is 15 characters long at most, and so fits its buffer. -/
theorem header_length (ss : SimSettings) (ecuNum messagelen : Nat) :
    (ss.header ecuNum messagelen).length ≤ 15 := by
  unfold SimSettings.header renderObdheader
  split
  · dsimp only
    split <;> first | exact List.length_take_le _ _ | exact Nat.zero_le _
  · exact Nat.zero_le _

/-- The line is made of the header and the pairs. -/
theorem errorLine_text (ss : SimSettings) (ecuNum : Nat) {k j : Nat} {errorcodes : Nat → Nat}
    (hj : j < k) (hbytes : ∀ b < 2 * k, errorcodes b < 256) :
    errorLine ss ecuNum k errorcodes j =
      ss.header ecuNum 7 ++
        pairsText (codePairs (space ss.eSpaces) (threeCodes k errorcodes j)) := by
  have hheader := header_length ss ecuNum 7
  have hlen := (codePairs_spaced (threeCodes_lt hj hbytes) ss.eSpaces).length.2
  have hseven : (codePairs (space ss.eSpaces) (threeCodes k errorcodes j)).length = 7 := rfl
  have htext : pairsText (codePairs (space ss.eSpaces) (threeCodes k errorcodes j)) =
      fmtX 2 0x43 ++ pairsText ((threeCodes k errorcodes j).map fun b => (space ss.eSpaces, b)) :=
    rfl
  have htwo : (fmtX 2 0x43).length = 2 := fmtX_byte_length (by decide)
  rw [hseven, htext, List.length_append, htwo] at hlen
  have hfits : ∀ t, t = pairsText ((threeCodes k errorcodes j).map fun b =>
      (space ss.eSpaces, b)) →
      snprintf responseSize (ss.header ecuNum 7 ++ fmtX 2 0x43 ++ snprintf 32 t) =
      ss.header ecuNum 7 ++ (fmtX 2 0x43 ++ pairsText ((threeCodes k errorcodes j).map fun b =>
        (space ss.eSpaces, b))) := by
    rintro t rfl
    rw [snprintf_eq_self (by omega : _ < 32), List.append_assoc, snprintf_eq_self]
    rw [List.length_append, List.length_append, htwo]
    unfold responseSize
    omega
  rw [errorLine, htext]
  exact hfits _ (by simp [pairsText, threeCodes])

/-- With headers off, one line of an ECU's codes is made of bytes in hex: that
of the mode, and those of three codes. -/
theorem errorLine_eq {ss : SimSettings} (hheaders : ss.eHeaders = 0) (ecuNum : Nat) {k j : Nat}
    {errorcodes : Nat → Nat} (hj : j < k) (hbytes : ∀ b < 2 * k, errorcodes b < 256) :
    errorLine ss ecuNum k errorcodes j =
      pairsText (codePairs (space ss.eSpaces) (threeCodes k errorcodes j)) := by
  have hheader : ss.header ecuNum 7 = [] := by
    rw [SimSettings.header, if_neg (by simp [hheaders])]
  rw [errorLine_text ss ecuNum hj hbytes, hheader, List.nil_append]

/-- With headers off, the lines of an ECU are those of its codes, three on each
line. -/
theorem errorLines_eq {ss : SimSettings} (hheaders : ss.eHeaders = 0) (ecuNum : Nat) {g : Simgen}
    {report : Nat → GenErrors} {k : Nat} (hg : g.geterrorcodes = some report)
    (hk : (report 10).errorcount = k) (hbytes : ∀ b < 2 * k, (report 10).errorcodes b < 256) :
    errorLines ss ecuNum g = (List.range ((k + 2) / 3)).map fun line =>
      pairsText (codePairs (space ss.eSpaces) (threeCodes k (report 10).errorcodes (3 * line))) := by
  rw [errorLines, hg]
  dsimp only
  rw [hk, Int.toNat_natCast]
  refine List.map_congr_left fun line hl => ?_
  have := List.mem_range.mp hl
  exact errorLine_eq hheaders ecuNum (by omega) hbytes

/-- The generator of an ECU reports no trouble codes. -/
def Silent (g : Simgen) : Prop :=
  ∀ report, g.geterrorcodes = some report → (report 10).errorcount ≤ 0

theorem errorLines_silent (ss : SimSettings) (ecuNum : Nat) {g : Simgen} (h : Silent g) :
    errorLines ss ecuNum g = [] := by
  unfold errorLines
  cases hg : g.geterrorcodes with
  | none => rfl
  | some report =>
    have := h report hg
    dsimp only
    rw [show ((report 10).errorcount.toNat + 2) / 3 = 0 by omega]
    rfl

/-- Of lists that are all empty but one, that one is left. -/
theorem flatMap_single {α β : Type} {f : α → List β} {a : α} : ∀ {l : List α}, l.Nodup → a ∈ l →
    (∀ b ∈ l, b ≠ a → f b = []) → l.flatMap f = f a
  | [], _, h, _ => by cases h
  | b :: l, hnodup, hmem, hnil => by
    obtain ⟨hb, hnodup⟩ := List.nodup_cons.mp hnodup
    have hrest : ∀ c ∈ l, c ≠ a → f c = [] := fun c hc => hnil c (List.mem_cons_of_mem _ hc)
    rw [List.flatMap_cons]
    by_cases hba : b = a
    · subst hba
      have hempty : l.flatMap f = [] := List.flatMap_eq_nil_iff.mpr fun c hc =>
        hrest c hc fun h => hb (h ▸ hc)
      rw [hempty, List.append_nil]
    · rw [hnil b (List.mem_cons_self ..) hba, List.nil_append]
      exact flatMap_single hnodup ((List.mem_cons.mp hmem).resolve_left (Ne.symm hba)) hrest

/-! ## The reply -/

/-- The text of the request for the stored codes. -/
def codesRequest : List Char := ['0', '3']

theorem codesRequest_hex : ∀ c ∈ codesRequest, c ∈ hexChars := by
  have hall : codesRequest.all (fun c => hexChars.contains c) = true := by decide
  simpa using hall

theorem codesRequest_plain : PlainRequest codesRequest :=
  plainRequest_of_hex (List.cons_ne_nil _ _) codesRequest_hex (by decide)

theorem codesRequest_isLine : IsLine codesRequest :=
  ⟨List.cons_ne_nil _ _, fun c hc => List.mem_append_left _ (codesRequest_hex c hc)⟩

theorem sendbuf_codes : sendbuf 0x03 0x00 0 = codesRequest ++ ['\r'] := by
  decide

section Read

variable {ss : SimSettings} {gens : Nat → Simgen} {i k : Nat} {report : Nat → GenErrors}

/-- The responses are the lines of the one ECU that has codes. -/
theorem codes_responses (hheaders : ss.eHeaders = 0) (hi : i < ss.ecuCount)
    (hg : (gens i).geterrorcodes = some report) (hk : (report 10).errorcount = k)
    (hbytes : ∀ b < 2 * k, (report 10).errorcodes b < 256)
    (hothers : ∀ j < ss.ecuCount, j ≠ i → Silent (gens j)) :
    (handle ss gens codesRequest).responses = (List.range ((k + 2) / 3)).map fun line =>
      pairsText (codePairs (space ss.eSpaces)
        (threeCodes k (report 10).errorcodes (3 * line))) := by
  have hscan : (sscanf requestFormat codesRequest).vals = [0x03] := by decide
  rw [handle, hscan]
  dsimp only
  rw [request1, if_pos (Or.inl rfl), Handled.of, ← errorLines_eq hheaders (ss.ecuNum i) hg hk hbytes]
  exact flatMap_single List.nodup_range (List.mem_range.mpr hi) fun j hj hne =>
    errorLines_silent _ _ (hothers j (List.mem_range.mp hj) hne)

/-- Each line of codes is a line of seven bytes, and so of 21 characters at
most. -/
theorem codes_isLine {lines : List (List Char)}
    (hbytes : ∀ b < 2 * k, (report 10).errorcodes b < 256)
    (hlines : lines = (List.range ((k + 2) / 3)).map fun line =>
      pairsText (codePairs (space ss.eSpaces) (threeCodes k (report 10).errorcodes (3 * line)))) :
    ∀ line ∈ lines, IsLine line ∧ line.length ≤ 21 := by
  intro line hl
  rw [hlines] at hl
  obtain ⟨n, hn, rfl⟩ := List.mem_map.mp hl
  have hlt := List.mem_range.mp hn
  have hspaced := codePairs_spaced (threeCodes_lt (by omega : 3 * n < k) hbytes) ss.eSpaces
  exact ⟨hspaced.isLine (List.cons_ne_nil _ _), hspaced.length.2⟩

/-- The logger's loop goes through the echo and the lines. -/
theorem getobdbytes_codes {x : Exchange} {heard : List (List Char)} (h1 : 1 ≤ k) (h10 : k ≤ 10)
    (hbytes : ∀ b < 2 * k, (report 10).errorcodes b < 256)
    (hresp : (handle ss gens codesRequest).responses = (List.range ((k + 2) / 3)).map fun line =>
      pairsText (codePairs (space ss.eSpaces)
        (threeCodes k (report 10).errorcodes (3 * line))))
    (hecho : IsEcho codesRequest heard)
    (hreads : readBytes x.reads = echoed heard ++ request ss gens codesRequest)
    (hwrote : (sendbuf 0x03 0x00 0).length ≤ x.wrote) (ht : InTime x.reads) (fuel : Nat) :
    getobdbytes 0x03 0x00 0 x fuel =
      lineLoop 0x03 0x00 fuel (heard ++ (handle ss gens codesRequest).responses) .error := by
  have hline := codes_isLine hbytes hresp
  have hheard : (∀ line ∈ heard, IsLine line) ∧ (echoed heard).length ≤ 3 := by
    rcases hecho with rfl | rfl
    · simp [echoed]
    · refine ⟨fun line hl => ?_, by decide⟩
      obtain rfl := List.mem_singleton.mp hl
      exact codesRequest_isLine
  have hne : (handle ss gens codesRequest).responses ≠ [] := by
    rw [hresp, ne_eq, List.map_eq_nil_iff, List.range_eq_nil]
    omega
  -- four lines at most, and an echo of two characters, so the reply fits the buffer
  have hlen : (handle ss gens codesRequest).responses.length ≤ 4 := by
    rw [hresp, List.length_map, List.length_range]
    omega
  have hnl := newline_length ss.eLinefeed
  have hbody := replyBody_length hnl fun line hl => (hline line hl).2
  rw [request_lines hne] at hreads
  have hsent : requestText 0x03 0x00 0 = sendbuf 0x03 0x00 0 := by decide
  refine getobdbytes_lines (hsent ▸ hwrote) (isNewline_newline _) (fun line hl => ?_) ?_ hreads ht fuel
  · exact (List.mem_append.mp hl).elim (hheard.1 line) fun hl => (hline line hl).1
  · rw [List.length_append]
    unfold retbufSize
    omega

/-- The echo of the request is a line the loop cannot get past. -/
theorem lineLoop_echo (lines : List (List Char)) (ret : ObdSerialStatus) (fuel : Nat) :
    lineLoop 0x03 0x00 fuel (codesRequest :: lines) ret = none :=
  lineLoop_short (by decide) (by decide) fuel

/-- Without echo the loop over the lines of a reply takes the codes of the first
line, and no more. -/
theorem readLines_codes (report : Nat → GenErrors) (h1 : 1 ≤ k)
    (hbytes : ∀ b < 2 * k, (report 10).errorcodes b < 256)
    (eSpaces : Int) (ret : ObdSerialStatus) :
    readLines 0x03 0x00 (((List.range ((k + 2) / 3)).map fun line =>
        pairsText (codePairs (space eSpaces)
          (threeCodes k (report 10).errorcodes (3 * line)))).map (LogicalLine.mk false)) ret =
      some (gotBytes (threeCodes k (report 10).errorcodes 0)) := by
  obtain ⟨n, hn⟩ : ∃ n, (k + 2) / 3 = n + 1 := ⟨(k + 2) / 3 - 1, by omega⟩
  rw [hn, List.range_succ_eq_map, List.map_cons, List.map_cons]
  refine readLines_values (codePairs_spaced (threeCodes_lt (by omega) hbytes) eSpaces) ?_ ?_ ?_
    (by decide) _ ret
  · simp [codePairs, replyHead, haveCmd, Function.comp_def]
  · simp [codePairs, threeCodes]
  · simp [threeCodes, localRetsSize]

/-- The logger gets these bytes, and then only zeroes. -/
def CodesSurvive (bytes : List Nat) (x : Exchange) : Prop :=
  ∃ fuel pad, getobdbytes 0x03 0x00 0 x fuel = some (gotBytes (bytes ++ List.replicate pad 0))

/-- With echo on, the loop over the lines does not end: the echo of the request
is a line of two characters. -/
theorem not_codesSurvive_echo {x : Exchange} (h1 : 1 ≤ k) (h10 : k ≤ 10)
    (hbytes : ∀ b < 2 * k, (report 10).errorcodes b < 256)
    (hresp : (handle ss gens codesRequest).responses = (List.range ((k + 2) / 3)).map fun line =>
      pairsText (codePairs (space ss.eSpaces)
        (threeCodes k (report 10).errorcodes (3 * line))))
    (hreads : readBytes x.reads = echoed [codesRequest] ++ request ss gens codesRequest)
    (hwrote : (sendbuf 0x03 0x00 0).length ≤ x.wrote) (ht : InTime x.reads) (bytes : List Nat) :
    ¬ CodesSurvive bytes x := by
  intro ⟨fuel, pad, h⟩
  rw [getobdbytes_codes h1 h10 hbytes hresp (Or.inr rfl) hreads hwrote ht,
    List.singleton_append, lineLoop_echo] at h
  cases h

end Read

/-- **When the codes come back.** With one ECU reporting codes and headers off,
`getobdbytes` returns all of them in order, and then only zeroes, if and only
if echo is off and there are at most three. -/
theorem getobdbytes_codes_iff (parseATcmd : SimSettings → Bool → List Char → AtResult)
    {s : SimState} {pre : List Moment} {m : Moment} {i k : Nat} {report : Nat → GenErrors}
    (hs : Ready s []) (hheaders : s.ss.eHeaders = 0)
    (hquiet : ∀ q ∈ pre ++ [m], Quiet s.ss.ecuCount q) (hlast : m.result.bytes ≠ [])
    (hreq : delivered (pre ++ [m]) = sendbuf 0x03 0x00 0) (hi : i < s.ss.ecuCount)
    (hg : (m.ask i).geterrorcodes = some report) (hk : (report 10).errorcount = k) (h1 : 1 ≤ k)
    (h10 : k ≤ 10) (hbytes : ∀ b < 2 * k, (report 10).errorcodes b < 256)
    (hothers : ∀ j < s.ss.ecuCount, j ≠ i → Silent (m.ask j)) :
    ∃ s' outs, run (mainLoop parseATcmd) s (pre ++ [m]) = some (s', outs) ∧
      ∀ (wrote : Int) (reads : List SerialRead), (sendbuf 0x03 0x00 0).length ≤ wrote →
        readBytes reads = outs.flatten → InTime reads →
        (CodesSurvive ((List.range (2 * k)).map (report 10).errorcodes) ⟨wrote, reads⟩ ↔
          s.mEcho = false ∧ k ≤ 3) := by
  obtain ⟨s', outs, hrun, hout⟩ := mainLoop_request parseATcmd hs hquiet codesRequest_plain
    (hreq.trans sendbuf_codes) hlast (by decide)
  refine ⟨s', outs, hrun, fun wrote reads hwrote hreads ht => ?_⟩
  have hresp := codes_responses hheaders hi hg hk hbytes hothers
  rw [hout, echo_eq] at hreads
  cases hecho : s.mEcho with
  | true =>
    have hheard : echoLines s codesRequest = [codesRequest] := by simp [echoLines, hecho]
    rw [hheard] at hreads
    exact iff_of_false (not_codesSurvive_echo h1 h10 hbytes hresp hreads hwrote ht _) (by simp)
  | false =>
    have hheard : echoLines s codesRequest = [] := by simp [echoLines, hecho]
    rw [hheard] at hreads
    have hread : ∀ fuel, getobdbytes 0x03 0x00 0 ⟨wrote, reads⟩ fuel =
        lineLoop 0x03 0x00 fuel (handle s.ss m.ask codesRequest).responses .error :=
      getobdbytes_codes h1 h10 hbytes hresp (Or.inl rfl) hreads hwrote ht
    have hlogical := logicalLines_isLine fun line hl => (codes_isLine hbytes hresp line hl).1
    have htaken := readLines_codes report h1 hbytes s.ss.eSpaces .error
    rw [← hresp, ← hlogical] at htaken
    simp only [CodesSurvive, hread]
    constructor
    · -- six values came back, so there were no more than three codes
      intro hback
      obtain ⟨fuel, pad, h⟩ := hback
      have hsame := htaken.symm.trans (readLines_of_lineLoop h)
      injection hsame with hsame
      have hcount := congrArg ObdBytes.numbytesReturned hsame
      simp only [gotBytes, threeCodes, List.length_cons, List.length_nil, List.length_append,
        List.length_map, List.length_range, List.length_replicate, Option.some.injEq] at hcount
      exact ⟨trivial, by omega⟩
    · intro hfew
      obtain ⟨-, h3⟩ := hfew
      refine ⟨(handle s.ss m.ask codesRequest).responses.length + 1, 6 - 2 * k, ?_⟩
      rw [← threeCodes_zero _ h1 h3, ← htaken]
      exact lineLoop_of_fuel (Nat.lt_succ_self _) _

/-- A report of three trouble codes, of the bytes 1 to 6. -/
def threeReported (_ : Nat) : GenErrors := ⟨3, fun b => b + 1⟩

/-- A generator without values that reports three trouble codes. -/
def threeCodesGen : Simgen := ⟨fun _ _ => ⟨0, fun _ => 0⟩, some threeReported⟩

/-- The pass in which the request for the codes arrives. -/
def readsCodes : Moment := .reading ['0', '3', '\r'] fun _ => threeCodesGen

theorem quiet_readsCodes : ∀ q ∈ [] ++ [readsCodes], Quiet 1 q := by
  intro q hq
  obtain rfl := List.mem_singleton.mp hq
  exact quiet_reading (List.cons_ne_nil _ _) _ _

/-- With echo on, as it is from the start, no codes get through: the loop over
the lines of the reply does not end. -/
theorem getobdbytes_codes_stuck : ¬ ∀ (parseATcmd : SimSettings → Bool → List Char → AtResult)
    (s : SimState) (pre : List Moment) (m : Moment) (i k : Nat) (report : Nat → GenErrors),
    Ready s [] → s.ss.eHeaders = 0 → (∀ q ∈ pre ++ [m], Quiet s.ss.ecuCount q) →
    m.result.bytes ≠ [] → delivered (pre ++ [m]) = sendbuf 0x03 0x00 0 → i < s.ss.ecuCount →
    (m.ask i).geterrorcodes = some report → (report 10).errorcount = k → 1 ≤ k → k ≤ 10 →
    (∀ b < 2 * k, (report 10).errorcodes b < 256) →
    (∀ j < s.ss.ecuCount, j ≠ i → Silent (m.ask j)) →
    ∃ s' outs, run (mainLoop parseATcmd) s (pre ++ [m]) = some (s', outs) ∧
      ∀ (wrote : Int) (reads : List SerialRead), (sendbuf 0x03 0x00 0).length ≤ wrote →
        readBytes reads = outs.flatten → InTime reads →
        CodesSurvive ((List.range (2 * k)).map (report 10).errorcodes) ⟨wrote, reads⟩ := by
  intro h
  have hbytes : ∀ b < 2 * 3, (threeReported 10).errorcodes b < 256 := by decide
  have hothers : ∀ j < 1, j ≠ 0 → Silent threeCodesGen := fun j hj hne => by omega
  have hready := init_ready oneEcu
  -- one ECU with three codes, with the echo on as at the start
  obtain ⟨s', outs, hrun, hall⟩ := h (fun ss mEcho _ => ⟨ss, mEcho, none⟩)
    (SimState.init FDSimPort.init oneEcu) [] readsCodes 0 3 threeReported hready rfl quiet_readsCodes
    (List.cons_ne_nil _ _) (by decide) (by decide) rfl rfl (by decide) (by decide) hbytes hothers
  obtain ⟨s'', outs', hrun', hout⟩ := mainLoop_request (fun ss mEcho _ => ⟨ss, mEcho, none⟩)
    hready quiet_readsCodes codesRequest_plain
    (by decide : delivered ([] ++ [readsCodes]) = codesRequest ++ ['\r'])
    (List.cons_ne_nil _ _) (by decide)
  rw [hrun] at hrun'
  obtain ⟨-, rfl⟩ : s' = s'' ∧ outs = outs' := by simpa using hrun'
  have hresp := codes_responses (rfl : oneEcu.eHeaders = 0) (by decide : 0 < oneEcu.ecuCount)
    (rfl : threeCodesGen.geterrorcodes = some threeReported) rfl hbytes hothers
  have hread : readBytes [⟨.data outs.flatten, 0⟩] = outs.flatten := by
    simp [readBytes, ReadResult.bytes]
  have htime : InTime [⟨.data outs.flatten, 0⟩] := by simp [InTime, obdcommTimeout]
  have hwrote : ((sendbuf 0x03 0x00 0).length : Int) ≤ 3 := by decide
  -- the reply, in one read, has the echo in front
  have hsurvive := hall 3 [⟨.data outs.flatten, 0⟩] hwrote hread htime
  have hecho : (SimState.init FDSimPort.init oneEcu).echo (codesRequest ++ ['\r']) =
      echoed [codesRequest] := rfl
  rw [hecho] at hout
  exact not_codesSurvive_echo (by decide) (by decide) hbytes hresp (hread.trans hout) hwrote htime
    _ hsurvive

/-- Three codes of one ECU, with the echo turned off: they get through. -/
theorem getobdbytes_threeCodes : ∃ s' outs,
    run (mainLoop fun ss mEcho _ => ⟨ss, mEcho, none⟩)
        (SimState.init FDSimPort.init { oneEcu with eEcho := 0 }) [readsCodes] =
      some (s', outs) ∧
    ∀ (wrote : Int) (reads : List SerialRead), (sendbuf 0x03 0x00 0).length ≤ wrote →
      readBytes reads = outs.flatten → InTime reads →
      CodesSurvive [1, 2, 3, 4, 5, 6] ⟨wrote, reads⟩ := by
  obtain ⟨s', outs, hrun, hall⟩ := getobdbytes_codes_iff (fun ss mEcho _ => ⟨ss, mEcho, none⟩)
    (init_ready { oneEcu with eEcho := 0 }) rfl quiet_readsCodes (List.cons_ne_nil _ _)
    (by decide) (by decide : 0 < oneEcu.ecuCount) (rfl : threeCodesGen.geterrorcodes = some threeReported)
    (rfl : _ = ((3 : Nat) : Int)) (by decide) (by decide) (by decide)
    (fun j hj hne => absurd (Nat.lt_one_iff.mp hj) hne)
  exact ⟨s', outs, hrun, fun wrote reads hwrote hreads ht =>
    (hall wrote reads hwrote hreads ht).mpr ⟨rfl, by decide⟩⟩

end ObdGpsLogger.Wire
