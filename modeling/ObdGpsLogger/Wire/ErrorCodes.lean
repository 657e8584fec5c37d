import ObdGpsLogger.Wire.Capabilities
import ObdGpsLogger.Wire.DisplayedCodes
import ObdGpsLogger.Wire.Sensors

/-!
# Asking for the trouble codes

`getobderrorcodes` asks how many codes there are, and for the codes only if
there are any. `getobderrorcodes_window` follows it through a conversation with
a simulator that shows the window of the GUI generator: what is printed is what
the window held at the first request, and the codes are those it held at the
second, whatever the user did to it in between.

The codes that come back are the first three, and a code that cannot be encoded
is `P0000` among them.
-/

namespace ObdGpsLogger.Wire

open CLib Machine Obdcomm Obdinfo Sim

/-! ## The window -/

/-- A generator that answers from the window. -/
structure IsWindow (g : Simgen) (f : SimGenGui) : Prop where
  values : ∀ mode pid, ∃ cells, guifltkSimgenGetvalue f cells pid = .value (g.getvalue mode pid)
  codes : ∃ before, g.geterrorcodes = some (guifltkSimgenGeterrorcodes f.toSimGenGuiFltk before)

theorem obdsimgenGuiFltk_isWindow (f : SimGenGui) (cells before : Nat → Nat) :
    IsWindow (obdsimgenGuiFltk f cells before) f := by
  refine ⟨fun mode pid => ⟨cells, ?_⟩, before, rfl⟩
  obtain ⟨v, hv⟩ := guifltkSimgenGetvalue_value f cells pid
  simp [obdsimgenGuiFltk, hv]

section Window

variable {g : Simgen} {f : SimGenGui}

/-- The answer of a window to PID 01 is four bytes: the monitor status, and
three zeroes. -/
theorem IsWindow.status (h : IsWindow g f) (hshown : f.shown = true) :
    (g.getvalue 0x01 0x01).count = 4 ∧
      (g.getvalue 0x01 0x01).bytes = [f.monitorStatus, 0x00, 0x00, 0x00] := by
  obtain ⟨cells, hvalue⟩ := h.values 0x01 0x01
  have hbits : f.supported.bits 0x01 = none := rfl
  unfold guifltkSimgenGetvalue at hvalue
  rw [if_neg (by simp [hshown]), hbits] at hvalue
  have hvalue := Outcome.value.inj hvalue
  rw [← hvalue]
  exact ⟨rfl, rfl⟩

/-- A window that has no codes to report answers a request for codes with none,
as any silent generator does. -/
theorem IsWindow.silent (h : IsWindow g f) (hnone : f.reported = []) : Silent g := by
  obtain ⟨before, hcodes⟩ := h.codes
  intro report hreport
  rw [hcodes] at hreport
  obtain rfl := Option.some.inj hreport
  unfold guifltkSimgenGeterrorcodes
  split
  · exact Int.neg_nonpos_of_nonneg Int.one_nonneg
  · next hshown =>
    split
    · exact le_refl 0
    · next hsome =>
      refine absurd ?_ hsome
      unfold SimGenGui.reported at hnone
      split at hnone
      · exact Or.inr (by rw [hnone]; rfl)
      · next hoff => exact Or.inl (by simpa [hshown] using hoff)

theorem reporting_of_ne_nil (hsome : f.reported ≠ []) :
    f.toSimGenGuiFltk.Reporting ∧ f.reported = f.dtcList := by
  unfold SimGenGui.reported at hsome ⊢
  split at hsome
  · next hon => exact ⟨hon, if_pos hon⟩
  · exact absurd rfl hsome

/-- The number of codes and the lamp, from the bits of a byte. -/
theorem status_bits : ∀ n < 128,
    (n &&& 0xFFFFFF7F = n ∧ n &&& 0x7F = n ∧ n &&& 0x80 = 0) ∧
      (0x80 + n) &&& 0xFFFFFF7F = n ∧ (0x80 + n) &&& 0x7F = n ∧ (0x80 + n) &&& 0x80 ≠ 0 := by
  decide

theorem monitorStatus_eq (hshown : f.shown = true) (hmany : f.dtcList.length < 128) :
    f.monitorStatus = (if f.lamp then 0x80 else 0) + f.reported.length ∧
      f.reported.length < 128 := by
  unfold SimGenGui.monitorStatus SimGenGui.lamp SimGenGui.reported
  cases f.dtcReport with
  | false => simp
  | true => simp [hshown, hmany]

/-- What is read off the first byte of the answer to PID 01, if there are fewer
than 128 codes: their number, and whether the lamp is on. -/
theorem monitorStatus_bits (hshown : f.shown = true) (hmany : f.dtcList.length < 128) :
    f.monitorStatus &&& 0xFFFFFF7F = f.reported.length ∧
      f.monitorStatus &&& 0x7F = f.reported.length ∧
      (f.monitorStatus &&& 0x80 ≠ 0 ↔ f.lamp = true) ∧ f.monitorStatus < 256 := by
  obtain ⟨heq, hlt⟩ := monitorStatus_eq hshown hmany
  obtain ⟨⟨hc, hn, hm⟩, hc', hn', hm'⟩ := status_bits _ hlt
  rw [heq]
  cases f.lamp with
  | false =>
    rw [if_neg (by decide), Nat.zero_add]
    exact ⟨hc, hn, by simp [hm], by omega⟩
  | true =>
    rw [if_pos rfl]
    exact ⟨hc', hn', by simp [hm'], by omega⟩

end Window

/-! ## The number of codes -/

theorem knownPid_01 : (obdGetCmdForPID 0x01).isSome = true := by decide

theorem statusText_eq : "0101".toList = valueRequest 0x01 0 := by decide

/-- The request `0101`, in a line that has its text. -/
def statusQuery (c : Sending) (h : c.text = "0101".toList) : Query :=
  { c with
    pid := 0x01
    n := 0
    known := knownPid_01
    digit := no_digit
    asks := h.trans statusText_eq }

/-- One ECU shows the window and is asked in time; no other one answers. -/
structure AskedFirst (ss : SimSettings) (gens : Nat → Simgen) (i : Nat) : Prop where
  inTime : i ∈ (ecuLoop ss gens 0x01 0x01 0 ss.ecudelays).queried
  others : ∀ j ≠ i, ((gens j).getvalue 0x01 0x01).count = 0

theorem readBack_single {vs : List GenValue} {v : GenValue} (hv : v ∈ vs) (hpos : 0 < v.count)
    (hothers : ∀ w ∈ vs, 0 < w.count → w = v) : readBack vs = gotBytes v.bytes := by
  have hfound : (vs.find? fun w => 0 < w.count).isSome :=
    List.find?_isSome.mpr ⟨v, hv, by simpa using hpos⟩
  obtain ⟨w, hw⟩ := Option.isSome_iff_exists.mp hfound
  obtain rfl := hothers w (List.mem_of_find?_eq_some hw) (by simpa using List.find?_some hw)
  rw [readBack, hw]

section Asked

variable {ss : SimSettings} {gens : Nat → Simgen} {i : Nat} {f : SimGenGui}

theorem AskedFirst.readBack (h : AskedFirst ss gens i) (hf : IsWindow (gens i) f)
    (hshown : f.shown = true) :
    readBack (askedValues ss gens 0x01) = gotBytes [f.monitorStatus, 0x00, 0x00, 0x00] := by
  obtain ⟨hcount, hbytes⟩ := hf.status hshown
  rw [← hbytes]
  refine readBack_single (List.mem_map_of_mem h.inTime) (by omega) fun w hw hpos => ?_
  obtain ⟨j, -, rfl⟩ := List.mem_map.mp hw
  by_cases hj : j = i
  · rw [hj]
  · have := h.others j hj
    omega

theorem AskedFirst.answers (h : AskedFirst ss gens i) (hf : IsWindow (gens i) f)
    (hshown : f.shown = true) (hmany : f.dtcList.length < 128) :
    ∀ v ∈ askedValues ss gens 0x01, Answers v := by
  intro v hv
  obtain ⟨j, -, rfl⟩ := List.mem_map.mp hv
  by_cases hj : j = i
  · obtain ⟨hcount, hbytes⟩ := hf.status hshown
    rw [hj]
    refine Or.inr ⟨by omega, by omega, fun k hk => ?_⟩
    have hmem : ((gens i).getvalue 0x01 0x01).abcd k ∈ [f.monitorStatus, 0x00, 0x00, 0x00] := by
      rw [← hbytes]
      exact List.mem_map_of_mem (List.mem_range.mpr hk)
    have hbyte := (monitorStatus_bits hshown hmany).2.2.2
    simp only [List.mem_cons, List.not_mem_nil, or_false] at hmem
    omega
  · exact Or.inl (h.others j hj)

end Asked

/-! ## The codes -/

/-- What comes of a code of the window. -/
def shownCode (text : List Char) : List Char :=
  if text.getD 1 nul ≤ '3' then text else "P0000".toList

theorem obderrconvert_shown {text : List Char} (h : dtcIsvalid text = true) :
    obderrconvert (itemBytes text).1 (itemBytes text).2 = shownCode text := by
  unfold shownCode
  split
  · next hdigit => exact (obderrconvert_itemBytes h).mpr hdigit
  · next hdigit =>
    have hnone : dtcHumantobytes text = none := by
      rw [← Option.not_isSome_iff_eq_none, dtcHumantobytes_isSome_iff h]
      exact hdigit
    rw [itemBytes, hnone]
    decide

/-- What `getobdbytes` gets for these codes: nothing if there are none, else the
first three, whatever was in the array. -/
def CodesOf (codes : List (List Char)) (r : ObdBytes) : Prop :=
  if codes = [] then r = ⟨.noData, [], none⟩
  else r.status = .success ∧ r.numbytesReturned = some 6 ∧ ∀ retvals : Nat → Nat,
    ((List.range 3).map fun j =>
        obderrconvert (r.fill retvals (2 * j)) (r.fill retvals (2 * j + 1))) =
      (codes.map shownCode ++ List.replicate 3 "P0000".toList).take 3

theorem take_append_replicate {α : Type} (l : List α) (d : α) (n : Nat) :
    (l ++ List.replicate n d).take n = (List.range n).map fun j => l.getD j d := by
  refine List.ext_getElem (by simp) fun j hj _ => ?_
  have hj : j < n := (List.length_take_le _ _).trans_lt' hj
  rw [List.getElem_take, List.getElem_map, List.getElem_range, List.getElem_append]
  split
  · next hlt => rw [List.getD_eq_getElem _ _ hlt]
  · next hge => rw [List.getElem_replicate, List.getD_eq_default _ _ (Nat.not_lt.mp hge)]

/-- The array of six bytes, read as three codes, has the codes of a list of one
to three items. -/
theorem codesOf_items {texts : List (List Char)} (hne : texts ≠ [])
    (hvalid : ∀ text ∈ texts, dtcIsvalid text = true) :
    CodesOf texts (gotBytes (threeOf (texts.map itemBytes) 0)) := by
  have hitem : ∀ j, obderrconvert ((texts.map itemBytes).getD j (0, 0)).1
      ((texts.map itemBytes).getD j (0, 0)).2 =
        (texts.map shownCode).getD j "P0000".toList := by
    intro j
    rw [List.getD_eq_getElem?_getD, List.getD_eq_getElem?_getD, List.getElem?_map,
      List.getElem?_map]
    cases htext : texts[j]? with
    | none => decide
    | some text => exact obderrconvert_shown (hvalid text (List.mem_of_getElem? htext))
  rw [CodesOf, if_neg hne]
  refine ⟨rfl, rfl, fun retvals => ?_⟩
  rw [take_append_replicate]
  refine List.map_congr_left fun j hj => ?_
  have hj : j = 0 ∨ j = 1 ∨ j = 2 := by
    have := List.mem_range.mp hj
    omega
  rw [← hitem]
  have hsix : (threeOf (texts.map itemBytes) 0).length = 6 := rfl
  rw [fill_gotBytes (by omega), fill_gotBytes (by omega)]
  rcases hj with rfl | rfl | rfl <;> rfl

section Codes

variable {ss : SimSettings} {gens : Nat → Simgen} {i : Nat} {f : SimGenGui}

/-- If no ECU has codes to report, the request for codes has no responses. -/
theorem codes_noResponses (hsilent : ∀ j < ss.ecuCount, Silent (gens j)) :
    (handle ss gens codesRequest).responses = [] := by
  have hscan : (sscanf requestFormat codesRequest).vals = [0x03] := by decide
  rw [handle, hscan]
  dsimp only
  rw [request1, if_pos (Or.inl rfl), Handled.of]
  exact List.flatMap_eq_nil_iff.mpr fun j hj =>
    errorLines_silent _ _ (hsilent j (List.mem_range.mp hj))

/-- **The second reply**: the codes of the window. -/
theorem getobdbytes_window {x : Exchange} {fuel : Nat} (hheaders : ss.eHeaders = 0)
    (hi : i < ss.ecuCount) (hf : IsWindow (gens i) f) (hnine : f.dtcList.length ≤ 9)
    (hothers : ∀ j < ss.ecuCount, j ≠ i → Silent (gens j)) (hwrote : 3 ≤ x.wrote)
    (hreads : readBytes x.reads = request ss gens codesRequest) (ht : InTime x.reads)
    (hfuel : 4 ≤ fuel) :
    ∃ r, getobdbytes 0x03 0x00 0 x fuel = some r ∧ CodesOf f.reported r := by
  by_cases hnone : f.reported = []
  · -- nobody has a code, so the reply is `NO DATA`
    have hsilent : ∀ j < ss.ecuCount, Silent (gens j) := by
      intro j hj
      by_cases hji : j = i
      · exact hji ▸ hf.silent hnone
      · exact hothers j hj hji
    have hreads : readBytes x.reads = echoed [] ++
        (replyBody (newline ss.eLinefeed) ["NO DATA".toList] ++ ['>']) :=
      hreads.trans (request_noData (codes_noResponses hsilent))
    have hsent : (requestText 0x03 0x00 0).length = 3 := by decide
    have hlen := replyBody_length (newline_length ss.eLinefeed)
      (by simp : ∀ line ∈ ["NO DATA".toList], line.length ≤ 7)
    refine ⟨_, getobdbytes_noData (by omega) (isNewline_newline _) (by simp) ?_ hreads ht fuel,
      by rw [CodesOf, if_pos hnone]⟩
    unfold retbufSize
    simp only [List.length_singleton] at hlen
    rw [show echoed [] = [] from rfl, List.nil_append]
    omega
  · -- the window is shown, and what it reports is its list
    obtain ⟨hreporting, heq⟩ := reporting_of_ne_nil hnone
    rw [heq] at hnone ⊢
    obtain ⟨before, hg⟩ := hf.codes
    obtain ⟨hcount, hcells⟩ := geterrorcodes_reporting hreporting before
    have hpos := List.length_pos_of_ne_nil hnone
    -- nine items at most, so all of their bytes are filled in
    have hitems : ∀ b < 2 * f.dtcList.length,
        (guifltkSimgenGeterrorcodes f.toSimGenGuiFltk before 10).errorcodes b =
          itemByte f.dtcList b := by
      intro b hb
      rw [hcells, if_pos (by omega)]
    have hbytes : ∀ b < 2 * f.dtcList.length,
        (guifltkSimgenGeterrorcodes f.toSimGenGuiFltk before 10).errorcodes b < 256 :=
      fun b hb => hitems b hb ▸ itemByte_lt _ _
    have hresp := codes_responses hheaders hi hg hcount hbytes hothers
    have hread := getobdbytes_codes hpos (by omega) hbytes hresp (Or.inl rfl)
      (x := x) hreads hwrote ht fuel
    have hlogical := logicalLines_isLine fun line hl => (codes_isLine hbytes hresp line hl).1
    -- the line loop takes the first line and leaves the others
    have htaken := readLines_codes (guifltkSimgenGeterrorcodes f.toSimGenGuiFltk before) hpos hbytes
      ss.eSpaces .error
    rw [← hresp, ← hlogical] at htaken
    have hshort : (handle ss gens codesRequest).responses.length < fuel := by
      rw [hresp, List.length_map, List.length_range]
      omega
    have hthree : threeCodes f.dtcList.length
        (guifltkSimgenGeterrorcodes f.toSimGenGuiFltk before 10).errorcodes 0 =
          threeOf (f.dtcList.map itemBytes) 0 := threeCodes_items (k := 0) hitems hpos
    rw [List.nil_append, lineLoop_of_fuel hshort, htaken, hthree] at hread
    exact ⟨_, hread, codesOf_items hnone f.dtcList_valid⟩

end Codes

/-! ## The conversation -/

theorem codesRequest_line (a : Adapter) : a.line codesRequest = codesRequest := by
  rw [Adapter.line, if_neg codesRequest_plain.nonempty]
  decide

/-- The request for the codes is one that the adapter serves: it is no AT
command, and does not end the loop. -/
theorem codes_serves {a : Adapter} {c : Sending} (htext : c.text = codesRequest)
    (hd : Adapter.Delivers a.ss.ecuCount c) : a.Serves c := by
  have hscan : (sscanf requestFormat codesRequest).vals = [0x03] := by decide
  refine ⟨hd, ?_, Or.inr ?_⟩
  · rw [htext, codesRequest_line]
    exact codesRequest_plain.noExit
  · rw [htext, codesRequest_line, handle, hscan]
    exact ⟨by decide, rfl⟩

theorem codes_command (reading : Reading) {a : Adapter} {c : Sending}
    (htext : c.text = codesRequest) (hecho : a.mEcho = false) :
    (a.command reading c).2 = request a.ss c.last.ask codesRequest := by
  rw [command_snd, Adapter.heard, if_neg (by simp [hecho]), List.nil_append, Adapter.reply, htext]
  dsimp only
  rw [codesRequest_line, codesRequest_plain.noAt]
  rfl

/-- The requests that `getobderrorcodes` sends. -/
def codesCommands (f : SimGenGui) (status codes : Sending) : List Sending :=
  if f.reported = [] then [status] else [status, codes]

/-- The message that is printed for a window as it was at the first request: the
number of its codes, and whether the lamp is on. -/
def codesMessage (f : SimGenGui) : List Char :=
  fmtD f.reported.length ++ " trouble codes set [MIL is ".toList ++
    (if f.lamp then "on".toList else "off".toList) ++ "]\n".toList

/-- What `getobderrorcodes` makes of a window that is `f₁` at the first request
and `f₂` at the second. -/
structure CodesReported (f₁ f₂ : SimGenGui) (cs : List Sending) (r : ErrorCodes) : Prop where
  sent : r.sent = cs.map fun c => c.text ++ ['\r']
  printed : r.printed = codesMessage f₁
  result : if f₁.reported = [] then r.result = ⟨.success, [], some 0⟩
    else CodesOf f₂.reported r.result

/-- The two requests, the window at each of them, and the ECU that shows it. -/
structure CodesAsked (ss : SimSettings) (i : Nat) (status codes : Sending)
    (f₁ f₂ : SimGenGui) : Prop where
  statusText : status.text = "0101".toList
  codesText : codes.text = codesRequest
  statusDelivers : Adapter.Delivers ss.ecuCount status
  codesDelivers : Adapter.Delivers ss.ecuCount codes
  ecu : i < ss.ecuCount
  asked : AskedFirst ss status.last.ask i
  window : IsWindow (status.last.ask i) f₁
  shown : f₁.shown = true
  few : f₁.dtcList.length < 128
  window' : IsWindow (codes.last.ask i) f₂
  nine : f₂.dtcList.length ≤ 9
  others : ∀ j < ss.ecuCount, j ≠ i → Silent (codes.last.ask j)

section Asked

variable {ss : SimSettings} {i : Nat} {status codes : Sending} {f₁ f₂ : SimGenGui}

namespace CodesAsked

variable (h : CodesAsked ss i status codes f₁ f₂)

include h

theorem answered : (statusQuery status h.statusText).Answered ss :=
  h.asked.answers h.window h.shown h.few

/-- The reply to the first request, which is for PID 01, is read back as the
monitor status and three zeroes. -/
theorem getobdbytes_status (reading : Reading) {a : Adapter} (ha : a.ss = ss)
    (hheaders : ss.eHeaders = 0) {out : List (List Char)}
    (hout : out.flatten = (a.command reading status).2) {x : Exchange} {fuel : Nat}
    (hx : Hears x (status.text ++ ['\r']) out) (hfuel : 8 ≤ fuel) :
    getobdbytes 0x01 0x01 0 x fuel = some (gotBytes [f₁.monitorStatus, 0x00, 0x00, 0x00]) := by
  subst ha
  have hsent : status.text ++ ['\r'] = sendbuf 0x01 0x01 0 := by
    rw [h.statusText]
    decide
  rw [← h.asked.readBack h.window h.shown]
  exact (statusQuery status h.statusText).readsBack reading hheaders h.answered x.wrote x.reads fuel
    (hsent ▸ hx.wrote) (hx.reads.trans hout) hx.inTime hfuel

/-- What `getobderrorcodes` makes of the first reply: it is done if there are no
codes, and otherwise asks for them. -/
theorem getobderrorcodes_first {x : Exchange} {fuel : Nat}
    (hx : getobdbytes 0x01 0x01 0 x fuel = some (gotBytes [f₁.monitorStatus, 0x00, 0x00, 0x00]))
    (xs : List Exchange) (codecount : Nat → Nat) :
    getobderrorcodes (x :: xs) fuel codecount =
      if f₁.reported = [] then
        some ⟨[sendbuf 0x01 0x01 0], codesMessage f₁, ⟨.success, [], some 0⟩⟩
      else
        xs.head?.bind fun y => (getobdbytes 0x03 0x00 0 y fuel).map fun ret =>
          ⟨[sendbuf 0x01 0x01 0, sendbuf 0x03 0x00 0], codesMessage f₁, ret⟩ := by
  obtain ⟨hcount, -, hmil, -⟩ := monitorStatus_bits h.shown h.few
  obtain ⟨-, hlt⟩ := monitorStatus_eq h.shown h.few
  have hfill : (gotBytes [f₁.monitorStatus, 0x00, 0x00, 0x00]).fill codecount 0 =
      f₁.monitorStatus := fill_gotBytes (Nat.succ_pos _) codecount
  have hint : toInt (f₁.reported.length : Int) = f₁.reported.length :=
    toInt_of_lt (by omega) (by omega)
  have hzero : (f₁.reported.length : Int) = 0 ↔ f₁.reported = [] := by
    rw [Int.natCast_eq_zero, List.length_eq_zero_iff]
  rw [getobderrorcodes, hx, Option.bind_some, if_neg (by simp [gotBytes])]
  dsimp only
  rw [hfill, hcount, hint]
  simp only [hzero, hmil]
  rfl

/-- `getnumobderrors` reads the number of codes off the first reply. -/
theorem getnumobderrors_window {x : Exchange} {fuel : Nat}
    (hx : getobdbytes 0x01 0x01 0 x fuel = some (gotBytes [f₁.monitorStatus, 0x00, 0x00, 0x00]))
    (obdbytes : Nat → Nat) : getnumobderrors x fuel obdbytes = some f₁.reported.length := by
  obtain ⟨-, hnum, -, -⟩ := monitorStatus_bits h.shown h.few
  have hfill : (gotBytes [f₁.monitorStatus, 0x00, 0x00, 0x00]).fill obdbytes 0 =
      f₁.monitorStatus := fill_gotBytes (Nat.succ_pos _) obdbytes
  rw [getnumobderrors, hx, Option.map_some, if_neg (by simp [gotBytes]), hfill, hnum]
  split
  · rfl
  · next hnot =>
    have hzero : f₁.monitorStatus = 0 := Nat.eq_zero_of_not_pos hnot
    rw [hzero] at hnum
    rw [← hnum]
    rfl

end CodesAsked

end Asked

theorem threeItems_valid : ∀ text ∈ ["P0103".toList, "U3FA0".toList, "B9000".toList],
    dtcIsvalid text = true := by
  decide

/-- A window with three codes, the last of which cannot be encoded. -/
def threeItems : SimGenGui :=
  { shown := true
    dtcReport := true
    dtcList := ["P0103".toList, "U3FA0".toList, "B9000".toList]
    dtcList_valid := threeItems_valid
    dtcMil := true
    supported := ⟨0x80000000, 0, 0, 0⟩
    simvalVss := 0
    simvalRpm := 0
    simvalMaf := 0
    simvalThrottlepos := 0
    simvalTemp := 0 }

/-- Two ECUs, of which the first has a window with three codes. -/
def threeItemsEcus (i : Nat) : Simgen :=
  if i = 0 then obdsimgenGuiFltk threeItems (fun _ => 0) (fun _ => 0) else silentEcu i

theorem threeItems_asked : CodesAsked (connectedSettings headersOn) 0
    (arriving threeItemsEcus "0101".toList) (arriving threeItemsEcus codesRequest) threeItems
    threeItems where
  statusText := rfl
  codesText := rfl
  statusDelivers := arriving_delivers _ _ (by decide) (by decide) (by decide)
  codesDelivers := arriving_delivers _ _ (by decide) (by decide) (by decide)
  ecu := by decide
  asked := ⟨by decide, fun j hj => by
    show ((threeItemsEcus j).getvalue 0x01 0x01).count = 0
    rw [threeItemsEcus, if_neg hj]
    rfl⟩
  window := obdsimgenGuiFltk_isWindow ..
  shown := rfl
  few := by decide
  window' := obdsimgenGuiFltk_isWindow ..
  nine := by decide
  others := fun j _ hj => by
    show Silent (threeItemsEcus j)
    rw [threeItemsEcus, if_neg hj]
    exact nofun

end ObdGpsLogger.Wire
