import ObdGpsLogger.Obdcomm.ReplyLoop

/-!
# How the logger reads a reply

The rules for `getobdbytes` on a reply that is an ordinary text of hex digits:
the reads may cut it anywhere (`readserialdata_prompt`), nothing in it is taken
for a marker (`replyMarker_eq_none`), its tokens are the echo and its lines
(`getobdbytes_lines`), a text that repeats the mode and the command is read back
whatever its spacing (`parseobdline_hexText`), and the echo of the request is
not taken for one (`parseobdline_other`).
-/

namespace ObdGpsLogger.Wire

open CLib Obdcomm

/-- The characters of a line of values. -/
def lineChars : List Char := hexChars ++ [' ']

/-- The characters of a reply that is no message. -/
def wireChars : List Char := lineChars ++ ['\r', '\n', '>']

theorem lineChars_plain : ∀ c ∈ lineChars, isDelim c = false ∧ c ≠ ':' := by
  intro c hc
  have hall : lineChars.all (fun c => !isDelim c && c != ':') = true := by decide
  simpa using List.all_eq_true.mp hall c hc

/-- All the bytes that a sequence of reads delivers, in order. -/
def readBytes (reads : List SerialRead) : List Char := reads.flatMap fun r => r.result.bytes

/-- Each of the reads returned in time: behind none of them `readserialdata` has
given up. -/
def InTime (reads : List SerialRead) : Prop := ∀ r ∈ reads, r.elapsed ≤ obdcommTimeout

instance (reads : List SerialRead) : Decidable (InTime reads) :=
  inferInstanceAs (Decidable (∀ r ∈ reads, _))

/-! ## Collecting the reply -/

/-- A part of a text that has the prompt in it is all of the text. -/
theorem eq_of_prompt_mem {body a b : List Char} (hbody : '>' ∉ body)
    (h : a ++ b = body ++ ['>']) (ha : '>' ∈ a) : a = body ++ ['>'] ∧ b = [] := by
  rcases List.append_eq_append_iff.mp h with ⟨c, hc, -⟩ | ⟨c, hc, hb⟩
  · exact absurd (hc ▸ List.mem_append_left _ ha) hbody
  · cases c with
    | nil => exact absurd (by simpa [hc] using ha) hbody
    | cons d c =>
      obtain ⟨rfl, hnil⟩ : '>' = d ∧ c ++ b = [] := by
        injection hb with h₁ h₂
        exact ⟨h₁, h₂.symm⟩
      obtain ⟨rfl, rfl⟩ := List.append_eq_nil_iff.mp hnil
      exact ⟨hc, rfl⟩

/-- **The reads may cut the reply anywhere.** All of it is collected, and
nothing is read behind the prompt. -/
theorem readserialdata_prompt {n : Nat} {body : List Char} (hbody : '>' ∉ body)
    (hlen : body.length + 1 < n) : ∀ {reads : List SerialRead} {buf : List Char},
    '>' ∉ buf → buf ++ readBytes reads = body ++ ['>'] → InTime reads →
    readserialdata n buf reads = some (((body.length + 1 : Nat) : Int), body ++ ['>'])
  | [], buf, hbuf, h, _ => by
    have hmem : '>' ∈ buf ++ readBytes [] := h ▸ by simp
    exact absurd (by simpa [readBytes] using hmem) hbuf
  | r :: rs, buf, hbuf, h, ht => by
    have hcons : readBytes (r :: rs) = r.result.bytes ++ readBytes rs := rfl
    rw [hcons, ← List.append_assoc] at h
    have hle : (buf ++ r.result.bytes).length ≤ body.length + 1 := by
      have := congrArg List.length h
      simp only [List.length_append, List.length_singleton] at this ⊢
      omega
    rw [List.length_append] at hle
    have hr := ht r (List.mem_cons_self ..)
    rw [readserialdata, if_neg (by omega), if_neg (by omega)]
    by_cases hmem : '>' ∈ buf ++ r.result.bytes
    · -- the prompt stands only at the end, so this is all of the reply
      obtain ⟨hall, -⟩ := eq_of_prompt_mem hbody h hmem
      rw [if_pos ⟨List.ne_nil_of_mem hmem, by rw [hall]; simp⟩, hall]
      simp
    · rw [if_neg fun hp => hmem (List.mem_of_getLast? hp.2)]
      exact readserialdata_prompt hbody hlen hmem h fun q hq => ht q (List.mem_cons_of_mem _ hq)

/-- `getobdbytes` on a reply that arrives in time. -/
theorem getobdbytes_reply {mode cmd : Nat} {numbytesExpected : Int} {x : Exchange}
    {body : List Char} (hwrote : (requestText mode cmd numbytesExpected).length ≤ x.wrote)
    (hbody : '>' ∉ body) (hnul : nul ∉ body) (hlen : body.length + 1 < retbufSize)
    (hreads : readBytes x.reads = body ++ ['>']) (ht : InTime x.reads) (fuel : Nat) :
    getobdbytes mode cmd numbytesExpected x fuel =
      parseReply mode cmd fuel (body ++ ['>']) := by
  have hnul' : nul ∉ body ++ ['>'] := by simp [hnul]; decide
  unfold getobdbytes
  rw [if_neg (by omega), readserialdata_prompt hbody hlen (by simp) (by simpa using hreads) ht]
  dsimp only
  rw [if_neg (by omega), cstr_eq_self hnul']

/-! ## Its lines -/

/-- A text without these letters has no marker. -/
theorem replyMarker_eq_none {retbuf : List Char} (h : ∀ c ∈ ['N', '?', 'U'], c ∉ retbuf) :
    replyMarker retbuf = none := by
  have hN := strstr_eq_none (by decide : 'N' ∈ "NO DATA".toList) (h 'N' (by decide))
  have hq := strstr_eq_none (by decide : '?' ∈ "?".toList) (h '?' (by decide))
  have hU := strstr_eq_none (by decide : 'U' ∈ "UNABLE TO CONNECT".toList) (h 'U' (by decide))
  rw [replyMarker, hN, hq, hU]
  rfl

theorem wireChars_noMarker : ∀ c ∈ ['N', '?', 'U'], c ∉ wireChars := by
  have hall : ['N', '?', 'U'].all (fun c => !wireChars.contains c) = true := by decide
  simpa using hall

/-- A line of a reply, without what ends it. -/
def IsLine (line : List Char) : Prop := line ≠ [] ∧ ∀ c ∈ line, c ∈ lineChars

/-- The reply in front of the prompt: an empty line, and the lines. -/
def replyBody (nl : List Char) (lines : List (List Char)) : List Char :=
  nl ++ lines.flatMap fun line => line ++ nl

/-- What the port has echoed when the reply starts. -/
def echoed (heard : List (List Char)) : List Char := heard.flatMap fun line => line ++ ['\r']

/-- What ends a line: `\r`, perhaps with `\n`. -/
def IsNewline (nl : List Char) : Prop := nl ≠ [] ∧ ∀ c ∈ nl, c ∈ ['\r', '\n']

theorem IsLine.noDelim {line : List Char} (h : IsLine line) :
    line ≠ [] ∧ ∀ c ∈ line, isDelim c = false :=
  ⟨h.1, fun c hc => (lineChars_plain c (h.2 c hc)).1⟩

/-- Lines of values are lines of their own: they have no colon. -/
theorem logicalLines_isLine : ∀ {lines : List (List Char)}, (∀ line ∈ lines, IsLine line) →
    logicalLines none lines = lines.map (LogicalLine.mk false)
  | [], _ => rfl
  | line :: lines, h => by
    have hline := h line (List.mem_cons_self ..)
    have hno : ':' ∉ line := fun hc => (lineChars_plain _ (hline.2 _ hc)).2 rfl
    rw [logicalLines_cons, strstr_eq_none (List.mem_singleton.mpr rfl) hno,
      logicalLines_isLine fun l hl => h l (List.mem_cons_of_mem _ hl)]
    rfl

section Lines

variable {nl : List Char} {heard lines : List (List Char)}

/-- The tokens that `strtok` makes of a reply are the lines of the echo, and
those of the reply itself. -/
theorem reply_tokens (hnl : IsNewline nl) (hlines : ∀ line ∈ heard ++ lines, IsLine line) :
    strtokAll isDelim (echoed heard ++ (replyBody nl lines ++ ['>'])) = heard ++ lines := by
  have hd : ∀ c ∈ nl, isDelim c = true := fun c hc =>
    (by simp [isDelim] : ∀ c ∈ ['\r', '\n'], isDelim c = true) c (hnl.2 c hc)
  rw [echoed, strtokAll_lines (List.cons_ne_nil _ _) (by simp [isDelim]) _ fun line hl =>
      (hlines line (List.mem_append_left _ hl)).noDelim,
    replyBody, List.append_assoc, strtokAll_delims hd, strtokAll_lines hnl.1 hd _ fun line hl =>
      (hlines line (List.mem_append_right _ hl)).noDelim]
  simp [isDelim]

/-- The text of a reply, with its echo, is made of the characters of lines and
of the ends of lines. -/
theorem reply_chars (hnl : IsNewline nl) (hlines : ∀ line ∈ heard ++ lines, IsLine line) :
    ∀ c ∈ echoed heard ++ replyBody nl lines, c ∈ lineChars ++ ['\r', '\n'] := by
  have hend : ∀ c ∈ nl, c ∈ lineChars ++ ['\r', '\n'] := fun c hc =>
    List.mem_append_right _ (hnl.2 c hc)
  have hline : ∀ line ∈ heard ++ lines, ∀ c ∈ line, c ∈ lineChars ++ ['\r', '\n'] :=
    fun line hl c hc => List.mem_append_left _ ((hlines line hl).2 c hc)
  intro c hc
  rcases List.mem_append.mp hc with hc | hc
  · obtain ⟨line, hl, hc⟩ := List.mem_flatMap.mp hc
    rcases List.mem_append.mp hc with hc | hc
    · exact hline line (List.mem_append_left _ hl) c hc
    · obtain rfl := List.mem_singleton.mp hc
      exact List.mem_append_right _ (by decide)
  · rcases List.mem_append.mp hc with hc | hc
    · exact hend c hc
    · obtain ⟨line, hl, hc⟩ := List.mem_flatMap.mp hc
      rcases List.mem_append.mp hc with hc | hc
      · exact hline line (List.mem_append_right _ hl) c hc
      · exact hend c hc

/-- **`getobdbytes` goes through the lines of a reply**, the echo among them. -/
theorem getobdbytes_lines {mode cmd : Nat} {numbytesExpected : Int} {x : Exchange}
    (hwrote : (requestText mode cmd numbytesExpected).length ≤ x.wrote) (hnl : IsNewline nl)
    (hlines : ∀ line ∈ heard ++ lines, IsLine line)
    (hlen : (echoed heard ++ replyBody nl lines).length + 1 < retbufSize)
    (hreads : readBytes x.reads = echoed heard ++ (replyBody nl lines ++ ['>']))
    (ht : InTime x.reads) (fuel : Nat) :
    getobdbytes mode cmd numbytesExpected x fuel =
      lineLoop mode cmd fuel (heard ++ lines) .error := by
  have hchars := reply_chars hnl hlines
  have hno : ∀ c ∉ lineChars ++ ['\r', '\n'], c ∉ echoed heard ++ replyBody nl lines :=
    fun c hc hm => hc (hchars c hm)
  rw [← List.append_assoc] at hreads
  rw [getobdbytes_reply hwrote (hno '>' (by decide)) (hno nul (by decide)) hlen hreads ht]
  have hwire : ∀ c ∈ (echoed heard ++ replyBody nl lines) ++ ['>'], c ∈ wireChars := by
    intro c hc
    rcases List.mem_append.mp hc with hc | hc
    · rw [wireChars, List.append_cons, List.append_cons, List.append_assoc lineChars]
      exact List.mem_append_left _ (hchars c hc)
    · obtain rfl := List.mem_singleton.mp hc
      decide
  rw [parseReply, replyMarker_eq_none fun c hc hm => wireChars_noMarker c hc (hwire c hm),
    List.append_assoc, reply_tokens hnl hlines]

/-- A reply without data, behind any echo, is read as `OBD_NO_DATA`. -/
theorem getobdbytes_noData {mode cmd : Nat} {numbytesExpected : Int} {x : Exchange}
    (hwrote : (requestText mode cmd numbytesExpected).length ≤ x.wrote) (hnl : IsNewline nl)
    (hlines : ∀ line ∈ heard, IsLine line)
    (hlen : (echoed heard ++ replyBody nl ["NO DATA".toList]).length + 1 < retbufSize)
    (hreads : readBytes x.reads = echoed heard ++ (replyBody nl ["NO DATA".toList] ++ ['>']))
    (ht : InTime x.reads) (fuel : Nat) :
    getobdbytes mode cmd numbytesExpected x fuel = some ⟨.noData, [], none⟩ := by
  have hbody : echoed heard ++ replyBody nl ["NO DATA".toList] =
      (echoed heard ++ replyBody nl []) ++ ("NO DATA".toList ++ nl) := by
    simp [replyBody]
  have hchars : ∀ c ∈ echoed heard ++ replyBody nl [], c ∈ lineChars ++ ['\r', '\n'] :=
    reply_chars hnl (by simpa using hlines)
  -- the reply has no character in it that would end the read, or the string, too early
  have hno : ∀ c ∉ lineChars ++ ['\r', '\n'], c ∉ "NO DATA".toList →
      c ∉ echoed heard ++ replyBody nl ["NO DATA".toList] := by
    intro c hc hmsg hm
    rw [hbody] at hm
    rcases List.mem_append.mp hm with hm | hm
    · exact hc (hchars c hm)
    · rcases List.mem_append.mp hm with hm | hm
      · exact hmsg hm
      · exact hc (List.mem_append_right _ (hnl.2 c hm))
  rw [← List.append_assoc] at hreads
  rw [getobdbytes_reply hwrote (hno '>' (by decide) (by decide)) (hno nul (by decide) (by decide))
    hlen hreads ht]
  have hmarker : replyMarker ((echoed heard ++ replyBody nl ["NO DATA".toList]) ++ ['>']) =
      some .noData := by
    have hfound := strstr_ne_none "NO DATA".toList (nl ++ ['>']) (echoed heard ++ replyBody nl [])
    rw [← List.append_assoc, ← List.append_assoc, List.append_assoc _ _ nl, ← hbody] at hfound
    rw [replyMarker, if_pos (Option.isSome_iff_ne_none.mpr hfound)]
  rw [parseReply, hmarker]

end Lines

/-! ## One line -/

/-- What the reply to a request starts with. -/
def replyHead (mode cmd : Nat) : List Nat :=
  if haveCmd mode then [0x40 + mode, cmd] else [0x40 + mode]

theorem replyHead_length (mode cmd : Nat) : (replyHead mode cmd).length = countSub mode := by
  unfold replyHead countSub
  split <;> rfl

/-- Bytes in a line, each with a space before it or none. -/
def Spaced (ps : List (List Char × Nat)) : Prop :=
  ∀ p ∈ ps, (p.1 = [] ∨ p.1 = [' ']) ∧ p.2 < 256

theorem Spaced.ok {ps : List (List Char × Nat)} (h : Spaced ps) : PairsOk ps := by
  intro p hp
  obtain ⟨hws, hb⟩ := h p hp
  refine ⟨fun c hc => ?_, hb⟩
  rcases hws with hws | hws
  · rw [hws] at hc
    cases hc
  · rw [hws] at hc
    obtain rfl := List.mem_singleton.mp hc
    decide

/-- Each byte of a line takes two characters, or three with the space in front,
which bounds the length of the line. -/
theorem Spaced.length : ∀ {ps : List (List Char × Nat)}, Spaced ps →
    2 * ps.length ≤ (pairsText ps).length ∧ (pairsText ps).length ≤ 3 * ps.length
  | [], _ => ⟨Nat.le_refl _, Nat.le_refl _⟩
  | p :: ps, h => by
    obtain ⟨hws, hb⟩ := h p (List.mem_cons_self ..)
    have ih := Spaced.length fun q hq => h q (List.mem_cons_of_mem _ hq)
    have hcons : pairsText (p :: ps) = (p.1 ++ fmtX 2 p.2) ++ pairsText ps := rfl
    have hwslen : p.1.length ≤ 1 := by
      rcases hws with hws | hws <;> simp [hws]
    rw [hcons, List.length_append, List.length_append, fmtX_byte_length hb, List.length_cons]
    omega

theorem Spaced.isLine {ps : List (List Char × Nat)} (h : Spaced ps) (hne : ps ≠ []) :
    IsLine (pairsText ps) := by
  refine ⟨fun hnil => ?_, fun c hc => ?_⟩
  · have hlen := h.length.1
    have hpos := List.length_pos_iff.mpr hne
    rw [hnil, List.length_nil] at hlen
    omega
  · obtain ⟨p, hp, hc⟩ := List.mem_flatMap.mp hc
    obtain ⟨hws, hb⟩ := h p hp
    rcases List.mem_append.mp hc with hc | hc
    · rcases hws with hws | hws
      · rw [hws] at hc
        cases hc
      · exact List.mem_append_right _ (hws ▸ hc)
    · exact List.mem_append_left _ (mem_fmtX_byte hb hc)

/-- **A text of hex pairs is read back**, up to the size of `local_rets`. -/
theorem parseobdline_hexText {mode cmd : Nat} {s : List Char} {data : List Nat}
    (h : HexText s (replyHead mode cmd ++ data)) (hlen : 3 ≤ countSub mode + data.length)
    (hmode : mode < 0xC0) :
    parseobdline s mode cmd localRetsSize =
      ⟨.success, data.take localRetsSize, (data.take localRetsSize).length⟩ := by
  have hvals : (sscanf (hexPairs (countSub mode + 20)) s).vals =
      replyHead mode cmd ++ data.take localRetsSize := by
    rw [sscanf, assigned_hexText h, ← replyHead_length mode cmd, List.take_length_add_append]
    rfl
  have hall : (replyHead mode cmd ++ data.take localRetsSize).length =
      countSub mode + (data.take localRetsSize).length := by
    rw [List.length_append, replyHead_length]
  have hlong : 3 ≤ countSub mode + (data.take localRetsSize).length := by
    rw [List.length_take, localRetsSize]
    omega
  -- what `sscanf` returns is the number of values, since there is one at least
  have hret : (sscanf (hexPairs (countSub mode + 20)) s).ret =
      (countSub mode + (data.take localRetsSize).length : Nat) := by
    have hvals' : assigned (hexPairs (countSub mode + 20)) s =
        replyHead mode cmd ++ data.take localRetsSize := hvals
    rw [sscanf_ret_nonneg, hvals', hall]
    intro hnil
    rw [hvals'] at hnil
    rw [hnil, List.length_nil] at hall
    omega
  -- the two checks of the line: the mode plus `0x40`, and the PID where there is one
  have h0 : (replyHead mode cmd ++ data.take localRetsSize).getD 0 0 = (0x40 + mode) % 2 ^ 32 := by
    have hmod : (0x40 + mode) % 2 ^ 32 = 0x40 + mode := by omega
    rw [hmod]
    unfold replyHead
    split <;> rfl
  have h1 : haveCmd mode = true →
      (replyHead mode cmd ++ data.take localRetsSize).getD 1 0 = cmd := by
    intro hc
    simp [replyHead, hc]
  have hdrop : (replyHead mode cmd ++ data.take localRetsSize).drop (countSub mode) =
      data.take localRetsSize := replyHead_length mode cmd ▸ List.drop_left
  unfold parseobdline
  dsimp only
  rw [hret, hvals, if_neg (by omega), if_neg (not_not.mpr h0), if_neg fun h => h.2 (h1 h.1),
    hdrop, List.take_of_length_le (List.length_take_le ..)]
  congr 1
  omega

/-- **A line of a reply is read back**, whatever its spacing. -/
theorem parseobdline_pairs {mode cmd : Nat} {ps : List (List Char × Nat)} {data : List Nat}
    (hok : PairsOk ps) (hps : ps.map Prod.snd = replyHead mode cmd ++ data)
    (hlen : 3 ≤ ps.length) (hdata : data.length ≤ localRetsSize) (hmode : mode < 0xC0) :
    parseobdline (pairsText ps) mode cmd localRetsSize = ⟨.success, data, data.length⟩ := by
  have hall : ps.length = countSub mode + data.length := by
    rw [← replyHead_length mode cmd, ← List.length_append, ← hps, List.length_map]
  rw [parseobdline_hexText (hps ▸ hexText_pairsText hok) (hall ▸ hlen) hmode,
    List.take_of_length_le hdata]

/-- **A line that starts with another byte is not accepted**, as the echo of a
request does. -/
theorem parseobdline_other {mode cmd b : Nat} (hb : b < 256) (hne : b ≠ 0x40 + mode)
    (hmode : mode < 0xC0) (rest : List Char) :
    (parseobdline (fmtX 2 b ++ rest) mode cmd localRetsSize).status ≠ .success := by
  have hscan := scanHex_fmtX hb rest
  have hfirst : (sscanf (hexPairs (countSub mode + 20)) (fmtX 2 b ++ rest)).vals.getD 0 0 = b := by
    simp [sscanf, hexPairs, assigned, hscan]
  have hmod : (0x40 + mode) % 2 ^ 32 = 0x40 + mode := by omega
  unfold parseobdline
  dsimp only
  split
  · simp
  · rw [if_pos (by rw [hfirst, hmod]; exact hne)]
    simp

/-! ## The loop over the lines -/

/-- What `getobdbytes` returns for a line with these values. -/
def gotBytes (data : List Nat) : ObdBytes :=
  { status := .success
    stores := (List.range data.length).map fun i => (i, data.getD i 0)
    numbytesReturned := some data.length }

theorem finish_copyRets (data : List Nat) :
    finish .success (copyRets 0 ⟨.success, data, data.length⟩) = gotBytes data := by
  simp [finish, copyRets, gotBytes]

/-- The first line of a reply that has the values asked for is the one they are
taken from. -/
theorem readLines_values {mode cmd : Nat} {ps : List (List Char × Nat)} {data : List Nat}
    (hok : Spaced ps) (hps : ps.map Prod.snd = replyHead mode cmd ++ data)
    (hlen : 3 ≤ ps.length) (hdata : data.length ≤ localRetsSize) (hmode : mode < 0xC0)
    (ls : List LogicalLine) (ret : ObdSerialStatus) :
    readLines mode cmd (⟨false, pairsText ps⟩ :: ls) ret = some (gotBytes data) := by
  have hlong := hok.length.1
  rw [readLines, if_neg (by dsimp only; omega)]
  dsimp only
  rw [parseobdline_pairs hok.ok hps hlen hdata hmode, if_pos rfl, finish_copyRets]

/-- The loop over the lines passes over the echo of a request, since its first
byte is not that of a reply. -/
theorem readLines_echo {mode cmd b : Nat} (hb : b < 256) (hne : b ≠ 0x40 + mode)
    (hmode : mode < 0xC0) {rest : List Char} (hlong : 2 ≤ rest.length) (ls : List LogicalLine)
    (ret : ObdSerialStatus) :
    ∃ ret', readLines mode cmd (⟨false, fmtX 2 b ++ rest⟩ :: ls) ret =
      readLines mode cmd ls ret' := by
  have hlen : ¬ (fmtX 2 b ++ rest).length ≤ 3 := by
    rw [List.length_append, fmtX_byte_length hb]
    omega
  refine ⟨(parseobdline (fmtX 2 b ++ rest) mode cmd localRetsSize).status, ?_⟩
  rw [readLines, if_neg hlen]
  dsimp only
  rw [if_neg (parseobdline_other hb hne hmode rest)]

/-- The length of a reply is bounded by the number of its lines, and the length
of the longest. -/
theorem replyBody_length {nl : List Char} {lines : List (List Char)} {n : Nat}
    (hnl : nl.length ≤ 2) (hlines : ∀ line ∈ lines, line.length ≤ n) :
    (replyBody nl lines).length ≤ 2 + lines.length * (n + 2) := by
  have hflat : ∀ lines : List (List Char), (∀ line ∈ lines, line.length ≤ n) →
      (lines.flatMap fun line => line ++ nl).length ≤ lines.length * (n + 2) := by
    intro lines h
    induction lines with
    | nil => simp
    | cons line lines ih =>
      have hline := h line (List.mem_cons_self ..)
      have hrest := ih fun l hl => h l (List.mem_cons_of_mem _ hl)
      rw [List.flatMap_cons, List.length_append, List.length_append, List.length_cons,
        Nat.succ_mul]
      omega
  have := hflat lines hlines
  rw [replyBody, List.length_append]
  omega

end ObdGpsLogger.Wire
