import ObdGpsLogger.Wire.Reply

/-!
# Replies of several lines

An adapter may cut a reply that is too long for one line: each line gets a
number, a colon, and the next segment. `getobdbytes` puts the segments together
again before it looks for the values.

A segment is a text of hex pairs (`HexText`): that is what a cut at pair
boundaries leaves, wherever the spaces are. So the text that is put together is
one of the bytes of all segments, and `getobdbytes_segments` says that they are
read back, up to the size of `local_rets`, however they were cut.
-/

namespace ObdGpsLogger.Wire

open CLib Obdcomm

/-! ## The lines -/

/-- A line with a number, and the bytes of its segment. -/
structure SegmentLine where
  number : Char
  segment : List Char
  bytes : List Nat
  linefeed : Bool
  numbered : (hexVal number).isSome = true
  pairs : HexText segment bytes
  spaces : segment.all (fun c => !isspace c || c == ' ') = true

namespace SegmentLine

/-- A line of the reply without what ends it: its number, a colon and its
segment. -/
def text (l : SegmentLine) : List Char := l.number :: ':' :: l.segment

/-- What ends a line of the reply: a carriage return, with a linefeed or
without. -/
def newline (l : SegmentLine) : List Char := if l.linefeed then ['\r', '\n'] else ['\r']

end SegmentLine

/-- The whole reply in front of the prompt. -/
def segmentsBody (lines : List SegmentLine) : List Char :=
  lines.flatMap fun l => l.text ++ l.newline

/-- The text that was cut into the segments. -/
def joinedText (lines : List SegmentLine) : List Char := lines.flatMap SegmentLine.segment

/-- The bytes that the segments stand for, in order. -/
def joinedBytes (lines : List SegmentLine) : List Nat := lines.flatMap SegmentLine.bytes

/-! ## Characters -/

/-- The characters that such a reply is made of. -/
def SegmentChar (c : Char) : Prop :=
  (hexVal c).isSome = true ∨ c ∈ [' ', ':', '\r', '\n']

/-- A character which no segment is made of does not stand in the reply, so none
of the words is found that mark a failure. -/
theorem not_segmentChar : ∀ c ∈ ['>', nul, 'N', '?', 'U'], ¬ SegmentChar c := by
  intro c hc
  have hall : ['>', nul, 'N', '?', 'U'].all (fun c =>
      !((hexVal c).isSome || [' ', ':', '\r', '\n'].contains c)) = true := by decide
  have h := List.all_eq_true.mp hall c hc
  simpa [SegmentChar] using h

theorem text_chars (l : SegmentLine) {c : Char} (hc : c ∈ l.text) :
    (hexVal c).isSome = true ∨ c ∈ [' ', ':'] := by
  rcases List.mem_cons.mp hc with rfl | hc
  · exact Or.inl l.numbered
  · rcases List.mem_cons.mp hc with rfl | hc
    · exact Or.inr (by decide)
    · rcases l.pairs.mem c hc with hsp | hhex
      · have hspace : c = ' ' := by simpa [hsp] using List.all_eq_true.mp l.spaces c hc
        exact Or.inr (by rw [hspace]; decide)
      · exact Or.inl hhex

theorem segmentsBody_chars {lines : List SegmentLine} {c : Char} (hc : c ∈ segmentsBody lines) :
    SegmentChar c := by
  obtain ⟨l, -, hc⟩ := List.mem_flatMap.mp hc
  rcases List.mem_append.mp hc with hc | hc
  · rcases text_chars l hc with hhex | hother
    · exact Or.inl hhex
    · exact Or.inr (by
        rcases List.mem_cons.mp hother with rfl | hother
        · decide
        · rw [List.mem_singleton.mp hother]; decide)
  · refine Or.inr ?_
    unfold SegmentLine.newline at hc
    split at hc
    · exact List.mem_cons_of_mem _ (List.mem_cons_of_mem _ hc)
    · rw [List.mem_singleton.mp hc]
      decide

/-- No character of a segment's line is one of the delimiters that end a line. -/
theorem text_noDelim (l : SegmentLine) : ∀ c ∈ l.text, isDelim c = false := by
  intro c hc
  have hno : ∀ d ∈ ['\r', '\n', '>'], c ≠ d := by
    rintro d hd rfl
    have hall : ['\r', '\n', '>'].all (fun c =>
        !((hexVal c).isSome || [' ', ':'].contains c)) = true := by decide
    have h := List.all_eq_true.mp hall c hd
    rcases text_chars l hc with hhex | hother
    · simp [hhex] at h
    · simp_all
  unfold isDelim
  rw [beq_eq_false_iff_ne.mpr (hno '\r' (by decide)), beq_eq_false_iff_ne.mpr (hno '\n' (by decide)),
    beq_eq_false_iff_ne.mpr (hno '>' (by decide))]
  rfl

/-- The first colon in the line of a segment is the one behind its number. -/
theorem strstr_text (l : SegmentLine) : strstr l.text [':'] = some (':' :: l.segment) := by
  have hne : l.number ≠ ':' := by
    intro h
    have hnum := l.numbered
    rw [h] at hnum
    exact absurd hnum (by decide)
  have hmem : ':' ∈ l.text := List.mem_cons_of_mem _ (List.mem_cons_self ..)
  rw [strstr_char, if_pos hmem]
  show some (List.dropWhile _ (l.number :: ':' :: l.segment)) = _
  rw [List.dropWhile_cons_of_pos (by simpa using hne), List.dropWhile_cons_of_neg (by simp)]

/-! ## Putting them together -/

/-- The tokens that `strtok` makes of a reply in segments are the lines of the
segments. -/
theorem segments_tokens : ∀ lines : List SegmentLine,
    strtokAll isDelim (segmentsBody lines ++ ['>']) = lines.map SegmentLine.text
  | [] => by decide
  | l :: lines => by
    have hnl : l.newline ≠ [] ∧ ∀ d ∈ l.newline, isDelim d = true := by
      unfold SegmentLine.newline
      split <;> simp [isDelim]
    have hcons : segmentsBody (l :: lines) ++ ['>'] =
        l.text ++ (l.newline ++ (segmentsBody lines ++ ['>'])) := by
      simp [segmentsBody]
    have hne : l.text ≠ [] := List.cons_ne_nil _ _
    rw [hcons, strtokAll_line hne (text_noDelim l) hnl.1 hnl.2, segments_tokens lines]
    rfl

/-- While there is room, the segments make one line. -/
theorem logicalLines_segments : ∀ (lines : List SegmentLine) (longline : List Char),
    (longline ++ joinedText lines).length < longlineSize →
    logicalLines (some longline) (lines.map SegmentLine.text) =
      [⟨true, longline ++ joinedText lines⟩]
  | [], longline, _ => by
    rw [show joinedText [] = [] from rfl, List.append_nil]
    rfl
  | l :: lines, longline, hroom => by
    have hcons : joinedText (l :: lines) = l.segment ++ joinedText lines := rfl
    rw [hcons, ← List.append_assoc] at hroom ⊢
    -- `strncat` cuts nothing off
    have hfits : l.segment.length ≤ longlineSize - longline.length - 1 := by
      rw [List.length_append, List.length_append] at hroom
      omega
    rw [List.map_cons, logicalLines, strstr_text]
    dsimp only [Option.getD_some, List.tail_cons]
    rw [strncat, List.take_of_length_le hfits]
    exact logicalLines_segments lines _ hroom

/-- The text that is put together from the segments is a text of bytes in hex:
those of all segments, in order. -/
theorem joinedText_pairs : ∀ lines : List SegmentLine,
    HexText (joinedText lines) (joinedBytes lines)
  | [] => .nil
  | l :: lines => l.pairs.append (joinedText_pairs lines)

/-! ## The room for the reply -/

/-- Where every line has a byte, `retbuf` has room. -/
theorem segmentsBody_length : ∀ {lines : List SegmentLine}, (∀ l ∈ lines, l.bytes ≠ []) →
    (segmentsBody lines).length ≤ 3 * (joinedText lines).length
  | [], _ => Nat.le_refl 0
  | l :: lines, h => by
    have ih := segmentsBody_length fun m hm => h m (List.mem_cons_of_mem _ hm)
    have hbytes := List.length_pos_iff.mpr (h l (List.mem_cons_self ..))
    have hpairs := l.pairs.length
    have hnl : l.newline.length ≤ 2 := by
      unfold SegmentLine.newline
      split <;> decide
    have hbody : segmentsBody (l :: lines) = (l.text ++ l.newline) ++ segmentsBody lines := rfl
    have htext : joinedText (l :: lines) = l.segment ++ joinedText lines := rfl
    have hline : l.text.length = l.segment.length + 2 := rfl
    rw [hbody, htext, List.length_append, List.length_append, List.length_append, hline]
    omega

/-- `retbuf` has room for the reply: every line brings a byte, or it is short
enough anyhow. -/
def HasRoom (lines : List SegmentLine) : Prop :=
  (∀ l ∈ lines, l.bytes ≠ []) ∨ (segmentsBody lines).length + 1 < retbufSize

theorem HasRoom.length {lines : List SegmentLine} (h : HasRoom lines)
    (hjoined : (joinedText lines).length < longlineSize) :
    (segmentsBody lines).length + 1 < retbufSize := by
  rcases h with hbytes | hlen
  · have := segmentsBody_length hbytes
    unfold longlineSize retbufSize at *
    omega
  · exact hlen

/-! ## Reading them -/

/-- **A reply in segments is read back**, however it was cut. -/
theorem getobdbytes_segments {mode cmd : Nat} {data : List Nat} {numbytesExpected : Int}
    {x : Exchange} {lines : List SegmentLine} {fuel : Nat} (hthree : mode ≠ 0x03)
    (hfour : mode ≠ 0x04) (hdata : data ≠ [])
    (hbytes : joinedBytes lines = (0x40 + mode) :: cmd :: data)
    (hjoined : (joinedText lines).length < longlineSize) (hroom : HasRoom lines)
    (hwrote : (requestText mode cmd numbytesExpected).length ≤ x.wrote)
    (hreads : readBytes x.reads = segmentsBody lines ++ ['>']) (ht : InTime x.reads)
    (hfuel : lines.length < fuel) :
    getobdbytes mode cmd numbytesExpected x fuel = some (gotBytes (data.take localRetsSize)) := by
  -- the text that is put together is one that `parseobdline` accepts
  have hhave : haveCmd mode = true := by simp [haveCmd, hthree, hfour]
  have hhead : replyHead mode cmd = [0x40 + mode, cmd] := if_pos hhave
  have hpairs : HexText (joinedText lines) (replyHead mode cmd ++ data) := by
    have h := joinedText_pairs lines
    rw [hbytes] at h
    rwa [hhead]
  have hmode : mode < 0xC0 := by
    have := hpairs.lt (0x40 + mode) (by rw [hhead]; exact List.mem_cons_self ..)
    omega
  have hpos := List.length_pos_iff.mpr hdata
  have hparse : parseobdline (joinedText lines) mode cmd localRetsSize =
      ⟨.success, data.take localRetsSize, (data.take localRetsSize).length⟩ := by
    refine parseobdline_hexText hpairs ?_ hmode
    rw [← replyHead_length mode cmd, hhead]
    show 3 ≤ 2 + data.length
    omega
  have hlong : ¬ (joinedText lines).length ≤ 3 := by
    have := hpairs.length
    rw [hhead, List.length_append] at this
    simp only [List.length_cons, List.length_nil] at this
    omega
  -- and the reply has the lines for tokens, all of them joined
  have hno : ∀ c ∈ ['>', nul, 'N', '?', 'U'], c ∉ segmentsBody lines := fun c hc hm =>
    not_segmentChar c hc (segmentsBody_chars hm)
  have hmarker : replyMarker (segmentsBody lines ++ ['>']) = none := by
    refine replyMarker_eq_none fun c hc hm => ?_
    rcases List.mem_append.mp hm with hm | hm
    · exact hno c (List.mem_cons_of_mem _ (List.mem_cons_of_mem _ hc)) hm
    · rw [List.mem_singleton.mp hm] at hc
      exact absurd hc (by decide)
  have hlogical : logicalLines none (lines.map SegmentLine.text) = [⟨true, joinedText lines⟩] := by
    cases lines with
    | nil => cases hbytes
    | cons l lines =>
      have h := logicalLines_segments (l :: lines) [] (by simpa using hjoined)
      rw [List.map_cons, logicalLines, strstr_text] at h ⊢
      exact h
  rw [getobdbytes_reply hwrote (hno '>' (by decide)) (hno nul (by decide)) (hroom.length hjoined)
    hreads ht, parseReply, hmarker]
  dsimp only
  rw [segments_tokens, lineLoop_of_fuel (by rwa [List.length_map]), hlogical, readLines,
    if_neg hlong]
  dsimp only
  rw [hparse, if_pos rfl, finish_copyRets]

/-- A first line: the mode and the command of the reply, with a space in front
of each. -/
def firstSegment : SegmentLine where
  number := '0'
  segment := ['4', '1', ' ', '0', '0']
  bytes := [16 * 0x4 + 0x1, 16 * 0x0 + 0x0]
  linefeed := true
  numbered := rfl
  pairs := .pair rfl rfl (.space rfl (.pair rfl rfl .nil))
  spaces := rfl

/-- The data, with a space before it and none within. -/
def secondSegment : SegmentLine where
  number := 'a'
  segment := [' ', 'B', 'E', '1', 'f']
  bytes := [16 * 0xB + 0xE, 16 * 0x1 + 0xF]
  linefeed := false
  numbered := rfl
  pairs := .space rfl (.pair rfl rfl (.pair rfl rfl .nil))
  spaces := rfl

/-- A reply of two segments that is read in two parts: the bytes of both of them
come back. -/
theorem getobdbytes_twoSegments :
    getobdbytes 0x01 0x00 0
        ⟨5, [⟨.data "0:41 0".toList, 0⟩, ⟨.data "0\r\na: BE1f\r>".toList, 0⟩]⟩ 3 =
      some (gotBytes [0xBE, 0x1F]) := by
  have hbytes : joinedBytes [firstSegment, secondSegment] = (0x40 + 1) :: 0x00 :: [0xBE, 0x1F] := by
    decide
  exact getobdbytes_segments (by decide) (by decide) (by decide) hbytes (by decide)
    (Or.inr (by decide)) (by decide) rfl (by decide) (by decide)

end ObdGpsLogger.Wire
