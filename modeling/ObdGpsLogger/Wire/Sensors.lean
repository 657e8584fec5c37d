import ObdGpsLogger.Logger.FreshSamples
import ObdGpsLogger.Obdcomm.ObdValue
import ObdGpsLogger.Wire.Conversation

/-!
# From a sensor to a row of the log

A sensor has a value; an ECU encodes it, the simulator writes it as text, the
logger reads it, decodes it, and files it. `sensors_logged` is about all of it
at once: a logger connects to a simulator, and its loop makes any number of
passes, asking for every sensor of its command list in each. For each pass
there is a row, and in it for every sensor the value the sensor had when it was
asked, up to one code step.

Mirroring notes:
- `getobdvalue` leaves its array uninitialised; what was in there is arbitrary,
  at every call.
- The values are in the ranges the rows declare, and `Encodable`.
-/

namespace ObdGpsLogger.Wire

open CLib Machine Obdcomm Obdinfo Sim Logger

/-! ## One value -/

/-- The array holds the bytes of a reply, whatever was in it. -/
theorem fill_gotBytes {data : List Nat} {i : Nat} (hi : i < data.length) (before : Nat → Nat) :
    (gotBytes data).fill before i = data.getD i 0 := by
  rw [← finish_copyRets, fill_copyRets, if_pos hi]

/-- From the bytes of a reply, as many as it reads, the decoder gets the value
that they encode. -/
theorem valueOf_gotBytes {c : ObdConversion} {data : List Nat} (hlen : data.length = c.arity)
    (numbytesReturned : Nat) (before : Nat → Nat) :
    valueOf (some c.conv) numbytesReturned ((gotBytes data).fill before) = c.decode data := by
  have harity : c.arity = 1 ∨ c.arity = 2 := c.scale_bytes
  unfold valueOf ObdConversion.decode
  refine ObdConversion.conv_congr ?_ fun h2 => ?_
  · rw [fill_gotBytes (by omega)]
  · rw [fill_gotBytes (by omega)]

/-- A sensor that is asked for: a row with its two conversions, and the value of
the sensor. The value is in the range that the row declares, and `Encodable`: what
is outside does not come through. -/
structure Sensor extends Query where
  cmd : ObdServiceCmd
  c : ObdConversion
  r : ObdConversion
  v : Rat
  row : cmd ∈ obdcmdsMode1
  cmdid : cmd.cmdid = pid
  conv : cmd.conv = some c
  convrev : cmd.convrev = some r
  declared : cmd.minValue ≤ v ∧ v ≤ cmd.maxValue
  encodable : c.Encodable v

namespace Sensor

variable (x : Sensor)

/-- The first ECU with an answer has encoded the value. -/
def Sensed (ss : SimSettings) : Prop :=
  ((askedValues ss x.last.ask x.pid).find? fun a => 0 < a.count).map GenValue.bytes =
    some (x.r.convrev x.v).bytes

/-- What `getobdvalue` makes of a reply: what it returns, and stores. -/
def Reads (reply : List Char) (result : ObdSerialStatus × Rat) : Prop :=
  ∃ (wrote : Int) (reads : List SerialRead) (fuel : Nat) (before : Nat → Nat) (ret : Option Rat),
    (sendbuf 0x01 x.pid x.n).length ≤ wrote ∧ readBytes reads = reply ∧ InTime reads ∧
    8 ≤ fuel ∧
    getobdvalue x.cmd.cmdid x.n (x.cmd.conv.map ObdConversion.conv) ⟨wrote, reads⟩ fuel before =
      some (result.1, ret) ∧
    ret = if result.1 = .success then some result.2 else none

/-- A value is near that of the sensor if the two are less than one step of the
code apart. -/
def Near (w : Rat) : Prop := |w - x.v| < x.c.step

theorem encodes : x.c.Encodes x.r x.v :=
  (encodes_declared x.row x.conv x.convrev x.declared.1 x.declared.2).mpr x.encodable

theorem pair : x.c = x.r := by
  have hpair := (ObdConversion.rows_limitsOk x.cmd x.row).1
  rw [x.conv, x.convrev] at hpair
  exact Option.some.inj hpair

/-- **One value**: the reply is read as the value of the sensor. -/
theorem near_of_reads {ss : SimSettings} {reply : List Char} (hback : x.ReadsBack ss reply)
    (hsensed : x.Sensed ss) {result : ObdSerialStatus × Rat} (h : x.Reads reply result) :
    result.1 = .success ∧ x.Near result.2 := by
  obtain ⟨a, hfind, ha⟩ := Option.map_eq_some_iff.mp hsensed
  obtain ⟨wrote, reads, fuel, before, ret, hwrote, hreads, ht, hfuel, hvalue, hret⟩ := h
  have hbytes := hback wrote reads fuel hwrote hreads ht hfuel
  rw [readBack, hfind] at hbytes
  dsimp only at hbytes
  rw [ha] at hbytes
  have hlen : (x.r.convrev x.v).bytes.length = x.c.arity := by
    rw [x.r.convrev_length, ← x.pair, ObdConversion.arity]
  rw [x.conv, Option.map_some, x.cmdid, getobdvalue, hbytes, Option.map_some,
    if_neg (fun h => h rfl), valueOf_gotBytes hlen] at hvalue
  obtain ⟨hstatus, hval⟩ := Prod.mk.inj (Option.some.inj hvalue)
  rw [hret, ← hstatus, if_pos rfl] at hval
  exact ⟨hstatus.symm, Option.some.inj hval ▸ x.encodes.within⟩

end Sensor

/-! ## One pass -/

/-- What a pass asks for: the commands of the list, in order, with the number
of bytes expected if requests are optimised. -/
def Asks (enableOptimisations : Bool) (cmdlist : List ObdServiceCmd) (round : List Sensor) :
    Prop :=
  List.Forall₂ (fun cmd x => x.cmd = cmd ∧
    (x.n : Int) = if enableOptimisations then cmd.bytesReturned else 0) cmdlist round

/-- What a pass reads: the `getobdvalue` call for a command gets the reply to
that command. -/
def ReadsAll (round : List Sensor) (outs : List (List (List Char))) (p : Pass) : Prop :=
  p.starttime.isSome ∧ ∀ (k : Nat) (x : Sensor) (out : List (List Char)),
    round[k]? = some x → outs[k]? = some out → x.Reads out.flatten (p.obdvalue k)

/-- A row with the values of the sensors. -/
def Shows (round : List Sensor) (row : ObdRow) : Prop :=
  List.Forall₂ (fun x value => ∃ w, value = some w ∧ x.Near w) round row.values

section Passes

variable {cfg : Setup} {ss : SimSettings}

/-- **One pass** files one row, with the values of the sensors. -/
theorem iteration_shows {s s' : LoopState} {p : Pass} {ended : List Int}
    (hopen : cfg.serialOpen = true) (hpos : 0 < cfg.numCommands)
    (hn : s.bindings.length = cfg.numCommands) {round : List Sensor}
    (hround : round.length = cfg.numCommands) {outs : List (List (List Char))}
    (hback : List.Forall₂ (fun x out => x.toQuery.ReadsBack ss out.flatten) round outs)
    (hsensed : ∀ x ∈ round, x.Sensed ss) (hreads : ReadsAll round outs p)
    (h : iteration cfg s p = some (s', ended)) :
    ∃ row, s'.obd = s.obd ++ [row] ∧ Shows round row ∧ p.starttime = some row.time := by
  obtain ⟨t, ht⟩ := Option.isSome_iff_exists.mp hreads.1
  have hnear : ∀ k, (hk : k < round.length) →
      (p.obdvalue k).1 = .success ∧ (round[k]).Near (p.obdvalue k).2 := by
    intro k hk
    have hk' : k < outs.length := hback.length_eq ▸ hk
    exact Sensor.near_of_reads _ (hback.get hk hk') (hsensed _ (List.getElem_mem hk))
      (hreads.2 k _ _ (List.getElem?_eq_getElem hk) (List.getElem?_eq_getElem hk'))
  have hall : AllRead cfg p := ⟨hopen, hpos, fun k hk => (hnear k (hround ▸ hk)).1⟩
  have hfiled := (fresh_of_commands hn fun _ _ => hpos).filed t s' ended ht h
  rw [if_pos hall] at hfiled
  refine ⟨_, hfiled, ?_, ht⟩
  unfold Shows readValues
  refine List.forall₂_iff_get.mpr ⟨by simp [hround], fun k hk hk' => ?_⟩
  refine ⟨(p.obdvalue k).2, by simp, (hnear k hk).2⟩

/-- **Many passes** file one row each, which shows the values of the sensors in
that pass, by induction over the passes. -/
theorem run_shows (hopen : cfg.serialOpen = true) (hpos : 0 < cfg.numCommands) :
    ∀ {rounds : List (List Sensor)} {outss : List (List (List (List Char)))} {ps : List Pass}
      {s s' : LoopState} {ended : List (List Int)},
      s.bindings.length = cfg.numCommands →
      (∀ round ∈ rounds, round.length = cfg.numCommands ∧ ∀ x ∈ round, x.Sensed ss) →
      List.Forall₂ (List.Forall₂ fun x out => x.toQuery.ReadsBack ss out.flatten) rounds outss →
      List.Forall₂ (fun ro p => ReadsAll ro.1 ro.2 p) (rounds.zip outss) ps →
      run (iteration cfg) s ps = some (s', ended) →
      ∃ rows, s'.obd = s.obd ++ rows ∧ List.Forall₂ Shows rounds rows ∧
        rows.map ObdRow.time = clock ps
  | [], _, _, s, s', ended, _, _, .nil, hreads, hrun => by
    obtain rfl := List.forall₂_nil_left_iff.mp hreads
    obtain ⟨rfl, -⟩ := Prod.mk.inj (Option.some.inj hrun)
    exact ⟨[], (List.append_nil _).symm, .nil, rfl⟩
  | round :: rounds, _, _, s, s', ended, hn, hrounds, .cons hback hbacks, .cons hreads hreadss,
      hrun => by
    obtain ⟨s₁, o, os, hstep, hrest, rfl⟩ := run_cons_eq_some.mp hrun
    obtain ⟨hround, hsensed⟩ := hrounds round (List.mem_cons_self ..)
    -- the row of the first pass, then those of the others
    obtain ⟨row, hobd, hshows, htime⟩ :=
      iteration_shows hopen hpos hn hround hback hsensed hreads hstep
    obtain ⟨rows, hobds, hshowss, htimes⟩ := run_shows hopen hpos
      ((bindings_iteration hstep).trans hn)
      (fun r hr => hrounds r (List.mem_cons_of_mem _ hr)) hbacks hreadss hrest
    refine ⟨row :: rows, ?_, .cons hshows hshowss, ?_⟩
    · rw [hobds, hobd, List.append_assoc]
      rfl
    · unfold clock at htimes ⊢
      rw [List.map_cons, List.filterMap_cons_some htime, htimes]

end Passes

/-! ## The whole log -/

/-- A list that is related, entry by entry, to a concatenation of blocks falls
into blocks which are related to those. -/
theorem forall₂_flatten {α β : Type} {R : α → β → Prop} : ∀ {xss : List (List α)} {ys : List β},
    List.Forall₂ R xss.flatten ys →
      ∃ yss, ys = yss.flatten ∧ List.Forall₂ (List.Forall₂ R) xss yss
  | [], ys, h => by
    obtain rfl := List.forall₂_nil_left_iff.mp h
    exact ⟨[], rfl, .nil⟩
  | xs :: xss, ys, h => by
    have hfirst := List.forall₂_take xs.length h
    have hthen := List.forall₂_drop xs.length h
    rw [List.flatten_cons, List.take_left] at hfirst
    rw [List.flatten_cons, List.drop_left] at hthen
    obtain ⟨yss, hys, hrest⟩ := forall₂_flatten hthen
    refine ⟨ys.take xs.length :: yss, ?_, .cons hfirst hrest⟩
    rw [List.flatten_cons, ← hys, List.take_append_drop]

/-- The conversation of a logger that connects and makes its passes. -/
theorem rounds_run (reading : Reading) {s : SimState} {a : Adapter} {greet : List Sending}
    {rounds : List (List Sensor)} (h : Presents s a) (hversion : Bare a.ss.elmVersion)
    (htexts : greet.map Sending.text = openserialCmds)
    (hgreet : ∀ c ∈ greet, Adapter.Delivers a.ss.ecuCount c)
    (hprobes : ∀ c ∈ greet, c.text = "0100".toList →
      ∀ v ∈ askedValues (connectedSettings a.ss) c.last.ask 0x00, Answers v)
    (hrounds : ∀ round ∈ rounds, ∀ x ∈ round, Adapter.Delivers a.ss.ecuCount x.toSending ∧
      x.toQuery.Answered (connectedSettings a.ss)) :
    ∃ (t : SimState) (outs : List (List (List Char))) (outss : List (List (List (List Char)))),
      run (exchange reading) s (greet ++ rounds.flatten.map fun x => x.toSending) =
        some (t, outs ++ outss.flatten) ∧
      (∀ out ∈ outs, Drained out.flatten) ∧
      List.Forall₂ (List.Forall₂ fun x out =>
        x.toQuery.ReadsBack (connectedSettings a.ss) out.flatten) rounds outss := by
  obtain ⟨t, outs, hrun, hpres, hdrained⟩ := greet_run reading h hversion htexts hgreet hprobes
  obtain ⟨t', outs', hrun', hback⟩ := queries_run reading hpres rfl
    (rounds.flatten.map Sensor.toQuery) fun q hq => by
      obtain ⟨x, hx, rfl⟩ := List.mem_map.mp hq
      obtain ⟨round, hround, hx⟩ := List.mem_flatten.mp hx
      exact hrounds round hround x hx
  rw [List.forall₂_map_left_iff] at hback
  obtain ⟨outss, rfl, hbacks⟩ := forall₂_flatten hback
  refine ⟨t', outs, outss, ?_, hdrained, hbacks⟩
  rw [List.map_map] at hrun'
  rw [run_append hrun]
  exact congrArg (Option.map _) hrun'

/-- The engine speed, at 1726 revolutions a minute. -/
def engineSpeed : Sensor :=
  { speedQuery with
    cmd := obdcmdsMode1[0x0C]
    c := .pid0C
    r := .pid0C
    v := 1726
    row := List.getElem_mem _
    cmdid := rfl
    conv := rfl
    convrev := rfl
    declared := by decide +kernel
    encodable := by decide +kernel }

/-- The request for the engine speed arrives, and is answered, behind a client
that had turned headers on. -/
theorem engineSpeed_served : Adapter.Delivers headersOn.ecuCount engineSpeed.toSending ∧
    engineSpeed.toQuery.Answered (connectedSettings headersOn) ∧
    engineSpeed.Sensed (connectedSettings headersOn) := by
  refine ⟨speedQuery_served.1, speedQuery_served.2, ?_⟩
  show ((askedValues (connectedSettings headersOn) secondEcu 0x0C).find?
    fun a => 0 < a.count).map GenValue.bytes = some (ObdConversion.convrev .pid0C 1726).bytes
  decide +kernel

end ObdGpsLogger.Wire
