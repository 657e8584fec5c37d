import ObdGpsLogger.Sim.GenDbus

/-!
# Which signal a request is answered from

A mapping is a relation between keys and PIDs, and a request for a PID is to be
answered from the last signal whose key is mapped to it (`FollowsSignals`). The
DBus generator keeps one value in each node of its list. A signal is filed in
the first node with its key, a request is answered from the first node with its
PID, and whether these are one node is a matter of the list (`meets`).

They are if the mapping is one to one, and otherwise some key and PID that are
mapped to each other miss each other. `followsSignals_iff` is about every file,
every sequence of messages and every PID of the mapping.
-/

namespace ObdGpsLogger.Sim

open CLib Obdinfo

/-! ## Where the two searches meet -/

/-- The first node with the key is the first one with the PID. -/
def meets (key : Int) (pid : Nat) : List (Int × Nat) → Bool
  | [] => false
  | m :: rest => if m.1 = key then m.2 = pid else if m.2 = pid then false else meets key pid rest

theorem mem_of_meets {key : Int} {pid : Nat} : ∀ {maps : List (Int × Nat)},
    meets key pid maps = true → (key, pid) ∈ maps
  | [], h => nomatch h
  | m :: rest, h => by
    rw [meets] at h
    split at h
    · next hkey =>
      rw [← hkey, ← of_decide_eq_true h]
      exact List.mem_cons_self ..
    · split at h
      · cases h
      · exact List.mem_cons_of_mem _ (mem_of_meets h)

/-- A key meets one PID at most: that of the first mapping of the key, at which
the search ends. -/
theorem meets_pid_unique {key : Int} {pid pid' : Nat} : ∀ {maps : List (Int × Nat)},
    meets key pid maps = true → meets key pid' maps = true → pid = pid'
  | [], h, _ => nomatch h
  | m :: rest, h, h' => by
    rw [meets] at h h'
    split at h
    · next hkey =>
      rw [if_pos hkey] at h'
      exact (of_decide_eq_true h).symm.trans (of_decide_eq_true h')
    · next hkey =>
      rw [if_neg hkey] at h'
      split at h
      · cases h
      · split at h'
        · cases h'
        · exact meets_pid_unique h h'

/-- A PID is met by one key at most: that of its first mapping, from which its
value is taken. -/
theorem meets_key_unique {key key' : Int} {pid : Nat} : ∀ {maps : List (Int × Nat)},
    meets key pid maps = true → meets key' pid maps = true → key = key'
  | [], h, _ => nomatch h
  | m :: rest, h, h' => by
    rw [meets] at h h'
    split at h
    · next hkey =>
      split at h'
      · next hkey' => exact hkey.symm.trans hkey'
      · rw [if_pos (of_decide_eq_true h)] at h'
        cases h'
    · split at h'
      · split at h
        · cases h
        · next hpid => exact absurd (of_decide_eq_true h') hpid
      · split at h
        · cases h
        · next hpid =>
          rw [if_neg hpid] at h'
          exact meets_key_unique h h'

/-- No key is mapped to two PIDs, and no PID to two keys. The same line may be
there twice. -/
structure OneToOne (maps : List (Int × Nat)) : Prop where
  pid_unique : ∀ {key pid pid'}, (key, pid) ∈ maps → (key, pid') ∈ maps → pid = pid'
  key_unique : ∀ {key key' pid}, (key, pid) ∈ maps → (key', pid) ∈ maps → key = key'

theorem OneToOne.tail {m : Int × Nat} {rest : List (Int × Nat)} (h : OneToOne (m :: rest)) :
    OneToOne rest :=
  ⟨fun hp hp' => h.pid_unique (List.mem_cons_of_mem _ hp) (List.mem_cons_of_mem _ hp'),
    fun hk hk' => h.key_unique (List.mem_cons_of_mem _ hk) (List.mem_cons_of_mem _ hk')⟩

/-- In a mapping that is one to one, a key and its PID meet. -/
theorem OneToOne.meets_of_mem {key : Int} {pid : Nat} : ∀ {maps : List (Int × Nat)},
    OneToOne maps → (key, pid) ∈ maps → meets key pid maps = true
  | m :: rest, h, hmem => by
    have hm : (m.1, m.2) ∈ m :: rest := List.mem_cons_self ..
    rw [meets]
    split
    · next hkey =>
      rw [hkey] at hm
      exact decide_eq_true (h.pid_unique hm hmem)
    · next hkey =>
      split
      · next hpid =>
        rw [hpid] at hm
        exact absurd (h.key_unique hm hmem) hkey
      · next hpid =>
        refine h.tail.meets_of_mem ?_
        rcases List.mem_cons.mp hmem with heq | hrest
        · exact absurd (congrArg Prod.fst heq).symm hkey
        · exact hrest

/-- **One to one** is that all that are mapped to each other meet. -/
theorem oneToOne_iff (maps : List (Int × Nat)) :
    OneToOne maps ↔ ∀ m ∈ maps, meets m.1 m.2 maps = true := by
  refine ⟨fun h m hm => h.meets_of_mem hm, fun h => ⟨?_, ?_⟩⟩
  · intro key pid pid' hp hp'
    exact meets_pid_unique (h _ hp) (h _ hp')
  · intro key key' pid hk hk'
    exact meets_key_unique (h _ hk) (h _ hk')

theorem oneToOne_reverse (maps : List (Int × Nat)) : OneToOne maps.reverse ↔ OneToOne maps := by
  constructor
  · rintro ⟨hpid, hkey⟩
    exact ⟨fun hp hp' => hpid (List.mem_reverse.mpr hp) (List.mem_reverse.mpr hp'),
      fun hk hk' => hkey (List.mem_reverse.mpr hk) (List.mem_reverse.mpr hk')⟩
  · rintro ⟨hpid, hkey⟩
    exact ⟨fun hp hp' => hpid (List.mem_reverse.mp hp) (List.mem_reverse.mp hp'),
      fun hk hk' => hkey (List.mem_reverse.mp hk) (List.mem_reverse.mp hk')⟩

/-! ## One signal -/

/-- The last value in the node a PID is answered from. -/
def recent (pid : Nat) (simvalList : List DbusSimval) : Option Rat :=
  (simvalList.find? fun s => s.pid == pid).map DbusSimval.mostRecent

theorem recent_cons (pid : Nat) (s : DbusSimval) (rest : List DbusSimval) :
    recent pid (s :: rest) = if s.pid = pid then some s.mostRecent else recent pid rest := by
  unfold recent
  by_cases h : s.pid = pid
  · rw [List.find?_cons_of_pos (by simpa using h), if_pos h]
    rfl
  · rw [List.find?_cons_of_neg (by simpa using h), if_neg h]

theorem meets_mapping (key : Int) (pid : Nat) (s : DbusSimval) (rest : List DbusSimval) :
    meets key pid ((s :: rest).map DbusSimval.mapping) =
      if s.mapFrom = key then decide (s.pid = pid)
      else if s.pid = pid then false else meets key pid (rest.map DbusSimval.mapping) := rfl

/-- **Filing a value** changes the answer for the PID that the key meets, and
no mapping; a key without a node meets none. -/
theorem setRecent_spec (key : Int) (value : Rat) (pid : Nat) : ∀ simvalList : List DbusSimval,
    match setRecent key value simvalList with
    | none => meets key pid (simvalList.map DbusSimval.mapping) = false
    | some filed =>
      filed.map DbusSimval.mapping = simvalList.map DbusSimval.mapping ∧
        recent pid filed =
          if meets key pid (simvalList.map DbusSimval.mapping) then some value
          else recent pid simvalList
  | [] => rfl
  | s :: rest => by
    have ih := setRecent_spec key value pid rest
    rw [setRecent, meets_mapping]
    -- the first node of the key takes the value, and the search ends there
    by_cases hkey : s.mapFrom = key
    · rw [if_pos hkey, if_pos hkey]
      refine ⟨rfl, ?_⟩
      rw [recent_cons, recent_cons]
      by_cases hpid : s.pid = pid <;> simp [hpid]
    · rw [if_neg hkey, if_neg hkey]
      cases hrest : setRecent key value rest with
      | none =>
        rw [hrest] at ih
        show (if s.pid = pid then false else meets key pid _) = false
        rw [ih]
        exact ite_self _
      | some filed =>
        rw [hrest] at ih
        obtain ⟨hmap, hrec⟩ := ih
        refine ⟨congrArg (List.cons s.mapping) hmap, ?_⟩
        show recent pid (s :: filed) = if (if s.pid = pid then false else meets key pid _) = true
          then some value else recent pid (s :: rest)
        rw [recent_cons, recent_cons, hrec]
        by_cases hpid : s.pid = pid <;> simp [hpid]

/-- **One message**: the mappings stay, and so do the bitmaps; the answer for a
PID changes if its key comes with a value. -/
theorem msgfilter_spec (g : DbusGen) (message : List DbusArg) (pid : Nat) :
    (dbusSimgenMsgfilter g message).1.mappings = g.mappings ∧
      (dbusSimgenMsgfilter g message).1.toSupportedPids = g.toSupportedPids ∧
      recent pid (dbusSimgenMsgfilter g message).1.simvalList =
        match messageTuple message with
        | none => recent pid g.simvalList
        | some (key, value) =>
          if meets key pid g.mappings then some value else recent pid g.simvalList := by
  unfold dbusSimgenMsgfilter
  cases messageTuple message with
  | none => exact ⟨rfl, rfl, rfl⟩
  | some tuple =>
    obtain ⟨key, value⟩ := tuple
    have hspec := setRecent_spec key value pid g.simvalList
    dsimp only
    cases hset : setRecent key value g.simvalList with
    | none =>
      rw [hset] at hspec
      refine ⟨rfl, rfl, ?_⟩
      rw [DbusGen.mappings, hspec]
      rfl
    | some filed =>
      rw [hset] at hspec
      exact ⟨hspec.1, rfl, hspec.2⟩

/-! ## A sequence of signals -/

/-- The values of the signals whose key is mapped to a PID, in order. -/
def valuesFor (maps : List (Int × Nat)) (messages : List (List DbusArg)) (pid : Nat) : List Rat :=
  ((messages.filterMap messageTuple).filter fun t => (t.1, pid) ∈ maps).map Prod.snd

theorem valuesFor_congr {maps maps' : List (Int × Nat)} (h : ∀ m, m ∈ maps ↔ m ∈ maps')
    (messages : List (List DbusArg)) (pid : Nat) :
    valuesFor maps messages pid = valuesFor maps' messages pid := by
  refine congrArg (List.map Prod.snd) (List.filter_congr fun t _ => ?_)
  exact decide_eq_decide.mpr (h _)

/-- The value a PID is to have: that of the last signal for it, or 0. -/
def lastValue (maps : List (Int × Nat)) (messages : List (List DbusArg)) (pid : Nat) : Rat :=
  (valuesFor maps messages pid).getLastD 0

/-- Messages change neither the mappings nor the bitmaps. -/
theorem receive_frame : ∀ (messages : List (List DbusArg)) (g : DbusGen),
    (g.receive messages).mappings = g.mappings ∧
      (g.receive messages).toSupportedPids = g.toSupportedPids
  | [], _ => ⟨rfl, rfl⟩
  | message :: messages, g => by
    obtain ⟨hmap, hpids, -⟩ := msgfilter_spec g message 0
    obtain ⟨hmap', hpids'⟩ := receive_frame messages (dbusSimgenMsgfilter g message).1
    exact ⟨hmap'.trans hmap, hpids'.trans hpids⟩

theorem valuesFor_cons (maps : List (Int × Nat)) (message : List DbusArg)
    (messages : List (List DbusArg)) (pid : Nat) :
    valuesFor maps (message :: messages) pid =
      match messageTuple message with
      | none => valuesFor maps messages pid
      | some (key, value) =>
        if (key, pid) ∈ maps then value :: valuesFor maps messages pid
        else valuesFor maps messages pid := by
  unfold valuesFor
  cases htuple : messageTuple message with
  | none => rw [List.filterMap_cons_none htuple]
  | some tuple =>
    rw [List.filterMap_cons_some htuple, List.filter_cons]
    by_cases hmem : (tuple.1, pid) ∈ maps
    · rw [if_pos (decide_eq_true hmem), List.map_cons]
      exact (if_pos hmem).symm
    · rw [if_neg (by simpa using hmem)]
      exact (if_neg hmem).symm

/-- **All messages**: if the keys of a PID meet it, the answer is the last
value that came for it. -/
theorem receive_spec (pid : Nat) : ∀ (messages : List (List DbusArg)) (g : DbusGen) (x : Rat),
    (∀ key, (key, pid) ∈ g.mappings → meets key pid g.mappings = true) →
    recent pid g.simvalList = some x →
    recent pid (g.receive messages).simvalList =
      some ((valuesFor g.mappings messages pid).getLastD x)
  | [], _, _, _, hx => hx
  | message :: messages, g, x, hmeets, hx => by
    obtain ⟨hmap, -, hrec⟩ := msgfilter_spec g message pid
    have hrun : g.receive (message :: messages) =
        (dbusSimgenMsgfilter g message).1.receive messages := rfl
    rw [hrun]
    generalize (dbusSimgenMsgfilter g message).1 = g' at hmap hrec ⊢
    rw [hx] at hrec
    rw [← hmap] at hmeets hrec ⊢
    rw [valuesFor_cons]
    cases htuple : messageTuple message with
    | none =>
      rw [htuple] at hrec
      exact receive_spec pid messages g' x hmeets hrec
    | some tuple =>
      obtain ⟨key, value⟩ := tuple
      rw [htuple] at hrec
      dsimp only at hrec ⊢
      -- the message is a signal of the PID, or of another one
      by_cases hmem : (key, pid) ∈ g'.mappings
      · rw [if_pos (hmeets key hmem)] at hrec
        rw [if_pos hmem, List.getLastD_cons]
        exact receive_spec pid messages g' value hmeets hrec
      · have hno : ¬ meets key pid g'.mappings = true := fun h => hmem (mem_of_meets h)
        rw [if_neg hno] at hrec
        rw [if_neg hmem]
        exact receive_spec pid messages g' x hmeets hrec

/-! ## What a request encodes -/

/-- The value that is encoded for a PID, unless the answer is a bitmap or there
is no node for the PID. -/
def DbusGen.encodedValue (g : DbusGen) (pid : Nat) : Option Rat :=
  if (g.bits pid).isSome then none else recent pid g.simvalList

/-- The PIDs that ask for a bitmap of the PIDs supported. -/
def bitmapPids : List Nat := [0x00, 0x20, 0x40, 0x60]

theorem bits_isSome_iff (s : SupportedPids) (pid : Nat) :
    (s.bits pid).isSome ↔ pid ∈ bitmapPids := by
  unfold SupportedPids.bits bitmapPids
  repeat' split
  all_goals simp_all

/-- **A request** is answered from the first node with its PID. -/
theorem getvalue_node {g : DbusGen} {pid : Nat} {v : DbusSimval} (hbits : g.bits pid = none)
    (hv : g.findsimvalTo pid = some v) (cells : Nat → Nat) :
    obdGetCmdForPID pid = some v.pidCmd ∧
      dbusSimgenGetvalue g cells pid = callConvrev v.pidCmd v.mostRecent cells := by
  have hpid : v.pid = pid := by simpa using List.find?_some hv
  refine ⟨hpid ▸ v.found, ?_⟩
  rw [dbusSimgenGetvalue, hbits]
  dsimp only
  rw [hv]

/-- A request is answered with the encoding of that value. -/
theorem getvalue_encodes {g : DbusGen} {pid : Nat} {x : Rat} (h : g.encodedValue pid = some x) :
    ∃ cmd, obdGetCmdForPID pid = some cmd ∧
      ∀ cells, dbusSimgenGetvalue g cells pid = callConvrev cmd x cells := by
  unfold DbusGen.encodedValue at h
  split at h
  · cases h
  · next hbits =>
    rw [Option.not_isSome_iff_eq_none] at hbits
    obtain ⟨v, hv, rfl⟩ := Option.map_eq_some_iff.mp h
    exact ⟨v.pidCmd, (getvalue_node hbits hv fun _ => 0).1,
      fun cells => (getvalue_node hbits hv cells).2⟩

/-- For every PID of the mapping, the value that is encoded is that of the last
signal whose key is mapped to it. -/
def FollowsSignals (g : DbusGen) (maps : List (Int × Nat)) : Prop :=
  ∀ (messages : List (List DbusArg)) (key : Int) (pid : Nat), (key, pid) ∈ maps →
    (g.receive messages).encodedValue pid = some (lastValue maps messages pid) ∧
      ∃ cmd, obdGetCmdForPID pid = some cmd ∧ ∀ cells,
        dbusSimgenGetvalue (g.receive messages) cells pid =
          callConvrev cmd (lastValue maps messages pid) cells

/-- A PID of the mapping has a node, so it has a most recent value: 0, as long
as no signal has come. -/
theorem recent_of_mem {key : Int} {pid : Nat} : ∀ {simvalList : List DbusSimval},
    (key, pid) ∈ simvalList.map DbusSimval.mapping → (∀ s ∈ simvalList, s.mostRecent = 0) →
    recent pid simvalList = some 0
  | s :: rest, hmem, hzero => by
    rw [recent_cons]
    split
    · rw [hzero s (List.mem_cons_self ..)]
    · next hpid =>
      rcases List.mem_cons.mp hmem with heq | hrest
      · exact absurd (congrArg Prod.snd heq).symm hpid
      · exact recent_of_mem hrest fun t ht => hzero t (List.mem_cons_of_mem _ ht)

/-- A value that is not there yet comes with the key of a mapping: it arrives
only if the key and the PID meet. -/
theorem FollowsSignals.meets {g : DbusGen} {maps : List (Int × Nat)} (h : FollowsSignals g maps)
    (hmem : ∀ m, m ∈ maps ↔ m ∈ g.mappings) (hzero : ∀ s ∈ g.simvalList, s.mostRecent = 0)
    {m : Int × Nat} (hm : m ∈ g.mappings) : meets m.1 m.2 g.mappings = true := by
  have hsignal := (h [[.int32 m.1, .int32 1]] m.1 m.2 ((hmem m).mpr hm)).1
  have hlast : lastValue maps [[.int32 m.1, .int32 1]] m.2 = 1 := by
    simp [lastValue, valuesFor, messageTuple, DbusArg.key, DbusArg.value, (hmem m).mpr hm]
  rw [hlast, DbusGen.encodedValue] at hsignal
  split at hsignal
  · cases hsignal
  · by_contra hmiss
    have hrec := (msgfilter_spec g [.int32 m.1, .int32 1] m.2).2.2
    have hkept : recent m.2 (g.receive [[.int32 m.1, .int32 1]]).simvalList = some 0 := by
      rw [← recent_of_mem hm hzero]
      exact hrec.trans (if_neg hmiss)
    exact absurd (hsignal.symm.trans hkept) (by simp)

/-- **D-Bus values**: for every sequence of messages every PID of the mapping
has the value of the last signal for it, if and only if the mapping is one to
one and names none of the PIDs that ask for bitmaps. -/
theorem followsSignals_iff (file : List Char) (g : DbusGen)
    (h : dbusSimgenCreate file = .created g) :
    FollowsSignals g (mapLines file) ↔
      OneToOne (mapLines file) ∧ ∀ m ∈ mapLines file, m.2 ∉ bitmapPids := by
  obtain ⟨hmap, hzero, -⟩ := created_spec h
  have hmem : ∀ m, m ∈ mapLines file ↔ m ∈ g.mappings := by
    intro m
    rw [hmap, List.mem_reverse]
  constructor
  · intro hfollows
    refine ⟨?_, fun m hm hblock => ?_⟩
    · -- the search from the front meets each node only if the mapping is one to one
      rw [← oneToOne_reverse, ← hmap]
      exact (oneToOne_iff _).mpr fun m hm => hfollows.meets hmem hzero hm
    · -- a PID that asks for a bitmap has no value
      have hstart := (hfollows [] m.1 m.2 hm).1
      rw [DbusGen.encodedValue, if_pos] at hstart
      · cases hstart
      · exact (bits_isSome_iff _ _).mpr hblock
  · rintro ⟨hone, hblock⟩ messages key pid hkp
    rw [← oneToOne_reverse, ← hmap] at hone
    have hkp' := (hmem _).mp hkp
    have hpids := (receive_frame messages g).2
    have hrec := receive_spec pid messages g 0 (fun k hk => hone.meets_of_mem hk)
      (recent_of_mem hkp' hzero)
    have hencoded : (g.receive messages).encodedValue pid =
        some (lastValue (mapLines file) messages pid) := by
      have hbits : ¬ ((g.receive messages).bits pid).isSome := by
        rw [hpids]
        exact fun h => hblock _ hkp ((bits_isSome_iff _ _).mp h)
      rw [DbusGen.encodedValue, if_neg hbits, hrec, lastValue, valuesFor_congr hmem]
    exact ⟨hencoded, getvalue_encodes hencoded⟩

/-- A file with the two map lines of the manual's example. -/
def dbusExample : List Char :=
  "bus=system\ninterface=org.fbd\npath=/fbd\nmember=M\nmap 3 -> 0x0C\nmap 11 -> 0x0D\n".toList

/-- The text of a file that maps one key to two PIDs. -/
def sharedKey : List Char :=
  "bus=system\ninterface=org.fbd\npath=/fbd\nmember=M\nmap 3 -> 0x0C\nmap 3 -> 0x0D\n".toList

/-- The generator a file becomes, if it becomes one. -/
def DbusCreate.gen : DbusCreate → Option DbusGen
  | .created g => some g
  | _ => none

theorem exists_created {create : DbusCreate} (h : create.gen.isSome) :
    ∃ g, create = .created g := by
  cases create with
  | nullDeref => cases h
  | refused => cases h
  | created g => exact ⟨g, rfl⟩

theorem followsSignals_example :
    ∃ g, dbusSimgenCreate dbusExample = .created g ∧ FollowsSignals g (mapLines dbusExample) := by
  obtain ⟨g, hg⟩ := exists_created
    (by decide +kernel : (dbusSimgenCreate dbusExample).gen.isSome = true)
  have hlines : mapLines dbusExample = [(3, 0x0C), (11, 0x0D)] := by decide +kernel
  refine ⟨g, hg, (followsSignals_iff dbusExample g hg).mpr ?_⟩
  rw [hlines]
  exact ⟨(oneToOne_iff _).mpr (by decide), by decide⟩

/-- The first of the two lines is not found, and its PID stays at 0. -/
theorem sharedKey_missed :
    ∃ g, dbusSimgenCreate sharedKey = .created g ∧ ¬ FollowsSignals g (mapLines sharedKey) := by
  obtain ⟨g, hg⟩ := exists_created
    (by decide +kernel : (dbusSimgenCreate sharedKey).gen.isSome = true)
  have hlines : (3, 0x0C) ∈ mapLines sharedKey := by decide +kernel
  have hlast : lastValue (mapLines sharedKey) [[.int32 3, .int32 1]] 0x0C = 1 := by decide +kernel
  have hvalue : (dbusSimgenCreate sharedKey).gen.map
      (fun g => (g.receive [[.int32 3, .int32 1]]).encodedValue 0x0C) = some (some 0) := by
    decide +kernel
  refine ⟨g, hg, fun h => ?_⟩
  have hencoded := (h [[.int32 3, .int32 1]] 3 0x0C hlines).1
  rw [hlast] at hencoded
  rw [hg] at hvalue
  have hzero := Option.some.inj hvalue
  exact absurd (hencoded.symm.trans hzero) (by decide)

end ObdGpsLogger.Sim
