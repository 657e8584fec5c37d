import Mathlib.Algebra.Group.Int.Defs
import Mathlib.Data.List.Pairwise
import ObdGpsLogger.Machine.Run

/-!
# `ecudb.c` — the table of control units

`getecuid` looks for the row of a pair of a VIN and an ECU, `createecu` makes
one if there is none, `updateecudesc` sets its description. What the three are
for is an identity store: one id per pair, whoever asks and however often
(`IdentityStore`).

`getecuid` computes what it found and then returns `-1`. So `createecu` always
tries its insert, and what it returns is the id of the last insert of the
connection, also when its own insert has met the unique index. `identity_iff`
says in which runs this makes no difference.

Mirroring notes:
- `NULL` is bound as the empty text (`textOf`). A row may have a `NULL` VIN or
  ECU; it is the row of no pair, and the index allows any number of them.
- The id of a new row is the one SQLite gives to an `INTEGER PRIMARY KEY`: one
  more than the largest, and a random one when there is no larger (`newRowid`).
- All statements are taken to prepare, and all but the insert to succeed. An
  insert that fails leaves the id of the last insert as it is.
- A row that is inserted into another table only counts for its id.
-/

namespace ObdGpsLogger.Logger

open Machine

/-! ## The table -/

/-- What names a control unit: a VIN and an ECU. -/
abbrev EcuKey := List Char × Int

/-- A row of the table `ecu`, where `none` is NULL. -/
structure EcuRow where
  ecuid : Int
  vin : Option (List Char)
  ecu : Option Int
  ecudesc : Option (List Char)
  deriving DecidableEq, Repr

/-- The pair a row is for; comparing with `NULL` finds nothing. -/
def EcuRow.key (r : EcuRow) : Option EcuKey :=
  match r.vin, r.ecu with
  | some vin, some ecu => some (vin, ecu)
  | _, _ => none

/-- The table `ecu`, with its primary key and the index `IDX_VINECU`. -/
structure EcuTable where
  rows : List EcuRow
  primaryKey : rows.Pairwise fun a b => a.ecuid ≠ b.ecuid
  vinecu : rows.Pairwise fun a b => ∀ p, a.key = some p → b.key ≠ some p

namespace EcuTable

/-- The rows of a `SELECT … WHERE vin=? AND ecu=?`. -/
def select (t : EcuTable) (p : EcuKey) : List EcuRow := t.rows.filter fun r => r.key == some p

/-- The id of the row that a pair of a VIN and an ECU number has, if it has one. -/
def idOf (t : EcuTable) (p : EcuKey) : Option Int :=
  (t.rows.find? fun r => r.key == some p).map EcuRow.ecuid

/-- One more row, if the constraints allow it. -/
def insert (t : EcuTable) (r : EcuRow) : Option EcuTable :=
  if h : (∀ a ∈ t.rows, a.ecuid ≠ r.ecuid) ∧ ∀ a ∈ t.rows, a.key ≠ none → a.key ≠ r.key then
    some
      { rows := t.rows ++ [r]
        primaryKey := by
          refine List.pairwise_append.mpr ⟨t.primaryKey, List.pairwise_singleton .., ?_⟩
          intro a ha b hb
          rw [List.mem_singleton.mp hb]
          exact h.1 a ha
        vinecu := by
          refine List.pairwise_append.mpr ⟨t.vinecu, List.pairwise_singleton .., ?_⟩
          intro a ha b hb p hp hbp
          rw [List.mem_singleton.mp hb] at hbp
          exact h.2 a ha (by rw [hp]; exact Option.some_ne_none p) (hp.trans hbp.symm) }
  else none

end EcuTable

/-- `UPDATE ecu SET ecudesc=? WHERE ecuid=?`, for one row. -/
def EcuRow.describe (ecuid : Int) (ecudesc : List Char) (r : EcuRow) : EcuRow :=
  if r.ecuid = ecuid then { r with ecudesc := some ecudesc } else r

@[simp] theorem EcuRow.describe_ecuid (ecuid : Int) (ecudesc : List Char) (r : EcuRow) :
    (r.describe ecuid ecudesc).ecuid = r.ecuid := by
  unfold EcuRow.describe
  split <;> rfl

@[simp] theorem EcuRow.describe_key (ecuid : Int) (ecudesc : List Char) (r : EcuRow) :
    (r.describe ecuid ecudesc).key = r.key := by
  unfold EcuRow.describe
  split <;> rfl

/-! ## The calls -/

/-- The table, and the `sqlite3_last_insert_rowid` of the connection. -/
structure EcuDb where
  ecus : EcuTable
  lastInsertRowid : Int

/-- The text that is bound for a `const char *`: the string it points to, or the
empty one where it is `NULL`. -/
def textOf (s : Option (List Char)) : List Char := s.getD []

/-- `getecuid`. The last row found is kept, but it is not what is returned. -/
def getecuid (t : EcuTable) (vin : Option (List Char)) (ecu : Int) : Int :=
  let _retvalue := (t.select (textOf vin, ecu)).foldl (fun _ r => r.ecuid) (-1);
  -1

/-- The largest id of a row, `MAX_ROWID` in SQLite. -/
def maxRowid : Int := 2 ^ 63 - 1

/-- The id of a new row. At the end of the ids, one that is free is tried to
guess; `random` is what the guessing comes to. -/
def newRowid (random : Int → List Int → Option Int) (lastRowid : Int) (ids : List Int) :
    Option Int :=
  match ids.max? with
  | none => some 1
  | some v =>
    if v = maxRowid then (random lastRowid ids).filter (· ∉ ids) else some (v + 1)

/-- `INSERT INTO ecu (vin,ecu,ecudesc) VALUES (?,?,?)`. -/
def insertEcu (random : Int → List Int → Option Int) (d : EcuDb) (p : EcuKey)
    (ecudesc : List Char) : Option EcuDb :=
  (newRowid random d.lastInsertRowid (d.ecus.rows.map EcuRow.ecuid)).bind fun id =>
    (d.ecus.insert ⟨id, some p.1, some p.2, some ecudesc⟩).map fun t => ⟨t, id⟩

/-- `createecu`: the store afterwards, and the value returned. -/
def createecu (random : Int → List Int → Option Int) (d : EcuDb) (vin : Option (List Char))
    (ecu : Int) (ecudesc : Option (List Char)) : EcuDb × Int :=
  let foundecu := getecuid d.ecus vin ecu
  if 0 < foundecu then (d, foundecu)
  else
    let d' := (insertEcu random d (textOf vin, ecu) (textOf ecudesc)).getD d
    (d', d'.lastInsertRowid)

/-- `updateecudesc`: the row of an id gets the description, if one is given. -/
def updateecudesc (t : EcuTable) (ecuid : Int) (ecudesc : Option (List Char)) : EcuTable :=
  match ecudesc with
  | none => t
  | some text =>
    { rows := t.rows.map (EcuRow.describe ecuid text)
      primaryKey := by
        rw [List.pairwise_map]
        simpa using t.primaryKey
      vinecu := by
        rw [List.pairwise_map]
        simpa using t.vinecu }

/-- One call of a function of `ecudb.c` on the connection, or an insert into
another table, which sets the last row id too. -/
inductive EcuCall where
  | getecuid (vin : Option (List Char)) (ecu : Int)
  | createecu (vin : Option (List Char)) (ecu : Int) (ecudesc : Option (List Char))
  | updateecudesc (ecuid : Int) (ecudesc : Option (List Char))
  | otherInsert (rowid : Int)
  deriving DecidableEq, Repr

/-- A step of the store: one of the calls, and what it returns. -/
def ecuStep (random : Int → List Int → Option Int) (d : EcuDb) : EcuCall → Option (EcuDb × Int)
  | .getecuid vin ecu => some (d, getecuid d.ecus vin ecu)
  | .createecu vin ecu ecudesc => some (createecu random d vin ecu ecudesc)
  | .updateecudesc ecuid ecudesc => some ({ d with ecus := updateecudesc d.ecus ecuid ecudesc }, 0)
  | .otherInsert rowid => some ({ d with lastInsertRowid := rowid }, 0)

/-! ## The store -/

/-- A call does what it is for: a lookup returns the id of the pair, and a
creation returns it too or appends a row for the pair. -/
def Answers (random : Int → List Int → Option Int) (d : EcuDb) : EcuCall → Prop
  | .getecuid vin ecu => getecuid d.ecus vin ecu = (d.ecus.idOf (textOf vin, ecu)).getD (-1)
  | .createecu vin ecu ecudesc =>
    match d.ecus.idOf (textOf vin, ecu) with
    | some id =>
      (createecu random d vin ecu ecudesc).2 = id ∧
        (createecu random d vin ecu ecudesc).1.ecus.rows = d.ecus.rows
    | none =>
      (createecu random d vin ecu ecudesc).1.ecus.rows = d.ecus.rows ++
        [⟨(createecu random d vin ecu ecudesc).2, some (textOf vin), some ecu,
          some (textOf ecudesc)⟩]
  | _ => True

/-- The pair whose id a call has returned, if it has returned one. -/
def EcuCall.identified : EcuCall → Int → Option EcuKey
  | .getecuid vin ecu, id => if id = -1 then none else some (textOf vin, ecu)
  | .createecu vin ecu _, _ => some (textOf vin, ecu)
  | _, _ => none

/-- **An identity store**: every call of a run does what it is for, and two
calls return the same id if and only if they name the same pair. -/
structure IdentityStore (random : Int → List Int → Option Int) (d : EcuDb)
    (calls : List EcuCall) : Prop where
  answers : Along (ecuStep random) (Answers random) d calls
  sameId : ∀ s ids, run (ecuStep random) d calls = some (s, ids) →
    ∀ a ∈ calls.zip ids, ∀ b ∈ calls.zip ids, ∀ p q,
      a.1.identified a.2 = some p → b.1.identified b.2 = some q → (a.2 = b.2 ↔ p = q)

/-- The cases in which the fixed `-1` does no harm: the pair is not there yet,
or the insert that has brought it is the last one of all. -/
def Harmless (random : Int → List Int → Option Int) (d : EcuDb) : EcuCall → Prop
  | .getecuid vin ecu => ∀ id ∈ d.ecus.idOf (textOf vin, ecu), id = -1
  | .createecu vin ecu _ =>
    match d.ecus.idOf (textOf vin, ecu) with
    | some id => id = d.lastInsertRowid
    | none => newRowid random d.lastInsertRowid (d.ecus.rows.map EcuRow.ecuid) ≠ none
  | _ => True

instance (random : Int → List Int → Option Int) (d : EcuDb) (c : EcuCall) :
    Decidable (Harmless random d c) := by
  unfold Harmless
  split
  · infer_instance
  · split <;> infer_instance
  · infer_instance

/-! ## Rows and their pairs -/

/-- The table has a row with this id for this pair. -/
def EcuTable.Holds (t : EcuTable) (id : Int) (p : EcuKey) : Prop :=
  ∃ r ∈ t.rows, r.ecuid = id ∧ r.key = some p

theorem idOf_eq_some {t : EcuTable} {id : Int} {p : EcuKey} :
    t.idOf p = some id ↔ t.Holds id p := by
  constructor
  · intro h
    obtain ⟨r, hr, hid⟩ := Option.map_eq_some_iff.mp h
    exact ⟨r, List.mem_of_find?_eq_some hr, hid, by simpa using List.find?_some hr⟩
  · rintro ⟨r, hr, rfl, hp⟩
    unfold EcuTable.idOf
    cases hfind : t.rows.find? fun r => r.key == some p with
    | none => exact absurd (List.find?_eq_none.mp hfind r hr) (by simp [hp])
    | some r' =>
      -- the index allows no second row
      by_cases heq : r' = r
      · rw [heq]
        rfl
      · have hr' := List.mem_of_find?_eq_some hfind
        have hp' : r'.key = some p := by simpa using List.find?_some hfind
        have : Std.Symm fun a b : EcuRow => ∀ p, a.key = some p → b.key ≠ some p :=
          ⟨fun a b hab p hb ha => hab p ha hb⟩
        exact absurd hp (t.vinecu.forall hr' hr heq p hp')

theorem idOf_eq_none {t : EcuTable} {p : EcuKey} :
    t.idOf p = none ↔ ∀ r ∈ t.rows, r.key ≠ some p := by
  simp [EcuTable.idOf]

/-- **One id for one pair**: two rows of the table have the same id exactly if
they are of the same VIN and ECU. -/
theorem Holds.id_eq_iff {t : EcuTable} {x y : Int} {p q : EcuKey} (hx : t.Holds x p)
    (hy : t.Holds y q) : x = y ↔ p = q := by
  constructor
  · rintro rfl
    obtain ⟨r, hr, hid, hp⟩ := hx
    obtain ⟨r', hr', hid', hq⟩ := hy
    have : Std.Symm fun a b : EcuRow => a.ecuid ≠ b.ecuid := ⟨fun a b h => h.symm⟩
    have heq : r = r' := by
      by_contra hne
      exact t.primaryKey.forall hr hr' hne (hid.trans hid'.symm)
    rw [heq, hq] at hp
    exact (Option.some.inj hp).symm
  · rintro rfl
    rw [← idOf_eq_some] at hx hy
    exact Option.some.inj (hx.symm.trans hy)

/-- No row is lost, and none changes its id or its pair. -/
def Keeps (t t' : EcuTable) : Prop := ∀ id p, t.Holds id p → t'.Holds id p

theorem keeps_append {t t' : EcuTable} {more : List EcuRow} (h : t'.rows = t.rows ++ more) :
    Keeps t t' := by
  rintro id p ⟨r, hr, hid⟩
  exact ⟨r, by rw [h]; exact List.mem_append_left _ hr, hid⟩

theorem keeps_updateecudesc (t : EcuTable) (ecuid : Int) (ecudesc : Option (List Char)) :
    Keeps t (updateecudesc t ecuid ecudesc) := by
  cases ecudesc with
  | none => exact fun _ _ h => h
  | some text =>
    rintro id p ⟨r, hr, hid, hp⟩
    exact ⟨r.describe ecuid text, List.mem_map.mpr ⟨r, hr, rfl⟩, by rw [r.describe_ecuid, hid],
      by rw [r.describe_key, hp]⟩

/-! ## One call -/

section Calls

variable {random : Int → List Int → Option Int} {d : EcuDb}

/-- An id that is given to a new row is in no other. -/
theorem newRowid_fresh {lastRowid id : Int} {ids : List Int}
    (h : newRowid random lastRowid ids = some id) : id ∉ ids := by
  unfold newRowid at h
  cases hmax : ids.max? with
  | none =>
    rw [List.max?_eq_none_iff.mp hmax]
    exact List.not_mem_nil
  | some v =>
    rw [hmax] at h
    dsimp only at h
    split at h
    · simpa using (Option.filter_eq_some_iff.mp h).2
    · obtain rfl := Option.some.inj h
      intro hid
      have := (List.max?_eq_some_iff.mp hmax).2 _ hid
      omega

/-- The insert brings a row of an absent pair, unless the ids are used up. -/
theorem insertEcu_absent {p : EcuKey} {id : Int} (hp : d.ecus.idOf p = none)
    (hid : newRowid random d.lastInsertRowid (d.ecus.rows.map EcuRow.ecuid) = some id)
    (ecudesc : List Char) :
    ∃ d', insertEcu random d p ecudesc = some d' ∧ d'.lastInsertRowid = id ∧
      d'.ecus.rows = d.ecus.rows ++ [⟨id, some p.1, some p.2, some ecudesc⟩] := by
  have hfree : ∀ a ∈ d.ecus.rows, a.ecuid ≠ id := by
    intro a ha heq
    exact newRowid_fresh hid (List.mem_map.mpr ⟨a, ha, heq⟩)
  have hpair : ∀ a ∈ d.ecus.rows, a.key ≠ none →
      a.key ≠ (EcuRow.mk id (some p.1) (some p.2) (some ecudesc)).key :=
    fun a ha _ => idOf_eq_none.mp hp a ha
  unfold insertEcu EcuTable.insert
  rw [hid, Option.bind_some, dif_pos ⟨hfree, hpair⟩]
  exact ⟨_, rfl, rfl, rfl⟩

/-- Inserting a pair that has a row already fails, whatever its description: the
pair is unique in the table. -/
theorem insertEcu_present {p : EcuKey} {id : Int} (hp : d.ecus.idOf p = some id)
    (ecudesc : List Char) : insertEcu random d p ecudesc = none := by
  obtain ⟨r, hr, -, hkey⟩ := idOf_eq_some.mp hp
  unfold insertEcu EcuTable.insert
  cases newRowid random d.lastInsertRowid (d.ecus.rows.map EcuRow.ecuid) with
  | none => rfl
  | some id' =>
    rw [Option.bind_some, dif_neg]
    · rfl
    · intro h
      exact h.2 r hr (by rw [hkey]; exact Option.some_ne_none p) hkey

/-- What `createecu` comes to: its lookup finds nothing. -/
theorem createecu_eq (vin : Option (List Char)) (ecu : Int) (ecudesc : Option (List Char)) :
    createecu random d vin ecu ecudesc =
      ((insertEcu random d (textOf vin, ecu) (textOf ecudesc)).getD d,
        ((insertEcu random d (textOf vin, ecu) (textOf ecudesc)).getD d).lastInsertRowid) := rfl

/-- **One call** does what it is for exactly if the `-1` is harmless. -/
theorem answers_iff (c : EcuCall) : Answers random d c ↔ Harmless random d c := by
  -- what the source means to return, against the -1 and the last insert
  cases c with
  | getecuid vin ecu =>
    show -1 = (d.ecus.idOf (textOf vin, ecu)).getD (-1) ↔
      ∀ id ∈ d.ecus.idOf (textOf vin, ecu), id = -1
    cases d.ecus.idOf (textOf vin, ecu) with
    | none => simp
    | some id => simp [eq_comm]
  | createecu vin ecu ecudesc =>
    unfold Answers Harmless
    dsimp only
    rw [createecu_eq]
    cases hid : d.ecus.idOf (textOf vin, ecu) with
    | some id =>
      -- the index refuses the row, and the last insert is some other one
      rw [insertEcu_present hid]
      show d.lastInsertRowid = id ∧ d.ecus.rows = d.ecus.rows ↔ id = d.lastInsertRowid
      rw [and_iff_left rfl, eq_comm]
    | none =>
      cases hnew : newRowid random d.lastInsertRowid (d.ecus.rows.map EcuRow.ecuid) with
      | none =>
        have hinsert : insertEcu random d (textOf vin, ecu) (textOf ecudesc) = none := by
          rw [insertEcu, hnew]
          rfl
        -- no id is left for a row
        rw [hinsert]
        refine iff_of_false (fun h => ?_) (fun h => h rfl)
        have := congrArg List.length h
        rw [List.length_append] at this
        exact absurd this (Nat.ne_of_lt (Nat.lt_succ_self _))
      | some id =>
        obtain ⟨d', hinsert, hlast, hrows⟩ := insertEcu_absent hid hnew (textOf ecudesc)
        rw [hinsert]
        refine iff_of_true ?_ (Option.some_ne_none id)
        show d'.ecus.rows = _
        rw [hrows, ← hlast]
        rfl
  | updateecudesc _ _ => exact Iff.rfl
  | otherInsert _ => exact Iff.rfl

/-- What a call that answers right leaves in the table: all rows are still
there, and the id it has returned is that of the pair it was asked for. -/
theorem step_holds {d' : EcuDb} {c : EcuCall} {id : Int} (hright : Answers random d c)
    (hstep : ecuStep random d c = some (d', id)) :
    Keeps d.ecus d'.ecus ∧ ∀ p, c.identified id = some p → d'.ecus.Holds id p := by
  cases c with
  | getecuid vin ecu =>
    -- with -1 it identifies no pair
    obtain ⟨rfl, rfl⟩ := Prod.mk.inj (Option.some.inj hstep)
    refine ⟨fun _ _ h => h, fun p hp => ?_⟩
    cases hp
  | createecu vin ecu ecudesc =>
    have hd : createecu random d vin ecu ecudesc = (d', id) := Option.some.inj hstep
    unfold Answers at hright
    dsimp only at hright
    rw [hd] at hright
    cases hid : d.ecus.idOf (textOf vin, ecu) with
    | some id₀ =>
      rw [hid] at hright
      obtain ⟨rfl, hrows⟩ := hright
      have hnone : d'.ecus.rows = d.ecus.rows ++ [] := by rw [List.append_nil]; exact hrows
      have hkeeps : Keeps d.ecus d'.ecus := keeps_append hnone
      refine ⟨hkeeps, fun p hp => ?_⟩
      obtain rfl := Option.some.inj hp
      exact hkeeps _ _ (idOf_eq_some.mp hid)
    | none =>
      rw [hid] at hright
      refine ⟨keeps_append hright, fun p hp => ?_⟩
      obtain rfl := Option.some.inj hp
      exact ⟨_, by rw [hright]; exact List.mem_append_right _ (List.mem_singleton_self _), rfl, rfl⟩
  | updateecudesc ecuid ecudesc =>
    obtain ⟨rfl, rfl⟩ := Prod.mk.inj (Option.some.inj hstep)
    exact ⟨keeps_updateecudesc d.ecus ecuid ecudesc, fun p hp => nomatch hp⟩
  | otherInsert rowid =>
    obtain ⟨rfl, rfl⟩ := Prod.mk.inj (Option.some.inj hstep)
    exact ⟨fun _ _ h => h, fun p hp => nomatch hp⟩

end Calls

/-! ## A run -/

/-- After right calls, every id that was returned is that of a row. -/
theorem run_holds {random : Int → List Int → Option Int} :
    ∀ {calls : List EcuCall} {d s : EcuDb} {ids : List Int},
      Along (ecuStep random) (Answers random) d calls →
      run (ecuStep random) d calls = some (s, ids) →
      Keeps d.ecus s.ecus ∧ ∀ a ∈ calls.zip ids, ∀ p, a.1.identified a.2 = some p →
        s.ecus.Holds a.2 p := by
  intro calls
  induction calls with
  | nil =>
    intro d s ids _ h
    obtain ⟨rfl, -⟩ := Prod.mk.inj (Option.some.inj h)
    exact ⟨fun _ _ h => h, fun a ha => nomatch ha⟩
  | cons c calls ih =>
    intro d s ids hal h
    obtain ⟨d', id, ids', hstep, hrun, rfl⟩ := run_cons_eq_some.mp h
    obtain ⟨hkeeps, hheld⟩ := step_holds hal.1 hstep
    obtain ⟨hkeeps', hheld'⟩ := ih (hal.2 d' id hstep) hrun
    refine ⟨fun id p h => hkeeps' id p (hkeeps id p h), fun a ha p hp => ?_⟩
    rcases List.mem_cons.mp ha with rfl | ha
    · exact hkeeps' _ _ (hheld p hp)
    · exact hheld' a ha p hp

/-- **The three calls are an identity store** in a run exactly if the fixed
`-1` is harmless in each of its calls. -/
theorem identity_iff (random : Int → List Int → Option Int) (d : EcuDb) (calls : List EcuCall) :
    IdentityStore random d calls ↔ Along (ecuStep random) (Harmless random) d calls := by
  have hsame : Answers random = Harmless random :=
    funext fun d => funext fun c => propext (answers_iff c)
  rw [← hsame]
  constructor
  · exact fun h => h.answers
  · intro h
    refine ⟨h, fun s ids hrun a ha b hb p q hp hq => ?_⟩
    obtain ⟨-, hheld⟩ := run_holds h hrun
    exact Holds.id_eq_iff (hheld a ha p hp) (hheld b hb q hq)

/-- The table `createecutable` makes, and no insert so far. -/
def noEcus : EcuDb := ⟨⟨[], List.Pairwise.nil, List.Pairwise.nil⟩, 0⟩

/-- Asking again at once does no harm. -/
example : Along (ecuStep fun _ _ => none) (Harmless fun _ _ => none) noEcus
    [.createecu none 1 none, .createecu none 1 none, .otherInsert 7, .createecu none 2 none] := by
  decide

/-- **Another table's id is returned** for a pair that is there. -/
theorem createecu_again :
    ¬ ∀ (random : Int → List Int → Option Int) (d : EcuDb) (calls : List EcuCall),
      IdentityStore random d calls := by
  intro h
  have hstore := h (fun _ _ => none) noEcus
    [.createecu none 1 none, .otherInsert 7, .createecu none 1 none]
  have hid := hstore.sameId _ _ rfl (.createecu none 1 none, 1) (by decide)
    (.createecu none 1 none, 7) (by decide) ([], 1) ([], 1) rfl rfl
  exact absurd (hid.mpr rfl) (by decide)

end ObdGpsLogger.Logger
