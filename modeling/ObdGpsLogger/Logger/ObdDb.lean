import Mathlib.Algebra.Order.Ring.Rat
import Mathlib.Data.List.Nodup
import ObdGpsLogger.Logger.MainLoop
import ObdGpsLogger.Obdcomm.SupportedCommands
import ObdGpsLogger.Sql.Table

/-!
# `obddb.c` — the table of samples

`createobdtable` and `createobdinsertstmt` of `src/logger/obddb.c`, and what
`main` does with them: the list of commands it samples, and the parameters it
binds. Each of them goes over the rows of `obdcmds_mode1` on its own and picks
those that have a column and are supported.

`obdTable_agrees` says that they pick the same ones: the value bound at a
parameter ends up in the column of the command it was read with.

Mirroring notes:
- A statement is executed as what its text says (`Sql.readStatement`). Indexes
  do not show in a table and are left out, like everything printed.
- `strcat` does not look at the size of its buffer; that the texts fit is part
  of the result.
-/

namespace ObdGpsLogger.Logger

open CLib Obdinfo Obdcomm Sql

/-- The name of the table `obd`. -/
def obdTable : Name := "obd".toList

/-- `obdcmds_mode1[i].db_column`, as the characters of the text. -/
def dbColumn (i : Nat) : Option Name :=
  (obdcmdsMode1[i]?.bind ObdServiceCmd.dbColumn).map String.toList

/-- `for(i=0; i<sizeof(obdcmds_mode1)/sizeof(obdcmds_mode1[0]); i++)`. -/
def rowIndices : List Nat := List.range obdcmdsMode1.length

/-! ## The statements -/

/-- `create_stmt`: a column for each supported command, then the time, the trip
and the ECU. -/
def createStmt (obdcaps : List Nat) : List Char :=
  rowIndices.foldl (fun stmt i =>
      match dbColumn i with
      | none => stmt
      | some col =>
        if isobdcapabilitysupported obdcaps i ≠ 0 then stmt ++ col ++ " REAL,".toList else stmt)
    "CREATE TABLE obd (".toList ++ "time REAL, trip INTEGER, ecu INTEGER DEFAULT 0)".toList

/-- `sql`, the statement that adds a missing column. -/
def alterSql (col : Name) : List Char :=
  snprintf 512 ("ALTER TABLE obd ADD ".toList ++ col ++ " REAL".toList)

/-- The body of the loop over a table that exists: the columns are looked up
each time. -/
def alterStep (obdcaps : List Nat) (db : Database Rat) (i : Nat) : Database Rat :=
  match dbColumn i with
  | none => db
  | some col =>
    if isobdcapabilitysupported obdcaps i ≠ 0 then
      if col ∈ db.tableInfo obdTable then db else (execText db (alterSql col)).getD db
    else db

/-- `createobdtable`: the value returned and the database afterwards. -/
def createobdtable (db : Database Rat) (obdcaps : List Nat) : Int × Database Rat :=
  if db.tableInfo obdTable = [] then
    match execText db (createStmt obdcaps) with
    | none => (1, db)
    | some db => (0, db)
  else (0, rowIndices.foldl (alterStep obdcaps) db)

/-- The first loop of `createobdinsertstmt`: `insert_sql` and `columncount`. -/
def insertColumns (obdcaps : List Nat) : List Char × Nat :=
  rowIndices.foldl (fun s i =>
      match dbColumn i with
      | none => s
      | some col =>
        if isobdcapabilitysupported obdcaps i ≠ 0 then (s.1 ++ col ++ [','], s.2 + 1) else s)
    ("INSERT INTO obd (".toList, 0)

/-- `insert_sql`: the columns of the supported commands, the time and the trip,
and a parameter for each. -/
def insertSql (obdcaps : List Nat) : List Char :=
  (List.range (insertColumns obdcaps).2).foldl (fun sql _ => sql ++ "?,".toList)
    ((insertColumns obdcaps).1 ++ "time,trip) VALUES (".toList) ++ "?,?)".toList

/-- `createobdinsertstmt`: the number of columns with the time, or 0, and the
statement. -/
def createobdinsertstmt (db : Database Rat) (obdcaps : List Nat) : Nat × Option Statement :=
  match prepare db (insertSql obdcaps) with
  | none => (0, none)
  | some stmt => ((insertColumns obdcaps).2 + 1, some stmt)

/-! ## In `main` -/

/-- The loop that fills `cmdlist[obdnumcols-1]`: `j` and the array. It must not
write behind the array. -/
def fillCmdlist (obdcaps : List Nat) (size : Nat) : Option (Nat × List (Option Nat)) :=
  rowIndices.foldlM (fun s i =>
      match dbColumn i with
      | none => some s
      | some _ =>
        if isobdcapabilitysupported obdcaps i ≠ 0 then
          if s.1 < s.2.length then some (s.1 + 1, s.2.set s.1 (some i)) else none
        else some s)
    (0, List.replicate size none)

/-- `obdcmds_mode1[cmdlist[i]].cmdid`, the PID of a command of the list. -/
def cmdidAt (cmdlist : List Nat) (i : Nat) : Nat :=
  ((cmdlist[i]?.bind (obdcmdsMode1[·]?)).map ObdServiceCmd.cmdid).getD 0

/-- The parameters with which the insert statement runs: the values of the
commands, and behind them the time and the trip. -/
def obdParams (bindings : List (Option Rat)) (time trip : Rat) (p : Nat) : Option Rat :=
  if p = bindings.length + 1 then some time
  else if p = bindings.length + 2 then some trip
  else if p = 0 then none
  else bindings[p - 1]?.join

/-! ## What the loops pick -/

/-- The column that row `i` contributes. -/
def pickedColumn (obdcaps : List Nat) (i : Nat) : Option Name :=
  if isobdcapabilitysupported obdcaps i ≠ 0 then dbColumn i else none

theorem dbColumn_of_picked {obdcaps : List Nat} {i : Nat} {col : Name}
    (h : pickedColumn obdcaps i = some col) : dbColumn i = some col := by
  unfold pickedColumn at h
  split at h
  · exact h
  · cases h

/-- The rows of the commands to sample. -/
def picked (obdcaps : List Nat) : List Nat :=
  rowIndices.filter fun i => (pickedColumn obdcaps i).isSome

/-- The names of the columns that the supported commands have. -/
def columnNames (obdcaps : List Nat) : List Name := rowIndices.filterMap (pickedColumn obdcaps)

/-- The two columns that every row fills besides its values. -/
def timeAndTrip : List Name := ["time".toList, "trip".toList]

section Picked

variable (obdcaps : List Nat)

theorem columnNames_length : (columnNames obdcaps).length = (picked obdcaps).length := by
  rw [columnNames, picked, List.length_filterMap_eq_countP, List.countP_eq_length_filter]

/-- The names are those of the commands, in the same order. -/
theorem columnNames_picked : (picked obdcaps).map dbColumn = (columnNames obdcaps).map some := by
  unfold picked columnNames
  induction rowIndices with
  | nil => rfl
  | cons i is ih =>
    cases hi : pickedColumn obdcaps i with
    | none => rw [List.filter_cons_of_neg (by simp [hi]), List.filterMap_cons_none hi, ih]
    | some col =>
      rw [List.filter_cons_of_pos (by simp [hi]), List.filterMap_cons_some hi, List.map_cons,
        List.map_cons, ih, dbColumn_of_picked hi]

/-- A loop that tests both conditions goes over the picked rows. -/
theorem foldl_picked {σ : Type} (f : σ → Name → σ) (s : σ) :
    rowIndices.foldl (fun s i =>
        match dbColumn i with
        | none => s
        | some col => if isobdcapabilitysupported obdcaps i ≠ 0 then f s col else s) s =
      (columnNames obdcaps).foldl f s := by
  rw [columnNames, List.foldl_filterMap]
  congr 1
  funext s i
  unfold pickedColumn
  by_cases h : isobdcapabilitysupported obdcaps i ≠ 0
  · rw [if_pos h]
    cases dbColumn i with
    | none => rfl
    | some col => exact if_pos h
  · rw [if_neg h]
    cases dbColumn i with
    | none => rfl
    | some col => exact if_neg h

/-- A loop over the rows of the PID table that acts on supported columns only,
and may fail, is a loop over the supported columns. -/
theorem foldlM_picked {σ : Type} (f : σ → Nat → Option σ) : ∀ (is : List Nat) (s : σ),
    is.foldlM (fun s i =>
        match dbColumn i with
        | none => some s
        | some _ => if isobdcapabilitysupported obdcaps i ≠ 0 then f s i else some s) s =
      (is.filter fun i => (pickedColumn obdcaps i).isSome).foldlM f s
  | [], _ => rfl
  | i :: is, s => by
    have ih := foldlM_picked f is
    rw [List.foldlM_cons]
    unfold pickedColumn at ih ⊢
    by_cases h : isobdcapabilitysupported obdcaps i ≠ 0
    · cases hcol : dbColumn i with
      | none =>
        -- a row without a column is passed over
        rw [List.filter_cons_of_neg (by simp [hcol]), ← ih]
        rfl
      | some col =>
        rw [List.filter_cons_of_pos (by simp [hcol, h]), List.foldlM_cons]
        dsimp only
        rw [if_pos h]
        exact congrArg (f s i >>= ·) (funext ih)
    · -- so is one that is not supported
      rw [List.filter_cons_of_neg (by simp [h]), ← ih]
      cases dbColumn i with
      | none => rfl
      | some col =>
        dsimp only
        rw [if_neg h]
        rfl

/-! ## What the texts say -/

/-- The names of the columns are short words, none of them the time or the trip. -/
theorem dbColumn_word {i : Nat} {col : Name} (h : dbColumn i = some col) :
    IsWord col ∧ col.length ≤ 11 ∧ col ∉ timeAndTrip := by
  have hall : obdcmdsMode1.all (fun o => o.dbColumn.all fun c =>
      c.toList ≠ [] && c.toList.all isWordChar && decide (c.toList.length ≤ 11) &&
        decide (c.toList ∉ timeAndTrip)) = true := by
    decide +kernel
  obtain ⟨c, hc, rfl⟩ := Option.map_eq_some_iff.mp h
  obtain ⟨o, ho, hoc⟩ := Option.bind_eq_some_iff.mp hc
  have hrow := List.all_eq_true.mp hall o (List.mem_of_getElem? ho)
  rw [hoc] at hrow
  simp only [Option.all_some, Bool.and_eq_true, decide_eq_true_eq] at hrow
  obtain ⟨⟨⟨hne, hword⟩, hlen⟩, hnot⟩ := hrow
  exact ⟨⟨hne, List.all_eq_true.mp hword⟩, hlen, hnot⟩

theorem mem_columnNames {col : Name} (h : col ∈ columnNames obdcaps) :
    ∃ i, pickedColumn obdcaps i = some col ∧ dbColumn i = some col := by
  obtain ⟨i, -, hi⟩ := List.mem_filterMap.mp h
  exact ⟨i, hi, dbColumn_of_picked hi⟩

theorem createStmt_eq : createStmt obdcaps =
    "CREATE TABLE obd (".toList ++ ((columnNames obdcaps).flatMap (· ++ " REAL,".toList)) ++
      "time REAL, trip INTEGER, ecu INTEGER DEFAULT 0)".toList := by
  have hfold : ∀ (cols : List Name) (s : List Char),
      cols.foldl (fun stmt col => stmt ++ col ++ " REAL,".toList) s =
        s ++ cols.flatMap (· ++ " REAL,".toList) := by
    intro cols
    induction cols with
    | nil => intro s; simp
    | cons col cols ih => intro s; rw [List.foldl_cons, ih, List.flatMap_cons]; simp
  rw [createStmt, foldl_picked obdcaps (fun stmt col => stmt ++ col ++ " REAL,".toList), hfold]

theorem insertColumns_eq : insertColumns obdcaps =
    ("INSERT INTO obd (".toList ++ (columnNames obdcaps).flatMap (· ++ [',']),
      (columnNames obdcaps).length) := by
  have hfold : ∀ (cols : List Name) (s : List Char) (n : Nat),
      cols.foldl (fun (s : List Char × Nat) col => (s.1 ++ col ++ [','], s.2 + 1)) (s, n) =
        (s ++ cols.flatMap (· ++ [',']), n + cols.length) := by
    intro cols
    induction cols with
    | nil => intro s n; simp
    | cons col cols ih =>
      intro s n
      rw [List.foldl_cons, ih, List.flatMap_cons, List.length_cons]
      simp only [List.append_assoc, Prod.mk.injEq, true_and]
      omega
  rw [insertColumns,
    foldl_picked obdcaps (fun (s : List Char × Nat) col => (s.1 ++ col ++ [','], s.2 + 1)), hfold,
    Nat.zero_add]

theorem insertSql_eq : insertSql obdcaps =
    "INSERT INTO obd (".toList ++ (columnNames obdcaps).flatMap (· ++ [',']) ++
      "time,trip) VALUES (".toList ++
      (List.replicate (columnNames obdcaps).length "?,".toList).flatten ++ "?,?)".toList := by
  have hfold : ∀ (n : Nat) (s : List Char),
      (List.range n).foldl (fun sql _ => sql ++ "?,".toList) s =
        s ++ (List.replicate n "?,".toList).flatten := by
    intro n
    induction n with
    | zero => intro s; simp
    | succ n ih =>
      intro s
      rw [List.range_succ, List.foldl_append, ih, List.replicate_succ', List.flatten_append]
      simp
  rw [insertSql, insertColumns_eq, hfold]

theorem columnNames_words : ∀ col ∈ columnNames obdcaps, IsWord col := by
  intro col hcol
  obtain ⟨i, -, hi⟩ := mem_columnNames obdcaps hcol
  exact (dbColumn_word hi).1

/-- What SQLite reads from the text of the `CREATE TABLE`: the table `obd` with
the supported columns, time, trip and ECU. -/
theorem readStatement_create : readStatement (createStmt obdcaps) =
    some (.createTable obdTable (columnNames obdcaps ++ timeAndTrip ++ ["ecu".toList])) := by
  have hstart : ∀ rest, lex ("CREATE TABLE obd (".toList ++ rest) =
      kw "CREATE" :: kw "TABLE" :: kw "obd" :: .sym '(' :: lex rest := fun _ => rfl
  have hitems := lex_items (c := ' ') (by decide) "REAL,".toList ([kw "REAL"] ++ [.sym ','])
    (fun rest => rfl) (columnNames_words obdcaps)
  have hlisted := listed_items [kw "REAL"] (by simp [kw]) (columnNames obdcaps)
  have hend : listed true (lex "time REAL, trip INTEGER, ecu INTEGER DEFAULT 0)".toList) =
      timeAndTrip ++ ["ecu".toList] := by decide
  rw [readStatement, createStmt_eq, List.append_assoc, hstart]
  show some (Statement.createTable obdTable (listed true (lex (_ ++ _)))) = _
  rw [show (" REAL,".toList : List Char) = ' ' :: "REAL,".toList from rfl, hitems, hlisted, hend,
    List.append_assoc]

/-- The question marks of the insert text are read as that many parameters, with
commas between them, and the parenthesis behind. -/
theorem lex_marks (n : Nat) : lex ((List.replicate n "?,".toList).flatten ++ "?,?)".toList) =
    (List.replicate n [.sym '?', .sym ',']).flatten ++
      [.sym '?', .sym ',', .sym '?', .sym ')'] := by
  have hmark : ∀ rest, lex ("?,".toList ++ rest) = .sym '?' :: .sym ',' :: lex rest :=
    fun _ => rfl
  induction n with
  | zero => rfl
  | succ n ih =>
    rw [List.replicate_succ, List.flatten_cons, List.append_assoc, hmark, ih,
      List.replicate_succ, List.flatten_cons]
    rfl

/-- The text of the `INSERT`: a parameter for each column. -/
theorem readStatement_insert : readStatement (insertSql obdcaps) =
    some (.insert obdTable (columnNames obdcaps ++ timeAndTrip)
      ((columnNames obdcaps).length + 2)) := by
  have hstart : ∀ rest, lex ("INSERT INTO obd (".toList ++ rest) =
      kw "INSERT" :: kw "INTO" :: kw "obd" :: .sym '(' :: lex rest := fun _ => rfl
  have hitems := lex_items (c := ',') (by decide) [] ([] ++ [.sym ',']) (fun rest => rfl)
    (columnNames_words obdcaps)
  have hlisted := listed_items [] (by simp) (columnNames obdcaps)
  have hvalues : ∀ rest, lex ("time,trip) VALUES (".toList ++ rest) =
      [kw "time", .sym ',', kw "trip", .sym ')', kw "VALUES", .sym '('] ++ lex rest :=
    fun _ => rfl
  -- the question marks are counted, and there are none among the names
  have hcount : ∀ cols : List Name,
      (cols.flatMap fun s => Token.word s :: ([] ++ [.sym ','])).count (.sym '?') = 0 := by
    intro cols
    rw [List.count_eq_zero]
    simp
  have hmarkcount : ∀ n,
      (List.replicate n [Token.sym '?', .sym ',']).flatten.count (.sym '?') = n := by
    intro n
    simp [List.count_flatten]
  have hlist : ∀ rest, listed true (kw "time" :: .sym ',' :: kw "trip" :: .sym ')' :: rest) =
      timeAndTrip := fun _ => rfl
  rw [readStatement, insertSql_eq, List.append_assoc, List.append_assoc, List.append_assoc, hstart]
  show some (Statement.insert obdTable (listed true (lex (_ ++ _)))
    ((lex (_ ++ _)).count (.sym '?'))) = _
  rw [hitems, hvalues, lex_marks, hlisted, List.count_append, hcount, List.count_append,
    List.count_append, hmarkcount]
  show some (Statement.insert obdTable (_ ++ listed true (kw "time" :: .sym ',' :: kw "trip" ::
    .sym ')' :: _)) _) = _
  rw [hlist]
  congr 2
  show 0 + (0 + ((columnNames obdcaps).length + 2)) = _
  omega

/-- The text of the `ALTER TABLE`, which fits its buffer. -/
theorem readStatement_alter {col : Name} (hcol : IsWord col) (hlen : col.length ≤ 11) :
    readStatement (alterSql col) = some (.addColumn obdTable col) := by
  have hstart : ∀ rest, lex ("ALTER TABLE obd ADD ".toList ++ rest) =
      kw "ALTER" :: kw "TABLE" :: kw "obd" :: kw "ADD" :: lex rest := fun _ => rfl
  have hfit : ("ALTER TABLE obd ADD ".toList ++ col ++ " REAL".toList).length < 512 := by
    simp only [List.length_append]
    show 20 + col.length + 5 < 512
    omega
  rw [readStatement, alterSql, snprintf_eq_self hfit, List.append_assoc, hstart,
    show (" REAL".toList : List Char) = ' ' :: "REAL".toList from rfl, lex_word hcol (by decide)]
  rfl

/-- Neither the text of the `CREATE TABLE` nor that of the insert is cut off:
with all columns supported they still fit their buffers. -/
theorem texts_fit : (createStmt obdcaps).length < 4096 ∧ (insertSql obdcaps).length < 4096 := by
  -- 84 columns at most, of 11 characters each at most
  have hcount : (columnNames obdcaps).length ≤ 84 := List.length_filterMap_le ..
  have hlen : ∀ col ∈ columnNames obdcaps, col.length ≤ 11 := by
    intro col hcol
    obtain ⟨i, -, hi⟩ := mem_columnNames obdcaps hcol
    exact (dbColumn_word hi).2.1
  have hsum : ∀ (behind : List Char) {cols : List Name}, (∀ col ∈ cols, col.length ≤ 11) →
      (cols.flatMap (· ++ behind)).length ≤ (11 + behind.length) * cols.length := by
    intro behind cols
    induction cols with
    | nil => intro _; exact Nat.zero_le _
    | cons col cols ih =>
      intro h
      have hcol := h col (List.mem_cons_self ..)
      have ih' := ih fun d hd => h d (List.mem_cons_of_mem _ hd)
      rw [List.flatMap_cons, List.length_append, List.length_append, List.length_cons, Nat.mul_succ]
      omega
  have hcreate := hsum " REAL,".toList hlen
  have hinsert := hsum [','] hlen
  -- two characters for each question mark
  have hmarks : ((List.replicate (columnNames obdcaps).length "?,".toList).flatten).length =
      (columnNames obdcaps).length * 2 := by
    simp [List.length_flatten]
  rw [createStmt_eq, insertSql_eq]
  simp only [List.length_append, hmarks]
  constructor
  · show 18 + _ + 47 < 4096
    have : ((columnNames obdcaps).flatMap (· ++ " REAL,".toList)).length ≤
        17 * (columnNames obdcaps).length := hcreate
    omega
  · show 17 + _ + 19 + _ + 4 < 4096
    have : ((columnNames obdcaps).flatMap (· ++ [','])).length ≤
        12 * (columnNames obdcaps).length := hinsert
    omega

/-! ## The table -/

/-- The table has the columns that a sample is stored in. -/
def HasColumns (db : Database Rat) (columns : List Name) : Prop :=
  ∃ t, db obdTable = some t ∧ ∀ c ∈ columns, c ∈ t.columns

/-- What a row of `obdcmds_mode1` does to the table: nothing, where it is not
picked or its column is there, or else it adds its column. -/
theorem alterStep_eq (db : Database Rat) (t : Table Rat) (i : Nat) :
    alterStep obdcaps (db.set obdTable t) i = db.set obdTable
      (t.addColumns ((pickedColumn obdcaps i).toList.filter fun c => c ∉ t.columns)) := by
  have hinfo := Database.tableInfo_eq (Database.set_self db obdTable t)
  unfold alterStep pickedColumn
  by_cases hsupported : isobdcapabilitysupported obdcaps i ≠ 0
  · cases hcol : dbColumn i with
    | none => simp
    | some col =>
      obtain ⟨hword, hlen, -⟩ := dbColumn_word hcol
      dsimp only
      rw [if_pos hsupported, if_pos hsupported, hinfo]
      by_cases hmem : col ∈ t.columns
      · simp [hmem]
      · have hexec : execText (db.set obdTable t) (alterSql col) =
            some (db.set obdTable (t.addColumn col)) := by
          rw [execText, readStatement_alter hword hlen, Option.bind_some, exec, Database.set_self,
            Option.bind_eq_bind, Option.bind_some, if_neg hmem, Database.set_set]
        rw [if_neg hmem, hexec]
        simp [hmem, Table.addColumns_singleton]
  · rw [if_neg hsupported]
    cases dbColumn i with
    | none => simp
    | some col => simp [hsupported]

/-- What a loop over such rows has added. -/
structure Added (before names more : List Name) : Prop where
  mem : ∀ c ∈ more, c ∈ names
  all : ∀ c ∈ names, c ∈ before ++ more
  nodup : before.Nodup → (before ++ more).Nodup

/-- The loop of `ALTER TABLE` over a table that exists adds the supported
columns the table does not have, and changes nothing else. -/
theorem alterLoop_eq (db : Database Rat) (is : List Nat) (t : Table Rat) :
    ∃ more, is.foldl (alterStep obdcaps) (db.set obdTable t) =
        db.set obdTable (t.addColumns more) ∧
      Added t.columns (is.filterMap (pickedColumn obdcaps)) more := by
  induction is generalizing t with
  | nil => exact ⟨[], by simp, by simp, by simp, by simp⟩
  -- one step adds the column of `i`, unless it is not picked or is there already
  | cons i is ih =>
    obtain ⟨more, hloop, hadded⟩ :=
      ih (t.addColumns ((pickedColumn obdcaps i).toList.filter fun c => c ∉ t.columns))
    rw [List.foldl_cons, alterStep_eq, hloop]
    cases hi : pickedColumn obdcaps i with
    | none =>
      simp only [hi, Option.toList_none, List.filter_nil, Table.addColumns_nil] at hadded ⊢
      rw [List.filterMap_cons_none hi]
      exact ⟨more, rfl, hadded⟩
    | some col =>
      rw [List.filterMap_cons_some hi]
      -- the rest of the loop runs on a table that has the column in any case
      by_cases hmem : col ∈ t.columns
      · simp only [hi, Option.toList_some, List.filter_cons, List.filter_nil, hmem,
          not_true_eq_false, decide_false, Bool.false_eq_true, if_false, Table.addColumns_nil]
          at hadded ⊢
        refine ⟨more, rfl, fun c hc => List.mem_cons_of_mem _ (hadded.mem c hc), fun c hc => ?_,
          hadded.nodup⟩
        rcases List.mem_cons.mp hc with rfl | hc
        · exact List.mem_append_left _ hmem
        · exact hadded.all c hc
      · simp only [hi, Option.toList_some, List.filter_cons, List.filter_nil, hmem,
          not_false_eq_true, decide_true, if_true] at hadded ⊢
        have happend : (t.addColumns [col]).columns ++ more = t.columns ++ col :: more :=
          (List.append_assoc ..).trans rfl
        refine ⟨col :: more, by rw [Table.addColumns_addColumns]; rfl, fun c hc => ?_,
          fun c hc => ?_, fun hnodup => ?_⟩
        · rcases List.mem_cons.mp hc with rfl | hc
          · exact List.mem_cons_self ..
          · exact List.mem_cons_of_mem _ (hadded.mem c hc)
        · rcases List.mem_cons.mp hc with rfl | hc
          · simp
          · exact happend ▸ hadded.all c hc
        · rw [← happend]
          refine hadded.nodup (List.nodup_append.mpr ⟨hnodup, List.pairwise_singleton .., ?_⟩)
          intro c hc d hd hcd
          rw [hcd, List.mem_singleton.mp hd] at hc
          exact hmem hc

/-- The columns of a table that is created for these commands. -/
def newColumns : List Name := columnNames obdcaps ++ timeAndTrip ++ ["ecu".toList]

/-- **What becomes of the table**: it is created, or columns are added to it. -/
theorem createobdtable_cases {db : Database Rat}
    (hdb : db obdTable = none ∨ HasColumns db timeAndTrip) :
    (db obdTable = none ∧ createobdtable db obdcaps =
      (0, db.set obdTable (Table.empty (newColumns obdcaps)))) ∨
    ∃ t more, db obdTable = some t ∧
      createobdtable db obdcaps = (0, db.set obdTable (t.addColumns more)) ∧
      Added t.columns (columnNames obdcaps) more := by
  unfold createobdtable
  rcases hdb with hnone | ⟨t, ht, hcols⟩
  · have hinfo : db.tableInfo obdTable = [] := by
      rw [Database.tableInfo, hnone]
      rfl
    have hexec : execText db (createStmt obdcaps) =
        some (db.set obdTable (Table.empty (newColumns obdcaps))) := by
      rw [execText, readStatement_create, Option.bind_some, exec, hnone, newColumns]
    rw [if_pos hinfo, hexec]
    exact Or.inl ⟨hnone, rfl⟩
  · have hne : t.columns ≠ [] :=
      List.ne_nil_of_mem (hcols "time".toList (List.mem_cons_self ..))
    obtain ⟨more, hloop, hadded⟩ := alterLoop_eq obdcaps db rowIndices t
    rw [Database.set_of_eq ht] at hloop
    rw [if_neg (by rw [Database.tableInfo_eq ht]; exact hne), hloop]
    exact Or.inr ⟨t, more, ht, rfl, hadded⟩

/-- **The table has the columns.** Whether it is created or was there before,
it has those of the picked rows, the time, the trip, and what it had. -/
theorem createobdtable_columns {db : Database Rat}
    (hdb : db obdTable = none ∨ HasColumns db timeAndTrip) :
    HasColumns (createobdtable db obdcaps).2
      (db.tableInfo obdTable ++ (columnNames obdcaps ++ timeAndTrip)) := by
  rcases createobdtable_cases obdcaps hdb with ⟨hnone, heq⟩ | ⟨t, more, ht, heq, hadded⟩
  · rw [heq, Database.tableInfo, hnone]
    exact ⟨Table.empty (newColumns obdcaps), Database.set_self db obdTable _, fun c hc =>
      List.mem_append_left _ hc⟩
  · have hcols : ∀ c ∈ timeAndTrip, c ∈ t.columns := by
      rcases hdb with hnone | ⟨u, hu, hcols⟩
      · rw [ht] at hnone
        cases hnone
      · rw [ht] at hu
        obtain rfl := Option.some.inj hu
        exact hcols
    rw [heq, Database.tableInfo_eq ht]
    refine ⟨t.addColumns more, Database.set_self db obdTable _, fun c hc => ?_⟩
    rcases List.mem_append.mp hc with hc | hc
    · exact List.mem_append_left _ hc
    rcases List.mem_append.mp hc with hc | hc
    · exact hadded.all c hc
    · exact List.mem_append_left _ (hcols c hc)

/-! ## The statement, the list and the parameters -/

/-- The insert statement that is prepared. -/
def obdInsert : Statement :=
  .insert obdTable (columnNames obdcaps ++ timeAndTrip) ((columnNames obdcaps).length + 2)

theorem exec_obdInsert {db : Database Rat} {t : Table Rat} (ht : db obdTable = some t)
    (hcols : ∀ c ∈ columnNames obdcaps ++ timeAndTrip, c ∈ t.columns) (params : Nat → Option Rat) :
    exec db params (obdInsert obdcaps) = some (db.set obdTable
      (t.insert (columnNames obdcaps ++ timeAndTrip)
        ((List.range ((columnNames obdcaps).length + 2)).map fun k => params (k + 1)))) := by
  have hlen : (columnNames obdcaps).length + 2 = (columnNames obdcaps ++ timeAndTrip).length := by
    rw [List.length_append]
    rfl
  rw [obdInsert, exec, ht, Option.bind_eq_bind, Option.bind_some, if_pos ⟨hlen, hcols⟩]

theorem createobdinsertstmt_eq {db : Database Rat}
    (h : HasColumns db (columnNames obdcaps ++ timeAndTrip)) :
    createobdinsertstmt db obdcaps =
      ((columnNames obdcaps).length + 1, some (obdInsert obdcaps)) := by
  obtain ⟨t, ht, hcols⟩ := h
  unfold createobdinsertstmt
  rw [prepare_eq (readStatement_insert obdcaps) (exec_obdInsert obdcaps ht hcols _),
    insertColumns_eq]
  rfl

/-- The second loop over the table fills the array of commands up to its end,
and writes nothing behind it. -/
theorem fillCmdlist_eq : fillCmdlist obdcaps (columnNames obdcaps).length =
    some ((picked obdcaps).length, (picked obdcaps).map some) := by
  -- what is still to come has just the room it needs
  have hloop : ∀ (is done : List Nat),
      is.foldlM (fun (s : Nat × List (Option Nat)) i =>
          if s.1 < s.2.length then some (s.1 + 1, s.2.set s.1 (some i)) else none)
        (done.length, done.map some ++ List.replicate is.length none) =
      some ((done ++ is).length, (done ++ is).map some) := by
    intro is
    induction is with
    | nil => intro done; simp
    | cons i is ih =>
      intro done
      have ih' := ih (done ++ [i])
      rw [List.foldlM_cons, if_pos (by simp)]
      simpa [List.replicate_succ, List.set_append] using ih'
  have h := hloop (picked obdcaps) []
  rw [fillCmdlist, foldlM_picked obdcaps fun (s : Nat × List (Option Nat)) i =>
    if s.1 < s.2.length then some (s.1 + 1, s.2.set s.1 (some i)) else none, columnNames_length]
  exact h

/-- Going over a list by its indices, and picking some of its elements, is going
over the list itself. -/
theorem filterMap_range {α β : Type} (f : α → Option β) : ∀ l : List α,
    (List.range l.length).filterMap (fun i => l[i]?.bind f) = l.filterMap f
  | [] => rfl
  | a :: l => by
    have ih := filterMap_range f l
    have hrest : (List.range l.length).filterMap
        ((fun i => (a :: l)[i]?.bind f) ∘ Nat.succ) = l.filterMap f := ih
    rw [List.length_cons, List.range_succ_eq_map, List.filterMap_cons, List.filterMap_map, hrest,
      List.filterMap_cons]
    show (match f a with | none => _ | some b => _) = _
    cases f a <;> rfl

theorem columnNames_nodup : (columnNames obdcaps ++ timeAndTrip).Nodup := by
  have hnames : (columnNames obdcaps).Nodup := by
    have hall : (rowIndices.filterMap dbColumn).Nodup := by
      have hcols : rowIndices.filterMap dbColumn =
          (obdcmdsMode1.filterMap ObdServiceCmd.dbColumn).map String.toList := by
        rw [← filterMap_range, List.map_filterMap]
        rfl
      rw [hcols]
      exact List.Nodup.map (fun _ _ h => String.toList_inj.mp h) columns_nodup
    -- the picked columns are some of all columns, in their order
    refine hall.sublist ?_
    unfold columnNames
    induction rowIndices with
    | nil => exact List.Sublist.slnil
    | cons i is ih =>
      cases hi : pickedColumn obdcaps i with
      | none =>
        rw [List.filterMap_cons_none hi]
        refine ih.trans ?_
        rw [List.filterMap_cons]
        split
        · exact List.Sublist.refl _
        · exact List.sublist_cons_self ..
      | some col =>
        rw [List.filterMap_cons_some hi, List.filterMap_cons_some (dbColumn_of_picked hi)]
        exact ih.cons_cons col
  refine List.nodup_append.mpr ⟨hnames, by decide, fun col hcol c hc hne => ?_⟩
  obtain ⟨i, -, hi⟩ := mem_columnNames obdcaps hcol
  exact (dbColumn_word hi).2.2 (hne ▸ hc)

/-- The row that the insert stores has, under the name of the `k`-th column of
the statement, the value of the `k`-th parameter. -/
theorem cell_obdInsert {t : Table Rat}
    (hcols : ∀ c ∈ columnNames obdcaps ++ timeAndTrip, c ∈ t.columns)
    (params : Nat → Option Rat) {k : Nat} {c : Name}
    (hc : (columnNames obdcaps ++ timeAndTrip)[k]? = some c) :
    cell t.columns (t.columns.map (cell (columnNames obdcaps ++ timeAndTrip)
      ((List.range ((columnNames obdcaps).length + 2)).map fun k => params (k + 1)))) c =
      params (k + 1) := by
  have hk : k < (columnNames obdcaps).length + 2 := by
    have := (List.getElem?_eq_some_iff.mp hc).1
    rw [List.length_append] at this
    exact this
  rw [cell_map _ (hcols c (List.mem_of_getElem? hc)), cell_getElem (columnNames_nodup obdcaps) hc,
    List.getElem?_map, List.getElem?_range hk]
  rfl

end Picked

/-! ## Agreement -/

/-- The parts agree on the columns. `names` is what stands before the time in
the insert statement, `cmdlist` the list of the commands. -/
structure Agrees (obdcaps : List Nat) (db : Database Rat) (names : List Name)
    (cmdlist : List Nat) : Prop where
  /-- The insert statement names them, and has a parameter for each. -/
  named : readStatement (insertSql obdcaps) =
    some (.insert obdTable (names ++ timeAndTrip) (names.length + 2))
  /-- Both texts fit in the arrays that `main` has for them. -/
  fit : (createStmt obdcaps).length < 4096 ∧ (insertSql obdcaps).length < 4096
  /-- The table has these columns, and those that it had before. -/
  created : HasColumns (createobdtable db obdcaps).2
    (db.tableInfo obdTable ++ (names ++ timeAndTrip))
  /-- The number of columns comes with the statement: the values of the
  commands, the time and the trip are its parameters. -/
  counted : createobdinsertstmt (createobdtable db obdcaps).2 obdcaps =
    (names.length + 1, some (.insert obdTable (names ++ timeAndTrip) (names.length + 2)))
  /-- The list of commands has as many places, all of them filled. -/
  filled : fillCmdlist obdcaps names.length = some (names.length, cmdlist.map some) ∧
    cmdlist.length = names.length
  /-- The `k`-th column is that of the `k`-th command. -/
  matched : ∀ k < names.length, ∃ i row, cmdlist[k]? = some i ∧ obdcmdsMode1[i]? = some row ∧
    row.dbColumn.map String.toList = names[k]?
  /-- What a successful pass binds is stored where it belongs. -/
  stored : ∀ (read : Nat → ObdSerialStatus × Rat) (obdstatus : ObdSerialStatus)
      (old bindings : List (Option Rat)) (time trip : Rat), old.length = names.length →
    sampleObd (fun k => read (cmdidAt cmdlist k)) 0 names.length obdstatus old =
      (.success, bindings) →
    ∃ db' t row,
      exec (createobdtable db obdcaps).2 (obdParams bindings time trip)
        (.insert obdTable (names ++ timeAndTrip) (names.length + 2)) = some db' ∧
      db' obdTable = some t ∧ t.rows.getLast? = some row ∧
      (∀ k c, names[k]? = some c → cell t.columns row c = some (read (cmdidAt cmdlist k)).2) ∧
      cell t.columns row "time".toList = some time ∧ cell t.columns row "trip".toList = some trip

/-- **Table, statement and sampling list agree**, for every list of
capabilities, whether there is no table yet or one with a time and a trip. -/
theorem obdTable_agrees (obdcaps : List Nat) {db : Database Rat}
    (hdb : db obdTable = none ∨ HasColumns db timeAndTrip) :
    ∃ names cmdlist, Agrees obdcaps db names cmdlist := by
  have hcreated : HasColumns (createobdtable db obdcaps).2
      (db.tableInfo obdTable ++ (columnNames obdcaps ++ timeAndTrip)) :=
    createobdtable_columns obdcaps hdb
  obtain ⟨t, ht, hall⟩ := hcreated
  have hcols : ∀ c ∈ columnNames obdcaps ++ timeAndTrip, c ∈ t.columns := fun c hc =>
    hall c (List.mem_append_right _ hc)
  have hlen := columnNames_length obdcaps
  refine ⟨columnNames obdcaps, picked obdcaps,
    { named := readStatement_insert obdcaps
      fit := texts_fit obdcaps
      created := ⟨t, ht, hall⟩
      counted := createobdinsertstmt_eq obdcaps ⟨t, ht, hcols⟩
      filled := ?_
      matched := fun k hk => ?_
      stored := fun read obdstatus old bindings time trip hold hsample => ?_ }⟩
  · -- the list of commands has as many places as there are columns
    rw [fillCmdlist_eq, hlen]
    exact ⟨rfl, rfl⟩
  · -- the k-th command is that of the k-th column
    have hpicked := congrArg (·[k]?) (columnNames_picked obdcaps)
    simp only [List.getElem?_map, List.getElem?_eq_getElem hk, Option.map_some] at hpicked
    obtain ⟨i, hi, hcol⟩ := Option.map_eq_some_iff.mp hpicked
    obtain ⟨c, hc, hname⟩ := Option.map_eq_some_iff.mp hcol
    obtain ⟨row, hrow, hrc⟩ := Option.bind_eq_some_iff.mp hc
    exact ⟨i, row, hi, hrow, by rw [hrc, Option.map_some, hname, List.getElem?_eq_getElem hk]⟩
  · -- what was bound
    have hsuccess := sampleObd_bindings (fun k => read (cmdidAt (picked obdcaps) k))
      (columnNames obdcaps).length 0 obdstatus old (by rw [hsample]) (by omega)
    rw [hsample] at hsuccess
    obtain ⟨hblen, hbound⟩ := hsuccess
    have hn : bindings.length = (columnNames obdcaps).length := hblen.trans hold
    have hcell := fun {k c} => cell_obdInsert obdcaps hcols (obdParams bindings time trip) (k := k)
      (c := c)
    refine ⟨_, _, t.columns.map (cell (columnNames obdcaps ++ timeAndTrip)
      ((List.range ((columnNames obdcaps).length + 2)).map fun k =>
        obdParams bindings time trip (k + 1))),
      exec_obdInsert obdcaps ht hcols _, Database.set_self .., ?_, fun k c hc => ?_, ?_, ?_⟩
    · exact List.getLast?_concat ..
    · -- a value is bound to the parameter of its column
      have hk := (List.getElem?_eq_some_iff.mp hc).1
      refine (hcell (by rw [List.getElem?_append_left hk, hc])).trans ?_
      have hk' := hbound k
      rw [if_pos (by omega)] at hk'
      unfold obdParams
      rw [if_neg (by omega), if_neg (by omega), if_neg (by omega), Nat.add_sub_cancel, hk']
      rfl
    · -- the two parameters behind the values are the time and the trip
      refine (hcell (k := (columnNames obdcaps).length) (by simp [timeAndTrip])).trans ?_
      unfold obdParams
      rw [if_pos (by omega)]
    · refine (hcell (k := (columnNames obdcaps).length + 1) (by simp [timeAndTrip])).trans ?_
      unfold obdParams
      rw [if_neg (by omega), if_pos (by omega)]

/-- An older table, for speeds only, and a car that tells the rpm as well. -/
theorem obdTable_agrees_older : ∃ names cmdlist,
    Agrees [0x04, 0x0C, 0x0D] (Database.set (fun _ => none) obdTable
      (Table.empty ("vss".toList :: timeAndTrip))) names cmdlist :=
  obdTable_agrees [0x04, 0x0C, 0x0D]
    (Or.inr ⟨Table.empty ("vss".toList :: timeAndTrip), Database.set_self ..,
      fun _ hc => List.mem_cons_of_mem _ hc⟩)

end ObdGpsLogger.Logger
