import Mathlib.Algebra.BigOperators.Group.List.Basic
import Mathlib.Algebra.GroupWithZero.Nat
import Mathlib.Data.List.Forall2
import ObdGpsLogger.CLib.Text
import ObdGpsLogger.Sql.Quoted

/-!
# Reading a CSV file back

`FFTOBD::opencsv` of `src/analysis/fftwindow.fl`: the first line of a CSV file
names the columns of the table `obd`, and each line behind it is a row.

Lines are cut with `strtok`, which returns no empty token. So an empty field is
not there at all, and the fields behind it move up by one column, in the header
as in a row. `aligned_iff` says for which files everything is where it belongs.

Mirroring notes:
- The file is its text. It is there, and the database in memory can be made.
- The cells are the texts that are bound. SQLite stores a number where the text
  is one, as the column is `REAL`; this is the same for every cell.
- `insert_sql` holds 24 characters and two for each column, and always fits. It
  can be prepared when the table has as many columns as there are parameters.
- `none` is a write behind the end of `obd_create_sql`.
-/

namespace ObdGpsLogger.Analysis

open CLib Sql

/-! ## The code -/

/-- `delim`: the characters at which `strtok` cuts a line of the file. -/
def csvDelim (c : Char) : Bool := c == ',' || c == '\t' || c == '\n' || c == '\r'

/-- `oneitem`, an array of 64: a column of the statement, its name in quotes. -/
def oneitem (column : List Char) : List Char :=
  snprintf 64 ('"' :: (column ++ '"' :: " REAL".toList))

/-- The texts that are appended to `CREATE TABLE obd (`, one after the other:
each name in quotes, a comma between two of them, and the parenthesis. -/
def createPieces : List (List Char) → List (List Char)
  | [] => [[')']]
  | [c] => [oneitem c, [')']]
  | c :: d :: cs => oneitem c :: ", ".toList :: createPieces (d :: cs)

/-- `strncat(sql, piece, sizeof(sql) - strlen(sql))`, which puts a NUL behind
what it appends. -/
def catSql (size : Nat) (sql piece : List Char) : Option (List Char) :=
  if (strncat sql piece (size - sql.length)).length < size then
    some (strncat sql piece (size - sql.length))
  else none

/-- `obd_create_sql`, an array of 4096. `none`: a `strncat` has run over its
end. -/
def obdCreateSql (columns : List (List Char)) : Option (List Char) :=
  (createPieces columns).foldlM (catSql 4096) (createHead "obd".toList)

/-- The parameters of a statement; `none` is NULL. -/
abbrev RowBindings := List (Option (List Char))

/-- The tokens of a line are bound from `curr_col` on. A parameter that is not
there is not bound. -/
def bindTokens (curr_col : Nat) (stmt : RowBindings) : List (List Char) → RowBindings
  | [] => stmt
  | tok :: toks => bindTokens (curr_col + 1) (stmt.set (curr_col - 1) (some tok)) toks

/-- `sqlite3_clear_bindings`: all of the parameters are NULL again. -/
def clearBindings (stmt : RowBindings) : RowBindings := stmt.map fun _ => none

/-- The rows that are inserted for the lines. -/
def insertLines (stmt : RowBindings) : List (List Char) → List RowBindings
  | [] => []
  | line :: lines =>
    let bound := bindTokens 1 stmt (strtokAll csvDelim (cstr line))
    bound :: insertLines (clearBindings bound) lines

/-- What `opencsv` returns, and the table `obd` behind it. -/
structure Imported where
  ret : Nat
  columns : Option (List Name)
  rows : List RowBindings
  deriving DecidableEq, Repr

/-- `FFTOBD::opencsv`, on the whole of a file: the value returned and the table
it has made. `none`: an array was overrun. -/
def opencsv (text : List Char) : Option Imported :=
  match fgetsAll 4096 text with
  | [] => some ⟨1, none, []⟩
  | line :: lines =>
    let columns := (strtokAll csvDelim (cstr line)).take 128
    (obdCreateSql columns).map fun sql =>
      match createColumns "obd".toList sql with
      | none => ⟨1, none, []⟩
      | some names =>
        if names.length = columns.length then
          ⟨0, some names, insertLines (List.replicate columns.length none) lines⟩
        else ⟨1, some names, []⟩

/-! ## CSV files -/

/-- The text of a field: no separator and no end of a line is in it. -/
def FieldText (s : List Char) : Prop := ∀ c ∈ s, csvDelim c = false ∧ c ≠ nul

instance (s : List Char) : Decidable (FieldText s) :=
  List.decidableBAll (fun c => csvDelim c = false ∧ c ≠ nul) s

/-- The fields of a line and the separators between them, as they stand in a
file. -/
def fieldsText (first : List Char) (more : List (Char × List Char)) : List Char :=
  first ++ more.flatMap fun f => f.1 :: f.2

/-- A line of a CSV file: fields, the separators between them, an end of the
line, and no more of it than one `fgets` can read. -/
structure CsvLine where
  first : List Char
  more : List (Char × List Char)
  ending : List Char
  first_text : FieldText first
  more_text : ∀ f ∈ more, (f.1 = ',' ∨ f.1 = '\t') ∧ FieldText f.2
  ending_mem : ending ∈ [[], ['\n'], ['\r', '\n']]
  short : (fieldsText first more ++ ending).length < 4096

/-- The text of a line as it stands in the file, its end included. -/
def CsvLine.text (line : CsvLine) : List Char := fieldsText line.first line.more ++ line.ending

/-- The fields of a line, with those that are empty. -/
def CsvLine.fields (line : CsvLine) : List (List Char) := line.first :: line.more.map (·.2)

/-- A CSV file: only its last line can be without an end. -/
structure CsvFile where
  header : CsvLine
  rows : List CsvLine
  header_fields : header.fields.length ≤ 128
  lines_ne : ∀ line ∈ header :: rows, line.text ≠ []
  lines_end : ∀ line ∈ (header :: rows).dropLast, line.ending ≠ []

/-- The text of a whole file: the header, and a line for each row. -/
def CsvFile.text (csv : CsvFile) : List Char := (csv.header :: csv.rows).flatMap CsvLine.text

/-! ## What belongs where -/

/-- A field of a line; one that is not there is empty. -/
def fieldAt (fields : List (List Char)) (k : Nat) : List Char := fields.getD k []

/-- What the table should hold of field `k`: its text, or NULL where it is
empty. -/
def cellOf (fields : List (List Char)) (k : Nat) : Option (List Char) :=
  if fieldAt fields k = [] then none else some (fieldAt fields k)

/-- Each field of a line is stored in the column of the header at the same
place, as the number `atof` reads from it. -/
def StoredFrom (row : RowBindings) (line : CsvLine) : Prop :=
  ∀ k, row[k]?.join = cellOf line.fields k

/-- The table has the columns of the header, and each line of the file is a row
of it with each field in its column. -/
def Aligned (csv : CsvFile) : Prop :=
  ∃ rows, opencsv csv.text = some ⟨0, some csv.header.fields, rows⟩ ∧
    List.Forall₂ StoredFrom rows csv.rows

/-! ## Cutting a file into lines -/

/-- A character in front of the end of a line is a separator, or one of a field:
neither a delimiter nor a NUL. -/
theorem CsvLine.mem_fieldsText (line : CsvLine) {c : Char}
    (h : c ∈ fieldsText line.first line.more) :
    c = ',' ∨ c = '\t' ∨ csvDelim c = false ∧ c ≠ nul := by
  rcases List.mem_append.mp h with h | h
  · exact Or.inr (Or.inr (line.first_text c h))
  · obtain ⟨f, hf, hc⟩ := List.mem_flatMap.mp h
    obtain ⟨hsep, htext⟩ := line.more_text f hf
    rcases List.mem_cons.mp hc with rfl | hc
    · exact hsep.elim Or.inl fun h => Or.inr (Or.inl h)
    · exact Or.inr (Or.inr (htext c hc))

theorem CsvLine.ending_cases (line : CsvLine) :
    line.ending = [] ∨ line.ending = ['\n'] ∨ line.ending = ['\r', '\n'] := by
  simpa using line.ending_mem

/-- The fields and separators of a line have no newline in them: only its ending
can bring one. -/
theorem CsvLine.newline_not_mem (line : CsvLine) : '\n' ∉ fieldsText line.first line.more := by
  intro hmem
  rcases line.mem_fieldsText hmem with h | h | ⟨h, -⟩ <;> cases h

/-- A line of a CSV file has no NUL in it, so as a C string it is the whole
line. -/
theorem CsvLine.cstr_text (line : CsvLine) : cstr line.text = line.text := by
  refine cstr_eq_self fun hmem => ?_
  rcases List.mem_append.mp hmem with h | h
  · rcases line.mem_fieldsText h with h | h | ⟨-, h⟩
    · cases h
    · cases h
    · exact h rfl
  · rcases line.ending_cases with he | he | he
    all_goals
      rw [he] at h
      exact absurd h (by decide)

/-- A line with an end has its newline there and nowhere else. -/
theorem CsvLine.text_ended (line : CsvLine) (h : line.ending ≠ []) :
    ∃ body, line.text = body ++ ['\n'] ∧ '\n' ∉ body := by
  rcases line.ending_cases with he | he | he
  · exact absurd he h
  · exact ⟨_, by rw [CsvLine.text, he], line.newline_not_mem⟩
  · refine ⟨fieldsText line.first line.more ++ ['\r'], ?_, ?_⟩
    · rw [CsvLine.text, he, List.append_assoc]
      rfl
    · intro hmem
      rcases List.mem_append.mp hmem with hmem | hmem
      · exact line.newline_not_mem hmem
      · exact absurd hmem (by decide)

/-- **Each line is read** in one piece: it fits the buffer of `fgets`, and has
its newline at its end unless it is the last line. -/
theorem fgetsAll_csvLines : ∀ {lines : List CsvLine}, (∀ line ∈ lines, line.text ≠ []) →
    (∀ line ∈ lines.dropLast, line.ending ≠ []) →
    fgetsAll 4096 (lines.flatMap CsvLine.text) = lines.map CsvLine.text
  | [], _, _ => rfl
  | line :: lines, hne, hend => by
    have hshort : line.text.length < 4096 := line.short
    by_cases he : line.ending = []
    · -- only the last line
      cases lines with
      | cons next lines => exact absurd he (hend line (List.mem_cons_self ..))
      | nil =>
        have htext : '\n' ∉ line.text := by
          rw [CsvLine.text, he, List.append_nil]
          exact line.newline_not_mem
        rw [List.flatMap_cons, List.flatMap_nil, List.append_nil, fgetsAll,
          fgetsFrom_last 4096 htext (by omega), List.nil_append,
          if_neg (hne line (List.mem_cons_self ..))]
        rfl
    · obtain ⟨body, htext, hbody⟩ := line.text_ended he
      have hroom : body.length < 4096 - 1 := by
        rw [htext, List.length_append, List.length_singleton] at hshort
        omega
      have hend' : ∀ next ∈ lines.dropLast, next.ending ≠ [] := fun next h => by
        cases lines with
        | nil => cases h
        | cons second lines => exact hend next (List.mem_cons_of_mem _ h)
      have ih := fgetsAll_csvLines (fun next h => hne next (List.mem_cons_of_mem _ h)) hend'
      rw [List.flatMap_cons, htext, List.append_assoc, List.singleton_append, fgetsAll,
        fgetsFrom_line 4096 _ hbody hroom, ih, List.map_cons, htext]
      rfl

/-! ## Cutting a line into fields -/

/-- The fields of a line that are not empty, which are all that `strtok` finds. -/
def nonempty (fields : List (List Char)) : List (List Char) := fields.filter fun f => !f.isEmpty

/-- A field and the separator behind it: the field is the next token, unless it
is empty, and the separator is used up. -/
theorem strtokAll_field {t : List Char} {c : Char} (ht : ∀ d ∈ t, csvDelim d = false)
    (hc : csvDelim c = true) (s : List Char) :
    strtokAll csvDelim (t ++ c :: s) = nonempty [t] ++ strtokAll csvDelim s := by
  cases t with
  | nil => exact strtokAll_delim hc s
  | cons d t => exact strtokAll_token (List.cons_ne_nil d t) ht hc s

/-- The field at the end of a line, with the line's ending behind it, is the
last token, unless it is empty. -/
theorem strtokAll_lastField {t ending : List Char} (ht : ∀ d ∈ t, csvDelim d = false)
    (hend : ∀ d ∈ ending, csvDelim d = true) :
    strtokAll csvDelim (t ++ ending) = nonempty [t] := by
  cases ending with
  | nil =>
    rw [List.append_nil]
    cases t with
    | nil => rfl
    | cons d t => exact strtokAll_last (List.cons_ne_nil d t) ht
  | cons c ending =>
    have hrest : strtokAll csvDelim ending = [] := by
      have h := strtokAll_delims (fun d hd => hend d (List.mem_cons_of_mem c hd)) []
      rwa [List.append_nil] at h
    rw [strtokAll_field ht (hend c (List.mem_cons_self ..)), hrest, List.append_nil]

theorem strtokAll_fields {ending : List Char} (hend : ∀ d ∈ ending, csvDelim d = true) :
    ∀ {more : List (Char × List Char)} {first : List Char}, FieldText first →
      (∀ f ∈ more, (f.1 = ',' ∨ f.1 = '\t') ∧ FieldText f.2) →
      strtokAll csvDelim (fieldsText first more ++ ending) = nonempty (first :: more.map (·.2))
  | [], first, hfirst, _ => by
    rw [fieldsText, List.flatMap_nil, List.append_nil]
    exact strtokAll_lastField (fun d hd => (hfirst d hd).1) hend
  | (sep, next) :: more, first, hfirst, hmore => by
    obtain ⟨hsep, hnext⟩ := hmore (sep, next) (List.mem_cons_self ..)
    have hc : csvDelim sep = true := by
      rcases hsep with h | h <;> rw [show sep = _ from h] <;> rfl
    have ih := strtokAll_fields hend hnext fun f hf => hmore f (List.mem_cons_of_mem _ hf)
    have htext : fieldsText first ((sep, next) :: more) ++ ending =
        first ++ sep :: (fieldsText next more ++ ending) := by
      simp [fieldsText]
    rw [htext, strtokAll_field (fun d hd => (hfirst d hd).1) hc, ih]
    exact (List.filter_append [first] (next :: more.map (·.2))).symm

/-- **The tokens of a line** are its fields that are not empty. -/
theorem CsvLine.strtokAll_text (line : CsvLine) :
    strtokAll csvDelim (cstr line.text) = nonempty line.fields := by
  have hend : ∀ d ∈ line.ending, csvDelim d = true := by
    rcases line.ending_cases with he | he | he
    all_goals
      rw [he]
      exact List.all_eq_true.mp rfl
  rw [line.cstr_text]
  exact strtokAll_fields hend line.first_text line.more_text

/-! ## Binding the tokens -/

/-- Parameters in front of `curr_col` are left as they are. -/
theorem bindTokens_below {j k : Nat} (hk : k < j) : ∀ (toks : List (List Char)) (stmt : RowBindings),
    (bindTokens (j + 1) stmt toks)[k]? = stmt[k]?
  | [], _ => rfl
  | tok :: toks, stmt => by
    rw [bindTokens, bindTokens_below (Nat.lt_succ_of_lt hk) toks, Nat.add_sub_cancel,
      List.getElem?_set_ne (Nat.ne_of_gt hk)]

/-- The ones from there on are bound one behind the other, as far as there are any. -/
theorem bindTokens_at : ∀ (toks : List (List Char)) (stmt : RowBindings) (j i : Nat),
    (bindTokens (j + 1) stmt toks)[j + i]? = stmt[j + i]?.map fun old => toks[i]?.or old
  | [], stmt, j, i => by
    rw [bindTokens, List.getElem?_nil]
    simp
  | tok :: toks, stmt, j, 0 => by
    rw [bindTokens, Nat.add_sub_cancel]
    refine (bindTokens_below (Nat.lt_add_one j) toks (stmt.set j (some tok))).trans ?_
    rw [List.getElem?_set_self']
    rfl
  | tok :: toks, stmt, j, i + 1 => by
    have ih := bindTokens_at toks (stmt.set j (some tok)) (j + 1) i
    rw [bindTokens, Nat.add_sub_cancel, show j + (i + 1) = j + 1 + i by omega, ih,
      List.getElem?_set_ne (by omega), List.getElem?_cons_succ]

theorem bindTokens_length : ∀ (toks : List (List Char)) (curr_col : Nat) (stmt : RowBindings),
    (bindTokens curr_col stmt toks).length = stmt.length
  | [], _, _ => rfl
  | tok :: toks, curr_col, stmt => by
    rw [bindTokens, bindTokens_length toks, List.length_set]

/-- The row of a line whose statement has no values left from the line before. -/
def rowOf (n : Nat) (toks : List (List Char)) : RowBindings :=
  bindTokens 1 (List.replicate n none) toks

theorem rowOf_join (n : Nat) (toks : List (List Char)) (k : Nat) :
    (rowOf n toks)[k]?.join = if k < n then toks[k]? else none := by
  have h := bindTokens_at toks (List.replicate n none) 0 k
  simp only [Nat.zero_add] at h
  rw [rowOf, h, List.getElem?_replicate]
  split
  · simp
  · rfl

theorem clearBindings_rowOf (n : Nat) (toks : List (List Char)) :
    clearBindings (rowOf n toks) = List.replicate n none := by
  rw [clearBindings, List.map_const', rowOf, bindTokens_length, List.length_replicate]

/-- **The rows**: each line starts from parameters that are all NULL. -/
theorem insertLines_eq (n : Nat) : ∀ (lines : List (List Char)),
    insertLines (List.replicate n none) lines =
      lines.map fun line => rowOf n (strtokAll csvDelim (cstr line))
  | [] => rfl
  | line :: lines => by
    rw [insertLines, List.map_cons, ← insertLines_eq n lines]
    exact congrArg (fun stmt => rowOf n (strtokAll csvDelim (cstr line)) :: insertLines stmt lines)
      (clearBindings_rowOf n _)

/-! ## Which lines are stored as they are -/

/-- No text stands behind an empty field, or behind the last of `n` columns. -/
structure NoGap (n : Nat) (fields : List (List Char)) : Prop where
  step : ∀ k, fieldAt fields k = [] → fieldAt fields (k + 1) = []
  last : fieldAt fields n = []

theorem fieldAt_eq_nil {fields : List (List Char)}
    (h : ∀ k, fieldAt fields k = [] → fieldAt fields (k + 1) = []) {j : Nat}
    (hj : fieldAt fields j = []) {k : Nat} (hk : j ≤ k) : fieldAt fields k = [] := by
  induction hk with
  | refl => exact hj
  | step hk ih => exact h _ ih

theorem cellOf_eq_none {fields : List (List Char)} {k : Nat} :
    cellOf fields k = none ↔ fieldAt fields k = [] := by
  unfold cellOf
  split
  · next h => simp [h]
  · next h => simp [h]

/-- Where no field behind an empty one has text in it, dropping the empty fields
moves no other: field `k` is still the `k`-th. -/
theorem nonempty_getElem? : ∀ {fields : List (List Char)},
    (∀ k, fieldAt fields k = [] → fieldAt fields (k + 1) = []) →
    ∀ k, (nonempty fields)[k]? = cellOf fields k
  | [], _, _ => rfl
  | f :: fields, h, k => by
    by_cases hf : f = []
    · -- all the rest is empty
      have hall : ∀ k, fieldAt (f :: fields) k = [] := fun k =>
        fieldAt_eq_nil h (j := 0) hf (Nat.zero_le k)
      have hnil : nonempty (f :: fields) = [] := by
        refine List.filter_eq_nil_iff.mpr fun g hg => ?_
        obtain ⟨i, hi, rfl⟩ := List.mem_iff_getElem.mp hg
        have hi' := hall i
        rw [fieldAt, List.getD_eq_getElem?_getD, List.getElem?_eq_getElem hi] at hi'
        simpa using hi'
      rw [hnil, cellOf_eq_none.mpr (hall k)]
      rfl
    · have hcons : nonempty (f :: fields) = f :: nonempty fields :=
        List.filter_cons_of_pos (by simpa using hf)
      rw [hcons]
      cases k with
      | zero => exact (if_neg hf).symm
      | succ k => exact nonempty_getElem? (fun j => h (j + 1)) k

/-- **A line is stored as it is** when it has no gap, and only then. -/
theorem storedFrom_iff (n : Nat) (line : CsvLine) :
    StoredFrom (rowOf n (nonempty line.fields)) line ↔ NoGap n line.fields := by
  constructor
  · intro h
    have hcell : ∀ k, cellOf line.fields k =
        if k < n then (nonempty line.fields)[k]? else none := fun k => by
      rw [← h k, rowOf_join]
    refine ⟨fun k hk => ?_, ?_⟩
    · have hnone := hcell k
      rw [cellOf_eq_none.mpr hk] at hnone
      rw [← cellOf_eq_none, hcell (k + 1)]
      split
      · next hlt =>
        rw [if_pos (by omega)] at hnone
        have hlen := List.getElem?_eq_none_iff.mp hnone.symm
        exact List.getElem?_eq_none_iff.mpr (by omega)
      · rfl
    · rw [← cellOf_eq_none, hcell n, if_neg (Nat.lt_irrefl n)]
  · intro h k
    rw [rowOf_join, nonempty_getElem? h.step]
    split
    · rfl
    · next hk =>
      exact (cellOf_eq_none.mpr (fieldAt_eq_nil h.step h.last (Nat.le_of_not_lt hk))).symm

/-! ## The statement that makes the table -/

/-- The text of the statement where no part of it is cut off. -/
def createText (columns : List (List Char)) : List Char :=
  createHead "obd".toList ++ (createPieces columns).flatten

theorem foldlM_catSql {size : Nat} : ∀ (pieces : List (List Char)) {sql : List Char},
    sql.length < size → pieces.foldlM (catSql size) sql =
      if (sql ++ pieces.flatten).length < size then some (sql ++ pieces.flatten) else none
  | [], sql, h => by
    rw [List.flatten_nil, List.append_nil, if_pos h]
    rfl
  | piece :: pieces, sql, h => by
    rw [List.foldlM_cons, catSql, strncat, List.flatten_cons, ← List.append_assoc]
    by_cases hfit : sql.length + piece.length < size
    · rw [List.take_of_length_le (by omega), if_pos (by rw [List.length_append]; exact hfit)]
      exact foldlM_catSql pieces (by rw [List.length_append]; exact hfit)
    · -- the array is full, and the NUL goes behind it
      rw [if_neg (by rw [List.length_append, List.length_take]; omega),
        if_neg (by rw [List.length_append, List.length_append]; omega)]
      rfl

theorem obdCreateSql_eq (columns : List (List Char)) :
    obdCreateSql columns =
      if (createText columns).length < 4096 then some (createText columns) else none :=
  foldlM_catSql (createPieces columns) (by decide)

/-- The length of that statement: for each column at most 63 characters and a
separator of two, and 17 more. -/
def createLength (columns : List (List Char)) : Nat :=
  (columns.map fun c => min 63 (c.length + 7) + 2).sum + 17

theorem oneitem_length (c : List Char) : (oneitem c).length = min 63 (c.length + 7) := by
  rw [oneitem, snprintf, List.length_take, List.length_cons, List.length_append]
  rfl

theorem createPieces_length : ∀ {columns : List (List Char)}, columns ≠ [] →
    (createPieces columns).flatten.length + 1 =
      (columns.map fun c => min 63 (c.length + 7) + 2).sum
  | [], h => absurd rfl h
  | [c], _ => by
    simp [createPieces, oneitem_length]
  | c :: d :: cs, _ => by
    have ih := createPieces_length (List.cons_ne_nil d cs)
    have hsep : ", ".toList.length = 2 := rfl
    rw [createPieces, List.flatten_cons, List.flatten_cons, List.length_append, List.length_append,
      oneitem_length, hsep, List.map_cons, List.sum_cons, ← ih]
    omega

theorem createText_length {columns : List (List Char)} (h : columns ≠ []) :
    (createText columns).length = createLength columns := by
  have hlen := createPieces_length h
  have hhead : (createHead "obd".toList).length = 18 := rfl
  rw [createText, List.length_append, hhead, createLength, ← hlen]
  omega

/-! ## What is read from it -/

/-- A name that is the same in the statement. -/
structure PlainName (c : List Char) : Prop where
  no_quote : '"' ∉ c
  short : c.length ≤ 61

/-- An item whose name leaves room for the quote behind it. -/
theorem oneitem_short {c : List Char} (h : c.length ≤ 61) :
    ∃ words, (∀ d ∈ words, isTypeChar d = true) ∧
      ∀ t, oneitem c ++ t = '"' :: (c ++ '"' :: (words ++ t)) := by
  refine ⟨" REAL".toList.take (61 - c.length), fun d hd => ?_, fun t => ?_⟩
  · have hall : ∀ e ∈ " REAL".toList, isTypeChar e = true := List.all_eq_true.mp rfl
    exact hall d (List.mem_of_mem_take hd)
  · rw [oneitem, snprintf, List.take_succ_cons, List.take_append,
      List.take_of_length_le (by omega), show 62 - c.length = 61 - c.length + 1 by omega,
      List.take_succ_cons, List.cons_append, List.append_assoc, List.cons_append]

/-- A name of 62 characters or more leaves no room for the closing quote in the
buffer `oneitem`: the item is the opening quote and as much of the name as fits. -/
theorem oneitem_long {c : List Char} (h : 62 ≤ c.length) : oneitem c = '"' :: c.take 62 := by
  rw [oneitem, snprintf, List.take_succ_cons, List.take_append_of_le_length h]

/-- A column name that SQLite reads back from the text of `oneitem` is a plain
one: no quote in it, and short enough for the buffer. -/
theorem plainName_of_read {fuel : Nat} {c t : List Char} {names : List Name} (hcomma : ',' ∉ c)
    (ht : Separates t) (h : readColumns fuel (oneitem c ++ t) = some (c :: names)) :
    PlainName c := by
  by_cases hlen : c.length ≤ 61
  · obtain ⟨words, hwords, hitem⟩ := oneitem_short hlen
    rw [hitem] at h
    obtain ⟨rest, hread⟩ := readQuoted_of_readColumns h
    refine ⟨fun hquote => ?_, hlen⟩
    refine readQuoted_quote_ne hquote (fun hmem => ?_) ht hread
    exact absurd (hwords '"' hmem) (by decide)
  · rw [oneitem_long (by omega), List.cons_append] at h
    obtain ⟨rest, hread⟩ := readQuoted_of_readColumns h
    have hdrop : ',' ∉ c.drop 62 := fun hmem => hcomma (List.mem_of_mem_drop hmem)
    have hcut : some (c, rest) = some (c.take 62 ++ c.drop 62, rest) := by
      rw [List.take_append_drop]
    exact absurd (hread.trans hcut) (readQuoted_cut_ne hdrop ht)

theorem createPieces_quote : ∀ (d : List Char) (cs : List (List Char)),
    ∃ s, (createPieces (d :: cs)).flatten = '"' :: s
  | d, [] => ⟨_, by rw [createPieces, List.flatten_cons, oneitem, snprintf, List.take_succ_cons,
      List.cons_append]⟩
  | d, c :: cs => ⟨_, by rw [createPieces, List.flatten_cons, oneitem, snprintf,
      List.take_succ_cons, List.cons_append]⟩

/-- **The columns** are read as they were written when all names are plain, and
only then. -/
theorem readColumns_createPieces : ∀ {columns : List (List Char)} {fuel : Nat}, columns ≠ [] →
    columns.length ≤ fuel → (∀ c ∈ columns, ',' ∉ c) →
    (readColumns fuel (createPieces columns).flatten = some columns ↔
      ∀ c ∈ columns, PlainName c)
  | [], _, h, _, _ => absurd rfl h
  | [c], 0, _, hfuel, _ => absurd hfuel (by simp)
  | c :: d :: cs, 0, _, hfuel, _ => absurd hfuel (by simp)
  | [c], fuel + 1, _, _, hcomma => by
    have htext : (createPieces [c]).flatten = oneitem c ++ [')'] := by simp [createPieces]
    rw [htext]
    constructor
    · intro h e he
      rw [List.mem_singleton.mp he]
      exact plainName_of_read (hcomma c (List.mem_cons_self ..)) (Or.inr rfl) h
    · intro h
      have hplain := h c (List.mem_cons_self ..)
      obtain ⟨words, hwords, hitem⟩ := oneitem_short hplain.short
      rw [hitem]
      exact readColumns_last hplain.no_quote hwords fuel
  | c :: d :: cs, fuel + 1, _, hfuel, hcomma => by
    obtain ⟨s, hs⟩ := createPieces_quote d cs
    have htext : (createPieces (c :: d :: cs)).flatten = oneitem c ++ ',' :: ' ' :: '"' :: s := by
      rw [createPieces, List.flatten_cons, List.flatten_cons, hs]
      rfl
    have ih := readColumns_createPieces (List.cons_ne_nil d cs) (Nat.le_of_succ_le_succ hfuel)
      fun e he => hcomma e (List.mem_cons_of_mem c he)
    rw [hs] at ih
    -- where the first name is plain, the rest decides
    have hrest : PlainName c → readColumns (fuel + 1) (oneitem c ++ ',' :: ' ' :: '"' :: s) =
        (readColumns fuel ('"' :: s)).map (c :: ·) := by
      intro hplain
      obtain ⟨words, hwords, hitem⟩ := oneitem_short hplain.short
      rw [hitem]
      exact readColumns_cons hplain.no_quote hwords fuel s
    rw [htext]
    constructor
    · intro h
      have hplain := plainName_of_read (hcomma c (List.mem_cons_self ..)) (Or.inl rfl) h
      rw [hrest hplain] at h
      obtain ⟨names, hnames, hcons⟩ := Option.map_eq_some_iff.mp h
      rw [(List.cons.inj hcons).2] at hnames
      exact List.forall_mem_cons.mpr ⟨hplain, ih.mp hnames⟩
    · intro h
      obtain ⟨hplain, hmore⟩ := List.forall_mem_cons.mp h
      rw [hrest hplain, ih.mpr hmore]
      rfl

theorem createColumns_iff {columns : List (List Char)} (hne : columns ≠ [])
    (hcomma : ∀ c ∈ columns, ',' ∉ c) :
    createColumns "obd".toList (createText columns) = some columns ↔
      (∀ c ∈ columns, PlainName c) ∧ (columns.map lower).Nodup := by
  have hlen : columns.length ≤ (createText columns).length := by
    have hsum := List.length_le_sum_of_one_le
      (columns.map fun c => min 63 (c.length + 7) + 2) (by simp)
    rw [List.length_map] at hsum
    rw [createText_length hne, createLength]
    omega
  rw [createText] at hlen ⊢
  rw [createColumns_append, Option.filter_eq_some_iff, readColumns_createPieces hne hlen hcomma]
  simp

/-! ## Which files are read as they are -/

/-- A header that names the columns of the table: no name is empty, has a quote,
is longer than 61 characters or is there twice, and all together fit. -/
structure PlainHeader (columns : List (List Char)) : Prop where
  nonempty : ∀ c ∈ columns, c ≠ []
  plain : ∀ c ∈ columns, PlainName c
  distinct : (columns.map lower).Nodup
  fits : createLength columns < 4096

theorem nonempty_length_le (fields : List (List Char)) :
    (nonempty fields).length ≤ fields.length := List.length_filter_le ..

theorem nonempty_eq_self {fields : List (List Char)} :
    nonempty fields = fields ↔ ∀ c ∈ fields, c ≠ [] := by
  rw [nonempty, List.filter_eq_self]
  simp

theorem CsvLine.comma_not_mem (line : CsvLine) : ∀ c ∈ line.fields, ',' ∉ c := by
  have hno : ∀ s : List Char, FieldText s → ',' ∉ s := fun s h hmem => by
    have hdelim := (h ',' hmem).1
    cases hdelim
  intro c hc
  rcases List.mem_cons.mp hc with rfl | hc
  · exact hno _ line.first_text
  · obtain ⟨f, hf, rfl⟩ := List.mem_map.mp hc
    exact hno _ (line.more_text f hf).2

/-- What `opencsv` makes of a CSV file: the column names of its header without
the empty fields, and for each line behind it a row of the values `strtok` finds
in it. -/
theorem opencsv_text (csv : CsvFile) :
    opencsv csv.text = (obdCreateSql (nonempty csv.header.fields)).map fun sql =>
      match createColumns "obd".toList sql with
      | none => ⟨1, none, []⟩
      | some names =>
        if names.length = (nonempty csv.header.fields).length then
          ⟨0, some names, csv.rows.map fun line =>
            rowOf (nonempty csv.header.fields).length (nonempty line.fields)⟩
        else ⟨1, some names, []⟩ := by
  have hlines : fgetsAll 4096 csv.text = csv.header.text :: csv.rows.map CsvLine.text :=
    fgetsAll_csvLines csv.lines_ne csv.lines_end
  have hmax : (nonempty csv.header.fields).length ≤ 128 :=
    (nonempty_length_le _).trans csv.header_fields
  have hrows : ∀ n, insertLines (List.replicate n none) (csv.rows.map CsvLine.text) =
      csv.rows.map fun line => rowOf n (nonempty line.fields) := by
    intro n
    rw [insertLines_eq, List.map_map]
    exact List.map_congr_left fun line _ => congrArg (rowOf n) line.strtokAll_text
  rw [opencsv, hlines]
  dsimp only
  rw [csv.header.strtokAll_text, List.take_of_length_le hmax, hrows]

/-- **The header** becomes the columns of the table when it is plain, and only then. -/
theorem opencsv_header_iff (csv : CsvFile) (rows : List RowBindings) :
    opencsv csv.text = some ⟨0, some csv.header.fields, rows⟩ ↔
      PlainHeader csv.header.fields ∧
        rows = csv.rows.map fun line => rowOf csv.header.fields.length (nonempty line.fields) := by
  have hne : csv.header.fields ≠ [] := List.cons_ne_nil _ _
  have hcreate := createColumns_iff hne csv.header.comma_not_mem
  rw [opencsv_text]
  constructor
  · intro h
    obtain ⟨sql, hsql, hres⟩ := Option.map_eq_some_iff.mp h
    split at hres
    · cases hres
    · next names hnames =>
      split at hres
      · next hlen =>
        obtain ⟨-, hcols, hrows⟩ := Imported.mk.inj hres
        obtain rfl : names = csv.header.fields := Option.some.inj hcols
        -- no field of the header is lost, so none is empty
        have hself : nonempty csv.header.fields = csv.header.fields :=
          List.filter_sublist.eq_of_length hlen.symm
        rw [hself, obdCreateSql_eq, createText_length hne] at hsql
        split at hsql
        · next hfits =>
          rw [← Option.some.inj hsql] at hnames
          obtain ⟨hplain, hdistinct⟩ := hcreate.mp hnames
          rw [hself] at hrows
          exact ⟨⟨nonempty_eq_self.mp hself, hplain, hdistinct, hfits⟩, hrows.symm⟩
        · cases hsql
      · cases hres
  · rintro ⟨h, rfl⟩
    have hself := nonempty_eq_self.mpr h.nonempty
    have hfits : (createText csv.header.fields).length < 4096 := by
      rw [createText_length hne]
      exact h.fits
    rw [hself, obdCreateSql_eq, if_pos hfits, Option.map_some,
      hcreate.mpr ⟨h.plain, h.distinct⟩]
    simp

/-- **What a CSV file has to be like** for its columns to stay aligned: a plain
header, and lines without gaps. -/
theorem aligned_iff (csv : CsvFile) :
    Aligned csv ↔ PlainHeader csv.header.fields ∧
      ∀ line ∈ csv.rows, NoGap csv.header.fields.length line.fields := by
  have hrows : List.Forall₂ StoredFrom
      (csv.rows.map fun line => rowOf csv.header.fields.length (nonempty line.fields)) csv.rows ↔
      ∀ line ∈ csv.rows, NoGap csv.header.fields.length line.fields := by
    rw [List.forall₂_map_left_iff, List.forall₂_same]
    exact forall₂_congr fun line _ => storedFrom_iff _ line
  constructor
  · intro h
    obtain ⟨rows, hopen, hstored⟩ := h
    obtain ⟨hheader, rfl⟩ := (opencsv_header_iff csv rows).mp hopen
    exact ⟨hheader, hrows.mp hstored⟩
  · intro h
    obtain ⟨hheader, hlines⟩ := h
    exact ⟨_, (opencsv_header_iff csv _).mpr ⟨hheader, rfl⟩, hrows.mpr hlines⟩

/-- Two columns, and a line whose first field is empty. -/
def shiftedCsv : CsvFile where
  header := ⟨['a'], [(',', ['b'])], ['\n'], by decide, by decide, by decide, by decide⟩
  rows := [⟨[], [(',', ['2'])], ['\n'], by decide, by decide, by decide, by decide⟩]
  header_fields := by decide
  lines_ne := by decide
  lines_end := by decide

/-- The field of the second column is stored in the first. -/
theorem shiftedCsv_stored : shiftedCsv.text = "a,b\n,2\n".toList ∧
    opencsv shiftedCsv.text = some ⟨0, some [['a'], ['b']], [[some ['2'], none]]⟩ ∧
    ¬ Aligned shiftedCsv := by
  have hopen : opencsv shiftedCsv.text =
      some ⟨0, some [['a'], ['b']], [[some ['2'], none]]⟩ := by decide
  refine ⟨by decide, hopen, fun h => ?_⟩
  obtain ⟨rows, haligned, hstored⟩ := h
  rw [hopen] at haligned
  rw [← (Imported.mk.inj (Option.some.inj haligned)).2.2] at hstored
  obtain ⟨hrow, -⟩ := List.forall₂_cons.mp hstored
  have hcell : some ['2'] = cellOf [[], ['2']] 0 := hrow 0
  cases hcell

/-! ## The files of `savedata` -/

/-- The fields of the first line that `savedata` writes. -/
def savedataHeader (columns : List (List Char)) (columnchoice freq_min freq_max rad_min rad_max
    bendcurve : List Char) : List (List Char) :=
  columns ++ ["Original ".toList ++ columnchoice, "Filtered ".toList ++ columnchoice, [],
    "Frequency".toList, freq_min, freq_max, [], "Amplitude".toList, rad_min, rad_max, [],
    "Power".toList, bendcurve]

/-- **No file of its own** is read with its columns where they were: the header
has empty fields. -/
theorem savedata_not_aligned (csv : CsvFile) {columns : List (List Char)}
    {columnchoice freq_min freq_max rad_min rad_max bendcurve : List Char}
    (h : csv.header.fields =
      savedataHeader columns columnchoice freq_min freq_max rad_min rad_max bendcurve) :
    ¬ Aligned csv := by
  intro haligned
  obtain ⟨rows, hopen, -⟩ := haligned
  obtain ⟨hheader, -⟩ := (opencsv_header_iff csv rows).mp hopen
  have hmem : [] ∈ csv.header.fields := by
    rw [h, savedataHeader]
    simp
  exact hheader.nonempty [] hmem rfl

end ObdGpsLogger.Analysis
