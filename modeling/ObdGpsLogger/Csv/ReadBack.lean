import Mathlib.Algebra.Order.BigOperators.Group.List
import ObdGpsLogger.Analysis.FftCsv
import ObdGpsLogger.CLib.FloatText
import ObdGpsLogger.Csv.ObdGpsCsv

/-!
# The export, read back

`obd2csv` writes the names of the columns and the values of each line, with a
comma behind each; `FFTOBD::opencsv` makes a table of such a file.
`opencsv_csvText` is the way from the one to the other: whatever the lines are,
the table has the columns of the `SELECT`, and in every cell a text that is half a
millionth away from the exported number at most. The column is `REAL`, so what it
keeps of the text is rounded once more.

A value that is `NULL` is exported as 0, so nothing is empty, and no value moves
to another column.

Mirroring notes:
- The lines are what `sqlite3_column_double` returns for the rows of the
  `SELECT`. A `double` that is computed is exact.
- `sqlite3AtoF` of `libs/sqlite3/sqlite3.c` makes a number of a text in a `REAL`
  column. Of its digits the first 18 or 19 count, and it rounds to a double twice:
  this is what `RealColumn` says of it.
- `out_line` is put together like `select_sql`, in an array of the same size.
- The export is not compressed.
-/

namespace ObdGpsLogger.Csv

open CLib Sql Logger Analysis

/-! ## The file -/

/-- `columnnames`: the names above the columns of the export. -/
def columnnames (columns : List Name) : List (List Char) := firstColumns columns ++ [lastColumn]

/-- `out_item`, an array of 64: a field of a line and the comma behind it. -/
def outItem (s : List Char) : List Char := snprintf 64 (s ++ [','])

/-- `out_line`: the fields of a line, one after the other, and the end of the
line. -/
def outLine (items : List (List Char)) : List Char :=
  catSelect (items.foldl (fun out_line s => catSelect out_line (outItem s)) []) ['\n']

/-- The text of the exported file: a line of names, and a line for each row. -/
def csvText (columns : List Name) (lines : List (List Rat)) : List Char :=
  outLine (columnnames columns) ++ lines.flatMap fun line => outLine (line.map fmtF)

/-! ## A line -/

/-- The items of a line: they are short, and there are not many. -/
structure Exportable (items : List (List Char)) : Prop where
  ne_nil : items ≠ []
  few : items.length ≤ 92
  texts : ∀ s ∈ items, FieldText s ∧ s ≠ []
  short : ∀ s ∈ items, s.length ≤ 39

/-- The loop over items that are short and few. -/
theorem foldl_outItem : ∀ (items : List (List Char)) (line : List Char),
    (∀ s ∈ items, s.length ≤ 39) → line.length + 40 * items.length + 41 ≤ 4096 →
    items.foldl (fun out_line s => catSelect out_line (outItem s)) line =
        line ++ items.flatMap (· ++ [',']) ∧
      (line ++ items.flatMap (· ++ [','])).length ≤ line.length + 40 * items.length
  | [], line, _, _ => ⟨(List.append_nil _).symm, by simp⟩
  | s :: items, line, hshort, hroom => by
    have hs := hshort s (List.mem_cons_self ..)
    rw [List.length_cons] at hroom
    have hlen : (s ++ [',']).length = s.length + 1 := List.length_append
    have hitem : outItem s = s ++ [','] := snprintf_eq_self (by omega)
    have hstep : catSelect line (outItem s) = line ++ (s ++ [',']) := by
      rw [hitem, catSelect_eq (by omega)]
    obtain ⟨heq, hle⟩ := foldl_outItem items (line ++ (s ++ [',']))
      (fun s hs => hshort s (List.mem_cons_of_mem _ hs)) (by rw [List.length_append]; omega)
    rw [List.append_assoc, ← List.flatMap_cons (f := (· ++ [',']))] at heq hle
    rw [List.foldl_cons, hstep]
    refine ⟨heq, hle.trans ?_⟩
    rw [List.length_append, List.length_cons]
    omega

theorem outLine_eq {items : List (List Char)} (h : Exportable items) :
    outLine items = items.flatMap (· ++ [',']) ++ ['\n'] := by
  have hfew := h.few
  obtain ⟨heq, hlen⟩ := foldl_outItem items [] h.short (by rw [List.length_nil]; omega)
  rw [List.nil_append, List.length_nil] at hlen
  rw [outLine, heq, List.nil_append, catSelect_eq]
  exact (Nat.add_le_add_right hlen 3).trans (by omega)

/-- A line with a comma behind each of its items is a line of fields of which
the last is empty. -/
theorem flatMap_fieldsText : ∀ (first : List Char) (more : List (List Char)),
    (first :: more).flatMap (· ++ [',']) =
      fieldsText first (more.map (',', ·) ++ [(',', [])])
  | first, [] => by simp [fieldsText]
  | first, s :: more => by
    have ih := flatMap_fieldsText s more
    rw [List.flatMap_cons, ih]
    simp [fieldsText]

/-- **A line of the export** is a line of a CSV file, whose last field is
empty. -/
theorem csvLine_of_exportable {items : List (List Char)} (h : Exportable items) :
    ∃ line : CsvLine, line.text = outLine items ∧ nonempty line.fields = items ∧
      line.fields.length = items.length + 1 ∧ line.ending = ['\n'] := by
  have hfew := h.few
  obtain ⟨-, hlen⟩ := foldl_outItem items [] h.short (by rw [List.length_nil]; omega)
  rw [List.nil_append, List.length_nil] at hlen
  obtain ⟨first, more, rfl⟩ := List.exists_cons_of_ne_nil h.ne_nil
  have hline : outLine (first :: more) =
      fieldsText first (more.map (',', ·) ++ [(',', [])]) ++ ['\n'] := by
    rw [outLine_eq h, flatMap_fieldsText]
  -- the comma behind the last item makes an empty field of what follows
  obtain ⟨line, hfirst, hmore, hend⟩ : ∃ line : CsvLine, line.first = first ∧
      line.more = more.map (',', ·) ++ [(',', [])] ∧ line.ending = ['\n'] := by
    refine ⟨⟨first, more.map (',', ·) ++ [(',', [])], ['\n'],
      (h.texts first (List.mem_cons_self ..)).1, fun f hf => ?_, by decide, ?_⟩, rfl, rfl, rfl⟩
    · rcases List.mem_append.mp hf with hf | hf
      · obtain ⟨s, hs, rfl⟩ := List.mem_map.mp hf
        exact ⟨Or.inl rfl, (h.texts s (List.mem_cons_of_mem _ hs)).1⟩
      · obtain rfl := List.mem_singleton.mp hf
        exact ⟨Or.inl rfl, nofun⟩
    · rw [← flatMap_fieldsText, List.length_append, List.length_singleton]
      omega
  have hfields : line.fields = (first :: more) ++ [[]] := by
    rw [CsvLine.fields, hfirst, hmore, List.map_append, List.map_map]
    simp [Function.comp_def]
  refine ⟨line, by rw [CsvLine.text, hfirst, hmore, hend, hline], ?_, ?_, hend⟩
  · have hitems : nonempty (first :: more) = first :: more :=
      nonempty_eq_self.mpr fun s hs => (h.texts s hs).2
    rw [hfields, nonempty, List.filter_append]
    show nonempty (first :: more) ++ [] = _
    rw [hitems, List.append_nil]
  · rw [hfields, List.length_append, List.length_singleton]

/-- Exportable items, line by line, are written as the lines of a CSV file whose
fields are these items. -/
theorem csvLines_of_exportable : ∀ {itemss : List (List (List Char))},
    (∀ items ∈ itemss, Exportable items) →
    ∃ lines : List CsvLine, lines.map CsvLine.text = itemss.map outLine ∧
      lines.map (fun line => nonempty line.fields) = itemss ∧
      ∀ line ∈ lines, line.ending = ['\n']
  | [], _ => ⟨[], rfl, rfl, nofun⟩
  | items :: itemss, h => by
    obtain ⟨line, htext, hfields, -, hend⟩ :=
      csvLine_of_exportable (h items (List.mem_cons_self ..))
    obtain ⟨lines, htexts, hfieldss, hends⟩ := csvLines_of_exportable fun items hi =>
      h items (List.mem_cons_of_mem _ hi)
    refine ⟨line :: lines, ?_, ?_, List.forall_mem_cons.mpr ⟨hend, hends⟩⟩
    · rw [List.map_cons, List.map_cons, htext, htexts]
    · rw [List.map_cons, hfields, hfieldss]

/-! ## The names -/

section Names

variable {columns : List Name}

/-- The column names of the PID table are in lower case, without a quote, and
are fields of a line as they stand. -/
theorem allColumns_plain {c : Name} (h : c ∈ allColumns) :
    lower c = c ∧ '"' ∉ c ∧ FieldText c := by
  have hall : allColumns.all (fun c => lower c == c && !c.contains '"' && decide (FieldText c)) =
      true := by
    decide +kernel
  have hc := List.all_eq_true.mp hall c h
  simp only [Bool.and_eq_true, beq_iff_eq, Bool.not_eq_true', decide_eq_true_eq] at hc
  refine ⟨hc.1.1, fun hmem => ?_, hc.2⟩
  rw [← List.contains_iff_mem, hc.1.2] at hmem
  cases hmem

/-- The names that do not come from the table. -/
def otherNames : List (List Char) :=
  ["(7.107*obd.vss/obd.maf) as mpg".toList, "gps.lon".toList, "gps.lat".toList, "gps.alt".toList,
    lastColumn]

/-- The columns of the table, and some of the others. -/
theorem columnnames_eq (h : ObdColumns columns) : ∃ others, others.Sublist otherNames ∧
    columnnames columns = columns.map ("obd.".toList ++ ·) ++ others := by
  have hobd : columns.map obdcolumn = columns.map ("obd.".toList ++ ·) :=
    List.map_congr_left fun c hc => obdcolumn_eq (h.known c hc)
  unfold columnnames firstColumns
  rw [hobd]
  split
  · exact ⟨otherNames, List.Sublist.refl _, by simp [otherNames]⟩
  · exact ⟨otherNames.tail, List.tail_sublist _, by simp [otherNames]⟩

theorem columnnames_length (h : ObdColumns columns) :
    (∀ s ∈ columnnames columns, s.length ≤ 30) ∧ (columnnames columns).length ≤ 92 := by
  obtain ⟨hshort, hfew⟩ := firstColumns_fit h
  refine ⟨fun s hs => ?_, ?_⟩
  · rcases List.mem_append.mp hs with hs | hs
    · exact hshort s hs
    · rw [List.mem_singleton.mp hs]
      decide
  · rw [columnnames, List.length_append, List.length_singleton]
    omega

theorem columnnames_text (h : ObdColumns columns) :
    ∀ s ∈ columnnames columns, FieldText s ∧ s ≠ [] ∧ '"' ∉ s := by
  have hothers : ∀ s ∈ otherNames, FieldText s ∧ s ≠ [] ∧ '"' ∉ s := by decide
  have hobd : FieldText "obd.".toList ∧ '"' ∉ "obd.".toList := by decide
  obtain ⟨others, hsub, heq⟩ := columnnames_eq h
  intro s hs
  rw [heq] at hs
  rcases List.mem_append.mp hs with hs | hs
  · obtain ⟨c, hc, rfl⟩ := List.mem_map.mp hs
    obtain ⟨-, hquote, htext⟩ := allColumns_plain (h.known c hc)
    refine ⟨fun d hd => (List.mem_append.mp hd).elim (hobd.1 d) (htext d), by simp, fun hd => ?_⟩
    exact (List.mem_append.mp hd).elim hobd.2 hquote
  · exact hothers s (hsub.subset hs)

/-- No two column names of an export are the same name to SQLite, which does not
look at the case of letters. -/
theorem columnnames_distinct (h : ObdColumns columns) :
    ((columnnames columns).map lower).Nodup := by
  obtain ⟨others, hsub, heq⟩ := columnnames_eq h
  have hlower : (columns.map ("obd.".toList ++ ·)).map lower =
      columns.map ("obd.".toList ++ ·) := by
    rw [List.map_map]
    refine List.map_congr_left fun c hc => ?_
    show lower ("obd.".toList ++ c) = _
    rw [lower, List.map_append]
    exact congrArg ("obd.".toList ++ ·) (allColumns_plain (h.known c hc)).1
  have hothers : (otherNames.map lower).Nodup := by decide
  rw [heq, List.map_append, hlower]
  refine List.nodup_append.mpr ⟨h.nodup.map fun _ _ he => List.append_cancel_left he,
    hothers.sublist (hsub.map lower), fun s hs d hd he => ?_⟩
  -- the others begin differently
  have hfirst : ∀ d ∈ otherNames.map lower, d.take 4 ≠ "obd.".toList := by decide
  obtain ⟨c, -, rfl⟩ := List.mem_map.mp hs
  refine hfirst d ((hsub.map lower).subset hd) ?_
  rw [← he]
  rfl

/-- The column names of an export become the columns of the table that `opencsv`
creates for its header. -/
theorem columnnames_plain (h : ObdColumns columns) : PlainHeader (columnnames columns) where
  nonempty := fun s hs => (columnnames_text h s hs).2.1
  plain := fun s hs => ⟨(columnnames_text h s hs).2.2,
    ((columnnames_length h).1 s hs).trans (by decide)⟩
  distinct := columnnames_distinct h
  fits := by
    obtain ⟨hshort, hfew⟩ := columnnames_length h
    have hsum : ((columnnames columns).map fun c => min 63 (c.length + 7) + 2).sum ≤
        ((columnnames columns).map fun c => min 63 (c.length + 7) + 2).length • 39 := by
      refine List.sum_le_card_nsmul _ _ fun n hn => ?_
      obtain ⟨c, hc, rfl⟩ := List.mem_map.mp hn
      have := hshort c hc
      omega
    rw [List.length_map, Nat.nsmul_eq_mul] at hsum
    unfold createLength
    omega

theorem columnnames_exportable (h : ObdColumns columns) : Exportable (columnnames columns) where
  ne_nil := by simp [columnnames]
  few := (columnnames_length h).2
  texts := fun s hs => ⟨(columnnames_text h s hs).1, (columnnames_text h s hs).2.1⟩
  short := fun s hs => ((columnnames_length h).1 s hs).trans (by decide)

end Names

/-! ## The values -/

theorem fmtF_fieldText (x : Rat) : FieldText (fmtF x) := by
  intro c hc
  rcases mem_fmtF hc with rfl | rfl | hdigit
  · decide
  · decide
  · constructor
    · cases hd : csvDelim c with
      | false => rfl
      | true =>
        have hcases : c = ',' ∨ c = '\t' ∨ c = '\n' ∨ c = '\r' := by
          simpa [csvDelim, or_assoc] using hd
        rcases hcases with rfl | rfl | rfl | rfl <;> exact absurd hdigit (by decide)
    · rintro rfl
      exact absurd hdigit (by decide)

/-- A line with as many values as there are columns. -/
theorem values_exportable {n : Nat} (hpos : 0 < n) (hfew : n ≤ 92) {line : List Rat}
    (hwidth : line.length = n) (hvalues : ∀ v ∈ line, |v| < 10 ^ 30) :
    Exportable (line.map fmtF) where
  ne_nil := by
    intro hnil
    rw [List.map_eq_nil_iff.mp hnil] at hwidth
    exact absurd hwidth (by rw [List.length_nil]; omega)
  few := by rw [List.length_map]; omega
  texts := fun s hs => by
    obtain ⟨v, -, rfl⟩ := List.mem_map.mp hs
    exact ⟨fmtF_fieldText v, fmtF_ne_nil v⟩
  short := fun s hs => by
    obtain ⟨v, hv, rfl⟩ := List.mem_map.mp hs
    exact fmtF_length_le (hvalues v hv)

/-- As many tokens as there are parameters are all bound. -/
theorem rowOf_full (toks : List (List Char)) : rowOf toks.length toks = toks.map some := by
  have hlen : (rowOf toks.length toks).length = toks.length := by
    rw [rowOf, bindTokens_length, List.length_replicate]
  refine List.ext_getElem (by rw [hlen, List.length_map]) fun k hk hk' => ?_
  have hk₂ : k < toks.length := hlen ▸ hk
  have hjoin := rowOf_join toks.length toks k
  rw [if_pos hk₂, List.getElem?_eq_getElem hk, List.getElem?_eq_getElem hk₂] at hjoin
  rw [List.getElem_map]
  exact hjoin

/-! ## There and back -/

/-- What a `REAL` column keeps of a decimal with six digits behind the point: the
number, with a relative error of at most four units of rounding. -/
structure RealColumn where
  keep : Rat → Rat
  near : ∀ n : Int, |n| ≤ 10 ^ 36 →
    |keep (n / 10 ^ 6) - n / 10 ^ 6| ≤ |(n : Rat) / 10 ^ 6| / 2 ^ 51

theorem double_near (n : Int) (_ : |n| ≤ 10 ^ 36) :
    |double (n / 10 ^ 6) - n / 10 ^ 6| ≤ |(n : Rat) / 10 ^ 6| / 2 ^ 51 := by
  by_cases hn : (n : Rat) / 10 ^ 6 = 0
  · rw [hn]
    decide +kernel
  · refine (abs_double_sub_le hn).trans ?_
    exact div_le_div_of_nonneg_left (abs_nonneg _) (by norm_num) (by norm_num)

/-- The column in which the nearest double is kept. -/
def doubleColumn : RealColumn := ⟨double, double_near⟩

/-- The cell has a text for the value, up to half a millionth, and what the column
keeps of the text is off by its rounding too. -/
def Holds (real : RealColumn) (v : Rat) (cell : Option (List Char)) : Prop :=
  ∃ s w, cell = some s ∧ readF s = some w ∧ |w - v| ≤ 1 / 2 / 10 ^ 6 ∧
    |real.keep w - v| ≤ 1 / 2 / 10 ^ 6 + (|v| + 1) / 2 ^ 51

theorem holds_fmtF (real : RealColumn) {v : Rat} (hv : |v| ≤ 10 ^ 30) :
    Holds real v (some (fmtF v)) := by
  have hprinted := abs_millionths_sub_le v
  obtain ⟨n, hn, hlt⟩ := millionths_eq hv
  have hkept := real.near n hlt
  rw [← hn] at hkept
  have habs : |millionths v| ≤ |v| + 1 := by
    have h := abs_sub_abs_le_abs_sub (millionths v) v
    linarith
  refine ⟨fmtF v, millionths v, rfl, readF_fmtF v, hprinted, ?_⟩
  calc |real.keep (millionths v) - v|
      ≤ |real.keep (millionths v) - millionths v| + |millionths v - v| := abs_sub_le ..
    _ ≤ (|v| + 1) / 2 ^ 51 + 1 / 2 / 10 ^ 6 :=
        add_le_add (hkept.trans (div_le_div_of_nonneg_right habs (by positivity))) hprinted
    _ = 1 / 2 / 10 ^ 6 + (|v| + 1) / 2 ^ 51 := add_comm ..

/-- What `opencsv` makes of lines of values under a plain header. -/
theorem opencsv_outLines (real : RealColumn) {names : List (List Char)} (hnames : Exportable names)
    (hplain : PlainHeader names) {lines : List (List Rat)}
    (hwidth : ∀ line ∈ lines, line.length = names.length)
    (hvalues : ∀ line ∈ lines, ∀ v ∈ line, |v| < 10 ^ 30) :
    ∃ rows, opencsv (outLine names ++ lines.flatMap fun line => outLine (line.map fmtF)) =
        some ⟨0, some names, rows⟩ ∧
      List.Forall₂ (List.Forall₂ (Holds real)) lines rows := by
  obtain ⟨header, hheader, hfields, hcount, hend⟩ := csvLine_of_exportable hnames
  have hfew := hnames.few
  have hpos : 0 < names.length := List.length_pos_of_ne_nil hnames.ne_nil
  have hexportable : ∀ items ∈ lines.map (·.map fmtF), Exportable items := fun items hitems => by
    obtain ⟨line, hline, rfl⟩ := List.mem_map.mp hitems
    exact values_exportable hpos hfew (hwidth line hline) (hvalues line hline)
  obtain ⟨rows, htexts, hfieldss, hends⟩ := csvLines_of_exportable hexportable
  have hlines : ∀ line ∈ header :: rows, line.ending = ['\n'] :=
    List.forall_mem_cons.mpr ⟨hend, hends⟩
  have hcsv : ∀ line ∈ header :: rows, line.text ≠ [] := fun line hline => by
    rw [CsvLine.text, hlines line hline]
    simp
  -- the file
  obtain ⟨csv, hcheader, hcrows⟩ : ∃ csv : CsvFile, csv.header = header ∧ csv.rows = rows :=
    ⟨⟨header, rows, by omega, hcsv, fun line hline => by
      rw [hlines line (List.mem_of_mem_dropLast hline)]
      simp⟩, rfl, rfl⟩
  have htext : csv.text = outLine names ++ lines.flatMap fun line => outLine (line.map fmtF) := by
    rw [CsvFile.text, hcheader, hcrows, List.flatMap_cons, hheader, List.flatMap_def, htexts,
      List.map_map, List.flatMap_def]
    rfl
  have hcomma : ∀ c ∈ names, ',' ∉ c := fun c hc hmem =>
    absurd ((hnames.texts c hc).1 ',' hmem).1 (by decide)
  have hfits : (createText names).length < 4096 := by
    rw [createText_length hnames.ne_nil]
    exact hplain.fits
  have hopen := opencsv_text csv
  rw [htext, hcheader, hcrows, hfields, obdCreateSql_eq, if_pos hfits, Option.map_some,
    (createColumns_iff hnames.ne_nil hcomma).mpr ⟨hplain.plain, hplain.distinct⟩] at hopen
  dsimp only at hopen
  rw [if_pos rfl] at hopen
  refine ⟨_, hopen, ?_⟩
  -- the rows are the fields of the lines
  have hrows : rows.map (fun line => rowOf names.length (nonempty line.fields)) =
      lines.map fun line => line.map fun v => some (fmtF v) := by
    have hmap := congrArg (List.map (rowOf names.length)) hfieldss
    rw [List.map_map, List.map_map] at hmap
    refine hmap.trans (List.map_congr_left fun line hline => ?_)
    show rowOf _ (line.map fmtF) = _
    have hlen : names.length = (line.map fmtF).length := by
      rw [List.length_map, hwidth line hline]
    rw [hlen, rowOf_full, List.map_map]
    rfl
  rw [hrows, List.forall₂_map_right_iff, List.forall₂_same]
  intro line hline
  rw [List.forall₂_map_right_iff, List.forall₂_same]
  exact fun v hv => holds_fmtF real (hvalues line hline v hv).le

/-- **The export, read back.** For any columns that `createobdtable` makes, and any
lines of that width whose values are below 10³⁰: `opencsv` makes a table with the
columns of the `SELECT`, with one row for each line, and in each cell the value
up to half a millionth and the rounding of a `REAL`. -/
theorem opencsv_csvText (real : RealColumn) {columns : List Name} (h : ObdColumns columns)
    {lines : List (List Rat)}
    (hwidth : ∀ line ∈ lines, line.length = (columnnames columns).length)
    (hvalues : ∀ line ∈ lines, ∀ v ∈ line, |v| < 10 ^ 30) :
    ∃ rows, opencsv (csvText columns lines) = some ⟨0, some (columnnames columns), rows⟩ ∧
      List.Forall₂ (List.Forall₂ (Holds real)) lines rows :=
  opencsv_outLines real (columnnames_exportable h) (columnnames_plain h) hwidth hvalues

/-- Two lines of a log that only knows the speed; the second has no position. -/
def speedLines : List (List Rat) :=
  [[88, 1262304000.25, 1, 0, -117.16, 32.72, 20, 1], [1 / 3, 1262304001, 1, 0, 0, 0, 0, 1]]

theorem opencsv_csvText_speed : ∃ rows,
    opencsv (csvText (newColumns [0x0D]) speedLines) =
      some ⟨0, some (columnnames (newColumns [0x0D])), rows⟩ ∧
    List.Forall₂ (List.Forall₂ (Holds doubleColumn)) speedLines rows := by
  have hcount : (columnnames (newColumns [0x0D])).length = 8 := by decide +kernel
  have hvalues : ∀ line ∈ speedLines, line.length = 8 ∧ ∀ v ∈ line, |v| < 10 ^ 30 := by
    decide +kernel
  exact opencsv_csvText doubleColumn (newColumns_ok [0x0D])
    (fun line hline => (hvalues line hline).1.trans hcount.symm) fun line hline =>
      (hvalues line hline).2

end ObdGpsLogger.Csv
