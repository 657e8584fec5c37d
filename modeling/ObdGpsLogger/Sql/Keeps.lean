import Mathlib.Data.List.Forall2
import ObdGpsLogger.Sql.Table

/-!
# What a change to a table leaves alone

A table that is repaired, or brought up to date, gets more columns, and some of
its cells get other values. `Keeps` says that nothing else happens to it: its
rows are still there, in their order, with the cells they had, but for those of
an exception. `Database.Keeps` says it of all tables.

No program is mentioned in this file.
-/

namespace ObdGpsLogger.Sql

variable {V : Type}

/-- Setting the cell of one column leaves the cells of the other columns of the
row as they are. -/
theorem cell_set_ne {columns : List Name} (row : List (Option V)) {c d : Name}
    (hd : d ∈ columns) (hne : d ≠ c) (v : Option V) :
    cell columns (row.set (columns.idxOf c) v) d = cell columns row d := by
  have hidx : columns.idxOf c ≠ columns.idxOf d := by
    intro h
    have hlt := List.idxOf_lt_length_iff.mpr hd
    have hc : columns[columns.idxOf d] = c := by
      have hlt' : columns.idxOf c < columns.length := h ▸ hlt
      simp only [← h, List.getElem_idxOf hlt']
    exact hne ((List.getElem_idxOf hlt).symm.trans hc)
  unfold cell
  rw [List.getElem?_set_ne hidx]

namespace Table

/-- One more column, with one value in all rows. -/
def addColumnDefault (t : Table V) (c : Name) (v : Option V) : Table V where
  columns := t.columns ++ [c]
  rows := t.rows.map (· ++ [v])
  width := by
    intro r hr
    obtain ⟨r, hr', rfl⟩ := List.mem_map.mp hr
    simp [t.width r hr']

/-- The rows of `t` are still there, and so are their cells, but for those for
which `ex` holds. -/
structure Keeps (ex : Name → List (Option V) → Prop) (t t' : Table V) : Prop where
  columns : t.columns <+: t'.columns
  rows : List.Forall₂ (fun r r' => ∀ c ∈ t.columns,
    ex c r ∨ cell t'.columns r' c = cell t.columns r c) t.rows t'.rows

variable {ex : Name → List (Option V) → Prop} {t t₁ t₂ : Table V}

theorem Keeps.refl (ex : Name → List (Option V) → Prop) (t : Table V) : Keeps ex t t :=
  ⟨List.prefix_refl _, List.forall₂_same.mpr fun _ _ _ _ => Or.inr rfl⟩

theorem Keeps.mono {ex' : Name → List (Option V) → Prop} (h : Keeps ex t t₁)
    (himp : ∀ c r, ex c r → ex' c r) : Keeps ex' t t₁ :=
  ⟨h.columns, h.rows.imp fun r _ hcells c hc => (hcells c hc).imp_left (himp c r)⟩

/-- A change that leaves alone what was there can follow another one. -/
theorem Keeps.trans (h : Keeps ex t t₁) (h' : Keeps (fun _ _ => False) t₁ t₂) : Keeps ex t t₂ := by
  refine ⟨h.columns.trans h'.columns, ?_⟩
  have hlen := h.rows.length_eq
  have hlen' := h'.rows.length_eq
  refine List.forall₂_iff_get.mpr ⟨hlen.trans hlen', fun i hi hi' c hc => ?_⟩
  have hfirst := h.rows.get hi (hlen ▸ hi) c hc
  have hthen := (h'.rows.get (hlen ▸ hi) hi' c (h.columns.subset hc)).resolve_left fun h => h
  exact hfirst.imp_right hthen.trans

/-- Adding one more column to a table, with a default for the rows that are
there, keeps all cells of the table. -/
theorem keeps_addColumnDefault (ex : Name → List (Option V) → Prop) (t : Table V) (c : Name)
    (v : Option V) : Keeps ex t (t.addColumnDefault c v) := by
  refine ⟨List.prefix_append _ _, ?_⟩
  show List.Forall₂ _ t.rows (t.rows.map _)
  refine List.forall₂_map_right_iff.mpr (List.forall₂_same.mpr fun r hr d hd => Or.inr ?_)
  exact cell_append_left (t.width r hr) hd

/-- Setting a column which was added later changes no cell of the columns that
were there before. -/
theorem Keeps.update (h : Keeps ex t t₁) {c : Name} (hc : c ∉ t.columns) (v : Option V)
    (p : List (Option V) → Bool) : Keeps ex t (t₁.update c v p) := by
  refine ⟨h.columns, ?_⟩
  show List.Forall₂ _ t.rows (t₁.rows.map _)
  refine List.forall₂_map_right_iff.mpr (h.rows.imp fun r r' hcells d hd => ?_)
  refine (hcells d hd).imp_right fun heq => ?_
  show cell t₁.columns _ d = _
  split
  · rw [cell_set_ne r' (h.columns.subset hd) (fun hdc : d = c => hc (hdc ▸ hd)), heq]
  · exact heq

/-- A column that was there is set in some rows. -/
theorem keeps_updateEach (t : Table V) (c : Name) (v : List (Option V) → Option V)
    (p : List (Option V) → Bool) :
    Keeps (fun d r => d = c ∧ p r = true) t (t.updateEach c v p) := by
  refine ⟨List.prefix_refl _, ?_⟩
  show List.Forall₂ _ t.rows (t.rows.map _)
  refine List.forall₂_map_right_iff.mpr (List.forall₂_same.mpr fun r _ d hd => ?_)
  show _ ∨ cell t.columns _ d = _
  by_cases hp : p r = true
  · by_cases hdc : d = c
    · exact Or.inl ⟨hdc, hp⟩
    · rw [if_pos hp]
      exact Or.inr (cell_set_ne r hd hdc _)
  · rw [if_neg hp]
    exact Or.inr rfl

/-- Setting a column twice, to what the other columns give, is setting it
once. -/
theorem updateEach_updateEach (t : Table V) (c : Name) {v v' : List (Option V) → Option V}
    {p : List (Option V) → Bool}
    (hv : ∀ r ∈ t.rows, p r = true → v' (r.set (t.columns.idxOf c) (v r)) = v r) :
    (t.updateEach c v p).updateEach c v' p = t.updateEach c v p := by
  ext1
  · rfl
  · show (t.rows.map _).map _ = t.rows.map _
    rw [List.map_map]
    refine List.map_congr_left fun r hr => ?_
    show (if p (if p r then r.set (t.columns.idxOf c) (v r) else r)
        then (if p r then r.set (t.columns.idxOf c) (v r) else r).set (t.columns.idxOf c)
          (v' (if p r then r.set (t.columns.idxOf c) (v r) else r))
        else if p r then r.set (t.columns.idxOf c) (v r) else r) =
      if p r then r.set (t.columns.idxOf c) (v r) else r
    by_cases hp : p r = true
    · rw [if_pos hp, hv r hr hp, List.set_set, ite_self]
    · rw [if_neg hp, if_neg hp]

end Table

/-- No table is lost or new, and each is kept, but for the exceptions. -/
def Database.Keeps (ex : Name → Name → List (Option V) → Prop) (db db' : Database V) : Prop :=
  ∀ name, Option.Rel (Table.Keeps (ex name)) (db name) (db' name)

namespace Database

variable {ex : Name → Name → List (Option V) → Prop} {db db₁ db₂ : Database V}

theorem Keeps.refl (ex : Name → Name → List (Option V) → Prop) (db : Database V) :
    Keeps ex db db := by
  intro name
  cases db name with
  | none => exact .none
  | some t => exact .some (Table.Keeps.refl _ t)

theorem Keeps.trans (h : Keeps ex db db₁) (h' : Keeps (fun _ _ _ => False) db₁ db₂) :
    Keeps ex db db₂ := by
  intro name
  have hfirst := h name
  have hthen := h' name
  generalize db name = a at hfirst
  generalize db₁ name = b at hfirst hthen
  generalize db₂ name = c at hthen
  cases hfirst with
  | none =>
    cases hthen
    exact .none
  | some hfirst =>
    cases hthen with
    | some hthen => exact .some (hfirst.trans hthen)

/-- If one table of a database is changed and keeps what it has to keep, so does
the database. -/
theorem Keeps.set (h : Keeps ex db db₁) {name : Name} {t t' : Table V} (ht : db name = some t)
    (hkeeps : t.Keeps (ex name) t') : Keeps ex db (db₁.set name t') := by
  intro other
  by_cases hname : other = name
  · rw [hname, ht, Database.set_self]
    exact .some hkeeps
  · rw [Database.set_ne _ hname]
    exact h other

end Database

end ObdGpsLogger.Sql
