import Mathlib.Data.List.Basic
import Mathlib.Data.List.Nodup
import ObdGpsLogger.Sql.Statement

/-!
# Columns with quoted names

What SQL makes of `CREATE TABLE t ("a" REAL, "b" REAL)`: a name between double
quotes goes up to the next single one, and a doubled quote stands for a quote in
it. Behind the name there can be words for a type. No two columns have the same
name, without regard to case.

A text of any other form has no columns here. A name that is written between
quotes without doubling its own is never read back (`readQuoted_quote_ne`).
-/

namespace ObdGpsLogger.Sql

/-! ## Names between quotes -/

/-- A name behind its first quote, and what is behind its last. -/
def readQuoted : List Char → Option (Name × List Char)
  | [] => none
  | '"' :: '"' :: s => (readQuoted s).map fun x => ('"' :: x.1, x.2)
  | '"' :: s => some ([], s)
  | c :: s => (readQuoted s).map fun x => (c :: x.1, x.2)

/-- How a name has to be written between quotes. -/
def escapeQuotes (name : Name) : List Char :=
  name.flatMap fun c => if c = '"' then ['"', '"'] else [c]

@[simp] theorem escapeQuotes_nil : escapeQuotes [] = [] := rfl

theorem escapeQuotes_append (a b : List Char) :
    escapeQuotes (a ++ b) = escapeQuotes a ++ escapeQuotes b := List.flatMap_append

theorem escapeQuotes_quote (name : Name) :
    escapeQuotes ('"' :: name) = '"' :: '"' :: escapeQuotes name := rfl

theorem escapeQuotes_cons {c : Char} (hc : c ≠ '"') (name : Name) :
    escapeQuotes (c :: name) = c :: escapeQuotes name := by
  rw [escapeQuotes, List.flatMap_cons, if_neg hc]
  rfl

/-- A name without quotes is written as it is: there is nothing to double in it. -/
theorem escapeQuotes_plain {name : Name} (h : '"' ∉ name) : escapeQuotes name = name := by
  induction name with
  | nil => rfl
  | cons c name ih =>
    rw [escapeQuotes_cons (fun he => h (he ▸ List.mem_cons_self ..)),
      ih fun hm => h (List.mem_cons_of_mem c hm)]

/-- **A name that is read** between quotes was written with the quotes in it
doubled, and a single quote behind it. -/
theorem readQuoted_spec : ∀ {s : List Char} {name : Name} {rest : List Char},
    readQuoted s = some (name, rest) → s = escapeQuotes name ++ '"' :: rest := by
  intro s
  fun_induction readQuoted s with
  | case1 =>
    intro name rest h
    cases h
  | case2 s ih =>
    intro name rest h
    obtain ⟨x, hx, heq⟩ := Option.map_eq_some_iff.mp h
    obtain ⟨rfl, rfl⟩ := Prod.mk.inj heq
    rw [escapeQuotes_quote, List.cons_append, List.cons_append, ← ih hx]
  | case3 s hno =>
    intro name rest h
    obtain ⟨rfl, rfl⟩ := Prod.mk.inj (Option.some.inj h)
    rfl
  | case4 c s hno hone ih =>
    intro name rest h
    obtain ⟨x, hx, heq⟩ := Option.map_eq_some_iff.mp h
    obtain ⟨rfl, rfl⟩ := Prod.mk.inj heq
    have hc : c ≠ '"' := fun he => hone he
    rw [escapeQuotes_cons hc, List.cons_append, ← ih hx]

/-- The first quote that is not doubled ends a name. -/
theorem readQuoted_end {rest : List Char} (hrest : rest.head? ≠ some '"') :
    readQuoted ('"' :: rest) = some ([], rest) := by
  cases rest with
  | nil => rfl
  | cons c rest =>
    rw [readQuoted]
    intro s hs
    exact hrest (congrArg List.head? hs)

theorem readQuoted_cons {c : Char} (hc : c ≠ '"') (s : List Char) :
    readQuoted (c :: s) = (readQuoted s).map fun x => (c :: x.1, x.2) := by
  rw [readQuoted]
  · intro s' h
    exact absurd h hc
  · exact hc

/-- A name without quotes is read back, up to the quote behind it. -/
theorem readQuoted_plain {name : Name} (h : '"' ∉ name) {rest : List Char}
    (hrest : rest.head? ≠ some '"') : readQuoted (name ++ '"' :: rest) = some (name, rest) := by
  induction name with
  | nil => exact readQuoted_end hrest
  | cons c name ih =>
    have hc : c ≠ '"' := fun he => h (he ▸ List.mem_cons_self ..)
    rw [List.cons_append, readQuoted_cons hc, ih fun hm => h (List.mem_cons_of_mem c hm)]
    rfl

/-! ## Names with quotes that are not doubled -/

/-- Behind quotes too many, doubling the quotes of a text never makes up for it. -/
theorem quotes_ne {x t : List Char} (h : ∀ k, 1 ≤ k → List.replicate k '"' ++ x ≠ t) :
    ∀ (v : List Char) (k : Nat), 1 ≤ k →
      List.replicate k '"' ++ (escapeQuotes v ++ x) ≠ v ++ t := by
  intro v
  induction v with
  | nil => exact h
  | cons c v ih =>
    intro k hk heq
    obtain ⟨k, rfl⟩ := Nat.exists_eq_add_of_le' hk
    rw [List.replicate_succ, List.cons_append, List.cons_append] at heq
    obtain ⟨rfl, htail⟩ := List.cons.inj heq
    -- one quote of the text is used up, and two are there for it
    refine ih (k + 2) (by omega) ?_
    rw [← htail, escapeQuotes_quote, List.replicate_add, List.append_assoc]
    rfl

/-- With one quote or more in front, `x` is never `t`: then a text with a quote
in it, and `t` behind, differs from the same with its quotes doubled, and `x`
behind. -/
theorem escapeQuotes_ne {x t : List Char} (h : ∀ k, 1 ≤ k → List.replicate k '"' ++ x ≠ t)
    {w : List Char} (hw : '"' ∈ w) : escapeQuotes w ++ x ≠ w ++ t := by
  induction w with
  | nil => cases hw
  | cons c w ih =>
    intro heq
    by_cases hc : c = '"'
    · subst hc
      rw [escapeQuotes_quote] at heq
      exact quotes_ne h w 1 (Nat.le_refl 1) (List.cons.inj heq).2
    · rw [escapeQuotes_cons hc] at heq
      have hmem : '"' ∈ w := (List.mem_cons.mp hw).resolve_left fun he => hc he.symm
      exact ih hmem (List.cons.inj heq).2

/-- A list goes on behind an item, or ends. -/
def Separates (t : List Char) : Prop := t.head? = some ',' ∨ t = [')']

theorem Separates.head_ne {t : List Char} (ht : Separates t) : t.head? ≠ some '"' := by
  intro h
  rcases ht with hcomma | rfl
  · rw [hcomma] at h
    cases h
  · cases h

theorem Separates.quotes_ne {t : List Char} (ht : Separates t) (x : List Char) {k : Nat}
    (hk : 1 ≤ k) : List.replicate k '"' ++ x ≠ t := by
  intro h
  obtain ⟨k, rfl⟩ := Nat.exists_eq_add_of_le' hk
  exact ht.head_ne (congrArg List.head? h.symm)

/-- **A name with a quote** that is not doubled is not read back. -/
theorem readQuoted_quote_ne {name : Name} (h : '"' ∈ name) {behind t rest : List Char}
    (hbehind : '"' ∉ behind) (ht : Separates t) :
    readQuoted (name ++ '"' :: (behind ++ t)) ≠ some (name, rest) := by
  intro hread
  refine escapeQuotes_ne ?_ h (readQuoted_spec hread).symm
  intro k hk heq
  obtain ⟨k, rfl⟩ := Nat.exists_eq_add_of_le' hk
  -- a quote follows the first one, but none stands there
  have htail : List.replicate k '"' ++ '"' :: rest = behind ++ t := (List.cons.inj heq).2
  have hhead : (behind ++ t).head? = some '"' := by
    rw [← htail]
    cases k <;> rfl
  cases behind with
  | nil => exact ht.head_ne hhead
  | cons c behind => exact hbehind (Option.some.inj hhead ▸ List.mem_cons_self ..)

/-- **A name whose end is cut off**, with the quote behind it, is not read back. -/
theorem readQuoted_cut_ne {w x t rest : List Char} (hx : ',' ∉ x) (ht : Separates t) :
    readQuoted (w ++ t) ≠ some (w ++ x, rest) := by
  intro hread
  have hspec := readQuoted_spec hread
  rw [escapeQuotes_append, List.append_assoc] at hspec
  by_cases hw : '"' ∈ w
  · exact escapeQuotes_ne (fun k hk => ht.quotes_ne _ hk) hw hspec.symm
  · rw [escapeQuotes_plain hw] at hspec
    have htail : t = escapeQuotes x ++ '"' :: rest := List.append_cancel_left hspec
    rcases ht with hcomma | rfl
    · -- what is cut off would have to begin with the comma
      cases x with
      | nil =>
        rw [htail] at hcomma
        cases hcomma
      | cons c x =>
        by_cases hc : c = '"'
        · rw [htail, hc, escapeQuotes_quote] at hcomma
          cases hcomma
        · rw [htail, escapeQuotes_cons hc] at hcomma
          exact hx (Option.some.inj hcomma ▸ List.mem_cons_self ..)
    · have hquote : '"' ∈ [')'] := by
        rw [htail]
        simp
      simp at hquote

/-! ## A list of columns -/

/-- A character of the words for a type. -/
def isTypeChar (c : Char) : Bool := c.isAlpha || c == ' '

/-- The names in a list of columns, each of them quoted and with a type behind. -/
def readColumns : Nat → List Char → Option (List Name)
  | fuel + 1, '"' :: s =>
    (readQuoted s).bind fun x =>
      match x.2.dropWhile isTypeChar with
      | [')'] => some [x.1]
      | ',' :: s => (readColumns fuel (s.dropWhile (· == ' '))).map (x.1 :: ·)
      | _ => none
  | _, _ => none

/-- The first name is what stands between the first quotes. -/
theorem readQuoted_of_readColumns {fuel : Nat} {s : List Char} {name : Name} {names : List Name}
    (h : readColumns fuel ('"' :: s) = some (name :: names)) :
    ∃ rest, readQuoted s = some (name, rest) := by
  cases fuel with
  | zero => cases h
  | succ fuel =>
    rw [readColumns] at h
    obtain ⟨⟨first, rest⟩, hread, hrest⟩ := Option.bind_eq_some_iff.mp h
    refine ⟨rest, ?_⟩
    dsimp only at hrest
    split at hrest
    · rw [hread, (List.cons.inj (Option.some.inj hrest)).1]
    · obtain ⟨more, -, hcons⟩ := Option.map_eq_some_iff.mp hrest
      rw [hread, (List.cons.inj hcons).1]
    · cases hrest

section

variable {name words : List Char}

/-- A column behind its first quote: its name, and what is behind its type. -/
theorem readColumn_plain (hname : '"' ∉ name) (hwords : ∀ c ∈ words, isTypeChar c = true)
    {t : List Char} (ht : Separates t) :
    readQuoted (name ++ '"' :: (words ++ t)) = some (name, words ++ t) ∧
      (words ++ t).dropWhile isTypeChar = t := by
  have hdrop : t.dropWhile isTypeChar = t := by
    rcases ht with hcomma | rfl
    · obtain ⟨s, rfl⟩ := List.head?_eq_some_iff.mp hcomma
      rfl
    · rfl
  refine ⟨readQuoted_plain hname ?_, ?_⟩
  · cases words with
    | nil => exact ht.head_ne
    | cons c words =>
      intro h
      have hc := hwords c (List.mem_cons_self ..)
      rw [Option.some.inj h] at hc
      cases hc
  · rw [List.dropWhile_append_of_pos hwords, hdrop]

/-- The last column of a `CREATE TABLE`: a name in quotes, words for its type,
and the parenthesis that ends the list. -/
theorem readColumns_last (hname : '"' ∉ name) (hwords : ∀ c ∈ words, isTypeChar c = true)
    (fuel : Nat) :
    readColumns (fuel + 1) ('"' :: (name ++ '"' :: (words ++ [')']))) = some [name] := by
  obtain ⟨hread, hdrop⟩ := readColumn_plain hname hwords (Or.inr rfl)
  rw [readColumns, hread, Option.bind_some]
  dsimp only
  rw [hdrop]
  rfl

/-- A column of a `CREATE TABLE` with others behind it: its name is in front of
the names that are read from those. -/
theorem readColumns_cons (hname : '"' ∉ name) (hwords : ∀ c ∈ words, isTypeChar c = true)
    (fuel : Nat) (s : List Char) :
    readColumns (fuel + 1) ('"' :: (name ++ '"' :: (words ++ ',' :: ' ' :: '"' :: s))) =
      (readColumns fuel ('"' :: s)).map (name :: ·) := by
  obtain ⟨hread, hdrop⟩ := readColumn_plain hname hwords (t := ',' :: ' ' :: '"' :: s) (Or.inl rfl)
  rw [readColumns, hread, Option.bind_some]
  dsimp only
  rw [hdrop]
  rfl

end

/-! ## The table that is made -/

/-- Names are compared without regard to case. -/
def lower (name : Name) : Name := name.map Char.toLower

/-- How the statement begins, up to the list of columns. -/
def createHead (table : Name) : List Char := "CREATE TABLE ".toList ++ table ++ " (".toList

/-- The columns of the table that `CREATE TABLE table (…)` makes; `none` where it
makes none, or does not have this form. -/
def createColumns (table : Name) (text : List Char) : Option (List Name) :=
  if (createHead table).isPrefixOf text then
    (readColumns text.length (text.drop (createHead table).length)).filter fun names =>
      (names.map lower).Nodup
  else none

theorem createColumns_append (table : Name) (list : List Char) :
    createColumns table (createHead table ++ list) =
      (readColumns (createHead table ++ list).length list).filter fun names =>
        (names.map lower).Nodup := by
  have hpre : (createHead table).isPrefixOf (createHead table ++ list) = true :=
    List.isPrefixOf_iff_prefix.mpr (List.prefix_append ..)
  rw [createColumns, if_pos hpre, List.drop_left]

end ObdGpsLogger.Sql
