import ObdGpsLogger.CLib.Scanf

/-!
# SQL statements

A small part of SQL, as programs that build their statements with `strcat` use
it: `CREATE TABLE` with a list of columns, `ALTER TABLE … ADD`, `INSERT` and
`UPDATE` with parameters, and `SELECT` over left joins.

`lex` cuts a text into words and symbols, and `parse` reads a statement from
them. Keywords are upper case. `readStatement` does both. Only what the
statements mean is kept: types, defaults and constraints of columns are read
over.

The lemmas say how a text made of pieces is cut: a word ends at the first
character that is no part of one.
-/

namespace ObdGpsLogger.Sql

open CLib

/-- The name of a table or of a column. -/
abbrev Name := List Char

instance (c : Name) (names : List Name) : Decidable (c ∈ names) :=
  inferInstanceAs (Decidable (c ∈ names))

/-! ## Words and symbols -/

/-- A character that can stand in a word. -/
def isWordChar (c : Char) : Bool := c.isAlphanum || c == '_'

/-- A word, or a single character that is neither part of one nor space. -/
inductive Token where
  | word (s : List Char)
  | sym (c : Char)
  deriving DecidableEq, Repr

/-- A keyword of the language, as a token. -/
def kw (s : String) : Token := .word s.toList

/-- The word that has been collected, if any. -/
def flush (cur : List Char) : List Token := if cur = [] then [] else [.word cur]

/-- The symbol a character is, if it is one. -/
def symbol (c : Char) : List Token := if isspace c then [] else [.sym c]

/-- The tokens of a text, behind a part of a word. -/
def lexFrom : List Char → List Char → List Token
  | cur, [] => flush cur
  | cur, c :: text =>
    if isWordChar c then lexFrom (cur ++ [c]) text
    else flush cur ++ symbol c ++ lexFrom [] text

/-- The tokens of a whole text, in order. -/
def lex (text : List Char) : List Token := lexFrom [] text

/-- A text that is read as one word: it is not empty, and all of its characters
can stand in a word. -/
structure IsWord (s : List Char) : Prop where
  ne_nil : s ≠ []
  all : ∀ c ∈ s, isWordChar c = true

theorem lexFrom_append {s : List Char} (h : ∀ c ∈ s, isWordChar c = true) (rest : List Char) :
    ∀ cur, lexFrom cur (s ++ rest) = lexFrom (cur ++ s) rest := by
  induction s with
  | nil => intro cur; rw [List.nil_append, List.append_nil]
  | cons c s ih =>
    intro cur
    have hc := h c (List.mem_cons_self ..)
    rw [List.cons_append, lexFrom, if_pos hc, ih fun d hd => h d (List.mem_cons_of_mem _ hd)]
    simp

/-- The tokens of a word, and of the character that ends it, which is a token of
its own unless it is a blank. -/
theorem lex_word {s : List Char} (hs : IsWord s) {c : Char} (hc : isWordChar c = false)
    (rest : List Char) : lex (s ++ c :: rest) = .word s :: (symbol c ++ lex rest) := by
  rw [lex, lexFrom_append hs.all, List.nil_append, lexFrom, if_neg (by simp [hc]), flush,
    if_neg hs.ne_nil]
  rfl

/-- A text in front of a character that is no part of a word. -/
theorem lex_append {c : Char} (hc : isWordChar c = false) (s rest : List Char) :
    lex (s ++ c :: rest) = lex s ++ (symbol c ++ lex rest) := by
  have hfrom : ∀ (s cur : List Char),
      lexFrom cur (s ++ c :: rest) = lexFrom cur s ++ (symbol c ++ lex rest) := by
    intro s
    induction s with
    | nil =>
      intro cur
      show lexFrom cur (c :: rest) = flush cur ++ (symbol c ++ lex rest)
      rw [lexFrom, if_neg (ne_true_of_eq_false hc), List.append_assoc]
      rfl
    | cons d s ih =>
      intro cur
      rw [List.cons_append, lexFrom, lexFrom]
      split
      · exact ih _
      · rw [ih]
        simp
  exact hfrom s []

/-- Such texts, one after the other, with a comma and a blank behind each. -/
theorem lex_listed (items : List (List Char)) (rest : List Char) :
    lex (items.flatMap (· ++ ", ".toList) ++ rest) =
      items.flatMap (fun s => lex s ++ [.sym ',']) ++ lex rest := by
  induction items with
  | nil => rfl
  | cons s items ih =>
    rw [List.flatMap_cons, List.append_assoc, List.append_assoc, List.flatMap_cons,
      List.append_assoc, ← ih]
    exact (lex_append (by decide) s _).trans (List.append_assoc ..).symm

/-- Words with the same text behind each of them. -/
theorem lex_items {c : Char} (hc : isWordChar c = false) (behind : List Char) (ts : List Token)
    (hts : ∀ rest, symbol c ++ lex (behind ++ rest) = ts ++ lex rest) {items : List (List Char)}
    (hitems : ∀ s ∈ items, IsWord s) (rest : List Char) :
    lex (items.flatMap (· ++ c :: behind) ++ rest) =
      items.flatMap (fun s => .word s :: ts) ++ lex rest := by
  induction items with
  | nil => rfl
  | cons s items ih =>
    have hs := hitems s (List.mem_cons_self ..)
    rw [List.flatMap_cons, List.flatMap_cons, List.append_assoc, List.append_assoc,
      List.cons_append, lex_word hs hc, hts, ih fun t ht => hitems t (List.mem_cons_of_mem _ ht)]
    simp

/-! ## Conditions -/

/-- What a condition compares: a column, of a table or of the only one, or a
parameter, by its number. -/
inductive Operand where
  | column (table : Option Name) (name : Name)
  | param (n : Nat)
  deriving DecidableEq, Repr

/-- The comparisons that conditions may use. -/
inductive Comparison where
  | lt
  | gt
  | eq
  deriving DecidableEq, Repr

/-- The comparison of two operands, as it stands in a condition. -/
structure Test where
  left : Operand
  comparison : Comparison
  right : Operand
  deriving DecidableEq, Repr

/-- A condition: tests that are joined with `AND`. -/
abbrev Cond := List Test

/-- An operand; a parameter there is number `n`. -/
def parseOperand (n : Nat) : List Token → Option Operand
  | [.word t, .sym '.', .word c] => some (.column (some t) c)
  | [.word c] => some (.column none c)
  | [.sym '?'] => some (.param n)
  | _ => none

/-- The comparison a symbol stands for. -/
def comparisonOf : Token → Option Comparison
  | .sym '<' => some .lt
  | .sym '>' => some .gt
  | .sym '=' => some .eq
  | _ => none

/-- A test whose left side is a column; a parameter on the right is number `n`. -/
def parseTest (n : Nat) (ts : List Token) : Option Test :=
  let left := ts.takeWhile fun t => (comparisonOf t).isNone
  match ts.drop left.length with
  | [] => none
  | op :: right => do
    let l ← parseOperand n left
    let c ← comparisonOf op
    let r ← parseOperand n right
    pure ⟨l, c, r⟩

/-- Tests; the parameters in them are numbered from `n` on. -/
def parseTests : Nat → List (List Token) → Option Cond
  | _, [] => some []
  | n, ts :: rest => do
    let test ← parseTest n ts
    let tests ← parseTests (n + ts.count (.sym '?')) rest
    pure (test :: tests)

/-- Tests joined with `AND` are read, the parameters among them counted from `n`
on. -/
def parseCond (n : Nat) (ts : List Token) : Option Cond := parseTests n (ts.splitOn (kw "AND"))

/-! ## Statements -/

/-- A statement. An `UPDATE` sets one column to parameter 1. A `SELECT` has
expressions, which are not looked into, a table, and left joins. -/
inductive Statement where
  | createTable (table : Name) (columns : List Name)
  | addColumn (table column : Name)
  | insert (table : Name) (columns : List Name) (params : Nat)
  | update (table column : Name) (cond : Cond)
  | select (outputs : List (List Token)) (table : Name) (joins : List (Name × Cond))
  deriving DecidableEq, Repr

/-- The first word of each item of a list in parentheses; `start` says that an
item starts here. -/
def listed : Bool → List Token → List Name
  | _, [] => []
  | _, .sym ')' :: _ => []
  | _, .sym ',' :: ts => listed true ts
  | true, .word s :: ts => s :: listed false ts
  | start, _ :: ts => listed start ts

/-- The tokens behind `CREATE TABLE` are read: a name, and the columns in
brackets. -/
def parseCreate : List Token → Option Statement
  | .word t :: .sym '(' :: ts => some (.createTable t (listed true ts))
  | _ => none

/-- The tokens behind `ALTER TABLE` are read: a name, and the column that is
added. -/
def parseAlter : List Token → Option Statement
  | .word t :: add :: .word c :: _ => if add = kw "ADD" then some (.addColumn t c) else none
  | _ => none

/-- The tokens behind `INSERT INTO` are read: a name, the columns, and as many
values as there are parameters. -/
def parseInsert : List Token → Option Statement
  | .word t :: .sym '(' :: ts => some (.insert t (listed true ts) (ts.count (.sym '?')))
  | _ => none

/-- The tokens behind `UPDATE` are read: a name, the column that is set to the
first parameter, and a condition. -/
def parseUpdate : List Token → Option Statement
  | .word t :: set :: .word c :: .sym '=' :: .sym '?' :: wh :: ts =>
    if set = kw "SET" ∧ wh = kw "WHERE" then (parseCond 2 ts).map (.update t c) else none
  | _ => none

/-- The tokens behind `LEFT` are read: the table that is joined, and the
condition. -/
def parseJoin : List Token → Option (Name × Cond)
  | join :: .word t :: on :: ts =>
    if join = kw "JOIN" ∧ on = kw "ON" then (parseCond 1 ts).map fun cond => (t, cond) else none
  | _ => none

/-- The tokens behind `SELECT` are read: the results, a table, and the tables
joined to it. -/
def parseSelect (ts : List Token) : Option Statement :=
  match ts.splitOn (kw "FROM") with
  | [outputs, source] =>
    match source.splitOn (kw "LEFT") with
    | [.word t] :: joins =>
      (joins.mapM parseJoin).map (.select (outputs.splitOn (.sym ',')) t)
    | _ => none
  | _ => none

/-- A list of tokens is read as a statement, by its first keywords. -/
def parse : List Token → Option Statement
  | [] => none
  | k :: ts =>
    if k = kw "SELECT" then parseSelect ts
    else if k = kw "UPDATE" then parseUpdate ts
    else if k = kw "CREATE" ∧ ts.head? = some (kw "TABLE") then parseCreate ts.tail
    else if k = kw "ALTER" ∧ ts.head? = some (kw "TABLE") then parseAlter ts.tail
    else if k = kw "INSERT" ∧ ts.head? = some (kw "INTO") then parseInsert ts.tail
    else none

/-- The statement that a text is, if it is one of those known here. -/
def readStatement (text : List Char) : Option Statement := parse (lex text)

/-- Items with a separator behind each, and one more. -/
theorem splitOn_items {α : Type} [DecidableEq α] {a : α} {items : List (List α)} {last : List α}
    (hitems : ∀ ts ∈ items, a ∉ ts) (hlast : a ∉ last) :
    (items.flatMap (fun ts => ts ++ [a]) ++ last).splitOn a = items ++ [last] := by
  induction items with
  | nil => exact List.splitOn_eq_singleton hlast
  | cons ts items ih =>
    have hts := hitems ts (List.mem_cons_self ..)
    have ih' := ih fun us hus => hitems us (List.mem_cons_of_mem _ hus)
    rw [List.flatMap_cons, List.append_assoc, List.append_assoc, List.singleton_append,
      List.splitOn_append_cons_self, ih', List.splitOn_eq_singleton hts]
    rfl

/-- A `SELECT` is read as its parts: the results, the table behind `FROM`, and
the joins behind that, each with its condition. -/
theorem parseSelect_eq {outputs source : List Token} {js : List (List Token)} {t : Name}
    {joins : List (Name × Cond)} (hout : kw "FROM" ∉ outputs) (hfrom : kw "FROM" ∉ source)
    (hleft : source.splitOn (kw "LEFT") = [.word t] :: js)
    (hjoins : js.mapM parseJoin = some joins) :
    parseSelect (outputs ++ kw "FROM" :: source) =
      some (.select (outputs.splitOn (.sym ',')) t joins) := by
  unfold parseSelect
  rw [List.splitOn_append_cons_self, List.splitOn_eq_singleton hout,
    List.splitOn_eq_singleton hfrom, List.singleton_append]
  dsimp only
  rw [hleft]
  dsimp only
  rw [hjoins]
  rfl

/-! ## Lists in parentheses -/

/-- Tokens that neither end an item nor the list are read over. -/
theorem listed_skip {ts : List Token} (h : ∀ t ∈ ts, t ≠ .sym ',' ∧ t ≠ .sym ')')
    (rest : List Token) : listed false (ts ++ rest) = listed false rest := by
  induction ts with
  | nil => rfl
  | cons t ts ih =>
    have ih' := ih fun u hu => h u (List.mem_cons_of_mem _ hu)
    obtain ⟨hcomma, hclose⟩ := h t (List.mem_cons_self ..)
    rw [List.cons_append]
    cases t with
    | word s => exact ih'
    | sym c =>
      have hc : c ≠ ',' := fun he => hcomma (congrArg Token.sym he)
      have hd : c ≠ ')' := fun he => hclose (congrArg Token.sym he)
      rw [listed]
      · exact ih'
      · exact fun he => hd (Token.sym.inj he)
      · exact fun he => hc (Token.sym.inj he)
      · nofun

/-- A word in a list, with tokens up to the comma behind it: the word is an item
of the list. -/
theorem listed_item (s : List Char) {ts : List Token} (h : ∀ t ∈ ts, t ≠ .sym ',' ∧ t ≠ .sym ')')
    (rest : List Token) :
    listed true (.word s :: (ts ++ .sym ',' :: rest)) = s :: listed true rest := by
  rw [listed, listed_skip h, listed]

/-- Words in a list, each with tokens up to the comma behind it: they are the
items of the list, in order. -/
theorem listed_items (ts : List Token) (h : ∀ t ∈ ts, t ≠ .sym ',' ∧ t ≠ .sym ')')
    (items : List (List Char)) (rest : List Token) :
    listed true (items.flatMap (fun s => .word s :: (ts ++ [.sym ','])) ++ rest) =
      items ++ listed true rest := by
  induction items with
  | nil => rfl
  | cons s items ih =>
    rw [List.flatMap_cons, List.append_assoc, List.cons_append, List.append_assoc,
      List.singleton_append, listed_item s h, ih, List.cons_append]

end ObdGpsLogger.Sql
