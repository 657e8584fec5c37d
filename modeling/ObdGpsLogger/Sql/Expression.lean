import Mathlib.Data.Rat.Cast.Defs
import ObdGpsLogger.CLib.ScanInt
import ObdGpsLogger.Sql.Table

/-!
# Expressions of a result column

A result column of a `SELECT` is a product or a quotient of columns and numbers,
with a name for it behind `as`, if it has one. `NULL` makes all of it `NULL`,
and so does a division by zero.

`parseResult` reads one, `queryResults` gives the lines of a `SELECT` with their
values. On columns that is what `query` gives (`resultValue_column`).

Mirroring notes:
- Only what binds alike is read, from the left, and parentheses.
- The values are real numbers; a quotient of integers would be cut.
-/

namespace ObdGpsLogger.Sql

open CLib

/-! ## Values -/

/-- What a result column of a query computes from the joined row. -/
inductive Expr where
  | number (v : Rat)
  | operand (o : Operand)
  | mul (a b : Expr)
  | div (a b : Expr)
  deriving DecidableEq, Repr

/-- The value, from those of the columns. -/
def Expr.eval {V : Type} [DivisionRing V] [DecidableEq V] (env : Operand → Option V) :
    Expr → Option V
  | number v => some (v : V)
  | operand o => env o
  | mul a b => do
    let x ← a.eval env
    let y ← b.eval env
    some (x * y)
  | div a b => do
    let x ← a.eval env
    let y ← b.eval env
    if y = 0 then none else some (x / y)

/-! ## Texts -/

/-- The number a word is, if it is one. -/
def natural (s : List Char) : Option Nat := (s.mapM (digitVal 10)).map (ofRadix 10)

/-- A column without a table, or a number. -/
def plainFactor (c : Name) : Expr :=
  match natural c with
  | some n => .number n
  | none => .operand (.column none c)

/-- A column of a table, or a number with a fraction. -/
def pointedFactor (t c : Name) : Expr :=
  match natural t, natural c with
  | some whole, some fraction => .number (whole + fraction / 10 ^ c.length)
  | _, _ => .operand (.column (some t) c)

/-- A factor; what is inside parentheses is read by `inner`. -/
def parseFactor (inner : List Token → Option (Expr × List Token)) :
    List Token → Option (Expr × List Token)
  | .sym '(' :: ts =>
    match inner ts with
    | some (e, .sym ')' :: rest) => some (e, rest)
    | _ => none
  | .word t :: .sym '.' :: .word c :: rest => some (pointedFactor t c, rest)
  | .word c :: rest => some (plainFactor c, rest)
  | _ => none

/-- The factors behind the first, at most `n`. -/
def parseFactors (inner : List Token → Option (Expr × List Token)) :
    Nat → Expr → List Token → Option (Expr × List Token)
  | n + 1, e, .sym '*' :: ts =>
    (parseFactor inner ts).bind fun f => parseFactors inner n (.mul e f.1) f.2
  | n + 1, e, .sym '/' :: ts =>
    (parseFactor inner ts).bind fun f => parseFactors inner n (.div e f.1) f.2
  | _, e, ts => some (e, ts)

/-- An expression, and what is behind it; there are less than `n` tokens inside
parentheses. -/
def parseProduct : Nat → List Token → Option (Expr × List Token)
  | 0, _ => none
  | n + 1, ts =>
    (parseFactor (parseProduct n) ts).bind fun f => parseFactors (parseProduct n) n f.1 f.2

/-- A result column is read: an expression, and behind it a name it may be
given. -/
def parseResult (ts : List Token) : Option Expr :=
  match parseProduct (ts.length + 1) ts with
  | some (e, []) => some e
  | some (e, [as, .word _]) => if as = kw "as" then some e else none
  | _ => none

/-- A result that is a column of a table, with the name of the table in front,
is read as that column. -/
theorem parseResult_column {t : Name} (ht : natural t = none) (c : Name) :
    parseResult [.word t, .sym '.', .word c] = some (.operand (.column (some t) c)) := by
  show some (pointedFactor t c) = _
  unfold pointedFactor
  rw [ht]

/-! ## Queries -/

section Results

variable {V : Type} [Field V] [LinearOrder V]

/-- The value that a result column has in a joined row. -/
def resultValue (parts : List (JoinPart V)) (output : List Token) : Option V :=
  (parseResult output).bind (Expr.eval (joinEnv parts))

/-- The lines that a `SELECT` delivers, in order. -/
def queryResults (db : Database V) : Statement → Option (List (List (Option V)))
  | .select outputs name joins =>
    (selectRows db (.select outputs name joins)).map fun lines =>
      lines.map fun parts => outputs.map (resultValue parts)
  | _ => none

theorem resultValue_column (parts : List (JoinPart V)) {t : Name} (ht : natural t = none)
    (c : Name) : resultValue parts [.word t, .sym '.', .word c] =
      outputValue parts [.word t, .sym '.', .word c] := by
  rw [resultValue, parseResult_column ht]
  rfl

end Results

end ObdGpsLogger.Sql
