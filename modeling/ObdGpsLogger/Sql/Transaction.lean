import Mathlib.Data.List.Infix

/-!
# Transactions, and what a crash leaves of them

A connection to a database sees what it has written itself. What is in the file
is another matter: within a transaction, writes reach it all at once, by the
`COMMIT`, and a program that dies before leaves nothing of them.

A program that commits now and then sends its writes in blocks, and starts a
new transaction behind some of them. `file_prefix` says what a crash between any
two statements leaves: what a crash between two blocks would have left.

No program is mentioned in this file.
-/

namespace ObdGpsLogger.Sql

variable {σ : Type}

/-- A statement, as far as transactions are concerned. -/
inductive Action (σ : Type) where
  | begin
  | commit
  | write (change : σ → σ)

/-- A connection: what is in the file, and what an open transaction has made of
it. -/
structure Connection (σ : Type) where
  file : σ
  pending : Option σ

namespace Connection

/-- A connection that has just been opened. -/
def opened (d : σ) : Connection σ := ⟨d, none⟩

/-- What the connection itself sees: its open transaction, or the file. -/
def view (c : Connection σ) : σ := c.pending.getD c.file

/-- One statement. A `BEGIN` within a transaction fails, and so does a `COMMIT`
outside of one; a write outside of one is a transaction of its own. -/
def exec (c : Connection σ) : Action σ → Connection σ
  | .begin => ⟨c.file, some c.view⟩
  | .commit => ⟨c.view, none⟩
  | .write change =>
    match c.pending with
    | none => ⟨change c.file, none⟩
    | some d => ⟨c.file, some (change d)⟩

/-- A script is run, one action after the other. -/
def execAll (c : Connection σ) (script : List (Action σ)) : Connection σ := script.foldl exec c

variable (c : Connection σ)

@[simp] theorem execAll_nil : c.execAll [] = c := rfl

@[simp] theorem execAll_cons (a : Action σ) (script : List (Action σ)) :
    c.execAll (a :: script) = (c.exec a).execAll script := rfl

@[simp] theorem execAll_append (script script' : List (Action σ)) :
    c.execAll (script ++ script') = (c.execAll script).execAll script' := List.foldl_append

end Connection

/-! ## Writes in blocks -/

/-- Some changes are made, one after the other. -/
def applyAll (changes : List (σ → σ)) (d : σ) : σ := changes.foldl (fun d change => change d) d

@[simp] theorem applyAll_nil (d : σ) : applyAll [] d = d := rfl

@[simp] theorem applyAll_cons (change : σ → σ) (changes : List (σ → σ)) (d : σ) :
    applyAll (change :: changes) d = applyAll changes (change d) := rfl

@[simp] theorem applyAll_append (changes changes' : List (σ → σ)) (d : σ) :
    applyAll (changes ++ changes') d = applyAll changes' (applyAll changes d) := List.foldl_append

/-- Writes, and whether a new transaction is started behind them. -/
structure Block (σ : Type) where
  writes : List (σ → σ)
  commits : Bool

/-- The statements of a block: its writes, and its end of a transaction if it
has one. -/
def Block.script (b : Block σ) : List (Action σ) :=
  b.writes.map .write ++ if b.commits then [.commit, .begin] else []

/-- Writes in a transaction leave the file alone. -/
theorem execAll_writes (d : σ) : ∀ (changes : List (σ → σ)) (w : σ),
    Connection.execAll ⟨d, some w⟩ (changes.map .write) = ⟨d, some (applyAll changes w)⟩
  | [], _ => rfl
  | change :: changes, w => execAll_writes d changes (change w)

/-- A block keeps a transaction open, and moves the file if it commits. -/
theorem execAll_script (b : Block σ) (d w : σ) :
    Connection.execAll ⟨d, some w⟩ b.script =
      ⟨if b.commits then applyAll b.writes w else d, some (applyAll b.writes w)⟩ := by
  unfold Block.script
  rw [Connection.execAll_append, execAll_writes]
  cases b.commits <;> rfl

/-- A part of a concatenation ends in its first part, or behind it. -/
theorem prefix_append_cases {α : Type} {pre s t : List α} (h : pre <+: s ++ t) :
    pre <+: s ∨ ∃ rest, pre = s ++ rest ∧ rest <+: t := by
  rcases List.prefix_or_prefix_of_prefix h (List.prefix_append s t) with hpre | ⟨rest, rfl⟩
  · exact Or.inl hpre
  · exact Or.inr ⟨rest, rfl, (List.prefix_append_right_inj s).mp h⟩

/-- Inside a transaction, any first part of some writes leaves the file as it
is. -/
theorem file_prefix_writes {changes : List (σ → σ)} {pre : List (Action σ)}
    (h : pre <+: changes.map .write) (d w : σ) :
    (Connection.execAll ⟨d, some w⟩ pre).file = d := by
  rw [List.prefix_iff_eq_take.mp h, ← List.map_take, execAll_writes]

/-- A part of a block leaves the file where it was, or where the whole block
leaves it. -/
theorem file_prefix_script {b : Block σ} {pre : List (Action σ)} (h : pre <+: b.script)
    (d w : σ) : (Connection.execAll ⟨d, some w⟩ pre).file = d ∨
      (Connection.execAll ⟨d, some w⟩ pre).file =
        (Connection.execAll ⟨d, some w⟩ b.script).file := by
  rw [execAll_script]
  unfold Block.script at h
  rcases prefix_append_cases h with hpre | ⟨rest, rfl, hrest⟩
  · exact Or.inl (file_prefix_writes hpre d w)
  · rw [Connection.execAll_append, execAll_writes]
    cases hb : b.commits with
    | false =>
      rw [hb] at hrest
      obtain rfl := List.prefix_nil.mp hrest
      exact Or.inl rfl
    | true =>
      rw [hb] at hrest
      -- behind the writes: nothing, the `COMMIT`, or both
      rcases List.prefix_cons_iff.mp hrest with rfl | ⟨rest₁, rfl, hrest₁⟩
      · exact Or.inl rfl
      · rcases List.prefix_cons_iff.mp hrest₁ with rfl | ⟨rest₂, rfl, hrest₂⟩
        · exact Or.inr rfl
        · obtain rfl := List.prefix_nil.mp hrest₂
          exact Or.inr rfl

/-- **A crash between two statements** of a program that sends blocks leaves what
a crash between two blocks would have left, and no block that was sent whole is
behind that point. -/
theorem file_prefix : ∀ {bs : List (Block σ)} {pre : List (Action σ)} (d w : σ),
    pre <+: bs.flatMap Block.script →
      ∃ k ≤ bs.length,
        (Connection.execAll ⟨d, some w⟩ pre).file =
          (Connection.execAll ⟨d, some w⟩ ((bs.take k).flatMap Block.script)).file ∧
        ∀ m ≤ bs.length, (bs.take m).flatMap Block.script <+: pre → m ≤ k
  | [], pre, d, w, h => by
    obtain rfl := List.prefix_nil.mp h
    exact ⟨0, Nat.le_refl 0, rfl, fun m hm _ => hm⟩
  | b :: bs, pre, d, w, h => by
    rw [List.flatMap_cons] at h
    by_cases hwhole : b.script <+: pre
    · -- the first block was sent whole: the crash was in the rest
      obtain ⟨rest, rfl⟩ := hwhole
      obtain ⟨k, hk, hfile, hlast⟩ := file_prefix (if b.commits then applyAll b.writes w else d)
        (applyAll b.writes w) ((List.prefix_append_right_inj _).mp h)
      refine ⟨k + 1, Nat.succ_le_succ hk, ?_, fun m hm hsent => ?_⟩
      · rw [List.take_succ_cons, List.flatMap_cons, Connection.execAll_append,
          Connection.execAll_append, execAll_script, hfile]
      · cases m with
        | zero => exact Nat.zero_le _
        | succ m =>
          rw [List.take_succ_cons, List.flatMap_cons, List.prefix_append_right_inj] at hsent
          exact Nat.succ_le_succ (hlast m (Nat.le_of_succ_le_succ hm) hsent)
    · -- the block was not sent whole, and neither was any later one
      have hsent : ∀ m ≤ (b :: bs).length,
          ((b :: bs).take m).flatMap Block.script <+: pre → m ≤ 0 := by
        intro m _ hm
        cases m with
        | zero => exact Nat.le_refl 0
        | succ m =>
          rw [List.take_succ_cons, List.flatMap_cons] at hm
          exact absurd ((List.prefix_append _ _).trans hm) hwhole
      have hpart : pre <+: b.script := by
        rcases prefix_append_cases h with hpre | ⟨rest, rfl, -⟩
        · exact hpre
        · exact absurd (List.prefix_append _ _) hwhole
      rcases file_prefix_script hpart d w with hfile | hfile
      · exact ⟨0, Nat.zero_le _, hfile, hsent⟩
      · refine ⟨1, Nat.succ_le_succ (Nat.zero_le _), ?_, fun m hm hpre => ?_⟩
        · rw [hfile]
          simp
        · exact (hsent m hm hpre).trans (Nat.zero_le 1)

end ObdGpsLogger.Sql
