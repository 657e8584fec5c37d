/-!
# Runs of a step function

A component that is called again and again is a step function
`σ → ι → Option (σ × ω)`: one call reads an input, moves the state and emits
an output. `none` means the call has no defined successor (the code would
leave its arrays, or the loop it is part of is over).

`run` iterates the step. The induction over a run is done once here, in the
forms the components need it:

* `run_progress` — steps that meet a condition (`Along`) get through and keep
  an invariant that may speak about everything read and emitted so far;
* `run_history` — the invariant alone, for the runs that get through;
* `run_beside` — a run and that of a total abstract machine, with a relation that
  each step keeps;
* `run_sim` — a step-by-step simulation by a total abstract machine, under a
  condition that every concrete step meets;
* `run_refines` — the same, with the condition on what the abstract machine
  does.

No program is mentioned in this file.
-/

namespace ObdGpsLogger.Machine

variable {σ τ ι ω : Type}

/-- Feed the inputs one by one, collecting the outputs. -/
def run (step : σ → ι → Option (σ × ω)) : σ → List ι → Option (σ × List ω)
  | s, [] => some (s, [])
  | s, i :: is =>
    match step s i with
    | none => none
    | some (s', o) => (run step s' is).map fun r => (r.1, o :: r.2)

/-- Every step of the run starts in a state, and has an input, that satisfy `P`;
a step that gets stuck is the last of them. -/
def Along (step : σ → ι → Option (σ × ω)) (P : σ → ι → Prop) : σ → List ι → Prop
  | _, [] => True
  | s, i :: is => P s i ∧ ∀ s' o, step s i = some (s', o) → Along step P s' is

variable {step : σ → ι → Option (σ × ω)}

@[simp] theorem run_nil (s : σ) : run step s [] = some (s, []) := rfl

/-- A run that gets through has a first step, to some state and with some
output, and a run of the other inputs from there. -/
theorem run_cons_eq_some {s t : σ} {i : ι} {is : List ι} {os : List ω} :
    run step s (i :: is) = some (t, os) ↔
      ∃ s' o os', step s i = some (s', o) ∧ run step s' is = some (t, os') ∧ os = o :: os' := by
  rw [run]
  cases hs : step s i with
  | none => simp
  | some r =>
    obtain ⟨s', o⟩ := r
    cases hr : run step s' is with
    | none => simp [hr]
    | some q =>
      obtain ⟨t', os'⟩ := q
      simp only [hr, Option.map_some, Option.some.injEq, Prod.mk.injEq]
      constructor
      · rintro ⟨rfl, rfl⟩
        exact ⟨s', o, os', ⟨rfl, rfl⟩, ⟨by rw [hr], rfl⟩⟩
      · rintro ⟨s₁, o₁, os₁, ⟨rfl, rfl⟩, h₂, rfl⟩
        rw [hr] at h₂
        injection h₂ with h₂
        injection h₂ with h₃ h₄
        exact ⟨h₃, by rw [h₄]⟩

theorem run_cons_of_step {s s' : σ} {i : ι} {o : ω} (h : step s i = some (s', o))
    (is : List ι) :
    run step s (i :: is) = (run step s' is).map fun r => (r.1, o :: r.2) := by
  rw [run, h]

/-- A run that gets through has as many outputs as inputs, since each step makes
one. -/
theorem run_length : ∀ {is : List ι} {os : List ω} {s t : σ},
    run step s is = some (t, os) → os.length = is.length
  | [], os, s, t, h => by
    obtain ⟨-, rfl⟩ : s = t ∧ [] = os := by simpa using h
    rfl
  | i :: is, os, s, t, h => by
    obtain ⟨s', o, os', -, hrun, rfl⟩ := run_cons_eq_some.mp h
    rw [List.length_cons, List.length_cons, run_length hrun]

/-- Running a concatenation is running the parts one after the other. -/
theorem run_append {s t : σ} :
    ∀ {is : List ι} {os : List ω}, run step s is = some (t, os) → ∀ (js : List ι),
      run step s (is ++ js) = (run step t js).map fun r => (r.1, os ++ r.2) := by
  intro is
  induction is generalizing s with
  | nil =>
    intro os h js
    simp only [run_nil, Option.some.injEq, Prod.mk.injEq] at h
    obtain ⟨rfl, rfl⟩ := h
    rw [List.nil_append]
    cases run step s js <;> rfl
  | cons i is ih =>
    intro os h js
    obtain ⟨s', o, os', hstep, hrun, rfl⟩ := run_cons_eq_some.mp h
    rw [List.cons_append, run_cons_of_step hstep, ih hrun js]
    cases run step t js <;> rfl

/-- A run over a concatenation passes through the end of its first part. -/
theorem run_append_eq_some {s t : σ} {is js : List ι} {os : List ω}
    (h : run step s (is ++ js) = some (t, os)) :
    ∃ u os₁ os₂, run step s is = some (u, os₁) ∧ run step u js = some (t, os₂) ∧
      os = os₁ ++ os₂ := by
  induction is generalizing s os with
  | nil => exact ⟨s, [], os, rfl, h, rfl⟩
  | cons i is ih =>
    obtain ⟨s', o, os', hstep, hrun, rfl⟩ := run_cons_eq_some.mp h
    obtain ⟨u, os₁, os₂, h₁, h₂, rfl⟩ := ih hrun
    exact ⟨u, o :: os₁, os₂, by rw [run_cons_of_step hstep, h₁]; rfl, h₂, rfl⟩

theorem run_singleton {s t : σ} {i : ι} {os : List ω} :
    run step s [i] = some (t, os) ↔ ∃ o, step s i = some (t, o) ∧ os = [o] := by
  rw [run_cons_eq_some]
  constructor
  · rintro ⟨s', o, os', h₁, h₂, rfl⟩
    simp only [run_nil, Option.some.injEq, Prod.mk.injEq] at h₂
    obtain ⟨rfl, rfl⟩ := h₂
    exact ⟨o, h₁, rfl⟩
  · rintro ⟨o, h₁, rfl⟩
    exact ⟨t, o, [], h₁, rfl, rfl⟩

/-- **Progress and invariants with history.** If every step that meets `P`
gets through and keeps a relation between everything read, everything emitted
and the state, then so does every run whose steps meet `P`. -/
theorem run_progress {I : List ι → List ω → σ → Prop} {P : σ → ι → Prop}
    (hstep : ∀ is os s i, I is os s → P s i →
      ∃ s' o, step s i = some (s', o) ∧ I (is ++ [i]) (os ++ [o]) s')
    {is₀ : List ι} {os₀ : List ω} {s : σ} (h₀ : I is₀ os₀ s) :
    ∀ {is : List ι}, Along step P s is →
      ∃ t os, run step s is = some (t, os) ∧ I (is₀ ++ is) (os₀ ++ os) t := by
  intro is
  induction is generalizing is₀ os₀ s with
  | nil => intro _; exact ⟨s, [], rfl, by simpa using h₀⟩
  | cons i is ih =>
    intro hal
    obtain ⟨s', o, hs, h₁⟩ := hstep is₀ os₀ s i h₀ hal.1
    obtain ⟨t, os, hrun, hinv⟩ := ih h₁ (hal.2 s' o hs)
    exact ⟨t, o :: os, by rw [run_cons_of_step hs, hrun]; rfl, by simpa using hinv⟩

/-- **Invariants with history**, for the runs that get through. -/
theorem run_history {I : List ι → List ω → σ → Prop}
    (hstep : ∀ is os s i s' o, I is os s → step s i = some (s', o) →
      I (is ++ [i]) (os ++ [o]) s')
    {s t : σ} (h₀ : I [] [] s) {is : List ι} {os : List ω}
    (h : run step s is = some (t, os)) : I is os t := by
  -- the induction is over what is still to come, from any history on
  suffices H : ∀ (is : List ι) (is₀ : List ι) (os₀ os : List ω) (s : σ), I is₀ os₀ s →
      run step s is = some (t, os) → I (is₀ ++ is) (os₀ ++ os) t from
    H is [] [] os s h₀ h
  intro is
  induction is with
  | nil =>
    intro is₀ os₀ os s h₀ h
    simp only [run_nil, Option.some.injEq, Prod.mk.injEq] at h
    obtain ⟨rfl, rfl⟩ := h
    simpa using h₀
  | cons i is ih =>
    intro is₀ os₀ os s h₀ h
    obtain ⟨s', o, os', hs, hrun, rfl⟩ := run_cons_eq_some.mp h
    simpa using ih (is₀ ++ [i]) (os₀ ++ [o]) os' s' (hstep is₀ os₀ s i s' o h₀ hs) hrun

/-- The run of a machine whose steps cannot fail: the last state, and the
outputs in order. -/
def runTotal (astep : τ → ι → τ × ω) : τ → List ι → τ × List ω
  | a, [] => (a, [])
  | a, i :: is =>
    ((runTotal astep (astep a i).1 is).1, (astep a i).2 :: (runTotal astep (astep a i).1 is).2)

/-- **Two runs side by side.** The relation between the states may look at the
inputs that are still to come, so that a condition on the rest of either run can be
part of it. -/
theorem run_beside {ω' : Type} {astep : τ → ι → τ × ω'} (R : σ → τ → List ι → Prop)
    {out : ω → ω'}
    (hsim : ∀ s a i is, R s a (i :: is) →
      ∃ s' o, step s i = some (s', o) ∧ R s' (astep a i).1 is ∧ out o = (astep a i).2) :
    ∀ (is : List ι) {s : σ} {a : τ}, R s a is →
      ∃ t os, run step s is = some (t, os) ∧ R t (runTotal astep a is).1 [] ∧
        os.map out = (runTotal astep a is).2
  | [], s, a, hR => ⟨s, [], rfl, hR, rfl⟩
  | i :: is, s, a, hR => by
    obtain ⟨s', o, hs, hR', ho⟩ := hsim s a i is hR
    obtain ⟨t, os, hrun, hRt, hos⟩ := run_beside R hsim is hR'
    refine ⟨t, o :: os, by rw [run_cons_of_step hs, hrun]; rfl, hRt, ?_⟩
    simp [runTotal, ho, hos]

/-- **Simulation.** If related states step to related states with outputs that
agree under `out`, whenever the step meets `Ok`, then a run whose steps all
meet `Ok` gets through, and emits what the abstract machine emits. -/
theorem run_sim {ω' : Type} (astep : τ → ι → τ × ω') {R : σ → τ → Prop}
    {Ok : σ → ι → Prop} {out : ω → ω'}
    (hsim : ∀ s a i, R s a → Ok s i →
      ∃ s' o, step s i = some (s', o) ∧ R s' (astep a i).1 ∧ out o = (astep a i).2)
    (is : List ι) {s : σ} {a : τ} (hR : R s a) (hal : Along step Ok s is) :
    ∃ t os, run step s is = some (t, os) ∧ R t (runTotal astep a is).1 ∧
      os.map out = (runTotal astep a is).2 := by
  obtain ⟨t, os, hrun, ⟨hRt, -⟩, hos⟩ :=
    run_beside (fun s a is => R s a ∧ Along step Ok s is) (fun s a i is h => by
      obtain ⟨hR, hok, hnext⟩ := h
      obtain ⟨s', o, hs, hR', ho⟩ := hsim s a i hR hok
      exact ⟨s', o, hs, ⟨hR', hnext s' o hs⟩, ho⟩) is ⟨hR, hal⟩
  exact ⟨t, os, hrun, hRt, hos⟩

/-- Every step of the abstract run, none of which gets stuck, starts in a state,
and has an input, that satisfy `P`. -/
def AlongTotal (astep : τ → ι → τ × ω) (P : τ → ι → Prop) : τ → List ι → Prop
  | _, [] => True
  | a, i :: is => P a i ∧ AlongTotal astep P (astep a i).1 is

/-- **Refinement.** If related states step to related states with the same
output, whenever the abstract step meets `P`, then where an abstract run meets
`P` throughout, the concrete run gets through and emits the same. -/
theorem run_refines {ω' : Type} {astep : τ → ι → τ × ω'} {R : σ → τ → Prop} {P : τ → ι → Prop}
    {out : ω → ω'}
    (hsim : ∀ s a i, R s a → P a i →
      ∃ s' o, step s i = some (s', o) ∧ R s' (astep a i).1 ∧ out o = (astep a i).2)
    (is : List ι) {s : σ} {a : τ} (hR : R s a) (hal : AlongTotal astep P a is) :
    ∃ t os, run step s is = some (t, os) ∧ R t (runTotal astep a is).1 ∧
      os.map out = (runTotal astep a is).2 := by
  obtain ⟨t, os, hrun, ⟨hRt, -⟩, hos⟩ :=
    run_beside (fun s a is => R s a ∧ AlongTotal astep P a is) (fun s a i is h => by
      obtain ⟨hR, hP, hnext⟩ := h
      obtain ⟨s', o, hs, hR', ho⟩ := hsim s a i hR hP
      exact ⟨s', o, hs, ⟨hR', hnext⟩, ho⟩) is ⟨hR, hal⟩
  exact ⟨t, os, hrun, hRt, hos⟩

/-- A run in blocks is a run over the blocks put together. -/
theorem run_blocks {β : Type} (inputs : β → List ι) {s t : σ} :
    ∀ {bs : List β} {oss : List (List ω)},
      run (fun s b => run step s (inputs b)) s bs = some (t, oss) →
      run step s (bs.flatMap inputs) = some (t, oss.flatten)
  | [], oss, h => by
    obtain ⟨rfl, rfl⟩ : s = t ∧ [] = oss := by simpa using h
    rfl
  | b :: bs, oss, h => by
    obtain ⟨s', os, oss', hblock, hrest, rfl⟩ := run_cons_eq_some.mp h
    rw [List.flatMap_cons, List.flatten_cons, run_append hblock, run_blocks inputs hrest]
    rfl

/-! ## Conditions along a run -/

theorem along_cons_of_none {P : σ → ι → Prop} {s : σ} {i : ι} (is : List ι)
    (hs : step s i = none) : Along step P s (i :: is) ↔ P s i :=
  ⟨fun h => h.1, fun h => ⟨h, fun _ _ hs' => by rw [hs] at hs'; cases hs'⟩⟩

theorem along_cons_of_step {P : σ → ι → Prop} {s s' : σ} {i : ι} {o : ω} (is : List ι)
    (hs : step s i = some (s', o)) :
    Along step P s (i :: is) ↔ P s i ∧ Along step P s' is :=
  ⟨fun h => ⟨h.1, h.2 s' o hs⟩, fun h => ⟨h.1, fun t o' hs' => by
    rw [hs] at hs'
    obtain ⟨rfl, -⟩ : s' = t ∧ o = o' := by simpa using hs'
    exact h.2⟩⟩

/-- A decidable condition can be checked along a run. -/
instance decidableAlong (P : σ → ι → Prop) [∀ s i, Decidable (P s i)] :
    ∀ (s : σ) (is : List ι), Decidable (Along step P s is)
  | _, [] => .isTrue trivial
  | s, i :: is =>
    match hs : step s i with
    | none => decidable_of_iff (P s i) (along_cons_of_none is hs).symm
    | some (s', _) =>
      have := decidableAlong P s' is
      decidable_of_iff (P s i ∧ Along step P s' is) (along_cons_of_step is hs).symm

/-- A run's condition holds along its first part. -/
theorem Along.left {P : σ → ι → Prop} :
    ∀ {is js : List ι} {s : σ}, Along step P s (is ++ js) → Along step P s is
  | [], _, _, _ => trivial
  | _ :: _, _, _, h => ⟨h.1, fun s' o hs => Along.left (h.2 s' o hs)⟩

/-- A run's condition holds along its second part, from where that starts. -/
theorem Along.right {P : σ → ι → Prop} : ∀ {is js : List ι} {s t : σ} {os : List ω},
    Along step P s (is ++ js) → run step s is = some (t, os) → Along step P t js
  | [], _, s, t, os, h, hrun => by
    obtain ⟨rfl, -⟩ : s = t ∧ [] = os := by simpa using hrun
    exact h
  | _ :: _, _, _, _, _, h, hrun => by
    obtain ⟨s', o, os', hs, hrun', -⟩ := run_cons_eq_some.mp hrun
    exact Along.right (h.2 s' o hs) hrun'

/-- A condition that an invariant gives for the inputs of a run holds along it. -/
theorem along_of_invariant {I : σ → Prop} {P : σ → ι → Prop}
    (hstep : ∀ s i s' o, I s → step s i = some (s', o) → I s') :
    ∀ {is : List ι} {s : σ}, I s → (∀ i ∈ is, ∀ s, I s → P s i) → Along step P s is
  | [], _, _, _ => trivial
  | i :: _, s, h, hP =>
    ⟨hP i (List.mem_cons_self ..) s h, fun s' o hs =>
      along_of_invariant hstep (hstep s i s' o h hs) fun j hj => hP j (List.mem_cons_of_mem _ hj)⟩

/-- An input of a run is read in some state, where the condition holds. -/
theorem Along.exists_mem {P : σ → ι → Prop} {i : ι} : ∀ {is : List ι} {s t : σ} {os : List ω},
    Along step P s is → run step s is = some (t, os) → i ∈ is →
      ∃ s₁ s₂ o, P s₁ i ∧ step s₁ i = some (s₂, o)
  | j :: is, s, t, os, h, hrun, hi => by
    obtain ⟨s', o, os', hs, hrun', -⟩ := run_cons_eq_some.mp hrun
    rcases List.mem_cons.mp hi with rfl | hi
    · exact ⟨s, s', o, h.1, hs⟩
    · exact Along.exists_mem (h.2 s' o hs) hrun' hi

/-- Two conditions that hold along a run hold along it together. -/
theorem Along.and {P Q : σ → ι → Prop} :
    ∀ {is : List ι} {s : σ}, Along step P s is → Along step Q s is →
      Along step (fun s i => P s i ∧ Q s i) s is
  | [], _, _, _ => trivial
  | _ :: _, _, hp, hq =>
    ⟨⟨hp.1, hq.1⟩, fun s' o hs => Along.and (hp.2 s' o hs) (hq.2 s' o hs)⟩

end ObdGpsLogger.Machine
