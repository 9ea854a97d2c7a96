/-
# Guarded runs of a labelled machine

A machine is a partial step function: from a state, a label is either enabled
and leads to one next state, or it is not enabled. All nondeterminism sits in
the labels, so a list of labels determines at most one run and a concrete run
can be evaluated.

Each step of a run may be held to a condition on the state before the step and
the label. Invariants are proved step by step under that condition and then
hold in every state such a run reaches; since a run may stop anywhere, the
final states of all runs are all the reachable states.
-/

import Mathlib.Data.List.Basic
import Mathlib.Data.Option.Basic

namespace Shoc.Transition

variable {σ α : Type*}

/-- The state reached along a list of labels, provided each is enabled in turn. -/
def exec (step : σ → α → Option σ) : σ → List α → Option σ
  | state, [] => some state
  | state, label :: rest => (step state label).bind fun next => exec step next rest

/-- Every step taken along the labels meets the condition `ok`. -/
def Meets (step : σ → α → Option σ) (ok : σ → α → Prop) : σ → List α → Prop
  | _, [] => True
  | state, label :: rest =>
      ok state label ∧
        match step state label with
        | none => True
        | some next => Meets step ok next rest

/-- The condition every step meets. -/
def Always (_ : σ) (_ : α) : Prop := True

/-- A run from `start` to `final`: the labels are enabled in turn and every step
meets the condition. -/
structure Run (step : σ → α → Option σ) (ok : σ → α → Prop) (start : σ) (labels : List α)
    (final : σ) : Prop where
  reached : exec step start labels = some final
  meets : Meets step ok start labels

instance Meets.decidable (step : σ → α → Option σ) (ok : σ → α → Prop)
    [∀ state label, Decidable (ok state label)] :
    ∀ (state : σ) (labels : List α), Decidable (Meets step ok state labels)
  | _, [] => inferInstanceAs (Decidable True)
  | state, label :: rest =>
      have : Decidable (match step state label with
          | none => True
          | some next => Meets step ok next rest) :=
        match step state label with
        | none => inferInstanceAs (Decidable True)
        | some next => Meets.decidable step ok next rest
      inferInstanceAs (Decidable (ok state label ∧ _))

/-- What is left of the labels of a run when each is renamed or left out, as the state it is
taken in tells. -/
def subRun {β : Type*} (step : σ → α → Option σ) (rename : σ → α → Option β) :
    σ → List α → List β
  | _, [] => []
  | state, label :: rest =>
      (rename state label).toList ++
        match step state label with
        | none => []
        | some next => subRun step rename next rest

variable {step : σ → α → Option σ} {ok weaker : σ → α → Prop}
  {start middle final : σ} {label : α} {labels more : List α}

theorem meets_always (start : σ) (labels : List α) : Meets step Always start labels := by
  induction labels generalizing start with
  | nil => trivial
  | cons label rest ih =>
    refine ⟨trivial, ?_⟩
    cases step start label with
    | none => trivial
    | some next => exact ih next

namespace Run

theorem nil (start : σ) : Run step ok start [] start := ⟨rfl, trivial⟩

/-- A run is empty, or takes one step and goes on from there. -/
theorem cons_iff :
    Run step ok start (label :: labels) final ↔
      ok start label ∧ ∃ next, step start label = some next ∧ Run step ok next labels final := by
  constructor
  -- The label is enabled, or the run would not have reached its end
  · rintro ⟨reached, meets⟩
    refine ⟨meets.1, ?_⟩
    cases taken : step start label with
    | none => simp [exec, taken] at reached
    | some next =>
      have later := meets.2
      rw [taken] at later
      refine ⟨next, rfl, ?_, later⟩
      simpa [exec, taken] using reached
  · rintro ⟨allowed, next, taken, rest⟩
    refine ⟨by simpa [exec, taken] using rest.reached, allowed, ?_⟩
    rw [taken]
    exact rest.meets

/-- Runs compose. -/
theorem append (first : Run step ok start labels middle) (second : Run step ok middle more final) :
    Run step ok start (labels ++ more) final := by
  -- The start moves along the first run
  induction labels generalizing start with
  | nil =>
    obtain rfl : start = middle := Option.some.inj first.reached
    exact second
  | cons label rest ih =>
    obtain ⟨allowed, next, taken, later⟩ := cons_iff.mp first
    exact cons_iff.mpr ⟨allowed, next, taken, ih later⟩

/-- A run along two lists of labels is a run along the first and one along the second. -/
theorem split (run : Run step ok start (labels ++ more) final) :
    ∃ middle, Run step ok start labels middle ∧ Run step ok middle more final := by
  induction labels generalizing start with
  | nil => exact ⟨start, nil start, run⟩
  | cons label rest ih =>
    obtain ⟨allowed, next, taken, later⟩ := cons_iff.mp run
    obtain ⟨middle, first, second⟩ := ih later
    exact ⟨middle, cons_iff.mpr ⟨allowed, next, taken, first⟩, second⟩

/-- A run under a condition is a run under any condition that its steps meet thanks to an
invariant. -/
theorem strengthen (Inv : σ → Prop)
    (keep : ∀ state label next, Inv state → ok state label → step state label = some next →
      weaker state label ∧ Inv next)
    (run : Run step ok start labels final) (initial : Inv start) :
    Run step weaker start labels final := by
  induction labels generalizing start with
  | nil => exact ⟨run.reached, trivial⟩
  | cons label rest ih =>
    obtain ⟨allowed, next, taken, later⟩ := cons_iff.mp run
    obtain ⟨met, kept⟩ := keep _ _ _ initial allowed taken
    exact cons_iff.mpr ⟨met, next, taken, ih later kept⟩

/-- A run under a condition is a run under any weaker one. -/
theorem weaken (implies : ∀ state label, ok state label → weaker state label)
    (run : Run step ok start labels final) : Run step weaker start labels final :=
  run.strengthen (fun _ => True) (fun _ _ _ _ allowed _ => ⟨implies _ _ allowed, trivial⟩) trivial

/-- A condition that every label of the run meets can be added to its steps. -/
theorem restrict {P : α → Prop} (all : ∀ label ∈ labels, P label)
    (run : Run step ok start labels final) :
    Run step (fun _ label => P label) start labels final := by
  induction labels generalizing start with
  | nil => exact ⟨run.reached, trivial⟩
  | cons label rest ih =>
    obtain ⟨-, next, taken, later⟩ := cons_iff.mp run
    exact cons_iff.mpr ⟨all label List.mem_cons_self, next, taken,
      ih (fun other mem => all other (List.mem_cons_of_mem label mem)) later⟩

/-- Every label of a run was taken in some state on the way. -/
theorem exists_taken (mem : label ∈ labels) (run : Run step ok start labels final) :
    ∃ before after state next, Run step ok start before state ∧ step state label = some next ∧
      Run step ok next after final := by
  induction labels generalizing start with
  | nil => contradiction
  | cons first rest ih =>
    obtain ⟨allowed, next, taken, later⟩ := cons_iff.mp run
    -- The label is the first one, or one of the rest
    rcases List.mem_cons.mp mem with rfl | mem
    · exact ⟨[], rest, start, next, nil start, taken, later⟩
    · obtain ⟨before, after, state, last, there, taken', rest'⟩ := ih mem later
      exact ⟨first :: before, after, state, last,
        cons_iff.mpr ⟨allowed, next, taken, there⟩, taken', rest'⟩

/-- The invariant rule: what every allowed step preserves holds at the end of
every run that starts with it. -/
theorem invariant (Inv : σ → Prop)
    (keep : ∀ state label next, Inv state → ok state label → step state label = some next →
      Inv next)
    (run : Run step ok start labels final) (initial : Inv start) : Inv final := by
  -- The invariant is carried from the start to the state after the first label
  induction labels generalizing start with
  | nil =>
    obtain rfl : start = final := Option.some.inj run.reached
    exact initial
  | cons label rest ih =>
    obtain ⟨allowed, next, taken, later⟩ := cons_iff.mp run
    exact ih later (keep _ _ _ initial allowed taken)

/-- The relational form of the invariant rule: a reflexive and transitive relation
that contains every allowed step relates the ends of every run. -/
theorem relates {R : σ → σ → Prop} (refl : ∀ state, R state state)
    (trans : ∀ {first second third}, R first second → R second third → R first third)
    (keep : ∀ state label next, ok state label → step state label = some next → R state next)
    (run : Run step ok start labels final) : R start final := by
  induction labels generalizing start with
  | nil =>
    obtain rfl : start = final := Option.some.inj run.reached
    exact refl _
  | cons label rest ih =>
    obtain ⟨allowed, next, taken, later⟩ := cons_iff.mp run
    exact trans (keep _ _ _ allowed taken) (ih later)

/-- What a run accumulates: if every step appends what it is renamed to, the whole run appends
what is left of it. -/
theorem accumulates {β : Type*} {rename : σ → α → Option β} (Inv : σ → Prop) (total : σ → List β)
    (keep : ∀ state label next, Inv state → ok state label → step state label = some next →
      Inv next ∧ total next = total state ++ (rename state label).toList)
    (run : Run step ok start labels final) (initial : Inv start) :
    total final = total start ++ subRun step rename start labels := by
  induction labels generalizing start with
  | nil =>
    obtain rfl : start = final := Option.some.inj run.reached
    simp [subRun]
  | cons label rest ih =>
    obtain ⟨allowed, next, taken, later⟩ := cons_iff.mp run
    obtain ⟨kept, added⟩ := keep start label next initial allowed taken
    rw [ih later kept, added, List.append_assoc, subRun, taken]

/-- What is left of a run whose labels are renamed without regard to the state. -/
theorem subRun_eq_filterMap {β : Type*} {rename : α → Option β}
    (run : Run step ok start labels final) :
    subRun step (fun _ => rename) start labels = labels.filterMap rename := by
  induction labels generalizing start with
  | nil => rfl
  | cons label rest ih =>
    obtain ⟨-, next, taken, later⟩ := cons_iff.mp run
    rw [subRun, taken]
    simp only [ih later, List.filterMap_cons]
    cases rename label <;> rfl

/-- Simulation of what is left of a run: if a step that is left out keeps the relation, and one
that is not is followed by the other machine, then the other machine has a run along the labels
that are left. -/
theorem simulates {τ β : Type*} {other : τ → β → Option τ} {rename : σ → α → Option β}
    {R : σ → τ → Prop} {image : τ}
    (omitted : ∀ state label next image, R state image → ok state label →
      step state label = some next → rename state label = none → R next image)
    (followed : ∀ state label next image renamed, R state image → ok state label →
      step state label = some next → rename state label = some renamed →
      ∃ image', other image renamed = some image' ∧ R next image')
    (run : Run step ok start labels final) (related : R start image) :
    ∃ image', Run other Always image (subRun step rename start labels) image' ∧
      R final image' := by
  induction labels generalizing start image with
  | nil =>
    obtain rfl : start = final := Option.some.inj run.reached
    exact ⟨image, nil image, related⟩
  | cons label rest ih =>
    obtain ⟨allowed, next, taken, later⟩ := cons_iff.mp run
    rw [subRun, taken]
    cases kept : rename start label with
    | none => exact ih later (omitted _ _ _ _ related allowed taken kept)
    | some renamed =>
      obtain ⟨middle, moved, related'⟩ := followed _ _ _ _ _ related allowed taken kept
      obtain ⟨last, rest', related''⟩ := ih later related'
      exact ⟨last, cons_iff.mpr ⟨trivial, middle, moved, rest'⟩, related''⟩

end Run

end Shoc.Transition
