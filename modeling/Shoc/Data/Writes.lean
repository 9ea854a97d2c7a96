/-
# Records that are written field by field

A record is read field by field, and each write is meant for one field: it should give
the field a value and leave every other field as it is. After a sequence of such
writes a field has the value of the last one that was meant for it, or the one it had.
Whether a write behaves may depend on the record it finds.
-/

import Shoc.Transition.Runs

namespace Shoc.Data.Writes

open Transition

variable {σ ι α ω : Type*}

/-- The value of the last write for a field. -/
def last [DecidableEq ι] (target : ω → ι) (value : ω → α) (field : ι) : List ω → Option α
  | [] => none
  | w :: rest =>
      (last target value field rest).or (if target w = field then some (value w) else none)

theorem last_congr [DecidableEq ι] {target other : ω → ι} {value : ω → α} {field : ι}
    {writes : List ω} (same : ∀ w ∈ writes, target w = field ↔ other w = field) :
    last target value field writes = last other value field writes := by
  induction writes with
  | nil => rfl
  | cons w rest ih =>
    rw [List.forall_mem_cons] at same
    rw [last, last, ih same.2]
    simp only [same.1]

theorem last_eq_none [DecidableEq ι] {target : ω → ι} {value : ω → α} {field : ι}
    {writes : List ω} (others : ∀ w ∈ writes, target w ≠ field) :
    last target value field writes = none := by
  induction writes with
  | nil => rfl
  | cons w rest ih =>
    rw [List.forall_mem_cons] at others
    rw [last, ih others.2, if_neg others.1]
    rfl

/-- A write to the record gives its field its value, and leaves the others alone exactly if it is
clean; after clean writes a field has the value of the last one for it. -/
structure Lens [DecidableEq ι] (get : σ → ι → α) (write : σ → ω → σ) (target : ω → ι)
    (value : ω → α) (Clean : σ → ω → Prop) (record : σ) : Prop where
  same : ∀ w, get (write record w) (target w) = value w
  others : ∀ w,
    (∀ field, field ≠ target w → get (write record w) field = get record field) ↔ Clean record w
  last : ∀ writes final, Run (fun record w => some (write record w)) Clean record writes final →
    ∀ field, get final field = (last target value field writes).getD (get record field)

variable [DecidableEq ι] {get : σ → ι → α} {write : σ → ω → σ} {target : ω → ι} {value : ω → α}
  {Clean : σ → ω → Prop}

/-- The last write wins, if each behaves. -/
theorem Lens.of_writes (same : ∀ record w, get (write record w) (target w) = value w)
    (others : ∀ record w,
      (∀ field, field ≠ target w → get (write record w) field = get record field) ↔
        Clean record w) (record : σ) :
    Lens get write target value Clean record where
  same := same record
  others := others record
  last := by
    intro writes final run field
    induction writes generalizing record with
    | nil =>
      obtain rfl : record = final := Option.some.inj run.reached
      rfl
    | cons w rest ih =>
      obtain ⟨clean, next, taken, later⟩ := Run.cons_iff.mp run
      obtain rfl : write record w = next := Option.some.inj taken
      rw [ih _ later, Writes.last]
      -- A later write for the field hides this one
      cases Writes.last target value field rest with
      | some newest => rfl
      | none =>
        by_cases meant : target w = field
        · subst meant
          simpa using same record w
        · simpa [meant] using (others record w).mpr clean field (Ne.symm meant)

end Shoc.Data.Writes
