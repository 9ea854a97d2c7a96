/-
# Rolling windows

A loop that keeps a fixed number of tasks going: round `i` works on slot `i` modulo the
number of slots, awaits the task there from some round on, and starts task `i` in its
place as long as there are tasks.

If waiting begins with the first round that comes back to a slot, then every task is
awaited before its handle is assigned over. If it begins later, then the handles of the
first tasks are lost.
-/

import Mathlib.Data.List.Range
import Shoc.Transition.Slots

namespace Shoc.Transition

open SlotPlan

/-- Round `i`, in a loop with tasks up to `count` that waits from round `first` on. -/
def rollRound (slots first count i : ℕ) : List SlotInstr :=
  (if first ≤ i then [.await (i % slots)] else []) ++
    if i < count then [.start (i % slots) i] else []

/-- The first `n` rounds. -/
def rollRounds (slots first count n : ℕ) : List SlotInstr :=
  (List.range n).flatMap (rollRound slots first count)

variable {slots first count n : ℕ} {plan : SlotPlan}

variable {order : List ℕ} {final : SlotPlan}

end Shoc.Transition
