/-
# Receptables

The meeting point of a waiting coroutine and the callback that provides its
result. A receptable holds nothing, an exception or a payload, and at most one
coroutine handle. Storing a result and resuming the waiter are separate
operations: none of the setters resumes, and `resume` only looks at the handle.

Exceptions are the `doca_exception`s the library itself makes, so each is
represented by its error code.
-/

import Shoc.Doca.Basic

namespace Shoc.Coro

variable {Payload : Type*}

/-- The alternatives of `std::variant<std::monostate, std::exception_ptr, Payload>`. -/
inductive Stored (Payload : Type*)
  | monostate
  | exception (err : DocaError)
  | payload (value : Payload)
  deriving DecidableEq, Repr

/-- `value_receptable<Payload>`. -/
structure Receptable (Payload : Type*) where
  stored : Stored Payload := .monostate
  waiter : Option Coro := none
  deriving DecidableEq, Repr

namespace Receptable

/-- `value_receptable(Payload &&)`, behind `value_awaitable::from_value`. -/
def fromValue (value : Payload) : Receptable Payload := { stored := .payload value }

/-- `value_receptable(std::exception_ptr)`, behind `value_awaitable::from_error`. -/
def fromError (err : DocaError) : Receptable Payload := { stored := .exception err }

/-- `value_receptable::set_exception`. -/
def setException (err : DocaError) (r : Receptable Payload) : Receptable Payload :=
  { r with stored := .exception err }

/-- `value_receptable::set_error`: a code becomes an exception. -/
def setError (err : DocaError) (r : Receptable Payload) : Receptable Payload :=
  r.setException err

/-- `value_receptable::set_value` and `emplace_value`. -/
def setValue (value : Payload) (r : Receptable Payload) : Receptable Payload :=
  { r with stored := .payload value }

/-- `value_receptable::has_value`. -/
def hasValue (r : Receptable Payload) : Bool :=
  match r.stored with
  | .monostate => false
  | _ => true

/-- `value_receptable::set_waiter`: a second waiter is refused. -/
def setWaiter (coro : Coro) (r : Receptable Payload) : Except DocaError (Receptable Payload) :=
  match r.waiter with
  -- `set_waiter` throws and leaves the first waiter where it is
  | some _ => .error .inUse
  | none => .ok { r with waiter := some coro }

/-- `value_receptable::resume`: the coroutine to resume, if one is registered. The
handle stays where it is. -/
def resume (r : Receptable Payload) : Option Coro := r.waiter

/-- `value_receptable::value`: what a coroutine obtains from `await_resume`, a
payload or the exception rethrown to it. -/
def value (r : Receptable Payload) : Except DocaError Payload :=
  match r.stored with
  | .monostate => .error .unexpected
  | .exception err => .error err
  | .payload value => .ok value

/-- `co_await` as the receptable sees it: a coroutine that finds no result registers
itself, unless another one did before. -/
def await (coro : Coro) (r : Receptable Payload) : Receptable Payload :=
  if r.hasValue then r
  -- `await_ready` was false, so `await_suspend` registers the handle
  else match r.setWaiter coro with
    | .ok registered => registered
    | .error _ => r

@[simp] theorem stored_await (coro : Coro) (r : Receptable Payload) :
    (r.await coro).stored = r.stored := by
  unfold await setWaiter
  split
  · rfl
  · cases r.waiter <;> rfl

@[simp] theorem hasValue_await (coro : Coro) (r : Receptable Payload) :
    (r.await coro).hasValue = r.hasValue := by
  unfold hasValue
  rw [stored_await]

@[simp] theorem value_await (coro : Coro) (r : Receptable Payload) :
    (r.await coro).value = r.value := by
  unfold value
  rw [stored_await]

/-- With a result there, `await_ready` is true and nobody is registered. -/
theorem await_of_hasValue {r : Receptable Payload} (ready : r.hasValue = true) (coro : Coro) :
    r.await coro = r := if_pos ready

/-- A second waiter is turned away. -/
theorem await_of_waiter {r : Receptable Payload} {first : Coro} (waits : r.waiter = some first)
    (coro : Coro) : r.await coro = r := by
  unfold await setWaiter
  rw [waits]
  split <;> rfl

@[simp] theorem waiter_setError (err : DocaError) (r : Receptable Payload) :
    (r.setError err).waiter = r.waiter := rfl

@[simp] theorem waiter_setValue (value : Payload) (r : Receptable Payload) :
    (r.setValue value).waiter = r.waiter := rfl

@[simp] theorem stored_setError (err : DocaError) (r : Receptable Payload) :
    (r.setError err).stored = .exception err := rfl

@[simp] theorem stored_setValue (value : Payload) (r : Receptable Payload) :
    (r.setValue value).stored = .payload value := rfl

@[simp] theorem value_setError (err : DocaError) (r : Receptable Payload) :
    (r.setError err).value = .error err := rfl

@[simp] theorem value_setValue (value : Payload) (r : Receptable Payload) :
    (r.setValue value).value = .ok value := rfl

/-- A receptable has a value as soon as it has left its initial alternative. -/
theorem hasValue_iff {r : Receptable Payload} : r.hasValue = true ↔ r.stored ≠ .monostate := by
  unfold hasValue
  cases r.stored <;> simp

end Receptable

end Shoc.Coro
