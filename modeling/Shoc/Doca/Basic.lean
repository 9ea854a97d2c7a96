/-
# The vocabulary of the SDK

The status codes and context states the library exchanges with the DOCA SDK.
Only the codes the library itself distinguishes or produces have names; every
other code the SDK may return is `other`.
-/

import Mathlib.Data.Nat.Notation

namespace Shoc

/-- `doca_error_t`. -/
inductive DocaError
  | success
  | inProgress
  | again
  | notConnected
  | inUse
  | empty
  | unexpected
  | badState
  | invalidValue
  | alreadyExist
  | connectionAborted
  | other (code : ℕ)
  deriving DecidableEq, Repr

/-- `doca_ctx_states`. -/
inductive CtxState
  | idle
  | starting
  | running
  | stopping
  deriving DecidableEq, Repr

namespace CtxState

/-- The state changes the SDK reports for a context that was started: it leaves
`starting` for any other state, `running` for one of the two stop states, and
`stopping` only for `idle`. -/
def Follows : CtxState → CtxState → Bool
  | .idle, next => next = .starting || next = .running
  | .starting, next => next ≠ .starting
  | .running, next => next = .stopping || next = .idle
  | .stopping, next => next = .idle

end CtxState

namespace DocaError

/-- `err == DOCA_SUCCESS || err == DOCA_ERROR_IN_PROGRESS`: the request was taken on. -/
def Accepted (err : DocaError) : Prop := err = .success ∨ err = .inProgress

instance (err : DocaError) : Decidable err.Accepted :=
  inferInstanceAs (Decidable (_ ∨ _))

end DocaError

/-- A coroutine, as the address of its handle. -/
abbrev Coro := ℕ

end Shoc
