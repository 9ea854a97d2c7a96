/-
# Loaded keys

The keys loaded into AES-GCM contexts. Two things are kept about them by hand in
two classes: a context counts the keys loaded into it and is stopped when the last
one is gone, and a key object knows the context to tell when it destroys its DOCA
handle. The handle itself is owned by a `unique_ptr` member, which destroys it
without telling anybody when it is assigned over.

The DOCA key handles are a population of their own: one is created by
`doca_aes_gcm_key_create` for a context and destroyed by the deleter.
-/

import Mathlib.Data.Int.Notation
import Mathlib.Logic.Function.Basic
import Shoc.Data.Population
import Shoc.Doca.Basic
import Shoc.Transition.Runs

namespace Shoc.AesGcm

open Data Transition

abbrev ContextId := ℕ

/-- An `aes_gcm_key` object. -/
abbrev KeyId := ℕ

/-- A `doca_aes_gcm_key *`. -/
abbrev KeyHandle := ℕ

/-- `doca_aes_gcm_key_type`. -/
inductive KeyType
  | key128
  | key256
  | unknown (value : ℕ)
  deriving DecidableEq, Repr

/-- The members of `aes_gcm_key`. -/
structure Key where
  handle : Option KeyHandle := none
  parent : Option ContextId := none
  deriving DecidableEq, Repr

/-- The members of `aes_gcm_context`, of which `handle` says that the DOCA context has not
been destroyed. -/
structure Context where
  handle : Bool := true
  loadedKeys : ℤ := 0
  stopRequested : Bool := false
  deriving DecidableEq, Repr

/-- A call of `doca_ctx_stop`, with the number of keys of the context that had a handle. -/
structure StopCall where
  context : ContextId
  live : ℕ
  deriving DecidableEq, Repr

/-- The contexts, the key objects, and the DOCA key handles with their contexts. -/
structure Keys where
  contexts : ContextId → Context := fun _ => {}
  keys : Population Key := {}
  handles : Population ContextId := {}
  log : List StopCall := []

/-- What can happen: `load_key` is called on a context, with the size and type of the key and
the result of `doca_aes_gcm_key_create`; a special member of a key object is called; `stop` is
called on a context; the SDK reports a context idle. -/
inductive KeyLabel
  | loadKey (context : ContextId) (size : ℕ) (type : KeyType) (err : DocaError)
  | default
  | moveConstruct (other : KeyId)
  | moveAssign (self other : KeyId)
  | clear (self : KeyId)
  | destroy (self : KeyId)
  | stop (context : ContextId)
  | idle (context : ContextId)
  deriving DecidableEq, Repr

/-- `expected_key_size`. -/
def expectedKeySize : KeyType → Except DocaError ℕ
  | .key128 => .ok (128 / 8)
  | .key256 => .ok (256 / 8)
  | .unknown _ => .error .invalidValue

/-- What `aes_gcm_key(aes_gcm_context *, …)` throws, if anything. -/
def constructorError (size : ℕ) (type : KeyType) (err : DocaError) : Option DocaError :=
  match expectedKeySize type with
  | .error refused => some refused
  | .ok expected =>
      if expected ≠ size then some .invalidValue
      else if err ≠ .success then some err
      else none

namespace Keys

variable (s : Keys)

/-- The members of a key object. -/
def key (i : KeyId) : Key := (s.keys.read i).getD {}

/-- How many of the keys loaded into a context have a handle that was not destroyed. -/
def live (context : ContextId) : ℕ := s.handles.count (· = context)

def setKey (i : KeyId) (value : Key) : Keys := { s with keys := s.keys.write i value }

def setContext (context : ContextId) (value : Context) : Keys :=
  { s with contexts := Function.update s.contexts context value }

/-! ## Contexts -/

/-- `aes_gcm_context::do_stop_if_able`. Whether the SDK accepts the call makes no difference to
the context. -/
def doStopIfAble (context : ContextId) : Keys :=
  if (s.contexts context).loadedKeys > 0 then s
  else if (s.contexts context).handle = false then s
  else { s with log := ⟨context, s.live context⟩ :: s.log }

/-- `aes_gcm_context::stop`. -/
def stop (context : ContextId) : Keys :=
  (s.setContext context { s.contexts context with stopRequested := true }).doStopIfAble context

/-- `aes_gcm_context::signal_key_destroyed`. -/
def signalKeyDestroyed (context : ContextId) : Keys :=
  let before := s.contexts context
  let s := s.setContext context { before with loadedKeys := before.loadedKeys - 1 }
  if before.stopRequested then s.doStopIfAble context else s

/-- `aes_gcm_context::load_key`. When the constructor throws, nothing has been done yet; else
the key is counted and returned. -/
def loadKey (context : ContextId) (size : ℕ) (type : KeyType) (err : DocaError) : Keys :=
  match constructorError size type err with
  | some _ => s
  | none =>
      { s.setContext context
          { s.contexts context with loadedKeys := (s.contexts context).loadedKeys + 1 } with
        keys := s.keys.create { handle := some s.handles.size, parent := some context }
        handles := s.handles.create context }

/-! ## Key objects -/

/-- `handle_.reset(handle)`: the deleter gets what the pointer had before. -/
def resetHandle (self : KeyId) (handle : Option KeyHandle) : Keys :=
  let before := (s.key self).handle
  let s := s.setKey self { s.key self with handle := handle }
  match before with
  | none => s
  | some old => { s with handles := s.handles.destroy old }

/-- `operator=(aes_gcm_key &&)`. -/
def moveAssign (self other : KeyId) : Keys :=
  -- The assignment of a `unique_ptr` releases the source and then resets the target
  let released := (s.key other).handle
  let s := (s.setKey other { s.key other with handle := none }).resetHandle self released
  let parent := (s.key other).parent
  let s := s.setKey other { s.key other with parent := none }
  s.setKey self { s.key self with parent := parent }

/-- The move constructor: an empty key that is assigned to. -/
def moveConstruct (other : KeyId) : Keys :=
  { s with keys := s.keys.create {} }.moveAssign s.keys.size other

/-- `aes_gcm_key::clear`. -/
def clear (self : KeyId) : Keys :=
  match (s.key self).handle with
  | none => s
  | some _ =>
      let s := s.resetHandle self none
      let s := match (s.key self).parent with
        | some context => s.signalKeyDestroyed context
        -- The assertion: a key with a handle has a context
        | none => s
      s.setKey self { s.key self with parent := none }

/-- `~aes_gcm_key`. -/
def destroy (self : KeyId) : Keys :=
  let s := s.clear self
  { s with keys := s.keys.destroy self }

def alive (i : KeyId) : Bool := (s.keys.read i).isSome

/-- One step. Only live key objects can be used; the SDK creates no key for a context that is
gone, and reports a context idle that it was asked to stop. -/
def step (s : Keys) : KeyLabel → Option Keys
  | .loadKey context size type err =>
      if err = .success → (s.contexts context).handle = true then
        some (s.loadKey context size type err)
      else none
  | .default => some { s with keys := s.keys.create {} }
  | .moveConstruct other => if s.alive other then some (s.moveConstruct other) else none
  | .moveAssign self other =>
      if s.alive self ∧ s.alive other then some (s.moveAssign self other) else none
  | .clear self => if s.alive self then some (s.clear self) else none
  | .destroy self => if s.alive self then some (s.destroy self) else none
  | .stop context => some (s.stop context)
  | .idle context =>
      if context ∈ s.log.map (·.context) then
        some (s.setContext context { s.contexts context with handle := false })
      else none

end Keys

end Shoc.AesGcm
