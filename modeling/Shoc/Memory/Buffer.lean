/-
# Reference counts of buffers

A `buffer` holds a `doca_buf` that it releases when it is destroyed, cleared or
assigned over. Buffers are copied, moved and exchanged freely, so many of them may
hold one `doca_buf`; each copy makes a reference and each release gives one back.

The callbacks of the managed receive queues make buffers of the packets they are
given, copy them once more for the accepter queues, and destroy their own when they
return. In between a coroutine may have been resumed with the copy, and does with
it whatever it likes.
-/

import Mathlib.Data.Int.Notation
import Mathlib.Logic.Function.Basic
import Shoc.Data.Population
import Shoc.Eth.Receiver

namespace Shoc.Memory

open Data Transition

/-- A `doca_buf *` that is not null. -/
abbrev DocaBuf := ℕ

abbrev BufferId := ℕ

/-- A call of `doca_buf_dec_refcount`, with the count at its beginning and the number of buffers
that held the `doca_buf` at that time, the one that calls included. -/
structure Release where
  buf : DocaBuf
  refcount : ℤ
  holding : ℕ
  deriving DecidableEq, Repr

/-- A release found the count to be the number of buffers that held the `doca_buf`. -/
def Release.Exact (entry : Release) : Prop :=
  0 < entry.holding ∧ entry.refcount = entry.holding

/-- The buffer objects with their `handle_`, the counts of the SDK, and the releases. -/
structure Buffers where
  refcount : DocaBuf → ℤ := fun _ => 0
  buffers : Population (Option DocaBuf) := {}
  log : List Release := []

/-- The special member functions, `swap` and `clear`. -/
inductive BufferOp
  | construct (handle : Option DocaBuf)
  | copyConstruct (other : BufferId)
  | moveConstruct (other : BufferId)
  | copyAssign (self other : BufferId)
  | moveAssign (self other : BufferId)
  | swap (self other : BufferId)
  | clear (self : BufferId)
  | destroy (self : BufferId)
  deriving DecidableEq, Repr

namespace Buffers

variable (s : Buffers) {t : Buffers} {op : BufferOp} {self other : BufferId} {buf : DocaBuf}
  {value : Option DocaBuf}

/-- `handle_` of a buffer. -/
def handle (buffer : BufferId) : Option DocaBuf := (s.buffers.read buffer).join

/-- How many live buffers hold a `doca_buf`. -/
def holding (buf : DocaBuf) : ℕ := s.buffers.count (· = some buf)

/-- `doca_buf_inc_refcount`, which refuses a null pointer. -/
def incRefcount : Option DocaBuf → Buffers
  | none => s
  | some buf => { s with refcount := Function.update s.refcount buf (s.refcount buf + 1) }

/-- `doca_buf_dec_refcount`. -/
def decRefcount (buf : DocaBuf) : Buffers :=
  { s with
    refcount := Function.update s.refcount buf (s.refcount buf - 1)
    log := ⟨buf, s.refcount buf, s.holding buf⟩ :: s.log }

/-- The SDK hands out a `doca_buf`, with one reference. -/
def handOut : Option DocaBuf → Buffers
  | none => s
  | some buf => { s with refcount := Function.update s.refcount buf 1 }

def setHandle (buffer : BufferId) (value : Option DocaBuf) : Buffers :=
  { s with buffers := s.buffers.write buffer value }

/-- `buffer(doca_buf *)` on a `doca_buf` that was just handed out. -/
def construct (value : Option DocaBuf) : Buffers :=
  let s := s.handOut value
  { s with buffers := s.buffers.create value }

/-- The copy constructor. -/
def copyConstruct (other : BufferId) : Buffers :=
  let value := s.handle other
  { s with buffers := s.buffers.create value }.incRefcount value

/-- The move constructor. -/
def moveConstruct (other : BufferId) : Buffers :=
  { s with buffers := (s.buffers.write other none).create (s.handle other) }

def swap (self other : BufferId) : Buffers :=
  { s with buffers := (s.buffers.write self (s.handle other)).write other (s.handle self) }

def clear (self : BufferId) : Buffers :=
  match s.handle self with
  | none => s
  | some buf => (s.decRefcount buf).setHandle self none

/-- A buffer gives back what it holds. -/
def release (self : BufferId) : Buffers :=
  match s.handle self with
  | none => s
  | some buf => s.decRefcount buf

/-- `~buffer`. -/
def destroy (self : BufferId) : Buffers :=
  let s := s.release self
  { s with buffers := s.buffers.destroy self }

/-- `operator=(buffer const &)`. The local variable `copy` lives until the end of the function. -/
def copyAssign (self other : BufferId) : Buffers :=
  let copy := s.buffers.size
  ((s.copyConstruct other).swap self copy).destroy copy

/-- `operator=(buffer &&)`. -/
def moveAssign (self other : BufferId) : Buffers :=
  let copy := s.buffers.size
  ((s.moveConstruct other).swap self copy).destroy copy

/-- Nobody holds the `doca_buf`, so it can be handed out. -/
def Fresh : Option DocaBuf → Prop
  | none => True
  | some buf => s.refcount buf = 0

instance : ∀ value, Decidable (s.Fresh value)
  | none => inferInstanceAs (Decidable True)
  | some _ => inferInstanceAs (Decidable (_ = _))

def alive (buffer : BufferId) : Bool := (s.buffers.read buffer).isSome

/-- One operation. Only live objects can be used. -/
def step (s : Buffers) : BufferOp → Option Buffers
  | .construct value => if s.Fresh value then some (s.construct value) else none
  | .copyConstruct other => if s.alive other then some (s.copyConstruct other) else none
  | .moveConstruct other => if s.alive other then some (s.moveConstruct other) else none
  | .copyAssign self other =>
      if s.alive self ∧ s.alive other then some (s.copyAssign self other) else none
  | .moveAssign self other =>
      if s.alive self ∧ s.alive other then some (s.moveAssign self other) else none
  | .swap self other => if s.alive self ∧ s.alive other then some (s.swap self other) else none
  | .clear self => if s.alive self then some (s.clear self) else none
  | .destroy self => if s.alive self then some (s.destroy self) else none

/-! ## The count is exact -/

/-- Every `doca_buf` has as many references as buffers hold it, and always had. -/
structure Counted (s : Buffers) : Prop where
  refcount : ∀ buf, s.refcount buf = s.holding buf
  log : ∀ entry ∈ s.log, entry.Exact

variable {s}

@[simp] theorem buffers_incRefcount : (s.incRefcount value).buffers = s.buffers := by
  cases value <;> rfl

@[simp] theorem buffers_release : (s.release self).buffers = s.buffers := by
  unfold release
  split <;> rfl

theorem read_of_alive (live : s.alive self) : s.buffers.read self = some (s.handle self) :=
  Population.read_eq_some_join live

/-- A new buffer, with a reference of its own. -/
theorem counted_create {refcount : DocaBuf → ℤ} (counted : s.Counted) (value : Option DocaBuf)
    (more : ∀ buf, refcount buf = s.refcount buf + if value = some buf then 1 else 0) :
    Counted { s with refcount := refcount, buffers := s.buffers.create value } := by
  refine ⟨fun buf => ?_, counted.log⟩
  have before := counted.refcount buf
  simp only [holding, more] at before ⊢
  rw [before, Population.count_create]
  by_cases same : value = some buf <;> simp [same]

/-- A step that only moves handles about. -/
theorem counted_of_count {buffers : Population (Option DocaBuf)} (counted : s.Counted)
    (same : ∀ buf : DocaBuf, buffers.count (· = some buf) = s.buffers.count (· = some buf)) :
    Counted { s with buffers := buffers } := by
  refine ⟨fun buf => ?_, counted.log⟩
  rw [counted.refcount, holding, holding, same]

/-- A buffer gives back its reference, and its handle goes. -/
theorem counted_release {buffers : Population (Option DocaBuf)} (counted : s.Counted)
    (live : s.alive self)
    (less : ∀ buf : DocaBuf, buffers.count (· = some buf) +
      (if s.handle self = some buf then 1 else 0) = s.holding buf) :
    Counted { s.release self with buffers := buffers } := by
  cases held : s.handle self with
  | none =>
    have unchanged : s.release self = s := by simp [release, held]
    rw [unchanged]
    refine counted_of_count counted fun buf => ?_
    simpa [held, holding] using less buf
  | some buf =>
    have unfolded : s.release self = s.decRefcount buf := by simp [release, held]
    rw [unfolded]
    constructor
    · intro other
      have before := counted.refcount other
      have fewer := less other
      simp only [held, Option.some.injEq] at fewer
      by_cases same : other = buf
      · subst same
        simp [decRefcount, holding] at before fewer ⊢
        omega
      · simp [decRefcount, holding, same, Ne.symm same] at before fewer ⊢
        omega
    · intro entry mem
      obtain rfl | mem := List.mem_cons.mp mem
      · exact ⟨Population.count_pos_of_read (read_of_alive live) (by simp [held]),
          counted.refcount buf⟩
      · exact counted.log entry mem

theorem counted_construct (counted : s.Counted) (fresh : s.Fresh value) :
    (s.construct value).Counted := by
  cases value with
  | none => exact counted_create counted none (by simp [handOut])
  | some buf =>
    refine counted_create counted (some buf) fun other => ?_
    have unheld : s.refcount buf = 0 := fresh
    by_cases same : other = buf
    · subst same
      simp [handOut, unheld]
    · simp [handOut, same, Ne.symm same]

theorem counted_copyConstruct (counted : s.Counted) (other : BufferId) :
    (s.copyConstruct other).Counted := by
  unfold copyConstruct
  cases s.handle other with
  | none => exact counted_create counted none (by simp)
  | some buf =>
    refine counted_create counted (some buf) fun other => ?_
    by_cases same : other = buf
    · simp [same]
    · simp [same, Ne.symm same]

theorem counted_moveConstruct (counted : s.Counted) (live : s.alive other) :
    (s.moveConstruct other).Counted := by
  refine counted_of_count counted fun buf => ?_
  have less := Population.count_write (P := (· = some buf)) (read_of_alive live) none
  rw [Population.count_create]
  simpa using less

theorem counted_swap (counted : s.Counted) (target : s.alive self) (source : s.alive other) :
    (s.swap self other).Counted := by
  have first := read_of_alive target
  refine counted_of_count counted fun buf => ?_
  by_cases same : self = other
  · subst same
    rw [Population.write_write, Population.write_read first]
  · exact Population.count_exchange first (read_of_alive source) same

theorem counted_clear (counted : s.Counted) (live : s.alive self) : (s.clear self).Counted := by
  have found := read_of_alive live
  have written : s.clear self =
      { s.release self with buffers := s.buffers.write self none } := by
    unfold clear release
    cases held : s.handle self with
    | none =>
      rw [held] at found
      simp [Population.write_read found]
    | some buf => rfl
  rw [written]
  refine counted_release counted live fun buf => ?_
  simpa [holding] using Population.count_write (P := (· = some buf)) found none

theorem counted_destroy (counted : s.Counted) (live : s.alive self) :
    (s.destroy self).Counted := by
  refine counted_release counted live fun buf => ?_
  rw [buffers_release]
  simpa [holding] using Population.count_destroy (P := (· = some buf)) (read_of_alive live)

/-! What an assignment makes of its local variable: the handles are exchanged, and the old one
goes with the variable. -/

theorem alive_copyConstruct {buffer : BufferId} :
    (s.copyConstruct other).alive buffer ↔ buffer = s.buffers.size ∨ s.alive buffer := by
  rw [alive, copyConstruct, buffers_incRefcount, Population.isSome_read_create, alive]

theorem alive_moveConstruct {buffer : BufferId} (live : s.alive other) :
    (s.moveConstruct other).alive buffer ↔ buffer = s.buffers.size ∨ s.alive buffer := by
  rw [alive, moveConstruct, Population.isSome_read_create, Population.isSome_read_write live,
    Population.size_write, alive]

theorem alive_swap {buffer : BufferId} (target : s.alive self) (source : s.alive other) :
    (s.swap self other).alive buffer ↔ s.alive buffer := by
  have still : ((s.buffers.write self (s.handle other)).read other).isSome :=
    (Population.isSome_read_write target).mpr source
  rw [alive, swap, Population.isSome_read_write still,
    Population.isSome_read_write target, alive]

theorem counted_exchange (counted : s.Counted) (target : s.alive self) (source : s.alive other) :
    ((s.swap self other).destroy other).Counted :=
  counted_destroy (counted_swap counted target source) ((alive_swap target source).mpr source)

theorem counted_step (counted : s.Counted) (taken : s.step op = some t) : t.Counted := by
  cases op with
  | construct value =>
    simp only [step, Option.ite_none_right_eq_some, Option.some.injEq] at taken
    obtain ⟨fresh, rfl⟩ := taken
    exact counted_construct counted fresh
  | copyConstruct other =>
    simp only [step, Option.ite_none_right_eq_some, Option.some.injEq] at taken
    obtain ⟨-, rfl⟩ := taken
    exact counted_copyConstruct counted other
  | moveConstruct other =>
    simp only [step, Option.ite_none_right_eq_some, Option.some.injEq] at taken
    obtain ⟨source, rfl⟩ := taken
    exact counted_moveConstruct counted source
  | copyAssign self other =>
    simp only [step, Option.ite_none_right_eq_some, Option.some.injEq] at taken
    obtain ⟨⟨target, -⟩, rfl⟩ := taken
    exact counted_exchange (counted_copyConstruct counted other)
      (alive_copyConstruct.mpr (.inr target)) (alive_copyConstruct.mpr (.inl rfl))
  | moveAssign self other =>
    simp only [step, Option.ite_none_right_eq_some, Option.some.injEq] at taken
    obtain ⟨⟨target, source⟩, rfl⟩ := taken
    exact counted_exchange (counted_moveConstruct counted source)
      ((alive_moveConstruct source).mpr (.inr target)) ((alive_moveConstruct source).mpr (.inl rfl))
  | swap self other =>
    simp only [step, Option.ite_none_right_eq_some, Option.some.injEq] at taken
    obtain ⟨⟨target, source⟩, rfl⟩ := taken
    exact counted_swap counted target source
  | clear self =>
    simp only [step, Option.ite_none_right_eq_some, Option.some.injEq] at taken
    obtain ⟨live, rfl⟩ := taken
    exact counted_clear counted live
  | destroy self =>
    simp only [step, Option.ite_none_right_eq_some, Option.some.injEq] at taken
    obtain ⟨live, rfl⟩ := taken
    exact counted_destroy counted live

theorem counted_init : Counted {} := ⟨fun _ => rfl, by simp⟩

theorem counted_exec {ops : List BufferOp} (counted : s.Counted)
    (done : exec step s ops = some t) : t.Counted := by
  have run : Run step Always s ops t := ⟨done, meets_always s ops⟩
  exact run.invariant Counted (fun _ _ _ before _ taken => counted_step before taken) counted

/-- No reference is left exactly if no buffer is. -/
theorem Counted.refcount_eq_zero_iff (counted : s.Counted) :
    s.refcount buf = 0 ↔ ∀ buffer, s.handle buffer ≠ some buf := by
  rw [counted.refcount, Int.natCast_eq_zero, holding, Population.count_eq_zero_iff]
  constructor
  · intro unheld buffer held
    have found : s.buffers.read buffer = some (some buf) := Option.join_eq_some_iff.mp held
    simpa using unheld buffer (some buf) found
  · intro unheld buffer value found
    rw [decide_eq_false_iff_not]
    rintro rfl
    exact unheld buffer (Option.join_eq_some_iff.mpr found)

end Buffers

/-! ## The callbacks of the managed receive queues -/

/-- A callback that has not returned, with its local buffers: the one it made of the packet and
the parameter of `supply`, or those of the vector it made of a batch. -/
inductive CallbackFrame
  | managed (data newPayload : BufferId)
  | batchManaged (buffers : List BufferId)
  deriving DecidableEq, Repr

/-- The buffers, and the `std::vector<buffer>` objects with their elements. -/
structure Reception where
  buffers : Buffers := {}
  vectors : Population (List BufferId) := {}
  stack : List CallbackFrame := []

/-- Something is done with a buffer; a callback runs up to the point where a coroutine may be
resumed, or returns; a vector is copied, moved or destroyed. -/
inductive ReceptionLabel
  | buffer (op : BufferOp)
  | eventManagedRecv (pkt : Option DocaBuf)
  | eventBatchManagedRecv (event : Eth.BatchEvent (Option DocaBuf))
  | callbackReturn
  | copyVector (vector : ℕ)
  | moveVector (vector : ℕ)
  | destroyVector (vector : ℕ)

namespace Reception

variable (s : Reception) {t : Reception} {label : ReceptionLabel}

/-- The number the next buffer gets. -/
def next : BufferId := s.buffers.buffers.size

def perform (ops : List BufferOp) : Option Reception :=
  (exec Buffers.step s.buffers ops).map fun buffers => { s with buffers := buffers }

/-- `event_managed_recv_callback` up to the end of `supply`'s own work. The parameter of `supply`
is a copy, which is moved into the queue or into the receptable of an accepter. -/
def eventManagedRecv (pkt : Option DocaBuf) : Option Reception :=
  let data := s.next
  let newPayload := data + 1
  (s.perform [.construct pkt, .copyConstruct data, .moveConstruct newPayload]).map fun s =>
    { s with stack := .managed data newPayload :: s.stack }

/-- `event_batch_managed_recv_callback`. The copy of the vector keeps its elements when it is
moved on. -/
def eventBatchManagedRecv (event : Eth.BatchEvent (Option DocaBuf)) : Option Reception :=
  match Eth.eventBatchManagedRecv event with
  | none => some s
  | some pkts =>
      let buffers := List.range' s.next pkts.length
      let copies := List.range' (s.next + pkts.length) pkts.length
      (s.perform (pkts.map .construct ++ buffers.map .copyConstruct)).map fun s =>
        { s with
          vectors := s.vectors.create copies
          stack := .batchManaged buffers :: s.stack }

/-- The local variables of the callback on top are destroyed, the parameter of `supply` first. -/
def callbackReturn : Option Reception :=
  match s.stack with
  | [] => none
  | .managed data newPayload :: callers =>
      { s with stack := callers }.perform [.destroy newPayload, .destroy data]
  | .batchManaged buffers :: callers =>
      { s with stack := callers }.perform (buffers.map .destroy)

/-- The copy constructor of a vector, which copies each element. -/
def copyVector (vector : ℕ) : Option Reception :=
  (s.vectors.read vector).bind fun elements =>
    (s.perform (elements.map .copyConstruct)).map fun t =>
      { t with vectors := t.vectors.create (List.range' s.next elements.length) }

/-- The move constructor of a vector, which takes the elements over. -/
def moveVector (vector : ℕ) : Option Reception :=
  (s.vectors.read vector).map fun elements =>
    { s with vectors := (s.vectors.write vector []).create elements }

def destroyVector (vector : ℕ) : Option Reception :=
  (s.vectors.read vector).bind fun elements =>
    (s.perform (elements.map .destroy)).map fun s =>
      { s with vectors := s.vectors.destroy vector }

def step (s : Reception) : ReceptionLabel → Option Reception
  | .buffer op => s.perform [op]
  | .eventManagedRecv pkt => s.eventManagedRecv pkt
  | .eventBatchManagedRecv event => s.eventBatchManagedRecv event
  | .callbackReturn => s.callbackReturn
  | .copyVector vector => s.copyVector vector
  | .moveVector vector => s.moveVector vector
  | .destroyVector vector => s.destroyVector vector

variable {s}

theorem exec_of_perform {ops : List BufferOp} (done : s.perform ops = some t) :
    exec Buffers.step s.buffers ops = some t.buffers := by
  obtain ⟨buffers, reached, rfl⟩ := Option.map_eq_some_iff.mp done
  exact reached

/-- Whatever happens is a sequence of operations on buffers. -/
theorem exec_of_step (taken : step s label = some t) :
    ∃ ops, exec Buffers.step s.buffers ops = some t.buffers := by
  cases label with
  | buffer op => exact ⟨_, exec_of_perform taken⟩
  | eventManagedRecv pkt =>
    obtain ⟨u, done, rfl⟩ := Option.map_eq_some_iff.mp taken
    have reached := exec_of_perform done
    exact ⟨_, reached⟩
  | eventBatchManagedRecv event =>
    simp only [step, eventBatchManagedRecv] at taken
    split at taken
    · obtain rfl := Option.some.inj taken
      exact ⟨[], rfl⟩
    · obtain ⟨u, done, rfl⟩ := Option.map_eq_some_iff.mp taken
      have reached := exec_of_perform done
      exact ⟨_, reached⟩
  | callbackReturn =>
    simp only [step, callbackReturn] at taken
    split at taken
    · contradiction
    · have reached := exec_of_perform taken
      exact ⟨_, reached⟩
    · have reached := exec_of_perform taken
      exact ⟨_, reached⟩
  | copyVector vector | destroyVector vector =>
    obtain ⟨elements, -, taken⟩ := Option.bind_eq_some_iff.mp taken
    obtain ⟨u, done, rfl⟩ := Option.map_eq_some_iff.mp taken
    have reached := exec_of_perform done
    exact ⟨_, reached⟩
  | moveVector vector =>
    obtain ⟨elements, -, rfl⟩ := Option.map_eq_some_iff.mp taken
    exact ⟨[], rfl⟩

theorem counted_of_run {labels : List ReceptionLabel} (run : Run step Always {} labels s) :
    s.buffers.Counted := by
  refine run.invariant (fun s => s.buffers.Counted) (fun _ _ _ counted _ taken => ?_)
    Buffers.counted_init
  obtain ⟨ops, done⟩ := exec_of_step taken
  exact Buffers.counted_exec counted done

/-- **Reference counts are exact.** After any operations on buffers and on vectors of them, and
in the middle of any callbacks, the count of every `doca_buf` is the number of live buffers
that hold it; it is zero exactly if there are none, and a release that made it zero was that of
the last one. -/
theorem refcount_exact (labels : List ReceptionLabel) (s : Reception)
    (run : Run step Always {} labels s) :
    (∀ buf, s.buffers.refcount buf = s.buffers.holding buf) ∧
    (∀ buf, s.buffers.refcount buf = 0 ↔ ∀ buffer, s.buffers.handle buffer ≠ some buf) ∧
    ∀ entry ∈ s.buffers.log, 0 < entry.holding ∧
      (entry.refcount - 1 = 0 ↔ entry.holding = 1) := by
  have counted := counted_of_run run
  refine ⟨counted.refcount, fun buf => counted.refcount_eq_zero_iff, fun entry mem => ?_⟩
  obtain ⟨held, same⟩ := counted.log entry mem
  refine ⟨held, ?_⟩
  omega

/-- A batch of two packets is received, and a coroutine copies the vector and assigns its elements
to each other and to themselves before the callback returns. Then a single packet is moved over one
of them, and the vector of the queue is destroyed. -/
def received : List ReceptionLabel :=
  [.eventBatchManagedRecv ⟨2, .success, [some 7, some 8, some 9]⟩, .copyVector 0,
    .buffer (.copyAssign 4 5), .buffer (.moveAssign 4 4), .buffer (.swap 4 4), .callbackReturn,
    .eventManagedRecv (some 9), .callbackReturn, .buffer (.moveAssign 5 10), .destroyVector 0]

theorem refcount_exact_received :
    ∃ s, Run step Always {} received s ∧ s.buffers.refcount 7 = 0 ∧ s.buffers.refcount 8 = 1 ∧
      s.buffers.refcount 9 = 1 ∧ s.buffers.holding 8 = 1 := by
  have run : Run step Always {} received _ := ⟨rfl, meets_always _ _⟩
  have counted := (refcount_exact received _ run).1
  exact ⟨_, run, rfl, rfl, rfl, Int.ofNat.inj ((counted 8).symm.trans rfl)⟩

end Reception

end Shoc.Memory
