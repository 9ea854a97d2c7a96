/-
# The elements of an inventory or a pool

A `buffer_inventory` and a `buffer_pool` own a fixed number of `doca_buf` elements. An
element is taken when a buffer is made of it, and goes back when the last reference
to it is given up: the classes themselves never see that happen, it follows from what
becomes of the buffers. So whether a stock runs dry depends on every copy that a user
or a callback makes.

`allocate_buffer(data_length, data_offset)` makes a second reference, because it returns
`{ buf }`, and gives the first one up when its local variable goes; if `set_data` throws,
the local variable is the only reference there was.
-/

import Shoc.Memory.Buffer

namespace Shoc.Memory

open Data Transition

namespace Buffers

variable {s t u : Buffers} {op : BufferOp} {self other : BufferId} {entries : List Release}

/-! ## Which elements an operation gives back -/

/-- Nothing was handed out between `s` and `t`. What has no reference any more had none before, or
its last one was given up in between, which the log shows. -/
structure GivesBack (s t : Buffers) (entries : List Release) : Prop where
  log : t.log = entries ++ s.log
  few : entries.length ≤ 1
  zero : ∀ buf, t.refcount buf = 0 ↔
    s.refcount buf = 0 ∨ ∃ entry ∈ entries, entry.buf = buf ∧ entry.refcount = 1
  held : ∀ entry ∈ entries, s.refcount entry.buf ≠ 0

/-- Handles are moved about. -/
theorem GivesBack.of_refcount (log : t.log = s.log) (same : t.refcount = s.refcount) :
    GivesBack s t [] :=
  ⟨log, by simp, by simp [same], by simp⟩

theorem GivesBack.trans (first : GivesBack s t []) (second : GivesBack t u entries) :
    GivesBack s u entries where
  log := by rw [second.log, first.log, List.nil_append]
  few := second.few
  zero buf := by
    rw [second.zero, first.zero]
    simp
  held entry mem := by
    have unheld := (first.zero entry.buf).not.mp (second.held entry mem)
    exact fun zero => unheld (.inl zero)

theorem Counted.refcount_pos (counted : s.Counted) {buf : DocaBuf}
    (held : s.handle self = some buf) : 0 < s.refcount buf := by
  have found : s.buffers.read self = some (some buf) := Option.join_eq_some_iff.mp held
  have many := Population.count_pos_of_read (P := (· = some buf)) found (by simp)
  have same := counted.refcount buf
  unfold holding at same
  omega

theorem givesBack_copyConstruct (counted : s.Counted) (other : BufferId) :
    GivesBack s (s.copyConstruct other) [] := by
  cases held : s.handle other with
  | none =>
    unfold copyConstruct
    rw [held]
    exact .of_refcount rfl rfl
  | some buf =>
    have many := counted.refcount_pos held
    refine ⟨by simp [copyConstruct, held, incRefcount], by simp, fun other => ?_, by simp⟩
    by_cases same : other = buf
    · subst same
      simp only [copyConstruct, held, incRefcount, Function.update_self, List.not_mem_nil,
        false_and, exists_false, or_false]
      omega
    · simp [copyConstruct, held, incRefcount, same]

theorem givesBack_release (counted : s.Counted) (self : BufferId)
    (buffers : Population (Option DocaBuf)) :
    ∃ entries, GivesBack s { s.release self with buffers := buffers } entries := by
  cases held : s.handle self with
  | none => exact ⟨[], .of_refcount (by simp [release, held]) (by simp [release, held])⟩
  | some buf =>
    have many := counted.refcount_pos held
    refine ⟨[⟨buf, s.refcount buf, s.holding buf⟩], ?_⟩
    refine ⟨by simp [release, held, decRefcount], by simp, fun other => ?_, ?_⟩
    · by_cases same : other = buf
      · subst same
        simp only [release, held, decRefcount, Function.update_self, List.mem_singleton,
          exists_eq_left, true_and]
        omega
      · simp [release, held, decRefcount, same, Ne.symm same]
    · intro entry mem
      obtain rfl := List.mem_singleton.mp mem
      exact Int.ne_of_gt many

theorem givesBack_clear (counted : s.Counted) (self : BufferId) :
    ∃ entries, GivesBack s (s.clear self) entries := by
  cases held : s.handle self with
  | none => exact ⟨[], .of_refcount (by simp [clear, held]) (by simp [clear, held])⟩
  | some buf =>
    have same : s.clear self =
        { s.release self with buffers := s.buffers.write self none } := by
      simp [clear, release, held, setHandle, decRefcount]
    rw [same]
    exact givesBack_release counted self _

/-- An assignment gives back what the target held, and nothing if that is what it is assigned. -/
theorem givesBack_exchange (made : GivesBack s t []) (counted : t.Counted)
    (target : t.alive self) (source : t.alive other) :
    ∃ entries, GivesBack s ((t.swap self other).destroy other) entries := by
  have swapped : GivesBack s (t.swap self other) [] := made.trans (.of_refcount rfl rfl)
  obtain ⟨entries, given⟩ := givesBack_release (counted_swap counted target source) other
    (((t.swap self other).release other).buffers.destroy other)
  exact ⟨entries, swapped.trans given⟩

theorem givesBack_step (counted : s.Counted) (taken : s.step op = some t)
    (old : ∀ buf, op ≠ .construct (some buf)) : ∃ entries, GivesBack s t entries := by
  cases op with
  | construct value =>
    simp only [step, Option.ite_none_right_eq_some, Option.some.injEq] at taken
    obtain ⟨-, rfl⟩ := taken
    cases value with
    | none => exact ⟨[], .of_refcount rfl rfl⟩
    | some buf => exact absurd rfl (old buf)
  | copyConstruct other =>
    simp only [step, Option.ite_none_right_eq_some, Option.some.injEq] at taken
    obtain ⟨-, rfl⟩ := taken
    exact ⟨[], givesBack_copyConstruct counted other⟩
  | moveConstruct other | swap self other =>
    simp only [step, Option.ite_none_right_eq_some, Option.some.injEq] at taken
    obtain ⟨-, rfl⟩ := taken
    exact ⟨[], .of_refcount rfl rfl⟩
  | copyAssign self other =>
    simp only [step, Option.ite_none_right_eq_some, Option.some.injEq] at taken
    obtain ⟨⟨target, -⟩, rfl⟩ := taken
    exact givesBack_exchange (givesBack_copyConstruct counted other)
      (counted_copyConstruct counted other) (alive_copyConstruct.mpr (.inr target))
      (alive_copyConstruct.mpr (.inl rfl))
  | moveAssign self other =>
    simp only [step, Option.ite_none_right_eq_some, Option.some.injEq] at taken
    obtain ⟨⟨target, source⟩, rfl⟩ := taken
    exact givesBack_exchange (.of_refcount rfl rfl) (counted_moveConstruct counted source)
      ((alive_moveConstruct source).mpr (.inr target))
      ((alive_moveConstruct source).mpr (.inl rfl))
  | clear self =>
    simp only [step, Option.ite_none_right_eq_some, Option.some.injEq] at taken
    obtain ⟨-, rfl⟩ := taken
    exact givesBack_clear counted self
  | destroy self =>
    simp only [step, Option.ite_none_right_eq_some, Option.some.injEq] at taken
    obtain ⟨-, rfl⟩ := taken
    exact givesBack_release counted self _

end Buffers

/-! ## Stocks -/

/-- An inventory or a pool with its elements and those of them that are free, among all buffers of
the program. -/
structure Stock where
  buffers : Buffers := {}
  elements : List DocaBuf
  free : List DocaBuf

/-- What happens to a stock:
- one of the getters of an inventory, its `buf_dup`, or `allocate_buffer()` of a pool makes a buffer
  of a free element, which the SDK picks;
- any of them is refused and throws;
- `allocate_buffer(data_length, data_offset)`, whose `set_data` is accepted or throws;
- something is done with a buffer, whether it is of the stock or not. -/
inductive StockLabel
  | get (buf : DocaBuf)
  | refused
  | allocate (buf : DocaBuf) (accepted : Bool)
  | buffer (op : BufferOp)
  deriving DecidableEq, Repr

namespace Stock

variable (s : Stock) {t : Stock} {label : StockLabel} {op : BufferOp}

/-- A stock after it was started. -/
def fresh (elements : List DocaBuf) : Stock := { elements := elements, free := elements }

/-- `get_num_elements`, `num_elements`. -/
def numElements : ℕ := s.elements.length

/-- `get_num_free_elements`, `num_free_elements`. -/
def numFreeElements : ℕ := s.free.length

/-- The elements whose last reference was given up between two states. -/
def returned (before after : Buffers) : List DocaBuf :=
  ((after.log.take (after.log.length - before.log.length)).filter
    fun entry => entry.refcount = 1 ∧ entry.buf ∈ s.elements).map Release.buf

/-- An operation on buffers, after which the SDK has its elements back. -/
def operate (op : BufferOp) : Option Stock :=
  (s.buffers.step op).map fun buffers =>
    { s with buffers := buffers, free := s.returned s.buffers buffers ++ s.free }

/-- `buf_get_by_args`, `buf_get_by_addr`, `buf_get_by_data`, `buf_dup`, `allocate_buffer()`. -/
def get (buf : DocaBuf) : Option Stock :=
  if buf ∈ s.free then
    { s with free := s.free.erase buf }.operate (.construct (some buf))
  else none

/-- `allocate_buffer(data_length, data_offset)`. -/
def allocate (buf : DocaBuf) (accepted : Bool) : Option Stock :=
  let temporary := s.buffers.buffers.size
  (s.get buf).bind fun s =>
    if accepted then
      (s.operate (.copyConstruct temporary)).bind fun s => s.operate (.destroy temporary)
    else
      s.operate (.destroy temporary)

/-- The elements of the stock are handed out by the stock alone. -/
def Foreign : BufferOp → Prop
  | .construct (some buf) => buf ∉ s.elements
  | _ => True

instance : DecidablePred s.Foreign
  | .construct (some _) => inferInstanceAs (Decidable (¬ _))
  | .construct none | .copyConstruct _ | .moveConstruct _ | .copyAssign _ _ | .moveAssign _ _
  | .swap _ _ | .clear _ | .destroy _ => inferInstanceAs (Decidable True)

def step (s : Stock) : StockLabel → Option Stock
  | .get buf => s.get buf
  | .refused => some s
  | .allocate buf accepted => s.allocate buf accepted
  | .buffer op => if s.Foreign op then s.operate op else none

/-- The free elements are those that have no reference. -/
structure Balanced (s : Stock) (elements : List DocaBuf) : Prop where
  counted : s.buffers.Counted
  same : s.elements = elements
  nodup : s.free.Nodup
  free : ∀ buf, buf ∈ s.free ↔ buf ∈ elements ∧ s.buffers.refcount buf = 0

variable {s} {elements : List DocaBuf}

theorem balanced_fresh (distinct : elements.Nodup) : (fresh elements).Balanced elements :=
  ⟨Buffers.counted_init, rfl, distinct, by simp [fresh]⟩

theorem returned_of_append {before after : Buffers} {entries : List Release}
    (log : after.log = entries ++ before.log) :
    s.returned before after =
      (entries.filter fun entry =>
        entry.refcount = 1 ∧ entry.buf ∈ s.elements).map Release.buf := by
  simp [returned, log]

/-- An operation that hands nothing out. -/
theorem balanced_operate (balanced : s.Balanced elements) (old : ∀ buf, op ≠ .construct (some buf))
    (taken : s.operate op = some t) : t.Balanced elements := by
  obtain ⟨buffers, done, rfl⟩ := Option.map_eq_some_iff.mp taken
  obtain ⟨entries, given⟩ := Buffers.givesBack_step balanced.counted done old
  have back := returned_of_append (s := s) given.log
  refine ⟨Buffers.counted_step balanced.counted done, balanced.same, ?_, fun buf => ?_⟩
  · rw [back]
    refine List.nodup_append.mpr ⟨?_, balanced.nodup, ?_⟩
    · have few : (entries.filter fun entry =>
          entry.refcount = 1 ∧ entry.buf ∈ s.elements).length ≤ 1 :=
        Nat.le_trans (List.length_filter_le _ _) given.few
      refine List.pairwise_iff_getElem.mpr fun i j first second less => ?_
      rw [List.length_map] at second
      omega
    · -- What comes back now had a reference before, so it was not free.
      rintro buf returned _ free rfl
      obtain ⟨entry, mem, rfl⟩ := List.mem_map.mp returned
      exact given.held entry (List.mem_of_mem_filter mem) ((balanced.free _).mp free).2
  · rw [back, List.mem_append, balanced.free, given.zero, balanced.same]
    simp only [List.mem_map, List.mem_filter, decide_eq_true_eq]
    constructor
    · rintro (⟨entry, ⟨mem, last, member⟩, rfl⟩ | ⟨member, zero⟩)
      · exact ⟨member, .inr ⟨entry, mem, rfl, last⟩⟩
      · exact ⟨member, .inl zero⟩
    · rintro ⟨member, zero | ⟨entry, mem, rfl, last⟩⟩
      · exact .inr ⟨member, zero⟩
      · exact .inl ⟨entry, ⟨mem, last, member⟩, rfl⟩

/-- A `doca_buf` is handed out, from this stock or from elsewhere. -/
theorem balanced_construct {buf : DocaBuf} {free : List DocaBuf} (balanced : s.Balanced elements)
    (taken : { s with free := free }.operate (.construct (some buf)) = some t)
    (nodup : free.Nodup) (left : ∀ other, other ∈ free ↔ other ∈ s.free ∧ other ≠ buf) :
    t.Balanced elements := by
  obtain ⟨buffers, done, rfl⟩ := Option.map_eq_some_iff.mp taken
  have counted := Buffers.counted_step balanced.counted done
  simp only [Buffers.step, Option.ite_none_right_eq_some, Option.some.injEq] at done
  obtain ⟨-, rfl⟩ := done
  have back : { s with free := free }.returned s.buffers (s.buffers.construct (some buf)) = [] :=
    @returned_of_append _ _ _ [] rfl
  refine ⟨counted, balanced.same, ?_, fun other => ?_⟩
  · rw [back]
    exact nodup
  · rw [back, List.nil_append, left, balanced.free, and_assoc]
    by_cases same : other = buf
    · simp [Buffers.construct, Buffers.handOut, same]
    · simp [Buffers.construct, Buffers.handOut, same]

theorem balanced_get {buf : DocaBuf} (balanced : s.Balanced elements)
    (taken : s.get buf = some t) : t.Balanced elements := by
  simp only [get, Option.ite_none_right_eq_some] at taken
  refine balanced_construct balanced taken.2 (balanced.nodup.erase buf) fun other => ?_
  rw [balanced.nodup.mem_erase_iff, and_comm]

theorem balanced_allocate {buf : DocaBuf} {accepted : Bool} (balanced : s.Balanced elements)
    (taken : s.allocate buf accepted = some t) : t.Balanced elements := by
  obtain ⟨u, got, taken⟩ := Option.bind_eq_some_iff.mp taken
  have middle := balanced_get balanced got
  cases accepted with
  | true =>
    obtain ⟨v, copied, destroyed⟩ := Option.bind_eq_some_iff.mp taken
    exact balanced_operate (balanced_operate middle (by simp) copied) (by simp) destroyed
  | false => exact balanced_operate middle (by simp) taken

theorem balanced_step (balanced : s.Balanced elements) (taken : s.step label = some t) :
    t.Balanced elements := by
  cases label with
  | get buf => exact balanced_get balanced taken
  | refused =>
    obtain rfl := Option.some.inj taken
    exact balanced
  | allocate buf accepted => exact balanced_allocate balanced taken
  | buffer op =>
    simp only [step, Option.ite_none_right_eq_some] at taken
    obtain ⟨foreign, taken⟩ := taken
    by_cases new : ∃ buf, op = .construct (some buf)
    · obtain ⟨buf, rfl⟩ := new
      refine balanced_construct balanced taken balanced.nodup fun other => ?_
      refine ⟨fun mem => ⟨mem, ?_⟩, And.left⟩
      rintro rfl
      have member := ((balanced.free other).mp mem).1
      exact foreign (balanced.same ▸ member)
    · exact balanced_operate balanced (fun buf same => new ⟨buf, same⟩) taken

/-- Whether any live buffer holds an element. -/
def held (s : Stock) (buf : DocaBuf) : Bool := decide (0 < s.buffers.holding buf)

theorem Balanced.mem_free_iff (balanced : s.Balanced elements) {buf : DocaBuf}
    (member : buf ∈ elements) : buf ∈ s.free ↔ s.held buf = false := by
  have same := balanced.counted.refcount buf
  rw [balanced.free, held, decide_eq_false_iff_not]
  constructor
  · rintro ⟨-, zero⟩
    omega
  · intro none
    exact ⟨member, by omega⟩

theorem Balanced.length_free (balanced : s.Balanced elements) (distinct : elements.Nodup) :
    s.free.length = (elements.filter fun buf => !s.held buf).length := by
  refine List.Perm.length_eq ((List.perm_ext_iff_of_nodup balanced.nodup
    (distinct.filter _)).mpr fun buf => ?_)
  rw [List.mem_filter]
  constructor
  · intro free
    have member := ((balanced.free buf).mp free).1
    simpa [member] using (balanced.mem_free_iff member).mp free
  · rintro ⟨member, unheld⟩
    exact (balanced.mem_free_iff member).mpr (by simpa using unheld)

/-- **A stock loses no element and hands none out twice.** After any calls of the getters, refused
ones and throwing ones among them, and after anything that was done with the buffers, the free
elements and the elements that some live buffer holds make up the stock: an element is free
exactly if no buffer holds it, and the stock is complete again when the buffers are gone. -/
theorem elements_conserved (elements : List DocaBuf) (distinct : elements.Nodup)
    (labels : List StockLabel) (s : Stock) (run : Run step Always (fresh elements) labels s) :
    s.numElements = elements.length ∧
    s.numFreeElements + (elements.filter s.held).length = s.numElements ∧
    (∀ buf ∈ elements, buf ∈ s.free ↔ ∀ buffer, s.buffers.handle buffer ≠ some buf) ∧
    ((∀ buffer, s.buffers.alive buffer = false) → s.numFreeElements = s.numElements) := by
  have balanced : s.Balanced elements := run.invariant (Balanced · elements)
    (fun _ _ _ before _ taken => balanced_step before taken) (balanced_fresh distinct)
  have split : s.numFreeElements + (elements.filter s.held).length = elements.length := by
    unfold numFreeElements
    rw [balanced.length_free distinct, Nat.add_comm]
    exact (List.length_eq_length_filter_add s.held).symm
  have size : s.numElements = elements.length := congrArg List.length balanced.same
  refine ⟨size, split.trans size.symm, fun buf member => ?_, fun gone => ?_⟩
  · rw [balanced.free, ← balanced.counted.refcount_eq_zero_iff]
    exact and_iff_right member
  · have none : elements.filter s.held = [] := by
      refine List.filter_eq_nil_iff.mpr fun buf _ => ?_
      have zero : s.buffers.refcount buf = 0 := by
        refine balanced.counted.refcount_eq_zero_iff.mpr fun buffer handle => ?_
        have found : s.buffers.buffers.read buffer = some (some buf) :=
          Option.join_eq_some_iff.mp handle
        have dead := gone buffer
        simp [Buffers.alive, found] at dead
      have same := balanced.counted.refcount buf
      simp only [held, decide_eq_true_eq]
      omega
    rw [none] at split
    exact split.trans size.symm

/-- A pool of three: an allocation with data, one whose data does not fit, a plain one that is
assigned over the first, and a copy that outlives it. -/
def pooled : List StockLabel :=
  [.allocate 5 true, .allocate 6 false, .get 6, .refused, .buffer (.copyAssign 1 3),
    .buffer (.destroy 3), .buffer (.construct (some 9)), .buffer (.moveConstruct 1)]

theorem elements_conserved_pooled :
    ∃ s, Run step Always (fresh [5, 6, 7]) pooled s ∧ s.numFreeElements = 2 ∧
      s.numFreeElements + ([5, 6, 7].filter s.held).length = s.numElements := by
  have run : Run step Always (fresh [5, 6, 7]) pooled _ := ⟨rfl, meets_always _ _⟩
  exact ⟨_, run, rfl, (elements_conserved [5, 6, 7] (by decide) pooled _ run).2.1⟩

end Stock

end Shoc.Memory
