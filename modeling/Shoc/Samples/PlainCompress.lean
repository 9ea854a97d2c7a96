/-
# Compressing a file with callbacks

The directory `plain_doca` has the samples `simple_compress` and `parallel_compress`
once more, in C and on the callbacks of the SDK. When the context runs, its callback
submits the first task or the first four. The callback of a task that has completed
submits the next one, and stops the context after the last; that of a task that has
failed stops the context. The main loop ends when the context is idle.

Where both versions come to an end and the device succeeds, they write the same file,
although the tasks are started in a different order. In contrast to the coroutines, the
callbacks ignore a failure of `offload_next`. If nothing is in flight then, the
context is never stopped, and the main loop does not end. Without batches nothing is ever
in flight, so that this is the outcome if the SDK accepts memory maps without bytes. And
the sizes of the buffers are computed in 32 bits.
-/

import Shoc.Doca.Basic
import Shoc.Samples.CompressFile

namespace Shoc.Samples

open Data Memory Transition LittleEndian

/-- How `offload_next` ends: it gets no input buffer, no output buffer or no task, or the task
cannot be submitted, or all goes well. -/
inductive OffloadResult
  | noInput
  | noOutput
  | noTask
  | notSubmitted
  | submitted
  deriving DecidableEq, Repr

/-- The `compression_state` with what is in its output regions, the number of buffers taken from
its inventory, the tasks in flight with the numbers of their batches, and the context. -/
structure PlainCompress where
  offloaded : ℕ := 0
  completed : ℕ := 0
  outRegions : ℕ → List UInt8 := fun _ => []
  buffers : ℕ := 0
  inFlight : List ℕ := []
  ctx : CtxState := .starting

/-- The callbacks: the context runs, a task has completed or failed, the context is idle. Those
that submit tasks come with what happens to them. -/
inductive PlainLabel
  | running (results : List OffloadResult)
  | completed (num : ℕ) (result : OffloadResult)
  | failed (num : ℕ)
  | idle
  deriving DecidableEq, Repr

/-- How often `compress_state_changed_callback` calls `offload_next`. -/
def CompressSample.firstOffloads (blockCount : ℕ) : CompressSample → ℕ
  | .parallel => min parallelism blockCount
  | .simple => 1

namespace PlainCompress

variable (s : PlainCompress)

def getBuffer : PlainCompress := { s with buffers := s.buffers + 1 }

def decRefcount : PlainCompress := { s with buffers := s.buffers - 1 }

def offloadNext (s : PlainCompress) : OffloadResult → PlainCompress
  | .noInput => s
  | .noOutput => s.getBuffer.decRefcount
  | .noTask | .notSubmitted => s.getBuffer.getBuffer.decRefcount.decRefcount
  | .submitted =>
      { s.getBuffer.getBuffer with
        offloaded := s.offloaded + 1
        inFlight := s.offloaded :: s.inFlight }

/-- `doca_ctx_stop`, which is refused unless the context runs. -/
def stop : PlainCompress := if s.ctx = .running then { s with ctx := .stopping } else s

/-- A task gives its buffers back and is freed. -/
def release (num : ℕ) : PlainCompress :=
  { s.decRefcount.decRefcount with inFlight := s.inFlight.erase num }

def store (num : ℕ) (data : List UInt8) : PlainCompress :=
  { s with
    completed := s.completed + 1
    outRegions := Function.update s.outRegions num data }

/-- The end of `compress_completed_callback`. -/
def goOn (blockCount : ℕ) (result : OffloadResult) : PlainCompress :=
  if s.offloaded < blockCount then s.offloadNext result
  else if s.completed = blockCount then s.stop
  else s

/-- One callback. Nothing can be submitted to a context that does not run, and a context that
stops fails its tasks whatever the device would make of them. -/
def step (kind : CompressSample) (blockCount : ℕ) (device : ℕ → Reply (List UInt8))
    (s : PlainCompress) : PlainLabel → Option PlainCompress
  | .running results =>
      if s.ctx = .starting ∧ results.length = kind.firstOffloads blockCount then
        some (results.foldl offloadNext { s with ctx := .running })
      else none
  | .completed num result =>
      match device num with
      | .succeeded data =>
          if num ∈ s.inFlight ∧ (result = .submitted → s.ctx = .running) then
            some (((s.store num data).release num).goOn blockCount result)
          else none
      | .refused | .failed _ => none
  | .failed num =>
      if num ∈ s.inFlight ∧ ((device num).succeeds = false ∨ s.ctx = .stopping) then
        some (s.release num).stop
      else none
  | .idle => if s.ctx = .stopping ∧ s.inFlight = [] then some { s with ctx := .idle } else none

/-- Nothing happens any more, and the main loop goes on. -/
def Stuck : Prop := s.ctx = .running ∧ s.inFlight = []

variable {s} {t : PlainCompress} {kind : CompressSample} {blockCount : ℕ}
  {device : ℕ → Reply (List UInt8)} {label : PlainLabel} {result : OffloadResult} {num : ℕ}
  {data : List UInt8}

/-! ## Tasks and buffers -/

/-- What fails in `offload_next` leaves no trace. -/
theorem offloadNext_of_ne (failed : result ≠ .submitted) : s.offloadNext result = s := by
  cases result with
  | submitted => contradiction
  | noInput | noOutput | noTask | notSubmitted => rfl

/-- Every task has its two buffers, and a batch of its own. As long as the context runs, all
tasks that are not in flight have completed. -/
structure Accounted (width blockCount : ℕ) (s : PlainCompress) : Prop where
  buffers : s.buffers = 2 * s.inFlight.length
  nodup : s.inFlight.Nodup
  below : ∀ num ∈ s.inFlight, num < s.offloaded
  narrow : s.inFlight.length ≤ width
  inside : s.offloaded ≤ blockCount
  starting : s.ctx = .starting → s.offloaded = 0 ∧ s.completed = 0 ∧ s.inFlight = []
  running : s.ctx = .running → s.completed + s.inFlight.length = s.offloaded
  idle : s.ctx = .idle → s.inFlight = []

theorem accounted_init (width blockCount : ℕ) : Accounted width blockCount {} where
  buffers := rfl
  nodup := List.nodup_nil
  below := by simp
  narrow := Nat.zero_le _
  inside := Nat.zero_le _
  starting := fun _ => ⟨rfl, rfl, rfl⟩
  running := nofun
  idle := nofun

theorem accounted_offloadNext {width : ℕ} (accounted : s.Accounted width blockCount)
    (runs : result = .submitted → s.ctx = .running) (room : s.inFlight.length < width)
    (more : s.offloaded < blockCount) : (s.offloadNext result).Accounted width blockCount := by
  by_cases submitted : result = .submitted
  · subst submitted
    have runs := runs rfl
    have new : s.offloaded ∉ s.inFlight := fun old =>
      Nat.lt_irrefl _ (accounted.below _ old)
    refine ⟨?_, List.nodup_cons.mpr ⟨new, accounted.nodup⟩, ?_, room, more, fun starting => ?_,
      fun _ => ?_, fun idle => ?_⟩
    · have before := accounted.buffers
      simp only [offloadNext, getBuffer, List.length_cons]
      omega
    · simp only [offloadNext, getBuffer, List.forall_mem_cons]
      exact ⟨Nat.lt_succ_self _, fun num old => Nat.lt_succ_of_lt (accounted.below num old)⟩
    · exact absurd (starting.symm.trans runs) (by decide)
    · have before := accounted.running runs
      simp only [offloadNext, getBuffer, List.length_cons]
      omega
    · exact absurd (idle.symm.trans runs) (by decide)
  · rw [offloadNext_of_ne submitted]
    exact accounted

theorem ctx_offloadNext : (s.offloadNext result).ctx = s.ctx := by
  cases result with
  | noInput | noOutput | noTask | notSubmitted | submitted => rfl

theorem length_offloadNext : (s.offloadNext result).inFlight.length ≤ s.inFlight.length + 1 ∧
    (s.offloadNext result).offloaded ≤ s.offloaded + 1 := by
  by_cases submitted : result = .submitted
  · subst submitted
    exact ⟨Nat.le_refl _, Nat.le_refl _⟩
  · rw [offloadNext_of_ne submitted]
    exact ⟨Nat.le_succ _, Nat.le_succ _⟩

/-- The first tasks, of which there is room for all. -/
theorem accounted_offloads {width : ℕ} (results : List OffloadResult)
    (accounted : s.Accounted width blockCount) (runs : s.ctx = .running)
    (room : s.inFlight.length + results.length ≤ width)
    (more : s.offloaded + results.length ≤ blockCount) :
    (results.foldl offloadNext s).Accounted width blockCount := by
  induction results generalizing s with
  | nil => exact accounted
  | cons result results ih =>
    rw [List.length_cons] at room more
    obtain ⟨flying, offloaded⟩ := @length_offloadNext s result
    refine ih (accounted_offloadNext accounted (fun _ => runs) (by omega) (by omega))
      (ctx_offloadNext.trans runs) (by omega) (by omega)

/-- A task is over. Unless it has completed, the context does not run afterwards. -/
theorem Accounted.settle {width : ℕ} (accounted : s.Accounted width blockCount)
    (flying : num ∈ s.inFlight) (buffers : t.buffers = s.buffers - 1 - 1)
    (inFlight : t.inFlight = s.inFlight.erase num) (offloaded : t.offloaded = s.offloaded)
    (ctx : t.ctx = s.ctx ∨ t.ctx = .stopping)
    (completed : t.ctx = .running → t.completed = s.completed + 1) :
    t.Accounted width blockCount := by
  have one : 0 < s.inFlight.length := List.length_pos_of_mem flying
  have fewer : t.inFlight.length = s.inFlight.length - 1 := by
    rw [inFlight, List.length_erase_of_mem flying]
  have before := accounted.buffers
  have narrow := accounted.narrow
  refine ⟨by omega, inFlight ▸ accounted.nodup.erase num, fun other among => ?_, by omega,
    offloaded ▸ accounted.inside, fun starting => ?_, fun runs => ?_, fun idle => ?_⟩
  · rw [offloaded]
    exact accounted.below other (List.mem_of_mem_erase (inFlight ▸ among))
  · rcases ctx with same | stops
    · have none := (accounted.starting (same ▸ starting)).2.2
      simp [none] at one
    · exact absurd (starting.symm.trans stops) (by decide)
  · rcases ctx with same | stops
    · have all := accounted.running (same ▸ runs)
      rw [completed runs, offloaded]
      omega
    · exact absurd (runs.symm.trans stops) (by decide)
  · rcases ctx with same | stops
    · simp [accounted.idle (same ▸ idle)] at one
    · exact absurd (idle.symm.trans stops) (by decide)

theorem accounted_stop {width : ℕ} (accounted : s.Accounted width blockCount) :
    s.stop.Accounted width blockCount := by
  unfold stop
  split
  · exact ⟨accounted.buffers, accounted.nodup, accounted.below, accounted.narrow,
      accounted.inside, nofun, nofun, nofun⟩
  · exact accounted

theorem accounted_completed {width : ℕ} (accounted : s.Accounted width blockCount)
    (flying : num ∈ s.inFlight) (runs : result = .submitted → s.ctx = .running) :
    (((s.store num data).release num).goOn blockCount result).Accounted width blockCount := by
  have one : 0 < s.inFlight.length := List.length_pos_of_mem flying
  have narrow := accounted.narrow
  have settled : ((s.store num data).release num).Accounted width blockCount :=
    accounted.settle flying rfl rfl rfl (.inl rfl) fun _ => rfl
  have room : ((s.store num data).release num).inFlight.length < width := by
    simp only [release, store, List.length_erase_of_mem flying]
    omega
  unfold goOn
  split
  · rename_i more
    exact accounted_offloadNext settled runs room more
  · split
    · exact accounted_stop settled
    · exact settled

theorem ctx_stop : s.stop.ctx = s.ctx ∧ s.ctx ≠ .running ∨ s.stop.ctx = .stopping := by
  unfold stop
  split
  · exact .inr rfl
  · exact .inl ⟨rfl, ‹_›⟩

theorem accounted_failed {width : ℕ} (accounted : s.Accounted width blockCount)
    (flying : num ∈ s.inFlight) : (s.release num).stop.Accounted width blockCount := by
  have kept : (s.release num).stop.buffers = s.buffers - 1 - 1 ∧
      (s.release num).stop.inFlight = s.inFlight.erase num ∧
      (s.release num).stop.offloaded = s.offloaded := by
    unfold stop
    split <;> exact ⟨rfl, rfl, rfl⟩
  have ctx := @ctx_stop (s.release num)
  refine accounted.settle flying kept.1 kept.2.1 kept.2.2 (ctx.imp_left And.left) fun runs => ?_
  rcases ctx with ⟨same, notRunning⟩ | stops
  · exact absurd (same.symm.trans runs) notRunning
  · exact absurd (runs.symm.trans stops) (by decide)

/-- What a callback can do, with its conditions. -/
inductive Call (kind : CompressSample) (blockCount : ℕ) (device : ℕ → Reply (List UInt8))
    (s : PlainCompress) : PlainLabel → PlainCompress → Prop
  | running (results : List OffloadResult) (starts : s.ctx = .starting)
      (count : results.length = kind.firstOffloads blockCount) :
      Call kind blockCount device s (.running results)
        (results.foldl offloadNext { s with ctx := .running })
  | completed (num : ℕ) (result : OffloadResult) (data : List UInt8)
      (reply : device num = .succeeded data) (flying : num ∈ s.inFlight)
      (runs : result = .submitted → s.ctx = .running) :
      Call kind blockCount device s (.completed num result)
        (((s.store num data).release num).goOn blockCount result)
  | failed (num : ℕ) (flying : num ∈ s.inFlight)
      (fails : (device num).succeeds = false ∨ s.ctx = .stopping) :
      Call kind blockCount device s (.failed num) (s.release num).stop
  | idle (stops : s.ctx = .stopping) (nothing : s.inFlight = []) :
      Call kind blockCount device s .idle { s with ctx := .idle }

theorem call_of_step (taken : s.step kind blockCount device label = some t) :
    Call kind blockCount device s label t := by
  cases label with
  | running results =>
    simp only [step, Option.ite_none_right_eq_some, Option.some.injEq] at taken
    obtain ⟨⟨starts, count⟩, rfl⟩ := taken
    exact .running results starts count
  | completed num result =>
    simp only [step] at taken
    split at taken
    · rename_i data reply
      simp only [Option.ite_none_right_eq_some, Option.some.injEq] at taken
      obtain ⟨⟨flying, runs⟩, rfl⟩ := taken
      exact .completed num result data reply flying runs
    · contradiction
    · contradiction
  | failed num =>
    simp only [step, Option.ite_none_right_eq_some, Option.some.injEq] at taken
    obtain ⟨⟨flying, fails⟩, rfl⟩ := taken
    exact .failed num flying fails
  | idle =>
    simp only [step, Option.ite_none_right_eq_some, Option.some.injEq] at taken
    obtain ⟨⟨stops, nothing⟩, rfl⟩ := taken
    exact .idle stops nothing

theorem accounted_step (whole : kind.firstOffloads blockCount ≤ blockCount)
    (accounted : s.Accounted (kind.firstOffloads blockCount) blockCount)
    (taken : s.step kind blockCount device label = some t) :
    t.Accounted (kind.firstOffloads blockCount) blockCount := by
  cases call_of_step taken with
  | running results starts count =>
    obtain ⟨offloaded, completed, nothing⟩ := accounted.starting starts
    have running : Accounted (kind.firstOffloads blockCount) blockCount
        { s with ctx := .running } :=
      ⟨accounted.buffers, accounted.nodup, accounted.below, accounted.narrow, accounted.inside,
        nofun, fun _ => by simp [offloaded, completed, nothing], nofun⟩
    exact accounted_offloads results running rfl (by simp [nothing, count])
      (by simp [offloaded, count, whole])
  | completed num result data reply flying runs => exact accounted_completed accounted flying runs
  | failed num flying fails => exact accounted_failed accounted flying
  | idle stops nothing =>
    exact ⟨accounted.buffers, accounted.nodup, accounted.below, accounted.narrow,
      accounted.inside, nofun, nofun, fun _ => nothing⟩

theorem step_of_call (call : Call kind blockCount device s label t) :
    s.step kind blockCount device label = some t := by
  cases call with
  | running results starts count => simp [step, starts, count]
  | completed num result data reply flying runs =>
    simp only [step, reply]
    rw [if_pos ⟨flying, runs⟩]
  | failed num flying fails => simp only [step, flying, fails, and_self, if_true]
  | idle stops nothing => simp [step, stops, nothing]

/-! ## The way to the end -/

/-- The context was started, and something is going on unless it is idle. -/
structure Going (kind : CompressSample) (blockCount : ℕ) (s : PlainCompress) : Prop where
  accounted : s.Accounted (kind.firstOffloads blockCount) blockCount
  started : s.ctx ≠ .starting
  free : ¬ s.Stuck

/-- What is left to do: to submit and to complete each batch, and to get idle. -/
def left (blockCount : ℕ) (s : PlainCompress) : ℕ :=
  2 * (blockCount - s.offloaded) + s.inFlight.length + if s.ctx = .idle then 0 else 1

/-- A callback after which the context does not run. -/
theorem Going.of_call (whole : kind.firstOffloads blockCount ≤ blockCount)
    (going : s.Going kind blockCount) (call : Call kind blockCount device s label t)
    (ctx : t.ctx = .stopping ∨ t.ctx = .idle) : t.Going kind blockCount := by
  refine ⟨accounted_step whole going.accounted (step_of_call call), ?_, fun stuck => ?_⟩
  · rcases ctx with stops | idle <;> simp [*]
  · have runs := stuck.1
    rcases ctx with stops | idle <;> simp_all

/-- A task fails, which stops the context. -/
theorem progress_failed (whole : kind.firstOffloads blockCount ≤ blockCount)
    (going : s.Going kind blockCount) (flying : num ∈ s.inFlight)
    (fails : (device num).succeeds = false ∨ s.ctx = .stopping)
    (live : s.ctx = .running ∨ s.ctx = .stopping) :
    ∃ t, Call kind blockCount device s (.failed num) t ∧ t.Going kind blockCount ∧
      t.left blockCount < s.left blockCount := by
  have one : 0 < s.inFlight.length := List.length_pos_of_mem flying
  have call : Call kind blockCount device s (.failed num) (s.release num).stop :=
    .failed num flying fails
  have stops : (s.release num).stop.ctx = .stopping := by
    rcases @ctx_stop (s.release num) with ⟨same, notRunning⟩ | stops
    · exact same.trans (live.resolve_left notRunning)
    · exact stops
  refine ⟨_, call, going.of_call whole call (.inl stops), ?_⟩
  have fewer : (s.release num).stop.inFlight.length = s.inFlight.length - 1 ∧
      (s.release num).stop.offloaded = s.offloaded := by
    unfold stop
    split <;> exact ⟨List.length_erase_of_mem flying, rfl⟩
  have notIdle : s.ctx ≠ .idle := by rcases live with runs | stops <;> simp [*]
  simp only [left, fewer, stops, notIdle, reduceCtorEq, if_false]
  omega

/-- A task completes, and the next one is submitted if there is one. -/
theorem progress_completed (whole : kind.firstOffloads blockCount ≤ blockCount)
    (going : s.Going kind blockCount) (flying : num ∈ s.inFlight)
    (reply : device num = .succeeded data) (runs : s.ctx = .running) :
    ∃ t, Call kind blockCount device s (.completed num .submitted) t ∧
      t.Going kind blockCount ∧ t.left blockCount < s.left blockCount := by
  have one : 0 < s.inFlight.length := List.length_pos_of_mem flying
  have call : Call kind blockCount device s (.completed num .submitted)
      (((s.store num data).release num).goOn blockCount .submitted) :=
    .completed num .submitted data reply flying fun _ => runs
  have after := accounted_step whole going.accounted (step_of_call call)
  have fewer : (s.inFlight.erase num).length = s.inFlight.length - 1 :=
    List.length_erase_of_mem flying
  have all := going.accounted.running runs
  have inside := going.accounted.inside
  refine ⟨_, call, ?_⟩
  by_cases more : s.offloaded < blockCount
  · have next : ((s.store num data).release num).goOn blockCount .submitted =
        ((s.store num data).release num).offloadNext .submitted := if_pos more
    rw [next] at after ⊢
    have runs' : (((s.store num data).release num).offloadNext .submitted).ctx = .running := runs
    refine ⟨⟨after, by simp [runs'], fun stuck => nomatch stuck.2⟩, ?_⟩
    simp only [left, runs, runs', reduceCtorEq, if_false]
    simp only [offloadNext, getBuffer, release, decRefcount, store, List.length_cons, fewer]
    omega
  · by_cases last : s.completed + 1 = blockCount
    · have next : ((s.store num data).release num).goOn blockCount .submitted =
          ((s.store num data).release num).stop := (if_neg more).trans (if_pos last)
      have stops : ((s.store num data).release num).stop =
          { (s.store num data).release num with ctx := .stopping } := if_pos runs
      refine ⟨going.of_call whole call (.inl (by rw [next, stops])), ?_⟩
      rw [next, stops]
      simp only [left, runs, reduceCtorEq, if_false, release, decRefcount, store, fewer]
      omega
    · have next : ((s.store num data).release num).goOn blockCount .submitted =
          (s.store num data).release num := (if_neg more).trans (if_neg last)
      rw [next] at after ⊢
      have runs' : ((s.store num data).release num).ctx = .running := runs
      refine ⟨⟨after, by simp [runs'], fun stuck => ?_⟩, ?_⟩
      · -- Another task is in flight, or this would have been the last one
        have none : (s.inFlight.erase num).length = 0 := List.length_eq_zero_iff.mpr stuck.2
        omega
      · simp only [left, runs, runs', reduceCtorEq, if_false]
        simp only [release, decRefcount, store, fewer]
        omega

theorem progress (whole : kind.firstOffloads blockCount ≤ blockCount)
    (device : ℕ → Reply (List UInt8)) (going : s.Going kind blockCount)
    (notIdle : s.ctx ≠ .idle) :
    ∃ label t, Call kind blockCount device s label t ∧ t.Going kind blockCount ∧
      t.left blockCount < s.left blockCount := by
  cases flying : s.inFlight with
  | nil =>
    have stops : s.ctx = .stopping := by
      cases ctx : s.ctx with
      | idle => contradiction
      | starting => exact absurd ctx going.started
      | running => exact absurd ⟨ctx, flying⟩ going.free
      | stopping => rfl
    have call : Call kind blockCount device s .idle { s with ctx := .idle } := .idle stops flying
    refine ⟨_, _, call, going.of_call whole call (.inr rfl), ?_⟩
    simp [left, stops]
  | cons num rest =>
    have among : num ∈ s.inFlight := flying ▸ List.mem_cons_self
    cases ctx : s.ctx with
    | idle => contradiction
    | starting => exact absurd ctx going.started
    | stopping => exact ⟨_, progress_failed whole going among (.inr ctx) (.inr ctx)⟩
    | running =>
      cases reply : device num with
      | succeeded data => exact ⟨_, progress_completed whole going among reply ctx⟩
      | refused | failed =>
        exact ⟨_, progress_failed whole going among (.inl (by rw [reply]; rfl)) (.inl ctx)⟩

end PlainCompress

/-! ## Files -/

/-- `cache_align`. -/
def cacheAlign (ptr : ℕ) : ℕ := (ptr + 64) / 64 * 64

/-- `compress_file` after it has read its input. -/
structure PlainFile where
  batches : UInt32
  batchsize : UInt32
  indata : ℕ
  heap : ℕ → UInt8

namespace PlainFile

variable {allocator : Allocator} {heap : ℕ → UInt8} {p : PlainFile} {batches batchsize : UInt32}
  {contents : List (List UInt8)}

/-- How many whole items `fread` reads. -/
def fread (size count available : ℕ) : ℕ := if size = 0 then 0 else min count (available / size)

/-- The header is read, a buffer allocated and all batches read behind its first multiple of
64. There is no result if something is missing, or if the buffer is too small. -/
def read (allocator : Allocator) (heap : ℕ → UInt8) (file : List UInt8) : Option PlainFile :=
  if 8 ≤ file.length then
    let batches := word32 (file.take 4)
    let batchsize := word32 ((file.drop 4).take 4)
    let rest := file.drop 8
    -- `malloc(batches * batchsize + 64)`
    let size := (batches * batchsize + 64).toNat
    (allocator.allocate size).bind fun inbuf =>
      if fread batchsize.toNat batches.toNat rest.length = batches.toNat then
        (Extent.storeIn ⟨inbuf, size⟩ heap (cacheAlign inbuf)
          (rest.take (batchsize.toNat * batches.toNat))).map fun heap =>
            { batches, batchsize, indata := cacheAlign inbuf, heap }
      else none
  else none

/-- The bytes of a batch. -/
def source (p : PlainFile) (num : ℕ) : List UInt8 :=
  Extent.read p.heap ⟨p.indata + p.batchsize.toNat * num, p.batchsize.toNat⟩

/-- The device compresses the batches. -/
def device (compress : List UInt8 → Reply (List UInt8)) (p : PlainFile) (num : ℕ) :
    Reply (List UInt8) :=
  compress (p.source num)

/-- A region in the output, behind its size, which has 32 bits. -/
def entry (data : List UInt8) : List UInt8 :=
  let size := UInt32.ofNat data.length
  bytes32 size ++ data.take size.toNat

end PlainFile

end Shoc.Samples
