/-
# Blocks over the fast path

`comch_data_server` and `comch_data_client` are two programs. For each client it accepts,
the server starts a coroutine that creates a producer, tells the client the geometry of
its data, waits for a consumer, and then sends one block after the other. The client reads
the geometry, creates a consumer and posts one buffer after the other.

Between them is a device that moves a block when there is one to send and a buffer to
receive it. It tells both sides, at different times, and each side goes on by itself: the
server may be a block ahead, or the client. The message, the consumer's announcement and
the two completions arrive in any order that the device allows, and any of them may be a
failure.

All coroutines of the server draw on one inventory of 32 elements, and each client has
an inventory with a single one, which it takes anew for each block.
-/

import Mathlib.Data.UInt
import Mathlib.Logic.Function.Basic
import Shoc.Data.Population
import Shoc.Doca.Basic
import Shoc.Transition.Runs

namespace Shoc.Samples

open Data Transition

/-! ## The geometry -/

/-- The arguments of `prepare_data`, and what the client reads of them. -/
structure Geometry where
  blockCount : UInt32
  blockSize : UInt32
  deriving DecidableEq, Repr

namespace Geometry

variable {g : Geometry} {text rest : List Char}

/-- A block of `prepare_data`. -/
def block (g : Geometry) (i : ℕ) : List UInt8 :=
  List.replicate g.blockSize.toNat (UInt8.ofNat i)

/-- `fmt::format("{} {}", data.block_count(), data.block_size())`. -/
def message (g : Geometry) : List Char :=
  Nat.toDigits 10 g.blockCount.toNat ++ ' ' :: Nat.toDigits 10 g.blockSize.toNat

/-- `std::isspace` in the classic locale. -/
def isSpace (c : Char) : Bool := c.toNat = 32 || 9 ≤ c.toNat && c.toNat ≤ 13

def isSign (c : Char) : Bool := c.toNat = 43 || c.toNat = 45

/-- `stream >> value` for a `std::uint32_t`, with what is left in the stream. A number that does
not fit makes the stream fail, and a negative one is taken modulo 2³². -/
def extract (text : List Char) : Option (UInt32 × List Char) :=
  let text := text.dropWhile isSpace
  let negative := text.head? = some '-'
  let text := if text.head?.any isSign then text.tail else text
  let value := Nat.ofDigitChars 10 (text.takeWhile Char.isDigit) 0
  if text.takeWhile Char.isDigit = [] ∨ 2 ^ 32 ≤ value then none
  else
    some (if negative then -UInt32.ofNat value else UInt32.ofNat value,
      text.dropWhile Char.isDigit)

/-- `geometry_parser >> block_count >> block_size`. -/
def parse (message : List Char) : Option Geometry :=
  (extract message).bind fun count => (extract count.2).map fun size => ⟨count.1, size.1⟩

/-- A digit is none of the characters that `>>` treats in another way. -/
theorem plain_of_isDigit {c : Char} (digit : c.isDigit = true) :
    isSpace c = false ∧ isSign c = false ∧ c ≠ '-' := by
  have range := Char.isDigit_iff_toNat.mp digit
  have low : (48 : ℕ) ≤ c.toNat := range.1
  refine ⟨?_, ?_, ?_⟩
  · simp only [isSpace, Bool.or_eq_false_iff, Bool.and_eq_false_iff, decide_eq_false_iff_not]
    omega
  · simp only [isSign, Bool.or_eq_false_iff, decide_eq_false_iff_not]
    omega
  · rintro rfl
    contradiction

/-- Behind a number stands no further digit. -/
def Stops (rest : List Char) : Prop := ∀ c, rest.head? = some c → c.isDigit = false

theorem extract_toDigits (n : UInt32) (stops : Stops rest) :
    extract (Nat.toDigits 10 n.toNat ++ rest) = some (n, rest) := by
  have digits : ∀ c ∈ Nat.toDigits 10 n.toNat, c.isDigit = true :=
    fun c mem => Nat.isDigit_of_mem_toDigits (by omega) (by omega) mem
  obtain ⟨c, cs, shape⟩ := List.exists_cons_of_ne_nil (Nat.toDigits_ne_nil (n := n.toNat) (b := 10))
  obtain ⟨noSpace, noSign, noMinus⟩ := plain_of_isDigit (digits c (shape ▸ List.mem_cons_self))
  have skip : (Nat.toDigits 10 n.toNat ++ rest).dropWhile isSpace =
      Nat.toDigits 10 n.toNat ++ rest := by
    rw [shape]
    simp [noSpace]
  have first : (Nat.toDigits 10 n.toNat ++ rest).head? = some c := by
    rw [shape]
    rfl
  have parted : (Nat.toDigits 10 n.toNat ++ rest).takeWhile Char.isDigit =
        Nat.toDigits 10 n.toNat ∧
      (Nat.toDigits 10 n.toNat ++ rest).dropWhile Char.isDigit = rest := by
    rw [List.takeWhile_append_of_pos digits, List.dropWhile_append_of_pos digits]
    cases rest with
    | nil => simp
    | cons d ds => simp [stops d rfl]
  have value : Nat.ofDigitChars 10 (Nat.toDigits 10 n.toNat) 0 = n.toNat :=
    Nat.ofDigitChars_toDigits (by omega) (by omega)
  have fits : ¬ (Nat.toDigits 10 n.toNat = [] ∨ 2 ^ 32 ≤ n.toNat) := by
    rintro (none | large)
    · exact Nat.toDigits_ne_nil none
    · exact absurd n.toNat_lt (Nat.not_lt.mpr large)
  unfold extract
  simp only [skip, first, Option.any_some, noSign, Bool.false_eq_true, if_false, parted, value,
    fits]
  simp [noMinus]

/-- The client reads what the server has written. -/
theorem parse_message (g : Geometry) : parse g.message = some g := by
  have behind : extract (' ' :: Nat.toDigits 10 g.blockSize.toNat) = some (g.blockSize, []) := by
    have plain := @extract_toDigits [] g.blockSize nofun
    rw [List.append_nil] at plain
    exact plain
  have ahead : extract g.message =
      some (g.blockCount, ' ' :: Nat.toDigits 10 g.blockSize.toNat) :=
    extract_toDigits g.blockCount fun c first => by
      obtain rfl := Option.some.inj first
      rfl
  rw [parse, ahead]
  simp [behind]

end Geometry

/-! ## One connection -/

/-- A task of the device, and the status it has given. -/
inductive TaskState
  | pending
  | completed (status : DocaError)
  deriving DecidableEq, Repr

/-- Where `send_blocks` is. It has returned after the last block or after a failure, or ended with
an exception: that of `buf_get_by_data` when no element is free, or another one. -/
inductive SenderState
  | creatingProducer
  | sendingGeometry (arrived : Bool)
  | acceptingConsumer
  | sending (i : ℕ) (task : TaskState)
  | returned (complete : Bool)
  | exhausted
  | threw
  deriving DecidableEq, Repr

/-- Where `receive_blocks` is. It may have returned with `data_error`, or without it. -/
inductive ReceiverState
  | awaitingGeometry
  | creatingConsumer (geometry : Geometry)
  | receiving (geometry : Geometry) (i : ℕ) (task : TaskState)
  | returned (dataError : Option Bool)
  | exhausted
  | threw
  deriving DecidableEq, Repr

/-- The coroutine of the server, its client, and what is on its way between them. -/
structure Connection where
  sender : SenderState := .creatingProducer
  receiver : ReceiverState := .awaitingGeometry
  /-- The message in the queue of the client. -/
  message : Option (List Char) := none
  /-- The consumer of the client is in the queue of the server. -/
  announced : Bool := false
  /-- The blocks of the client. -/
  memory : ℕ → List UInt8 := fun _ => []
  /-- The free elements of the client's inventory. -/
  spare : ℕ := 1
  /-- How many blocks the device has moved. -/
  transferred : ℕ := 0

/-- What happens on a connection: a coroutine is resumed, with a flag if the next task is
refused at once, or the device does something. -/
inductive ConnectionLabel
  | producerCreated
  | geometryArrives
  | geometrySent (status : DocaError)
  | geometryReceived
  | consumerCreated (refused : Bool)
  | consumerAccepted (refused : Bool)
  | transfer (sendStatus receiveStatus : DocaError)
  | sendFails (status : DocaError)
  | receiveFails (status : DocaError)
  | sendCompletes (refused : Bool)
  | receiveCompletes (refused : Bool)
  | senderThrows
  | receiverThrows
  deriving DecidableEq, Repr

namespace Connection

variable (g : Geometry) (skipVerify : Bool) (free : ℕ) (c : Connection)

/-- The comparison at the end of `receive_blocks`. -/
def mismatch (blockCount : UInt32) (memory : ℕ → List UInt8) : Bool :=
  (List.range blockCount.toNat).any fun i => (memory i).any (· ≠ UInt8.ofNat i)

/-- `send_blocks` from the head of its loop to the next `co_await` that suspends, with the number
of elements it leaves free. -/
def sendNext (i : ℕ) (refused : Bool) : ℕ × Connection :=
  if i < g.blockCount.toNat then
    if free = 0 then (free, { c with sender := .exhausted })
    else if refused then (free, { c with sender := .returned false })
    else (free - 1, { c with sender := .sending i .pending })
  else (free, { c with sender := .returned true })

/-- `receive_blocks` from the head of its loop to the next `co_await` that suspends. A refused
`post_recv` throws. -/
def receiveNext (geometry : Geometry) (i : ℕ) (refused : Bool) : Connection :=
  if i < geometry.blockCount.toNat then
    if c.spare = 0 then { c with receiver := .exhausted }
    else if refused then { c with receiver := .threw }
    else { c with receiver := .receiving geometry i .pending, spare := c.spare - 1 }
  else
    { c with receiver := .returned (some (!skipVerify && mismatch geometry.blockCount c.memory)) }

def step : ConnectionLabel → Option (ℕ × Connection)
  | .producerCreated =>
      match c.sender with
      | .creatingProducer => some (free, { c with sender := .sendingGeometry false })
      | _ => none
  | .geometryArrives =>
      match c.sender with
      | .sendingGeometry false =>
          some (free, { c with sender := .sendingGeometry true, message := some g.message })
      | _ => none
  | .geometrySent status =>
      match c.sender with
      | .sendingGeometry arrived =>
          if status = .success then
            if arrived then some (free, { c with sender := .acceptingConsumer }) else none
          else some (free, { c with sender := .returned false })
      | _ => none
  | .geometryReceived =>
      match c.receiver, c.message with
      | .awaitingGeometry, some text =>
          match Geometry.parse text with
          | some geometry =>
              some (free, { c with receiver := .creatingConsumer geometry, message := none })
          | none => some (free, { c with receiver := .returned none, message := none })
      | _, _ => none
  | .consumerCreated refused =>
      match c.receiver with
      | .creatingConsumer geometry =>
          some (free, { c with announced := true }.receiveNext skipVerify geometry 0 refused)
      | _ => none
  | .consumerAccepted refused =>
      match c.sender, c.announced with
      | .acceptingConsumer, true => some ({ c with announced := false }.sendNext g free 0 refused)
      | _, _ => none
  | .transfer sendStatus receiveStatus =>
      match c.sender, c.receiver with
      | .sending i .pending, .receiving geometry j .pending =>
          some (free, { c with
            sender := .sending i (.completed sendStatus)
            receiver := .receiving geometry j (.completed receiveStatus)
            memory := Function.update c.memory j (g.block i)
            transferred := c.transferred + 1 })
      | _, _ => none
  | .sendFails status =>
      match c.sender with
      | .sending i .pending =>
          if status = .success then none
          else some (free, { c with sender := .sending i (.completed status) })
      | _ => none
  | .receiveFails status =>
      match c.receiver with
      | .receiving geometry i .pending =>
          if status = .success then none
          else some (free, { c with receiver := .receiving geometry i (.completed status) })
      | _ => none
  | .sendCompletes refused =>
      match c.sender with
      | .sending i (.completed status) =>
          -- The buffer of this round is gone before the next one is made.
          if status = .success then some (c.sendNext g (free + 1) (i + 1) refused)
          else some (free + 1, { c with sender := .returned false })
      | _ => none
  | .receiveCompletes refused =>
      match c.receiver with
      | .receiving geometry i (.completed status) =>
          let c := { c with spare := c.spare + 1 }
          if status = .success then some (free, c.receiveNext skipVerify geometry (i + 1) refused)
          else some (free, { c with receiver := .returned none })
      | _ => none
  | .senderThrows =>
      match c.sender with
      | .creatingProducer | .acceptingConsumer => some (free, { c with sender := .threw })
      | _ => none
  | .receiverThrows =>
      match c.receiver with
      | .awaitingGeometry | .creatingConsumer _ => some (free, { c with receiver := .threw })
      | _ => none

/-- What a step can do. -/
inductive Move : ConnectionLabel → ℕ × Connection → Prop
  | producerCreated (was : c.sender = .creatingProducer) :
      Move .producerCreated (free, { c with sender := .sendingGeometry false })
  | geometryArrives (was : c.sender = .sendingGeometry false) :
      Move .geometryArrives
        (free, { c with sender := .sendingGeometry true, message := some g.message })
  | geometrySent (was : c.sender = .sendingGeometry true) :
      Move (.geometrySent .success) (free, { c with sender := .acceptingConsumer })
  | geometryFailed {status : DocaError} {arrived : Bool} (failed : status ≠ .success)
      (was : c.sender = .sendingGeometry arrived) :
      Move (.geometrySent status) (free, { c with sender := .returned false })
  | geometryReceived {text : List Char} {geometry : Geometry}
      (was : c.receiver = .awaitingGeometry) (told : c.message = some text)
      (read : Geometry.parse text = some geometry) :
      Move .geometryReceived
        (free, { c with receiver := .creatingConsumer geometry, message := none })
  | geometryMisread {text : List Char} (was : c.receiver = .awaitingGeometry)
      (told : c.message = some text) (unread : Geometry.parse text = none) :
      Move .geometryReceived (free, { c with receiver := .returned none, message := none })
  | consumerCreated {refused : Bool} {geometry : Geometry}
      (was : c.receiver = .creatingConsumer geometry) :
      Move (.consumerCreated refused)
        (free, { c with announced := true }.receiveNext skipVerify geometry 0 refused)
  | consumerAccepted {refused : Bool} (was : c.sender = .acceptingConsumer)
      (there : c.announced = true) :
      Move (.consumerAccepted refused) ({ c with announced := false }.sendNext g free 0 refused)
  | transfer {i j : ℕ} {geometry : Geometry} {sendStatus receiveStatus : DocaError}
      (sends : c.sender = .sending i .pending)
      (receives : c.receiver = .receiving geometry j .pending) :
      Move (.transfer sendStatus receiveStatus) (free, { c with
        sender := .sending i (.completed sendStatus)
        receiver := .receiving geometry j (.completed receiveStatus)
        memory := Function.update c.memory j (g.block i)
        transferred := c.transferred + 1 })
  | sendFails {i : ℕ} {status : DocaError} (failed : status ≠ .success)
      (was : c.sender = .sending i .pending) :
      Move (.sendFails status) (free, { c with sender := .sending i (.completed status) })
  | receiveFails {i : ℕ} {geometry : Geometry} {status : DocaError} (failed : status ≠ .success)
      (was : c.receiver = .receiving geometry i .pending) :
      Move (.receiveFails status)
        (free, { c with receiver := .receiving geometry i (.completed status) })
  | sendCompletes {i : ℕ} {refused : Bool} (was : c.sender = .sending i (.completed .success)) :
      Move (.sendCompletes refused) (c.sendNext g (free + 1) (i + 1) refused)
  | sendFailed {i : ℕ} {status : DocaError} {refused : Bool} (failed : status ≠ .success)
      (was : c.sender = .sending i (.completed status)) :
      Move (.sendCompletes refused) (free + 1, { c with sender := .returned false })
  | receiveCompletes {i : ℕ} {geometry : Geometry} {refused : Bool}
      (was : c.receiver = .receiving geometry i (.completed .success)) :
      Move (.receiveCompletes refused)
        (free, { c with spare := c.spare + 1 }.receiveNext skipVerify geometry (i + 1) refused)
  | receiveFailed {i : ℕ} {geometry : Geometry} {status : DocaError} {refused : Bool}
      (failed : status ≠ .success) (was : c.receiver = .receiving geometry i (.completed status)) :
      Move (.receiveCompletes refused)
        (free, { c with spare := c.spare + 1, receiver := .returned none })
  | senderThrows (was : c.sender = .creatingProducer ∨ c.sender = .acceptingConsumer) :
      Move .senderThrows (free, { c with sender := .threw })
  | receiverThrows (was : c.receiver = .awaitingGeometry ∨
      ∃ geometry, c.receiver = .creatingConsumer geometry) :
      Move .receiverThrows (free, { c with receiver := .threw })

variable {g skipVerify free c} {label : ConnectionLabel} {next : ℕ × Connection}

theorem move_of_step (taken : c.step g skipVerify free label = some next) :
    Move g skipVerify free c label next := by
  cases label with
  | producerCreated | geometryArrives | transfer | consumerCreated | consumerAccepted =>
    simp only [step] at taken
    split at taken
    · obtain rfl := Option.some.inj taken
      constructor <;> assumption
    · contradiction
  | sendFails status | receiveFails status =>
    simp only [step] at taken
    split at taken
    · split at taken
      · contradiction
      · obtain rfl := Option.some.inj taken
        constructor <;> assumption
    · contradiction
  | geometrySent status =>
    simp only [step] at taken
    split at taken
    · split at taken
      · subst status
        split at taken
        · obtain rfl := Option.some.inj taken
          subst_vars
          exact .geometrySent (by assumption)
        · contradiction
      · obtain rfl := Option.some.inj taken
        exact .geometryFailed (by assumption) (by assumption)
    · contradiction
  | geometryReceived =>
    simp only [step] at taken
    split at taken
    · split at taken
      · obtain rfl := Option.some.inj taken
        exact .geometryReceived (by assumption) (by assumption) (by assumption)
      · obtain rfl := Option.some.inj taken
        exact .geometryMisread (by assumption) (by assumption) (by assumption)
    · contradiction
  | sendCompletes refused =>
    simp only [step] at taken
    split at taken
    · split at taken
      · obtain rfl := Option.some.inj taken
        subst_vars
        exact .sendCompletes (by assumption)
      · obtain rfl := Option.some.inj taken
        exact .sendFailed (by assumption) (by assumption)
    · contradiction
  | receiveCompletes refused =>
    simp only [step] at taken
    split at taken
    · split at taken
      · obtain rfl := Option.some.inj taken
        subst_vars
        exact .receiveCompletes (by assumption)
      · obtain rfl := Option.some.inj taken
        exact .receiveFailed (by assumption) (by assumption)
    · contradiction
  | senderThrows =>
    simp only [step] at taken
    split at taken
    · obtain rfl := Option.some.inj taken
      exact .senderThrows (.inl (by assumption))
    · obtain rfl := Option.some.inj taken
      exact .senderThrows (.inr (by assumption))
    · contradiction
  | receiverThrows =>
    simp only [step] at taken
    split at taken
    · obtain rfl := Option.some.inj taken
      exact .receiverThrows (.inl (by assumption))
    · obtain rfl := Option.some.inj taken
      exact .receiverThrows (.inr ⟨_, by assumption⟩)
    · contradiction

end Connection

/-! ## What has arrived is right -/

/-- How far the server is when so many blocks were moved. -/
def SenderState.At (g : Geometry) (transferred : ℕ) : SenderState → Prop
  | .creatingProducer | .sendingGeometry _ | .acceptingConsumer => transferred = 0
  | .sending i .pending => i = transferred ∧ i < g.blockCount.toNat
  | .sending i (.completed status) =>
      i < g.blockCount.toNat ∧ (status = .success → transferred = i + 1)
  | .returned true => transferred = g.blockCount.toNat
  | .returned false | .exhausted | .threw => True

/-- How far the client is when so many blocks were moved, and what its inventory has left. -/
def ReceiverState.At (g : Geometry) (transferred spare : ℕ) : ReceiverState → Prop
  | .awaitingGeometry => transferred = 0 ∧ spare = 1
  | .creatingConsumer geometry => geometry = g ∧ transferred = 0 ∧ spare = 1
  | .receiving geometry i .pending => geometry = g ∧ i = transferred ∧ i < g.blockCount.toNat
  | .receiving geometry i (.completed status) =>
      geometry = g ∧ i < g.blockCount.toNat ∧ (status = .success → transferred = i + 1)
  | .returned (some dataError) => transferred = g.blockCount.toNat ∧ dataError = false
  | .returned none | .threw => True
  | .exhausted => False

namespace Connection

variable {g : Geometry} {skipVerify : Bool} {free : ℕ} {c : Connection} {label : ConnectionLabel}
  {next : ℕ × Connection}

/-- The blocks were moved in order, and both sides know how many of them. -/
structure Faithful (g : Geometry) (c : Connection) : Prop where
  bounded : c.transferred ≤ g.blockCount.toNat
  memory : ∀ i < c.transferred, c.memory i = g.block i
  message : ∀ text, c.message = some text → text = g.message
  sender : c.sender.At g c.transferred
  receiver : c.receiver.At g c.transferred c.spare

theorem faithful_init : Faithful g {} :=
  ⟨Nat.zero_le _, nofun, nofun, rfl, rfl, rfl⟩

theorem Faithful.withSender {state : SenderState} (faithful : c.Faithful g)
    (there : state.At g c.transferred) : { c with sender := state }.Faithful g :=
  ⟨faithful.bounded, faithful.memory, faithful.message, there, faithful.receiver⟩

theorem Faithful.withReceiver {state : ReceiverState} {spare : ℕ} (faithful : c.Faithful g)
    (there : state.At g c.transferred spare) :
    { c with receiver := state, spare := spare }.Faithful g :=
  ⟨faithful.bounded, faithful.memory, faithful.message, faithful.sender, there⟩

theorem faithful_sendNext {i : ℕ} {refused : Bool} (faithful : c.Faithful g)
    (all : c.transferred = i) : (c.sendNext g free i refused).2.Faithful g := by
  have bounded := faithful.bounded
  unfold sendNext
  split
  · split
    · exact faithful.withSender trivial
    · split
      · exact faithful.withSender trivial
      · exact faithful.withSender ⟨all.symm, by assumption⟩
  · refine faithful.withSender (show c.transferred = _ from ?_)
    omega

/-- The comparison finds nothing when all blocks have arrived. -/
theorem mismatch_eq_false {memory : ℕ → List UInt8}
    (all : ∀ i < g.blockCount.toNat, memory i = g.block i) :
    mismatch g.blockCount memory = false := by
  rw [mismatch, List.any_eq_false]
  intro i among
  rw [all i (List.mem_range.mp among)]
  simp [Geometry.block]

theorem faithful_receiveNext {i : ℕ} {refused : Bool} (faithful : c.Faithful g)
    (all : c.transferred = i) (spare : 0 < c.spare) :
    (c.receiveNext skipVerify g i refused).Faithful g := by
  have bounded := faithful.bounded
  unfold receiveNext
  split
  · rw [if_neg (by omega)]
    split
    · exact faithful.withReceiver trivial
    · exact faithful.withReceiver ⟨rfl, all.symm, by assumption⟩
  · have complete : c.transferred = g.blockCount.toNat := by omega
    refine faithful.withReceiver ⟨complete, ?_⟩
    rw [mismatch_eq_false fun i before => faithful.memory i (complete ▸ before), Bool.and_false]

theorem faithful_move (faithful : c.Faithful g) (move : Move g skipVerify free c label next) :
    next.2.Faithful g := by
  have sender := faithful.sender
  have receiver := faithful.receiver
  cases move with
  | producerCreated was =>
    rw [was] at sender
    exact faithful.withSender sender
  | geometryArrives was =>
    rw [was] at sender
    refine ⟨faithful.bounded, faithful.memory, ?_, sender, receiver⟩
    rintro text ⟨⟩
    rfl
  | geometrySent was =>
    rw [was] at sender
    exact faithful.withSender sender
  | geometryFailed _ was | sendFailed _ was | senderThrows was => exact faithful.withSender trivial
  | geometryReceived was told read =>
    rw [was] at receiver
    rw [faithful.message _ told, Geometry.parse_message] at read
    obtain rfl := Option.some.inj read
    exact ⟨faithful.bounded, faithful.memory, nofun, sender, rfl, receiver⟩
  | geometryMisread was told unread =>
    exact ⟨faithful.bounded, faithful.memory, nofun, sender, trivial⟩
  | consumerCreated was =>
    rw [was] at receiver
    obtain ⟨rfl, none, spare⟩ := receiver
    refine faithful_receiveNext ?_ none (spare ▸ Nat.one_pos)
    exact ⟨faithful.bounded, faithful.memory, faithful.message, sender, faithful.receiver⟩
  | consumerAccepted was there =>
    rw [was] at sender
    refine faithful_sendNext ?_ sender
    exact ⟨faithful.bounded, faithful.memory, faithful.message, faithful.sender, receiver⟩
  | @transfer i j geometry sendStatus receiveStatus sends receives =>
    rw [sends] at sender
    rw [receives] at receiver
    obtain ⟨rfl, inside⟩ := sender
    obtain ⟨rfl, rfl, -⟩ := receiver
    refine ⟨inside, fun i before => ?_, faithful.message, ⟨inside, fun _ => rfl⟩,
      rfl, inside, fun _ => rfl⟩
    -- The block that was moved is the one both sides were at, so the earlier ones stay.
    by_cases last : i = c.transferred
    · rw [last]
      exact Function.update_self ..
    · change Function.update c.memory c.transferred _ i = _
      rw [Function.update_of_ne last]
      exact faithful.memory i (by simp only at before; omega)
  | sendFails failed was =>
    rw [was] at sender
    exact faithful.withSender ⟨sender.2, fun success => absurd success failed⟩
  | receiveFails failed was =>
    rw [was] at receiver
    exact faithful.withReceiver
      ⟨receiver.1, receiver.2.2, fun success => absurd success failed⟩
  | sendCompletes was =>
    rw [was] at sender
    exact faithful_sendNext faithful (sender.2 rfl)
  | receiveCompletes was =>
    rw [was] at receiver
    obtain ⟨rfl, inside, moved⟩ := receiver
    refine faithful_receiveNext ?_ (moved rfl) (Nat.succ_pos _)
    refine faithful.withReceiver ?_
    rw [was]
    exact ⟨rfl, inside, moved⟩
  | receiveFailed _ was | receiverThrows was => exact faithful.withReceiver trivial

end Connection

/-! ## The inventory of the server -/

/-- The coroutine has a buffer. -/
def SenderState.holds : SenderState → Bool
  | .sending _ _ => true
  | _ => false

namespace Connection

variable {g : Geometry} {skipVerify : Bool} {free : ℕ} {c : Connection} {label : ConnectionLabel}
  {next : ℕ × Connection}

/-- Elements go from the inventory to the loop and back, and the loop finds none only if there is
none. -/
structure Draws (free : ℕ) (before : SenderState) (next : ℕ × Connection) : Prop where
  balance : next.1 + next.2.sender.holds.toNat = free + before.holds.toNat
  exhausted : next.2.sender = .exhausted →
    before = .exhausted ∨ free = 0 ∧ before.holds = false

theorem draws_of_sender {after : Connection} (same : after.sender = c.sender) :
    Draws free c.sender (free, after) :=
  ⟨by rw [same], fun stuck => .inl (same ▸ stuck)⟩

theorem balance_sendNext {i : ℕ} {refused : Bool} :
    (c.sendNext g free i refused).1 + (c.sendNext g free i refused).2.sender.holds.toNat =
      free := by
  unfold sendNext
  split
  · split
    · rfl
    · split
      · rfl
      · simp only [SenderState.holds, Bool.toNat_true]
        omega
  · rfl

theorem exhausted_sendNext {i : ℕ} {refused : Bool}
    (stuck : (c.sendNext g free i refused).2.sender = .exhausted) : free = 0 := by
  unfold sendNext at stuck
  split at stuck
  · split at stuck
    · assumption
    · split at stuck <;> contradiction
  · contradiction

theorem sender_receiveNext {geometry : Geometry} {i : ℕ} {refused : Bool} :
    (c.receiveNext skipVerify geometry i refused).sender = c.sender := by
  unfold receiveNext
  split
  · split
    · rfl
    · split <;> rfl
  · rfl

theorem draws_move (move : Move g skipVerify free c label next) :
    Draws free c.sender next := by
  cases move with
  | producerCreated was | geometryArrives was | geometrySent was | geometryFailed _ was
  | transfer was | sendFails _ was | sendFailed _ was =>
    rw [was]
    exact ⟨rfl, nofun⟩
  | consumerCreated | receiveCompletes => exact draws_of_sender sender_receiveNext
  | geometryReceived | geometryMisread | receiveFails | receiveFailed | receiverThrows =>
    exact draws_of_sender rfl
  | consumerAccepted was there =>
    rw [was]
    exact ⟨balance_sendNext, fun stuck => .inr ⟨exhausted_sendNext stuck, rfl⟩⟩
  | sendCompletes was =>
    rw [was]
    exact ⟨balance_sendNext, fun stuck => absurd (exhausted_sendNext stuck) (Nat.succ_ne_zero _)⟩
  | senderThrows was =>
    rcases was with was | was
    · rw [was]
      exact ⟨rfl, nofun⟩
    · rw [was]
      exact ⟨rfl, nofun⟩

end Connection

/-! ## All connections -/

/-- The server with its inventory, and every client it has accepted. -/
structure DataServer where
  free : ℕ := 32
  connections : Population Connection := {}

/-- `accept` returns a connection and `send_blocks` is called with it, or something happens on one
of the connections. -/
inductive DataLabel
  | accept
  | connection (i : ℕ) (label : ConnectionLabel)
  deriving DecidableEq, Repr

namespace DataServer

variable {g : Geometry} {skipVerify : Bool} {s t : DataServer} {label : DataLabel}
  {i : ℕ} {c : Connection}

/-- `serve`. -/
def step (g : Geometry) (skipVerify : Bool) (s : DataServer) : DataLabel → Option DataServer
  | .accept => some { s with connections := s.connections.create {} }
  | .connection i label =>
      (s.connections.read i).bind fun c =>
        (c.step g skipVerify s.free label).map fun next =>
          { free := next.1, connections := s.connections.write i next.2 }

theorem step_connection {action : ConnectionLabel}
    (taken : s.step g skipVerify (.connection i action) = some t) :
    ∃ c next, s.connections.read i = some c ∧ c.step g skipVerify s.free action = some next ∧
      t = { free := next.1, connections := s.connections.write i next.2 } := by
  obtain ⟨c, there, taken⟩ := Option.bind_eq_some_iff.mp taken
  obtain ⟨next, moved, rfl⟩ := Option.map_eq_some_iff.mp taken
  exact ⟨c, next, there, moved, rfl⟩

/-- All connections are faithful, and the elements of the inventory that are not free are held by
one coroutine each. -/
structure Sound (g : Geometry) (s : DataServer) : Prop where
  faithful : s.connections.All (Connection.Faithful g)
  stocked : s.free + s.connections.count (·.sender.holds) = 32
  supplied : s.connections.size ≤ 32 → s.connections.All (·.sender ≠ .exhausted)

theorem sound_init : Sound g {} := ⟨.empty, rfl, fun _ => .empty⟩

theorem sound_step (sound : s.Sound g) (taken : s.step g skipVerify label = some t) :
    t.Sound g := by
  cases label with
  | accept =>
    obtain rfl := Option.some.inj taken
    refine ⟨sound.faithful.create Connection.faithful_init, ?_, fun few => ?_⟩
    · rw [Population.count_create]
      exact sound.stocked
    · rw [Population.size_create] at few
      exact (sound.supplied (by omega)).create nofun
  | connection i action =>
    obtain ⟨c, next, there, moved, rfl⟩ := step_connection taken
    have move := Connection.move_of_step moved
    have drawn := Connection.draws_move move
    have stocked := sound.stocked
    refine ⟨sound.faithful.write there (Connection.faithful_move (sound.faithful i c there) move),
      ?_, fun few => ?_⟩
    · have exchanged := Population.count_write (P := (·.sender.holds)) there next.2
      have balance := drawn.balance
      simp only [Bool.toNat, Bool.cond_eq_ite] at balance
      simp only
      omega
    · rw [Population.size_write] at few
      refine (sound.supplied few).write there fun stuck => ?_
      rcases drawn.exhausted stuck with already | ⟨none, unheld⟩
      · exact sound.supplied few i c there already
      · -- All elements are held, each by another coroutine than this one.
        have others := Population.count_lt_size (P := (·.sender.holds)) there unheld
        omega

end DataServer

end Shoc.Samples
