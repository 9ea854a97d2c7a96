/-
# Transfers that come to an end

The coroutines of the block transfer wait for each other in turn: the client for the
message, the server for the consumer, and then each of them for the device, which waits
for both. On a connection where nothing has failed, one of them can always go on, and
every step leaves less to be done, so that the steps of this connection alone lead to
its end. Other connections may have failed in any way; all they share is the inventory.
-/

import Shoc.Samples.DataTransfer

namespace Shoc.Samples

open Data Transition

namespace SenderState

/-- Nothing has failed. -/
def Good : SenderState → Prop
  | .sending _ (.completed status) => status = .success
  | .returned complete => complete = true
  | .exhausted | .threw => False
  | .creatingProducer | .sendingGeometry _ | .acceptingConsumer | .sending _ .pending => True

/-- The geometry is not at the client yet. -/
def Silent : SenderState → Prop
  | .creatingProducer | .sendingGeometry false => True
  | _ => False

/-- The consumer was accepted. -/
def Accepted : SenderState → Prop
  | .sending _ _ | .returned _ => True
  | _ => False

/-- What is left to be done. -/
def rest (n : ℕ) : SenderState → ℕ
  | .creatingProducer => 2 * n + 4
  | .sendingGeometry false => 2 * n + 3
  | .sendingGeometry true => 2 * n + 2
  | .acceptingConsumer => 2 * n + 1
  | .sending i .pending => 2 * (n - i)
  | .sending i (.completed _) => 2 * (n - i) - 1
  | .returned _ | .exhausted | .threw => 0

end SenderState

namespace ReceiverState

def Good : ReceiverState → Prop
  | .receiving _ _ (.completed status) => status = .success
  | .returned dataError => dataError.isSome
  | .exhausted | .threw => False
  | .awaitingGeometry | .creatingConsumer _ | .receiving _ _ .pending => True

/-- The consumer is not announced yet. -/
def Early : ReceiverState → Prop
  | .awaitingGeometry | .creatingConsumer _ => True
  | _ => False

def rest (n : ℕ) : ReceiverState → ℕ
  | .awaitingGeometry => 2 * n + 2
  | .creatingConsumer _ => 2 * n + 1
  | .receiving _ i .pending => 2 * (n - i)
  | .receiving _ i (.completed _) => 2 * (n - i) - 1
  | .returned _ | .exhausted | .threw => 0

end ReceiverState

namespace Connection

variable {g : Geometry} {skipVerify : Bool} {free : ℕ} {c : Connection} {label : ConnectionLabel}
  {next : ℕ × Connection}

/-- Nothing has failed, and what one side waits for is there or will be sent. -/
structure Healthy (g : Geometry) (c : Connection) : Prop where
  sender : c.sender.Good
  receiver : c.receiver.Good
  told : c.sender.Silent ∨ c.receiver ≠ .awaitingGeometry ∨ c.message = some g.message
  announced : c.receiver.Early ∨ c.sender.Accepted ∨ c.announced = true

def rest (g : Geometry) (c : Connection) : ℕ :=
  c.sender.rest g.blockCount.toNat + c.receiver.rest g.blockCount.toNat

end Connection

namespace DataServer

variable {g : Geometry} {skipVerify : Bool} {s t : DataServer} {label : DataLabel}
  {i : ℕ} {c : Connection}

/-- The coroutine of a connection has a buffer, or there is one for it. -/
theorem Sound.supply (sound : s.Sound g) (few : s.connections.size ≤ 32)
    (there : s.connections.read i = some c) (unheld : c.sender.holds = false) : 0 < s.free := by
  have others := Population.count_lt_size (P := (·.sender.holds)) there unheld
  have stocked := sound.stocked
  omega

/-- A connection on which nothing has failed. -/
structure Going (g : Geometry) (i : ℕ) (s : DataServer) : Prop where
  sound : s.Sound g
  healthy : s.connections.size ≤ 32 →
    ∀ c, s.connections.read i = some c → c.Healthy g

end DataServer

end Shoc.Samples
