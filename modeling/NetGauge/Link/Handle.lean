import NetGauge.ClientState
import NetGauge.Console

set_option autoImplicit false

/-! # The near end of a link

What a console sees of a connection that is kept alive for it: whether it is up, and a queue for
the commands that wait to be written. A command is taken exactly while there is an open queue. -/

namespace NetGauge.Link

/-- Commands on their way to a connection, oldest first. A closed queue takes no more. -/
structure Outbox where
  queued : List Command := []
  closed : Bool := false
  deriving DecidableEq

/-- Closes a queue and gives up what is in it: these commands were never written. -/
def Outbox.discard (box : Outbox) : List Command × Outbox :=
  (box.queued, { queued := [], closed := true })

/-- The state of the link and the queue of its connection, if there is one. -/
structure Handle where
  state : Connectivity := .disconnected
  outbox : Option Outbox := none

namespace Handle

/-- Queues a command, if there is a queue that takes it. -/
def send (command : Command) (h : Handle) : Except DeliveryError Unit × Handle :=
  match h.outbox with
  | none => (.error .notConnected, h)
  | some box =>
    if box.closed then (.error .closed, h)
    else (.ok (), { h with outbox := some { box with queued := box.queued ++ [command] } })

instance : CommandSink Handle where
  isConnected h := h.state == .connected
  send := send

/-- Takes all queued commands. -/
def take (h : Handle) : List Command × Handle :=
  match h.outbox with
  | none => ([], h)
  | some box => (box.queued, { h with outbox := some { box with queued := [] } })

/-- Closes the queue and drops what is in it: how many commands were never written. -/
def discard (h : Handle) : Nat × Handle :=
  match h.outbox with
  | none => (0, h)
  | some box => (box.discard.1.length, { h with outbox := some box.discard.2 })

/-- Without a queue nothing is taken and nothing changes. -/
theorem send_of_outbox_none (command : Command) (h : Handle) (hn : h.outbox = none) :
    h.send command = (.error .notConnected, h) := by
  simp [send, hn]

/-- Clients do not touch the state of the link. -/
theorem state_send (command : Command) (h : Handle) : (h.send command).2.state = h.state := by
  unfold send
  split
  · rfl
  · split <;> rfl

/-- An open queue takes a command behind the others. -/
theorem send_of_outbox_some (command : Command) (h : Handle) (queued : List Command)
    (hs : h.outbox = some { queued := queued }) :
    h.send command = (.ok (), { h with outbox := some { queued := queued ++ [command] } }) := by
  simp [send, hs]

end Handle

end NetGauge.Link
