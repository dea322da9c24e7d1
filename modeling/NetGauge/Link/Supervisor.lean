import NetGauge.Link.Handle

set_option autoImplicit false

/-! # Keeping a link alive

The supervisor keeps one connection to the backend. After a close or a failed attempt it waits for
a fixed delay and tries again, until it is shut down. Commands are taken only while connected, and
nothing waits for a later connection.

What happens is a sequence of steps, of the supervisor, of the network or of a client, in any order
in which each is possible when it comes (`step?`). The supervisor shares with the clients a slot for
the queue of the current connection, the state of the link and the notifications; it touches each of
them in a step of its own, so that a client may come in between any two. Where several steps are
possible at once, as when a command waits and a shutdown has been asked for, any of them may come
next. -/

namespace NetGauge.Link

/-- A notification for whoever owns the console. -/
inductive Inbound where
  | connected
  | disconnected
  | payload (text : String)
  deriving DecidableEq

/-- What a connection may deliver. -/
inductive Frame where
  | text (text : String)
  | binary
  | ping
  | close

/-- What the supervisor does next, or what it waits for. -/
inductive Stage where
  /-- A connection is being made. -/
  | connecting
  /-- A connection is there; next its queue is put into the slot. -/
  | opening
  /-- Next the link is shown as up. -/
  | raising
  /-- Next the owner of the console is told of the connection. -/
  | greeting
  /-- Waits for a command, a frame or a shutdown, whatever comes first. -/
  | serving
  /-- A command has left the queue and is being written. -/
  | writing (command : Command)
  /-- The connection is over; next its queue is taken out of the slot. -/
  | closing
  /-- The queue is out of reach of the clients; next what it holds is given up. -/
  | discarding (box : Outbox)
  /-- Next the link is shown as down. -/
  | lowering
  /-- Next the owner of the console is told of the end of the connection. -/
  | parting
  /-- Waits for the delay before the next attempt. -/
  | waiting
  /-- Nothing more is attempted; next the slot is emptied for good. -/
  | ending
  /-- Next the link is shown as down for good. -/
  | fading
  | stopped
  deriving DecidableEq

/-- How many steps of its own the supervisor is away from its end, if a shutdown is asked for. -/
def Stage.distance : Stage → Nat
  | opening => 11
  | raising => 10
  | greeting => 9
  | serving => 8
  | closing => 7
  | discarding _ => 6
  | lowering => 5
  | parting => 4
  | connecting | waiting => 3
  | ending => 2
  | fading => 1
  | writing _ | stopped => 0

/-- What became of the commands that were taken for one connection. -/
structure Connection where
  written : List Command := []
  /-- The command whose writing failed and ended the connection. -/
  failed : Option Command := none
  discarded : List Command := []
  /-- Whether the supervisor closed the connection because of a shutdown. -/
  farewell : Bool := false

/-- A supervisor with everything it has done. -/
structure Supervisor where
  stage : Stage := .connecting
  handle : Handle := {}
  /-- Whether a shutdown has been asked for. -/
  cancelled : Bool := false
  /-- Notifications that have not been read, oldest first. -/
  inbound : List Inbound := []
  /-- All connections, the current one first. -/
  connections : List Connection := []

/-- A step of the supervisor, of the network or of a client. -/
inductive Step where
  | connectFailed
  | connectSucceeded
  /-- The supervisor does what its stage says comes next. -/
  | proceeded
  /-- The supervisor takes the oldest queued command to write it. -/
  | dequeued
  | written
  | writeFailed
  | received (frame : Frame)
  | readFailed
  | delayPassed
  /-- The supervisor notices that it is to stop. -/
  | cancelNoticed
  /-- A client sends a command through one of the handles, which share the slot. -/
  | send (command : Command)
  | shutdown

namespace Supervisor

/-- Changes the current connection. -/
def onConnection (s : Supervisor) (f : Connection → Connection) : Supervisor :=
  { s with connections := s.connections.modifyHead f }

/-- Notifies the owner of the console. -/
def tell (s : Supervisor) (m : Inbound) : Supervisor := { s with inbound := s.inbound ++ [m] }

/-- Shows a state of the link. -/
def publish (s : Supervisor) (state : Connectivity) : Supervisor :=
  { s with handle := { s.handle with state := state } }

/-- Puts a queue into the slot, or takes one out of it. -/
def install (s : Supervisor) (box : Option Outbox) : Supervisor :=
  { s with handle := { s.handle with outbox := box } }

/-- What the stage says comes next, if it waits for nothing. -/
def proceed? (s : Supervisor) : Option Supervisor :=
  match s.stage with
  | .opening => some { s.install (some {}) with stage := .raising }
  | .raising => some { s.publish .connected with stage := .greeting }
  | .greeting => some { s.tell .connected with stage := .serving }
  | .closing => some { s.install none with stage := .discarding (s.handle.outbox.getD {}) }
  | .discarding box =>
    some { s.onConnection (fun c => { c with discarded := box.discard.1 }) with stage := .lowering }
  | .lowering => some { s.publish .disconnected with stage := .parting }
  | .parting => some { s.tell .disconnected with stage := .waiting }
  | .ending => some { s.install none with stage := .fading }
  | .fading => some { s.publish .disconnected with stage := .stopped }
  | .connecting | .serving | .writing _ | .waiting | .stopped => none

/-- Takes the oldest command out of the queue. -/
def dequeue? (s : Supervisor) : Option (Command × Supervisor) :=
  match s.handle.outbox with
  | some { queued := command :: rest, closed := closed } =>
    some (command, s.install (some { queued := rest, closed := closed }))
  | _ => none

/-- One step, if it is possible. -/
def step? (s : Supervisor) : Step → Option Supervisor
  | .connectFailed => if s.stage = .connecting then some { s with stage := .waiting } else none
  | .connectSucceeded =>
    if s.stage = .connecting then
      some { s with stage := .opening, connections := {} :: s.connections }
    else none
  | .proceeded => s.proceed?
  | .dequeued =>
    if s.stage = .serving then
      s.dequeue?.map (fun (command, s) => { s with stage := .writing command })
    else none
  | .written =>
    match s.stage with
    | .writing command =>
      some { s.onConnection (fun c => { c with written := c.written ++ [command] }) with
        stage := .serving }
    | _ => none
  | .writeFailed =>
    match s.stage with
    | .writing command =>
      some { s.onConnection (fun c => { c with failed := some command }) with stage := .closing }
    | _ => none
  | .received frame =>
    if s.stage = .serving then
      match frame with
      | .text text => some (s.tell (.payload text))
      | .binary | .ping => some s
      | .close => some { s with stage := .closing }
    else none
  | .readFailed => if s.stage = .serving then some { s with stage := .closing } else none
  | .delayPassed => if s.stage = .waiting then some { s with stage := .connecting } else none
  | .cancelNoticed =>
    if s.cancelled then
      match s.stage with
      | .connecting | .waiting => some { s with stage := .ending }
      | .serving => some { s.onConnection (fun c => { c with farewell := true }) with stage := .closing }
      | _ => none
    else none
  | .send command => some { s with handle := (s.handle.send command).2 }
  | .shutdown => some { s with cancelled := true }

/-- Steps one after the other, as long as each is possible. -/
def run? (s : Supervisor) : List Step → Option Supervisor
  | [] => some s
  | step :: rest => (s.step? step).bind (fun s => s.run? rest)

/-- Reads the oldest notification. -/
def next? (s : Supervisor) : Option (Inbound × Supervisor) :=
  match s.inbound with
  | [] => none
  | m :: rest => some (m, { s with inbound := rest })

/-! ## Coming to rest -/

/-- The step that the supervisor takes while nothing arrives and no delay passes. -/
def own? (s : Supervisor) : Option Supervisor :=
  (s.step? .proceeded).or (s.step? .cancelNoticed)

theorem distance_own? (s t : Supervisor) (h : s.own? = some t) :
    t.stage.distance < s.stage.distance := by
  cases hs : s.stage <;> simp [own?, step?, proceed?, hs] at h <;>
    simp [← h, Stage.distance, onConnection, tell, publish, install]

/-- What the supervisor comes to by itself: if it has been told to stop, it closes the connection
    that it serves and ends. -/
def settle (s : Supervisor) : Supervisor :=
  match _ : s.own? with
  | none => s
  | some t => t.settle
termination_by s.stage.distance
decreasing_by exact distance_own? s t ‹_›

/-- By itself the supervisor neither forgets a shutdown nor begins to write. -/
theorem own?_of_cancelled (s t : Supervisor) (h : s.own? = some t) (hc : s.cancelled = true) :
    t.cancelled = true ∧ ∀ command, t.stage ≠ .writing command := by
  cases hs : s.stage <;> simp [own?, step?, proceed?, hs, hc] at h <;>
    simp [← h, hc, onConnection, tell, publish, install]

/-- Told to stop, the supervisor ends, unless a write keeps it. -/
theorem stage_settle (s : Supervisor) (h : s.cancelled = true)
    (hw : ∀ command, s.stage ≠ .writing command) : s.settle.stage = .stopped := by
  fun_induction settle s with
  | case1 s hown => cases hs : s.stage <;> simp_all [own?, step?, proceed?]
  | case2 s t hown ih =>
      obtain ⟨hc, hnext⟩ := own?_of_cancelled s t hown h
      exact ih hc hnext

/-- The answer to waiting for a state of the link. It is known once the link has that state, or
    when the supervisor has ended and the link will never change again. -/
def reaches? (s : Supervisor) (target : Connectivity) : Option Bool :=
  if s.handle.state = target then some true
  else if s.stage = .stopped then some false
  else none

end Supervisor

end NetGauge.Link
