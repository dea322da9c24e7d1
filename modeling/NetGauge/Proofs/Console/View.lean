import NetGauge.Console

set_option autoImplicit false

/-! # Sinks seen as other sinks

A sink may carry more than a console can tell: a journal, or a tape of all that it was offered. What is
left of it without that is a sink in its own right, which answers as the whole does (`View`). A console
cannot tell the two apart, so whatever it does is the same for both (`Console.handleEvent_through` and the
lemmas beside it). -/

namespace NetGauge

variable {τ σ : Type} [CommandSink τ] [CommandSink σ]

/-- One kind of sink seen as another. What is seen of a sink answers as the sink does, and goes on to be
    what is seen of it. -/
structure View (τ σ : Type) [CommandSink τ] [CommandSink σ] where
  see : τ → σ
  isConnected_see (sink : τ) : CommandSink.isConnected (see sink) = CommandSink.isConnected sink
  send_see (command : Command) (sink : τ) :
    CommandSink.send command (see sink) =
      ((CommandSink.send command sink).1, see (CommandSink.send command sink).2)

namespace Console

/-- A console on what is seen of its sink. -/
def through (v : View τ σ) (c : Console τ) : Console σ :=
  { state := c.state, sink := v.see c.sink, reconnectDelayMs := c.reconnectDelayMs }

variable (v : View τ σ) (c : Console τ) (label : String)

theorem deliver_through (intent : Intent) :
    (c.through v).deliver intent = ((c.deliver intent).1, v.see (c.deliver intent).2) := by
  have henc : intent.encode (c.through v).state.request (c.through v).state.session
        (CommandSink.isConnected (c.through v).sink) =
      intent.encode c.state.request c.state.session (CommandSink.isConnected c.sink) :=
    congrArg (intent.encode c.state.request c.state.session) (v.isConnected_see c.sink)
  unfold deliver
  rw [henc]
  cases intent.encode c.state.request c.state.session (CommandSink.isConnected c.sink) with
  | error r => rfl
  | ok command => simp only [through, v.send_see]

theorem submit_through (intent : Intent) :
    (c.through v).submit intent label =
      ((c.submit intent label).1, (c.submit intent label).2.through v) := by
  unfold submit
  rw [c.deliver_through v]
  rcases c.deliver intent with ⟨_ | _, sink⟩ <;> rfl

theorem record_through (level : LogLevel) (message : String) :
    (c.through v).record label level message = (c.record label level message).through v := by
  simp only [record, through]

theorem handleEvent_through (e : Event) :
    (c.through v).handleEvent label e = (c.handleEvent label e).through v := by
  have hstate : (c.through v).state = c.state := rfl
  unfold handleEvent
  rw [hstate]
  rcases c.state.dispatch label e with ⟨state, _ | _ | message⟩
  · rfl
  · have hsubmit := submit_through v { c with state := state } label .refreshServerStatus
    exact congrArg Prod.snd hsubmit
  · exact record_through v { c with state := state } label .error message

theorem handlePayload_through (text : String) :
    (c.through v).handlePayload label text = (c.handlePayload label text).through v := by
  unfold handlePayload
  cases Event.decode text with
  | ok e => exact c.handleEvent_through v label e
  | error err => exact c.record_through v label .info _

theorem onConnected_through :
    (c.through v).onConnected label = (c.onConnected label).through v := by
  let told : Console τ := { c with state := { c.state with connectivity := .connected } }
  have hrecord := told.record_through v label .success "Connected to backend"
  have hsubmit := submit_through v (told.record label .success "Connected to backend") label
    .refreshServerStatus
  rw [← hrecord] at hsubmit
  exact congrArg Prod.snd hsubmit

theorem onDisconnected_through :
    (c.through v).onDisconnected label = (c.onDisconnected label).through v := by
  let told : Console τ := { c with state := { c.state with connectivity := .disconnected } }
  exact told.record_through v label .error _

end Console

end NetGauge
