import NetGauge.Proofs.Console.Footprint

set_option autoImplicit false

/-! # What a sink is offered

A journal tells what a sink took. A tape tells all that it was offered, and what it said each time
(`Tape`), so it also knows of the commands that were refused. A submission adds its command to the tape if
there is one (`Console.offers_submit`). Whatever the console does by itself, on a connection and after a
message of the backend, adds nothing but requests for the status of the servers (`Tape.Asked`). -/

namespace NetGauge

variable {σ : Type} [CommandSink σ]

/-- A command that was offered to a sink. -/
structure Offer where
  command : Command
  /-- Whether the sink took it. -/
  taken : Bool
  deriving DecidableEq

/-- A request for the status of the servers. -/
def Offer.Asks (o : Offer) : Prop := o.command = .getServerStatus

/-- A sink together with all that it was offered, oldest first. -/
structure Tape (σ : Type) where
  sink : σ
  offers : List Offer := []

namespace Tape

/-- Offers a command to the sink and keeps what became of it. -/
def send (command : Command) (tape : Tape σ) : Except DeliveryError Unit × Tape σ :=
  let (answer, sink) := CommandSink.send command tape.sink
  (answer, { sink := sink, offers := tape.offers ++ [⟨command, answer.isOk⟩] })

instance : CommandSink (Tape σ) where
  isConnected tape := CommandSink.isConnected tape.sink
  send := Tape.send

/-- A sink is what is seen of it without its tape. -/
def view : View (Tape σ) σ where
  see := Tape.sink
  isConnected_see _ := rfl
  send_see _ _ := rfl

/-! ## Between two moments -/

/-- From one moment to another a sink was asked for the status of the servers, any number of times, and
    was offered nothing else. -/
def Asked (before after : Tape σ) : Prop :=
  ∃ asked, after.offers = before.offers ++ asked ∧ ∀ o ∈ asked, o.Asks

namespace Asked

variable {before between after : Tape σ}

omit [CommandSink σ] in
/-- Whatever becomes of the sink itself. -/
theorem of_offers_eq (h : after.offers = before.offers) : Asked before after :=
  ⟨[], by rw [h, List.append_nil], nofun⟩

omit [CommandSink σ] in
theorem trans (h : Asked before between) (h' : Asked between after) : Asked before after := by
  obtain ⟨asked, hbetween, hasks⟩ := h
  obtain ⟨asked', hafter, hasks'⟩ := h'
  refine ⟨asked ++ asked', by rw [hafter, hbetween, List.append_assoc], ?_⟩
  intro o ho
  exact (List.mem_append.1 ho).elim (hasks o) (hasks' o)

theorem offerAll (tape : Tape σ) (n : Nat) :
    Asked tape (Console.offerAll tape (List.replicate n .getServerStatus)) := by
  induction n generalizing tape with
  | zero => exact of_offers_eq rfl
  | succ n ih =>
      have hfirst : Asked tape (CommandSink.send Command.getServerStatus tape).2 := by
        refine ⟨[_], rfl, ?_⟩
        intro o ho
        rw [List.mem_singleton.1 ho]
        rfl
      exact hfirst.trans (ih _)

end Asked

end Tape

namespace Console

variable (c : Console (Tape σ)) (label : String)

/-- **A submission offers the sink its command,** and is accepted if the sink takes it; or it is rejected
    and offers nothing. -/
theorem offers_submit (intent : Intent) :
    (∃ command, intent.allowed c.state.request c.state.session = .ok command ∧
      (c.submit intent label).2.sink.offers =
        c.sink.offers ++ [⟨command, (c.submit intent label).1.isOk⟩]) ∨
    (∃ r, (c.submit intent label).1 = .error r) ∧
      (c.submit intent label).2.sink.offers = c.sink.offers := by
  have hsub := c.submission intent label
  generalize c.submit intent label = result at hsub ⊢
  cases hsub with
  | sent command sink henc hsend | refused command e sink henc hsend =>
      left
      refine ⟨command, ((intent.encode_eq_ok_iff _ _ _ _).1 henc).1, ?_⟩
      have hanswer : (Tape.send command c.sink).1 = _ := congrArg Prod.fst hsend
      have hsink : (Tape.send command c.sink).2 = sink := congrArg Prod.snd hsend
      rw [← hsink]
      simp only [Tape.send] at hanswer ⊢
      rw [hanswer]
      rfl
  | rejected r henc => exact .inr ⟨⟨r, rfl⟩, rfl⟩

theorem asked_onConnected : Tape.Asked c.sink (c.onConnected label).sink := by
  rw [sink_onConnected]
  split
  · exact Tape.Asked.offerAll c.sink 1
  · exact Tape.Asked.offerAll c.sink 0

theorem asked_handlePayload (text : String) :
    Tape.Asked c.sink (c.handlePayload label text).sink := by
  obtain ⟨n, hsink⟩ := c.sink_handlePayload label text
  rw [hsink]
  exact Tape.Asked.offerAll c.sink n

end Console

end NetGauge
