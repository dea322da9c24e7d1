import NetGauge.Proofs.Console.View

set_option autoImplicit false

/-! # Submitting an intent

An intent goes out as the one command that it stands for, or it is rejected; then nothing went out
and only the log has changed. Where it can fail, by the session, by a parameter, for want of a
connection or in the delivery, it fails before the state is touched (`Console.Submission`). What a
sink took is read off a journal around it, which changes nothing else (`bare_submit`), so that
`submit_allOrNothing` holds for every sink. -/

namespace NetGauge

variable {σ : Type} [CommandSink σ]

/-! ## Sinks with a journal -/

/-- A sink together with the commands that it has taken, oldest first. -/
structure Journal (σ : Type) where
  sink : σ
  accepted : List Command := []

/-- Offers a command to the sink and keeps it if the sink takes it. -/
def Journal.send (command : Command) (j : Journal σ) : Except DeliveryError Unit × Journal σ :=
  match CommandSink.send command j.sink with
  | (.ok (), sink) => (.ok (), { sink := sink, accepted := j.accepted ++ [command] })
  | (.error e, sink) => (.error e, { j with sink := sink })

instance : CommandSink (Journal σ) where
  isConnected j := CommandSink.isConnected j.sink
  send := Journal.send

theorem Journal.send_sink (command : Command) (j : Journal σ) :
    CommandSink.send command j.sink =
      ((CommandSink.send command j).1, (CommandSink.send command j).2.sink) := by
  show _ = ((Journal.send command j).1, (Journal.send command j).2.sink)
  unfold Journal.send
  rcases CommandSink.send command j.sink with ⟨_ | _, sink⟩ <;> rfl

theorem Journal.accepted_send (command : Command) (j : Journal σ) :
    (CommandSink.send command j).2.accepted =
      match (CommandSink.send command j).1 with
      | .ok () => j.accepted ++ [command]
      | .error _ => j.accepted := by
  show (Journal.send command j).2.accepted = match (Journal.send command j).1 with
    | .ok () => j.accepted ++ [command]
    | .error _ => j.accepted
  unfold Journal.send
  rcases CommandSink.send command j.sink with ⟨_ | _, sink⟩ <;> rfl

/-- A sink is what is seen of it without its journal. -/
def Journal.view : View (Journal σ) σ where
  see := Journal.sink
  isConnected_see _ := rfl
  send_see := Journal.send_sink

/-! ## What a submission comes to -/

namespace Console

/-- The three ends of a submission, each with what is returned and what is left behind. -/
inductive Submission (c : Console σ) (intent : Intent) (label : String) :
    Except Rejection Unit × Console σ → Prop
  /-- The sink took the command. -/
  | sent (command : Command) (sink : σ)
      (henc : intent.encode c.state.request c.state.session (CommandSink.isConnected c.sink) =
        .ok command)
      (hsend : CommandSink.send command c.sink = (.ok (), sink)) :
      Submission c intent label
        (.ok (), { c with sink := sink, state := applySent c.state label intent })
  /-- The sink refused the command. -/
  | refused (command : Command) (e : DeliveryError) (sink : σ)
      (henc : intent.encode c.state.request c.state.session (CommandSink.isConnected c.sink) =
        .ok command)
      (hsend : CommandSink.send command c.sink = (.error e, sink)) :
      Submission c intent label
        (.error (.delivery e),
          { c with sink := sink, state := c.state.note label .error (Rejection.delivery e).message })
  /-- There was no command to offer. -/
  | rejected (r : Rejection)
      (henc : intent.encode c.state.request c.state.session (CommandSink.isConnected c.sink) =
        .error r) :
      Submission c intent label (.error r, { c with state := c.state.note label .error r.message })

theorem submission (c : Console σ) (intent : Intent) (label : String) :
    c.Submission intent label (c.submit intent label) := by
  cases henc : intent.encode c.state.request c.state.session (CommandSink.isConnected c.sink) with
  | error r =>
      have hdel : c.deliver intent = (.error r, c.sink) := by simp [deliver, henc]
      have hsub : c.submit intent label =
          (.error r, { c with state := c.state.note label .error r.message }) := by
        simp [submit, hdel, record]
      exact hsub ▸ .rejected r henc
  | ok command =>
      rcases hsend : CommandSink.send command c.sink with ⟨_ | _, sink⟩
      · next e =>
          have hdel : c.deliver intent = (.error (.delivery e), sink) := by
            simp only [deliver, henc, hsend]
            rfl
          have hsub : c.submit intent label = (.error (.delivery e),
              { c with sink := sink,
                       state := c.state.note label .error (Rejection.delivery e).message }) := by
            simp [submit, hdel, record]
          exact hsub ▸ .refused command e sink henc hsend
      · have hdel : c.deliver intent = (.ok (), sink) := by
          simp only [deliver, henc, hsend]
          rfl
        have hsub : c.submit intent label =
            (.ok (), { c with sink := sink, state := applySent c.state label intent }) := by
          simp [submit, hdel]
        exact hsub ▸ .sent command sink henc hsend

/-- What a sink says to a command that nothing else stands against. -/
def answer (command : Command) (sink : σ) : Except Rejection Unit :=
  if CommandSink.isConnected sink then (CommandSink.send command sink).1.mapError .delivery
  else .error .notConnected

/-- Of a submission that the session allows, the sink decides. -/
theorem submit_of_allowed (c : Console σ) {intent : Intent} {command : Command}
    (hallowed : intent.allowed c.state.request c.state.session = .ok command) (label : String) :
    (c.submit intent label).1 = answer command c.sink := by
  have hencode := Intent.encode_of_allowed hallowed (CommandSink.isConnected c.sink)
  have hsub := c.submission intent label
  generalize c.submit intent label = result at hsub ⊢
  unfold answer
  cases hsub with
  | sent other sink henc hsend | refused other e sink henc hsend =>
      rw [hencode] at henc
      split at henc
      · cases henc
        rw [if_pos ‹_›, hsend]
        rfl
      · cases henc
  | rejected r henc =>
      rw [hencode] at henc
      split at henc
      · cases henc
      · cases henc
        rw [if_neg ‹_›]

/-- Where there is no command to offer, the sink is left alone. -/
theorem submit_of_encode_error (c : Console σ) {intent : Intent} {r : Rejection}
    (h : intent.encode c.state.request c.state.session (CommandSink.isConnected c.sink) = .error r)
    (label : String) :
    (c.submit intent label).1 = .error r ∧ (c.submit intent label).2.sink = c.sink := by
  have hsub := c.submission intent label
  generalize c.submit intent label = result at hsub ⊢
  cases hsub with
  | sent command sink henc _ | refused command e sink henc _ =>
      rw [h] at henc
      cases henc
  | rejected other henc =>
      rw [h] at henc
      cases henc
      exact ⟨rfl, rfl⟩

/-- What becomes of a sink to which commands are offered one after the other, whether it takes them or
    refuses them. -/
def offerAll (sink : σ) (commands : List Command) : σ :=
  commands.foldl (fun sink command => (CommandSink.send command sink).2) sink

/-- **A submission offers the sink the command that the intent stands for,** if there is one, and
    nothing else. -/
theorem sink_submit (c : Console σ) (intent : Intent) (label : String) :
    (c.submit intent label).2.sink = offerAll c.sink
      (intent.encode c.state.request c.state.session
        (CommandSink.isConnected c.sink)).toOption.toList := by
  have hsub := c.submission intent label
  generalize c.submit intent label = result at hsub ⊢
  cases hsub with
  | sent command sink henc hsend | refused command e sink henc hsend =>
      rw [henc]
      exact (congrArg Prod.snd hsend).symm
  | rejected r henc =>
      rw [henc]
      rfl

/-- A submission that the session allows offers its command to a sink that is connected. -/
theorem sink_submit_of_allowed (c : Console σ) {intent : Intent} {command : Command}
    (hallowed : intent.allowed c.state.request c.state.session = .ok command) (label : String) :
    (c.submit intent label).2.sink =
      offerAll c.sink (if CommandSink.isConnected c.sink then [command] else []) := by
  rw [sink_submit, Intent.encode_of_allowed hallowed]
  cases CommandSink.isConnected c.sink <;> rfl

/-- A console without the journal of its sink. -/
def bare (c : Console (Journal σ)) : Console σ :=
  { state := c.state, sink := c.sink.sink, reconnectDelayMs := c.reconnectDelayMs }

/-- A journal changes neither the answer to a submission nor what it leaves behind. -/
theorem bare_submit (c : Console (Journal σ)) (intent : Intent) (label : String) :
    c.bare.submit intent label =
      ((c.submit intent label).1, (c.submit intent label).2.bare) :=
  c.submit_through Journal.view label intent

/-- **A submission is all or nothing.** Accepted, exactly one command went out, the one that the
    intent stands for. Rejected, none did, and what the client knows is as before, but for one entry
    in the log that tells of the rejection; in a full log it takes the place of the oldest. The
    journal that tells what went out is no part of this: without it the submission comes to the
    same. -/
theorem submit_allOrNothing (c : Console (Journal σ)) (intent : Intent) (label : String) :
    c.bare.submit intent label = ((c.submit intent label).1, (c.submit intent label).2.bare) ∧
    match c.submit intent label with
    | (.ok (), after) =>
      ∃ command, intent.encode c.state.request c.state.session (CommandSink.isConnected c.sink) =
          .ok command ∧
        after.sink.accepted = c.sink.accepted ++ [command]
    | (.error r, after) =>
      after.sink.accepted = c.sink.accepted ∧
        after.state = { c.state with log := after.state.log } ∧
        after.state.log.toList =
          (if c.state.log.toList.length = 200 then c.state.log.toList.tail
            else c.state.log.toList) ++ [⟨label, .error, r.message⟩] := by
  refine ⟨c.bare_submit intent label, ?_⟩
  have hsub := c.submission intent label
  generalize c.submit intent label = result at hsub ⊢
  cases hsub with
  | sent command sink henc hsend =>
      have hacc := Journal.accepted_send command c.sink
      simp only [hsend] at hacc
      exact ⟨command, henc, hacc⟩
  | refused command e sink henc hsend =>
      have hacc := Journal.accepted_send command c.sink
      simp only [hsend] at hacc
      exact ⟨hacc, rfl, ActivityLog.toList_record _ _ _ _⟩
  | rejected r henc => exact ⟨rfl, rfl, ActivityLog.toList_record _ _ _ _⟩

end Console

end NetGauge
