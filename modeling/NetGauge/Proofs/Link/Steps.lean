import NetGauge.Link.Supervisor

set_option autoImplicit false

/-! # What one step of a link can do

Every step that is possible, with the stage that it is possible in and what it leaves behind
(`Supervisor.Moves`). Whatever holds over a run of a supervisor is shown once for each of these. The
first such fact is where the slot holds a queue: from the step that puts one in to the step that takes it
out, in the stages between the two, and never a closed one (`Supervisor.Slotted`). What a client is
told therefore depends on the stage alone (`send_of_installed`, `send_of_not_installed`). -/

namespace NetGauge.Link

/-- Whether the queue of a connection is in the slot. -/
def Stage.installed : Stage → Bool
  | raising | greeting | serving | writing _ | closing => true
  | connecting | opening | discarding _ | lowering | parting | waiting | ending | fading
  | stopped => false

namespace Supervisor

/-! ## Steps -/

/-- A possible step and what it leaves behind. -/
inductive Moves (s : Supervisor) : Step → Supervisor → Prop
  | connectFailed (hstage : s.stage = .connecting) :
      Moves s .connectFailed { s with stage := .waiting }
  | connectSucceeded (hstage : s.stage = .connecting) :
      Moves s .connectSucceeded { s with stage := .opening, connections := {} :: s.connections }
  | opened (hstage : s.stage = .opening) :
      Moves s .proceeded { s.install (some {}) with stage := .raising }
  | raised (hstage : s.stage = .raising) :
      Moves s .proceeded { s.publish .connected with stage := .greeting }
  | greeted (hstage : s.stage = .greeting) :
      Moves s .proceeded { s.tell .connected with stage := .serving }
  | closed (hstage : s.stage = .closing) :
      Moves s .proceeded
        { s.install none with stage := .discarding (s.handle.outbox.getD {}) }
  | discarded (box : Outbox) (hstage : s.stage = .discarding box) :
      Moves s .proceeded
        { s.onConnection (fun c => { c with discarded := box.queued }) with stage := .lowering }
  | lowered (hstage : s.stage = .lowering) :
      Moves s .proceeded { s.publish .disconnected with stage := .parting }
  | parted (hstage : s.stage = .parting) :
      Moves s .proceeded { s.tell .disconnected with stage := .waiting }
  | ended (hstage : s.stage = .ending) :
      Moves s .proceeded { s.install none with stage := .fading }
  | faded (hstage : s.stage = .fading) :
      Moves s .proceeded { s.publish .disconnected with stage := .stopped }
  | dequeued (command : Command) (rest : List Command) (closed : Bool)
      (hstage : s.stage = .serving)
      (hqueue : s.handle.outbox = some { queued := command :: rest, closed := closed }) :
      Moves s .dequeued
        { s.install (some { queued := rest, closed := closed }) with stage := .writing command }
  | written (command : Command) (hstage : s.stage = .writing command) :
      Moves s .written
        { s.onConnection (fun c => { c with written := c.written ++ [command] }) with
          stage := .serving }
  | writeFailed (command : Command) (hstage : s.stage = .writing command) :
      Moves s .writeFailed
        { s.onConnection (fun c => { c with failed := some command }) with stage := .closing }
  | receivedText (text : String) (hstage : s.stage = .serving) :
      Moves s (.received (.text text)) (s.tell (.payload text))
  | receivedOther (frame : Frame) (hframe : frame = .binary ∨ frame = .ping)
      (hstage : s.stage = .serving) :
      Moves s (.received frame) s
  | receivedClose (hstage : s.stage = .serving) :
      Moves s (.received .close) { s with stage := .closing }
  | readFailed (hstage : s.stage = .serving) : Moves s .readFailed { s with stage := .closing }
  | delayPassed (hstage : s.stage = .waiting) : Moves s .delayPassed { s with stage := .connecting }
  | gaveUp (hcancelled : s.cancelled = true)
      (hstage : s.stage = .connecting ∨ s.stage = .waiting) :
      Moves s .cancelNoticed { s with stage := .ending }
  | saidFarewell (hcancelled : s.cancelled = true) (hstage : s.stage = .serving) :
      Moves s .cancelNoticed
        { s.onConnection (fun c => { c with farewell := true }) with stage := .closing }
  | send (command : Command) :
      Moves s (.send command) { s with handle := (s.handle.send command).2 }
  | shutdown : Moves s .shutdown { s with cancelled := true }

theorem of_dequeue? {s t : Supervisor} {command : Command} (h : s.dequeue? = some (command, t)) :
    ∃ rest closed, s.handle.outbox = some { queued := command :: rest, closed := closed } ∧
      t = s.install (some { queued := rest, closed := closed }) := by
  unfold dequeue? at h
  split at h
  · next rest closed hqueue =>
      cases h
      exact ⟨rest, closed, hqueue, rfl⟩
  · cases h

theorem moves_of_proceed? {s t : Supervisor} (h : s.proceed? = some t) : s.Moves .proceeded t := by
  unfold proceed? at h
  split at h <;> cases h
  · exact .opened ‹_›
  · exact .raised ‹_›
  · exact .greeted ‹_›
  · exact .closed ‹_›
  · exact .discarded _ ‹_›
  · exact .lowered ‹_›
  · exact .parted ‹_›
  · exact .ended ‹_›
  · exact .faded ‹_›

theorem moves_of_step? {s t : Supervisor} {step : Step} (h : s.step? step = some t) :
    s.Moves step t := by
  cases step with
  | proceeded => exact moves_of_proceed? h
  | send command => cases h; exact .send command
  | shutdown => cases h; exact .shutdown
  | dequeued =>
      simp only [step?] at h
      split at h
      · next hstage =>
          obtain ⟨⟨command, u⟩, hdequeue, rfl⟩ := Option.map_eq_some_iff.1 h
          obtain ⟨rest, closed, hqueue, rfl⟩ := of_dequeue? hdequeue
          exact .dequeued command rest closed hstage hqueue
      · cases h
  | received frame =>
      simp only [step?] at h
      split at h
      · next hstage =>
          cases frame with
          | text text => cases h; exact .receivedText text hstage
          | binary => cases h; exact .receivedOther _ (.inl rfl) hstage
          | ping => cases h; exact .receivedOther _ (.inr rfl) hstage
          | close => cases h; exact .receivedClose hstage
      · cases h
  | cancelNoticed =>
      simp only [step?] at h
      split at h
      · next hcancelled =>
          split at h
          · next hstage => cases h; exact .gaveUp hcancelled (.inl hstage)
          · next hstage => cases h; exact .gaveUp hcancelled (.inr hstage)
          · next hstage => cases h; exact .saidFarewell hcancelled hstage
          · cases h
      · cases h
  | connectFailed =>
      simp only [step?] at h
      split at h
      · next hstage => cases h; exact .connectFailed hstage
      · cases h
  | connectSucceeded =>
      simp only [step?] at h
      split at h
      · next hstage => cases h; exact .connectSucceeded hstage
      · cases h
  | written =>
      simp only [step?] at h
      split at h
      · next hstage => cases h; exact .written _ hstage
      · cases h
  | writeFailed =>
      simp only [step?] at h
      split at h
      · next hstage => cases h; exact .writeFailed _ hstage
      · cases h
  | readFailed =>
      simp only [step?] at h
      split at h
      · next hstage => cases h; exact .readFailed hstage
      · cases h
  | delayPassed =>
      simp only [step?] at h
      split at h
      · next hstage => cases h; exact .delayPassed hstage
      · cases h

/-! ## The slot -/

/-- The slot holds an open queue from the step that puts it in to the step that takes it out, and
    nothing at any other time. -/
structure Slotted (s : Supervisor) : Prop where
  present : s.stage.installed = true → ∃ queued, s.handle.outbox = some { queued := queued }
  absent : s.stage.installed = false → s.handle.outbox = none

namespace Slotted

variable {s t : Supervisor}

theorem of_eq (h : s.Slotted) (hslot : t.handle.outbox = s.handle.outbox)
    (hstage : t.stage.installed = s.stage.installed) : t.Slotted where
  present hin := by rw [hslot]; exact h.present (hstage ▸ hin)
  absent hout := by rw [hslot]; exact h.absent (hstage ▸ hout)

theorem of_present (queued : List Command) (hslot : s.handle.outbox = some { queued := queued })
    (hstage : s.stage.installed = true) : s.Slotted where
  present _ := ⟨queued, hslot⟩
  absent hout := by rw [hstage] at hout; cases hout

theorem of_absent (hslot : s.handle.outbox = none) (hstage : s.stage.installed = false) :
    s.Slotted where
  present hin := by rw [hstage] at hin; cases hin
  absent _ := hslot

theorem send (h : s.Slotted) (command : Command) :
    Slotted { s with handle := (s.handle.send command).2 } := by
  cases hin : s.stage.installed with
  | false =>
      have hslot := h.absent hin
      rw [Handle.send_of_outbox_none command s.handle hslot]
      exact .of_absent hslot hin
  | true =>
      obtain ⟨queued, hslot⟩ := h.present hin
      rw [Handle.send_of_outbox_some command s.handle queued hslot]
      exact .of_present (queued ++ [command]) rfl hin

/-- No step leaves a queue in the slot, or the slot empty, at the wrong time. -/
theorem moves (h : s.Slotted) {step : Step} (hmoves : s.Moves step t) : t.Slotted := by
  cases hmoves with
  | opened => exact .of_present [] rfl rfl
  | closed => exact .of_absent rfl rfl
  | ended => exact .of_absent rfl rfl
  | dequeued command rest closed hstage hqueue =>
      obtain ⟨queued, hslot⟩ := h.present (by rw [hstage]; rfl)
      -- The queue is open, so what is left of it is open too.
      have hopen : closed = false := congrArg Outbox.closed (Option.some.inj (hqueue ▸ hslot))
      exact .of_present rest (by rw [hopen]; rfl) rfl
  | send command => exact h.send command
  | receivedText | receivedOther | shutdown => exact h.of_eq rfl rfl
  | gaveUp hcancelled hstage =>
      rcases hstage with hstage | hstage <;> exact h.of_eq rfl (by rw [hstage]; rfl)
  | connectFailed hstage | connectSucceeded hstage | raised hstage | greeted hstage
  | discarded box hstage | lowered hstage | parted hstage | faded hstage | written command hstage
  | writeFailed command hstage | receivedClose hstage | readFailed hstage | delayPassed hstage
  | saidFarewell hcancelled hstage => exact h.of_eq rfl (by rw [hstage]; rfl)

theorem new : ({} : Supervisor).Slotted := .of_absent rfl rfl

/-- What a client is told while the queue of a connection is in the slot. -/
theorem send_of_installed (h : s.Slotted) (hstage : s.stage.installed = true) (command : Command) :
    (s.handle.send command).1 = .ok () := by
  obtain ⟨queued, hslot⟩ := h.present hstage
  rw [Handle.send_of_outbox_some command s.handle queued hslot]

/-- What a client is told at any other time; nothing is kept of the command. -/
theorem send_of_not_installed (h : s.Slotted) (hstage : s.stage.installed = false)
    (command : Command) : s.handle.send command = (.error .notConnected, s.handle) :=
  Handle.send_of_outbox_none command s.handle (h.absent hstage)

end Slotted

end Supervisor

end NetGauge.Link
