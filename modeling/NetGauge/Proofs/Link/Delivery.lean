import NetGauge.Proofs.Link.Steps

set_option autoImplicit false

/-! # Where commands end up

A client is told that its command was taken while the queue of some connection is in the slot. What
becomes of the command then is the supervisor's business, and the network's, and may be cut short by
either at any moment. Yet nothing is lost track of: for each connection, the commands that were taken
for it are, in this order, the ones written to it, at most one whose writing failed, and the ones
given up when it ended, with those that are still on their way in between (`run_delivery`).

The books are kept over all connections at once (`Supervisor.account`): a step adds to them what it
takes, and nothing else changes their sum (`account_moves`). -/

namespace NetGauge.Link

/-! ## The books -/

/-- What a connection has done with, in the order in which it was taken. -/
def Connection.handled (c : Connection) : List Command := c.written ++ c.failed.toList ++ c.discarded

/-- What the supervisor itself holds in a stage. -/
def Stage.inHand : Stage → List Command
  | writing command => [command]
  | discarding box => box.queued
  | _ => []

/-- What waits in the slot. -/
def Handle.waiting (h : Handle) : List Command := (h.outbox.map Outbox.queued).getD []

/-- What each connection has done with, with its number, the first connection being number one. -/
def entries : List Connection → List (Nat × Command)
  | [] => []
  | c :: older => entries older ++ c.handled.map (Prod.mk (older.length + 1))

/-- The connection with a number; the last one comes first in the list. -/
def numbered : List Connection → Nat → Option Connection
  | [], _ => none
  | c :: older, k => if k = older.length + 1 then some c else numbered older k

/-- What was taken for the connection with a number. -/
def takenFor (k : Nat) (log : List (Nat × Command)) : List Command :=
  (log.filter (fun entry => entry.1 == k)).map Prod.snd

theorem takenFor_append (k : Nat) (xs ys : List (Nat × Command)) :
    takenFor k (xs ++ ys) = takenFor k xs ++ takenFor k ys := by
  simp [takenFor]

theorem takenFor_map_mk (k n : Nat) (commands : List Command) :
    takenFor k (commands.map (Prod.mk n)) = if k = n then commands else [] := by
  induction commands with
  | nil => simp [takenFor]
  | cons command rest ih =>
      have hcons : takenFor k ((command :: rest).map (Prod.mk n)) =
          takenFor k [(n, command)] ++ takenFor k (rest.map (Prod.mk n)) :=
        takenFor_append k [(n, command)] _
      rw [hcons, ih]
      by_cases h : k = n
      · simp [takenFor, h]
      · simp [takenFor, h, Ne.symm h]

theorem numbered_of_lt {connections : List Connection} {k : Nat} (h : connections.length < k) :
    numbered connections k = none := by
  induction connections with
  | nil => rfl
  | cons c older ih =>
      simp only [List.length_cons] at h
      rw [numbered, if_neg (by omega), ih (by omega)]

/-- The current connection has the greatest number. -/
theorem numbered_length (connections : List Connection) :
    numbered connections connections.length = connections.head? := by
  cases connections with
  | nil => rfl
  | cons c older => rw [numbered, if_pos List.length_cons, List.head?_cons]

theorem takenFor_entries (k : Nat) (connections : List Connection) :
    takenFor k (entries connections) = ((numbered connections k).map Connection.handled).getD [] := by
  induction connections with
  | nil => rfl
  | cons c older ih =>
      rw [entries, takenFor_append, takenFor_map_mk, ih, numbered]
      by_cases h : k = older.length + 1
      · -- An older connection has a smaller number.
        rw [numbered_of_lt (by omega : older.length < k), if_pos h, if_pos h]
        rfl
      · rw [if_neg h, if_neg h, List.append_nil]

/-- What was written is part of what was done with, in the same order. -/
theorem written_sublist_entries (connections : List Connection) :
    (connections.reverse.flatMap Connection.written).Sublist
      ((entries connections).map Prod.snd) := by
  induction connections with
  | nil => exact .slnil
  | cons c older ih =>
      have hwritten : c.written.Sublist c.handled := by
        rw [Connection.handled, List.append_assoc]
        exact List.sublist_append_left _ _
      rw [List.reverse_cons, List.flatMap_append, List.flatMap_singleton, entries, List.map_append,
        List.map_map]
      refine ih.append ?_
      simpa [Function.comp_def] using hwritten

namespace Supervisor

/-- What was taken and is neither written nor given up. -/
def pending (s : Supervisor) : List Command := s.stage.inHand ++ s.handle.waiting

/-- Everything that was taken, as far as the supervisor can tell. -/
def account (s : Supervisor) : List (Nat × Command) :=
  entries s.connections ++ s.pending.map (Prod.mk s.connections.length)

/-- What a step takes, with the number of the connection that it is taken for: a command for which
    the client is told that it was taken. -/
def taken (s : Supervisor) : Step → List (Nat × Command)
  | .send command =>
    match (s.handle.send command).1 with
    | .ok () => [(s.connections.length, command)]
    | .error _ => []
  | _ => []

/-- What steps take, as long as each is possible. -/
def takenAlong (s : Supervisor) : List Step → List (Nat × Command)
  | [] => []
  | step :: rest => s.taken step ++ ((s.step? step).map (fun t => t.takenAlong rest)).getD []

/-! ## The current connection -/

/-- What is known of the current connection by the stage: nothing has failed before its end begins,
    and nothing is given up before its queue is out of reach. -/
def Current (s : Supervisor) : Prop :=
  match s.stage with
  | .opening | .raising | .greeting | .serving | .writing _ =>
    ∃ c older, s.connections = c :: older ∧ c.failed = none ∧ c.discarded = []
  | .closing | .discarding _ => ∃ c older, s.connections = c :: older ∧ c.discarded = []
  | .connecting | .lowering | .parting | .waiting | .ending | .fading | .stopped => True

theorem current_new : ({} : Supervisor).Current := trivial

theorem connections_onConnection {s : Supervisor} {c : Connection} {older : List Connection}
    (h : s.connections = c :: older) (f : Connection → Connection) :
    (s.onConnection f).connections = f c :: older := by
  rw [onConnection, h]
  rfl

theorem Current.moves {s t : Supervisor} {step : Step} (h : s.Current) (hmoves : s.Moves step t) :
    t.Current := by
  unfold Current at h
  cases hmoves with
  | connectSucceeded => exact ⟨{}, s.connections, rfl, rfl, rfl⟩
  | opened hstage | raised hstage | greeted hstage | closed hstage =>
      rw [hstage] at h
      exact h
  | dequeued command rest closed hstage hqueue =>
      rw [hstage] at h
      exact h
  | written command hstage =>
      rw [hstage] at h
      obtain ⟨c, older, hconnections, hfailed, hdiscarded⟩ := h
      exact ⟨_, older, connections_onConnection hconnections _, hfailed, hdiscarded⟩
  | writeFailed command hstage =>
      rw [hstage] at h
      obtain ⟨c, older, hconnections, -, hdiscarded⟩ := h
      exact ⟨_, older, connections_onConnection hconnections _, hdiscarded⟩
  | receivedClose hstage | readFailed hstage =>
      rw [hstage] at h
      obtain ⟨c, older, hconnections, -, hdiscarded⟩ := h
      exact ⟨c, older, hconnections, hdiscarded⟩
  | saidFarewell hcancelled hstage =>
      rw [hstage] at h
      obtain ⟨c, older, hconnections, -, hdiscarded⟩ := h
      exact ⟨_, older, connections_onConnection hconnections _, hdiscarded⟩
  | receivedText | receivedOther | send | shutdown => exact h
  | connectFailed | discarded | lowered | parted | ended | faded | delayPassed | gaveUp => trivial

/-! ## The books stay balanced -/

variable {s t : Supervisor}

theorem account_congr (hconnections : t.connections = s.connections)
    (hpending : t.pending = s.pending) : t.account = s.account := by
  rw [account, account, hconnections, hpending]

theorem account_of_cons {c : Connection} {older : List Connection}
    (hconnections : s.connections = c :: older) :
    s.account = entries older ++ (c.handled ++ s.pending).map (Prod.mk (older.length + 1)) := by
  rw [account, hconnections, entries, List.map_append, List.append_assoc]
  rfl

/-- Commands may move between what the current connection has done with and what is pending. -/
theorem account_of_head {c c' : Connection} {older : List Connection}
    (hs : s.connections = c :: older) (ht : t.connections = c' :: older)
    (hsame : c'.handled ++ t.pending = c.handled ++ s.pending) : t.account = s.account := by
  rw [account_of_cons hs, account_of_cons ht, hsame]

/-- A command that is taken goes behind all others. -/
theorem account_send (h : s.Slotted) (command : Command) :
    account { s with handle := (s.handle.send command).2 } =
      s.account ++ s.taken (.send command) := by
  cases hin : s.stage.installed with
  | false =>
      simp only [taken, h.send_of_not_installed hin, List.append_nil]
  | true =>
      obtain ⟨queued, hslot⟩ := h.present hin
      have hsend := Handle.send_of_outbox_some command s.handle queued hslot
      simp only [taken, hsend, account, pending, Handle.waiting, hslot, Option.map_some,
        Option.getD_some, List.map_append, List.append_assoc, List.map_cons, List.map_nil]

/-- What the supervisor and the network do moves commands from one place in the books to the next. -/
theorem account_own {step : Step} (hslot : s.Slotted) (hcurrent : s.Current)
    (hmoves : s.Moves step t) (hown : ∀ command, step ≠ .send command) : t.account = s.account := by
  unfold Current at hcurrent
  cases hmoves with
  | send command => exact absurd rfl (hown command)
  | connectSucceeded hstage =>
      -- A connection begins with nothing done and nothing pending.
      have hnone := hslot.absent (by rw [hstage]; rfl)
      simp [account, pending, Stage.inHand, Handle.waiting, hstage, hnone, entries,
        Connection.handled]
  | written command hstage =>
      rw [hstage] at hcurrent
      obtain ⟨c, older, hconnections, hfailed, hdiscarded⟩ := hcurrent
      refine account_of_head hconnections (connections_onConnection hconnections _) ?_
      -- Nothing failed yet and nothing is given up: the command joins the ones before it.
      simp [pending, Stage.inHand, hstage, Connection.handled, hfailed, hdiscarded, onConnection]
  | writeFailed command hstage =>
      rw [hstage] at hcurrent
      obtain ⟨c, older, hconnections, hfailed, hdiscarded⟩ := hcurrent
      refine account_of_head hconnections (connections_onConnection hconnections _) ?_
      simp [pending, Stage.inHand, hstage, Connection.handled, hfailed, hdiscarded, onConnection]
  | discarded box hstage =>
      rw [hstage] at hcurrent
      obtain ⟨c, older, hconnections, hdiscarded⟩ := hcurrent
      refine account_of_head hconnections (connections_onConnection hconnections _) ?_
      -- What the queue held comes after all that was written and the one that failed.
      simp [pending, Stage.inHand, hstage, Connection.handled, hdiscarded, onConnection]
  | saidFarewell hcancelled hstage =>
      rw [hstage] at hcurrent
      obtain ⟨c, older, hconnections, hfailed, hdiscarded⟩ := hcurrent
      refine account_of_head hconnections (connections_onConnection hconnections _) ?_
      simp [pending, Stage.inHand, hstage, Connection.handled, onConnection]
  | dequeued command rest closed hstage hqueue =>
      refine account_congr rfl ?_
      simp [pending, Stage.inHand, Handle.waiting, install, hstage, hqueue]
  | closed hstage =>
      -- The queue leaves the slot but not the supervisor.
      obtain ⟨queued, hsome⟩ := hslot.present (by rw [hstage]; rfl)
      refine account_congr rfl ?_
      simp [pending, Stage.inHand, Handle.waiting, install, hstage, hsome]
  | opened hstage | ended hstage =>
      have hnone := hslot.absent (by rw [hstage]; rfl)
      refine account_congr rfl ?_
      simp [pending, Stage.inHand, Handle.waiting, install, hstage, hnone]
  | connectFailed hstage | raised hstage | greeted hstage | lowered hstage | parted hstage
  | faded hstage | receivedClose hstage | readFailed hstage | delayPassed hstage =>
      refine account_congr rfl ?_
      rw [pending, pending, hstage]
      rfl
  | gaveUp hcancelled hstage =>
      refine account_congr rfl ?_
      rcases hstage with hstage | hstage <;> rw [pending, pending, hstage] <;> rfl
  | receivedText | receivedOther | shutdown => rfl

/-- **A step adds to the books what it takes,** and changes nothing else of their sum. -/
theorem account_moves {step : Step} (hslot : s.Slotted) (hcurrent : s.Current)
    (hmoves : s.Moves step t) : t.account = s.account ++ s.taken step := by
  cases step with
  | send command =>
      cases hmoves
      exact account_send hslot command
  | _ => simpa only [taken, List.append_nil] using account_own hslot hcurrent hmoves nofun

/-! ## Runs -/

/-- What a run keeps: the slot, the record of the current connection and the books. -/
theorem run_account {steps : List Step} (hslot : s.Slotted) (hcurrent : s.Current)
    (hrun : s.run? steps = some t) :
    t.Slotted ∧ t.Current ∧ t.account = s.account ++ s.takenAlong steps := by
  induction steps generalizing s with
  | nil =>
      cases hrun
      exact ⟨hslot, hcurrent, (List.append_nil _).symm⟩
  | cons step rest ih =>
      rw [run?] at hrun
      obtain ⟨u, hstep, hrest⟩ := Option.bind_eq_some_iff.1 hrun
      have hmoves := moves_of_step? hstep
      obtain ⟨hslotted, hlast, hbooks⟩ := ih (hslot.moves hmoves) (hcurrent.moves hmoves) hrest
      refine ⟨hslotted, hlast, ?_⟩
      rw [hbooks, account_moves hslot hcurrent hmoves, takenAlong, hstep, List.append_assoc]
      rfl

/-- Nothing is pending once the queue of a connection is given up, until the next one is put into
    the slot. -/
theorem Slotted.pending_eq_nil (h : s.Slotted) (hstage : s.stage.installed = false)
    (hgiven : ∀ box, s.stage ≠ .discarding box) : s.pending = [] := by
  have hnone := h.absent hstage
  have hhand : s.stage.inHand = [] := by
    cases hs : s.stage with
    | writing command => rw [hs] at hstage; cases hstage
    | discarding box => exact absurd hs (hgiven box)
    | _ => rfl
  rw [pending, hhand, Handle.waiting, hnone]
  rfl

/-- Nothing is pending before the first connection. -/
theorem Current.pending_eq_nil (h : s.Current) (hslot : s.Slotted) (hnone : s.connections = []) :
    s.pending = [] := by
  unfold Current at h
  refine hslot.pending_eq_nil ?_ ?_
  · cases hs : s.stage <;> simp [hs, hnone] at h <;> rfl
  · intro box hs
    simp [hs, hnone] at h

/-- **Where commands end up.** After any steps of a new supervisor, of the network and of its
    clients: the commands that clients were told were taken, while some connection had its queue in
    the slot, are for each connection and in their order the ones written to it, at most one whose
    writing failed, the ones given up and, for the current connection, those still pending. Nothing is
    pending once a connection is over. Over all connections, what was written was taken in that
    order, each time it was written. And a client is told that a command was taken exactly while there
    is a queue in the slot; at any other time nothing comes of it, and the client is told that there is
    no connection. -/
theorem run_delivery {steps : List Step} (hrun : ({} : Supervisor).run? steps = some s) :
    let taken := ({} : Supervisor).takenAlong steps
    (∀ k, takenFor k taken = match numbered s.connections k with
      | none => []
      | some c => c.written ++ c.failed.toList ++ c.discarded ++
          if k = s.connections.length then s.pending else []) ∧
    (s.stage.installed = false → (∀ box, s.stage ≠ .discarding box) → s.pending = []) ∧
    (s.connections.reverse.flatMap Connection.written).Sublist (taken.map Prod.snd) ∧
    ∀ command, if s.stage.installed then (s.handle.send command).1 = .ok ()
      else s.handle.send command = (.error .notConnected, s.handle) := by
  intro taken
  obtain ⟨hslot, hcurrent, hbooks⟩ := run_account .new current_new hrun
  have htaken : taken = entries s.connections ++ s.pending.map (Prod.mk s.connections.length) :=
    hbooks.symm
  refine ⟨?_, hslot.pending_eq_nil, ?_, ?_⟩
  · intro k
    rw [htaken, takenFor_append, takenFor_entries, takenFor_map_mk]
    cases hk : numbered s.connections k with
    | some c => rfl
    | none =>
        -- Only before the first connection has the current one no record.
        split
        · next hlast =>
            rw [hlast, numbered_length] at hk
            exact hcurrent.pending_eq_nil hslot (List.head?_eq_none_iff.1 hk)
        · rfl
  · rw [htaken, List.map_append]
    exact (written_sublist_entries s.connections).trans (List.sublist_append_left _ _)
  · intro command
    split
    · next hin => exact hslot.send_of_installed hin command
    · next hout => exact hslot.send_of_not_installed (by simpa using hout) command

/-- A connection that writes one command, fails at the next and ends with a third still queued; a
    fourth comes too late. -/
def roughRun : List Step :=
  [.connectSucceeded, .proceeded, .proceeded, .proceeded, .send .getStats, .send .getServerStatus,
    .dequeued, .written, .dequeued, .writeFailed, .send .stopPing, .proceeded, .send .stopIperf,
    .proceeded]

theorem run_delivery_roughRun :
    ∃ s, ({} : Supervisor).run? roughRun = some s ∧
      takenFor 1 (({} : Supervisor).takenAlong roughRun) =
        [.getStats] ++ [.getServerStatus] ++ [.stopPing] ∧
      s.pending = [] ∧
      s.handle.send .getStats = (.error .notConnected, s.handle) := by
  have hrun : ∃ s, ({} : Supervisor).run? roughRun = some s ∧ s.stage = .lowering ∧
      numbered s.connections 1 =
        some { written := [.getStats], failed := some .getServerStatus, discarded := [.stopPing] } :=
    ⟨_, rfl, rfl, rfl⟩
  obtain ⟨s, hrun, hstage, hrecord⟩ := hrun
  obtain ⟨htaken, hpending, -, hanswer⟩ := run_delivery hrun
  have hempty : s.pending = [] := hpending (by rw [hstage]; rfl) (by rw [hstage]; nofun)
  refine ⟨s, hrun, ?_, hempty, ?_⟩
  · rw [htaken 1, hrecord, hempty]
    simp
  · simpa [hstage, Stage.installed] using hanswer .getStats

end Supervisor

end NetGauge.Link
