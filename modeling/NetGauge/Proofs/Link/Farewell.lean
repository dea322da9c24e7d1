import NetGauge.Proofs.Link.Delivery

set_option autoImplicit false

/-! # What gets out before a connection ends

What was taken for a connection is written in its order for as long as the supervisor serves the
connection, and the supervisor may stop serving it at any moment: it looks for a shutdown, for the end of
the connection and for the next command at once, and takes what it finds first. So a command that waits
is not safe. All that waits gets out exactly if the supervisor comes to find the queue empty while it
still serves the connection (`writtenTo_eq_iff`). -/

namespace NetGauge.Link.Supervisor

variable {s t : Supervisor} {k : Nat}

/-! ## Runs -/

theorem run?_append (s : Supervisor) (xs ys : List Step) :
    s.run? (xs ++ ys) = (s.run? xs).bind (fun t => t.run? ys) := by
  induction xs generalizing s with
  | nil => rfl
  | cons step rest ih =>
      rw [List.cons_append, run?, run?]
      cases s.step? step with
      | none => rfl
      | some u => exact ih u

/-- What comes about in a run comes about at one of its steps. -/
theorem exists_turn {P : Supervisor → Prop} {steps : List Step} (hrun : s.run? steps = some t)
    (hbefore : ¬P s) (hafter : P t) :
    ∃ xs step ys u v, steps = (xs ++ [step]) ++ ys ∧ s.run? xs = some u ∧ u.step? step = some v ∧
      ¬P u ∧ P v := by
  induction steps generalizing s with
  | nil =>
      cases hrun
      exact absurd hafter hbefore
  | cons step rest ih =>
      rw [run?] at hrun
      obtain ⟨u, hstep, hrest⟩ := Option.bind_eq_some_iff.1 hrun
      by_cases hu : P u
      · exact ⟨[], step, rest, s, u, rfl, rfl, hstep, hbefore, hu⟩
      · obtain ⟨xs, later, ys, v, w, rfl, hxs, hturn, hv, hw⟩ := ih hrest hu
        refine ⟨step :: xs, later, ys, v, w, rfl, ?_, hturn, hv, hw⟩
        rw [run?, hstep]
        exact hxs

/-- Without a client nothing is taken. -/
theorem takenAlong_eq_nil (s : Supervisor) {steps : List Step}
    (hquiet : ∀ command, .send command ∉ steps) : s.takenAlong steps = [] := by
  induction steps generalizing s with
  | nil => rfl
  | cons step rest ih =>
      have htaken : s.taken step = [] := by
        cases step with
        | send command => exact absurd List.mem_cons_self (hquiet command)
        | _ => rfl
      rw [takenAlong, htaken]
      cases s.step? step with
      | none => rfl
      | some u => exact ih u (fun command h => hquiet command (List.mem_cons_of_mem _ h))

/-! ## What a connection has written -/

/-- What was written to the connection with a number, if there is one. -/
def writtenTo (s : Supervisor) (k : Nat) : Option (List Command) :=
  (numbered s.connections k).map Connection.written

theorem takenFor_account (s : Supervisor) (k : Nat) :
    takenFor k s.account =
      ((numbered s.connections k).map Connection.handled).getD [] ++
        if k = s.connections.length then s.pending else [] := by
  rw [account, takenFor_append, takenFor_entries, takenFor_map_mk]

/-- What was written is a first part of what was taken. -/
theorem isPrefix_of_writtenTo {written : List Command} (h : s.writtenTo k = some written) :
    written <+: takenFor k s.account := by
  obtain ⟨c, hc, rfl⟩ := Option.map_eq_some_iff.1 h
  rw [takenFor_account, hc, Option.map_some, Option.getD_some, Connection.handled,
    List.append_assoc, List.append_assoc]
  exact List.prefix_append _ _

/-- What is pending has not been written. -/
theorem pending_eq_nil_of_writtenTo (h : s.writtenTo s.connections.length =
    some (takenFor s.connections.length s.account)) : s.pending = [] := by
  obtain ⟨c, hc, hwritten⟩ := Option.map_eq_some_iff.1 h
  rw [takenFor_account, hc, if_pos rfl, Option.map_some, Option.getD_some, Connection.handled,
    List.append_assoc, List.append_assoc] at hwritten
  have hrest := List.self_eq_append_right.1 hwritten
  simp only [List.append_eq_nil_iff] at hrest
  exact hrest.2.2

/-- While a connection is served and nothing waits, all that was taken for it is written. -/
theorem Current.writtenTo_of_idle (h : s.Current) (hstage : s.stage = .serving)
    (hempty : s.handle.outbox = some {}) :
    s.writtenTo s.connections.length = some (takenFor s.connections.length s.account) := by
  unfold Current at h
  rw [hstage] at h
  obtain ⟨c, older, hconnections, hfailed, hdiscarded⟩ := h
  have hnumbered : numbered s.connections s.connections.length = some c := by
    rw [numbered_length, hconnections]
    rfl
  have hpending : s.pending = [] := by
    rw [pending, hstage, Handle.waiting, hempty]
    rfl
  rw [writtenTo, takenFor_account, hnumbered, if_pos rfl, hpending]
  simp [Connection.handled, hfailed, hdiscarded]

theorem map_numbered_modifyHead {α : Type} (g : Connection → α) {f : Connection → Connection}
    (hkeeps : ∀ c, g (f c) = g c) (connections : List Connection) (k : Nat) :
    (numbered (connections.modifyHead f) k).map g = (numbered connections k).map g := by
  cases connections with
  | nil => rfl
  | cons c older =>
      rw [List.modifyHead_cons, numbered, numbered]
      split
      · exact congrArg some (hkeeps c)
      · rfl

theorem length_modifyHead_connections (s : Supervisor) (f : Connection → Connection) :
    (s.onConnection f).connections.length = s.connections.length := by
  rw [onConnection, List.length_modifyHead]

/-- Connections are never forgotten. -/
theorem length_le_moves {step : Step} (hmoves : s.Moves step t) :
    s.connections.length ≤ t.connections.length := by
  cases hmoves with
  | connectSucceeded => exact Nat.le_succ _
  | written | writeFailed | discarded | saidFarewell =>
      exact Nat.le_of_eq (length_modifyHead_connections s _).symm
  | _ => exact Nat.le_refl _

/-- **What was written to a connection grows by a write alone,** and then the supervisor goes on
    serving. -/
theorem writtenTo_moves {step : Step} (hmoves : s.Moves step t) (hk : k ≤ s.connections.length) :
    t.writtenTo k = s.writtenTo k ∨
      t.stage = .serving ∧ t.connections.length = k ∧
        ∃ command, t.writtenTo k = (s.writtenTo k).map (fun written => written ++ [command]) := by
  cases hmoves with
  | connectSucceeded hstage =>
      refine .inl ?_
      rw [writtenTo, numbered, if_neg (by omega)]
      rfl
  | written command hstage =>
      -- The supervisor writes to the current connection, which is the last one.
      by_cases hlast : k = s.connections.length
      · refine .inr ⟨rfl, ?_, command, ?_⟩
        · rw [hlast]
          exact length_modifyHead_connections s _
        · cases hconnections : s.connections with
          | nil => simp [writtenTo, onConnection, hconnections, numbered]
          | cons c older =>
              simp [writtenTo, onConnection, hconnections, numbered, hlast]
      · refine .inl ?_
        cases hconnections : s.connections with
        | nil => simp [writtenTo, onConnection, hconnections, numbered]
        | cons c older =>
            rw [hconnections, List.length_cons] at hlast
            simp [writtenTo, onConnection, hconnections, numbered, hlast]
  | writeFailed | discarded | saidFarewell =>
      refine .inl (map_numbered_modifyHead Connection.written ?_ s.connections k)
      exact fun _ => rfl
  | _ => exact .inl rfl

/-- Nothing that was written to a connection is forgotten. -/
theorem writtenTo_grows {steps : List Step} (hrun : s.run? steps = some t)
    (hk : k ≤ s.connections.length) {written : List Command} (h : s.writtenTo k = some written) :
    ∃ more, t.writtenTo k = some (written ++ more) := by
  induction steps generalizing s written with
  | nil =>
      cases hrun
      exact ⟨[], by rw [List.append_nil]; exact h⟩
  | cons step rest ih =>
      rw [run?] at hrun
      obtain ⟨u, hstep, hrest⟩ := Option.bind_eq_some_iff.1 hrun
      have hmoves := moves_of_step? hstep
      have hu := Nat.le_trans hk (length_le_moves hmoves)
      rcases writtenTo_moves hmoves hk with hsame | ⟨-, -, command, hmore⟩
      · exact ih hrest hu (hsame.trans h)
      · rw [h] at hmore
        obtain ⟨more, hlast⟩ := ih hrest hu hmore
        exact ⟨command :: more, by rw [hlast, List.append_assoc]; rfl⟩

/-! ## Nothing is left behind -/

theorem length_le_run {steps : List Step} (hrun : s.run? steps = some t) :
    s.connections.length ≤ t.connections.length := by
  induction steps generalizing s with
  | nil => cases hrun; exact Nat.le_refl _
  | cons step rest ih =>
      rw [run?] at hrun
      obtain ⟨u, hstep, hrest⟩ := Option.bind_eq_some_iff.1 hrun
      exact Nat.le_trans (length_le_moves (moves_of_step? hstep)) (ih hrest)

/-- The supervisor and the network leave the books as they are. -/
theorem account_quiet {steps : List Step} (hslot : s.Slotted) (hcurrent : s.Current)
    (hquiet : ∀ command, .send command ∉ steps) (hrun : s.run? steps = some t) :
    t.Slotted ∧ t.Current ∧ t.account = s.account := by
  obtain ⟨hslot', hcurrent', hbooks⟩ := run_account hslot hcurrent hrun
  rw [s.takenAlong_eq_nil hquiet, List.append_nil] at hbooks
  exact ⟨hslot', hcurrent', hbooks⟩

/-- The supervisor serves a connection and finds its queue empty. -/
structure Drained (s : Supervisor) (k : Nat) : Prop where
  current : s.connections.length = k
  serving : s.stage = .serving
  empty : s.handle.outbox = some {}

/-- **What waits gets out exactly if the queue is found empty** while the connection is still served. Let
    something be pending for the current connection, and let nothing more be taken. -/
theorem writtenTo_eq_iff {steps : List Step} (hslot : s.Slotted) (hcurrent : s.Current)
    (hpending : s.pending ≠ []) (hquiet : ∀ command, .send command ∉ steps)
    (hrun : s.run? steps = some t) :
    let k := s.connections.length
    t.writtenTo k = some (takenFor k s.account) ↔
      ∃ xs ys u, steps = xs ++ ys ∧ s.run? xs = some u ∧ u.Drained k := by
  intro k
  constructor
  · -- Something is pending at first and nothing in the end, so some step wrote the last of it.
    intro hfull
    have hnot : s.writtenTo k ≠ some (takenFor k s.account) :=
      fun h => hpending (pending_eq_nil_of_writtenTo h)
    obtain ⟨xs, step, ys, u, v, rfl, hxs, hstep, hless, hall⟩ :=
      exists_turn (P := fun u => u.writtenTo k = some (takenFor k s.account)) hrun hnot hfull
    have hturn : s.run? (xs ++ [step]) = some v := by
      rw [run?_append, hxs, Option.bind_some, run?, hstep]
      rfl
    obtain ⟨hslot', -, hbooks⟩ := account_quiet hslot hcurrent
      (fun command h => hquiet command (List.mem_append_left ys h)) hturn
    rcases writtenTo_moves (moves_of_step? hstep) (length_le_run hxs) with
      hsame | ⟨hserving, hlast, -⟩
    · exact absurd (hsame.symm.trans hall) hless
    · -- The last of what was pending has just been written, so the queue is empty.
      refine ⟨xs ++ [step], ys, v, rfl, hturn, hlast, hserving, ?_⟩
      obtain ⟨queued, hqueue⟩ := hslot'.present (by rw [hserving]; rfl)
      have hnone : v.pending = [] := by
        refine pending_eq_nil_of_writtenTo ?_
        rw [hlast, hbooks]
        exact hall
      rw [pending, hserving, Handle.waiting, hqueue] at hnone
      rw [hqueue, show queued = [] from hnone]
  · rintro ⟨xs, ys, u, rfl, hxs, hlast, hserving, hempty⟩
    rw [run?_append, hxs, Option.bind_some] at hrun
    have hxquiet : ∀ command, .send command ∉ xs :=
      fun command h => hquiet command (List.mem_append_left ys h)
    have hyquiet : ∀ command, .send command ∉ ys :=
      fun command h => hquiet command (List.mem_append_right xs h)
    obtain ⟨hslot', hcurrent', hbooks⟩ := account_quiet hslot hcurrent hxquiet hxs
    obtain ⟨-, -, hbooks'⟩ := account_quiet hslot' hcurrent' hyquiet hrun
    have hall : u.writtenTo k = some (takenFor k s.account) := by
      rw [← hbooks, ← hlast]
      exact hcurrent'.writtenTo_of_idle hserving hempty
    obtain ⟨more, hmore⟩ := writtenTo_grows hrun (length_le_run hxs) hall
    -- Nothing more was taken that could be written.
    have hbound : takenFor k s.account ++ more <+: takenFor k s.account := by
      have hprefix := isPrefix_of_writtenTo hmore
      rwa [hbooks', hbooks] at hprefix
    rw [hmore, hbound.eq_of_length_le (by simp)]

end NetGauge.Link.Supervisor
