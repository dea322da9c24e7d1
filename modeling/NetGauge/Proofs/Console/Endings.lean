import NetGauge.Proofs.Console.Target

set_option autoImplicit false

/-! # Which events end a run

Which events end a run is said twice: by a question about an event alone (`Event.isTerminal`), and by what
applying the event does to the session. The two agree, for every event in every state
(`ClientState.dispatch_endings`): a session is idle after the end of a run, and otherwise only if it was
idle before and no sweep is announced.

Of a list of events only one matters then, the latest that ends a run or announces a sweep
(`ClientState.session_after_events`). A run that ends twice, or ends while nothing is in progress, is no
different from one that ends once. -/

namespace NetGauge

namespace Event

variable {e : Event}

theorem announcesSweep_eq_true_iff : e.announcesSweep = true ↔ ∃ message, e = .sweepStarted message := by
  cases e <;> simp [announcesSweep]

theorem announcesSweep_eq_false_iff :
    e.announcesSweep = false ↔ ∀ message, e ≠ .sweepStarted message := by
  rw [← Bool.not_eq_true, announcesSweep_eq_true_iff, not_exists]

/-- Whether an event decides what is in progress, whatever was before. -/
def settlesRun (e : Event) : Bool := e.isTerminal || e.announcesSweep

end Event

namespace Session

/-- What an event makes of a session. -/
def told (s : Session) (e : Event) : Session :=
  if e.isTerminal then s.finish else if e.announcesSweep then s.sweepStarted else s

variable {s : Session} {e : Event}

theorem told_of_isTerminal (h : e.isTerminal = true) : s.told e = s.finish := by
  rw [told, if_pos h]

theorem told_of_announcesSweep (h : e.announcesSweep = true) : s.told e = s.sweepStarted := by
  have hends : e.isTerminal ≠ true := by
    intro hends
    rw [Event.not_announcesSweep_of_isTerminal hends] at h
    cases h
  rw [told, if_neg hends, if_pos h]

theorem told_of_not_settlesRun (h : e.settlesRun = false) : s.told e = s := by
  obtain ⟨hends, hsweep⟩ := Bool.or_eq_false_iff.1 h
  simp [told, hends, hsweep]

/-- **A session is idle after an event** if the event ends a run, or if it was idle before and the event
    does not announce a sweep. -/
theorem status_told_eq_idle_iff :
    (s.told e).status = .idle ↔ e.isTerminal = true ∨ s.status = .idle ∧ e.announcesSweep = false := by
  by_cases hends : e.isTerminal = true
  · simp [told_of_isTerminal hends, finish, hends]
  · by_cases hsweep : e.announcesSweep = true
    · simp [told_of_announcesSweep hsweep, sweepStarted, hends, hsweep]
    · rw [told_of_not_settlesRun (by simp [Event.settlesRun, hends, hsweep])]
      simp [hends, hsweep]

/-- An event that decides what is in progress leaves nothing of the session but its mode. -/
theorem told_told (first : Event) (h : e.settlesRun = true) : (s.told first).told e = s.told e := by
  have hmode : (s.told first).mode = s.mode := by
    unfold told
    split
    · rfl
    · split <;> rfl
  rcases Bool.or_eq_true_iff.1 h with hends | hsweep
  · rw [told_of_isTerminal hends, told_of_isTerminal hends, finish, hmode]
    rfl
  · rw [told_of_announcesSweep hsweep, told_of_announcesSweep hsweep, sweepStarted, hmode]
    rfl

end Session

namespace ClientState

/-- **What ends a run by its name ends it by its effect.** In every state and for every event, the session
    is idle afterwards exactly if the event ends a run, or if it was idle before and no sweep is announced.
    The end of a run leaves no test in progress, the announcement of a sweep leaves the sweep running
    whatever was in progress before and in whatever mode, and any other event leaves the session as it
    was. -/
theorem dispatch_endings (s : ClientState) (label : String) (e : Event) :
    let before := s.session
    let after := (s.dispatch label e).1.session
    (after.status = .idle ↔
      e.isTerminal = true ∨ before.status = .idle ∧ ∀ message, e ≠ .sweepStarted message) ∧
    (e.isTerminal = true → after.activeTest = none) ∧
    (∀ message, e = .sweepStarted message →
      after.status = .running ∧ after.activeTest = some .latencySweep) ∧
    (e.isTerminal = false → (∀ message, e ≠ .sweepStarted message) → after = before) ∧
    after.mode = before.mode := by
  intro before after
  have htold : after = before.told e := s.session_dispatch label e
  refine ⟨?_, ?_, ?_, ?_, s.mode_dispatch label e⟩
  · rw [htold, Session.status_told_eq_idle_iff, Event.announcesSweep_eq_false_iff]
  · intro hends
    rw [htold, Session.told_of_isTerminal hends]
    rfl
  · rintro message rfl
    rw [htold, Session.told_of_announcesSweep rfl]
    exact ⟨rfl, rfl⟩
  · intro hends hsweep
    rw [htold, Session.told_of_not_settlesRun]
    exact Bool.or_eq_false_iff.2 ⟨hends, Event.announcesSweep_eq_false_iff.2 hsweep⟩

/-- **After any list of events** the session is what the latest event that settles it made of it, and what
    it was before if there is none. The induction takes the latest event off the list. -/
theorem session_after_events (s : ClientState) (events : List (String × Event)) :
    (s.after (events.map (fun x => .dispatched x.1 x.2))).session =
      ((events.map Prod.snd).filter Event.settlesRun).getLast?.elim s.session s.session.told := by
  induction events using List.reverseRecOn with
  | nil => rfl
  | append_singleton earlier last ih =>
      have hlast : (s.after ((earlier ++ [last]).map (fun x => .dispatched x.1 x.2))).session =
          (s.after (earlier.map (fun x => .dispatched x.1 x.2))).session.told last.2 := by
        rw [after, List.map_append, List.foldl_append]
        exact session_dispatch _ _ _
      rw [hlast, ih, List.map_append, List.filter_append]
      by_cases hsettles : last.2.settlesRun = true
      · cases hbefore : ((earlier.map Prod.snd).filter Event.settlesRun).getLast? with
        | none => simp [hsettles]
        | some first => simp [hsettles, Session.told_told first hsettles]
      · rw [Bool.not_eq_true] at hsettles
        simp [hsettles, Session.told_of_not_settlesRun hsettles]

/-- The end of a run that comes after the announcement of a sweep ends the sweep, and comes no worse for
    coming twice. -/
example (s : ClientState) (message : Option String) :
    (s.after ([("1", Event.sweepStarted message), ("2", .testStopped none), ("3", .testStopped none),
      ("4", .stats {})].map (fun x => .dispatched x.1 x.2))).session = s.session.finish := rfl

end ClientState

end NetGauge
