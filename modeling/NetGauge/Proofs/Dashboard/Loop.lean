import NetGauge.Proofs.Dashboard.Keys

set_option autoImplicit false

/-! # A dashboard at work

Between its keys a dashboard reads what has come over the link, and the link changes by itself. In whatever
order all this happens, a test stays in progress until the backend says that a run ended, and the mode and
the request stay as they are (`Dashboard.live_busy`). No key takes any of this away
(`Dashboard.Reaction.undisturbed`), and no other message does; a sweep that the backend announces only puts
one test in the place of another. -/

namespace NetGauge

open Link (Inbound Handle)

/-- Whether a notification tells that a run ended. -/
def Link.Inbound.endsRun : Inbound → Bool
  | .payload text => (Event.decode text).toOption.any Event.isTerminal
  | .connected | .disconnected => false

namespace Dashboard

variable {δ : Type} [FileSystem δ]

/-- What happens to a dashboard. -/
inductive Happening where
  | pressed (key : Key)
  /-- Notifications have come, and after them the end of their supervisor, if it is gone. -/
  | arrived (messages : List Inbound) (ended : Bool)
  /-- The supervisor works on the link. -/
  | linkChanged (handle : Handle)

/-- The notifications among what happens. -/
def Happening.messages : Happening → List Inbound
  | .arrived messages _ => messages
  | .pressed _ | .linkChanged _ => []

/-- One thing that happens. -/
def undergo (now : Moment) (d : Dashboard) (disk : δ) : Happening → Option Dashboard × δ
  | .pressed key => d.press now disk key
  | .arrived messages ended => (some (d.drain now.label messages ended), disk)
  | .linkChanged handle => (some (d.onConsole fun c => { c with sink := handle }), disk)

/-- Whatever happens, each at its moment, until the user quits. -/
def live (d : Dashboard) (disk : δ) : List (Moment × Happening) → Option Dashboard × δ
  | [] => (some d, disk)
  | (now, happening) :: rest =>
    match d.undergo now disk happening with
    | (none, disk) => (none, disk)
    | (some d, disk) => d.live disk rest

/-- From one state to another a test stays in progress, and the mode and the request stay as they were. -/
structure StillBusy (s t : ClientState) : Prop where
  busy : t.session.status ≠ .idle
  mode : Part.mode.Same s t
  request : Part.request.Same s t

namespace StillBusy

variable {s t u : ClientState}

theorem trans (h : StillBusy s t) (h' : StillBusy t u) : StillBusy s u where
  busy := h'.busy
  mode := h.mode.trans h'.mode
  request := h.request.trans h'.request

theorem of_session (hbusy : s.session.status ≠ .idle) (hsession : t.session = s.session)
    (hrequest : t.request = s.request) : StillBusy s t where
  busy := by rw [hsession]; exact hbusy
  mode := congrArg Session.mode hsession
  request := hrequest

theorem refl (hbusy : s.session.status ≠ .idle) : StillBusy s s := of_session hbusy rfl rfl

theorem record (hbusy : s.session.status ≠ .idle) (label : String) (level : LogLevel)
    (message : String) : StillBusy s (s.note label level message) :=
  of_session hbusy (s.session_note label level message) (s.request_note label level message)

end StillBusy

section

variable {d : Dashboard} (label : String)

/-- Only the end of a run ends it here. -/
theorem stillBusy_receive (hbusy : d.console.state.session.status ≠ .idle) {m : Inbound}
    (hends : m.endsRun = false) : StillBusy d.console.state (d.receive label m).console.state := by
  cases m with
  | connected =>
      obtain ⟨log, hstate⟩ := d.console.state_onConnected label
      have hsession := congrArg ClientState.session hstate
      have hrequest := congrArg ClientState.request hstate
      exact .of_session hbusy hsession hrequest
  | disconnected =>
      obtain ⟨log, hstate⟩ := d.console.state_onDisconnected label
      have hsession := congrArg ClientState.session hstate
      have hrequest := congrArg ClientState.request hstate
      exact .of_session hbusy hsession hrequest
  | payload text =>
      have hafter : (d.receive label (.payload text)).console = d.console.handlePayload label text := rfl
      have hnot : (Event.decode text).toOption.any Event.isTerminal = false := hends
      rw [hafter]
      refine ⟨?_, d.console.same_handlePayload label text (fun _ => rfl),
        d.console.same_handlePayload label text (fun _ => rfl)⟩
      cases hdecode : Event.decode text with
      | error err =>
          have hignored : d.console.handlePayload label text =
              d.console.record label .info ("Ignored message: " ++ err.message) := by
            simp only [Console.handlePayload, hdecode]
          rw [hignored]
          exact hbusy
      | ok e =>
          have hhandled : d.console.handlePayload label text = d.console.handleEvent label e := by
            simp only [Console.handlePayload, hdecode]
          have hterminal : ¬e.isTerminal = true := by simpa [hdecode, Except.toOption] using hnot
          have hsession := d.console.session_handleEvent label e
          rw [if_neg hterminal] at hsession
          rw [hhandled, hsession]
          by_cases hsweep : e.announcesSweep = true
          · rw [if_pos hsweep]
            intro hidle
            cases hidle
          · rw [if_neg hsweep]
            exact hbusy

theorem stillBusy_drain (hbusy : d.console.state.session.status ≠ .idle) {messages : List Inbound}
    (hends : ∀ m ∈ messages, m.endsRun = false) (ended : Bool) :
    StillBusy d.console.state (d.drain label messages ended).console.state := by
  have hread : StillBusy d.console.state (messages.foldl (receive label) d).console.state := by
    induction messages generalizing d with
    | nil => exact .refl hbusy
    | cons m rest ih =>
        have hfirst := stillBusy_receive label hbusy (hends m List.mem_cons_self)
        exact hfirst.trans (ih hfirst.busy (fun x hx => hends x (List.mem_cons_of_mem m hx)))
  unfold drain
  cases ended with
  | false => exact hread
  | true =>
      have hnoted : ∀ d' : Dashboard, d'.console.state.session.status ≠ .idle →
          StillBusy d'.console.state (d'.noticeEnd label).console.state := by
        intro d' hbusy'
        unfold noticeEnd
        split
        · exact .refl hbusy'
        · exact .record hbusy' label .error _
      exact hread.trans (hnoted _ hread.busy)

end

/-- **One thing that happens.** -/
theorem stillBusy_undergo {now : Moment} {d after : Dashboard} {disk disk' : δ}
    {happening : Happening} (hbusy : d.console.state.session.status ≠ .idle)
    (hends : ∀ m ∈ happening.messages, m.endsRun = false)
    (h : d.undergo now disk happening = (some after, disk')) :
    StillBusy d.console.state after.console.state := by
  cases happening with
  | pressed key =>
      have hpress : d.press now disk key = (some after, disk') := h
      have hreaction := d.press_reaction now disk key
      rw [hpress] at hreaction
      have hundisturbed := (Reaction.undisturbed hreaction hbusy).1
      exact ⟨hundisturbed.busy, hundisturbed.rest .mode nofun nofun,
        hundisturbed.rest .request nofun nofun⟩
  | arrived messages ended =>
      cases h
      exact stillBusy_drain now.label hbusy hends ended
  | linkChanged handle =>
      cases h
      exact .refl hbusy

/-- **A test in progress ends when the backend says so.** Whatever keys are pressed, whatever becomes of
    the link, and whatever else is told, a test stays in progress until a message tells that a run ended,
    and until then the mode and the request stay as they were. -/
theorem live_busy {d after : Dashboard} {disk : δ} {happenings : List (Moment × Happening)}
    (hbusy : d.console.state.session.status ≠ .idle)
    (hends : ∀ x ∈ happenings, ∀ m ∈ x.2.messages, m.endsRun = false)
    (h : (d.live disk happenings).1 = some after) :
    StillBusy d.console.state after.console.state := by
  induction happenings generalizing d disk with
  | nil =>
      cases h
      exact .refl hbusy
  | cons head rest ih =>
      obtain ⟨now, happening⟩ := head
      have hfirst := hends (now, happening) List.mem_cons_self
      have hlater := fun x hx => hends x (List.mem_cons_of_mem _ hx)
      rw [live] at h
      rcases hone : d.undergo now disk happening with ⟨_ | next, disk'⟩
      · rw [hone] at h
        cases h
      · rw [hone] at h
        have hnext := stillBusy_undergo hbusy hfirst hone
        exact hnext.trans (ih hnext.busy hlater h)

end Dashboard

end NetGauge
