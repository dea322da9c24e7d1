import NetGauge.Dashboard

set_option autoImplicit false

/-! # Notifications on their way to a dashboard

Notifications wait in a mailbox until the dashboard takes them out, one at a look. A dashboard that reads
its mailbox looks until it finds nothing more (`Listener.drained`); what comes in between two looks may be
found by the second one or wait for the next time. None of this shows in the end
(`Listener.run_drained`): after any looks, all that was sent has been put to the console once and in order
or still waits, and after all has been read the console and the commands that it sent are those of a
console to which one notification after the other was put (`Console.hear`). The end of the supervisor is
told once, behind the last of them, however often it is met again. -/

namespace NetGauge

open Link (Inbound Handle)

/-! ## Notifications -/

/-- What a notification is to a console: the link went up or down, or the backend sent a text. -/
def Console.hear (label : String) (c : Console Handle) : Inbound → Console Handle
  | .connected => c.onConnected label
  | .disconnected => c.onDisconnected label
  | .payload text => c.handlePayload label text

/-- A dashboard puts every notification to its console, and does nothing else with it. -/
theorem Dashboard.foldl_receive (label : String) (d : Dashboard) (messages : List Inbound) :
    messages.foldl (receive label) d = { d with console := messages.foldl (Console.hear label) d.console } := by
  induction messages generalizing d with
  | nil => rfl
  | cons m rest ih =>
      have hfirst : d.receive label m = { d with console := d.console.hear label m } := by
        cases m <;> rfl
      rw [List.foldl_cons, List.foldl_cons, ih, hfirst]

/-! ## Mailboxes -/

/-- Notifications that were sent and not yet taken, oldest first, and whether their sender is gone. -/
structure Mailbox where
  waiting : List Inbound := []
  ended : Bool := false
  deriving DecidableEq

namespace Mailbox

/-- What a look finds: the oldest notification, nothing yet, or nothing for good. -/
inductive Find where
  | message (m : Inbound)
  | empty
  | ended

/-- A sender that is gone sends nothing. -/
def send (box : Mailbox) (m : Inbound) : Mailbox :=
  if box.ended then box else { box with waiting := box.waiting ++ [m] }

/-- Looks for the oldest notification and takes it out. What was sent before the sender was gone is still
    found. -/
def take (box : Mailbox) : Find × Mailbox :=
  match box.waiting with
  | m :: rest => (.message m, { box with waiting := rest })
  | [] => (if box.ended then .ended else .empty, box)

end Mailbox

/-- A dashboard and the mailbox that it reads. -/
structure Listener where
  dashboard : Dashboard
  mailbox : Mailbox := {}

namespace Listener

open Dashboard (receive)

/-- One look into the mailbox: what it does, and whether another one follows. -/
def look (label : String) (l : Listener) : Bool × Listener :=
  match l.mailbox.take with
  | (.message m, box) => (true, ⟨l.dashboard.receive label m, box⟩)
  | (.empty, box) => (false, ⟨l.dashboard, box⟩)
  | (.ended, box) => (false, ⟨l.dashboard.noticeEnd label, box⟩)

theorem look_of_waiting (label : String) {l : Listener} {m : Inbound} {rest : List Inbound}
    (h : l.mailbox.waiting = m :: rest) :
    l.look label = (true, ⟨l.dashboard.receive label m, { l.mailbox with waiting := rest }⟩) := by
  simp [look, Mailbox.take, h]

theorem look_of_empty (label : String) {l : Listener} (h : l.mailbox.waiting = []) :
    l.look label =
      (false, ⟨if l.mailbox.ended then l.dashboard.noticeEnd label else l.dashboard, l.mailbox⟩) := by
  by_cases hended : l.mailbox.ended = true
  · simp [look, Mailbox.take, h, hended]
  · simp [look, Mailbox.take, h, hended]

/-- Another look follows only one that took something out. -/
theorem length_look {label : String} {l next : Listener} (h : l.look label = (true, next)) :
    next.mailbox.waiting.length < l.mailbox.waiting.length := by
  rcases hwaiting : l.mailbox.waiting with _ | ⟨m, rest⟩
  · rw [look_of_empty label hwaiting] at h
    simp at h
  · rw [look_of_waiting label hwaiting] at h
    simp only [Prod.mk.injEq, true_and] at h
    subst h
    simp

/-- Looks until there is nothing more to be found. -/
def drained (label : String) (l : Listener) : Listener :=
  match _hlook : l.look label with
  | (true, next) => drained label next
  | (false, next) => next
termination_by l.mailbox.waiting.length
decreasing_by exact length_look ‹_›

/-- What is found in one reading is what waits, and behind it the end. -/
theorem drained_eq (label : String) (l : Listener) :
    l.drained label =
      ⟨l.dashboard.drain label l.mailbox.waiting l.mailbox.ended, { l.mailbox with waiting := [] }⟩ := by
  obtain ⟨d, waiting, ended⟩ := l
  induction waiting generalizing d with
  | nil =>
      rw [drained, look_of_empty label rfl]
      rfl
  | cons m rest ih =>
      rw [drained, look_of_waiting label rfl]
      exact ih (d.receive label m)

/-! ## What happens to a mailbox -/

/-- Something that happens between a supervisor and a dashboard. -/
inductive Traffic where
  | sent (m : Inbound)
  /-- The supervisor is gone. -/
  | ended
  /-- A look of a reading that is under way. More may be sent before the next one. -/
  | looked
  /-- A reading, or the rest of one, in which nothing more is sent. -/
  | drained
  deriving DecidableEq

/-- All that is sent, until the supervisor is gone. -/
def sentBy : List Traffic → List Inbound
  | .sent m :: rest => m :: sentBy rest
  | .ended :: _ => []
  | .looked :: rest | .drained :: rest => sentBy rest
  | [] => []

/-- One thing that happens. -/
def undergo (label : String) (l : Listener) : Traffic → Listener
  | .sent m => { l with mailbox := l.mailbox.send m }
  | .ended => { l with mailbox := { l.mailbox with ended := true } }
  | .looked => (l.look label).2
  | .drained => l.drained label

/-- Whatever happens, one thing after the other. -/
def run (label : String) (l : Listener) (traffic : List Traffic) : Listener := traffic.foldl (undergo label) l

/-! ## What has been heard -/

section

variable {label : String} {d : Dashboard} {all applied : List Inbound} {closes : Bool}
  {rest : List Traffic} {l : Listener}

/-- The dashboard that handled these notifications, and was told of the end if `told` says so. -/
def heard (label : String) (d : Dashboard) (applied : List Inbound) (told : Bool) : Dashboard :=
  let read := applied.foldl (receive label) d
  if told then read.noticeEnd label else read

/-- What is still to be sent. -/
def toCome (l : Listener) (rest : List Traffic) : List Inbound := if l.mailbox.ended then [] else sentBy rest

/-- Of all notifications some have been handled, some wait, and some are still to be sent. The end, if it
    comes, is told of only when nothing is left. -/
structure Heard (label : String) (d : Dashboard) (all : List Inbound) (closes : Bool) (rest : List Traffic)
    (applied : List Inbound) (l : Listener) : Prop where
  whole : applied ++ (l.mailbox.waiting ++ l.toCome rest) = all
  closing : (l.mailbox.ended || rest.contains .ended) = closes
  told : l.dashboard.linkLost = true → l.mailbox = ⟨[], true⟩
  dashboard : l.dashboard = heard label d applied l.dashboard.linkLost

/-- The end is told in one entry of the log. -/
theorem noticeEnd_of_linkUp (label : String) {d : Dashboard} (h : d.linkLost = false) :
    d.noticeEnd label =
      { d with
        console := d.console.record label .error "Connection supervisor stopped"
        linkLost := true } := by
  simp [Dashboard.noticeEnd, h, Dashboard.onConsole]

/-- A dashboard that has been told of the end is not told again. -/
theorem noticeEnd_of_linkLost (label : String) {d : Dashboard} (h : d.linkLost = true) :
    d.noticeEnd label = d := by
  simp [Dashboard.noticeEnd, h]

theorem linkLost_noticeEnd (label : String) (d : Dashboard) : (d.noticeEnd label).linkLost = true := by
  by_cases h : d.linkLost = true
  · rw [noticeEnd_of_linkLost label h, h]
  · rw [noticeEnd_of_linkUp label (by simpa using h)]

theorem heard_concat (label : String) (d : Dashboard) (applied : List Inbound) (m : Inbound) :
    heard label d (applied ++ [m]) false = (heard label d applied false).receive label m := by
  simp [heard]

/-- A dashboard that was told of the end has nothing left to find. -/
theorem Heard.linkUp (h : Heard label d all closes rest applied l) (hwaiting : l.mailbox.waiting ≠ []) :
    l.dashboard.linkLost = false := by
  cases hlost : l.dashboard.linkLost with
  | false => rfl
  | true => simp [h.told hlost] at hwaiting

/-- At a look the oldest notification goes from those that wait to those that have been handled. -/
theorem Heard.look_of_waiting (h : Heard label d all closes rest applied l) {m : Inbound}
    {later : List Inbound} (hwaiting : l.mailbox.waiting = m :: later) :
    Heard label d all closes rest (applied ++ [m]) (l.look label).2 := by
  have hup := h.linkUp (by simp [hwaiting])
  have hread := h.dashboard
  have hwhole := h.whole
  rw [hup] at hread
  rw [hwaiting] at hwhole
  rw [Listener.look_of_waiting label hwaiting]
  have hsame : (l.dashboard.receive label m).linkLost = false := hup
  refine ⟨?_, h.closing, ?_, ?_⟩
  · simpa [toCome] using hwhole
  · simp [hsame]
  · simp only [hsame, heard_concat]
    rw [← hread]

/-- A look that finds nothing changes nothing, but for the end, which is told at the first one. -/
theorem Heard.look_of_empty (h : Heard label d all closes rest applied l)
    (hwaiting : l.mailbox.waiting = []) : Heard label d all closes rest applied (l.look label).2 := by
  rw [Listener.look_of_empty label hwaiting]
  by_cases hended : l.mailbox.ended = true
  · have hbox : l.mailbox = ⟨[], true⟩ := by
      rw [← hwaiting, ← hended]
    simp only [hended, if_true]
    refine ⟨h.whole, h.closing, fun _ => hbox, ?_⟩
    rw [linkLost_noticeEnd]
    cases hlost : l.dashboard.linkLost with
    | true => rw [noticeEnd_of_linkLost label hlost, h.dashboard, hlost]
    | false =>
        have hread := h.dashboard
        rw [hlost] at hread
        rw [hread]
        rfl
  · simp only [hended]
    exact h

theorem Heard.look (h : Heard label d all closes rest applied l) :
    ∃ applied, Heard label d all closes rest applied (l.look label).2 := by
  rcases hwaiting : l.mailbox.waiting with _ | ⟨m, later⟩
  · exact ⟨applied, h.look_of_empty hwaiting⟩
  · exact ⟨applied ++ [m], h.look_of_waiting hwaiting⟩

theorem Heard.drained (h : Heard label d all closes rest applied l) :
    ∃ applied, Heard label d all closes rest applied (l.drained label) := by
  fun_induction Listener.drained label l generalizing applied with
  | case1 l next hlook ih =>
      obtain ⟨applied, hnext⟩ := h.look
      rw [hlook] at hnext
      exact ih hnext
  | case2 l next hlook =>
      have hnext := h.look
      rw [hlook] at hnext
      exact hnext

/-- What is handled and what waits is the same whatever is still to happen, if it comes to the same. -/
theorem Heard.congr {other : List Traffic} (h : Heard label d all closes rest applied l)
    (hcome : l.toCome other = l.toCome rest) (hend : other.contains .ended = rest.contains .ended) :
    Heard label d all closes other applied l where
  whole := by rw [hcome]; exact h.whole
  closing := by rw [hend]; exact h.closing
  told := h.told
  dashboard := h.dashboard

/-- **One thing that happens.** -/
theorem Heard.undergo {x : Traffic} (h : Heard label d all closes (x :: rest) applied l) :
    ∃ applied, Heard label d all closes rest applied (l.undergo label x) := by
  cases x with
  | sent m =>
      by_cases hended : l.mailbox.ended = true
      · have hsame : l.undergo label (.sent m) = l := by
          simp [Listener.undergo, Mailbox.send, hended]
        rw [hsame]
        exact ⟨applied, h.congr (by simp [toCome, hended]) (by simp)⟩
      · have hsent : l.undergo label (.sent m) =
            ⟨l.dashboard, { l.mailbox with waiting := l.mailbox.waiting ++ [m] }⟩ := by
          simp [Listener.undergo, Mailbox.send, hended]
        rw [hsent]
        have hwhole := h.whole
        simp only [toCome, hended, sentBy] at hwhole
        refine ⟨applied, ?_, ?_, ?_, h.dashboard⟩
        · simpa [toCome, hended] using hwhole
        · simpa using h.closing
        · intro hlost
          have hbox := h.told hlost
          simp [hbox] at hended
  | ended =>
      have hwhole := h.whole
      have hclosing := h.closing
      refine ⟨applied, ?_, ?_, ?_, h.dashboard⟩
      · simpa [Listener.undergo, toCome, sentBy] using hwhole
      · simpa [Listener.undergo] using hclosing
      · intro hlost
        simp [Listener.undergo, h.told hlost]
  | looked =>
      have hrest : Heard label d all closes rest applied l := h.congr rfl (by simp)
      exact hrest.look
  | drained =>
      have hrest : Heard label d all closes rest applied l := h.congr rfl (by simp)
      exact hrest.drained

/-- **A whole run.** -/
theorem Heard.run (h : Heard label d all closes rest applied l) :
    ∃ applied, Heard label d all closes [] applied (l.run label rest) := by
  induction rest generalizing applied l with
  | nil => exact ⟨applied, h⟩
  | cons x rest ih =>
      obtain ⟨applied, hnext⟩ := h.undergo
      exact ih hnext

/-- A dashboard that has not been told of the end, before anything happens. -/
theorem heard_start (label : String) (hnew : d.linkLost = false) (traffic : List Traffic) :
    Heard label d (sentBy traffic) (traffic.contains .ended) traffic [] { dashboard := d } where
  whole := rfl
  closing := by simp
  told := by simp [hnew]
  dashboard := by simp [heard, hnew]

/-- At the end of a run all has been handled or waits. -/
theorem Heard.finished (h : Heard label d all closes [] applied l) :
    applied ++ l.mailbox.waiting = all ∧ l.mailbox.ended = closes := by
  have hwhole := h.whole
  have hclosing := h.closing
  have hnone : l.toCome [] = [] := by simp [toCome, sentBy]
  rw [hnone, List.append_nil] at hwhole
  exact ⟨hwhole, by simpa using hclosing⟩

/-- When all has been read, all has been handled, and the end has been told if the supervisor is gone. -/
theorem Heard.dashboard_drained (h : Heard label d all closes [] applied l) :
    (l.drained label).dashboard = heard label d all closes := by
  obtain ⟨read, hread⟩ := h.drained
  obtain ⟨hwhole, hended⟩ := hread.finished
  have hwaiting : (l.drained label).mailbox.waiting = [] := by rw [drained_eq]
  rw [hwaiting, List.append_nil] at hwhole
  have hlost : (l.drained label).dashboard.linkLost = closes := by
    cases hcloses : closes with
    | true =>
        have hgone : l.mailbox.ended = true := h.finished.2.trans hcloses
        simp [drained_eq, Dashboard.drain, hgone, linkLost_noticeEnd]
    | false =>
        cases hlost : (l.drained label).dashboard.linkLost with
        | false => rfl
        | true => simp [hread.told hlost, hcloses] at hended
  rw [hread.dashboard, hlost, hwhole]

end

/-- **Reading loses nothing, and how it is done does not show.** Whatever is sent to a new dashboard, in
    however many readings it reads its mailbox, and whatever is sent while it reads: all that was sent has
    been put to the console once and in order or still waits. After one more reading nothing waits, and the
    console is the one to which all of it was put, one notification after the other; if the supervisor was
    gone by then, this has been told in one entry of the log, behind all that the notifications left there.
    So two ways to send the same come to the same, and so do the commands that the console sent. -/
theorem run_drained {d : Dashboard} (hnew : d.linkLost = false) (label : String) (traffic : List Traffic) :
    let l := run label { dashboard := d } traffic
    let all := sentBy traffic
    let read (messages : List Inbound) : Dashboard :=
      { d with console := messages.foldl (Console.hear label) d.console }
    let told : Dashboard :=
      { d with
        console := (read all).console.record label .error "Connection supervisor stopped"
        linkLost := true }
    (∃ applied, applied ++ l.mailbox.waiting = all ∧
      (l.dashboard = read applied ∨ (Traffic.ended ∈ traffic ∧ applied = all ∧ l.dashboard = told))) ∧
    (l.drained label).mailbox.waiting = [] ∧
    (l.drained label).dashboard = (if Traffic.ended ∈ traffic then told else read all) ∧
    ∀ other, sentBy other = all → (Traffic.ended ∈ other ↔ Traffic.ended ∈ traffic) →
      ((run label { dashboard := d } other).drained label).dashboard = (l.drained label).dashboard := by
  intro l all read told
  have hend : traffic.contains .ended = decide (Traffic.ended ∈ traffic) := by simp
  have hread : ∀ messages, heard label d messages false = read messages := d.foldl_receive label
  have htold : heard label d all true = told := by
    have hup : (read all).linkLost = false := hnew
    exact (congrArg (Dashboard.noticeEnd label) (hread all)).trans (noticeEnd_of_linkUp label hup)
  obtain ⟨applied, h⟩ := (heard_start label hnew traffic).run
  obtain ⟨hwhole, hended⟩ := h.finished
  refine ⟨⟨applied, hwhole, ?_⟩, ?_, ?_, ?_⟩
  · have hdashboard := h.dashboard
    cases hlost : (run label { dashboard := d } traffic).dashboard.linkLost with
    | false =>
        rw [hlost] at hdashboard
        exact .inl (hdashboard.trans (hread applied))
    | true =>
        have hbox := h.told hlost
        rw [hlost] at hdashboard
        rw [hbox, List.append_nil] at hwhole
        rw [hbox] at hended
        rw [hwhole] at hdashboard
        exact .inr ⟨by simpa using hended, hwhole, hdashboard.trans htold⟩
  · rw [drained_eq]
  · rw [h.dashboard_drained, hend]
    by_cases hgone : Traffic.ended ∈ traffic
    · simp only [hgone, decide_true, if_true]
      exact htold
    · simp only [hgone, decide_false, if_false]
      exact hread all
  · intro other hsent hgone
    obtain ⟨_, hother⟩ := (heard_start label hnew other).run
    have hsame : other.contains .ended = traffic.contains .ended := by simp [hgone]
    rw [hother.dashboard_drained, h.dashboard_drained, hsent, hsame]

/-- A complaint of the backend that is found at the same look as a link that is back, a link that goes down
    when nothing is left, and an end that is met three times. -/
def lateTraffic : List Traffic :=
  [.sent .connected, .looked,
    .sent (.payload "\x7b\"type\":\"error\",\"data\":\x7b\"message\":\"busy\"\x7d\x7d"), .sent .connected, .drained,
    .looked, .sent .disconnected, .ended, .drained, .drained, .looked]

theorem run_drained_lateTraffic :
    let d : Dashboard := { console := Console.new {} { state := .connected, outbox := some {} } }
    let after := ((run "t" { dashboard := d } lateTraffic).drained "t").dashboard.console
    d.linkLost = false ∧
    after.state.log.toList.map (fun entry => entry.message) =
      ["Connected to backend", "busy", "Connected to backend", "Disconnected from backend, reconnecting in 3.0s",
        "Connection supervisor stopped"] ∧
    after.sink.outbox.map (fun box => box.queued) = some [.getServerStatus, .getServerStatus] := by
  intro d after
  have h : after = _ := congrArg Dashboard.console (run_drained (d := d) rfl "t" lateTraffic).2.2.1
  rw [h]
  exact ⟨rfl, by decide +kernel, by decide +kernel⟩

end Listener

end NetGauge
