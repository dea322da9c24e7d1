import Mathlib.Data.List.Basic
import NetGauge.Proofs.Console.Signals
import NetGauge.Proofs.Link.Steps

set_option autoImplicit false

/-! # What the owner of the console is told

A connection may end in five ways and the supervisor in two, at any moment and in any order. Whichever
way it goes, the notifications come in blocks, one for each connection that was made: that it is there,
the texts that came over it, that it is gone (`block`). They never get ahead of the connections and are
behind them by no more than what the stage says (`Supervisor.Told`). The state of the link is shown
by the stage as well (`Supervisor.Shown`), so a console that has read all notifications agrees with it,
but for the two moments in which the one has changed and the other is about to (`run_inbound`). -/

namespace NetGauge.Link

/-! ## Blocks -/

/-- What is told of a connection until it ends. -/
def opened (texts : List String) : List Inbound := .connected :: texts.map .payload

/-- What is told of a connection in all. -/
def block (texts : List String) : List Inbound := opened texts ++ [.disconnected]

/-- What is told of connections that are over, for the texts that came over each. The last connection
    comes first, as in the record of a supervisor. -/
def blocks (heard : List (List String)) : List Inbound := heard.reverse.flatMap block

theorem blocks_cons (texts : List String) (older : List (List String)) :
    blocks (texts :: older) = blocks older ++ block texts := by
  rw [blocks, List.reverse_cons, List.flatMap_append, List.flatMap_singleton, blocks]

theorem opened_concat (texts : List String) (text : String) :
    opened (texts ++ [text]) = opened texts ++ [.payload text] := by
  rw [opened, List.map_append]
  rfl

/-- A step makes a connection, over which nothing has come, or adds to what came over the current
    one. An attempt that fails makes none. -/
def hear (heard : List (List String)) : Step → List (List String)
  | .connectSucceeded => [] :: heard
  | .received (.text text) => heard.modifyHead (fun texts => texts ++ [text])
  | _ => heard

/-- The texts that came over each connection, the last connection first. -/
def heard (steps : List Step) : List (List String) := steps.foldl hear []

/-- What has been told of the last connection, by the stage. -/
def Stage.told (texts : List String) : Stage → List Inbound
  | opening | raising | greeting => []
  | serving | writing _ | closing | discarding _ | lowering | parting => opened texts
  | connecting | waiting | ending | fading | stopped => block texts

/-- What has been told of all connections, by the stage. -/
def Stage.toldOfAll (stage : Stage) : List (List String) → List Inbound
  | [] => []
  | texts :: older => blocks older ++ stage.told texts

theorem Stage.told_isPrefix (texts : List String) (stage : Stage) :
    stage.told texts <+: block texts := by
  cases stage with
  | opening | raising | greeting => exact List.nil_prefix
  | serving | writing _ | closing | discarding _ | lowering | parting => exact List.prefix_append _ _
  | connecting | waiting | ending | fading | stopped => exact List.prefix_rfl

theorem Stage.toldOfAll_isPrefix (stage : Stage) (heard : List (List String)) :
    stage.toldOfAll heard <+: blocks heard := by
  cases heard with
  | nil => exact List.prefix_rfl
  | cons texts older =>
      rw [blocks_cons]
      exact (List.prefix_append_right_inj _).2 (stage.told_isPrefix texts)

/-! ## The link -/

/-- What a notification says of the link. -/
def Inbound.link (before : Connectivity) : Inbound → Connectivity
  | connected => .connected
  | disconnected => .disconnected
  | payload _ => before

theorem link_opened (texts : List String) (before : Connectivity) :
    (opened texts).foldl Inbound.link before = .connected := by
  rw [opened, List.foldl_cons, List.foldl_map]
  exact List.foldl_fixed _

theorem link_block (texts : List String) (before : Connectivity) :
    (block texts).foldl Inbound.link before = .disconnected := by
  rw [block, List.foldl_append]
  rfl

theorem link_blocks (heard : List (List String)) :
    (blocks heard).foldl Inbound.link .disconnected = .disconnected := by
  cases heard with
  | nil => rfl
  | cons texts older => rw [blocks_cons, List.foldl_append, link_block]

/-- The state of the link that is shown at a stage. -/
def Stage.shows : Stage → Connectivity
  | greeting | serving | writing _ | closing | discarding _ | lowering => .connected
  | opening | raising | parting | connecting | waiting | ending | fading | stopped => .disconnected

/-- The state of the link by what has been told at a stage. -/
def Stage.tells : Stage → Connectivity
  | serving | writing _ | closing | discarding _ | lowering | parting => .connected
  | opening | raising | greeting | connecting | waiting | ending | fading | stopped => .disconnected

/-- Between the two steps that show and tell of a change they differ, and at no other time. -/
theorem Stage.tells_eq_shows {stage : Stage} (hgreeting : stage ≠ .greeting)
    (hparting : stage ≠ .parting) : stage.tells = stage.shows := by
  cases stage with
  | greeting => exact absurd rfl hgreeting
  | parting => exact absurd rfl hparting
  | _ => rfl

namespace Supervisor

variable {s t : Supervisor} {heard : List (List String)}

/-- The state of the link is the one of the stage. -/
def Shown (s : Supervisor) : Prop := s.handle.state = s.stage.shows

theorem shown_new : ({} : Supervisor).Shown := rfl

theorem Shown.moves (h : s.Shown) {step : Step} (hmoves : s.Moves step t) : t.Shown := by
  unfold Shown at h
  cases hmoves with
  | raised | lowered | faded => rfl
  | send command => exact (s.handle.state_send command).trans h
  | receivedText | receivedOther | shutdown => exact h
  | gaveUp hcancelled hstage => rcases hstage with hstage | hstage <;> rwa [hstage] at h
  | connectFailed hstage | connectSucceeded hstage | opened hstage | greeted hstage | closed hstage
  | discarded box hstage | parted hstage | ended hstage | dequeued command rest closed hstage hqueue
  | written command hstage | writeFailed command hstage | receivedClose hstage | readFailed hstage
  | delayPassed hstage | saidFarewell hcancelled hstage => rwa [hstage] at h

/-- What has been told, by the stage. Over a connection that has not been told of nothing has come. -/
def Told (s : Supervisor) (heard : List (List String)) : Prop :=
  match s.stage with
  | .opening | .raising | .greeting => ∃ older, heard = [] :: older ∧ s.inbound = blocks older
  | .serving | .writing _ | .closing | .discarding _ | .lowering | .parting =>
    ∃ texts older, heard = texts :: older ∧ s.inbound = blocks older ++ opened texts
  | .connecting | .waiting | .ending | .fading | .stopped => s.inbound = blocks heard

theorem told_new : ({} : Supervisor).Told [] := rfl

theorem Told.moves (h : s.Told heard) {step : Step} (hmoves : s.Moves step t) :
    t.Told (hear heard step) := by
  unfold Told at h
  cases hmoves with
  | connectSucceeded hstage =>
      rw [hstage] at h
      exact ⟨heard, rfl, h⟩
  | greeted hstage =>
      rw [hstage] at h
      obtain ⟨older, rfl, hinbound⟩ := h
      exact ⟨[], older, rfl, congrArg (fun told => told ++ [Inbound.connected]) hinbound⟩
  | receivedText text hstage =>
      rw [hstage] at h
      obtain ⟨texts, older, rfl, hinbound⟩ := h
      simp only [Told, tell, hstage]
      refine ⟨texts ++ [text], older, rfl, ?_⟩
      rw [hinbound, opened_concat, List.append_assoc]
  | parted hstage =>
      rw [hstage] at h
      obtain ⟨texts, older, rfl, hinbound⟩ := h
      have hall : s.inbound ++ [.disconnected] = blocks (texts :: older) := by
        rw [hinbound, blocks_cons, block, List.append_assoc]
      exact hall
  | receivedOther frame hframe => rcases hframe with rfl | rfl <;> exact h
  | send | shutdown => exact h
  | gaveUp hcancelled hstage => rcases hstage with hstage | hstage <;> rwa [hstage] at h
  | connectFailed hstage | opened hstage | raised hstage | closed hstage | discarded box hstage
  | lowered hstage | ended hstage | faded hstage | dequeued command rest closed hstage hqueue
  | written command hstage | writeFailed command hstage | receivedClose hstage | readFailed hstage
  | delayPassed hstage | saidFarewell hcancelled hstage => rwa [hstage] at h

theorem Told.eq (h : s.Told heard) : s.inbound = s.stage.toldOfAll heard := by
  unfold Told at h
  cases hs : s.stage with
  | opening | raising | greeting =>
      rw [hs] at h
      obtain ⟨older, rfl, hinbound⟩ := h
      exact hinbound.trans (List.append_nil _).symm
  | serving | writing _ | closing | discarding _ | lowering | parting =>
      rw [hs] at h
      obtain ⟨texts, older, rfl, hinbound⟩ := h
      exact hinbound
  | connecting | waiting | ending | fading | stopped =>
      rw [hs] at h
      cases heard with
      | nil => exact h
      | cons texts older => exact h.trans (blocks_cons texts older)

theorem Told.link (h : s.Told heard) : s.inbound.foldl Inbound.link .disconnected = s.stage.tells := by
  unfold Told at h
  cases hs : s.stage with
  | opening | raising | greeting =>
      rw [hs] at h
      obtain ⟨older, -, hinbound⟩ := h
      rw [hinbound]
      exact link_blocks older
  | serving | writing _ | closing | discarding _ | lowering | parting =>
      rw [hs] at h
      obtain ⟨texts, older, -, hinbound⟩ := h
      rw [hinbound, List.foldl_append]
      exact link_opened texts _
  | connecting | waiting | ending | fading | stopped =>
      rw [hs] at h
      rw [show s.inbound = blocks heard from h]
      exact link_blocks heard

/-- What a run keeps: the state of the link that is shown and the notifications. -/
theorem run_told {steps : List Step} (hshown : s.Shown) (htold : s.Told heard)
    (hrun : s.run? steps = some t) : t.Shown ∧ t.Told (steps.foldl hear heard) := by
  induction steps generalizing s heard with
  | nil =>
      cases hrun
      exact ⟨hshown, htold⟩
  | cons step rest ih =>
      rw [run?] at hrun
      obtain ⟨u, hstep, hrest⟩ := Option.bind_eq_some_iff.1 hrun
      have hmoves := moves_of_step? hstep
      exact ih (hshown.moves hmoves) (htold.moves hmoves) hrest

end Supervisor

end NetGauge.Link

/-! ## The console -/

namespace NetGauge

open Link (Inbound)

namespace Operation

variable {σ : Type}

/-- The notification that an operation handles. -/
def inbound? : Operation σ → Option Inbound
  | connected => some .connected
  | disconnected => some .disconnected
  | payload text => some (.payload text)
  | _ => none

theorem link_inbound? (op : Operation σ) (before : Connectivity) :
    op.signal?.toList.foldl Signal.link before = op.inbound?.toList.foldl Inbound.link before := by
  cases op with
  | payload text =>
      rw [signal?]
      cases Event.decode text <;> rfl
  | _ => rfl

end Operation

namespace Console

variable {σ : Type}

/-- The notifications that operations handle, oldest first. -/
def consumed (ops : List (String × Operation σ)) : List Inbound :=
  ops.filterMap (fun op => op.2.inbound?)

theorem consumed_cons (op : String × Operation σ) (rest : List (String × Operation σ)) :
    consumed (op :: rest) = op.2.inbound?.toList ++ consumed rest := by
  rw [consumed, List.filterMap_cons]
  cases op.2.inbound? <;> rfl

theorem link_consumed (ops : List (String × Operation σ)) (before : Connectivity) :
    (signals ops).foldl Signal.link before = (consumed ops).foldl Inbound.link before := by
  induction ops generalizing before with
  | nil => rfl
  | cons op rest ih =>
      rw [signals_cons, consumed_cons, List.foldl_append, List.foldl_append, op.2.link_inbound?, ih]

/-- Whatever else is done to a console, its link is what the notifications say. -/
theorem run_link [CommandSink σ] (c : Console σ) (ops : List (String × Operation σ)) :
    (c.run ops).state.connectivity = (consumed ops).foldl Inbound.link c.state.connectivity := by
  rw [run_connectivity, link_consumed]

end Console

end NetGauge

namespace NetGauge.Link.Supervisor

variable {s : Supervisor}

/-- **What is told of connections.** After any steps of a new supervisor, of the network and of its
    clients, the notifications are one block for each connection that was made, with the texts that
    came over it, in order; of the last block there may be only a part, as the stage says. When the
    supervisor has stopped, the last block is complete and the link is shown as down. And a console
    that has handled all notifications, whatever else was done to it, agrees with the link, unless the
    supervisor has just shown a change of which it tells next. -/
theorem run_inbound {steps : List Step} (hrun : ({} : Supervisor).run? steps = some s) :
    s.inbound = s.stage.toldOfAll (heard steps) ∧
    s.inbound <+: blocks (heard steps) ∧
    (s.stage = .stopped → s.inbound = blocks (heard steps) ∧ s.handle.state = .disconnected) ∧
    ∀ {σ : Type} [CommandSink σ] (config : ClientConfig) (sink : σ) (ops : List (String × Operation σ)),
      Console.consumed ops = s.inbound → s.stage ≠ .greeting → s.stage ≠ .parting →
      (((Console.new config sink).run ops).state.connectivity = .connected ↔
        s.handle.state = .connected) := by
  obtain ⟨hshown, htold⟩ := run_told shown_new told_new hrun
  refine ⟨htold.eq, ?_, ?_, ?_⟩
  · rw [htold.eq]
    exact s.stage.toldOfAll_isPrefix _
  · intro hstopped
    rw [Told, hstopped] at htold
    rw [Shown, hstopped] at hshown
    exact ⟨htold, hshown⟩
  · intro σ _ config sink ops hconsumed hgreeting hparting
    have hlink : ((Console.new config sink).run ops).state.connectivity = s.stage.tells := by
      rw [Console.run_link, hconsumed]
      exact htold.link
    rw [hlink, Stage.tells_eq_shows hgreeting hparting, hshown]

/-- An attempt that fails, a connection over which a text and a ping come before it breaks, and a
    shutdown while the next attempt is waited for. -/
def roughConnections : List Step :=
  [.connectFailed, .delayPassed, .connectSucceeded, .proceeded, .proceeded, .proceeded,
    .received (.text "ok"), .received .ping, .readFailed, .proceeded, .proceeded, .proceeded,
    .proceeded, .shutdown, .cancelNoticed, .proceeded, .proceeded]

theorem run_inbound_roughConnections :
    let ops : List (String × Operation Handle) :=
      [("1", .connected), ("2", .payload "ok"), ("3", .submit .requestStats), ("4", .disconnected)]
    ∃ s, ({} : Supervisor).run? roughConnections = some s ∧
      s.inbound = [.connected, .payload "ok", .disconnected] ∧ s.handle.state = .disconnected ∧
      ((Console.new {} ({} : Handle)).run ops).state.connectivity ≠ .connected := by
  intro ops
  obtain ⟨s, hrun, hstage⟩ :
      ∃ s, ({} : Supervisor).run? roughConnections = some s ∧ s.stage = .stopped := ⟨_, rfl, rfl⟩
  obtain ⟨-, -, hstopped, hconsole⟩ := run_inbound hrun
  obtain ⟨hinbound, hstate⟩ := hstopped hstage
  have hagree := hconsole {} ({} : Handle) ops hinbound.symm (by rw [hstage]; nofun)
    (by rw [hstage]; nofun)
  refine ⟨s, hrun, hinbound, hstate, ?_⟩
  rw [Ne, hagree, hstate]
  nofun

end NetGauge.Link.Supervisor
