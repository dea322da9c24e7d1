import NetGauge.Command
import NetGauge.Proofs.Json.Record

set_option autoImplicit false

/-! # Commands on the wire

A command is written as an object with its name and, if it has any, its parameters. Whatever these are,
the text is read back as the same command; for this the names in the writer's and in the reader's table,
and the parameters that go with them, have to fit together (`Command.fits`). The text is an object in
which the name stands under `type`, and no member stands for what is not there (`Command.parse_text`). -/

namespace NetGauge

open Json (Value Member Record Faithful Plain Halt objectText)

/-! ## Parameters -/

/-- What goes with a name fits a command: it is the command itself, which has no parameters, or it
    reads the parameters of the command back. -/
def CommandName.Body.Fits (c : Command) : CommandName.Body → Prop
  | .none _ command => c.data? = Option.none ∧ command = c
  | .record r make =>
    ∃ a, c.data? = some (r.toValue a) ∧ make a = c ∧ Faithful r.ofText 2 (r.toValue a) a

section

open Json

theorem Server.faithful (name : String) (server : Server) :
    Faithful (Server.record name).ofText 2 ((Server.record name).toValue server) server := by
  refine Record.faithful _ (by simp [Server.record]) (.cons (Member.carries_of ?_) (.nil _))
  exact Names.faithful Server.names server (by cases server <;> rfl)

theorem ThroughputRun.faithful (run : ThroughputRun) :
    Faithful ThroughputRun.record.ofText 2 (ThroughputRun.record.toValue run) run := by
  refine Record.faithful _ (by decide) ?_
  refine .cons (Member.carries_of (faithful_string _)) ?_
  refine .cons (Member.carries_of (faithful_uint32 _)) ?_
  refine .cons (Member.carries_of (faithful_uint16 _)) ?_
  refine .cons (Member.carries_of (faithful_bool _)) ?_
  refine .cons (Member.carries_sparse (fun bandwidth _ => ?_) (fun _ => rfl)) (.nil run)
  exact faithful_some (faithful_string bandwidth) nofun

theorem PingPongRun.faithful (run : PingPongRun) :
    Faithful PingPongRun.record.ofText 2 (PingPongRun.record.toValue run) run := by
  refine Record.faithful _ (by decide) ?_
  refine .cons (Member.carries_of (faithful_string _)) ?_
  refine .cons (Member.carries_of (faithful_uint32 _)) ?_
  refine .cons (Member.carries_of (faithful_uint16 _)) ?_
  exact .cons (Member.carries_of (faithful_uint32 _)) (.nil run)

theorem LoadRun.faithful (run : LoadRun) :
    Faithful LoadRun.record.ofText 2 (LoadRun.record.toValue run) run := by
  refine Record.faithful _ (by decide) ?_
  refine .cons (Member.carries_of (faithful_string _)) ?_
  refine .cons (Member.carries_of (faithful_uint32 _)) ?_
  refine .cons (Member.carries_of (faithful_uint16 _)) ?_
  refine .cons (Member.carries_of (faithful_uint32 _)) ?_
  exact .cons (Member.carries_of (faithful_uint32 _)) (.nil run)

theorem SweepRun.faithful (run : SweepRun) :
    Faithful SweepRun.record.ofText 2 (SweepRun.record.toValue run) run := by
  refine Record.faithful _ (by decide) ?_
  refine .cons (Member.carries_of (faithful_string _)) ?_
  refine .cons (Member.carries_of (faithful_uint32 _)) ?_
  refine .cons (Member.carries_of (faithful_uint16 _)) ?_
  refine .cons (Member.carries_of (faithful_list _ (fun size _ => ?_))) (.nil run)
  exact faithful_uint32 size

theorem PingRun.faithful (run : PingRun) :
    Faithful PingRun.record.ofText 2 (PingRun.record.toValue run) run := by
  refine Record.faithful _ (by decide) ?_
  refine .cons (Member.carries_of (faithful_string _)) ?_
  exact .cons (Member.carries_of (faithful_uint32 _)) (.nil run)

end

namespace Command

theorem fits (c : Command) : c.tag.body.Fits c := by
  cases c with
  | startServer server => exact ⟨server, rfl, rfl, Server.faithful _ server⟩
  | stopServer server => exact ⟨server, rfl, rfl, Server.faithful _ server⟩
  | startThroughput run => exact ⟨run, rfl, rfl, run.faithful⟩
  | startPingPong run => exact ⟨run, rfl, rfl, run.faithful⟩
  | startLoad run => exact ⟨run, rfl, rfl, run.faithful⟩
  | startSweep run => exact ⟨run, rfl, rfl, run.faithful⟩
  | startPing run => exact ⟨run, rfl, rfl, run.faithful⟩
  | getServerStatus | getStats | stopIperf | stopSockperf | stopPing => exact ⟨rfl, rfl⟩

/-! ## Commands -/

theorem memberAfter_end (first : Bool) (rest : List Char) :
    memberAfter first (objectText first [] ++ rest) = .ok (none, '}' :: rest) := by
  rw [memberAfter, nextMember, Json.nextKey_nil]
  rfl

theorem memberAfter_type (first : Bool) (v : Value) (members : List (String × Value))
    (rest : List Char) :
    memberAfter first (objectText first (("type", v) :: members) ++ rest) =
      .ok (some .type, ':' :: (v.text ++ (objectText false members ++ rest))) := by
  rw [memberAfter, nextMember, Json.nextKey_cons]
  rfl

theorem memberAfter_data (first : Bool) (v : Value) (members : List (String × Value))
    (rest : List Char) :
    memberAfter first (objectText first (("data", v) :: members) ++ rest) =
      .ok (some .data, ':' :: (v.text ++ (objectText false members ++ rest))) := by
  rw [memberAfter, nextMember, Json.nextKey_cons]
  rfl

theorem nameOfText_text {levels : Nat} {rest : List Char} (n : CommandName) (hlevels : 0 < levels)
    (hrest : Json.AfterValue rest) :
    nameOfText levels (':' :: ((Value.string n.text).text ++ rest)) = .ok (n, rest) := by
  have hlisted : CommandName.names.all.lookup n.text = some n := by cases n <;> rfl
  have hread : CommandName.names.ofText levels ((Value.string n.text).text ++ rest) = .ok (n, rest) :=
    (Json.Names.faithful CommandName.names n hlisted).readsBack levels rest hlevels hrest
  rw [nameOfText, Json.afterKey_colon]
  show Halt.lift (CommandName.names.ofText levels ((Value.string n.text).text ++ rest)) = _
  rw [hread]
  rfl

theorem members_of_none {c : Command} (h : c.data? = none) :
    c.members = [("type", .string c.tag.text)] := by
  rw [members, h]
  rfl

theorem members_of_some {c : Command} {data : Value} (h : c.data? = some data) :
    c.members = [("type", .string c.tag.text), ("data", data)] := by
  rw [members, h]
  rfl

theorem plain_members (c : Command) : ∀ m ∈ c.members, Plain 2 m.2 := by
  have hname : Plain 2 (.string c.tag.text) := .string 2 _
  have hfits := c.fits
  cases hbody : c.tag.body with
  | none name command =>
      rw [hbody] at hfits
      obtain ⟨hdata, -⟩ := hfits
      simpa [members_of_none hdata] using hname
  | record r make =>
      rw [hbody] at hfits
      obtain ⟨a, hdata, -, hfaithful⟩ := hfits
      simpa [members_of_some hdata] using ⟨hname, hfaithful.plain⟩

theorem finish_end (c : Command) (rest : List Char) :
    finish c (objectText false [] ++ rest) = .ok (c, '}' :: rest) := by
  rw [finish, memberAfter_end]
  rfl

theorem membersOfText_members (c : Command) {levels : Nat} (rest : List Char) (hlevels : 2 < levels) :
    membersOfText levels (objectText true c.members ++ rest) = .ok (c, '}' :: rest) := by
  have hpositive : 0 < levels := Nat.zero_lt_of_lt hlevels
  have hfits := c.fits
  cases hbody : c.tag.body with
  | none name command =>
      rw [hbody] at hfits
      obtain ⟨hdata, hcommand⟩ := hfits
      have hname := nameOfText_text c.tag hpositive (Json.afterValue_objectText [] rest)
      rw [members_of_none hdata, membersOfText, memberAfter_type]
      simp only [bind, Except.bind, hname, memberAfter_end, hbody, hcommand]
      rfl
  | record r make =>
      rw [hbody] at hfits
      obtain ⟨a, hdata, hcommand, hreads⟩ := hfits
      have hname := nameOfText_text c.tag hpositive
        (Json.afterValue_objectText [("data", r.toValue a)] rest)
      have hread := hreads.readsBack levels _ hlevels (Json.afterValue_objectText [] rest)
      rw [members_of_some hdata, membersOfText, memberAfter_type]
      simp only [bind, Except.bind, hname, memberAfter_data, hbody, Json.afterKey_colon, bodyOfText,
        hread]
      show finish (make a) (objectText false [] ++ rest) = _
      rw [hcommand]
      exact finish_end c rest

/-- **A command is read back** wherever its text stands. -/
theorem faithful (c : Command) : Faithful ofText 3 c.toValue c := by
  refine ⟨.object 2 _ c.plain_members, ?_⟩
  intro levels rest hlevels _
  have hread := c.membersOfText_members rest (by omega : 2 < levels - 1)
  have htext : c.toValue.text ++ rest = '{' :: (objectText true c.members ++ rest) := rfl
  rw [htext, ofText, Json.atValue_cons _ _ rfl, if_pos rfl, if_neg (by omega), hread]
  rfl

/-- Whether a command has no parameters. -/
def isUnit : Command → Bool
  | getServerStatus | getStats | stopIperf | stopSockperf | stopPing => true
  | _ => false

/-- **What is written is what was meant.** The text of a command is read back as the command. It is an
    object whose `type` is the name of the command, with a member for the parameters of a command that
    has any, and nothing else; and a throughput measurement without a bandwidth has no member for it. -/
theorem parse_text (c : Command) :
    parse c.text = .ok c ∧
    Value.parse c.text = .ok (.object c.members) ∧
    c.members.map Prod.fst = (if c.isUnit then ["type"] else ["type", "data"]) ∧
    c.members.lookup "type" = some (.string c.name) ∧
    ∀ run, ∃ data, (startThroughput run).members.lookup "data" = some (.object data) ∧
      data.map Prod.fst =
        ["host", "duration", "port", "udp"] ++ (if run.bandwidth.isSome then ["bandwidth"] else []) := by
  have hfaithful := c.faithful
  refine ⟨Json.whole_compact hfaithful.readsBack (by decide),
    Value.parse_compact hfaithful.plain (by decide), ?_, ?_, fun run => ⟨_, rfl, ?_⟩⟩
  · cases c <;> rfl
  · cases c <;> rfl
  · cases hbandwidth : run.bandwidth <;>
      simp [ThroughputRun.record, Member.of, Member.sparse, hbandwidth]

end Command

end NetGauge
