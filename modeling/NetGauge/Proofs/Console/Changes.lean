import Mathlib.Data.List.Induction
import NetGauge.Console

set_option autoImplicit false

/-! # Changes of what the client knows

Whatever is done to a console, what it does to the client's state is made up of changes of seven
kinds (`Change`), each made only where it is allowed (`Change.Allowed`). A path is a list of changes
from one state to another, each allowed when it is made; what no allowed change can break holds all
along a path. -/

namespace NetGauge

/-! ## Changes -/

/-- One change of what the client knows. -/
inductive Change where
  | noted (label : String) (level : LogLevel) (message : String)
  /-- The command for an intent went out. -/
  | sent (intent : Intent) (label : String) (command : Command)
  | dispatched (label : String) (e : Event)
  | linked (connectivity : Connectivity)
  | modeSet (mode : Mode)
  | edited (edit : TestRequest → TestRequest)
  | reset

namespace Change

/-- Makes a change. -/
def apply (s : ClientState) : Change → ClientState
  | noted label level message => s.note label level message
  | sent intent label _ => Console.applySent s label intent
  | dispatched label e => (s.dispatch label e).1
  | linked connectivity => { s with connectivity := connectivity }
  | modeSet mode => { s with session := { s.session with mode := mode } }
  | edited edit => { s with request := edit s.request }
  | reset => s.reset

/-- What must hold when a change is made. -/
def Allowed (s : ClientState) : Change → Prop
  | sent intent _ command => intent.allowed s.request s.session = .ok command
  | modeSet mode => mode = s.session.mode ∨ s.session.status = .idle
  | edited _ => s.session.status = .idle
  | noted .. | dispatched .. | linked _ | reset => True

/-- The command that went out, if one did. -/
def command? : Change → Option Command
  | sent _ _ command => some command
  | _ => none

end Change

/-- What the client knows after changes, oldest first. -/
def ClientState.after (s : ClientState) (changes : List Change) : ClientState :=
  changes.foldl Change.apply s

/-- Changes that lead from one state to another, each allowed when it is made. -/
inductive Path : ClientState → List Change → ClientState → Prop where
  | nil (s : ClientState) : Path s [] s
  | cons {s t : ClientState} {change : Change} {later : List Change} (hallowed : change.Allowed s)
      (hlater : Path (change.apply s) later t) : Path s (change :: later) t

namespace Path

variable {s t u : ClientState} {xs ys : List Change}

theorem one (change : Change) (h : change.Allowed s) : Path s [change] (change.apply s) :=
  .cons h (.nil _)

theorem append (hx : Path s xs t) (hy : Path t ys u) : Path s (xs ++ ys) u := by
  induction hx with
  | nil _ => exact hy
  | cons hallowed _ ih => exact .cons hallowed (ih hy)

theorem eq_after (h : Path s xs t) : t = s.after xs := by
  induction h with
  | nil _ => rfl
  | cons _ _ ih => exact ih

/-- A path can be cut anywhere. -/
theorem split (h : Path s (xs ++ ys) u) : Path s xs (s.after xs) ∧ Path (s.after xs) ys u := by
  induction xs generalizing s with
  | nil => exact ⟨.nil s, h⟩
  | cons x xs ih =>
      cases h with
      | cons hallowed hlater =>
          obtain ⟨hfront, hback⟩ := ih hlater
          exact ⟨.cons hallowed hfront, hback⟩

end Path

/-! ## The latest change of a sort -/

/-- `change` is the latest in a history of the changes that `p` picks, and `before` is the history up to
    it. -/
def Latest (p : Change → Bool) (history before : List Change) (change : Change) : Prop :=
  p change = true ∧ ∃ later, history = before ++ change :: later ∧ ∀ x ∈ later, p x = false

section

variable {p : Change → Bool} {history before : List Change} {change last : Change}

theorem not_latest_nil : ¬ Latest p [] before change := by
  rintro ⟨-, later, hsplit, -⟩
  simp at hsplit

/-- What comes after a change in a history that ends with `last`: nothing, or changes up to `last`. -/
theorem concat_eq_append_cons {later : List Change}
    (h : history ++ [last] = before ++ change :: later) :
    (later = [] ∧ history = before ∧ last = change) ∨
      ∃ between, later = between ++ [last] ∧ history = before ++ change :: between := by
  rcases List.eq_nil_or_concat later with rfl | ⟨between, x, rfl⟩
  · left
    simpa using h
  · right
    have hsplit : history ++ [last] = (before ++ change :: between) ++ [x] := by rw [h]; simp
    obtain ⟨hhistory, hlast⟩ := List.append_inj' hsplit rfl
    obtain rfl := List.singleton_inj.1 hlast
    exact ⟨between, List.concat_eq_append, hhistory⟩

theorem latest_concat_of_pos (h : p last = true) :
    Latest p (history ++ [last]) before change ↔ before = history ∧ change = last := by
  constructor
  · rintro ⟨-, later, hsplit, hlater⟩
    rcases concat_eq_append_cons hsplit with ⟨-, rfl, rfl⟩ | ⟨between, rfl, -⟩
    · exact ⟨rfl, rfl⟩
    · have hlast := hlater last (by simp)
      rw [h] at hlast
      cases hlast
  · rintro ⟨rfl, rfl⟩
    exact ⟨h, [], rfl, by simp⟩

theorem latest_concat_of_neg (h : p last = false) :
    Latest p (history ++ [last]) before change ↔ Latest p history before change := by
  constructor
  · rintro ⟨hchange, later, hsplit, hlater⟩
    rcases concat_eq_append_cons hsplit with ⟨-, -, rfl⟩ | ⟨between, rfl, rfl⟩
    · rw [h] at hchange
      cases hchange
    · exact ⟨hchange, between, rfl, fun x hx => hlater x (List.mem_append_left _ hx)⟩
  · rintro ⟨hchange, later, rfl, hlater⟩
    refine ⟨hchange, later ++ [last], by simp, ?_⟩
    intro x hx
    rcases List.mem_append.1 hx with hx | hx
    · exact hlater x hx
    · rw [List.mem_singleton.1 hx]
      exact h

end

/-! ## Properties along the way -/

/-- Every change has a property in the state that it is made in. -/
def Throughout (P : ClientState → Change → Prop) (s : ClientState) : List Change → Prop
  | [] => True
  | change :: later => P s change ∧ Throughout P (change.apply s) later

section

variable {P : ClientState → Change → Prop} {s t : ClientState} {changes xs ys : List Change}

theorem Throughout.append (hx : Throughout P s xs) (hy : Throughout P (s.after xs) ys) :
    Throughout P s (xs ++ ys) := by
  induction xs generalizing s with
  | nil => exact hy
  | cons x xs ih => exact ⟨hx.1, ih hx.2 hy⟩

theorem Throughout.split (h : Throughout P s (xs ++ ys)) :
    Throughout P s xs ∧ Throughout P (s.after xs) ys := by
  induction xs generalizing s with
  | nil => exact ⟨trivial, h⟩
  | cons x xs ih => exact ⟨⟨h.1, (ih h.2).1⟩, (ih h.2).2⟩

theorem throughout_of_forall (h : ∀ change ∈ changes, ∀ s, P s change) : Throughout P s changes := by
  induction changes generalizing s with
  | nil => trivial
  | cons change later ih =>
      exact ⟨h change List.mem_cons_self s, ih (fun x hx => h x (List.mem_cons_of_mem _ hx))⟩

/-- **What no allowed change breaks holds at the end of a path** if it holds at its beginning. -/
theorem Path.keeps {I : ClientState → Prop} (h : Path s changes t)
    (hstep : ∀ s (change : Change), change.Allowed s → I s → I (change.apply s)) (hs : I s) : I t := by
  induction h with
  | nil _ => exact hs
  | cons hallowed _ ih => exact ih (hstep _ _ hallowed hs)

/-- **What some changes decide and all others leave alone** holds at the end of a path exactly if the
    latest of those that decide brings it about. The induction takes the latest change off the path. -/
theorem Path.iff_latest {I : ClientState → Prop} {p : Change → Bool}
    {B : ClientState → Change → Prop} (h : Path s changes t)
    (hstep : ∀ s (change : Change), change.Allowed s →
      (I (change.apply s) ↔ if p change then B s change else I s))
    (hs : ¬I s) :
    I t ↔ ∃ before change, Latest p changes before change ∧ B (s.after before) change := by
  induction changes using List.reverseRecOn generalizing t with
  | nil =>
      have ht : t = s := h.eq_after
      simp [ht, hs, not_latest_nil]
  | append_singleton earlier change ih =>
      obtain ⟨hearlier, hlast⟩ := h.split
      cases hlast with
      | cons hallowed hend =>
          have ht : t = change.apply (s.after earlier) := hend.eq_after
          rw [ht, hstep _ change hallowed]
          cases hp : p change with
          | true => simp [latest_concat_of_pos hp, and_assoc]
          | false => simpa [latest_concat_of_neg hp] using ih hearlier

theorem Path.throughout (h : Path s changes t) (hP : ∀ s change, change.Allowed s → P s change) :
    Throughout P s changes := by
  induction h with
  | nil _ => trivial
  | cons hallowed _ ih => exact ⟨hP _ _ hallowed, ih⟩

end

end NetGauge
