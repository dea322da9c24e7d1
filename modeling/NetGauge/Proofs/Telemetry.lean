import Mathlib.Data.List.DropRight
import Mathlib.Data.List.SplitBy
import NetGauge.Recent
import NetGauge.Telemetry

set_option autoImplicit false

/-! # The chart buffer is a window on a log

A buffer that never forgot anything would keep a log of all readings since the last reset, cut into
ticks: the longest stretches of readings with one label. What the buffer holds is the end of that log,
as many ticks as it has room for, with the last value of each series in each of them
(`applyAll_window`). A tick that goes takes its slot in every series with it, and a label that comes
back later opens a tick of its own.

The proof keeps one relation between a buffer and a cut log (`Telemetry.Shows`). A reading either
lengthens the last stretch or begins a new one (`splitBy_concat`); in both cases the buffer first has
a last tick with the label of the reading, and then fills a slot of it (`Shows.fill`).

How long a buffer keeps the last value of a series is told by the ticks that are opened behind it. While
nothing else is recorded for the series, every such tick puts one empty slot behind the value
(`Telemetry.Holds`), and the value goes when there are as many as the buffer has room for
(`latest_applyAll`). -/

namespace NetGauge

/-! ## Cutting a list where it grows -/

section

variable {α : Type} {r : α → α → Bool}

/-- A list ends as its last stretch does. -/
theorem getLast?_of_splitBy {items last : List α} {earlier : List (List α)}
    (h : items.splitBy r = earlier ++ [last]) : last ≠ [] ∧ items.getLast? = last.getLast? := by
  obtain ⟨hitems, hnil, -, -⟩ := List.splitBy_eq_iff.1 h
  have hne : last ≠ [] := by
    rintro rfl
    exact hnil (List.mem_append_right _ List.mem_cons_self)
  refine ⟨hne, ?_⟩
  rw [hitems, List.flatten_append, List.flatten_singleton, List.getLast?_append_of_ne_nil _ hne]

/-- A related item goes into the last stretch. -/
theorem splitBy_concat_of_related {items last : List α} {earlier : List (List α)} {x a : α}
    (h : items.splitBy r = earlier ++ [last]) (hx : last.getLast? = some x) (hr : r x a = true) :
    (items ++ [a]).splitBy r = earlier ++ [last ++ [a]] := by
  obtain ⟨hitems, hnil, hwithin, hbetween⟩ := List.splitBy_eq_iff.1 h
  obtain ⟨hne, -⟩ := getLast?_of_splitBy h
  refine List.splitBy_eq_iff.2 ⟨?_, ?_, ?_, ?_⟩
  · rw [hitems]
    simp
  · simpa using fun hmem => hnil (List.mem_append_left _ hmem)
  · intro stretch hmem
    rcases List.mem_append.1 hmem with hearlier | hlast
    · exact hwithin stretch (List.mem_append_left _ hearlier)
    · obtain rfl := List.mem_singleton.1 hlast
      refine List.isChain_append.2 ⟨hwithin last (by simp), List.isChain_singleton a, ?_⟩
      intro y hy z hz
      obtain rfl : x = y := Option.some.inj (hx.symm.trans hy)
      obtain rfl : a = z := by simpa using hz
      exact hr
  · -- The last stretch begins as before, so it stays apart from the one before it.
    obtain ⟨hearlier, -, hcut⟩ := List.isChain_append.1 hbetween
    refine List.isChain_append.2 ⟨hearlier, List.isChain_singleton _, ?_⟩
    intro before hbefore after hafter
    obtain rfl : last ++ [a] = after := by simpa using hafter
    obtain ⟨hbeforeNe, hlastNe, hapart⟩ := hcut before hbefore last (by simp)
    exact ⟨hbeforeNe, by simp, by rwa [List.head_append_of_ne_nil hlastNe]⟩

/-- What a further item does to the stretches of a list: it goes into the last one, or it is not
    related to what the list ends with and begins a new one. -/
theorem splitBy_concat (r : α → α → Bool) (items : List α) (a : α) :
    (∃ earlier last x, items.splitBy r = earlier ++ [last] ∧ last.getLast? = some x ∧
      r x a = true ∧ (items ++ [a]).splitBy r = earlier ++ [last ++ [a]]) ∨
    (∀ x, items.getLast? = some x → r x a = false) ∧
      (items ++ [a]).splitBy r = items.splitBy r ++ [[a]] := by
  by_cases h : ∀ x, items.getLast? = some x → r x a = false
  · exact .inr ⟨h, List.splitBy_append_cons [] h⟩
  · left
    push Not at h
    obtain ⟨x, hx, hr⟩ := h
    have hne : items.splitBy r ≠ [] := by
      rw [List.splitBy_ne_nil]
      rintro rfl
      cases hx
    obtain ⟨earlier, last, hsplit⟩ := (List.eq_nil_or_concat' _).resolve_left hne
    have hlast := (getLast?_of_splitBy hsplit).2.symm.trans hx
    have hrel : r x a = true := by simpa using hr
    exact ⟨earlier, last, x, hsplit, hlast, hrel, splitBy_concat_of_related hsplit hlast hrel⟩

end

namespace Telemetry

/-! ## Readings -/

/-- A value of a series, recorded in the tick of a label. -/
structure Reading where
  series : Series
  value : Float
  label : String

namespace Reading

/-- Neighbours with the same label belong to one tick. -/
def sameTick (r r' : Reading) : Bool := r.label == r'.label

/-- The value that a reading has for a series. -/
def valueFor (s : Series) (r : Reading) : Option Float := if r.series = s then some r.value else none

end Reading

/-- The last value of a series among readings. -/
def lastValue (s : Series) (readings : List Reading) : Option Float :=
  (readings.filterMap (Reading.valueFor s)).getLast?

/-- The label of a tick, by its last reading; all its readings have the same. -/
def tickLabel (tick : List Reading) : Option String := tick.getLast?.map Reading.label

theorem lastValue_append (s : Series) (xs ys : List Reading) :
    lastValue s (xs ++ ys) = (lastValue s ys).or (lastValue s xs) := by
  simp only [lastValue, List.filterMap_append, List.getLast?_append]

theorem lastValue_concat (s : Series) (readings : List Reading) (r : Reading) :
    lastValue s (readings ++ [r]) = if s = r.series then some r.value else lastValue s readings := by
  rw [lastValue_append]
  by_cases h : s = r.series
  · simp [lastValue, Reading.valueFor, h]
  · simp [lastValue, Reading.valueFor, h, Ne.symm h]

theorem tickLabel_concat (readings : List Reading) (r : Reading) :
    tickLabel (readings ++ [r]) = some r.label := by
  simp [tickLabel]

/-- The last of the values that the ticks have for a series is the last value over all of them. -/
theorem findSome?_lastValue (s : Series) (ticks : List (List Reading)) :
    (ticks.map (lastValue s)).reverse.findSome? id = lastValue s ticks.flatten := by
  induction ticks using List.reverseRecOn with
  | nil => rfl
  | append_singleton earlier last ih =>
      rw [List.map_append, List.map_singleton, List.reverse_concat, List.findSome?_cons, ih,
        List.flatten_append, List.flatten_singleton, lastValue_append]
      cases lastValue s last <;> rfl

/-! ## What a buffer shows -/

variable {b : Telemetry} {ticks : List (List Reading)}

/-- A buffer shows the end of a log that is cut into ticks. -/
structure Shows (b : Telemetry) (ticks : List (List Reading)) : Prop where
  roomy : 0 < b.capacity
  labels : b.labels.map some = lastItems b.capacity (ticks.map tickLabel)
  values : ∀ s, b.values s = lastItems b.capacity (ticks.map (lastValue s))

namespace Shows

theorem length_labels (h : b.Shows ticks) : b.labels.length = min b.capacity ticks.length := by
  have hlength := congrArg List.length h.labels
  simp only [lastItems, List.length_map, List.length_drop] at hlength
  omega

theorem length_values (h : b.Shows ticks) (s : Series) :
    (b.values s).length = b.labels.length := by
  rw [h.length_labels, h.values]
  simp only [lastItems, List.length_map, List.length_drop]
  omega

/-- A tick that is opened adds an empty slot to every series. A series is as long as the labels, so it
    loses a slot exactly when they lose a label. -/
theorem values_openTick_evict (h : b.Shows ticks) (label : String) (s : Series) :
    (b.openTick label).evict.values s = lastItems b.capacity (b.values s ++ [none]) := by
  have hroom : b.labels.length ≤ b.capacity := by rw [h.length_labels]; omega
  have hlength := h.length_values s
  have hcapacity : (b.openTick label).capacity = b.capacity := rfl
  have hopened : (b.openTick label).labels = b.labels ++ [label] := rfl
  rw [values_evict, hcapacity, hopened, values_openTick, List.length_append, List.length_singleton,
    ← hlength, drop_concat_eq_lastItems none (hlength ▸ hroom)]

/-- A tick that is opened comes behind the others, with a label and no values. -/
theorem openTick (h : b.Shows ticks) (label : String) :
    (b.openTick label).evict.labels.map some =
        lastItems b.capacity (ticks.map tickLabel ++ [some label]) ∧
      ∀ s, (b.openTick label).evict.values s =
        lastItems b.capacity (ticks.map (lastValue s) ++ [none]) := by
  have hroom : b.labels.length ≤ b.capacity := by rw [h.length_labels]; omega
  have hcapacity : (b.openTick label).capacity = b.capacity := rfl
  have hopened : (b.openTick label).labels = b.labels ++ [label] := rfl
  constructor
  · rw [labels_evict, hcapacity, hopened, List.length_append, List.length_singleton,
      drop_concat_eq_lastItems label hroom, lastItems_map, List.map_append, List.map_singleton, h.labels,
      lastItems_append_lastItems]
  · intro s
    rw [h.values_openTick_evict, h.values, lastItems_append_lastItems]

/-- A reading fills its slot of the last tick. -/
theorem fill {earlier : List (List Reading)} (last : List Reading) {r : Reading}
    (hroomy : 0 < b.capacity)
    (hlabels : b.labels.map some = lastItems b.capacity (earlier.map tickLabel ++ [some r.label]))
    (hvalues : ∀ s,
      b.values s = lastItems b.capacity (earlier.map (lastValue s) ++ [lastValue s last])) :
    (b.fill r.series r.value).Shows (earlier ++ [last ++ [r]]) where
  roomy := hroomy
  labels := by
    rw [List.map_append, List.map_singleton, tickLabel_concat]
    exact hlabels
  values s := by
    have hcapacity : (b.fill r.series r.value).capacity = b.capacity := rfl
    rw [values_fill, List.map_append, List.map_singleton, lastValue_concat, hcapacity,
      lastItems_concat hroomy]
    split
    · next hseries =>
        rw [← hseries, hvalues, lastItems_concat hroomy]
        simp
    · rw [hvalues, lastItems_concat hroomy]

/-- The last label is that of the last reading. -/
theorem getLast?_labels {readings : List Reading}
    (h : b.Shows (readings.splitBy Reading.sameTick)) :
    b.labels.getLast? = readings.getLast?.map Reading.label := by
  have hlast := congrArg List.getLast? h.labels
  rw [List.getLast?_map] at hlast
  rcases List.eq_nil_or_concat' (readings.splitBy Reading.sameTick) with hnil | hconcat
  · rw [hnil, List.map_nil, lastItems_nil] at hlast
    rw [List.splitBy_eq_nil.1 hnil]
    exact Option.map_eq_none_iff.1 hlast
  · obtain ⟨earlier, last, hsplit⟩ := hconcat
    rw [hsplit, List.map_append, List.map_singleton, lastItems_concat h.roomy,
      List.getLast?_concat] at hlast
    obtain ⟨label, hlabel, hsome⟩ := Option.map_eq_some_iff.1 hlast
    rw [(getLast?_of_splitBy hsplit).2, hlabel]
    exact hsome

/-- **A reading that a buffer takes comes at the end of the log that it shows.** -/
theorem put {readings : List Reading} (h : b.Shows (readings.splitBy Reading.sameTick))
    (r : Reading) :
    (b.put r.series r.value r.label).Shows ((readings ++ [r]).splitBy Reading.sameTick) := by
  have hends := h.getLast?_labels
  unfold Telemetry.put
  rcases splitBy_concat Reading.sameTick readings r with hsame | ⟨hother, hgrown⟩
  · obtain ⟨earlier, last, x, hsplit, hx, hrel, hgrown⟩ := hsame
    have hlabel : x.label = r.label := by simpa [Reading.sameTick] using hrel
    have hopen : b.labels.getLast? = some r.label := by
      rw [hends, (getLast?_of_splitBy hsplit).2, hx, Option.map_some, hlabel]
    have htick : tickLabel last = some r.label := by
      rw [tickLabel, hx, Option.map_some, hlabel]
    rw [hgrown, if_pos hopen]
    refine fill last h.roomy ?_ ?_
    · rw [h.labels, hsplit, List.map_append, List.map_singleton, htick]
    · intro s
      rw [h.values, hsplit, List.map_append, List.map_singleton]
  · have hclosed : b.labels.getLast? ≠ some r.label := by
      intro heq
      obtain ⟨x, hx, hlabel⟩ := Option.map_eq_some_iff.1 (hends.symm.trans heq)
      have hrel := hother x hx
      simp [Reading.sameTick, hlabel] at hrel
    obtain ⟨hlabels, hvalues⟩ := h.openTick r.label
    have hcapacity : (b.openTick r.label).evict.capacity = b.capacity := capacity_evict _
    rw [hgrown, if_neg hclosed]
    -- The tick is open and empty: it shows the beginning of a stretch without readings.
    refine fill [] (hcapacity ▸ h.roomy) ?_ ?_
    · rw [hcapacity, hlabels]
    · intro s
      rw [hcapacity, hvalues]
      rfl

end Shows

/-! ## Whole uses of a buffer -/

/-- What is done to a buffer. -/
inductive Edit where
  | put (r : Reading)
  | reset

/-- The reading that an edit records, unless it is a reset. -/
def Edit.reading? : Edit → Option Reading
  | put r => some r
  | reset => none

/-- Makes an edit. -/
def apply (b : Telemetry) : Edit → Telemetry
  | .put r => b.put r.series r.value r.label
  | .reset => b.reset

/-- Makes edits one after the other. -/
def applyAll (b : Telemetry) (edits : List Edit) : Telemetry := edits.foldl apply b

/-- The readings since the last reset. -/
def logged (edits : List Edit) : List Reading :=
  (edits.rtakeWhile (fun e => e.reading?.isSome)).filterMap Edit.reading?

theorem logged_put (edits : List Edit) (r : Reading) :
    logged (edits ++ [.put r]) = logged edits ++ [r] := by
  simp [logged, Edit.reading?]

theorem logged_reset (edits : List Edit) : logged (edits ++ [.reset]) = [] := by
  simp [logged, Edit.reading?]

/-- A buffer without ticks shows a log without readings. -/
theorem shows_nil (hroomy : 0 < b.capacity) (hlabels : b.labels = [])
    (hvalues : ∀ s, b.values s = []) : b.Shows [] where
  roomy := hroomy
  labels := by rw [hlabels, List.map_nil, List.map_nil, lastItems_nil]
  values s := by rw [hvalues, List.map_nil, lastItems_nil]

theorem capacity_put (b : Telemetry) (r : Reading) :
    (b.put r.series r.value r.label).capacity = b.capacity := by
  have hfill : ∀ b : Telemetry, (b.fill r.series r.value).capacity = b.capacity := fun _ => rfl
  rw [put, hfill]
  split
  · rfl
  · rw [capacity_evict, openTick]

/-- **After any edits a new buffer shows the log of the readings since the last reset.** -/
theorem shows_applyAll (capacity : Nat) (edits : List Edit) :
    ((withCapacity capacity).applyAll edits).capacity = max capacity 1 ∧
      ((withCapacity capacity).applyAll edits).Shows ((logged edits).splitBy Reading.sameTick) := by
  induction edits using List.reverseRecOn with
  | nil =>
      exact ⟨rfl, shows_nil (Nat.le_max_right capacity 1) rfl (values_withCapacity capacity)⟩
  | append_singleton edits edit ih =>
      obtain ⟨hcapacity, hshows⟩ := ih
      rw [applyAll, List.foldl_concat, ← applyAll]
      cases edit with
      | put r =>
          rw [logged_put]
          exact ⟨(capacity_put _ r).trans hcapacity, hshows.put r⟩
      | reset =>
          rw [logged_reset]
          exact ⟨hcapacity, shows_nil hshows.roomy rfl (values_reset _)⟩

/-- The points of a series are its values with the numbers of their slots, in order. -/
theorem mem_points (b : Telemetry) (s : Series) (i : Nat) (x : Float) :
    (i, x) ∈ b.points s ↔ (b.values s)[i]? = some (some x) := by
  simp only [points, List.mem_filterMap, Prod.exists, List.mem_zipIdx_iff_getElem?,
    Option.map_eq_some_iff, Prod.mk.injEq]
  constructor
  · rintro ⟨slot, _, hslot, _, rfl, rfl, rfl⟩
    exact hslot
  · intro hslot
    exact ⟨some x, i, hslot, x, rfl, rfl, rfl⟩

theorem pairwise_points (b : Telemetry) (s : Series) :
    (b.points s).Pairwise (fun p q => p.1 < q.1) := by
  have hnumbers : (b.values s).zipIdx.Pairwise (fun p q => p.2 < q.2) := by
    rw [← List.pairwise_map (f := Prod.snd), List.zipIdx_map_snd]
    exact List.pairwise_lt_range'
  refine hnumbers.filterMap _ ?_
  rintro ⟨slot, i⟩ ⟨slot', i'⟩ hlt p hp q hq
  obtain ⟨x, -, rfl⟩ := Option.map_eq_some_iff.1 hp
  obtain ⟨y, -, rfl⟩ := Option.map_eq_some_iff.1 hq
  exact hlt

/-- **The chart buffer is a window on a log.** Whatever was done to a new buffer, what it holds is
    the end of the log of the readings since the last reset, cut into the longest stretches of one
    label: their labels, and for each series the last value in each of them, if it has one. There are
    at most as many as the buffer has room for, and every series has a slot for each of them. The most
    recent value of a series is the last one in the window, its points are its values with the numbers
    of their ticks, in order, and the chart shows the same labels and slots. -/
theorem applyAll_window (capacity : Nat) (edits : List Edit) :
    let b := (withCapacity capacity).applyAll edits
    let window := lastItems (max capacity 1) ((logged edits).splitBy Reading.sameTick)
    b.labels.map some = window.map tickLabel ∧
    (∀ s, b.values s = window.map (lastValue s)) ∧
    b.labels.length ≤ max capacity 1 ∧ (∀ s, (b.values s).length = b.labels.length) ∧
    (∀ s, b.latest s = lastValue s window.flatten) ∧
    (∀ s, (∀ i x, (i, x) ∈ b.points s ↔ (b.values s)[i]? = some (some x)) ∧
      (b.points s).Pairwise (fun p q => p.1 < q.1)) ∧
    b.chart = ⟨b.labels, window.map (lastValue .bandwidth), window.map (lastValue .latencyAvg),
      window.map (lastValue .latencyP99)⟩ := by
  intro b window
  obtain ⟨hcapacity, hshows⟩ := shows_applyAll capacity edits
  have hvalues : ∀ s, b.values s = window.map (lastValue s) := by
    intro s
    rw [hshows.values, hcapacity, lastItems_map]
  refine ⟨?_, hvalues, ?_, hshows.length_values, ?_, ?_, ?_⟩
  · rw [hshows.labels, hcapacity, lastItems_map]
  · rw [hshows.length_labels, hcapacity]
    omega
  · intro s
    rw [latest, hvalues, findSome?_lastValue]
  · exact fun s => ⟨b.mem_points s, b.pairwise_points s⟩
  · rw [chart, hvalues, hvalues, hvalues]

/-! ## How long a value is held -/

/-- How many ticks an edit opens. -/
def opened (b : Telemetry) : Edit → Nat
  | .put r => if b.labels.getLast? = some r.label then 0 else 1
  | .reset => 0

/-- How many ticks edits open, one after the other. -/
def ticksOpened (b : Telemetry) : List Edit → Nat
  | [] => 0
  | edit :: later => b.opened edit + (b.apply edit).ticksOpened later

/-- An edit opens one tick at most. -/
theorem ticksOpened_le_length (b : Telemetry) (edits : List Edit) :
    b.ticksOpened edits ≤ edits.length := by
  induction edits generalizing b with
  | nil => exact Nat.le_refl 0
  | cons edit later ih =>
      have hfirst : b.opened edit ≤ 1 := by
        cases edit with
        | put r => simp only [opened]; split <;> omega
        | reset => exact Nat.zero_le 1
      have hlater := ih (b.apply edit)
      rw [ticksOpened, List.length_cons]
      omega

theorem applyAll_append (b : Telemetry) (edits later : List Edit) :
    b.applyAll (edits ++ later) = (b.applyAll edits).applyAll later := List.foldl_append

/-- A value stands before so many empty slots of its series, as far as the buffer reaches back. -/
def Holds (b : Telemetry) (s : Series) (x : Float) (n : Nat) : Prop :=
  ∃ earlier, b.values s = lastItems b.capacity (earlier ++ some x :: List.replicate n none)

/-- Edits that record nothing for a series and forget nothing. -/
def Spares (s : Series) (edits : List Edit) : Prop :=
  ∀ edit ∈ edits, ∃ r : Reading, edit = .put r ∧ r.series ≠ s

/-- A value that stands before `k` empty slots is the last one within more than `k` slots. -/
theorem findSome?_take_replicate (x : Float) (earlier : List (Option Float)) (k n : Nat) :
    ((List.replicate k none ++ some x :: earlier).take n).findSome? id =
      if k < n then some x else none := by
  induction k generalizing n with
  | zero => cases n <;> simp
  | succ k ih =>
      cases n with
      | zero => simp
      | succ n => simpa [List.replicate_succ] using ih n

section

variable {b : Telemetry} {s : Series} {x : Float} {n : Nat}

/-- A value is the most recent one of its series as long as the empty slots behind it leave room. -/
theorem Holds.latest (h : b.Holds s x n) :
    b.latest s = if n < b.capacity then some x else none := by
  obtain ⟨earlier, hvalues⟩ := h
  rw [Telemetry.latest, hvalues, reverse_lastItems, List.reverse_append, List.reverse_cons,
    List.reverse_replicate, List.append_assoc, List.singleton_append, findSome?_take_replicate]

/-- The last reading of a log is held. -/
theorem Shows.holds {readings : List Reading} {r : Reading}
    (h : b.Shows ((readings ++ [r]).splitBy Reading.sameTick)) : b.Holds r.series r.value 0 := by
  obtain ⟨earlier, last, hsplit⟩ : ∃ earlier last,
      (readings ++ [r]).splitBy Reading.sameTick = earlier ++ [last ++ [r]] := by
    rcases splitBy_concat Reading.sameTick readings r with
      ⟨earlier, last, _, -, -, -, hgrown⟩ | ⟨-, hgrown⟩
    · exact ⟨earlier, last, hgrown⟩
    · exact ⟨_, [], hgrown⟩
  refine ⟨earlier.map (lastValue r.series), ?_⟩
  rw [h.values, hsplit, List.map_append, List.map_singleton, lastValue_concat, if_pos rfl]
  rfl

/-- A reading of another series leaves a value where it is, or puts one more slot behind it. -/
theorem Holds.put {ticks : List (List Reading)} (hshows : b.Shows ticks) (h : b.Holds s x n)
    {r : Reading} (hother : r.series ≠ s) :
    (b.apply (.put r)).Holds s x (n + b.opened (.put r)) := by
  obtain ⟨earlier, hvalues⟩ := h
  have hcapacity : (b.apply (.put r)).capacity = b.capacity := b.capacity_put r
  refine ⟨earlier, ?_⟩
  rw [hcapacity]
  simp only [apply, Telemetry.put, opened, values_fill, if_neg (Ne.symm hother)]
  split
  · exact hvalues
  · rw [hshows.values_openTick_evict, hvalues, lastItems_append_lastItems, List.append_assoc,
      List.cons_append, ← List.replicate_succ']

/-- A value is held while its series is spared, and every tick that is opened puts a slot behind it. -/
theorem Holds.applyAll {readings : List Reading} {later : List Edit}
    (hshows : b.Shows (readings.splitBy Reading.sameTick)) (h : b.Holds s x n)
    (hlater : Spares s later) : (b.applyAll later).Holds s x (n + b.ticksOpened later) := by
  induction later generalizing b n readings with
  | nil => exact h
  | cons edit later ih =>
      obtain ⟨⟨r, rfl, hother⟩, hrest⟩ := List.forall_mem_cons.1 hlater
      rw [ticksOpened, ← Nat.add_assoc]
      exact ih (hshows.put r) (h.put hshows hother) hrest

end

/-- **The last value of a series stays the most recent one of a new buffer** until as many ticks have been
    opened behind it as the buffer has room for; then the series has no value left. -/
theorem latest_applyAll (capacity : Nat) (before later : List Edit) (s : Series) (x : Float)
    (label : String) (hlater : Spares s later) :
    ((withCapacity capacity).applyAll (before ++ .put ⟨s, x, label⟩ :: later)).latest s =
      if ((withCapacity capacity).applyAll (before ++ [.put ⟨s, x, label⟩])).ticksOpened later <
        max capacity 1 then some x else none := by
  obtain ⟨-, hshows⟩ := shows_applyAll capacity (before ++ [.put ⟨s, x, label⟩])
  rw [logged_put] at hshows
  have hholds := hshows.holds.applyAll hshows hlater
  rw [← applyAll_append, List.append_assoc, List.singleton_append] at hholds
  rw [hholds.latest, (shows_applyAll capacity _).1, Nat.zero_add]

/-- A series has no most recent value exactly if all its slots are empty. -/
theorem latest_eq_none_iff (b : Telemetry) (s : Series) :
    b.latest s = none ↔ ∀ slot ∈ b.values s, slot = none := by
  simp [latest]

/-- The last value in the log was recorded by some edit, after which its series was spared. -/
theorem exists_put_of_lastValue {edits : List Edit} {s : Series} {x : Float}
    (h : lastValue s (logged edits) = some x) :
    ∃ before label later, edits = before ++ .put ⟨s, x, label⟩ :: later ∧ Spares s later := by
  induction edits using List.reverseRecOn with
  | nil => cases h
  | append_singleton edits edit ih =>
      cases edit with
      | reset =>
          rw [logged_reset] at h
          cases h
      | put r =>
          rw [logged_put, lastValue_concat] at h
          split at h
          · next hseries =>
              cases h
              exact ⟨edits, r.label, [], by rw [hseries], nofun⟩
          · next hother =>
              obtain ⟨before, label, later, rfl, hlater⟩ := ih h
              refine ⟨before, label, later ++ [.put r], by simp, ?_⟩
              rintro edit hmem
              rcases List.mem_append.1 hmem with hmem | hmem
              · exact hlater edit hmem
              · exact ⟨r, List.mem_singleton.1 hmem, Ne.symm hother⟩

/-- Readings come at the end of the log, in their order. -/
theorem logged_puts (edits : List Edit) (readings : List Reading) :
    logged (edits ++ readings.map .put) = logged edits ++ readings := by
  induction readings using List.reverseRecOn with
  | nil => simp
  | append_singleton readings r ih =>
      rw [List.map_append, List.map_singleton, ← List.append_assoc, logged_put, ih, List.append_assoc]

end Telemetry

end NetGauge
