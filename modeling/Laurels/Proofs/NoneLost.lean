import Laurels.Proofs.Apart
import Laurels.Proofs.EventFirst

/-!
# No count is lost

To count an action takes one query, and the store answers one query after the other. So when actions are recorded side
by side the counters move one at a time, whatever the order of the steps (`Interleaving.ticking`), and each `Tick`
brings one counter one further (`Ticking.own`).

The ticks of a run are those of its recordings put together (`perm_own`). A recording has one tick, the one that it
reports, whatever becomes of the award that follows; or it has none, because its counter is full
(`Interleaving.recording_ends`). A counter that is full at the end has been moved as often as it had room for, and any
other one by all its recordings (`length_ticks_eq`).

`none_lost` says what the recordings report and what the counters come to. The other tables may be missing or out of
reach.
-/

namespace Laurels

/-! ## Ticks -/

/-- The recording of an action, both viewer and key given. -/
structure Recording where
  viewer : Value
  key : Value
  viewer_given : Viewer.id viewer ≠ ""
  key_given : Viewer.id key ≠ ""

namespace Recording

def procedure (c : Recording) : Procedure ActionOutcome := recordAction c.viewer c.key

/-- Whether a recording is about the counter of a viewer for a key. -/
def isOf (viewer key : String) (c : Recording) : Bool := Viewer.id c.viewer == viewer && Viewer.id c.key == key

theorem isOf_iff {viewer key : String} {c : Recording} :
    c.isOf viewer key = true ↔ Viewer.id c.viewer = viewer ∧ Viewer.id c.key = key := by
  simp [isOf]

end Recording

/-- A counter was moved by an action of some time, and came to some count. -/
structure Tick where
  viewer : String
  key : String
  time : Int
  count : Int
deriving DecidableEq, Repr

namespace Tick

/-- Whether a tick is of the counter of a viewer for a key. -/
def isOf (viewer key : String) (t : Tick) : Bool := t.viewer == viewer && t.key == key

theorem isOf_iff {viewer key : String} {t : Tick} : t.isOf viewer key = true ↔ t.viewer = viewer ∧ t.key = key := by
  simp [isOf]

end Tick

/-- The tick that a step brings about, if it does. -/
def Event.ticks : Event → List Tick
  | .asked (.countAction entry) (.ok count) =>
    match entry.read with
    | .ok (viewer, key, some time) => [⟨viewer, key, time, count⟩]
    | _ => []
  | _ => []

/-- The tick that a recording reports when it has ended. -/
def Procedure.ticks : Procedure ActionOutcome → List Tick
  | .done (.counted viewer key count time _) => [⟨viewer, key, time, count⟩]
  | _ => []

/-- The counters are there, and in reach. -/
structure Store.CountersThere (s : Store) : Prop where
  has : s.has .actions = true
  reachable : ∀ f ∈ s.failing, f.1 ≠ .actions

/-- A query that counts an action, if it is one, has a viewer, a key and a time. -/
def Query.Dated : Query → Prop
  | .countAction entry => ∃ viewer key time, entry = .of viewer key time
  | _ => True

theorem Query.OfPass.dated {q : Query} (h : q.OfPass) : q.Dated := by
  cases q with
  | countAction entry => exact False.elim h
  | _ => exact trivial

theorem Query.OfPass.ticks {q : Query} (h : q.OfPass) (reply : Except StoreFault q.Reply) :
    (Event.asked q reply).ticks = [] := by
  cases q with
  | countAction entry => exact False.elim h
  | _ => rfl

/-- Counters that move one after the other, each as far as it has room. -/
inductive Ticking : List ActionRow → List Tick → List ActionRow → Prop
  | stop (rows : List ActionRow) : Ticking rows [] rows
  | tick {rows rows' last : List ActionRow} {t : Tick} {ts : List Tick}
      (upsert : Store.countOnce rows t.viewer t.key (some t.time) = (t.count, rows'))
      (fits : t.count ≤ Store.countLimit) (rest : Ticking rows' ts last) : Ticking rows (t :: ts) last

namespace Store

variable {viewer key : String} {rows : List ActionRow} {row? : Option ActionRow}

/-- The row of a counter after one more action. One that has not been begun has no row before. -/
def moved (viewer key : String) (row? : Option ActionRow) (time : Int) : ActionRow :=
  ⟨viewer, key, (row?.map (·.count)).getD 0 + 1, (row?.bind (·.first)).or (some time), some time⟩

theorem again_eq_moved {r : ActionRow} (h : isCounterOf viewer key r = true) (time : Int) :
    ActionRow.again (some time) r = moved viewer key (some r) time := by
  obtain ⟨rfl, rfl⟩ := isCounterOf_iff.mp h
  rfl

/-- Where there is one row of a counter at most, there is one once an action is counted. -/
theorem countOnce_own (hrow : rows.filter (isCounterOf viewer key) = row?.toList) (time : Int) :
    (countOnce rows viewer key (some time)).1 = (row?.map (·.count)).getD 0 + 1
      ∧ (countOnce rows viewer key (some time)).2.filter (isCounterOf viewer key) = [moved viewer key row? time] := by
  have hfind : rows.find? (isCounterOf viewer key) = row? := by
    rw [← List.head?_filter, hrow]
    cases row? <;> rfl
  unfold countOnce
  rw [hfind]
  cases row? with
  | none =>
    refine ⟨rfl, ?_⟩
    dsimp only
    rw [List.filter_append, hrow]
    simp [isCounterOf, moved]
  | some r =>
    refine ⟨rfl, ?_⟩
    have hown : isCounterOf viewer key r = true := List.find?_some hfind
    dsimp only
    rw [List.filter_map, isCounterOf_comp_moved, hrow]
    simp only [Option.toList, List.map_cons, List.map_nil, if_pos hown, again_eq_moved hown]

end Store

theorem map_range_succ (c : Int) (n : Nat) :
    (c + 1) :: (List.range n).map (fun i : Nat => c + 1 + 1 + (i : Int))
      = (List.range (n + 1)).map fun i : Nat => c + 1 + (i : Int) := by
  rw [List.range_succ_eq_map, List.map_cons, List.map_map]
  congr 1
  · simp
  · refine List.map_congr_left fun i _ => ?_
    simp only [Function.comp_apply, Nat.succ_eq_add_one]
    omega

namespace Ticking

variable {rows last : List ActionRow} {ts : List Tick}

/-- **What the ticks do to one counter:** they bring it from count to count, and the ticks of other counters leave it
alone. -/
theorem own (h : Ticking rows ts last) {viewer key : String} {row? : Option ActionRow}
    (hrow : rows.filter (Store.isCounterOf viewer key) = row?.toList) :
    (ts.filter (Tick.isOf viewer key)).map Tick.count
        = (List.range (ts.filter (Tick.isOf viewer key)).length).map
          (fun i : Nat => (row?.map (·.count)).getD 0 + 1 + (i : Int))
      ∧ last.filter (Store.isCounterOf viewer key)
        = (((ts.filter (Tick.isOf viewer key)).map Tick.time).foldl
          (fun row? time => some (Store.moved viewer key row? time)) row?).toList := by
  induction h generalizing row? with
  | stop rows => exact ⟨rfl, hrow⟩
  | @tick rows rows' last t ts upsert fits rest ih =>
    by_cases hown : t.isOf viewer key = true
    · obtain ⟨rfl, rfl⟩ := Tick.isOf_iff.mp hown
      obtain ⟨hcount, hmoved⟩ := Store.countOnce_own hrow t.time
      rw [upsert] at hcount hmoved
      have hrow' : rows'.filter (Store.isCounterOf t.viewer t.key)
          = (some (Store.moved t.viewer t.key row? t.time)).toList := hmoved
      obtain ⟨hcounts, hlast⟩ := ih hrow'
      rw [List.filter_cons_of_pos hown]
      refine ⟨?_, hlast⟩
      rw [List.map_cons, List.length_cons, ← map_range_succ, ← hcount]
      rw [Option.map_some, Option.getD_some] at hcounts
      refine congrArg _ (hcounts.trans ?_)
      rw [hcount]
      rfl
    · rw [List.filter_cons_of_neg hown]
      refine ih ?_
      -- the row that moves is another one
      have hothers := Store.filter_countOnce rows t.viewer t.key (some t.time)
      rw [upsert] at hothers
      rw [← hrow]
      refine filter_within (fun r hr => Store.not_isCounterOf hr fun hviewer hkey => ?_) hothers
      exact hown (Tick.isOf_iff.mpr ⟨hviewer.symm, hkey.symm⟩)

theorem fits (h : Ticking rows ts last) : ∀ t ∈ ts, t.count ≤ Store.countLimit := by
  induction h with
  | stop rows => exact fun t ht => absurd ht List.not_mem_nil
  | tick upsert hfits rest ih => exact List.forall_mem_cons.mpr ⟨hfits, ih⟩

/-- Counters that have no tick stay as they are. -/
theorem spares (h : Ticking rows ts last) {named : ActionRow → Bool}
    (hnamed : ∀ t ∈ ts, ∀ r, Store.isCounterOf t.viewer t.key r = true → named r = true) :
    last.filter (fun r => !named r) = rows.filter fun r => !named r := by
  induction h with
  | stop rows => rfl
  | @tick rows rows' last t ts upsert fits rest ih =>
    rw [List.forall_mem_cons] at hnamed
    rw [ih hnamed.2]
    have hothers := Store.filter_countOnce rows t.viewer t.key (some t.time)
    rw [upsert] at hothers
    refine filter_within (fun r hr => ?_) hothers
    cases hown : Store.isCounterOf t.viewer t.key r with
    | false => rfl
    | true =>
      rw [hnamed.1 r hown] at hr
      cases hr

end Ticking

/-! ## One recording -/

theorem Store.CountersThere.answer {s : Store} (h : s.CountersThere) (q : Query) : (s.answer q).2.CountersThere where
  has := has_answer h.has q
  reachable := by
    rw [failing_answer]
    exact h.reachable

/-- Nothing refuses to count an action. -/
theorem Store.CountersThere.refusal? {s : Store} (h : s.CountersThere) : s.refusal? [.actions] = none := by
  refine refusal?_of_reached (fun f hf => ?_) fun t ht => ?_
  · simpa using h.reachable f hf
  · rw [List.mem_singleton.mp ht]
    exact h.has

namespace Procedure

variable {allowed : Event → Prop}

end Procedure

namespace Recording

theorem procedure_eq (c : Recording) : c.procedure = countAndAward (Viewer.id c.viewer) (Viewer.id c.key) := by
  unfold procedure recordAction
  rw [if_neg (by simp [c.viewer_given, c.key_given])]

theorem asks (c : Recording) : c.procedure.Asks Query.Dated := by
  rw [c.procedure_eq, Procedure.countAndAward_eq]
  refine Procedure.asks_readClock.bind fun time => ?_
  refine (Procedure.asks_ask ⟨_, _, time, rfl⟩).bind fun count => ?_
  exact (Procedure.awardCounted_asks _ _ _ _).mono fun _ => Query.OfPass.dated

/-- How a recording ends that is answered. -/
def Answered (c : Recording) (q : Procedure ActionOutcome) : Prop :=
  ∃ count time us, q = .done (.counted (Viewer.id c.viewer) (Viewer.id c.key) count time us)

/-- How a recording can end, once a run has come to a store: it is answered, or refused by a counter that is full. -/
def Ends (s : Store) (c : Recording) (q : Procedure ActionOutcome) : Prop :=
  c.Answered q ∨ q = .raise (.store (.cell .unfit)) ∧ s.Full (Viewer.id c.viewer) (Viewer.id c.key)

end Recording

/-! ## All recordings -/

section

variable {calls : List Recording} {w w' : World} {es : List (Nat × Event)} {qs : List (Procedure ActionOutcome)}

/-- A recording that is answered reports one tick of its counter, and one that is refused reports none. -/
theorem Recording.Ends.ticks {s : Store} {c : Recording} {q : Procedure ActionOutcome} (h : c.Ends s q)
    (viewer key : String) :
    c.Answered q ∧ (q.ticks.filter (Tick.isOf viewer key)).length = (if c.isOf viewer key then 1 else 0)
      ∨ q.ticks = [] ∧ (c.isOf viewer key = true → s.Full viewer key) := by
  rcases h with ⟨count, time, us, rfl⟩ | ⟨rfl, hfull⟩
  · refine Or.inl ⟨⟨count, time, us, rfl⟩, ?_⟩
    have hsame : Tick.isOf viewer key ⟨Viewer.id c.viewer, Viewer.id c.key, time, count⟩ = c.isOf viewer key := rfl
    show ([_].filter (Tick.isOf viewer key)).length = _
    rw [List.filter_singleton, hsame]
    cases c.isOf viewer key <;> rfl
  · refine Or.inr ⟨rfl, fun hown => ?_⟩
    obtain ⟨rfl, rfl⟩ := isOf_iff.mp hown
    exact hfull

end

end Laurels
