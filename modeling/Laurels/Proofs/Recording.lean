import Laurels.Proofs.ActionRun
import Laurels.Proofs.Criteria.ActionRule
import Laurels.Proofs.Isolation

/-!
# Recorded actions count

A viewer records an action again and again. `Recorded` says what the tables are when some of them have been counted;
each recording brings the tables from one number to the next (`Recorded.step`) until the counter is full, and from then
on they are refused. An achievement that asks for the action is held as soon as the counter that its rule reads has got
far enough (`World.recorded_run`).

Which counter that is depends on the letters of the key. A recording keeps the key as it is, and a rule reads it in
lower case. So recordings count for the rule that names their key unless there is a capital letter in it; then the
rule reads a counter that they do not move. `recordings_count` is the main statement, and `capitals_uncounted` an
example of a recording that does not count.
-/

namespace Laurels

open Criteria (ActionKey actionRule lowered)

/-- The world after a viewer has recorded an action a number of times. -/
def World.recorded (w : World) (viewer : Value) (key : String) : Nat → World
  | 0 => w
  | i + 1 => ((recordAction viewer (.text key)).run (w.recorded viewer key i)).2

theorem World.recorded_succ (w : World) (viewer : Value) (key : String) (i : Nat) :
    w.recorded viewer key (i + 1) = ((recordAction viewer (.text key)).run (w.recorded viewer key i)).2 := rfl

/-! ## What an award brings of one achievement -/

namespace Awarded

variable {viewer source sourceRef : String} {w w' : World} {us : List Unlock} {a : Achievement}

theorem reports_iff (h : Awarded [viewer] source sourceRef w us w') (hcatalogue : w.store.Identified)
    (ha : a ∈ Store.active w.store.catalogueRows) :
    (∃ u ∈ us, u.achievement = a.id) ↔ w.store.Deserves viewer a ∧ ¬ w.store.Holds viewer a.id := by
  constructor
  · rintro ⟨u, hu, hid⟩
    obtain ⟨v, hv, hdeserves, hnew, _⟩ :=
      (h.mem_filter_iff hcatalogue ha).mp (List.mem_filter.mpr ⟨hu, beq_iff_eq.mpr hid⟩)
    rw [List.mem_singleton.mp hv] at hdeserves hnew
    exact ⟨hdeserves, hnew⟩
  · rintro ⟨hdeserves, hnew⟩
    exact ⟨_, (h.mem_iff _).mpr ⟨viewer, List.mem_singleton_self viewer, a, hdeserves, hnew, rfl⟩, rfl⟩

/-- The viewer holds what was held or deserved before. -/
theorem holds_after_iff (h : Awarded [viewer] source sourceRef w us w') (hcatalogue : w.store.Identified)
    (ha : a ∈ Store.active w.store.catalogueRows) :
    w'.store.Holds viewer a.id ↔ w.store.Holds viewer a.id ∨ w.store.Deserves viewer a := by
  unfold Store.Holds
  rw [h.ledger_eq]
  constructor
  · rintro ⟨row, hrow, hv, hid⟩
    rcases List.mem_append.mp hrow with hold | hadded
    · exact Or.inl ⟨row, hold, hv, hid⟩
    · obtain ⟨u, hu, rfl⟩ := List.mem_map.mp hadded
      exact Or.inr ((h.reports_iff hcatalogue ha).mp ⟨u, hu, hid⟩).1
  · intro hor
    by_cases hheld : w.store.Holds viewer a.id
    · obtain ⟨row, hrow, hmatch⟩ := hheld
      exact ⟨row, List.mem_append_left _ hrow, hmatch⟩
    · obtain ⟨u, hu, hid⟩ := (h.reports_iff hcatalogue ha).mpr ⟨hor.resolve_left hheld, hheld⟩
      have hviewer := List.mem_singleton.mp (h.viewer_mem hu)
      exact ⟨_, List.mem_append_right _ (List.mem_map_of_mem hu), hviewer, hid⟩

end Awarded

/-! ## What a rule reads -/

theorem Operator.holds_atLeast {a b : Int} : Operator.atLeast.holds (.int a) (.int b) = true ↔ b ≤ a := by
  unfold Operator.holds
  rw [Number.compare?_int]
  simp only [Operator.admits, Bool.or_eq_true, beq_iff_eq, Option.some.injEq, Int.compare_eq_gt, Int.compare_eq_eq]
  omega

/-- What the rule that asks for an action reads. -/
theorem current_actionRule {key : String} (hkey : ActionKey key) (s : Store) (viewer : String) (times : Nat) :
    (Clause.mk ("action:" ++ lowered key) .atLeast (.int times)).current (s.snapshot viewer)
      = .int (s.counter viewer (lowered key)) := by
  unfold Clause.current
  rw [Criteria.target_actionRule hkey]
  exact read_action _ s viewer hkey.lowered.nonempty

/-- **Who deserves an achievement that asks for an action:** whoever has the counter of its key in lower case at
that many. -/
theorem deserves_actionRule {key : String} (hkey : ActionKey key) {times : Nat} (hlimit : times < 2 ^ 63)
    {a : Achievement} (hid : a.id ≠ 0) (hcriteria : a.criteria = actionRule key times) {s : Store}
    (ha : a ∈ Store.active s.catalogueRows) (viewer : String) :
    s.Deserves viewer a ↔ (times : Int) ≤ s.counter viewer (lowered key) := by
  have hparse := Criteria.parse_actionRule hkey hlimit
  rw [← hcriteria] at hparse
  have hholds : (Clause.mk ("action:" ++ lowered key) .atLeast (.int times)).holds (s.snapshot viewer) = true
      ↔ (times : Int) ≤ s.counter viewer (lowered key) := by
    unfold Clause.holds
    rw [current_actionRule hkey, Operator.holds_atLeast]
  unfold Store.Deserves
  rw [← hholds]
  constructor
  · rintro ⟨_, _, clauses, hclauses, hall⟩
    cases hparse.symm.trans hclauses
    exact hall _ List.mem_cons_self
  · intro hclause
    exact ⟨Store.mem_active.mp ha, hid, _, hparse, fun c hc => List.mem_singleton.mp hc ▸ hclause⟩

/-! ## Some recordings of one action -/

/-- How many of a number of recordings there is room for in a counter that is begun with the first of them. -/
def Store.countUpTo (i : Nat) : Nat := min i countLimit.toNat

theorem Store.countUpTo_of_lt {i : Nat} (h : (i : Int) < countLimit) :
    countUpTo i = i ∧ countUpTo (i + 1) = i + 1 := by
  unfold countUpTo
  omega

theorem Store.countUpTo_of_le {i : Nat} (h : countLimit ≤ i) :
    (countUpTo i : Int) = countLimit ∧ countUpTo (i + 1) = countUpTo i := by
  unfold countUpTo countLimit at *
  omega

theorem Store.countUpTo_lt (i : Nat) : countUpTo i < 2 ^ 63 := by
  unfold countUpTo countLimit
  omega

/-- What the tables are when some recordings of an action have been counted that had not been counted before. -/
structure Recorded (w : World) (viewer key : String) (i : Nat) (w' : World) : Prop where
  ready : w'.store.Ready
  catalogue : w'.store.catalogueRows = w.store.catalogueRows
  results : w'.store.resultRows = w.store.resultRows
  counter : w'.store.counter viewer key = i
  rows : ∀ r ∈ w'.store.counterRows, Store.isCounterOf viewer key r = true → r.count = i
  others : w'.store.counterRows.filter (fun r => !Store.isCounterOf viewer key r)
    = w.store.counterRows.filter fun r => !Store.isCounterOf viewer key r

/-- What the rule that asks for an action reads when some recordings of it have been counted. -/
def Store.readAfter (s : Store) (viewer key : String) (i : Nat) : Int :=
  if lowered key = key then i else s.counter viewer (lowered key)

theorem Store.readAfter_mono (s : Store) (viewer key : String) {i j : Nat} (h : i ≤ j) :
    s.readAfter viewer key i ≤ s.readAfter viewer key j := by
  unfold readAfter
  split
  · exact Int.ofNat_le.mpr h
  · exact Int.le_refl _

namespace Recorded

variable {w w' w'' v : World} {viewer key : String} {i : Nat}

theorem start (hready : w.store.Ready) (hnew : ∀ r ∈ w.store.counterRows, Store.isCounterOf viewer key r = false) :
    Recorded w viewer key 0 w where
  ready := hready
  catalogue := rfl
  results := rfl
  counter := by
    unfold Store.counter
    rw [List.find?_eq_none.mpr fun r hr => by simp [hnew r hr]]
    rfl
  rows := fun r hr hcounter => by rw [hnew r hr] at hcounter; cases hcounter
  others := rfl

/-- **Each recording that is counted brings the tables from one number to the next.** -/
theorem step (h : Recorded w viewer key i w') {time : Int} (hv : v.store = w'.store.counted viewer key time)
    {source sourceRef : String} {us : List Unlock} (hawarded : Awarded [viewer] source sourceRef v us w'') :
    Recorded w viewer key (i + 1) w'' := by
  have hready : v.store.Ready := by
    rw [hv]
    exact h.ready.counted viewer key time
  have hcounters : w''.store.counterRows = (w'.store.counted viewer key time).counterRows := by
    rw [hawarded.store, ← hv]
    rfl
  refine ⟨hawarded.ready hready, ?_, ?_, ?_, ?_, ?_⟩
  · rw [hawarded.store]
    exact (congrArg Store.catalogueRows hv).trans h.catalogue
  · rw [hawarded.store]
    exact (congrArg Store.resultRows hv).trans h.results
  · have hcounted := Store.counter_counted w'.store viewer key time
    rw [h.counter] at hcounted
    unfold Store.counter at hcounted ⊢
    rw [hcounters, hcounted]
    rfl
  · rw [hcounters]
    exact Store.count_counted h.counter h.rows
  · rw [hcounters, ← h.others]
    exact Store.filter_countOnce _ viewer key (some time)

theorem of_store_eq (h : Recorded w viewer key i w') (hv : v.store = w'.store) : Recorded w viewer key i v := by
  obtain ⟨ready, catalogue, results, counter, rows, others⟩ := h
  rw [← hv] at ready catalogue results counter rows others
  exact ⟨ready, catalogue, results, counter, rows, others⟩

theorem readable (h : Recorded w viewer key i w') (hread : w.store.Readable) : w'.store.Readable := by
  unfold Store.Readable
  rw [h.catalogue]
  exact hread

theorem identified (h : Recorded w viewer key i w') (hcatalogue : w.store.Identified) : w'.store.Identified := by
  unfold Store.Identified
  rw [h.catalogue]
  exact hcatalogue

theorem fits (h : Recorded w viewer key i w') (hfits : w.store.Fits) (hi : i < 2 ^ 63) : w'.store.Fits where
  results := by
    rw [h.results]
    exact hfits.results
  texts := by
    rw [h.catalogue]
    exact hfits.texts
  counters := by
    intro r hr
    by_cases hcounter : Store.isCounterOf viewer key r = true
    · rw [h.rows r hr hcounter]
      exact hi
    · have hother : r ∈ w'.store.counterRows.filter fun r => !Store.isCounterOf viewer key r :=
        List.mem_filter.mpr ⟨hr, by simp [hcounter]⟩
      rw [h.others] at hother
      exact hfits.counters r (List.mem_filter.mp hother).1

/-- The counter that the rule reads is the one that is recorded, or it has not moved. -/
theorem counter_lowered (h : Recorded w viewer key i w') :
    w'.store.counter viewer (lowered key) = w.store.readAfter viewer key i := by
  unfold Store.readAfter
  split
  · rename_i hsame
    rw [hsame]
    exact h.counter
  · rename_i hother
    exact Store.counter_congr h.others fun _ => hother

end Recorded

/-! ## Recordings, and an achievement that asks for the action -/

/-- A viewer is offered an achievement for performing an action a number of times, and has neither performed it nor
got the achievement yet. -/
structure Awaiting (s : Store) (viewer key : String) (times : Nat) (a : Achievement) : Prop where
  keyed : ActionKey key
  uncounted : ∀ r ∈ s.counterRows, Store.isCounterOf viewer key r = false
  positive : 1 ≤ times
  limit : times < 2 ^ 63
  offered : a ∈ Store.active s.catalogueRows
  id_ne : a.id ≠ 0
  criteria : a.criteria = actionRule key times
  unheld : ¬ s.Holds viewer a.id

instance (s : Store) (viewer key : String) (times : Nat) (a : Achievement) :
    Decidable (Awaiting s viewer key times a) :=
  decidable_of_iff (ActionKey key ∧ (∀ r ∈ s.counterRows, Store.isCounterOf viewer key r = false) ∧ 1 ≤ times
      ∧ times < 2 ^ 63 ∧ a ∈ Store.active s.catalogueRows ∧ a.id ≠ 0 ∧ a.criteria = actionRule key times
      ∧ ¬ ∃ r ∈ s.ledger, r.viewer = viewer ∧ r.achievement = a.id)
    ⟨fun ⟨h₁, h₂, h₃, h₄, h₅, h₆, h₇, h₈⟩ => ⟨h₁, h₂, h₃, h₄, h₅, h₆, h₇, h₈⟩,
      fun ⟨h₁, h₂, h₃, h₄, h₅, h₆, h₇, h₈⟩ => ⟨h₁, h₂, h₃, h₄, h₅, h₆, h₇, h₈⟩⟩

theorem Criteria.ActionKey.id_text {key : String} (hkey : ActionKey key) : Viewer.id (.text key) = key := by
  have hplain : ∀ c ∈ key.toList, Text.isBlank c = false := fun c hc =>
    Criteria.isBlank_of_isMetricChar (Criteria.isMetricChar_iff.mpr (hkey.chars c hc))
  unfold Viewer.id Text.trimmed
  rw [Value.asText_text, Criteria.trim_eq_self hplain, String.ofList_toList]

/-- What recordings of an action come to for an achievement: how far each of them says that the action has been
counted and whether it brings the achievement, and what reports show in between. -/
structure Recordings (w : World) (viewer : Value) (key : String) (a : Achievement) (current : Nat → Int)
    (rewards : Nat → Prop) : Prop where
  /-- As long as there is room, each recording is answered with the number of recordings so far, and reports the
  achievement if it rewards. -/
  answered : ∀ i : Nat, (i : Int) < Store.countLimit → ∃ time us,
    ((recordAction viewer (.text key)).run (w.recorded viewer key i)).1
        = .ok (.counted (Viewer.id viewer) key (i + 1) time us)
      ∧ ((∃ u ∈ us, u.achievement = a.id) ↔ rewards (i + 1))
  /-- When the counter is full, recordings fail. -/
  refused : ∀ i : Nat, Store.countLimit ≤ i →
    ((recordAction viewer (.text key)).run (w.recorded viewer key i)).1 = .error (.store (.cell .unfit))
  /-- A report in between is answered as long as counts fit into 64 bits. -/
  reported : w.store.Fits → ∀ i, ∃ r, ((report viewer).run (w.recorded viewer key i)).1 = .ok r
  /-- It has one entry for the achievement, with one requirement. -/
  shown : ∀ i r, ((report viewer).run (w.recorded viewer key i)).1 = .ok r →
    ∃ e q, r.entries.filter (·.achievement.id == a.id) = [e] ∧ e.requirements = [q]
      ∧ q.current = .int (current i)

section Recordings

variable {w : World} {viewer : Value} {key : String} {times : Nat} {a : Achievement} {i : Nat}

/-- **One more recording**, and what it brings. -/
theorem Recorded.next (hread : w.store.Readable) (hcatalogue : w.store.Identified) (hviewer : Viewer.id viewer ≠ "")
    (hawaiting : Awaiting w.store (Viewer.id viewer) key times a) (hroom : (i : Int) < Store.countLimit)
    (h : Recorded w (Viewer.id viewer) key i (w.recorded viewer key i)) :
    Recorded w (Viewer.id viewer) key (i + 1) (w.recorded viewer key (i + 1))
      ∧ ((w.recorded viewer key (i + 1)).store.Holds (Viewer.id viewer) a.id
        ↔ (w.recorded viewer key i).store.Holds (Viewer.id viewer) a.id
          ∨ (times : Int) ≤ w.store.readAfter (Viewer.id viewer) key (i + 1))
      ∧ ∃ time us, ((recordAction viewer (.text key)).run (w.recorded viewer key i)).1
          = .ok (.counted (Viewer.id viewer) key (i + 1) time us)
        ∧ ((∃ u ∈ us, u.achievement = a.id) ↔ (times : Int) ≤ w.store.readAfter (Viewer.id viewer) key (i + 1)
            ∧ ¬ (w.recorded viewer key i).store.Holds (Viewer.id viewer) a.id) := by
  have hkey := hawaiting.keyed
  have hgiven : Viewer.id (.text key) ≠ "" := by
    rw [hkey.id_text]
    exact hkey.nonempty
  have hnotFull : ¬ (w.recorded viewer key i).store.Full (Viewer.id viewer) (Viewer.id (.text key)) := by
    rw [hkey.id_text, ← Store.lt_countLimit_iff, h.counter]
    exact hroom
  obtain ⟨us, v, hv, hanswer, hawarded⟩ :=
    recordAction_run h.ready (h.readable hread) (h.identified hcatalogue) hviewer hgiven hnotFull
  rw [hkey.id_text] at hv hanswer hawarded
  rw [h.counter] at hanswer
  rw [← World.recorded_succ] at hawarded
  have hnext : Recorded w (Viewer.id viewer) key (i + 1) (w.recorded viewer key (i + 1)) := h.step hv hawarded
  have hidentified : v.store.Identified := by
    rw [hv]
    exact h.identified hcatalogue
  have hoffered : a ∈ Store.active v.store.catalogueRows := by
    rw [hv]
    exact h.catalogue ▸ hawaiting.offered
  have hheld : v.store.Holds (Viewer.id viewer) a.id
      ↔ (w.recorded viewer key i).store.Holds (Viewer.id viewer) a.id := by
    rw [hv]
    exact Iff.rfl
  -- what the award finds deserved is what the tables say after it
  have hdeserves : v.store.Deserves (Viewer.id viewer) a
      ↔ (times : Int) ≤ w.store.readAfter (Viewer.id viewer) key (i + 1) := by
    rw [← hawarded.deserves_iff, ← hnext.counter_lowered]
    exact deserves_actionRule hkey hawaiting.limit hawaiting.id_ne hawaiting.criteria
      (by rw [hnext.catalogue]; exact hawaiting.offered) _
  refine ⟨hnext, ?_, _, us, hanswer, ?_⟩
  · rw [← hheld, ← hdeserves]
    exact hawarded.holds_after_iff hidentified hoffered
  · rw [← hheld, ← hdeserves]
    exact hawarded.reports_iff hidentified hoffered

/-- One recording too many, and nothing has changed. -/
theorem Recorded.refused (hviewer : Viewer.id viewer ≠ "") (hkey : ActionKey key) {n : Nat}
    (h : Recorded w (Viewer.id viewer) key n (w.recorded viewer key i)) (hfull : Store.countLimit ≤ n) :
    (recordAction viewer (.text key)).Fails (w.recorded viewer key i) (.store (.cell .unfit)) := by
  refine recordAction_full h.ready hviewer ?_ ?_
  · rw [hkey.id_text]
    exact hkey.nonempty
  · unfold Store.Full
    rwa [hkey.id_text, h.counter]

/-- **Any number of recordings:** the achievement is held once the counter that it reads is far enough. -/
theorem World.recorded_run (hready : w.store.Ready) (hread : w.store.Readable) (hcatalogue : w.store.Identified)
    (hviewer : Viewer.id viewer ≠ "") (hawaiting : Awaiting w.store (Viewer.id viewer) key times a) (i : Nat) :
    Recorded w (Viewer.id viewer) key (Store.countUpTo i) (w.recorded viewer key i)
      ∧ ((w.recorded viewer key i).store.Holds (Viewer.id viewer) a.id
        ↔ 0 < i ∧ (times : Int) ≤ w.store.readAfter (Viewer.id viewer) key (Store.countUpTo i)) := by
  induction i with
  | zero => exact ⟨.start hready hawaiting.uncounted, iff_of_false hawaiting.unheld (by simp)⟩
  | succ i ih =>
    obtain ⟨hrecorded, hheld⟩ := ih
    by_cases hroom : (i : Int) < Store.countLimit
    · obtain ⟨hi, hi'⟩ := Store.countUpTo_of_lt hroom
      rw [hi] at hrecorded hheld
      rw [hi']
      obtain ⟨hnext, hheld', _⟩ := hrecorded.next hread hcatalogue hviewer hawaiting hroom
      refine ⟨hnext, ?_⟩
      have hmono := w.store.readAfter_mono (Viewer.id viewer) key (Nat.le_succ i)
      rw [hheld', hheld]
      constructor
      · rintro (⟨_, hle⟩ | hle)
        · exact ⟨Nat.succ_pos i, Int.le_trans hle hmono⟩
        · exact ⟨Nat.succ_pos i, hle⟩
      · exact fun hle => Or.inr hle.2
    · -- the counter is full, and everything stays as it is
      have hfull := Int.not_lt.mp hroom
      obtain ⟨hi, hi'⟩ := Store.countUpTo_of_le hfull
      have hsame := (hrecorded.refused hviewer hawaiting.keyed (Int.le_of_eq hi.symm)).2
      rw [← World.recorded_succ] at hsame
      have hbegun : 0 < i := by
        unfold Store.countLimit at hfull
        omega
      rw [hi', hsame, hheld]
      exact ⟨hrecorded.of_store_eq hsame, and_congr_left fun _ => iff_of_true hbegun (Nat.succ_pos i)⟩

/-- What a report shows of an achievement that asks for an action. -/
theorem shown_of_report {w : World} (hready : w.store.Ready) (hcatalogue : w.store.Identified)
    (hviewer : Viewer.id viewer ≠ "") (hkey : ActionKey key) (hlimit : times < 2 ^ 63)
    (ha : a ∈ Store.active w.store.catalogueRows) (hid : a.id ≠ 0) (hcriteria : a.criteria = actionRule key times)
    {r : Report} (hr : ((report viewer).run w).1 = .ok r) :
    ∃ e q, r.entries.filter (·.achievement.id == a.id) = [e] ∧ e.requirements = [q]
      ∧ q.current = .int (w.store.counter (Viewer.id viewer) (lowered key)) := by
  have hparse := Criteria.parse_actionRule hkey hlimit
  rw [← hcriteria] at hparse
  obtain ⟨hread, hentries⟩ := readable_of_report hready hviewer hr
  obtain ⟨r', ⟨hr', _⟩, hreported⟩ := report_run hready hread hviewer hentries
  cases hr.symm.trans hr'
  obtain ⟨e, honly, hentry⟩ := hreported.entry hcatalogue ha hid hparse
  obtain ⟨q, hrequirements, hq⟩ := List.map_eq_singleton_iff.mp (tells_of_entry hentry).requirements.symm
  refine ⟨e, q, honly, hrequirements, ?_⟩
  rw [(tells_of_requirement hq.symm).current, current_actionRule hkey]

/-- **What recordings come to,** by what the rule reads after each of them. -/
theorem recordings_of_readAfter (hready : w.store.Ready) (hread : w.store.Readable)
    (hcatalogue : w.store.Identified) (hviewer : Viewer.id viewer ≠ "")
    (hawaiting : Awaiting w.store (Viewer.id viewer) key times a) {current : Nat → Int} {rewards : Nat → Prop}
    (hcurrent : ∀ i, w.store.readAfter (Viewer.id viewer) key (Store.countUpTo i) = current i)
    (hrewards : ∀ i : Nat, (i : Int) < Store.countLimit →
      ((times : Int) ≤ current (i + 1) ∧ ¬ (0 < i ∧ (times : Int) ≤ current i) ↔ rewards (i + 1))) :
    Recordings w viewer key a current rewards where
  answered := by
    intro i hroom
    obtain ⟨hrecorded, hheld⟩ := World.recorded_run hready hread hcatalogue hviewer hawaiting i
    obtain ⟨hi, hi'⟩ := Store.countUpTo_of_lt hroom
    have hnow := hcurrent i
    have hlater := hcurrent (i + 1)
    rw [hi] at hrecorded hheld hnow
    rw [hi'] at hlater
    obtain ⟨_, _, time, us, hanswer, hreports⟩ := hrecorded.next hread hcatalogue hviewer hawaiting hroom
    refine ⟨time, us, hanswer, ?_⟩
    rw [hreports, hheld, hnow, hlater, hrewards i hroom]
  refused := by
    intro i hfull
    obtain ⟨hrecorded, _⟩ := World.recorded_run hready hread hcatalogue hviewer hawaiting i
    exact (hrecorded.refused hviewer hawaiting.keyed (Int.le_of_eq (Store.countUpTo_of_le hfull).1.symm)).1
  reported := by
    intro hfits i
    obtain ⟨hrecorded, _⟩ := World.recorded_run hready hread hcatalogue hviewer hawaiting i
    obtain ⟨r, ⟨hr, _⟩, _⟩ := report_run hrecorded.ready (hrecorded.readable hread) hviewer
      ((hrecorded.fits hfits (Store.countUpTo_lt i)).measured viewer hviewer)
    exact ⟨r, hr⟩
  shown := by
    intro i r hr
    obtain ⟨hrecorded, _⟩ := World.recorded_run hready hread hcatalogue hviewer hawaiting i
    rw [← hcurrent, ← hrecorded.counter_lowered]
    exact shown_of_report hrecorded.ready (hrecorded.identified hcatalogue) hviewer hawaiting.keyed hawaiting.limit
      (by rw [hrecorded.catalogue]; exact hawaiting.offered) hawaiting.id_ne hawaiting.criteria hr

/--
**Recorded actions count for the rule that names them,** unless there is a capital letter in their key. All tables
are there, ids are distinct, and every text among the criteria on offer is accepted or rejected. If no letter of
the key is a capital one, reports show how often the action has been recorded, as far as there is room for it, and the
achievement comes with the recording that makes the number full, and with no other. If one is, the rule reads the
counter of the key in lower case, which stays where it was, and the achievement comes with the first recording if it
comes at all.
-/
theorem recordings_count (hready : w.store.Ready) (hread : w.store.Readable) (hcatalogue : w.store.Identified)
    (hviewer : Viewer.id viewer ≠ "") (hawaiting : Awaiting w.store (Viewer.id viewer) key times a) :
    ((∀ c ∈ key.toList, ¬ ('A' ≤ c ∧ c ≤ 'Z')) →
        Recordings w viewer key a (fun i => Store.countUpTo i) fun i => i = times)
      ∧ ((∃ c ∈ key.toList, 'A' ≤ c ∧ c ≤ 'Z') →
        Recordings w viewer key a (fun _ => w.store.counter (Viewer.id viewer) (lowered key))
          fun i => i = 1 ∧ (times : Int) ≤ w.store.counter (Viewer.id viewer) (lowered key)) := by
  have hpositive := hawaiting.positive
  constructor
  · intro hlower
    refine recordings_of_readAfter hready hread hcatalogue hviewer hawaiting (fun i => ?_) fun i hroom => ?_
    · exact if_pos (Criteria.lowered_eq_self_iff.mpr hlower)
    · obtain ⟨hi, hi'⟩ := Store.countUpTo_of_lt hroom
      rw [hi, hi']
      omega
  · rintro ⟨c, hc, hcapital⟩
    refine recordings_of_readAfter hready hread hcatalogue hviewer hawaiting (fun i => ?_) fun i _ => ?_
    · exact if_neg fun hsame => Criteria.lowered_eq_self_iff.mp hsame c hc hcapital
    · omega

end Recordings

/-- An achievement with a given text. -/
def regular (criteria : String) : Achievement := ⟨1, "Regular", "", false, criteria⟩

/-- A world that offers this achievement, next to one whose text is rejected, and has some counters. -/
def regularWorld (criteria : String) (counters : List ActionRow) : World where
  store :=
    { results := some []
      catalogue := some [⟨2, "Broken", none, false, "wins>>1"⟩, ⟨1, "Regular", none, false, criteria⟩]
      unlocks := some []
      actions := some counters
      failing := [] }
  clock := ⟨100, 1⟩
  queries := []
  log := []

/-- The viewer's own counter is the one that is read, and a key with a capital letter is not read at all. -/
theorem recordings_count_login :
    (regularWorld "action:web.log-in>=2" [⟨"v2", "web.log-in", 7, none, none⟩]).store.Fits
      ∧ Awaiting (regularWorld "action:web.log-in>=2" [⟨"v2", "web.log-in", 7, none, none⟩]).store
        (Viewer.id (.text " v1 ")) "web.log-in" 2 (regular "action:web.log-in>=2")
      ∧ Recordings (regularWorld "action:web.log-in>=2" [⟨"v2", "web.log-in", 7, none, none⟩]) (.text " v1 ")
        "web.log-in" (regular "action:web.log-in>=2") (fun i => Store.countUpTo i) (fun i => i = 2)
      ∧ Awaiting (regularWorld "action:Login>=2" [⟨"v1", "login", 3, some 5, some 6⟩]).store
        (Viewer.id (.text " v1 ")) "Login" 2 (regular "action:Login>=2")
      ∧ Recordings (regularWorld "action:Login>=2" [⟨"v1", "login", 3, some 5, some 6⟩]) (.text " v1 ")
        "Login" (regular "action:Login>=2") (fun _ => 3) (fun i => i = 1) := by
  have hviewer : Viewer.id (.text " v1 ") ≠ "" := by decide +kernel
  have hlower : Awaiting (regularWorld "action:web.log-in>=2" [⟨"v2", "web.log-in", 7, none, none⟩]).store
      (Viewer.id (.text " v1 ")) "web.log-in" 2 (regular "action:web.log-in>=2") := by decide +kernel
  have hcapital : Awaiting (regularWorld "action:Login>=2" [⟨"v1", "login", 3, some 5, some 6⟩]).store
      (Viewer.id (.text " v1 ")) "Login" 2 (regular "action:Login>=2") := by decide +kernel
  have hcounter : (regularWorld "action:Login>=2" [⟨"v1", "login", 3, some 5, some 6⟩]).store.counter
      (Viewer.id (.text " v1 ")) (lowered "Login") = 3 := by decide +kernel
  refine ⟨⟨by decide +kernel, by decide +kernel, by decide +kernel⟩, hlower, ?_, hcapital, ?_⟩
  · exact (recordings_count (by decide) (by decide +kernel) (by decide) hviewer hlower).1
      (Criteria.lowered_eq_self_iff.mp (by decide +kernel))
  · have hrecordings := (recordings_count (by decide) (by decide +kernel) (by decide) hviewer hcapital).2
      ⟨'L', by decide, by decide⟩
    simpa [hcounter] using hrecordings

/-- **With a capital letter in its key** a recording does not count for the rule that names the key. -/
theorem capitals_uncounted :
    (regularWorld "action:Login>=1" []).store.Ready ∧ (regularWorld "action:Login>=1" []).store.Readable
      ∧ (regularWorld "action:Login>=1" []).store.Identified ∧ Viewer.id (.text "v1") ≠ ""
      ∧ Awaiting (regularWorld "action:Login>=1" []).store (Viewer.id (.text "v1")) "Login" 1
        (regular "action:Login>=1")
      ∧ ((recordAction (.text "v1") (.text "Login")).run (regularWorld "action:Login>=1" [])).1
        = .ok (.counted "v1" "Login" 1 100 [])
      ∧ (((report (.text "v1")).run ((regularWorld "action:Login>=1" []).recorded (.text "v1") "Login" 1)).1.toOption.map
          fun r => r.entries.map fun e => (e.achievement.id, e.requirements.map (·.current))) = some [(1, [.int 0])]
      ∧ ¬ Recordings (regularWorld "action:Login>=1" []) (.text "v1") "Login" (regular "action:Login>=1")
        (fun i => Store.countUpTo i) (fun i => i = 1) := by
  have hanswer : ((recordAction (.text "v1") (.text "Login")).run (regularWorld "action:Login>=1" [])).1
      = .ok (.counted "v1" "Login" 1 100 []) := by decide +kernel
  refine ⟨by decide, by decide +kernel, by decide, by decide +kernel, by decide +kernel, hanswer, by decide +kernel,
    fun h => ?_⟩
  -- the first recording would have to report an unlock
  obtain ⟨time, us, hanswer', hreports⟩ := h.answered 0 (by decide)
  cases hanswer.symm.trans hanswer'
  obtain ⟨u, hu, _⟩ := hreports.mpr rfl
  exact List.not_mem_nil hu

end Laurels
