import Laurels.Proofs.AwardHistory
import Laurels.Proofs.Closeness
import Laurels.Proofs.Counts
import Laurels.Proofs.SoloRun

/-!
# A report on a viewer

A report that runs alone has an entry for every rule on offer, and the entry is what the tables say of the
viewer and of that one achievement (`report_run`). Although a report fetches the counters that any of the rules
reads, no entry can tell (`entry_fetched`).

That the entries are there at all is a matter of numbers (`Store.Measured`): as long as the counts fit into 64
bits, the closeness of every clause is defined (`Store.Fits.measured`).
-/

namespace Laurels

/-! ## Computing with lists -/

section MapM

variable {α β ε : Type} {f : α → Except ε β}

theorem ok_bind (a : α) (f : α → Except ε β) : (Except.ok a >>= f) = f a := rfl

theorem error_bind (e : ε) (f : α → Except ε β) : (Except.error e >>= f) = .error e := rfl

theorem map_eq_of_mapM_eq_ok {xs : List α} (h : ∀ x ∈ xs, ∃ y, f x = .ok y) :
    ∃ ys, xs.mapM f = .ok ys ∧ xs.map f = ys.map .ok := by
  induction xs with
  | nil => exact ⟨[], rfl, rfl⟩
  | cons x xs ih =>
    obtain ⟨y, hy⟩ := h x List.mem_cons_self
    obtain ⟨ys, hys, hmap⟩ := ih fun z hz => h z (List.mem_cons_of_mem _ hz)
    refine ⟨y :: ys, ?_, ?_⟩
    · rw [List.mapM_cons, hy, hys]
      rfl
    · rw [List.map_cons, List.map_cons, hy, hmap]

theorem map_eq_map_ok {xs : List α} {ys : List β} (h : xs.mapM f = .ok ys) : xs.map f = ys.map .ok := by
  induction xs generalizing ys with
  | nil =>
    cases h
    rfl
  | cons x xs ih =>
    rw [List.mapM_cons] at h
    cases hx : f x with
    | error e =>
      rw [hx] at h
      cases h
    | ok y =>
      rw [hx] at h
      cases hxs : xs.mapM f with
      | error e =>
        rw [hxs] at h
        cases h
      | ok zs =>
        rw [hxs] at h
        cases h
        rw [List.map_cons, List.map_cons, hx, ih hxs]

/-- What cannot be computed for one cannot be computed for all. -/
theorem mapM_eq_error {xs : List α} (h : ∃ x ∈ xs, ∀ y, f x ≠ .ok y) : ∃ e, xs.mapM f = .error e := by
  induction xs with
  | nil =>
    obtain ⟨x, hx, _⟩ := h
    exact absurd hx List.not_mem_nil
  | cons x xs ih =>
    cases hx : f x with
    | error e =>
      refine ⟨e, ?_⟩
      rw [List.mapM_cons, hx]
      rfl
    | ok y =>
      obtain ⟨z, hz, hfault⟩ := h
      have hrest : z ∈ xs := by
        rcases List.mem_cons.mp hz with rfl | hz
        · exact absurd hx (hfault y)
        · exact hz
      obtain ⟨e, he⟩ := ih ⟨z, hrest, hfault⟩
      refine ⟨e, ?_⟩
      rw [List.mapM_cons, hx, he]
      rfl

theorem mapM_congr {g : α → Except ε β} {xs : List α} (h : ∀ x ∈ xs, f x = g x) :
    xs.mapM f = xs.mapM g := by
  induction xs with
  | nil => rfl
  | cons x xs ih =>
    rw [List.mapM_cons, List.mapM_cons, h x List.mem_cons_self,
      ih fun z hz => h z (List.mem_cons_of_mem _ hz)]

/-- What can be told of the results can be told beforehand. -/
theorem map_eq_of_map_eq_ok {κ : Type} {g : β → κ} {k : α → κ} (hgk : ∀ x y, f x = .ok y → g y = k x)
    {xs : List α} {ys : List β} (h : xs.map f = ys.map .ok) : ys.map g = xs.map k := by
  induction xs generalizing ys with
  | nil =>
    cases ys with
    | nil => rfl
    | cons y ys => cases h
  | cons x xs ih =>
    cases ys with
    | nil => cases h
    | cons y ys =>
      obtain ⟨hy, hrest⟩ := List.cons.inj h
      rw [List.map_cons, List.map_cons, hgk x y hy, ih hrest]

/-- What is picked before computing is what is picked after it. -/
theorem map_filter_eq_of_map_eq {p : α → Bool} {q : β → Bool} (hpq : ∀ x y, f x = .ok y → q y = p x)
    {xs : List α} {ys : List β} (h : xs.map f = ys.map .ok) :
    (xs.filter p).map f = (ys.filter q).map .ok := by
  induction xs generalizing ys with
  | nil =>
    cases ys with
    | nil => rfl
    | cons y ys => cases h
  | cons x xs ih =>
    cases ys with
    | nil => cases h
    | cons y ys =>
      obtain ⟨hy, hrest⟩ := List.cons.inj h
      have hq := hpq x y hy
      cases hp : p x with
      | true =>
        rw [hp] at hq
        rw [List.filter_cons_of_pos hp, List.filter_cons_of_pos hq, List.map_cons, List.map_cons, hy, ih hrest]
      | false =>
        rw [hp] at hq
        rw [List.filter_cons_of_neg (by simp [hp]), List.filter_cons_of_neg (by simp [hq]), ih hrest]

end MapM

/-! ## Numbers that are read -/

/-- The counts fit into 64 bits, and no text among the criteria is longer than that. -/
structure Store.Fits (s : Store) : Prop where
  results : s.resultRows.length < twoTo 63
  counters : ∀ row ∈ s.counterRows, row.count.natAbs < twoTo 63
  texts : ∀ row ∈ s.catalogueRows, row.criteria.length < twoTo 63

/-- What is counted of a viewer fits into 64 bits. -/
structure Store.Counted (s : Store) (viewer : String) : Prop where
  races : (s.tallyOf viewer).races < twoTo 63
  counters : ∀ row ∈ s.counterRows, row.viewer = viewer → row.count.natAbs < twoTo 63

theorem Store.Fits.counted {s : Store} (h : s.Fits) (viewer : String) : s.Counted viewer where
  races := Nat.lt_of_le_of_lt (List.length_filter_le _ _) h.results
  counters := fun row hrow _ => h.counters row hrow

theorem twoTo_63_lt : twoTo 63 < twoTo 64 := by decide

theorem Tally.count_le_races (rows : List ResultRow) (count : RaceCount) :
    (Tally.ofResults rows).count count ≤ (Tally.ofResults rows).races := by
  cases count with
  | races => exact Nat.le_refl _
  | _ => exact List.countP_le_length

/-- What is read of a viewer is an integer of 64 bits. -/
theorem read_snapshot {s : Store} {viewer : String} (h : s.Counted viewer) (m : Metric) :
    ∃ n : Int, (s.snapshot viewer).read m = .int n ∧ n.natAbs < twoTo 64 := by
  cases m with
  | unknown name => exact ⟨0, rfl, twoTo_pos 64⟩
  | race count =>
    refine ⟨_, read_race _ _ count, ?_⟩
    rw [Int.natAbs_natCast]
    exact Nat.lt_trans (Nat.lt_of_le_of_lt (Tally.count_le_races _ count) h.races) twoTo_63_lt
  | action key =>
    -- the empty key has no counter, whatever the tables hold
    by_cases hk : key = ""
    · subst hk
      exact ⟨0, read_action_empty _ s viewer, twoTo_pos 64⟩
    · refine ⟨_, read_action _ s viewer hk, ?_⟩
      unfold Store.counter
      cases hfind : s.counterRows.find? (Store.isCounterOf viewer key) with
      | none => exact twoTo_pos 64
      | some row =>
        have hviewer : row.viewer = viewer := by
          have hmatch := List.find?_some hfind
          unfold Store.isCounterOf at hmatch
          exact beq_iff_eq.mp (Bool.and_eq_true_iff.mp hmatch).1
        exact Nat.lt_trans (h.counters row (List.mem_of_find?_eq_some hfind) hviewer) twoTo_63_lt

/-! ## Entries -/

theorem requirement_eq_ok {s : Snapshot} {c : Clause} {x : Binary64} (h : c.closeness s = .ok x) :
    ∃ r, Requirement.of s c = .ok r := by
  unfold Requirement.of
  rw [h]
  exact ⟨_, rfl⟩

theorem requirement_congr {s s' : Snapshot} {c : Clause} (h : c.current s = c.current s') :
    Requirement.of s c = Requirement.of s' c := by
  unfold Requirement.of Clause.closeness Clause.holds
  rw [h]

theorem entry_congr {s s' : Snapshot} {rule : Rule} (h : ∀ c ∈ rule.clauses, c.current s = c.current s')
    (time : Int) : Entry.of s time rule = Entry.of s' time rule := by
  unfold Entry.of
  rw [mapM_congr fun c hc => requirement_congr (h c hc)]

/-- An entry, given the requirements in it. -/
theorem entry_eq {s : Snapshot} {rule : Rule} {requirements : List Requirement}
    (h : rule.clauses.mapM (Requirement.of s) = .ok requirements) (time : Int) :
    Entry.of s time rule =
      (if 0 < time ∨ requirements.all (·.satisfied) = true then .ok .one
        else mean (requirements.map (·.closeness))).map fun overall =>
          ⟨rule.achievement, time, requirements.all (·.satisfied), overall, requirements⟩ := by
  unfold Entry.of
  rw [h, ok_bind]
  dsimp only
  by_cases hfull : 0 < time ∨ requirements.all (·.satisfied) = true
  · rw [if_pos hfull, if_pos hfull, ok_bind]
    rfl
  · rw [if_neg hfull, if_neg hfull]
    cases mean (requirements.map (·.closeness)) with
    | ok overall => rfl
    | error fault => rfl

/-- What an entry says, told by the rule and the snapshot that it was computed from. -/
structure Entry.Tells (s : Snapshot) (time : Int) (rule : Rule) (e : Entry) : Prop where
  achievement : e.achievement = rule.achievement
  unlockedAt : e.unlockedAt = time
  requirements : rule.clauses.map (Requirement.of s) = e.requirements.map .ok
  eligible : e.eligible = satisfied rule.clauses s
  /-- An achievement that is unlocked or eligible is shown as complete. -/
  overall : 0 < time ∨ e.eligible = true → e.overall = .one

/-- What a requirement says, told by its clause and the snapshot that it was computed from. -/
structure Requirement.Tells (s : Snapshot) (c : Clause) (r : Requirement) : Prop where
  metric : r.metric = c.target.canonical
  label : r.label = Metric.label c.target.canonical
  op : r.op = c.op
  target : r.target = c.threshold
  current : r.current = c.current s
  satisfied : r.satisfied = c.holds s
  closeness : c.closeness s = .ok r.closeness

theorem tells_of_requirement {s : Snapshot} {c : Clause} {r : Requirement} (h : Requirement.of s c = .ok r) :
    r.Tells s c := by
  unfold Requirement.of at h
  cases hc : c.closeness s with
  | error fault =>
    rw [hc, error_bind] at h
    cases h
  | ok closeness =>
    rw [hc, ok_bind] at h
    have hr := Except.ok.inj h
    refine ⟨?_, ?_, ?_, ?_, ?_, ?_, by rw [← hr, hc]⟩ <;> rw [← hr]

theorem satisfied_of_requirements {s : Snapshot} {clauses : List Clause} {requirements : List Requirement}
    (h : clauses.map (Requirement.of s) = requirements.map .ok) :
    requirements.all (·.satisfied) = satisfied clauses s := by
  induction clauses generalizing requirements with
  | nil =>
    cases requirements with
    | nil => rfl
    | cons r requirements => cases h
  | cons c clauses ih =>
    cases requirements with
    | nil => cases h
    | cons r requirements =>
      obtain ⟨hr, hrest⟩ := List.cons.inj h
      rw [List.all_cons, (tells_of_requirement hr).satisfied, ih hrest]
      rfl

/-- What an entry is made of. -/
theorem parts_of_entry {s : Snapshot} {time : Int} {rule : Rule} {e : Entry} (h : Entry.of s time rule = .ok e) :
    rule.clauses.mapM (Requirement.of s) = .ok e.requirements
      ∧ e = ⟨rule.achievement, time, e.requirements.all (·.satisfied), e.overall, e.requirements⟩
      ∧ (if 0 < time ∨ e.requirements.all (·.satisfied) = true then .ok .one
          else mean (e.requirements.map (·.closeness))) = .ok e.overall := by
  cases hr : rule.clauses.mapM (Requirement.of s) with
  | error fault =>
    unfold Entry.of at h
    rw [hr] at h
    cases h
  | ok requirements =>
    rw [entry_eq hr] at h
    cases ho : (if 0 < time ∨ requirements.all (·.satisfied) = true then Except.ok Binary64.one
        else mean (requirements.map (·.closeness))) with
    | error fault =>
      rw [ho] at h
      cases h
    | ok overall =>
      rw [ho] at h
      cases h
      exact ⟨rfl, rfl, ho⟩

theorem tells_of_entry {s : Snapshot} {time : Int} {rule : Rule} {e : Entry}
    (h : Entry.of s time rule = .ok e) : e.Tells s time rule := by
  obtain ⟨hr, he, ho⟩ := parts_of_entry h
  have hmap := map_eq_map_ok hr
  have heligible : e.eligible = e.requirements.all (·.satisfied) := congrArg Entry.eligible he
  refine ⟨congrArg Entry.achievement he, congrArg Entry.unlockedAt he, hmap,
    heligible.trans (satisfied_of_requirements hmap), fun hfull => ?_⟩
  rw [if_pos (by rwa [← heligible])] at ho
  exact (Except.ok.inj ho).symm

/-- An entry is about the achievement of its rule. -/
theorem achievement_of_entry {s : Snapshot} {time : Int} {rule : Rule} {e : Entry}
    (h : Entry.of s time rule = .ok e) : e.achievement = rule.achievement :=
  (tells_of_entry h).achievement

/-- What was read from a text has a requirement for each of its clauses. -/
theorem requirements_defined {s : Store} {viewer : String} (h : s.Counted viewer) {text : String}
    {clauses : List Clause} (hparse : Criteria.parse text = .ok clauses) :
    ∃ requirements, clauses.mapM (Requirement.of (s.snapshot viewer)) = .ok requirements
      ∧ requirements.length = clauses.length := by
  have hclauses : ∀ c ∈ clauses, ∃ r, Requirement.of (s.snapshot viewer) c = .ok r := by
    intro c hc
    obtain ⟨n, hn, hlt⟩ := read_snapshot h c.target
    obtain ⟨x, hx⟩ := closeness_defined c.op hlt (Criteria.usable_of_parse hparse c hc)
    refine requirement_eq_ok (x := x) ?_
    unfold Clause.closeness Clause.current
    rw [hn]
    exact hx
  obtain ⟨requirements, hm, hmap⟩ := map_eq_of_mapM_eq_ok hclauses
  refine ⟨requirements, hm, ?_⟩
  have hlen := congrArg List.length hmap
  rwa [List.length_map, List.length_map, eq_comm] at hlen

/-- **Every rule on offer has an entry,** if it has not too many clauses. -/
theorem entry_defined {s : Store} {viewer : String} (h : s.Counted viewer) {rule : Rule} (hrule : rule ∈ s.rules)
    (hbound : rule.clauses.length < twoTo 64) (time : Int) :
    ∃ e, Entry.of (s.snapshot viewer) time rule = .ok e := by
  obtain ⟨_, _, hparse⟩ := Store.mem_rules.mp hrule
  obtain ⟨requirements, hm, hlen⟩ := requirements_defined h hparse
  rw [entry_eq hm]
  split
  · exact ⟨_, rfl⟩
  · -- the mean is of at least one value, and of not too many
    have hlength : (requirements.map (·.closeness)).length = rule.clauses.length := by rw [List.length_map, hlen]
    have hne : requirements.map (·.closeness) ≠ [] := by
      intro hnil
      rw [hnil] at hlength
      exact (Criteria.parse_eq_ok hparse).1 (List.length_eq_zero_iff.mp hlength.symm)
    obtain ⟨overall, hoverall⟩ := mean_defined hne (by rwa [hlength])
    rw [hoverall]
    exact ⟨_, rfl⟩

/-- A text that is not too long has not too many clauses. -/
theorem Store.Fits.length_clauses {s : Store} (h : s.Fits) {rule : Rule} (hrule : rule ∈ s.rules) :
    rule.clauses.length < twoTo 64 := by
  obtain ⟨hoffer, _, hparse⟩ := Store.mem_rules.mp hrule
  obtain ⟨row, hrow, hrow', _⟩ := Store.mem_active.mp hoffer
  have htext := h.texts row hrow
  have hle := Criteria.length_of_parse hparse
  rw [← hrow'] at hle
  have hpow : twoTo 64 = twoTo 63 * 2 := twoTo_succ 63
  have hpos := twoTo_pos 63
  change rule.clauses.length ≤ row.criteria.length + 1 at hle
  omega

/-! ## When an achievement was unlocked -/

theorem unlockTime_times (rows : List UnlockRow) (viewer : String) (achievement : Int) :
    unlockTime (Store.times rows viewer) achievement
      = ((rows.find? fun r => (r.viewer == viewer && decide (0 < r.time)) && r.achievement == achievement).map
          (·.time)).getD 0 := by
  unfold unlockTime Store.times
  rw [lookup_map_filter (fun r : UnlockRow => r.viewer == viewer && decide (0 < r.time)) UnlockRow.achievement
    UnlockRow.time]

/-- A report shows an achievement as unlocked if the ledger holds an unlock of it with a positive time. -/
theorem unlockTime_pos_iff {rows : List UnlockRow} {viewer : String} {achievement : Int} :
    0 < unlockTime (Store.times rows viewer) achievement ↔
      ∃ row ∈ rows, row.viewer = viewer ∧ row.achievement = achievement ∧ 0 < row.time := by
  rw [unlockTime_times]
  cases hfind : rows.find? fun r =>
      (r.viewer == viewer && decide (0 < r.time)) && r.achievement == achievement with
  | none =>
    refine iff_of_false (by simp) ?_
    rintro ⟨row, hrow, hv, ha, hpos⟩
    exact absurd (List.find?_eq_none.mp hfind row hrow) (by simp [hv, ha, hpos])
  | some row =>
    have hmatch := List.find?_some hfind
    simp only [Bool.and_eq_true, beq_iff_eq, decide_eq_true_eq] at hmatch
    exact iff_of_true hmatch.1.2 ⟨row, List.mem_of_find?_eq_some hfind, hmatch.1.1, hmatch.2, hmatch.1.2⟩

/-- It shows no other time than zero if there is none. -/
theorem unlockTime_nonneg (rows : List UnlockRow) (viewer : String) (achievement : Int) :
    0 ≤ unlockTime (Store.times rows viewer) achievement := by
  rw [unlockTime_times]
  cases hfind : rows.find? fun r =>
      (r.viewer == viewer && decide (0 < r.time)) && r.achievement == achievement with
  | none => exact Int.le_refl 0
  | some row =>
    have hmatch := List.find?_some hfind
    simp only [Bool.and_eq_true, beq_iff_eq, decide_eq_true_eq] at hmatch
    exact Int.le_of_lt hmatch.1.2

/-- A report knows the time of an unlock, as long as the ledger holds no pair twice. -/
theorem unlockTime_of_mem {rows : List UnlockRow} (hdistinct : (rows.map UnlockRow.pair).Nodup) {row : UnlockRow}
    (hrow : row ∈ rows) (htime : 0 < row.time) :
    unlockTime (Store.times rows row.viewer) row.achievement = row.time := by
  rw [unlockTime_times]
  cases hfind : rows.find? fun r =>
      (r.viewer == row.viewer && decide (0 < r.time)) && r.achievement == row.achievement with
  | none => exact absurd (List.find?_eq_none.mp hfind row hrow) (by simp [htime])
  | some row' =>
    have hmatch := List.find?_some hfind
    simp only [Bool.and_eq_true, beq_iff_eq, decide_eq_true_eq] at hmatch
    -- a row that matches has the same pair, so it is the same row
    have hpair : row'.pair = row.pair := Prod.ext hmatch.1.1 hmatch.2
    rw [List.inj_on_of_nodup_map hdistinct (List.mem_of_find?_eq_some hfind) hrow hpair]
    rfl

namespace Store

/-- The entry that a rule gets in a report on a viewer, computed from the tables. -/
def entry (s : Store) (viewer : String) (rule : Rule) : Except NumberFault Entry :=
  Entry.of (s.snapshot viewer) (unlockTime (times s.ledger viewer) rule.achievement.id) rule

/-- Whoever the viewer is, every rule on offer has an entry. -/
def Measured (s : Store) : Prop :=
  ∀ viewer : Value, Viewer.id viewer ≠ "" → ∀ rule ∈ s.rules, ∃ e, s.entry (Viewer.id viewer) rule = .ok e

theorem Fits.measured {s : Store} (h : s.Fits) : s.Measured :=
  fun _ _ _ hrule => entry_defined (h.counted _) hrule (h.length_clauses hrule) _

end Store

/-! ## The report -/

/-- The snapshot of a viewer that a report fetches: of the counters, those that some rule reads. -/
def Store.fetched (s : Store) (viewer : String) : Snapshot :=
  .ofFetched (tallies s.resultRows [viewer])
    (counts s.counterRows [viewer] (wantedKeys (Rule.actionKeys s.rules))) viewer

/-- A clause reads the same off what a report fetches for its viewer as off the tables. -/
theorem entry_fetched {s : Store} (viewer : String) {rule : Rule} (hrule : rule ∈ s.rules) (time : Int) :
    Entry.of (s.fetched viewer) time rule = Entry.of (s.snapshot viewer) time rule :=
  entry_congr (fun _ hc => current_ofFetched s s (List.mem_singleton_self viewer) hrule hc) time

/-- What a report says of a viewer, if the entries are computed from the tables. -/
structure Reported (s : Store) (viewer : String) (r : Report) : Prop where
  about : r.viewer = viewer
  metrics : r.metrics = s.fetched viewer
  /-- There is one entry for each rule. -/
  entries : s.rules.map (s.entry viewer) = r.entries.map .ok

theorem Reported.mem_entries {s : Store} {viewer : String} {r : Report} (h : Reported s viewer r) {e : Entry} :
    e ∈ r.entries ↔ ∃ rule ∈ s.rules, s.entry viewer rule = .ok e := by
  have hmem : e ∈ r.entries ↔ Except.ok e ∈ r.entries.map (Except.ok (ε := NumberFault)) := by
    rw [List.mem_map]
    constructor
    · intro he
      exact ⟨e, he, rfl⟩
    · rintro ⟨e', he', heq⟩
      cases heq
      exact he'
  rw [hmem, ← h.entries, List.mem_map]

/-- There is an entry for the achievement of each rule, in the order of the rules. -/
theorem Reported.map_achievements {s : Store} {viewer : String} {r : Report} (h : Reported s viewer r) :
    r.entries.map (·.achievement) = s.rules.map (·.achievement) :=
  map_eq_of_map_eq_ok (fun _ _ he => achievement_of_entry he) h.entries

/-- The store is one and the same throughout. -/
theorem steady_eq {s₀ : Store} (h : s₀.Ready) : Steady (· = s₀) s₀ where
  ready := by
    rintro s rfl
    exact h
  catalogue := by
    rintro s rfl
    rfl

namespace Procedure

theorem ask_unlockTimes_ensures {s : Store} (hready : s.Ready) (viewer : String) :
    (ask (.unlockTimes (.text viewer))).Ensures (Event.From (· = s)) fun _ times =>
      times = Store.times s.ledger viewer := by
  refine ensures_ask fun reply ⟨s', hs', hr⟩ => ?_
  subst hs'
  rw [Store.answer_of_ready hready] at hr
  exact ⟨_, hr, rfl⟩

theorem ensures_compute {α : Type} {allowed : Event → Prop} {x : Except NumberFault α} {a : α}
    (h : x = .ok a) : (compute x).Ensures allowed fun es b => es = [] ∧ b = a := by
  subst h
  exact ensures_done ⟨rfl, rfl⟩

theorem snapshot_taken (s : Store) (viewer : String) :
    (([viewer].map fun v => (v, Snapshot.ofFetched (Store.tallies s.resultRows [viewer])
        (Store.counts s.counterRows [viewer] (wantedKeys (Rule.actionKeys s.rules))) v)).lookup viewer).getD .empty
      = s.fetched viewer := by
  rw [lookup_map_mem _ (List.mem_singleton_self viewer), Option.getD_some]
  rfl

/-- The entry that a report computes, from the snapshot that it has taken. -/
theorem entry_taken {s : Store} (viewer : String) {rule : Rule} (hrule : rule ∈ s.rules) :
    Entry.of ((([viewer].map fun v => (v, Snapshot.ofFetched (Store.tallies s.resultRows [viewer])
        (Store.counts s.counterRows [viewer] (wantedKeys (Rule.actionKeys s.rules))) v)).lookup viewer).getD .empty)
      (unlockTime (Store.times s.ledger viewer) rule.achievement.id) rule = s.entry viewer rule := by
  rw [snapshot_taken, entry_fetched viewer hrule]
  rfl

theorem reportFor_ensures {s : Store} (hready : s.Ready) (hread : s.Readable) {viewer : String}
    (hentries : ∀ rule ∈ s.rules, ∃ e, s.entry viewer rule = .ok e) :
    (reportFor viewer).Ensures (Event.From (· = s)) fun _ r => Reported s viewer r := by
  have hP := steady_eq hready
  unfold reportFor
  refine ensures_seq (ask_activeAchievements_ensures hP) ?_
  rintro es₁ as ⟨_, _, rfl, _⟩
  refine ensures_seq (compile_ensures false fun _ ha hid _ => hread.active ha hid) ?_
  rintro es₂ rules ⟨_, _, rfl⟩
  refine ensures_seq (takeSnapshots_ensures hP (List.cons_ne_nil viewer []) _) ?_
  rintro es₃ snapshots ⟨_, _, s₁, s₂, rfl, rfl, rfl⟩
  refine ensures_seq (ask_unlockTimes_ensures hready viewer) ?_
  rintro es₄ times rfl
  -- the viewer's snapshot is the one that was taken, and no entry can tell it from what the tables say
  have htaken : ∀ rule ∈ s₂.rules, _ = s₂.entry viewer rule := fun rule => entry_taken viewer
  obtain ⟨entries, hm, hmap⟩ := map_eq_of_mapM_eq_ok hentries
  rw [← mapM_congr htaken] at hm
  refine ensures_seq (ensures_compute hm) ?_
  rintro es₅ _ ⟨rfl, rfl⟩
  exact ensures_done ⟨rfl, snapshot_taken s₂ viewer, hmap⟩

end Procedure

theorem report_eq {viewer : Value} (hviewer : Viewer.id viewer ≠ "") :
    report viewer = reportFor (Viewer.id viewer) := by
  unfold report
  rw [if_neg (by simpa using hviewer)]

/-- **A report that runs alone** reports what the tables say, and changes nothing. -/
theorem report_run {w : World} (hready : w.store.Ready) (hread : w.store.Readable) {viewer : Value}
    (hviewer : Viewer.id viewer ≠ "")
    (hentries : ∀ rule ∈ w.store.rules, ∃ e, w.store.entry (Viewer.id viewer) rule = .ok e) :
    ∃ r, (report viewer).Answers w r ∧ Reported w.store (Viewer.id viewer) r := by
  have hasks := Procedure.report_asks viewer
  rw [report_eq hviewer] at hasks ⊢
  obtain ⟨_, r, hanswers, hreported⟩ :=
    (Procedure.reportFor_ensures hready hread hentries).answers hasks rfl
  exact ⟨r, hanswers, hreported⟩

end Laurels
