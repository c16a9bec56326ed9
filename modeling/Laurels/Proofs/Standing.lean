import Laurels.Award
import Laurels.Proofs.Store.Answer

/-!
# Where a viewer stands

The tables decide what a viewer deserves, and this module says so without any procedure: `Store.snapshot`
counts the viewer's results and looks up the viewer's counters, and `Store.Deserves` asks for an achievement
that is offered, has an id, and whose clauses hold on that snapshot.

A counter may have the empty key. No rule can have it read, and it counts for nothing in `Store.snapshot`, while
`Store.fullSnapshot` holds all that the tables hold. The two say the same to a viewer without such a counter, and of a
rule that names none (`deserves_of_full`).

An award pass sees less. It fetches results and counters in two queries, perhaps from two stores, for several
viewers at once, and of the counters only those that some rule reads. `satisfied_ofFetched` says that no
clause can tell the difference: what a rule reads is what `Snapshot.of` holds for that viewer alone.
-/

namespace Laurels

/-- The snapshot that race counts and counters make up. -/
def Snapshot.of (tally : Tally) (counters : List (String × Int)) : Snapshot :=
  { races := .int tally.races
    finished := .int tally.finished
    wins := .int tally.wins
    dnf := .int tally.dnf
    actions := counters.map fun c => (c.1, .int c.2) }

namespace Store

/-- The race counts of a viewer. -/
def tallyOf (s : Store) (viewer : String) : Tally :=
  Tally.ofResults (s.resultRows.filter fun r => r.viewer == viewer)

/-- The counters of a viewer. A counter without a key belongs to no action. -/
def countersOf (s : Store) (viewer : String) : List (String × Int) :=
  ((s.counterRows.filter fun r => r.viewer == viewer).filter fun r => !r.key.isEmpty).map
    fun r => (r.key, r.count)

/-- What the tables say of a viewer. -/
def snapshot (s : Store) (viewer : String) : Snapshot := .of (s.tallyOf viewer) (s.countersOf viewer)

/-- The snapshot of a viewer with all counters that there are, one without a key included. -/
def fullSnapshot (s : Store) (viewer : String) : Snapshot :=
  .of (s.tallyOf viewer) ((s.counterRows.filter fun r => r.viewer == viewer).map fun r => (r.key, r.count))

/-- Whether an achievement is deserved by what a snapshot shows: it is in the catalogue and not disabled, it has an id,
its criteria are accepted, and all of their clauses hold on the snapshot. -/
def DeservedOn (s : Store) (shown : Snapshot) (a : Achievement) : Prop :=
  (∃ row ∈ s.catalogueRows, row.achievement = a ∧ row.disabled = false) ∧ a.id ≠ 0
    ∧ ∃ clauses, Criteria.parse a.criteria = .ok clauses ∧ ∀ c ∈ clauses, c.holds shown = true

instance (s : Store) (shown : Snapshot) (a : Achievement) : Decidable (s.DeservedOn shown a) :=
  decidable_of_iff ((∃ row ∈ s.catalogueRows, row.achievement = a ∧ row.disabled = false) ∧ a.id ≠ 0
      ∧ (match Criteria.parse a.criteria with
          | .ok clauses => satisfied clauses shown
          | .error _ => false) = true) <| by
    unfold DeservedOn satisfied
    refine and_congr_right fun _ => and_congr_right fun _ => ?_
    cases Criteria.parse a.criteria <;> simp

/-- Whether a viewer deserves an achievement by what the tables say of the viewer. -/
def Deserves (s : Store) (viewer : String) (a : Achievement) : Prop := s.DeservedOn (s.snapshot viewer) a

instance (s : Store) (viewer : String) (a : Achievement) : Decidable (s.Deserves viewer a) :=
  inferInstanceAs (Decidable (s.DeservedOn _ a))

/-- Whether a viewer deserves an achievement by all that the tables hold. -/
def DeservesInFull (s : Store) (viewer : String) (a : Achievement) : Prop := s.DeservedOn (s.fullSnapshot viewer) a

instance (s : Store) (viewer : String) (a : Achievement) : Decidable (s.DeservesInFull viewer a) :=
  inferInstanceAs (Decidable (s.DeservedOn _ a))

/-- Every text among the criteria on offer is either accepted or rejected; none makes the reading fail in
another way. -/
def Readable (s : Store) : Prop :=
  ∀ row ∈ s.catalogueRows, row.disabled = false → row.id ≠ 0 →
    ∀ e, Criteria.parse row.criteria = .error e → e.isRejection = true

instance (s : Store) : Decidable s.Readable :=
  decidable_of_iff (∀ row ∈ s.catalogueRows, row.disabled = false → row.id ≠ 0 →
      (match Criteria.parse row.criteria with
        | .ok _ => true
        | .error e => e.isRejection) = true) <| by
    unfold Readable
    refine forall₄_congr fun row _ _ _ => ?_
    cases Criteria.parse row.criteria <;> simp

end Store

/-- No clause of an achievement reads a counter without a key. -/
def Achievement.NamesActions (a : Achievement) : Prop :=
  ∀ clauses, Criteria.parse a.criteria = .ok clauses → ∀ c ∈ clauses, c.target ≠ .action ""

/-- The rule of an achievement that has an id and whose criteria are accepted. -/
def Achievement.rule? (a : Achievement) : Option Rule :=
  if a.id = 0 then none
  else match Criteria.parse a.criteria with
    | .ok clauses => some ⟨a, clauses⟩
    | .error _ => none

/-- The rules on offer, by ascending id. -/
def Store.rules (s : Store) : List Rule := (active s.catalogueRows).filterMap Achievement.rule?

theorem Achievement.rule?_eq_some {a : Achievement} {rule : Rule} :
    a.rule? = some rule ↔
      a.id ≠ 0 ∧ rule.achievement = a ∧ Criteria.parse a.criteria = .ok rule.clauses := by
  unfold Achievement.rule?
  by_cases hid : a.id = 0
  · simp [hid]
  · rw [if_neg hid]
    cases hp : Criteria.parse a.criteria with
    | error e => simp
    | ok clauses =>
      constructor
      · intro h
        cases h
        exact ⟨hid, rfl, rfl⟩
      · rintro ⟨_, rfl, hc⟩
        cases hc
        rfl

namespace Store

theorem mem_active {rows : List CatalogueRow} {a : Achievement} :
    a ∈ active rows ↔ ∃ row ∈ rows, row.achievement = a ∧ row.disabled = false := by
  unfold active
  simp only [List.mem_map, mem_sorted, List.mem_filter, Bool.not_eq_true']
  constructor
  · rintro ⟨row, ⟨hrow, hd⟩, rfl⟩
    exact ⟨row, hrow, rfl, hd⟩
  · rintro ⟨row, hrow, rfl, hd⟩
    exact ⟨row, ⟨hrow, hd⟩, rfl⟩

theorem mem_rules {s : Store} {rule : Rule} :
    rule ∈ s.rules ↔ rule.achievement ∈ active s.catalogueRows ∧ rule.achievement.id ≠ 0
      ∧ Criteria.parse rule.achievement.criteria = .ok rule.clauses := by
  unfold rules
  rw [List.mem_filterMap]
  constructor
  · rintro ⟨a, ha, hr⟩
    obtain ⟨hid, rfl, hp⟩ := Achievement.rule?_eq_some.mp hr
    exact ⟨ha, hid, hp⟩
  · rintro ⟨ha, hid, hp⟩
    exact ⟨rule.achievement, ha, Achievement.rule?_eq_some.mpr ⟨hid, rfl, hp⟩⟩

theorem Readable.active {s : Store} (h : s.Readable) {a : Achievement}
    (ha : a ∈ Store.active s.catalogueRows) (hid : a.id ≠ 0) {e : CriteriaFault}
    (hp : Criteria.parse a.criteria = .error e) : e.isRejection = true := by
  obtain ⟨row, hrow, rfl, hd⟩ := mem_active.mp ha
  exact h row hrow hd hid e hp

/-- A viewer deserves what some rule on offer is satisfied for. -/
theorem deserves_iff {s : Store} {viewer : String} {a : Achievement} :
    s.Deserves viewer a ↔
      ∃ rule ∈ s.rules, rule.achievement = a ∧ satisfied rule.clauses (s.snapshot viewer) = true := by
  constructor
  · rintro ⟨hoffer, hid, clauses, hp, hall⟩
    refine ⟨⟨a, clauses⟩, mem_rules.mpr ⟨mem_active.mpr hoffer, hid, hp⟩, rfl, ?_⟩
    exact List.all_eq_true.mpr hall
  · rintro ⟨rule, hrule, rfl, hsat⟩
    obtain ⟨hoffer, hid, hp⟩ := mem_rules.mp hrule
    exact ⟨mem_active.mp hoffer, hid, rule.clauses, hp, List.all_eq_true.mp hsat⟩

end Store

/-! ## What is fetched says the same -/

theorem lookup_map_filter {α β κ : Type} [BEq κ] [LawfulBEq κ] (p : α → Bool) (key : α → κ) (value : α → β)
    (k : κ) (rows : List α) :
    ((rows.filter p).map fun r => (key r, value r)).lookup k
      = (rows.find? fun r => p r && key r == k).map value := by
  induction rows with
  | nil => rfl
  | cons r rows ih =>
    by_cases hp : p r = true
    · rw [List.filter_cons_of_pos hp, List.map_cons, List.lookup_cons, List.find?_cons, hp, Bool.true_and]
      by_cases hk : key r = k
      · simp [hk]
      · have hk' : ¬ k = key r := fun h => hk h.symm
        simp only [beq_eq_false_iff_ne.mpr hk, beq_eq_false_iff_ne.mpr hk']
        exact ih
    · rw [List.filter_cons_of_neg hp, List.find?_cons, Bool.eq_false_iff.mpr hp, Bool.false_and]
      exact ih

theorem lookup_filterMap_key {β : Type} (f : String → Option β) (k : String) (ks : List String) :
    (ks.filterMap fun v => (f v).map fun b => (v, b)).lookup k = if k ∈ ks then f k else none := by
  induction ks with
  | nil => rfl
  | cons v ks ih =>
    by_cases hk : k = v
    · subst hk
      cases hf : f k with
      | none => simp [hf, ih]
      | some b => simp [hf]
    · have hmem : (k ∈ v :: ks) ↔ k ∈ ks := by simp [hk]
      simp only [hmem]
      rw [← ih]
      cases hf : f v with
      | none => simp [hf]
      | some b =>
        simp [hf, List.lookup_cons, beq_eq_false_iff_ne.mpr hk]

theorem lookup_map_mem {β : Type} (f : String → β) {ids : List String} {viewer : String} (h : viewer ∈ ids) :
    (ids.map fun v => (v, f v)).lookup viewer = some (f viewer) := by
  have hlookup := lookup_filterMap_key (fun v => some (f v)) viewer ids
  rw [if_pos h] at hlookup
  rw [← hlookup, ← List.filterMap_eq_map]
  rfl

namespace Store

/-- The race counts that are fetched for a viewer among others are the viewer's. -/
theorem lookup_tallies (results : List ResultRow) {viewers : List String} {viewer : String}
    (h : viewer ∈ viewers) :
    ((tallies results viewers).lookup viewer).getD ⟨0, 0, 0, 0⟩
      = Tally.ofResults (results.filter fun r => r.viewer == viewer) := by
  have hshape : tallies results viewers
      = viewers.eraseDups.filterMap fun v =>
          (if (results.filter fun r => r.viewer == v).isEmpty then none
            else some (Tally.ofResults (results.filter fun r => r.viewer == v))).map fun t => (v, t) := by
    unfold tallies
    congr 1
    funext v
    cases results.filter fun r => r.viewer == v <;> rfl
  rw [hshape, lookup_filterMap_key, if_pos (List.mem_eraseDups.mpr h)]
  cases results.filter fun r => r.viewer == viewer <;> rfl

/-- The counters that are fetched for a viewer hold what the viewer's counter for a wanted key holds. -/
theorem lookup_counts (rows : List ActionRow) {viewers keys : List String} {viewer key : String}
    (hv : viewer ∈ viewers) (hk : key ∈ keys) :
    (((counts rows viewers keys).filter fun c => c.1 == viewer).map
        fun c => (c.2.1, Number.int c.2.2)).lookup key
      = (rows.find? (isCounterOf viewer key)).map fun r => Number.int r.count := by
  unfold counts
  rw [List.filter_map, List.filter_filter, List.map_map]
  have h := lookup_map_filter
    (fun r : ActionRow => r.viewer == viewer && (viewers.contains r.viewer && keys.contains r.key))
    ActionRow.key (fun r => Number.int r.count) key rows
  refine h.trans (congrArg (Option.map _) (congrArg (List.find? · rows) (funext fun r => ?_)))
  unfold isCounterOf
  by_cases hrv : r.viewer = viewer
  · by_cases hrk : r.key = key
    · simp [hrv, hrk, hv, hk]
    · rw [beq_eq_false_iff_ne.mpr hrk, Bool.and_false, Bool.and_false]
  · rw [beq_eq_false_iff_ne.mpr hrv, Bool.false_and, Bool.false_and]

/-- The counters of a viewer hold what the viewer's counter for a key holds. -/
theorem lookup_countersOf (s : Store) (viewer : String) {key : String} (hk : key ≠ "") :
    ((s.countersOf viewer).map fun c => (c.1, Number.int c.2)).lookup key
      = (s.counterRows.find? (isCounterOf viewer key)).map fun r => Number.int r.count := by
  unfold countersOf
  rw [List.filter_filter, List.map_map]
  have h := lookup_map_filter (fun r : ActionRow => !r.key.isEmpty && r.viewer == viewer)
    ActionRow.key (fun r => Number.int r.count) key s.counterRows
  refine h.trans (congrArg (Option.map _) (congrArg (List.find? · s.counterRows) (funext fun r => ?_)))
  unfold isCounterOf
  by_cases hrk : r.key = key
  · simp [hrk, hk]
  · rw [beq_eq_false_iff_ne.mpr hrk, Bool.and_false, Bool.and_false]

/-- All the counters of a viewer hold the same for that key. -/
theorem lookup_fullSnapshot (s : Store) (viewer key : String) :
    (s.fullSnapshot viewer).actions.lookup key
      = (s.counterRows.find? (isCounterOf viewer key)).map fun r => Number.int r.count := by
  show (((s.counterRows.filter fun r => r.viewer == viewer).map fun r => (r.key, r.count)).map
    fun c => (c.1, Number.int c.2)).lookup key = _
  rw [List.map_map]
  exact lookup_map_filter (fun r : ActionRow => r.viewer == viewer) ActionRow.key (fun r => Number.int r.count) key
    s.counterRows

theorem lookup_counts_of_not_mem (rows : List ActionRow) {viewers keys : List String}
    {viewer key : String} (hk : key ∉ keys) :
    (((counts rows viewers keys).filter fun c => c.1 == viewer).map
        fun c => (c.2.1, Number.int c.2.2)).lookup key = none := by
  rw [List.lookup_eq_none_iff]
  intro p hp
  obtain ⟨c, hc, rfl⟩ := List.mem_map.mp hp
  obtain ⟨r, hr, rfl⟩ := List.mem_map.mp (List.mem_filter.mp hc).1
  have hkey := (List.mem_filter.mp hr).2
  rw [Bool.and_eq_true, List.contains_iff_mem, List.contains_iff_mem] at hkey
  rw [bne_iff_ne]
  intro he
  exact hk (he ▸ hkey.2)

theorem lookup_countersOf_empty (s : Store) (viewer : String) :
    ((s.countersOf viewer).map fun c => (c.1, Number.int c.2)).lookup "" = none := by
  rw [List.lookup_eq_none_iff]
  intro p hp
  obtain ⟨c, hc, rfl⟩ := List.mem_map.mp hp
  obtain ⟨r, hr, rfl⟩ := List.mem_map.mp hc
  have hkey := (List.mem_filter.mp hr).2
  rw [bne_iff_ne]
  intro he
  rw [show r.key = "" from he.symm] at hkey
  exact absurd hkey (by simp)

/-- The viewer has no counter without a key. -/
def KeyedFor (s : Store) (viewer : String) : Prop := ∀ r ∈ s.counterRows, r.viewer = viewer → r.key ≠ ""

instance (s : Store) (viewer : String) : Decidable (s.KeyedFor viewer) :=
  inferInstanceAs (Decidable (∀ r ∈ s.counterRows, r.viewer = viewer → r.key ≠ ""))

/-- A metric reads the same off all counters of a viewer, unless it reads one without a key. -/
theorem read_fullSnapshot (s : Store) (viewer : String) {m : Metric} (h : m = .action "" → s.KeyedFor viewer) :
    (s.fullSnapshot viewer).read m = (s.snapshot viewer).read m := by
  cases m with
  | unknown name => rfl
  | race count => cases count <;> rfl
  | action key =>
    have hlookup : (s.fullSnapshot viewer).actions.lookup key = (s.snapshot viewer).actions.lookup key := by
      rw [lookup_fullSnapshot]
      by_cases hk : key = ""
      · subst hk
        have hnone : s.counterRows.find? (isCounterOf viewer "") = none := by
          rw [List.find?_eq_none]
          intro r hr hown
          obtain ⟨hviewer, hkey⟩ := isCounterOf_iff.mp hown
          exact h rfl r hr hviewer hkey
        rw [hnone]
        exact (lookup_countersOf_empty s viewer).symm
      · exact (lookup_countersOf s viewer hk).symm
    simp only [Snapshot.read, hlookup]

/-- **What is deserved by all that the tables hold is deserved,** if the viewer has no counter without a key, or the
criteria name none. -/
theorem deserves_of_full {s : Store} {viewer : String} {a : Achievement} (h : s.DeservesInFull viewer a)
    (hkeys : s.KeyedFor viewer ∨ a.NamesActions) : s.Deserves viewer a := by
  obtain ⟨hoffered, hid, clauses, hparse, hholds⟩ := h
  refine ⟨hoffered, hid, clauses, hparse, fun c hc => ?_⟩
  have hcurrent : c.current (s.fullSnapshot viewer) = c.current (s.snapshot viewer) :=
    read_fullSnapshot s viewer fun hblank => hkeys.resolve_right fun hnames => hnames clauses hparse c hc hblank
  have hc := hholds c hc
  unfold Clause.holds at hc ⊢
  rwa [← hcurrent]

end Store

open Store

/-- **A metric cannot tell what was fetched from what there is,** as long as its key is among those fetched. -/
theorem read_ofFetched (s₁ s₂ : Store) {viewers keys : List String} {viewer : String}
    (hv : viewer ∈ viewers) (hempty : "" ∉ keys) {m : Metric}
    (hm : ∀ key, m = .action key → key ≠ "" → key ∈ keys) :
    (Snapshot.ofFetched (tallies s₁.resultRows viewers) (counts s₂.counterRows viewers keys) viewer).read m
      = (Snapshot.of (s₁.tallyOf viewer) (s₂.countersOf viewer)).read m := by
  cases m with
  | unknown name => rfl
  | race count =>
    have ht := lookup_tallies s₁.resultRows hv
    cases count <;> simp only [Snapshot.read, Snapshot.raceCount, Snapshot.ofFetched, ht] <;> rfl
  | action key =>
    simp only [Snapshot.read, Snapshot.ofFetched, Snapshot.of]
    by_cases hk : key = ""
    · subst hk
      rw [lookup_counts_of_not_mem _ hempty, lookup_countersOf_empty]
    · rw [lookup_counts _ hv (hm key rfl hk), lookup_countersOf _ _ hk]

theorem mem_wantedKeys {key : String} {keys : List String} :
    key ∈ wantedKeys keys ↔ key ∈ keys ∧ key ≠ "" := by
  unfold wantedKeys
  rw [mem_sorted, List.mem_eraseDups, List.mem_filter]
  simp

/-- The keys that clauses read are those of their counters, the empty one excepted. -/
theorem mem_actionKeys {key : String} {clauses : List Clause} {c : Clause} (hc : c ∈ clauses)
    (ht : c.target = .action key) (hk : key ≠ "") : key ∈ actionKeys clauses := by
  unfold actionKeys
  rw [List.mem_eraseDups, List.mem_filterMap]
  refine ⟨c, hc, ?_⟩
  unfold Clause.actionKey?
  rw [ht]
  simp [hk]

theorem Rule.mem_actionKeys {key : String} {rules : List Rule} {rule : Rule} {c : Clause}
    (hrule : rule ∈ rules) (hc : c ∈ rule.clauses) (ht : c.target = .action key) (hk : key ≠ "") :
    key ∈ Rule.actionKeys rules :=
  Laurels.mem_actionKeys (List.mem_flatMap.mpr ⟨rule, hrule, hc⟩) ht hk

/-- As long as the keys of all rules are fetched, a clause of any of them reads what there is. -/
theorem current_ofKeys (s₁ s₂ : Store) {viewers : List String} {viewer : String} (hv : viewer ∈ viewers)
    {rules : List Rule} {keys : List String} (hkeys : ∀ key ∈ Rule.actionKeys rules, key ∈ keys) {rule : Rule}
    (hrule : rule ∈ rules) {c : Clause} (hc : c ∈ rule.clauses) :
    c.current (Snapshot.ofFetched (tallies s₁.resultRows viewers)
        (counts s₂.counterRows viewers (wantedKeys keys)) viewer)
      = c.current (Snapshot.of (s₁.tallyOf viewer) (s₂.countersOf viewer)) := by
  have hempty : "" ∉ wantedKeys keys := fun h => (mem_wantedKeys.mp h).2 rfl
  have hfetched : ∀ key, c.target = .action key → key ≠ "" → key ∈ wantedKeys keys :=
    fun key ht hk => mem_wantedKeys.mpr ⟨hkeys key (Rule.mem_actionKeys hrule hc ht hk), hk⟩
  exact read_ofFetched s₁ s₂ hv hempty hfetched

theorem current_ofFetched (s₁ s₂ : Store) {viewers : List String} {viewer : String}
    (hv : viewer ∈ viewers) {rules : List Rule} {rule : Rule} (hrule : rule ∈ rules) {c : Clause}
    (hc : c ∈ rule.clauses) :
    c.current (Snapshot.ofFetched (tallies s₁.resultRows viewers)
        (counts s₂.counterRows viewers (wantedKeys (Rule.actionKeys rules))) viewer)
      = c.current (Snapshot.of (s₁.tallyOf viewer) (s₂.countersOf viewer)) :=
  current_ofKeys s₁ s₂ hv (fun _ hkey => hkey) hrule hc

/-- **No rule can tell what was fetched from what there is.** -/
theorem satisfied_ofFetched (s₁ s₂ : Store) {viewers : List String} {viewer : String}
    (hv : viewer ∈ viewers) {rules : List Rule} {rule : Rule} (hrule : rule ∈ rules) :
    satisfied rule.clauses (Snapshot.ofFetched (tallies s₁.resultRows viewers)
        (counts s₂.counterRows viewers (wantedKeys (Rule.actionKeys rules))) viewer)
      = satisfied rule.clauses (Snapshot.of (s₁.tallyOf viewer) (s₂.countersOf viewer)) := by
  unfold satisfied
  rw [Bool.eq_iff_iff, List.all_eq_true, List.all_eq_true]
  refine forall₂_congr fun c hc => ?_
  unfold Clause.holds
  rw [current_ofFetched s₁ s₂ hv hrule hc]

end Laurels
