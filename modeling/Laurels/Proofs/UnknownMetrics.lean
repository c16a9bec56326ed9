import Laurels.Proofs.Criteria.Canonical
import Laurels.Proofs.Recording
import Laurels.Proofs.Snapshots

/-!
# Unknown metrics

The author of a rule is told which of its metrics are unknown, because these are zero whatever a viewer does. What is
unknown is found out from the name alone. What is zero is a matter of the tables: of the results, which may be any, and
of the counters, which recordings write (`World.CountersRecorded`) and which are fetched for the keys of the rule.

Both come to the same for all names but one (`unknown_told`). A name that is unknown reads as zero on every snapshot. A
race count does not for a viewer who has won a race and dropped out of another one, and a counter does not once its
action has been recorded, because the key that a rule names can be recorded as it is: it is free of blanks. The one
exception is an action without a key. Nothing can be recorded under an empty key, and no counter is fetched for it, and
still it passes for a known metric.
-/

namespace Laurels

/-- What happens elsewhere leaves the counters alone. -/
def SparesCounters (w u : World) : Prop := u.store.counterRows = w.store.counterRows

/-- The counters of a world are the work of recordings: first there were none, and then actions were recorded, one after
the other or side by side, while all else may have happened that leaves the counters alone. -/
def World.CountersRecorded (v : World) : Prop :=
  ∃ (recordings : List (Value × Value)) (w : World) (es : List (Nat × Event)) (qs : List (Procedure ActionOutcome)),
    w.store.counterRows = []
      ∧ Interleaving SparesCounters (recordings.map fun r => recordAction r.1 r.2) w es qs v

/-- A snapshot that can be taken for some clauses, of a viewer among any others, with the keys that the clauses read. -/
def Snapshot.TakenFor (clauses : List Clause) (snapshot : Snapshot) : Prop :=
  ∃ (w : World) (viewers : Value) (ss : List (String × Snapshot)) (viewer : String), w.CountersRecorded
    ∧ ((snapshotsOf viewers (.list ((actionKeys clauses).map .text))).run w).1 = .ok ss ∧ (viewer, snapshot) ∈ ss

/-- What the metrics that are told to be unknown have in common, and what the others have. -/
structure TellsUnknown (clauses : List Clause) : Prop where
  /-- They are metrics of the clauses, each of them once and in the order in which they come first. -/
  order : (unknownMetrics clauses).Sublist (clauses.map (·.target.canonical)).eraseDups
  /-- A metric that is told is zero on every snapshot. -/
  zero : ∀ c ∈ clauses, c.target.canonical ∈ unknownMetrics clauses → ∀ s, Snapshot.TakenFor clauses s →
    c.current s = .int 0
  /-- Any other is not, as long as it is not an action without a key. -/
  measured : ∀ c ∈ clauses, c.target.canonical ∉ unknownMetrics clauses → c.target ≠ .action "" →
    ∃ s, Snapshot.TakenFor clauses s ∧ c.current s ≠ .int 0
  /-- An action without a key is not told, and is zero on every snapshot. -/
  blank : ∀ c ∈ clauses, c.target = .action "" → c.target.canonical ∉ unknownMetrics clauses
    ∧ ∀ s, Snapshot.TakenFor clauses s → c.current s = .int 0

/-! ## Names -/

theorem eraseDups_filter {α : Type} [BEq α] [LawfulBEq α] (p : α → Bool) :
    ∀ xs : List α, (xs.filter p).eraseDups = xs.eraseDups.filter p
  | [] => rfl
  | x :: xs => by
    have hrest := eraseDups_filter p (xs.filter fun y => !y == x)
    rw [List.filter_filter] at hrest
    rw [List.eraseDups_cons]
    cases hx : p x with
    | true =>
      rw [List.filter_cons_of_pos hx, List.filter_cons_of_pos hx, List.eraseDups_cons, List.filter_filter, ← hrest]
      simp only [Bool.and_comm]
    | false =>
      -- nothing that is left equals `x`, so dropping `x` again changes nothing
      rw [List.filter_cons_of_neg (by simp [hx]), List.filter_cons_of_neg (by simp [hx]), ← hrest]
      refine congrArg List.eraseDups (List.filter_congr fun y _ => ?_)
      by_cases hy : y = x
      · rw [hy, hx, Bool.false_and]
      · simp [hy]
termination_by xs => xs.length
decreasing_by
  have := List.length_filter_le (fun y => !y == x) xs
  rw [List.length_cons]
  omega

namespace Clause

variable {c : Clause}

/-- The canonical name of a clause resolves to what the clause measures. -/
theorem resolve_canonical (h : Criteria.LowerName c.metric.toList) : Metric.resolve c.target.canonical = c.target := by
  unfold target
  rw [Metric.canonical_resolve, Metric.resolve_normalize h]

theorem unknown?_eq (c : Clause) : c.unknown? = if c.target.isKnown then none else some c.target.canonical := by
  unfold unknown?
  cases c.target <;> rfl

end Clause

section

variable {clauses : List Clause} (hnames : ∀ c ∈ clauses, Criteria.LowerName c.metric.toList)

include hnames

/-- What is told are the canonical names that resolve to nothing that is known. -/
theorem unknownMetrics_eq :
    unknownMetrics clauses
      = (clauses.map (·.target.canonical)).eraseDups.filter fun name => !(Metric.resolve name).isKnown := by
  have hnone : clauses.filterMap Clause.unknown?
      = (clauses.map (·.target.canonical)).filter fun name => !(Metric.resolve name).isKnown := by
    induction clauses with
    | nil => rfl
    | cons c clauses ih =>
      rw [List.forall_mem_cons] at hnames
      have hresolve := Clause.resolve_canonical hnames.1
      cases hknown : c.target.isKnown with
      | true =>
        rw [List.filterMap_cons_none (by rw [Clause.unknown?_eq, hknown]; rfl), List.map_cons,
          List.filter_cons_of_neg (by simp [hresolve, hknown]), ih hnames.2]
      | false =>
        rw [List.filterMap_cons_some (by rw [Clause.unknown?_eq, hknown]; rfl), List.map_cons,
          List.filter_cons_of_pos (by simp [hresolve, hknown]), ih hnames.2]
  unfold unknownMetrics
  rw [hnone, eraseDups_filter]

theorem mem_unknownMetrics {c : Clause} (hc : c ∈ clauses) :
    c.target.canonical ∈ unknownMetrics clauses ↔ c.target.isKnown = false := by
  rw [unknownMetrics_eq hnames, List.mem_filter, List.mem_eraseDups, Clause.resolve_canonical (hnames c hc),
    Bool.not_eq_true']
  exact and_iff_right (List.mem_map.mpr ⟨c, hc, rfl⟩)

end

/-- A key that a clause reads can be recorded as it is. -/
theorem Clause.actionKey {c : Clause} (h : Criteria.LowerName c.metric.toList) {key : String}
    (ht : c.target = .action key) (hne : key ≠ "") : Criteria.ActionKey key where
  nonempty := hne
  chars d hd := by
    -- the canonical name is in lower case like any other, and the key is what follows its opening
    have hname : (Metric.normalize c.metric).toList = Metric.actionOpening ++ key.toList := by
      rw [← Metric.canonical_resolve]
      change c.target.canonical.toList = _
      rw [ht, Metric.canonical, String.toList_append, String.toList_ofList]
    have hlower := Metric.lowerName_normalize h
    rw [hname] at hlower
    exact Criteria.isMetricChar_iff.mp (hlower.chars d (List.mem_append_right _ hd)).1

/-! ## Snapshots -/

namespace Snapshot.TakenFor

variable {clauses : List Clause} {snapshot : Snapshot}

/-- A snapshot that is taken holds what the tables say of its viewer. -/
theorem exists_store (h : TakenFor clauses snapshot) : ∃ (s : Store) (viewer : String),
    snapshot = .of (s.tallyOf viewer) (s.countersAt viewer (wantedKeys (actionKeys clauses))) := by
  obtain ⟨w, viewers, ss, viewer, _, hss, hmem⟩ := h
  cases hviewers : Viewer.ids? viewers with
  | none =>
    unfold snapshotsOf at hss
    rw [hviewers] at hss
    cases hss
  | some ids =>
    rw [snapshotsOf_eq hviewers] at hss
    rw [Procedure.snapshots_of_run hss] at hmem
    obtain ⟨_, hv, heq⟩ := List.mem_map.mp hmem
    cases heq
    exact ⟨w.store, viewer, ofFetched_eq w.store hv⟩

/-- No counter is fetched without a key. -/
theorem read_blank (h : TakenFor clauses snapshot) : snapshot.read (.action "") = .int 0 := by
  obtain ⟨s, viewer, rfl⟩ := h.exists_store
  have hlookup : ((s.countersAt viewer (wantedKeys (actionKeys clauses))).map fun c => (c.1, Number.int c.2)).lookup ""
      = none := by
    rw [List.lookup_eq_none_iff]
    intro p hp
    obtain ⟨⟨key, count⟩, hc, rfl⟩ := List.mem_map.mp hp
    have hne := ((s.countersAt_wanted viewer _).mem_iff key count |>.mp hc).1
    simpa using fun heq : "" = key => hne heq.symm
  show reading ((((s.countersAt viewer (wantedKeys (actionKeys clauses))).map fun c => (c.1, Number.int c.2)).lookup
    "").getD 0) = _
  rw [hlookup]
  exact reading_int 0

end Snapshot.TakenFor

/-- The snapshot of one viewer, taken where all tables are there. -/
theorem takenFor_of_recorded (clauses : List Clause) {w : World} (hready : w.store.Ready)
    (hrecorded : w.CountersRecorded) : Snapshot.TakenFor clauses
      (.of (w.store.tallyOf "v") (w.store.countersAt "v" (wantedKeys (actionKeys clauses)))) := by
  have hviewers : Viewer.ids? (.list [.text "v"]) = some ["v"] := by decide +kernel
  have hkeys : (Value.list ((actionKeys clauses).map .text)).elements? = some ((actionKeys clauses).map .text) := rfl
  have htaken := (Procedure.snapshotsOf_answers (Store.refusal?_of_ready hready _) hviewers hkeys
    (Value.texts_only _)).1
  rw [Value.texts_map_text] at htaken
  exact ⟨w, _, _, "v", hrecorded, htaken, List.mem_singleton_self _⟩

/-- A world in which nothing has happened yet. -/
def World.blank : World := ⟨.empty, ⟨1, 0⟩, [], []⟩

/-- A viewer has won a race and dropped out of another one, and no action has been recorded. -/
def World.raced : World :=
  { World.blank with
    store := { Store.empty with results := some [⟨1, "v", some 1, "FINISHED"⟩, ⟨2, "v", none, "DNF"⟩] } }

/-- **Every race count can be other than zero.** -/
theorem exists_read_race (clauses : List Clause) (count : RaceCount) :
    ∃ s, Snapshot.TakenFor clauses s ∧ s.read (.race count) ≠ .int 0 := by
  have hready : World.raced.store.Ready := by decide
  refine ⟨_, takenFor_of_recorded clauses hready ⟨[], World.raced, [], [], rfl, .start _ _⟩, ?_⟩
  rw [read_race]
  cases count <;> decide

/-- **Every counter can be other than zero,** if it is fetched. -/
theorem exists_read_action {clauses : List Clause} {key : String} (hkey : Criteria.ActionKey key)
    (hread : key ∈ actionKeys clauses) : ∃ s, Snapshot.TakenFor clauses s ∧ s.read (.action key) ≠ .int 0 := by
  -- the action is recorded once
  have hready : World.blank.store.Ready := by decide
  have hviewer : Viewer.id (.text "v") = "v" := by decide +kernel
  have hid := hkey.id_text
  obtain ⟨us, u, hu, _, hawarded⟩ := recordAction_run hready (by decide) (by decide)
    (by rw [hviewer]; decide : Viewer.id (.text "v") ≠ "") (by rw [hid]; exact hkey.nonempty)
    (by decide : ¬ Store.countLimit ≤ 0)
  obtain ⟨es, hes⟩ := turn_run SparesCounters (recordAction (.text "v") (.text key)) World.blank
  have hrun := hes [recordAction (.text "v") (.text key)] 0 rfl
  generalize ((recordAction (.text "v") (.text key)).run World.blank).2 = w at hawarded hrun
  rw [hviewer, hid] at hu
  have hlast : w.store.Ready := by
    rw [hawarded.store, hu]
    exact (hready.counted _ _ _).withLedger _
  have hcounter : w.store.counter "v" key = 1 := by
    have hsame : w.store.counter "v" key = (World.blank.store.counted "v" key World.blank.clock.ms).counter "v" key := by
      rw [hawarded.store, hu]
      rfl
    rw [hsame, Store.counter_counted]
    rfl
  refine ⟨_, takenFor_of_recorded clauses hlast
    ⟨[(.text "v", .text key)], World.blank, _, _, rfl, hrun⟩, ?_⟩
  rw [← ofFetched_eq w.store (List.mem_singleton_self "v"), read_ofFetched w.store w.store (List.mem_singleton_self _)
    (fun hblank => (mem_wantedKeys.mp hblank).2 rfl), read_action _ _ _ hkey.nonempty, hcounter]
  · decide
  · rintro _ heq hne
    cases heq
    exact mem_wantedKeys.mpr ⟨hread, hne⟩

/-! ## What is told -/

/--
**An author is told of the metrics that are always zero, but for one.** Among the metrics of an accepted text those are
told, each once and in the order in which they come first, which are zero on every snapshot that can be taken for the
text. An action without a key is zero as well, and is not told.
-/
theorem unknown_told {text : String} {clauses : List Clause} (h : Criteria.parse text = .ok clauses) :
    TellsUnknown clauses := by
  have hnames : ∀ c ∈ clauses, Criteria.LowerName c.metric.toList := by
    intro c hc
    obtain ⟨line, _, haccepted⟩ := Criteria.exists_line h c hc
    exact haccepted.lowerName
  refine ⟨?_, fun c hc htold s _ => ?_, fun c hc hquiet hkey => ?_, fun c hc hblank => ⟨fun htold => ?_, fun s hs => ?_⟩⟩
  · rw [unknownMetrics_eq hnames]
    exact List.filter_sublist
  · have hunknown := (mem_unknownMetrics hnames hc).mp htold
    unfold Clause.current
    cases ht : c.target with
    | unknown name => rfl
    | _ => rw [ht] at hunknown; cases hunknown
  · have hknown := (mem_unknownMetrics hnames hc).not.mp hquiet
    unfold Clause.current
    cases ht : c.target with
    | unknown name => rw [ht] at hknown; exact absurd rfl hknown
    | race count => exact exists_read_race clauses count
    | action key =>
      have hne : key ≠ "" := fun hnone => hkey (by rw [ht, hnone])
      exact exists_read_action (Clause.actionKey (hnames c hc) ht hne) (mem_actionKeys hc ht hne)
  · have hunknown := (mem_unknownMetrics hnames hc).mp htold
    rw [hblank] at hunknown
    cases hunknown
  · unfold Clause.current
    rw [hblank]
    exact hs.read_blank

/-- Two names that are unknown, one of them twice, and two ways to name no action. -/
theorem unknown_told_mixed :
    let clauses : List Clause := [⟨"laps", .atLeast, .int 1⟩, ⟨"action:", .atLeast, .int 1⟩, ⟨"wins", .above, .int 0⟩,
      ⟨"action.spin", .atLeast, .int 2⟩, ⟨"podiums", .below, .int 3⟩, ⟨"laps", .below, .int 2⟩, ⟨"action_", .above, .int 0⟩]
    Criteria.parse "laps>=1; action:>=1; Wins>0; action.Spin>=2; podiums<3; LAPS<2; action_>0" = .ok clauses
      ∧ unknownMetrics clauses = ["laps", "podiums"] ∧ TellsUnknown clauses
      ∧ ∀ s, Snapshot.TakenFor clauses s → Clause.current ⟨"action_", .above, .int 0⟩ s = .int 0 := by
  intro clauses
  have hparse : Criteria.parse "laps>=1; action:>=1; Wins>0; action.Spin>=2; podiums<3; LAPS<2; action_>0" = .ok clauses := by
    decide +kernel
  have htells := unknown_told hparse
  exact ⟨hparse, by decide +kernel, htells, (htells.blank _ (by simp [clauses]) (by decide +kernel)).2⟩

end Laurels
