import Laurels.Proofs.Agreement

/-!
# Fetching only what rules read

A viewer may have counters for any number of actions, and of these an award or a report fetches the ones that
some rule names. Which keys are fetched is found out by resolving the metrics of all clauses beforehand, and what
a clause reads by resolving its metric on the snapshot later. The two agree, and fetching the counters of the
rules loses nothing: each clause reads what it would read if all counters of the viewer were there
(`SameReadings`), and so it does if more keys are asked for than the rules name.

`restriction_lossless` is the main statement. It asks that no counter in the tables be without a key; such a
counter is fetched under no circumstances.
-/

namespace Laurels

namespace Store

/-- Every counter has a key. -/
def Keyed (s : Store) : Prop := ∀ row ∈ s.counterRows, row.key ≠ ""

instance (s : Store) : Decidable s.Keyed := inferInstanceAs (Decidable (∀ row ∈ s.counterRows, row.key ≠ ""))

/-- Where every counter has a key, what the tables say of a viewer is all that they hold. -/
theorem fullSnapshot_eq {s : Store} (h : s.Keyed) (viewer : String) : s.fullSnapshot viewer = s.snapshot viewer := by
  have hall : (s.counterRows.filter fun r => r.viewer == viewer).filter (fun r => !r.key.isEmpty)
      = s.counterRows.filter fun r => r.viewer == viewer := by
    refine List.filter_eq_self.mpr fun row hrow => ?_
    simpa using h row (List.mem_filter.mp hrow).1
  unfold fullSnapshot snapshot countersOf
  rw [hall]

end Store

/-- Rules cannot tell two snapshots apart. -/
structure SameReadings (rules : List Rule) (s s' : Snapshot) : Prop where
  current : ∀ rule ∈ rules, ∀ c ∈ rule.clauses, c.current s = c.current s'
  holds : ∀ rule ∈ rules, ∀ c ∈ rule.clauses, c.holds s = c.holds s'
  satisfied : ∀ rule ∈ rules, satisfied rule.clauses s = satisfied rule.clauses s'
  requirement : ∀ rule ∈ rules, ∀ c ∈ rule.clauses, Requirement.of s c = Requirement.of s' c
  entry : ∀ rule ∈ rules, ∀ time, Entry.of s time rule = Entry.of s' time rule

/-- All that is said of a rule rests on what its clauses read. -/
theorem SameReadings.of_current {rules : List Rule} {s s' : Snapshot}
    (h : ∀ rule ∈ rules, ∀ c ∈ rule.clauses, c.current s = c.current s') : SameReadings rules s s' := by
  have hholds : ∀ rule ∈ rules, ∀ c ∈ rule.clauses, c.holds s = c.holds s' := by
    intro rule hrule c hc
    unfold Clause.holds
    rw [h rule hrule c hc]
  refine ⟨h, hholds, fun rule hrule => ?_, fun rule hrule c hc => requirement_congr (h rule hrule c hc),
    fun rule hrule => entry_congr (h rule hrule)⟩
  unfold Laurels.satisfied
  rw [Bool.eq_iff_iff, List.all_eq_true, List.all_eq_true]
  exact forall₂_congr fun c hc => by rw [hholds rule hrule c hc]

/-! ## Keys as they are asked for -/

section Distinct

variable {α β : Type}

theorem eraseDupsBy_map (r : β → β → Bool) (f : α → β) (xs : List α) :
    (xs.map f).eraseDupsBy r = (xs.eraseDupsBy fun a b => r (f a) (f b)).map f := by
  -- what has been kept so far is the second argument of the loop
  have hloop : ∀ kept : List α, List.eraseDupsBy.loop r (xs.map f) (kept.map f)
      = (List.eraseDupsBy.loop (fun a b => r (f a) (f b)) xs kept).map f := by
    induction xs with
    | nil =>
      intro kept
      exact (List.map_reverse).symm
    | cons x xs ih =>
      intro kept
      rw [List.map_cons, List.eraseDupsBy.loop, List.eraseDupsBy.loop, List.any_map]
      cases hany : kept.any (r (f x) ∘ f) with
      | true =>
        have hany' : kept.any (fun b => r (f x) (f b)) = true := hany
        rw [hany']
        exact ih kept
      | false =>
        have hany' : kept.any (fun b => r (f x) (f b)) = false := hany
        rw [hany']
        exact ih (x :: kept)
  exact hloop []

theorem eraseDups_eq_self {xs : List String} (h : xs.Nodup) : xs.eraseDups = xs := by
  induction xs with
  | nil => rfl
  | cons x xs ih =>
    rw [List.nodup_cons] at h
    have hrest : xs.filter (fun y => !y == x) = xs := by
      refine List.filter_eq_self.mpr fun y hy => ?_
      have hne : y ≠ x := fun heq => h.1 (heq ▸ hy)
      simpa using hne
    rw [List.eraseDups_cons, hrest, ih h.2]

end Distinct

/-- Keys that are worth asking for are worth asking for again. -/
theorem wantedKeys_wanted (keys : List String) :
    wantedKeys (keys.filter fun k => !k.isEmpty).eraseDups = wantedKeys keys := by
  have hfull : (keys.filter fun k => !k.isEmpty).eraseDups.filter (fun k => !k.isEmpty)
      = (keys.filter fun k => !k.isEmpty).eraseDups := by
    refine List.filter_eq_self.mpr fun key hkey => ?_
    exact (List.mem_filter.mp (List.mem_eraseDups.mp hkey)).2
  unfold wantedKeys
  rw [hfull, eraseDups_eq_self (Viewer.nodup_eraseDups _)]

theorem mapM_text? (texts : List String) : (texts.map Value.text).mapM Value.text? = some texts := by
  induction texts with
  | nil => rfl
  | cons text texts ih =>
    rw [List.map_cons, List.mapM_cons, ih]
    rfl

/-- A list of texts names the keys that are worth asking for, and empty entries of any kind do not count. -/
theorem Value.keysIn_texts {items : List Value} (h : ∀ k ∈ items, k.isEmpty = false → ∃ key, k = .text key) :
    keysIn items = .ok ((wantedKeys (texts items)).map .text) := by
  have hnamed : items.filter (fun k => !k.isEmpty) = ((texts items).filter fun k => !k.isEmpty).map .text := by
    induction items with
    | nil => rfl
    | cons k items ih =>
      have ih := ih fun k hk => h k (List.mem_cons_of_mem _ hk)
      cases hk : k.isEmpty with
      | true =>
        rw [List.filter_cons_of_neg (by simp [hk]), ih]
        cases k with
        | text key =>
          have hkey : key.isEmpty = true := hk
          simp [texts, text?, hkey]
        | _ => rfl
      | false =>
        obtain ⟨key, rfl⟩ := h k List.mem_cons_self hk
        have hkey : key.isEmpty = false := hk
        rw [List.filter_cons_of_pos (by simp [hk]), ih]
        simp [texts, text?, hkey]
  have hsimple : (((texts items).filter fun k => !k.isEmpty).map Value.text).any isCompound = false := by
    rw [List.any_map]
    exact List.any_eq_false.mpr fun _ _ => Bool.false_ne_true
  have hdistinct : (((texts items).filter fun k => !k.isEmpty).map Value.text).eraseDupsBy sameKey
      = ((texts items).filter fun k => !k.isEmpty).eraseDups.map .text := eraseDupsBy_map _ _ _
  unfold keysIn
  simp only [hnamed, hsimple, hdistinct, mapM_text?, wantedKeys_wanted]
  rfl

theorem Value.texts_only (keys : List String) :
    ∀ k ∈ keys.map Value.text, k.isEmpty = false → ∃ key, k = .text key := by
  intro k hk _
  obtain ⟨key, _, rfl⟩ := List.mem_map.mp hk
  exact ⟨key, rfl⟩

theorem Value.keys_texts (keys : List String) :
    (Value.list (keys.map .text)).keys = .ok ((wantedKeys keys).map .text) := by
  show keysIn (keys.map .text) = _
  rw [keysIn_texts (texts_only keys), texts_map_text]

/-! ## Snapshots that are taken -/

namespace Procedure

variable {α β : Type}

/-- A sequence that is answered was answered in both of its parts. -/
theorem answered_of_run_seq {p : Procedure α} {f : α → Procedure β} {w : World} {b : β}
    (h : ((p >>= f).run w).1 = .ok b) :
    ∃ a, (p.run w).1 = .ok a ∧ ((f a).run (p.run w).2).1 = .ok b := by
  change ((p.bind f).run w).1 = .ok b at h
  rw [run_bind] at h
  generalize p.run w = r at h ⊢
  obtain ⟨r, v⟩ := r
  cases r with
  | error fault => cases h
  | ok a => exact ⟨a, rfl, h⟩

/-- A query that is answered was served. -/
theorem served_of_run_ask {q : Query} {w : World} {reply : q.Reply} (h : ((ask q).run w).1 = .ok reply) :
    w.store.serve q = .ok (reply, (w.store.answer q).2) := by
  refine Store.serve_of_answer_eq_ok ?_
  unfold ask run World.ask at h
  cases hr : (w.store.answer q).1 with
  | error fault =>
    rw [hr] at h
    cases h
  | ok reply' =>
    rw [hr] at h
    cases h
    rfl

/-- Tallies that are fetched are those of the tables. -/
theorem tallies_of_run {w : World} {viewers : List String} (hv : viewers ≠ []) {ts : List (String × Tally)}
    (h : ((fetchTallies (viewers.map .text)).run w).1 = .ok ts) : ts = Store.tallies w.store.resultRows viewers := by
  unfold fetchTallies at h
  rw [if_neg (by simpa using hv)] at h
  have hserved : Store.tallies w.store.resultRows (Value.texts (viewers.map .text)) = ts :=
    congrArg Prod.fst (Except.ok.inj (served_of_run_ask h))
  rw [← hserved, Value.texts_map_text]

/-- Counters that are fetched are those of the tables, and without keys there are none. -/
theorem counts_of_run {w : World} {viewers keys : List String} (hv : viewers ≠ [])
    {cs : List (String × String × Int)}
    (h : ((fetchCounts (viewers.map .text) (keys.map .text)).run w).1 = .ok cs) :
    cs = Store.counts w.store.counterRows viewers keys := by
  unfold fetchCounts at h
  by_cases hk : keys = []
  · subst hk
    rw [if_pos (by simp)] at h
    cases h
    unfold Store.counts
    rw [List.filter_eq_nil_iff.mpr (by simp)]
    rfl
  · rw [if_neg (by simp [hv, hk])] at h
    have hserved : Store.counts w.store.counterRows (Value.texts (viewers.map .text))
        (Value.texts (keys.map .text)) = cs := congrArg Prod.fst (Except.ok.inj (served_of_run_ask h))
    rw [← hserved, Value.texts_map_text, Value.texts_map_text]

/-- **Snapshots that are taken are those of the tables,** whether or not all tables are there. -/
theorem snapshots_of_run {w : World} {viewers keys : List String} {ss : List (String × Snapshot)}
    (h : ((takeSnapshots viewers (keys.map .text)).run w).1 = .ok ss) :
    ss = viewers.map fun v => (v, .ofFetched (Store.tallies w.store.resultRows viewers)
      (Store.counts w.store.counterRows viewers keys) v) := by
  unfold takeSnapshots at h
  by_cases hv : viewers = []
  · subst hv
    cases h
    rfl
  · rw [if_neg (by simpa using hv)] at h
    obtain ⟨ts, hts, h⟩ := answered_of_run_seq h
    obtain ⟨cs, hcs, h⟩ := answered_of_run_seq h
    -- reading the tallies has left the counters as they were
    have hstore := (fetchTallies_asks (viewers.map .text)).run_store w
    cases h
    rw [tallies_of_run hv hts, counts_of_run hv hcs, hstore]

end Procedure

open Procedure

/-- Snapshots for viewers and keys that are texts. -/
theorem snapshotsOf_eq {viewers : Value} {ids : List String} (hviewers : Viewer.ids? viewers = some ids)
    (keys : List String) :
    snapshotsOf viewers (.list (keys.map .text)) = takeSnapshots ids ((wantedKeys keys).map .text) := by
  unfold snapshotsOf
  rw [hviewers]
  cases ids with
  | nil => rfl
  | cons id ids =>
    simp only [Value.keys_texts]

/-- Snapshots are taken if all tables are there. -/
theorem snapshotsOf_answered {w : World} (hready : w.store.Ready) {viewers : Value} {ids : List String}
    (hviewers : Viewer.ids? viewers = some ids) (keys : List String) :
    ∃ ss, ((snapshotsOf viewers (.list (keys.map .text))).run w).1 = .ok ss := by
  rw [snapshotsOf_eq hviewers]
  by_cases hids : ids = []
  · subst hids
    exact ⟨[], rfl⟩
  · obtain ⟨_, ss, hanswers, _⟩ :=
      (takeSnapshots_ensures (steady_eq hready) hids (wantedKeys keys)).answers (takeSnapshots_asks _ _) rfl
    exact ⟨ss, hanswers.1⟩

/-- **Rules cannot tell the snapshot of a viewer from one with all counters,** if the keys that they read are
among those that are asked for. -/
theorem sameReadings_ofFetched {s : Store} (hkeyed : s.Keyed) {viewers keys : List String} {viewer : String}
    (hv : viewer ∈ viewers) {rules : List Rule} (hkeys : ∀ key ∈ Rule.actionKeys rules, key ∈ keys) :
    SameReadings rules (.ofFetched (Store.tallies s.resultRows viewers)
      (Store.counts s.counterRows viewers (wantedKeys keys)) viewer) (s.fullSnapshot viewer) := by
  rw [Store.fullSnapshot_eq hkeyed]
  exact .of_current fun rule hrule c hc => current_ofKeys s s hv hkeys hrule hc

/-- The requirements in a report are those that all counters would show. -/
theorem requirements_of_report {w : World} (hkeyed : w.store.Keyed) (hready : w.store.Ready) {viewer : Value}
    (hviewer : Viewer.id viewer ≠ "") {r : Report} (hr : ((report viewer).run w).1 = .ok r) :
    r.entries.map (fun e => (e.achievement, e.requirements.map Except.ok))
      = w.store.rules.map fun rule => (rule.achievement,
          rule.clauses.map (Requirement.of (w.store.fullSnapshot (Viewer.id viewer)))) := by
  obtain ⟨hread, hentries⟩ := readable_of_report hready hviewer hr
  obtain ⟨r', ⟨hr', _⟩, hreported⟩ := report_run hready hread hviewer hentries
  rw [hr] at hr'
  cases hr'
  rw [Store.fullSnapshot_eq hkeyed]
  exact hreported.map_entries

/--
**Fetching only what rules read loses nothing.** No counter is without a key. Snapshots of some viewers are taken
with the keys that some rules read, or with more. They are taken if all tables are there; and whenever they are,
each viewer has one, and the rules cannot tell it from a snapshot with all counters of the viewer. So a report on
a viewer shows for every rule on offer the requirements that all counters would show.
-/
theorem restriction_lossless {w : World} (hkeyed : w.store.Keyed) {viewers : Value} {ids : List String}
    (hviewers : Viewer.ids? viewers = some ids) {rules : List Rule} {keys : List String}
    (hkeys : ∀ key ∈ Rule.actionKeys rules, key ∈ keys) :
    (w.store.Ready → ∃ ss, ((snapshotsOf viewers (.list (keys.map .text))).run w).1 = .ok ss)
      ∧ (∀ ss, ((snapshotsOf viewers (.list (keys.map .text))).run w).1 = .ok ss → ss.map Prod.fst = ids
        ∧ ∀ v ∈ ids, ∃ snapshot, ss.lookup v = some snapshot ∧ SameReadings rules snapshot (w.store.fullSnapshot v))
      ∧ ∀ viewer, Viewer.id viewer ≠ "" → w.store.Ready → ∀ r, ((report viewer).run w).1 = .ok r →
        r.entries.map (fun e => (e.achievement, e.requirements.map Except.ok))
          = w.store.rules.map fun rule => (rule.achievement,
              rule.clauses.map (Requirement.of (w.store.fullSnapshot (Viewer.id viewer)))) := by
  refine ⟨fun hready => snapshotsOf_answered hready hviewers keys, fun ss hss => ?_,
    fun viewer hviewer hready r hr => requirements_of_report hkeyed hready hviewer hr⟩
  rw [snapshotsOf_eq hviewers] at hss
  obtain rfl := snapshots_of_run hss
  refine ⟨?_, fun v hv => ⟨_, lookup_map_mem _ hv, sameReadings_ofFetched hkeyed hv hkeys⟩⟩
  rw [List.map_map]
  exact List.map_id ids

/-- Rules that name four counters, each in its own way, and a viewer with more counters than that. -/
def spelledWorld : World where
  store :=
    { results := some [⟨1, "v1", some 1, "FINISHED"⟩]
      catalogue := some [⟨1, "Spinner", none, false, "action:Spin>=2; wins>=1"⟩,
        ⟨2, "Visitor", none, false, "action.visit>=1\naction_like>0"⟩,
        ⟨3, "Setter", none, false, "DefaultVehicleSets>=1; action:>=0; laps>=0"⟩]
      unlocks := some []
      actions := some [⟨"v1", "spin", 3, some 5, some 6⟩, ⟨"v2", "like", 2, some 5, some 5⟩,
        ⟨"v1", "unread", 9, some 5, some 5⟩, ⟨"v1", "Spin", 7, some 5, some 5⟩,
        ⟨"v1", "default_vehicle_set", 1, some 7, some 7⟩]
      failing := [] }
  clock := ⟨100, 1⟩
  queries := []
  log := []

/-- The keys of the rules are asked for, and one more. The counters that no rule reads are not in the snapshot. -/
theorem restriction_lossless_spelled :
    spelledWorld.store.Keyed ∧ spelledWorld.store.Ready
      ∧ Viewer.ids? (.list [.text "v1 ", .text "v2"]) = some ["v1", "v2"]
      ∧ Rule.actionKeys spelledWorld.store.rules = ["spin", "visit", "like", "default_vehicle_set"]
      ∧ ∃ ss, ((snapshotsOf (.list [.text "v1 ", .text "v2"])
          (.list (["like", "", "spin", "other", "default_vehicle_set", "visit"].map .text))).run spelledWorld).1 = .ok ss
        ∧ (ss.lookup "v1").map (·.actions) = some [("spin", .int 3), ("default_vehicle_set", .int 1)]
        ∧ ∀ v ∈ ["v1", "v2"], ∃ snapshot, ss.lookup v = some snapshot
          ∧ SameReadings spelledWorld.store.rules snapshot (spelledWorld.store.fullSnapshot v) := by
  have hkeyed : spelledWorld.store.Keyed := by decide
  have hready : spelledWorld.store.Ready := by decide
  have hviewers : Viewer.ids? (.list [.text "v1 ", .text "v2"]) = some ["v1", "v2"] := by decide +kernel
  have hread : Rule.actionKeys spelledWorld.store.rules = ["spin", "visit", "like", "default_vehicle_set"] := by
    decide +kernel
  have hkeys : ∀ key ∈ Rule.actionKeys spelledWorld.store.rules,
      key ∈ ["like", "", "spin", "other", "default_vehicle_set", "visit"] := by
    rw [hread]
    decide
  obtain ⟨hanswered, htaken, _⟩ := restriction_lossless hkeyed hviewers hkeys
  obtain ⟨ss, hss⟩ := hanswered hready
  refine ⟨hkeyed, hready, hviewers, hread, ss, hss, ?_, (htaken ss hss).2⟩
  have hrun : (((snapshotsOf (.list [.text "v1 ", .text "v2"]) (.list (["like", "", "spin", "other",
      "default_vehicle_set", "visit"].map .text))).run spelledWorld).1.toOption.bind fun ss =>
        (ss.lookup "v1").map (·.actions)) = some [("spin", .int 3), ("default_vehicle_set", .int 1)] := by
    decide +kernel
  rw [hss] at hrun
  exact hrun

end Laurels
