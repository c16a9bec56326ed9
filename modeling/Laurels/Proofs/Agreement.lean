import Laurels.Proofs.AwardRun
import Laurels.Proofs.Unanswered

/-!
# Reports and awards agree

What a viewer has deserved and not yet got is decided twice. A report goes through the requirements of each rule
and looks up the time of its unlock, which is shown as zero if there is none; an award checks the clauses and
reads the pairs that are unlocked. As long as the times in the ledger are positive both come to the same:
`Reported.mem_due` says that a report shows as due what the tables say is deserved and not held, and that is
what an award adds.

So a report announces what an award right after it will do, in the same order, and a report after that shows
it done (`report_award_agree`).
-/

namespace Laurels

/-- An achievement is due if the viewer is eligible for it and it is not shown as unlocked. -/
def Entry.isDue (e : Entry) : Bool := e.eligible && e.unlockedAt == 0

/-- The unlocks that a report announces, if they are made at a given time. -/
def Report.due (r : Report) (time : Int) : List Unlock :=
  (r.entries.filter Entry.isDue).map fun e => ⟨r.viewer, e.achievement.id, e.achievement.name, time⟩

/-- How a report, the unlocks that an award makes after it, and another report after those agree. -/
structure Agreed (r : Report) (us : List Unlock) (time : Int) (r' : Report) : Prop where
  /-- What is shown as due is what is awarded, in the same order. -/
  awarded : us = r.due time
  metrics : r'.metrics = r.metrics
  /-- The entries are about the same achievements, and have the same requirements. -/
  requirements : r'.entries.map (fun e => (e.achievement, e.requirements))
    = r.entries.map fun e => (e.achievement, e.requirements)
  /-- What the viewer is eligible for is unlocked afterwards. -/
  unlocked : 0 < time → ∀ e ∈ r'.entries, e.eligible = true → 0 < e.unlockedAt

/-- The world after a report on a viewer. -/
def World.reported (w : World) (viewer : Value) : World := ((report viewer).run w).2

/-- A report changes nothing in the tables. -/
theorem World.store_reported (w : World) (viewer : Value) : (w.reported viewer).store = w.store := by
  unfold World.reported
  exact (Procedure.report_asks viewer).run_store w

/-- The world after an award for one viewer. -/
def World.awarded (w : World) (viewer source sourceRef : Value) : World :=
  ((award (.list [viewer]) source sourceRef).run w).2

theorem Viewer.ids?_singleton {viewer : Value} (h : id viewer ≠ "") : ids? (.list [viewer]) = some [id viewer] := by
  have hfull : viewer.isEmpty = false := by
    refine Bool.eq_false_iff.mpr fun hempty => h ?_
    unfold id Value.asText
    rw [if_pos hempty]
    decide
  have htext : entryText viewer = viewer.asText := by
    unfold Value.asText
    rw [hfull]
    cases viewer with
    | null => cases hfull
    | _ => rfl
  show some (distinct [entryText viewer]) = _
  unfold distinct
  rw [htext]
  have hid : (!(Text.trimmed viewer.asText).isEmpty) = true := by
    rw [Bool.not_eq_true', Bool.eq_false_iff]
    exact fun hempty => h (String.isEmpty_iff.mp hempty)
  rw [List.map_singleton, List.filter_cons_of_pos (p := fun s : String => !s.isEmpty) hid]
  rfl

/-- A text that an id is trimmed to names that viewer alone. -/
theorem Viewer.ids?_text {texts : List String} {viewer : String} (h : viewer ∈ distinct texts) :
    ids? (.list [.text viewer]) = some [viewer] := by
  obtain ⟨hne, text, _, rfl⟩ := mem_distinct.mp h
  have hid : id (.text (Text.trimmed text)) = Text.trimmed text := by
    unfold id
    rw [Value.asText_text, Text.trimmed_trimmed]
  rw [ids?_singleton (by rw [hid]; exact hne), hid]

namespace Store

variable {s : Store} {viewer : String}

theorem holds_iff_unlockTime_pos (htimes : ∀ row ∈ s.ledger, 0 < row.time) {achievement : Int} :
    s.Holds viewer achievement ↔ 0 < unlockTime (times s.ledger viewer) achievement := by
  rw [unlockTime_pos_iff]
  exact exists_congr fun row =>
    and_congr_right fun hrow => and_congr_right fun _ => (and_iff_left (htimes row hrow)).symm

end Store

/-! ## What a report shows as due -/

namespace Reported

variable {s : Store} {viewer : String} {r : Report}

theorem exists_entry (h : Reported s viewer r) {rule : Rule} (hrule : rule ∈ s.rules) :
    ∃ e ∈ r.entries, s.entry viewer rule = .ok e := by
  have hmem : s.entry viewer rule ∈ s.rules.map (s.entry viewer) := List.mem_map_of_mem hrule
  rw [h.entries] at hmem
  obtain ⟨e, he, heq⟩ := List.mem_map.mp hmem
  exact ⟨e, he, heq.symm⟩

/-- What a report says of the rules, one after the other. -/
theorem map_entries (h : Reported s viewer r) :
    r.entries.map (fun e => (e.achievement, e.requirements.map Except.ok))
      = s.rules.map fun rule => (rule.achievement, rule.clauses.map (Requirement.of (s.snapshot viewer))) :=
  map_eq_of_map_eq_ok (fun _ _ he => by
    rw [(tells_of_entry he).achievement, (tells_of_entry he).requirements]) h.entries

/-- Entries are in the order of the ids. -/
theorem pairwise_entries (h : Reported s viewer r) (hid : s.Identified) :
    r.entries.Pairwise fun e e' => e.achievement.id < e'.achievement.id := by
  have hrules : (s.rules.map (·.achievement)).Pairwise fun a b => a.id < b.id :=
    List.pairwise_map.mpr (Store.pairwise_rules hid)
  rwa [← h.map_achievements, List.pairwise_map] at hrules

/-- **A report shows as due what is deserved and not held.** -/
theorem mem_due (h : Reported s viewer r) (htimes : ∀ row ∈ s.ledger, 0 < row.time) {time : Int} {u : Unlock} :
    u ∈ r.due time ↔ ∃ a, s.Deserves viewer a ∧ ¬ s.Holds viewer a.id ∧ u = ⟨viewer, a.id, a.name, time⟩ := by
  unfold Report.due
  rw [List.mem_map]
  constructor
  · rintro ⟨e, he, rfl⟩
    obtain ⟨he, hdue⟩ := List.mem_filter.mp he
    obtain ⟨rule, hrule, hentry⟩ := h.mem_entries.mp he
    have htells := tells_of_entry hentry
    unfold Entry.isDue at hdue
    rw [Bool.and_eq_true, beq_iff_eq, htells.eligible, htells.unlockedAt] at hdue
    refine ⟨rule.achievement, Store.deserves_iff.mpr ⟨rule, hrule, rfl, hdue.1⟩, ?_, ?_⟩
    · rw [Store.holds_iff_unlockTime_pos htimes, hdue.2]
      exact Int.lt_irrefl 0
    · rw [h.about, htells.achievement]
  · rintro ⟨a, hdeserves, hnew, rfl⟩
    obtain ⟨rule, hrule, rfl, hsat⟩ := Store.deserves_iff.mp hdeserves
    obtain ⟨e, he, hentry⟩ := h.exists_entry hrule
    have htells := tells_of_entry hentry
    refine ⟨e, List.mem_filter.mpr ⟨he, ?_⟩, by rw [h.about, htells.achievement]⟩
    rw [Store.holds_iff_unlockTime_pos htimes] at hnew
    have hzero := unlockTime_nonneg s.ledger viewer rule.achievement.id
    unfold Entry.isDue
    rw [Bool.and_eq_true, beq_iff_eq, htells.eligible, htells.unlockedAt]
    exact ⟨hsat, by omega⟩

theorem pairwise_due (h : Reported s viewer r) (hid : s.Identified) (time : Int) :
    (r.due time).Pairwise (Unlock.Before [viewer]) := by
  unfold Report.due
  rw [List.pairwise_map]
  exact ((h.pairwise_entries hid).filter _).imp fun hlt => Or.inr ⟨rfl, hlt⟩

end Reported

/-! ## The award and the report after it -/

/-- With another time of unlocking, which is no less positive, a rule still has an entry. -/
theorem entry_of_entry {s : Snapshot} {time time' : Int} {rule : Rule} {e : Entry}
    (h : Entry.of s time rule = .ok e) (htime : 0 < time → 0 < time') : ∃ e', Entry.of s time' rule = .ok e' := by
  cases hr : rule.clauses.mapM (Requirement.of s) with
  | error fault =>
    unfold Entry.of at h
    rw [hr] at h
    cases h
  | ok requirements =>
    rw [entry_eq hr] at h ⊢
    by_cases hfull : 0 < time' ∨ requirements.all (·.satisfied) = true
    · rw [if_pos hfull]
      exact ⟨_, rfl⟩
    · -- the mean was needed before as well
      rw [if_neg fun hbefore => hfull (hbefore.imp_left htime)] at h
      rw [if_neg hfull]
      cases hmean : mean (requirements.map (·.closeness)) with
      | error fault =>
        rw [hmean] at h
        cases h
      | ok overall => exact ⟨_, rfl⟩

namespace Awarded

variable {viewer source sourceRef : String} {w w' : World} {us : List Unlock} {r r' : Report}

theorem rules_eq (h : Awarded [viewer] source sourceRef w us w') : w'.store.rules = w.store.rules := by
  rw [h.store]
  rfl

theorem snapshot_eq (h : Awarded [viewer] source sourceRef w us w') :
    w'.store.snapshot viewer = w.store.snapshot viewer := by
  rw [h.store]
  rfl

/-- **What is shown as due is awarded.** -/
theorem eq_due (h : Awarded [viewer] source sourceRef w us w') (hr : Reported w.store viewer r)
    (hid : w.store.Identified) (htimes : ∀ row ∈ w.store.ledger, 0 < row.time) : us = r.due w.clock.ms := by
  refine Unlock.Before.eq_of_mem_iff h.order (hr.pairwise_due hid _) fun u => ?_
  rw [h.mem_iff, hr.mem_due htimes]
  simp only [List.mem_singleton, exists_eq_left]

/-- Rules keep their entries. -/
theorem exists_entry (h : Awarded [viewer] source sourceRef w us w') (hr : Reported w.store viewer r) :
    ∀ rule ∈ w'.store.rules, ∃ e, w'.store.entry viewer rule = .ok e := by
  intro rule hrule
  rw [h.rules_eq] at hrule
  obtain ⟨e, _, he⟩ := hr.exists_entry hrule
  unfold Store.entry at he ⊢
  rw [h.snapshot_eq]
  refine entry_of_entry he fun hpos => ?_
  obtain ⟨row, hrow, hmatch⟩ := unlockTime_pos_iff.mp hpos
  rw [h.ledger_eq]
  exact unlockTime_pos_iff.mpr ⟨row, List.mem_append_left _ hrow, hmatch⟩

/-- **What a viewer is eligible for is unlocked afterwards.** -/
theorem unlocked (h : Awarded [viewer] source sourceRef w us w') (hr : Reported w'.store viewer r')
    (htimes : ∀ row ∈ w.store.ledger, 0 < row.time) (hclock : 0 < w.clock.ms) {e : Entry} (he : e ∈ r'.entries)
    (heligible : e.eligible = true) : 0 < e.unlockedAt := by
  obtain ⟨rule, hrule, hentry⟩ := hr.mem_entries.mp he
  have htells := tells_of_entry hentry
  rw [htells.eligible, h.snapshot_eq] at heligible
  rw [h.rules_eq] at hrule
  rw [htells.unlockedAt, unlockTime_pos_iff, h.ledger_eq]
  -- either it was unlocked before the award, or the award has unlocked it
  by_cases hheld : w.store.Holds viewer rule.achievement.id
  · obtain ⟨row, hrow, hv, ha⟩ := hheld
    exact ⟨row, List.mem_append_left _ hrow, hv, ha, htimes row hrow⟩
  · have hu : (⟨viewer, rule.achievement.id, rule.achievement.name, w.clock.ms⟩ : Unlock) ∈ us :=
      (h.mem_iff _).mpr ⟨viewer, List.mem_singleton_self viewer, rule.achievement,
        Store.deserves_iff.mpr ⟨rule, hrule, rfl, heligible⟩, hheld, rfl⟩
    exact ⟨_, List.mem_append_right _ (List.mem_map_of_mem hu), rfl, rfl, hclock⟩

theorem agreed (h : Awarded [viewer] source sourceRef w us w') (hr : Reported w.store viewer r)
    (hr' : Reported w'.store viewer r') (hid : w.store.Identified)
    (htimes : ∀ row ∈ w.store.ledger, 0 < row.time) : Agreed r us w.clock.ms r' where
  awarded := h.eq_due hr hid htimes
  metrics := by
    rw [hr.metrics, hr'.metrics, h.store]
    rfl
  requirements := by
    have hmap := hr'.map_entries
    rw [h.rules_eq, h.snapshot_eq, ← hr.map_entries] at hmap
    -- requirements that are the same as results are the same
    have hinj : Function.Injective fun x : Achievement × List Requirement =>
        (x.1, x.2.map (Except.ok (ε := NumberFault))) := by
      intro x x' heq
      obtain ⟨ha, hrs⟩ := Prod.mk.inj heq
      exact Prod.ext ha (List.map_injective_iff.mpr (fun _ _ => Except.ok.inj) hrs)
    refine List.map_injective_iff.mpr hinj ?_
    rw [List.map_map, List.map_map]
    exact hmap
  unlocked := fun hclock _ he => h.unlocked hr' htimes hclock he

end Awarded

theorem World.exists_awarded {w : World} (hready : w.store.Ready) (hread : w.store.Readable)
    (hid : w.store.Identified) {viewer : Value} (hviewer : Viewer.id viewer ≠ "") (source sourceRef : Value) :
    ∃ us, ((award (.list [viewer]) source sourceRef).run w).1 = .ok us
      ∧ Awarded [Viewer.id viewer] source.asText sourceRef.asText w us (w.awarded viewer source sourceRef) := by
  unfold World.awarded
  rw [award_eq (Viewer.ids?_singleton hviewer)]
  exact awardIds_run hready hread hid (List.nodup_singleton _) _ _

/--
**Reports and awards agree.** All tables are there, ids are distinct, all times in the ledger are positive, and
every text among the criteria on offer is accepted or rejected. Then an award for a viewer right after a report
on that viewer is answered, and it reports what the report has shown as due. If the report was answered, which it
is as long as the counts fit into 64 bits, so is one after the award; it shows the same metrics and
requirements, and nothing that the viewer is eligible for is left to be unlocked.
-/
theorem report_award_agree {w : World} (hready : w.store.Ready) (hread : w.store.Readable)
    (hid : w.store.Identified) (htimes : ∀ row ∈ w.store.ledger, 0 < row.time) {viewer : Value}
    (hviewer : Viewer.id viewer ≠ "") (source sourceRef : Value) :
    (w.store.Fits → ∃ r, ((report viewer).run w).1 = .ok r)
      ∧ ∃ us, ((award (.list [viewer]) source sourceRef).run (w.reported viewer)).1 = .ok us
        ∧ ∀ r, ((report viewer).run w).1 = .ok r →
          ∃ r', ((report viewer).run ((w.reported viewer).awarded viewer source sourceRef)).1 = .ok r'
            ∧ Agreed r us (w.reported viewer).clock.ms r' := by
  constructor
  · intro hfits
    obtain ⟨r, ⟨hr, _⟩, _⟩ := report_run hready hread hviewer (hfits.measured viewer hviewer)
    exact ⟨r, hr⟩
  · -- the award begins with the tables that the report has read
    have hstore := w.store_reported viewer
    have hready₁ : (w.reported viewer).store.Ready := by rwa [hstore]
    have hread₁ : (w.reported viewer).store.Readable := by rwa [hstore]
    have hid₁ : (w.reported viewer).store.Identified := by rwa [hstore]
    obtain ⟨us, hus, hawarded⟩ := World.exists_awarded hready₁ hread₁ hid₁ hviewer source sourceRef
    refine ⟨us, hus, fun r hr => ?_⟩
    obtain ⟨r₀, ⟨hr₀, _⟩, hreported⟩ := report_run hready hread hviewer (readable_of_report hready hviewer hr).2
    rw [hr] at hr₀
    cases hr₀
    rw [← hstore] at hreported htimes
    obtain ⟨r', ⟨hr', _⟩, hreported'⟩ := report_run (hawarded.ready hready₁) (hawarded.readable hread₁) hviewer
      (hawarded.exists_entry hreported)
    exact ⟨r', hr', hawarded.agreed hreported hreported' hid₁ htimes⟩

/-- A viewer who has one achievement already is shown another one as due, and gets it. -/
theorem report_award_agree_mixed :
    mixedWorld.store.Ready ∧ mixedWorld.store.Readable ∧ mixedWorld.store.Identified
      ∧ (∀ row ∈ mixedWorld.store.ledger, 0 < row.time) ∧ Viewer.id (.text " v1 ") ≠ "" ∧ mixedWorld.store.Fits
      ∧ (((report (.text " v1 ")).run mixedWorld).1.toOption.map fun r => r.due 100)
        = some [⟨"v1", 1, "First", 100⟩]
      ∧ ∃ r us r', ((report (.text " v1 ")).run mixedWorld).1 = .ok r
        ∧ ((award (.list [.text " v1 "]) .null .null).run (mixedWorld.reported (.text " v1 "))).1 = .ok us
        ∧ ((report (.text " v1 ")).run
            ((mixedWorld.reported (.text " v1 ")).awarded (.text " v1 ") .null .null)).1 = .ok r'
        ∧ Agreed r us (mixedWorld.reported (.text " v1 ")).clock.ms r' := by
  have hready : mixedWorld.store.Ready := by decide
  have hread : mixedWorld.store.Readable := by decide +kernel
  have hid : mixedWorld.store.Identified := by decide
  have htimes : ∀ row ∈ mixedWorld.store.ledger, 0 < row.time := by decide
  have hviewer : Viewer.id (.text " v1 ") ≠ "" := by decide +kernel
  have hfits : mixedWorld.store.Fits := ⟨by decide +kernel, by decide +kernel, by decide +kernel⟩
  obtain ⟨hanswered, us, hus, hagreed⟩ := report_award_agree hready hread hid htimes hviewer .null .null
  obtain ⟨r, hr⟩ := hanswered hfits
  obtain ⟨r', hr', h⟩ := hagreed r hr
  exact ⟨hready, hread, hid, htimes, hviewer, hfits, by decide +kernel, r, us, r', hr, hus, hr', h⟩

end Laurels
