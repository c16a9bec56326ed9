import Laurels.Fetched
import Laurels.Proofs.Agreement
import Laurels.Proofs.Mean
import Laurels.Proofs.Shown

/-!
# A report hangs together

What a report says of an achievement is computed more than once from the clauses of its rule: the requirements one by
one, whether all of them are satisfied, how many are, and how far the viewer has come overall. The parts fit together
(`Entry.Consistent`): the viewer is eligible if as many requirements are satisfied as there are, and that is if the
clauses hold on the metrics that the report shows. What is satisfied is shown as full, and the progress overall is no
smaller than the share of what is satisfied.

Rules are never empty, so there is something to take the mean of. Rounding could spoil the last part; that it does not is
`mean_shares`.

`report_consistent` is the main statement.
-/

namespace Laurels

/-- How the parts of an entry fit together, given the clauses of the achievement and the metrics that are shown with it. -/
structure Entry.Consistent (s : Snapshot) (clauses : List Clause) (e : Entry) : Prop where
  /-- Each requirement tells of one clause, and they are in the order of the clauses. -/
  requirements : List.Forall₂ (Requirement.Tells s) clauses e.requirements
  nonempty : 1 ≤ e.requirements.length
  /-- Clients see all of this under its names. -/
  shown : e.ShownBy e.toValue
  /-- The total that clients see is the number of requirements that they see. -/
  total : ∃ shown, Fetched.field e.toValue "requirements" = .ok (.list shown)
    ∧ shown.length = e.requirements.length ∧ Fetched.field e.toValue "requirementsTotal" = .ok (.int shown.length)
  eligible_iff_count : e.eligible = true ↔ e.satisfiedCount = e.requirements.length
  eligible_iff_satisfied : e.eligible = true ↔ satisfied clauses s = true
  /-- What is satisfied is full. -/
  full : ∀ r ∈ e.requirements, r.satisfied = true → r.closeness = .one
  share : e.overall.IsShare
  complete : 0 < e.unlockedAt ∨ e.eligible = true → e.overall = .one
  /-- Otherwise it is no smaller than what is satisfied over what there is, rounded once. -/
  progress : ¬ (0 < e.unlockedAt ∨ e.eligible = true) →
    ∃ q, (Number.int e.satisfiedCount).quotient (.int e.requirements.length) = .ok q
      ∧ (Number.float q).le (.float e.overall) = true

/-- How a report on a viewer fits the catalogue, and each of its entries the metrics that it shows. -/
structure Report.Consistent (s : Store) (viewer : String) (r : Report) : Prop where
  about : r.viewer = viewer
  /-- There are entries for the achievements on offer that have an id and whose criteria are accepted, and no others. -/
  mem_iff : ∀ a, a ∈ r.entries.map (·.achievement) ↔
    (∃ row ∈ s.catalogueRows, row.achievement = a ∧ row.disabled = false) ∧ a.id ≠ 0
      ∧ ∃ clauses, Criteria.parse a.criteria = .ok clauses
  order : r.entries.Pairwise fun e e' => e.achievement.id < e'.achievement.id
  entries : ∀ e ∈ r.entries, ∃ clauses, Criteria.parse e.achievement.criteria = .ok clauses ∧ e.Consistent r.metrics clauses

/-! ## Requirements -/

namespace Requirement.Tells

variable {s : Snapshot} {c : Clause} {r : Requirement}

theorem isShare (h : r.Tells s c) : r.closeness.IsShare := isShare_of_closeness h.closeness

/-- What is satisfied is full. -/
theorem full (h : r.Tells s c) (hsatisfied : r.satisfied = true) : r.closeness = .one := by
  have hholds : c.op.holds (c.current s) c.threshold = true := h.satisfied.symm.trans hsatisfied
  have hone : c.closeness s = .ok .one := if_pos hholds
  rw [h.closeness] at hone
  exact Except.ok.inj hone

end Requirement.Tells

/-- Requirements one by one, if they have been computed one after the other. -/
theorem forall₂_tells {s : Snapshot} {clauses : List Clause} {requirements : List Requirement}
    (h : clauses.map (Requirement.of s) = requirements.map .ok) :
    List.Forall₂ (Requirement.Tells s) clauses requirements := by
  rw [← List.forall₂_eq_eq_eq, List.forall₂_map_left_iff, List.forall₂_map_right_iff] at h
  exact h.imp fun _ _ => tells_of_requirement

/-! ## Entries -/

namespace Entry

variable {s : Snapshot} {time : Int} {rule : Rule} {e : Entry}

namespace Tells

theorem of_mem (h : e.Tells s time rule) {r : Requirement} (hr : r ∈ e.requirements) :
    ∃ c ∈ rule.clauses, r.Tells s c := by
  have hmem : Except.ok r ∈ e.requirements.map (Except.ok (ε := NumberFault)) := List.mem_map_of_mem hr
  rw [← h.requirements] at hmem
  obtain ⟨c, hc, htells⟩ := List.mem_map.mp hmem
  exact ⟨c, hc, tells_of_requirement htells⟩

theorem full (h : e.Tells s time rule) : ∀ r ∈ e.requirements, r.satisfied = true → r.closeness = .one := by
  intro r hr
  obtain ⟨c, _, hc⟩ := h.of_mem hr
  exact hc.full

theorem isShare (h : e.Tells s time rule) : ∀ x ∈ e.requirements.map (·.closeness), x.IsShare := by
  intro x hx
  obtain ⟨r, hr, rfl⟩ := List.mem_map.mp hx
  obtain ⟨c, _, hc⟩ := h.of_mem hr
  exact hc.isShare

theorem eligible_eq_all (h : e.Tells s time rule) : e.eligible = e.requirements.all (·.satisfied) :=
  h.eligible.trans (satisfied_of_requirements h.requirements).symm

end Tells

/-- What is neither unlocked nor eligible is shown with the mean of its requirements. -/
theorem mean_of_entry (h : Entry.of s time rule = .ok e) (hnot : ¬ (0 < e.unlockedAt ∨ e.eligible = true)) :
    mean (e.requirements.map (·.closeness)) = .ok e.overall := by
  have htells := tells_of_entry h
  rw [htells.unlockedAt, htells.eligible_eq_all] at hnot
  have hoverall := (parts_of_entry h).2.2
  rwa [if_neg hnot] at hoverall

/-- As many requirements are satisfied as there are if all of them are. -/
theorem satisfiedCount_eq_length_iff :
    e.satisfiedCount = e.requirements.length ↔ e.requirements.all (·.satisfied) = true := by
  unfold satisfiedCount
  rw [List.countP_eq_length, List.all_eq_true]

/-- If what is satisfied is full, no more is satisfied than is full. -/
theorem satisfiedCount_le (hfull : ∀ r ∈ e.requirements, r.satisfied = true → r.closeness = .one) :
    e.satisfiedCount ≤ (e.requirements.map (·.closeness)).count .one := by
  unfold satisfiedCount List.count
  rw [List.countP_map]
  exact List.countP_mono_left fun r hr hsatisfied => beq_iff_eq.mpr (hfull r hr hsatisfied)

/-- **The parts of an entry fit together,** if its rule has clauses and not too many. -/
theorem consistent (h : Entry.of s time rule = .ok e) (hne : rule.clauses ≠ []) (hlt : rule.clauses.length < twoTo 53) :
    e.Consistent s rule.clauses := by
  have htells := tells_of_entry h
  have hforall := forall₂_tells htells.requirements
  have hlength : e.requirements.length = rule.clauses.length := hforall.length_eq.symm
  have hpos : 0 < e.requirements.length := by
    rw [hlength]
    exact List.length_pos_iff.mpr hne
  have hcomplete : 0 < e.unlockedAt ∨ e.eligible = true → e.overall = .one := by
    rw [htells.unlockedAt]
    exact htells.overall
  have hsome : e.requirements.map (·.closeness) ≠ [] := mt List.map_eq_nil_iff.mp (List.length_pos_iff.mp hpos)
  obtain ⟨x, hx, hshare, hle⟩ := mean_shares htells.isShare hsome (by rwa [List.length_map, hlength])
  -- the mean is what is shown, unless something says that nothing is left to do
  have hshown : ¬ (0 < e.unlockedAt ∨ e.eligible = true) → x = e.overall := fun hnot =>
    Except.ok.inj (hx.symm.trans (mean_of_entry h hnot))
  refine ⟨hforall, hpos, e.shownBy_toValue, ⟨e.requirements.map Requirement.toValue, rfl, List.length_map _, ?_⟩,
    ?_, ?_, htells.full, ?_, hcomplete, fun hnot => ?_⟩
  · rw [List.length_map]
    rfl
  · rw [htells.eligible_eq_all, satisfiedCount_eq_length_iff]
  · rw [htells.eligible]
  · by_cases hdone : 0 < e.unlockedAt ∨ e.eligible = true
    · rw [hcomplete hdone]
      exact Binary64.isShare_one
    · rw [← hshown hdone]
      exact hshare
  · obtain ⟨q, hq, hqx⟩ := hle _ (satisfiedCount_le htells.full)
    rw [List.length_map] at hq
    rw [hshown hnot] at hqx
    exact ⟨q, hq, hqx⟩

end Entry

/-! ## The report -/

namespace Reported

variable {s : Store} {viewer : String} {r : Report}

/-- **A report that tells what the tables say is consistent.** -/
theorem consistent (h : Reported s viewer r) (hid : s.Identified)
    (hclauses : ∀ rule ∈ s.rules, rule.clauses.length < twoTo 53) : r.Consistent s viewer where
  about := h.about
  mem_iff := by
    intro a
    rw [h.map_achievements, List.mem_map]
    constructor
    · rintro ⟨rule, hrule, rfl⟩
      obtain ⟨hoffer, hne, hparse⟩ := Store.mem_rules.mp hrule
      exact ⟨Store.mem_active.mp hoffer, hne, rule.clauses, hparse⟩
    · rintro ⟨hoffer, hne, clauses, hparse⟩
      exact ⟨⟨a, clauses⟩, Store.mem_rules.mpr ⟨Store.mem_active.mpr hoffer, hne, hparse⟩, rfl⟩
  order := h.pairwise_entries hid
  entries := by
    intro e he
    obtain ⟨rule, hrule, hentry⟩ := h.mem_entries.mp he
    obtain ⟨_, _, hparse⟩ := Store.mem_rules.mp hrule
    refine ⟨rule.clauses, ?_, ?_⟩
    · rw [achievement_of_entry hentry]
      exact hparse
    · -- the metrics that are shown give the same entry as the tables
      unfold Store.entry at hentry
      rw [← entry_fetched viewer hrule] at hentry
      rw [h.metrics]
      exact Entry.consistent hentry (Criteria.parse_eq_ok hparse).1 (hclauses rule hrule)

end Reported

/--
**Reports are consistent.** All tables are there, ids are distinct, every text among the criteria on offer is accepted or
rejected, and no rule has 2⁵³ clauses or more. Then a report on a viewer whose counts fit into 64 bits is made. It has an
entry for each achievement on offer that has an id and whose criteria are accepted, by ascending id, and the parts of
each entry fit together and fit the metrics that the report shows.
-/
theorem report_consistent {w : World} (hready : w.store.Ready) (hread : w.store.Readable) (hid : w.store.Identified)
    {viewer : Value} (hviewer : Viewer.id viewer ≠ "") (hcounted : w.store.Counted (Viewer.id viewer))
    (hclauses : ∀ rule ∈ w.store.rules, rule.clauses.length < twoTo 53) :
    ∃ r, (report viewer).Answers w r ∧ r.Consistent w.store (Viewer.id viewer) := by
  have hentries : ∀ rule ∈ w.store.rules, ∃ e, w.store.entry (Viewer.id viewer) rule = .ok e := by
    intro rule hrule
    have hlt : rule.clauses.length < twoTo 64 := Nat.lt_trans (hclauses rule hrule) (twoTo_lt_twoTo (by decide))
    exact entry_defined hcounted hrule hlt _
  obtain ⟨r, hanswers, hreported⟩ := report_run hready hread hviewer hentries
  exact ⟨r, hanswers, hreported.consistent hid hclauses⟩

/-- A viewer who has done all of one achievement, has had another one before, and has done a part of a third. -/
def gradedWorld : World where
  store :=
    { results := some [⟨1, "v1", some 1, "FINISHED"⟩, ⟨2, "v1", some 4, "FINISHED"⟩, ⟨3, "v1", none, "DNF"⟩]
      catalogue := some [⟨7, "All round", none, false, "wins>=1; races>=10\n# and\naction:web.jump>=4"⟩,
        ⟨5, "Clean", none, false, "dnf<=0"⟩, ⟨4, "Broken", none, false, "wins>>1"⟩,
        ⟨3, "Starter", none, false, "races>=1"⟩, ⟨2, "Off", none, true, "races>=1"⟩,
        ⟨0, "Nameless", none, false, "races>=1"⟩]
      unlocks := some [⟨"v1", 5, 9, none, none⟩]
      actions := some [⟨"v1", "web.jump", 2, none, none⟩]
      failing := [] }
  clock := ⟨100, 1⟩
  queries := []
  log := []

/-- The part is one of three, and what is shown as the mean is the value next to 0.6. -/
theorem report_consistent_graded :
    gradedWorld.store.Ready ∧ gradedWorld.store.Readable ∧ gradedWorld.store.Identified
      ∧ Viewer.id (.text " v1 ") ≠ "" ∧ gradedWorld.store.Counted (Viewer.id (.text " v1 "))
      ∧ (∀ rule ∈ gradedWorld.store.rules, rule.clauses.length < twoTo 53)
      ∧ (((report (.text " v1 ")).run gradedWorld).1.toOption.map fun r => r.entries.map fun e =>
          (e.achievement.id, e.eligible, e.satisfiedCount, e.requirements.length, e.overall.toBits))
        = some [(3, true, 1, 1, 0x3FF0000000000000), (5, false, 0, 1, 0x3FF0000000000000),
          (7, false, 1, 3, 0x3FE3333333333333)]
      ∧ ∃ r, (report (.text " v1 ")).Answers gradedWorld r ∧ r.Consistent gradedWorld.store (Viewer.id (.text " v1 ")) := by
  have hready : gradedWorld.store.Ready := by decide
  have hread : gradedWorld.store.Readable := by decide +kernel
  have hid : gradedWorld.store.Identified := by decide
  have hviewer : Viewer.id (.text " v1 ") ≠ "" := by decide +kernel
  have hcounted : gradedWorld.store.Counted (Viewer.id (.text " v1 ")) := ⟨by decide +kernel, by decide +kernel⟩
  have hclauses : ∀ rule ∈ gradedWorld.store.rules, rule.clauses.length < twoTo 53 := by decide +kernel
  exact ⟨hready, hread, hid, hviewer, hcounted, hclauses, by decide +kernel,
    report_consistent hready hread hid hviewer hcounted hclauses⟩

end Laurels
