import Laurels.Proofs.AwardRun
import Laurels.Proofs.Criteria.Parsing
import Laurels.Proofs.Unanswered

/-!
# One achievement does not affect another

Two worlds differ in their catalogues at most, and both offer one and the same achievement. Are its unlocks the
same in both, whatever else is on offer? As far as awards go they are, for a viewer deserves the achievement in
one world if the viewer does in the other (`SameButCatalogue.deserves_iff`), and so are the entries in reports.

But awards and reports have to be answered in the first place, and a text that cannot be read prevents it, to
whichever achievement it belongs. `isolated_iff` says that this is all that can go wrong: an achievement is
isolated exactly if every text on offer in either world is accepted or rejected.
-/

namespace Laurels

/-- Two stores that differ in the catalogue at most. -/
structure SameButCatalogue (s₁ s₂ : Store) : Prop where
  results : s₁.results = s₂.results
  unlocks : s₁.unlocks = s₂.unlocks
  actions : s₁.actions = s₂.actions

namespace SameButCatalogue

variable {s₁ s₂ : Store}

theorem ledger_eq (h : SameButCatalogue s₁ s₂) : s₁.ledger = s₂.ledger := by
  unfold Store.ledger
  rw [h.unlocks]

theorem holds_iff (h : SameButCatalogue s₁ s₂) {v : String} {a : Int} : s₁.Holds v a ↔ s₂.Holds v a := by
  unfold Store.Holds
  rw [h.ledger_eq]

theorem snapshot_eq (h : SameButCatalogue s₁ s₂) (v : String) : s₁.snapshot v = s₂.snapshot v := by
  unfold Store.snapshot Store.tallyOf Store.countersOf Store.resultRows Store.counterRows
  rw [h.results, h.actions]

/-- A rule gets one and the same entry in both. -/
theorem entry_eq (h : SameButCatalogue s₁ s₂) (v : String) (rule : Rule) : s₁.entry v rule = s₂.entry v rule := by
  unfold Store.entry
  rw [h.snapshot_eq, h.ledger_eq]

/-- What both offer is deserved in both or in neither. -/
theorem deserves_iff (h : SameButCatalogue s₁ s₂) {v : String} {a : Achievement}
    (h₁ : a ∈ Store.active s₁.catalogueRows) (h₂ : a ∈ Store.active s₂.catalogueRows) :
    s₁.Deserves v a ↔ s₂.Deserves v a := by
  unfold Store.Deserves
  rw [h.snapshot_eq]
  exact and_congr_left fun _ => iff_of_true (Store.mem_active.mp h₁) (Store.mem_active.mp h₂)

end SameButCatalogue

/-- An award for the same viewers reports the same unlocks of an achievement in both worlds, and leaves the same
rows of it in the ledger. -/
def AwardIsolated (w₁ w₂ : World) (achievement : Int) : Prop :=
  ∀ (viewers source sourceRef : Value) (ids : List String), Viewer.ids? viewers = some ids →
    ∃ us₁ us₂, ((award viewers source sourceRef).run w₁).1 = .ok us₁
      ∧ ((award viewers source sourceRef).run w₂).1 = .ok us₂
      ∧ us₁.filter (·.achievement == achievement) = us₂.filter (·.achievement == achievement)
      ∧ ((award viewers source sourceRef).run w₁).2.store.ledger.filter (·.achievement == achievement)
        = ((award viewers source sourceRef).run w₂).2.store.ledger.filter (·.achievement == achievement)

/-- A report on the same viewer has the same entry for an achievement in both worlds. -/
def ReportIsolated (w₁ w₂ : World) (achievement : Int) : Prop :=
  ∀ viewer : Value, Viewer.id viewer ≠ "" →
    ∃ r₁ r₂ entry, ((report viewer).run w₁).1 = .ok r₁ ∧ ((report viewer).run w₂).1 = .ok r₂
      ∧ r₁.entries.filter (·.achievement.id == achievement) = [entry]
      ∧ r₂.entries.filter (·.achievement.id == achievement) = [entry]

/-! ## Awards -/

theorem Awarded.mem_filter_iff {ids : List String} {source sourceRef : String} {w w' : World}
    {us : List Unlock} (h : Awarded ids source sourceRef w us w') (hcatalogue : w.store.Identified)
    {a : Achievement} (ha : a ∈ Store.active w.store.catalogueRows) {u : Unlock} :
    u ∈ us.filter (·.achievement == a.id) ↔
      ∃ v ∈ ids, w.store.Deserves v a ∧ ¬ w.store.Holds v a.id ∧ u = ⟨v, a.id, a.name, w.clock.ms⟩ := by
  rw [List.mem_filter, h.mem_iff]
  constructor
  · rintro ⟨⟨v, hv, a', hd, hn, rfl⟩, hid⟩
    obtain rfl := hcatalogue.eq_of_active (Store.mem_active.mpr hd.1) ha (by simpa using hid)
    exact ⟨v, hv, hd, hn, rfl⟩
  · rintro ⟨v, hv, hd, hn, rfl⟩
    exact ⟨⟨v, hv, a, hd, hn, rfl⟩, by simp⟩

theorem Awarded.ledger_filter {ids : List String} {source sourceRef : String} {w w' : World}
    {us : List Unlock} (h : Awarded ids source sourceRef w us w') (achievement : Int) :
    w'.store.ledger.filter (·.achievement == achievement)
      = w.store.ledger.filter (·.achievement == achievement)
        ++ (us.filter (·.achievement == achievement)).map (Unlock.row source sourceRef) := by
  rw [h.ledger_eq, List.filter_append, List.filter_map]
  rfl

/-- **Awards are isolated** if every text on offer is accepted or rejected. -/
theorem awardIsolated {w₁ w₂ : World} (hready₁ : w₁.store.Ready) (hready₂ : w₂.store.Ready)
    (hread₁ : w₁.store.Readable) (hread₂ : w₂.store.Readable) (hid₁ : w₁.store.Identified)
    (hid₂ : w₂.store.Identified) (hsame : SameButCatalogue w₁.store w₂.store) (hclock : w₁.clock = w₂.clock)
    {a : Achievement} (ha₁ : a ∈ Store.active w₁.store.catalogueRows)
    (ha₂ : a ∈ Store.active w₂.store.catalogueRows) : AwardIsolated w₁ w₂ a.id := by
  intro viewers source sourceRef ids hids
  rw [award_eq hids]
  obtain ⟨us₁, hres₁, h₁⟩ := awardIds_run hready₁ hread₁ hid₁ (nodup_ids hids) source.asText sourceRef.asText
  obtain ⟨us₂, hres₂, h₂⟩ := awardIds_run hready₂ hread₂ hid₂ (nodup_ids hids) source.asText sourceRef.asText
  -- the reports agree as sets, and both are in the order of the same ids
  have hfilter : us₁.filter (·.achievement == a.id) = us₂.filter (·.achievement == a.id) := by
    refine Unlock.Before.eq_of_mem_iff (h₁.order.filter _) (h₂.order.filter _) fun u => ?_
    rw [h₁.mem_filter_iff hid₁ ha₁, h₂.mem_filter_iff hid₂ ha₂]
    refine exists_congr fun v => and_congr_right fun _ => ?_
    rw [hsame.deserves_iff ha₁ ha₂, hsame.holds_iff, hclock]
  refine ⟨us₁, us₂, hres₁, hres₂, hfilter, ?_⟩
  rw [h₁.ledger_filter, h₂.ledger_filter, hfilter, hsame.ledger_eq]

/-! ## Reports -/

theorem filter_eq_singleton {α : Type} {p : α → Bool} {x : α} {xs : List α} (hnodup : xs.Nodup)
    (hx : x ∈ xs) (hp : ∀ y ∈ xs, p y = true ↔ y = x) : xs.filter p = [x] := by
  have hmem : ∀ y, y ∈ xs.filter p ↔ y ∈ [x] := by
    intro y
    rw [List.mem_filter, List.mem_singleton]
    constructor
    · rintro ⟨hy, hpy⟩
      exact (hp y hy).mp hpy
    · rintro rfl
      exact ⟨hx, (hp y hx).mpr rfl⟩
  exact List.perm_singleton.mp
    ((List.perm_ext_iff_of_nodup (hnodup.filter _) (List.nodup_singleton x)).mpr hmem)

/-- The entry for an achievement on offer is the entry of its own rule. -/
theorem Reported.entry {s : Store} {viewer : String} {r : Report} (h : Reported s viewer r)
    (hid : s.Identified) {a : Achievement} (ha : a ∈ Store.active s.catalogueRows) (hne : a.id ≠ 0)
    {clauses : List Clause} (hparse : Criteria.parse a.criteria = .ok clauses) :
    ∃ entry, r.entries.filter (·.achievement.id == a.id) = [entry]
      ∧ s.entry viewer ⟨a, clauses⟩ = .ok entry := by
  -- there is one rule with this id, so there is one entry
  have hrule : Rule.mk a clauses ∈ s.rules := Store.mem_rules.mpr ⟨ha, hne, hparse⟩
  have hnodup : s.rules.Nodup := (Store.pairwise_rules hid).imp fun hlt heq => by
    rw [heq] at hlt
    omega
  have honly : s.rules.filter (fun rule => rule.achievement.id == a.id) = [⟨a, clauses⟩] := by
    refine filter_eq_singleton hnodup hrule fun rule hmem => ?_
    rw [beq_iff_eq]
    constructor
    · intro heq
      obtain ⟨ha', _, hparse'⟩ := Store.mem_rules.mp hmem
      have hach := hid.eq_of_active ha' ha heq
      rw [hach, hparse] at hparse'
      cases rule
      cases hach
      cases hparse'
      rfl
    · rintro rfl
      rfl
  have hmap := map_filter_eq_of_map_eq (p := fun rule : Rule => rule.achievement.id == a.id)
    (q := fun e : Entry => e.achievement.id == a.id)
    (fun rule e he => by rw [achievement_of_entry he]) h.entries
  rw [honly] at hmap
  obtain ⟨entry, hentry, hok⟩ := List.map_eq_singleton_iff.mp hmap.symm
  exact ⟨entry, hentry, hok.symm⟩

/-- **Reports are isolated** if every text on offer is accepted or rejected, and every rule has an entry. -/
theorem reportIsolated {w₁ w₂ : World} (hready₁ : w₁.store.Ready) (hready₂ : w₂.store.Ready)
    (hread₁ : w₁.store.Readable) (hread₂ : w₂.store.Readable) (hid₁ : w₁.store.Identified)
    (hid₂ : w₂.store.Identified) (hmeasured₁ : w₁.store.Measured) (hmeasured₂ : w₂.store.Measured)
    (hsame : SameButCatalogue w₁.store w₂.store) {a : Achievement}
    (ha₁ : a ∈ Store.active w₁.store.catalogueRows) (ha₂ : a ∈ Store.active w₂.store.catalogueRows)
    (hne : a.id ≠ 0) {clauses : List Clause} (hparse : Criteria.parse a.criteria = .ok clauses) :
    ReportIsolated w₁ w₂ a.id := by
  intro viewer hviewer
  obtain ⟨r₁, ⟨hr₁, _⟩, h₁⟩ := report_run hready₁ hread₁ hviewer (hmeasured₁ viewer hviewer)
  obtain ⟨r₂, ⟨hr₂, _⟩, h₂⟩ := report_run hready₂ hread₂ hviewer (hmeasured₂ viewer hviewer)
  obtain ⟨entry₁, hentry₁, hok₁⟩ := h₁.entry hid₁ ha₁ hne hparse
  obtain ⟨entry₂, hentry₂, hok₂⟩ := h₂.entry hid₂ ha₂ hne hparse
  rw [hsame.entry_eq, hok₂] at hok₁
  cases hok₁
  exact ⟨r₁, r₂, entry₁, hr₁, hr₂, hentry₁, hentry₂⟩

/-! ## When an achievement is isolated -/

/-- Where reports are isolated, each world reads its texts and has its entries. -/
theorem readable_of_reportIsolated {w₁ w₂ : World} (hready₁ : w₁.store.Ready) (hready₂ : w₂.store.Ready)
    {achievement : Int} (h : ReportIsolated w₁ w₂ achievement) :
    (w₁.store.Readable ∧ w₁.store.Measured) ∧ w₂.store.Readable ∧ w₂.store.Measured := by
  have hv : Viewer.id (.text "v") ≠ "" := by decide +kernel
  obtain ⟨r₁, r₂, _, hr₁, hr₂, _⟩ := h (.text "v") hv
  refine ⟨⟨(readable_of_report hready₁ hv hr₁).1, fun viewer hviewer => ?_⟩,
    (readable_of_report hready₂ hv hr₂).1, fun viewer hviewer => ?_⟩
  · obtain ⟨r, _, _, hr, _⟩ := h viewer hviewer
    exact (readable_of_report hready₁ hviewer hr).2
  · obtain ⟨_, r, _, _, hr, _⟩ := h viewer hviewer
    exact (readable_of_report hready₂ hviewer hr).2

/--
**When an achievement is isolated.** Both worlds have all tables, and differ in the catalogue at most; both
offer the achievement, which has an id and a text that is accepted. Awards keep it isolated from all others
exactly if every text on offer is accepted or rejected. So do reports, as long as every rule has an entry, for
which it is enough that the counts fit into 64 bits.
-/
theorem isolated_iff {w₁ w₂ : World} (hready₁ : w₁.store.Ready) (hready₂ : w₂.store.Ready)
    (hid₁ : w₁.store.Identified) (hid₂ : w₂.store.Identified)
    (hsame : SameButCatalogue w₁.store w₂.store) (hclock : w₁.clock = w₂.clock) {a : Achievement}
    (ha₁ : a ∈ Store.active w₁.store.catalogueRows) (ha₂ : a ∈ Store.active w₂.store.catalogueRows)
    (hne : a.id ≠ 0) {clauses : List Clause} (hparse : Criteria.parse a.criteria = .ok clauses) :
    (AwardIsolated w₁ w₂ a.id ↔ w₁.store.Readable ∧ w₂.store.Readable)
      ∧ (ReportIsolated w₁ w₂ a.id ↔
          (w₁.store.Readable ∧ w₁.store.Measured) ∧ w₂.store.Readable ∧ w₂.store.Measured)
      ∧ (w₁.store.Fits → w₂.store.Fits →
          (ReportIsolated w₁ w₂ a.id ↔ w₁.store.Readable ∧ w₂.store.Readable)) := by
  have hreport : ReportIsolated w₁ w₂ a.id ↔
      (w₁.store.Readable ∧ w₁.store.Measured) ∧ w₂.store.Readable ∧ w₂.store.Measured := by
    constructor
    · exact readable_of_reportIsolated hready₁ hready₂
    · rintro ⟨⟨hread₁, hmeasured₁⟩, hread₂, hmeasured₂⟩
      exact reportIsolated hready₁ hready₂ hread₁ hread₂ hid₁ hid₂ hmeasured₁ hmeasured₂ hsame ha₁ ha₂ hne hparse
  refine ⟨⟨fun h => ?_, ?_⟩, hreport, fun hfits₁ hfits₂ => ?_⟩
  · -- one award that is answered is enough to know that the texts were read
    have hids : Viewer.ids? (.list [.text "v"]) = some ["v"] := by decide +kernel
    obtain ⟨us₁, us₂, hres₁, hres₂, _⟩ := h (.list [.text "v"]) .null .null ["v"] hids
    exact ⟨readable_of_award hready₁ hids (by simp) hres₁, readable_of_award hready₂ hids (by simp) hres₂⟩
  · rintro ⟨hread₁, hread₂⟩
    exact awardIsolated hready₁ hready₂ hread₁ hread₂ hid₁ hid₂ hsame hclock ha₁ ha₂
  · rw [hreport, and_iff_left hfits₁.measured, and_iff_left hfits₂.measured]

/-- A world in which a viewer has won a race, with two achievements on offer. The second one has the given
text. -/
def neighbourWorld (criteria : String) : World where
  store :=
    { results := some [⟨1, "v1", some 1, "FINISHED"⟩]
      catalogue := some [⟨1, "First", none, false, "wins>=1"⟩, ⟨2, "Other", none, false, criteria⟩]
      unlocks := some []
      actions := some [⟨"v1", "k", 3, some 5, some 6⟩]
      failing := [] }
  clock := ⟨100, 1⟩
  queries := []
  log := []

/-- A rejected text next to an achievement does it no harm, and a zero of 4301 digits does. -/
theorem isolated_iff_zeros :
    (AwardIsolated (neighbourWorld "action:k>=1") (neighbourWorld "wins>>1") 1
        ∧ ReportIsolated (neighbourWorld "action:k>=1") (neighbourWorld "wins>>1") 1)
      ∧ ¬ AwardIsolated (neighbourWorld "action:k>=1") (neighbourWorld (Criteria.zeros 4301)) 1
      ∧ ¬ ReportIsolated (neighbourWorld "action:k>=1") (neighbourWorld (Criteria.zeros 4301)) 1 := by
  have hready : ∀ text, (neighbourWorld text).store.Ready := fun _ => ⟨fun t => by cases t <;> rfl, rfl⟩
  have hsame : ∀ text text', SameButCatalogue (neighbourWorld text).store (neighbourWorld text').store :=
    fun _ _ => ⟨rfl, rfl, rfl⟩
  have hid : ∀ text, (neighbourWorld text).store.Identified := fun _ => by
    show List.Nodup [1, 2]
    decide
  have hoffer : ∀ text, Achievement.mk 1 "First" "" false "wins>=1"
      ∈ Store.active (neighbourWorld text).store.catalogueRows := fun text =>
    Store.mem_active.mpr ⟨⟨1, "First", none, false, "wins>=1"⟩, List.mem_cons_self, rfl, rfl⟩
  have hparse : Criteria.parse "wins>=1" = .ok [⟨"wins", .atLeast, .int 1⟩] := by decide +kernel
  have hiff : ∀ text, _ := fun text => isolated_iff (hready "action:k>=1") (hready text)
    (hid "action:k>=1") (hid text) (hsame _ text) rfl (hoffer _) (hoffer text) (by decide) hparse
  have hread₁ : (neighbourWorld "action:k>=1").store.Readable := by decide +kernel
  have hread₂ : (neighbourWorld "wins>>1").store.Readable := by decide +kernel
  have hfits₁ : (neighbourWorld "action:k>=1").store.Fits :=
    ⟨by decide +kernel, by decide +kernel, by decide +kernel⟩
  have hfits₂ : (neighbourWorld "wins>>1").store.Fits :=
    ⟨by decide +kernel, by decide +kernel, by decide +kernel⟩
  -- too long to be parsed by computing, the text is known by `parse_zeros`
  have hunread : ¬ (neighbourWorld (Criteria.zeros 4301)).store.Readable := by
    intro h
    have hother := h ⟨2, "Other", none, false, Criteria.zeros 4301⟩
      (List.mem_cons_of_mem _ List.mem_cons_self) rfl (by decide) _ (Criteria.parse_zeros (by decide))
    cases hother
  refine ⟨⟨(hiff "wins>>1").1.mpr ⟨hread₁, hread₂⟩, ((hiff "wins>>1").2.2 hfits₁ hfits₂).mpr ⟨hread₁, hread₂⟩⟩,
    fun h => hunread ((hiff _).1.mp h).2, fun h => hunread ((hiff _).2.1.mp h).2.1⟩

end Laurels
