import Laurels.Proofs.SoloRun
import Laurels.Proofs.ViewerIds

/-!
# An award that runs alone

An award that nothing interrupts sees the viewers as they stand when it begins, and the clock as it is then.
So what it adds is decided by the world before it: `Awarded` lists the viewers and the achievements, in which
order, at what time, and says that nothing but the ledger changes. `award_awarded` is the main statement.
-/

namespace Laurels

/-! ## The order of what is awarded -/

/-- Whether one unlock is reported before another: by the place of the viewer, then by the id of the
achievement. -/
def Unlock.Before (ids : List String) (u u' : Unlock) : Prop :=
  ids.idxOf u.viewer < ids.idxOf u'.viewer ∨ u.viewer = u'.viewer ∧ u.achievement < u'.achievement

namespace Unlock.Before

theorem asymm {ids : List String} {u u' : Unlock} (h : Unlock.Before ids u u') (h' : Unlock.Before ids u' u) :
    False := by
  rcases h with h | ⟨hv, ha⟩ <;> rcases h' with h' | ⟨hv', ha'⟩
  · omega
  · rw [hv'] at h
    omega
  · rw [hv] at h'
    omega
  · omega

/-- Two reports in order that have the same unlocks are the same. -/
theorem eq_of_mem_iff {ids : List String} {us₁ us₂ : List Unlock} (h₁ : us₁.Pairwise (Unlock.Before ids))
    (h₂ : us₂.Pairwise (Unlock.Before ids)) (hmem : ∀ u, u ∈ us₁ ↔ u ∈ us₂) : us₁ = us₂ := by
  have hne : ∀ {u u' : Unlock}, Unlock.Before ids u u' → u ≠ u' := by
    rintro u _ h rfl
    exact h.asymm h
  exact ((List.perm_ext_iff_of_nodup (h₁.imp hne) (h₂.imp hne)).mpr hmem).eq_of_pairwise
    (fun u u' _ _ h h' => (h.asymm h').elim) h₁ h₂

end Unlock.Before

theorem pairwise_idxOf {ids : List String} (h : ids.Nodup) :
    ids.Pairwise fun a b => ids.idxOf a < ids.idxOf b := by
  rw [List.pairwise_iff_getElem]
  intro i j hi hj hij
  rw [h.idxOf_getElem i hi, h.idxOf_getElem j hj]
  exact hij

theorem nodup_ids {viewers : Value} {ids : List String} (h : Viewer.ids? viewers = some ids) : ids.Nodup := by
  obtain ⟨items, _, rfl⟩ := Option.map_eq_some_iff.mp h
  exact Viewer.nodup_distinct _

namespace Store

/-- The rows of the catalogue have ids of their own. -/
def Identified (s : Store) : Prop := (s.catalogueRows.map (·.id)).Nodup

instance (s : Store) : Decidable s.Identified := inferInstanceAs (Decidable (List.Nodup _))

theorem pairwise_active {rows : List CatalogueRow} (h : (rows.map (·.id)).Nodup) :
    (active rows).Pairwise fun a b => a.id < b.id := by
  unfold active
  rw [List.pairwise_map]
  -- sorting gives the order, and distinct ids make it strict
  have hsorted : (sorted (fun a b : CatalogueRow => decide (a.id ≤ b.id))
      (rows.filter fun r => !r.disabled)).Pairwise fun a b => decide (a.id ≤ b.id) = true :=
    pairwise_sorted (by intro a b; simp only [decide_eq_true_eq]; omega)
      (by intro a b c; simp only [decide_eq_true_eq]; omega) _
  have hdistinct : (sorted (fun a b : CatalogueRow => decide (a.id ≤ b.id))
      (rows.filter fun r => !r.disabled)).Pairwise fun a b => a.id ≠ b.id := by
    have hnodup : ((rows.filter fun r => !r.disabled).map (·.id)).Nodup :=
      h.sublist (List.filter_sublist.map _)
    exact List.pairwise_map.mp (((sorted_perm _ _).map _).nodup_iff.mpr hnodup)
  refine (hsorted.and hdistinct).imp fun {a b} hab => ?_
  have hle := hab.1
  have hne := hab.2
  rw [decide_eq_true_eq] at hle
  show a.id < b.id
  omega

theorem pairwise_rules {s : Store} (h : s.Identified) :
    s.rules.Pairwise fun r r' => r.achievement.id < r'.achievement.id := by
  unfold rules
  refine List.Pairwise.filterMap _ (fun a a' haa' r hr r' hr' => ?_) (pairwise_active h)
  rw [(Achievement.rule?_eq_some.mp hr).2.1, (Achievement.rule?_eq_some.mp hr').2.1]
  exact haa'

/-- An id on offer belongs to one achievement. -/
theorem Identified.eq_of_active {s : Store} (h : s.Identified) {a a' : Achievement}
    (ha : a ∈ active s.catalogueRows) (ha' : a' ∈ active s.catalogueRows) (hid : a.id = a'.id) : a = a' := by
  obtain ⟨row, hrow, rfl, _⟩ := mem_active.mp ha
  obtain ⟨row', hrow', rfl, _⟩ := mem_active.mp ha'
  rw [List.inj_on_of_nodup_map h hrow hrow' hid]

end Store

theorem pairwise_unlocks {s : Store} (h : s.Identified) {ids : List String} (hids : ids.Nodup)
    (seen : String → Snapshot) (time : Int) :
    (ids.flatMap fun v => (s.rules.filter fun r => satisfied r.clauses (seen v)).map
      (Rule.unlock time v)).Pairwise (Unlock.Before ids) := by
  rw [List.pairwise_flatMap]
  constructor
  · intro v _
    rw [List.pairwise_map]
    exact ((Store.pairwise_rules h).filter _).imp fun hlt => Or.inr ⟨rfl, hlt⟩
  · refine (pairwise_idxOf hids).imp fun {v v'} hlt u hu u' hu' => ?_
    obtain ⟨r, _, rfl⟩ := List.mem_map.mp hu
    obtain ⟨r', _, rfl⟩ := List.mem_map.mp hu'
    exact Or.inl hlt

/-! ## The award -/

/-- What an award for viewers comes to, told by the worlds before and after it. -/
structure Awarded (ids : List String) (source sourceRef : String) (w : World) (us : List Unlock)
    (w' : World) : Prop where
  /-- The rows that are reported are added at the end of the ledger, and nothing else changes. -/
  store : w'.store =
    { w.store with unlocks := some (w.store.ledger ++ us.map (Unlock.row source sourceRef)) }
  /-- Reported is what the viewers deserved and did not have, with the time that the clock showed. -/
  mem_iff : ∀ u, u ∈ us ↔ ∃ v ∈ ids, ∃ a, w.store.Deserves v a ∧ ¬ w.store.Holds v a.id
    ∧ u = ⟨v, a.id, a.name, w.clock.ms⟩
  /-- No pair is reported twice. -/
  once : (us.map Unlock.pair).Nodup
  /-- Viewers come in the order in which they are given, and achievements by ascending id. -/
  order : us.Pairwise (Unlock.Before ids)

namespace Store

variable {s : Store}

theorem Ready.withLedger (h : s.Ready) (rows : List UnlockRow) : { s with unlocks := some rows }.Ready where
  has := by
    intro t
    cases t with
    | unlocks => rfl
    | results => exact h.has .results
    | catalogue => exact h.has .catalogue
    | actions => exact h.has .actions
  reachable := h.reachable

theorem Readable.withLedger (h : s.Readable) (rows : List UnlockRow) :
    { s with unlocks := some rows }.Readable := h

end Store

namespace Awarded

variable {ids : List String} {source sourceRef : String} {w w' : World} {us : List Unlock}

theorem ledger_eq (h : Awarded ids source sourceRef w us w') :
    w'.store.ledger = w.store.ledger ++ us.map (Unlock.row source sourceRef) := by
  rw [h.store]
  rfl

/-- A store that an award has come to is in order, if it was. -/
theorem ready (h : Awarded ids source sourceRef w us w') (hready : w.store.Ready) : w'.store.Ready := by
  rw [h.store]
  exact hready.withLedger _

theorem readable (h : Awarded ids source sourceRef w us w') (hread : w.store.Readable) : w'.store.Readable := by
  rw [h.store]
  exact hread.withLedger _

theorem identified (h : Awarded ids source sourceRef w us w') (hcatalogue : w.store.Identified) :
    w'.store.Identified := by
  rw [h.store]
  exact hcatalogue

end Awarded

/-- A store in order that differs from another one in the ledger at most. -/
structure SameButLedger (s₀ s : Store) : Prop where
  ready : s.Ready
  results : s.results = s₀.results
  catalogue : s.catalogue = s₀.catalogue
  actions : s.actions = s₀.actions
  failing : s.failing = s₀.failing

namespace SameButLedger

variable {s₀ s : Store}

theorem answer (h : SameButLedger s₀ s) {q : Query} (hq : q.OfPass) : SameButLedger s₀ (s.answer q).2 where
  ready := Store.ready_answer h.ready q
  results := (congrArg Store.results (Store.answer_of_ofPass hq)).trans h.results
  catalogue := (congrArg Store.catalogue (Store.answer_of_ofPass hq)).trans h.catalogue
  actions := (congrArg Store.actions (Store.answer_of_ofPass hq)).trans h.actions
  failing := (congrArg Store.failing (Store.answer_of_ofPass hq)).trans h.failing

theorem steady : Steady (SameButLedger s₀) s₀ where
  ready := fun _ h => h.ready
  catalogue := fun _ h => by unfold Store.catalogueRows; rw [h.catalogue]

theorem eq_of_seen {v : String} {snapshot : Snapshot} (h : Seen (SameButLedger s₀) v snapshot) :
    snapshot = s₀.snapshot v := by
  obtain ⟨s₁, s₂, h₁, h₂, rfl⟩ := h
  unfold Store.snapshot Store.tallyOf Store.countersOf Store.resultRows Store.counterRows
  rw [h₁.results, h₂.actions]

/-- The rows of the ledger decide what the store is. -/
theorem eq_of_ledger (h : SameButLedger s₀ s) {rows : List UnlockRow} (hrows : s.ledger = rows) :
    s = { s₀ with unlocks := some rows } := by
  have hunlocks : s.unlocks = some rows := by
    rw [← Store.unlocks_ledger (h.ready.has .unlocks), hrows]
  obtain ⟨_, hr, hc, ha, hf⟩ := h
  cases s
  cases hunlocks
  cases hr
  cases hc
  cases ha
  cases hf
  rfl

end SameButLedger

/-! ## What an award does with no other step in between -/

section Alone

variable {α : Type} {ps qs : List (Procedure α)} {w v : World} {ids : List String} {source sourceRef : String}
  {seen : String → Snapshot} {time : Int} {es : List Event} {us : List Unlock}

namespace AwardFacts

theorem rowsAdded_eq (hfacts : AwardFacts w.store.rules ids source sourceRef seen time es us) :
    rowsAdded (es.map (Prod.mk 0)) = us.map (Unlock.row source sourceRef) := by
  rw [rowsAdded_alone, hfacts.added]

/-- What is reported is of the time that the run begins with. -/
theorem time_eq (hfacts : AwardFacts w.store.rules ids source sourceRef seen time es us)
    (h : Interleaving (fun _ _ => False) ps w (es.map (Prod.mk 0)) qs v) {u : Unlock} (hu : u ∈ us) :
    time = w.clock.ms := by
  rcases hfacts.times with ht | ⟨_, hnone⟩
  · have htagged : timesIn ((es.map (Prod.mk 0)).map Prod.snd) = [time] := by
      rw [List.map_map]
      exact (congrArg timesIn (List.map_id es)).trans ht
    exact h.first_time htagged
  · rw [hnone] at hu
    exact absurd hu List.not_mem_nil

theorem fresh (hfacts : AwardFacts w.store.rules ids source sourceRef seen time es us)
    (h : Interleaving (fun _ _ => False) ps w (es.map (Prod.mk 0)) qs v) {u : Unlock} (hu : u ∈ us) :
    ¬ w.store.Holds u.viewer u.achievement := by
  refine (h.added_fresh keepsStore_never).2 (Unlock.row source sourceRef u) ?_
  rw [hfacts.rowsAdded_eq]
  exact List.mem_map.mpr ⟨u, hu, rfl⟩

/-- What is reported was deserved before the run, and not held. -/
theorem sound (hfacts : AwardFacts w.store.rules ids source sourceRef seen time es us)
    (hseen : ∀ v ∈ ids, seen v = w.store.snapshot v)
    (h : Interleaving (fun _ _ => False) ps w (es.map (Prod.mk 0)) qs v) {u : Unlock} (hu : u ∈ us) :
    ∃ v ∈ ids, ∃ a, w.store.Deserves v a ∧ ¬ w.store.Holds v a.id ∧ u = ⟨v, a.id, a.name, w.clock.ms⟩ := by
  obtain ⟨v, hv, hu'⟩ := List.mem_flatMap.mp (hfacts.deserved.subset hu)
  obtain ⟨r, hr, rfl⟩ := List.mem_map.mp hu'
  obtain ⟨hrule, hsat⟩ := List.mem_filter.mp hr
  rw [hseen v hv] at hsat
  refine ⟨v, hv, r.achievement, Store.deserves_iff.mpr ⟨r, hrule, rfl, hsat⟩, hfacts.fresh h hu, ?_⟩
  rw [hfacts.time_eq h hu]
  rfl

/-- What was deserved before the run, and not held, is reported. -/
theorem reports (hfacts : AwardFacts w.store.rules ids source sourceRef seen time es us)
    (hseen : ∀ v ∈ ids, seen v = w.store.snapshot v)
    (h : Interleaving (fun _ _ => False) ps w (es.map (Prod.mk 0)) qs v) {viewer : String}
    (hviewer : viewer ∈ ids) {a : Achievement} (ha : w.store.Deserves viewer a)
    (hnew : ¬ w.store.Holds viewer a.id) : ∃ u ∈ us, u.viewer = viewer ∧ u.achievement = a.id := by
  obtain ⟨r, hrule, rfl, hsat⟩ := Store.deserves_iff.mp ha
  rw [← hseen viewer hviewer] at hsat
  obtain ⟨e, he, hshows⟩ := hfacts.complete viewer hviewer r hrule hsat
  obtain ⟨row, hrow, hv, hachievement⟩ := h.holds_of_shows keepsStore_never (mem_alone he) hshows
  -- the pair is in the ledger after the run, so it is one of those that the run added
  rw [h.ledger_eq keepsStore_never, hfacts.rowsAdded_eq] at hrow
  rcases List.mem_append.mp hrow with hold | hadded
  · exact absurd ⟨row, hold, hv, hachievement⟩ hnew
  · obtain ⟨u, hu, rfl⟩ := List.mem_map.mp hadded
    exact ⟨u, hu, hv, hachievement⟩

theorem once (hfacts : AwardFacts w.store.rules ids source sourceRef seen time es us)
    (h : Interleaving (fun _ _ => False) ps w (es.map (Prod.mk 0)) qs v) : (us.map Unlock.pair).Nodup := by
  have hnodup := (h.added_fresh keepsStore_never).1
  rw [hfacts.rowsAdded_eq, List.map_map] at hnodup
  exact hnodup

end AwardFacts

end Alone

/-- What is known of the steps of an award holds of its run, with the viewers as they stand when it begins. -/
theorem awardIds_facts {w : World} (hready : w.store.Ready) (hread : w.store.Readable) (ids : List String)
    (source sourceRef : String) :
    ∃ es us seen time, ((awardIds ids source sourceRef).run w).1 = .ok us
      ∧ (∀ v ∈ ids, seen v = w.store.snapshot v) ∧ AwardFacts w.store.rules ids source sourceRef seen time es us
      ∧ ((awardIds ids source sourceRef).run w).2.store
        = { w.store with unlocks := some (w.store.ledger ++ us.map (Unlock.row source sourceRef)) }
      ∧ ∃ qs, Interleaving (fun _ _ => False) [awardIds ids source sourceRef] w (es.map (Prod.mk 0)) qs
        ((awardIds ids source sourceRef).run w).2 := by
  obtain ⟨es, us, hres, ⟨seen, time, hseen, hfacts⟩, hsame, h⟩ :=
    (Procedure.awardIds_ensures SameButLedger.steady hread ids source sourceRef).run
      (Procedure.awardIds_asks ids source sourceRef) (fun s q hq hs => hs.answer hq)
      ⟨hready, rfl, rfl, rfl, rfl⟩
  -- nothing that an award reads changes while it runs
  have hseen' : ∀ v ∈ ids, seen v = w.store.snapshot v := fun v hv => SameButLedger.eq_of_seen (hseen v hv)
  have hledger := h.ledger_eq keepsStore_never
  rw [hfacts.rowsAdded_eq] at hledger
  exact ⟨es, us, seen, time, hres, hseen', hfacts, hsame.eq_of_ledger hledger, _, h⟩

/-- **An award that runs alone.** -/
theorem awardIds_run {w : World} (hready : w.store.Ready) (hread : w.store.Readable)
    (hcatalogue : w.store.Identified) {ids : List String} (hids : ids.Nodup) (source sourceRef : String) :
    ∃ us, ((awardIds ids source sourceRef).run w).1 = .ok us
      ∧ Awarded ids source sourceRef w us ((awardIds ids source sourceRef).run w).2 := by
  obtain ⟨es, us, seen, time, hres, hseen', hfacts, hstore, _, h⟩ := awardIds_facts hready hread ids source sourceRef
  refine ⟨us, hres, hstore, fun u => ⟨hfacts.sound hseen' h, ?_⟩, hfacts.once h,
    (pairwise_unlocks hcatalogue hids seen time).sublist hfacts.deserved⟩
  rintro ⟨v, hv, a, ha, hnew, rfl⟩
  obtain ⟨u, hu, hviewer, hachievement⟩ := hfacts.reports hseen' h hv ha hnew
  obtain ⟨v', hv', a', ha', hnew', rfl⟩ := hfacts.sound hseen' h hu
  -- the unlock that is reported for the pair is the one at hand, as ids are not shared
  have hv_eq : v' = v := hviewer
  have ha_eq : a' = a :=
    hcatalogue.eq_of_active (Store.mem_active.mpr ha'.1) (Store.mem_active.mpr ha.1) hachievement
  rw [hv_eq, ha_eq] at hu
  exact hu

/--
**An award does what it should.** If all tables are there, ids are distinct and every text among the criteria
on offer is accepted or rejected, an award for a list of viewers is answered, and `Awarded` says with what, and
what has become of the tables.
-/
theorem award_awarded {w : World} (hready : w.store.Ready) (hread : w.store.Readable)
    (hcatalogue : w.store.Identified) {viewers : Value} {ids : List String}
    (hviewers : Viewer.ids? viewers = some ids) (source sourceRef : Value) :
    ∃ us, ((award viewers source sourceRef).run w).1 = .ok us
      ∧ Awarded ids source.asText sourceRef.asText w us ((award viewers source sourceRef).run w).2 := by
  rw [award_eq hviewers]
  exact awardIds_run hready hread hcatalogue (nodup_ids hviewers) _ _

/-- A catalogue out of order, with a disabled achievement, one without an id and one whose text is rejected; one
of the viewers has an unlock already. -/
def mixedWorld : World where
  store :=
    { results := some [⟨1, "v1", some 1, "FINISHED"⟩, ⟨1, "v2", some 2, "FINISHED"⟩]
      catalogue := some [⟨4, "Racer", some "Race once", false, "races>=1"⟩, ⟨3, "Broken", none, false, "wins>>1"⟩,
        ⟨2, "Off", none, true, "races>=1"⟩, ⟨1, "First", none, false, "wins>=1"⟩,
        ⟨0, "Nameless", none, false, "races>=1"⟩]
      unlocks := some [⟨"v1", 4, 5, none, none⟩]
      actions := some []
      failing := [] }
  clock := ⟨100, 1⟩
  queries := []
  log := []

/-- An award for two viewers, one of them named twice. -/
theorem award_awarded_mixed :
    mixedWorld.store.Ready ∧ mixedWorld.store.Readable ∧ mixedWorld.store.Identified
      ∧ Viewer.ids? (.list [.text " v2 ", .text "v1", .null, .text "v2"]) = some ["v2", "v1"]
      ∧ ((award (.list [.text " v2 ", .text "v1", .null, .text "v2"]) (.text "a") .null).run mixedWorld).1
        = .ok [⟨"v2", 4, "Racer", 100⟩, ⟨"v1", 1, "First", 100⟩]
      ∧ ∃ us, Awarded ["v2", "v1"] "a" "" mixedWorld us
        ((award (.list [.text " v2 ", .text "v1", .null, .text "v2"]) (.text "a") .null).run mixedWorld).2 := by
  have hready : mixedWorld.store.Ready := by decide
  have hread : mixedWorld.store.Readable := by decide +kernel
  have hcatalogue : mixedWorld.store.Identified := by decide
  have hviewers : Viewer.ids? (.list [.text " v2 ", .text "v1", .null, .text "v2"]) = some ["v2", "v1"] := by
    decide +kernel
  obtain ⟨us, _, hawarded⟩ := award_awarded hready hread hcatalogue hviewers (.text "a") .null
  exact ⟨hready, hread, hcatalogue, hviewers, by decide +kernel, us, hawarded⟩

end Laurels
