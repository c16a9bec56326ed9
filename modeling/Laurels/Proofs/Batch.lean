import Laurels.Proofs.Agreement

/-!
# Several viewers at once

An award for several viewers reads everything about all of them before it adds its first row. Awarding them one
after the other reads the catalogue, the results, the counters and the ledger again for each, with the rows of
the viewers before in the ledger by then. No viewer can tell: what one has deserved does not depend on the
ledger, and the rows of one viewer are not about another (`Awarded.append`).

So an award for several viewers is the awards for each of them, put together, and in which order the viewers
are given decides nothing but the order of what is added (`batch_separable`).
-/

namespace Laurels

/-! ## Awards, put together -/

namespace Awarded

variable {ids ids₁ ids₂ : List String} {source sourceRef : String} {w w₁ w₂ : World} {us us₁ us₂ : List Unlock}

/-- What is reported is about the viewers that are given. -/
theorem viewer_mem (h : Awarded ids source sourceRef w us w₁) {u : Unlock} (hu : u ∈ us) : u.viewer ∈ ids := by
  obtain ⟨v, hv, a, _, _, rfl⟩ := (h.mem_iff u).mp hu
  exact hv

/-- What a viewer deserves does not depend on the ledger. -/
theorem deserves_iff (h : Awarded ids source sourceRef w us w₁) {v : String} {a : Achievement} :
    w₁.store.Deserves v a ↔ w.store.Deserves v a := by
  rw [h.store]
  exact Iff.rfl

/-- Viewers that are not given hold what they held. -/
theorem holds_iff (h : Awarded ids source sourceRef w us w₁) {v : String} (hv : v ∉ ids) {achievement : Int} :
    w₁.store.Holds v achievement ↔ w.store.Holds v achievement := by
  unfold Store.Holds
  rw [h.ledger_eq]
  constructor
  · rintro ⟨row, hrow, rfl, ha⟩
    rcases List.mem_append.mp hrow with hold | hnew
    · exact ⟨row, hold, rfl, ha⟩
    · obtain ⟨u, hu, rfl⟩ := List.mem_map.mp hnew
      exact absurd (h.viewer_mem hu) hv
  · rintro ⟨row, hrow, hrest⟩
    exact ⟨row, List.mem_append_left _ hrow, hrest⟩

/-- **One award after another is one award,** if they are for different viewers and at the same time. -/
theorem append (h₁ : Awarded ids₁ source sourceRef w us₁ w₁) (h₂ : Awarded ids₂ source sourceRef w₁ us₂ w₂)
    (hclock : w₁.clock = w.clock) (hother : ∀ v ∈ ids₂, v ∉ ids₁) :
    Awarded (ids₁ ++ ids₂) source sourceRef w (us₁ ++ us₂) w₂ where
  store := by
    rw [h₂.store, h₁.ledger_eq, List.append_assoc, ← List.map_append, h₁.store]
  mem_iff := by
    intro u
    -- the second award is told by the world that the first one left
    have hsecond : (∃ v ∈ ids₂, ∃ a, w₁.store.Deserves v a ∧ ¬ w₁.store.Holds v a.id
          ∧ u = ⟨v, a.id, a.name, w₁.clock.ms⟩)
        ↔ ∃ v ∈ ids₂, ∃ a, w.store.Deserves v a ∧ ¬ w.store.Holds v a.id ∧ u = ⟨v, a.id, a.name, w.clock.ms⟩ := by
      refine exists_congr fun v => and_congr_right fun hv => exists_congr fun a => ?_
      rw [h₁.deserves_iff, h₁.holds_iff (hother v hv), hclock]
    rw [List.mem_append, h₁.mem_iff, h₂.mem_iff, hsecond]
    constructor
    · rintro (⟨v, hv, hrest⟩ | ⟨v, hv, hrest⟩)
      · exact ⟨v, List.mem_append_left _ hv, hrest⟩
      · exact ⟨v, List.mem_append_right _ hv, hrest⟩
    · rintro ⟨v, hv, hrest⟩
      exact (List.mem_append.mp hv).imp (fun hv => ⟨v, hv, hrest⟩) fun hv => ⟨v, hv, hrest⟩
  once := by
    rw [List.map_append, List.nodup_append]
    refine ⟨h₁.once, h₂.once, ?_⟩
    rintro _ hp₁ _ hp₂ rfl
    obtain ⟨u₁, hu₁, rfl⟩ := List.mem_map.mp hp₁
    obtain ⟨u₂, hu₂, hpair⟩ := List.mem_map.mp hp₂
    have hviewer : u₂.viewer = u₁.viewer := congrArg Prod.fst hpair
    exact hother _ (h₂.viewer_mem hu₂) (hviewer ▸ h₁.viewer_mem hu₁)
  order := by
    rw [List.pairwise_append]
    refine ⟨?_, ?_, fun u₁ hu₁ u₂ hu₂ => Or.inl ?_⟩
    · refine h₁.order.imp_of_mem fun {u u'} hu hu' hbefore => ?_
      unfold Unlock.Before at hbefore ⊢
      rwa [List.idxOf_append_of_mem (h₁.viewer_mem hu), List.idxOf_append_of_mem (h₁.viewer_mem hu')]
    · refine h₂.order.imp_of_mem fun {u u'} hu hu' hbefore => ?_
      unfold Unlock.Before at hbefore ⊢
      rw [List.idxOf_append_of_notMem (hother _ (h₂.viewer_mem hu)),
        List.idxOf_append_of_notMem (hother _ (h₂.viewer_mem hu'))]
      exact hbefore.imp_left fun hlt => by omega
    · -- the viewers of the first award stand in front of those of the second
      rw [List.idxOf_append_of_mem (h₁.viewer_mem hu₁),
        List.idxOf_append_of_notMem (hother _ (h₂.viewer_mem hu₂))]
      have hlt := List.idxOf_lt_length_of_mem (h₁.viewer_mem hu₁)
      omega

/-- **An award is decided by the world before it.** -/
theorem unique (h₁ : Awarded ids source sourceRef w us₁ w₁) (h₂ : Awarded ids source sourceRef w us₂ w₂) :
    us₁ = us₂ ∧ w₁.store = w₂.store := by
  have hus : us₁ = us₂ := Unlock.Before.eq_of_mem_iff h₁.order h₂.order fun u => by rw [h₁.mem_iff, h₂.mem_iff]
  refine ⟨hus, ?_⟩
  rw [h₁.store, h₂.store, hus]

/-- The order in which the viewers are given decides the order of what is reported and added, and nothing
else. -/
theorem perm (h₁ : Awarded ids₁ source sourceRef w us₁ w₁) (h₂ : Awarded ids₂ source sourceRef w us₂ w₂)
    (hids : ∀ v, v ∈ ids₁ ↔ v ∈ ids₂) :
    us₁.Perm us₂ ∧ w₁.store.ledger.Perm w₂.store.ledger := by
  have hus : us₁.Perm us₂ := by
    refine (List.perm_ext_iff_of_nodup h₁.once.of_map h₂.once.of_map).mpr fun u => ?_
    rw [h₁.mem_iff, h₂.mem_iff]
    exact exists_congr fun v => and_congr_left fun _ => hids v
  refine ⟨hus, ?_⟩
  rw [h₁.ledger_eq, h₂.ledger_eq]
  exact (hus.map _).append_left _

end Awarded

/-! ## One viewer after the other -/

/-- Award viewers one after the other, each with an award of its own. -/
def awardEach (source sourceRef : Value) : List String → Procedure (List Unlock)
  | [] => .done []
  | viewer :: rest => do
    let us ← award (.list [.text viewer]) source sourceRef
    let others ← awardEach source sourceRef rest
    pure (us ++ others)

/-- A clock that stands still shows the same time after any run. -/
theorem Procedure.run_clock {α : Type} (p : Procedure α) {w : World} (hclock : w.clock.tick = 0) :
    (p.run w).2.clock = w.clock := by
  induction p generalizing w with
  | done a => rfl
  | raise e => rfl
  | query q next ih => exact ih (w.ask q).1 (w := (w.ask q).2) hclock
  | now next ih =>
    have hread : w.readClock.2.clock = w.clock := by
      show Clock.mk (w.clock.ms + w.clock.tick) w.clock.tick = w.clock
      rw [hclock, Int.add_zero, ← hclock]
    rw [← hread]
    exact ih w.readClock.1 (w := w.readClock.2) hclock
  | log line next ih => exact ih (w := w.write line) hclock

/-- An award for no viewers. -/
theorem awarded_nil (source sourceRef : String) {w : World} (hready : w.store.Ready) :
    Awarded [] source sourceRef w [] w where
  store := by
    rw [List.map_nil, List.append_nil, Store.unlocks_ledger (hready.has .unlocks)]
  mem_iff := by simp
  once := List.nodup_nil
  order := .nil

/-- **One viewer after the other is all at once.** -/
theorem awardEach_run {texts ids : List String} (hsub : ids ⊆ Viewer.distinct texts) (hids : ids.Nodup)
    (source sourceRef : Value) {w : World} (hready : w.store.Ready) (hread : w.store.Readable)
    (hcatalogue : w.store.Identified) (hclock : w.clock.tick = 0) :
    ∃ us, ((awardEach source sourceRef ids).run w).1 = .ok us
      ∧ Awarded ids source.asText sourceRef.asText w us ((awardEach source sourceRef ids).run w).2 := by
  induction ids generalizing w with
  | nil => exact ⟨[], rfl, awarded_nil _ _ hready⟩
  | cons viewer rest ih =>
    rw [List.cons_subset] at hsub
    rw [List.nodup_cons] at hids
    have hfirst := awardIds_run hready hread hcatalogue (List.nodup_singleton viewer) source.asText sourceRef.asText
    have hsame := (awardIds [viewer] source.asText sourceRef.asText).run_clock hclock
    rw [← award_eq (Viewer.ids?_text hsub.1)] at hfirst hsame
    obtain ⟨us₁, hr₁, h₁⟩ := hfirst
    -- the award for the first viewer leaves a store that the others can be awarded on
    obtain ⟨us₂, hr₂, h₂⟩ := ih hsub.2 hids.2 (h₁.ready hready) (h₁.readable hread) (h₁.identified hcatalogue)
      (by rw [hsame]; exact hclock)
    have hrun : (awardEach source sourceRef (viewer :: rest)).run w
        = (.ok (us₁ ++ us₂), ((awardEach source sourceRef rest).run
            ((award (.list [.text viewer]) source sourceRef).run w).2).2) := by
      rw [awardEach, Procedure.run_seq hr₁, Procedure.run_seq hr₂]
      rfl
    rw [hrun]
    exact ⟨us₁ ++ us₂, rfl, h₁.append h₂ hsame fun v hv heq => hids.1 (List.mem_singleton.mp heq ▸ hv)⟩

/-! ## The award for several viewers -/

/-- How an award for several viewers compares with the awards for each of them. -/
structure Separable (w : World) (viewers source sourceRef : Value) (ids : List String) (us : List Unlock) :
    Prop where
  /-- The award is answered. -/
  together : ((award viewers source sourceRef).run w).1 = .ok us
  /-- What the awards for each viewer report, one after the other, is what it reports. -/
  apart : ((awardEach source sourceRef ids).run w).1 = .ok us
  /-- They leave the same tables. -/
  store : ((awardEach source sourceRef ids).run w).2.store = ((award viewers source sourceRef).run w).2.store
  /-- Another list that names the same viewers is awarded the same, perhaps in another order. -/
  reordered : ∀ (viewers' : Value) (ids' : List String), Viewer.ids? viewers' = some ids' →
    (∀ v, v ∈ ids' ↔ v ∈ ids) →
      ∃ us', ((award viewers' source sourceRef).run w).1 = .ok us' ∧ us'.Perm us
        ∧ ((award viewers' source sourceRef).run w).2.store.ledger.Perm
          ((award viewers source sourceRef).run w).2.store.ledger

/--
**Viewers are awarded together as they are one by one,** in any order. All tables are there, every text among the
criteria on offer is accepted or rejected, and the clock stands still.
-/
theorem batch_separable {w : World} (hready : w.store.Ready) (hread : w.store.Readable)
    (hcatalogue : w.store.Identified) (hclock : w.clock.tick = 0) {viewers : Value} {ids : List String}
    (hviewers : Viewer.ids? viewers = some ids) (source sourceRef : Value) :
    ∃ us, Separable w viewers source sourceRef ids us := by
  have hawarded : ∀ {viewers' : Value} {ids' : List String}, Viewer.ids? viewers' = some ids' →
      ∃ us', ((award viewers' source sourceRef).run w).1 = .ok us'
        ∧ Awarded ids' source.asText sourceRef.asText w us' ((award viewers' source sourceRef).run w).2 := by
    intro viewers' ids' hviewers'
    rw [award_eq hviewers']
    exact awardIds_run hready hread hcatalogue (nodup_ids hviewers') _ _
  obtain ⟨us, hus, h⟩ := hawarded hviewers
  obtain ⟨items, _, hids⟩ := Option.map_eq_some_iff.mp hviewers
  obtain ⟨us₁, hus₁, h₁⟩ := awardEach_run (fun _ hv => hids ▸ hv) (nodup_ids hviewers) source sourceRef
    hready hread hcatalogue hclock
  obtain ⟨rfl, hstore⟩ := h₁.unique h
  refine ⟨us₁, hus, hus₁, hstore, fun viewers' ids' hviewers' hsame => ?_⟩
  obtain ⟨us', hus', h'⟩ := hawarded hviewers'
  obtain ⟨hperm, hledger⟩ := h'.perm h hsame
  exact ⟨us', hus', hperm, hledger⟩

/-- The catalogue out of order, under a clock that stands still. -/
def stillWorld : World := { mixedWorld with clock := ⟨100, 0⟩ }

/-- Two viewers together, one after the other, and the other way round. -/
theorem batch_separable_mixed :
    stillWorld.store.Ready ∧ stillWorld.store.Readable ∧ stillWorld.store.Identified ∧ stillWorld.clock.tick = 0
      ∧ Viewer.ids? (.list [.text " v2 ", .text "v1", .null, .text "v2"]) = some ["v2", "v1"]
      ∧ Viewer.ids? (.list [.text "v1", .text "", .text "v2 "]) = some ["v1", "v2"]
      ∧ ((awardEach (.text "a") .null ["v2", "v1"]).run stillWorld).1
        = .ok [⟨"v2", 4, "Racer", 100⟩, ⟨"v1", 1, "First", 100⟩]
      ∧ ((award (.list [.text "v1", .text "", .text "v2 "]) (.text "a") .null).run stillWorld).1
        = .ok [⟨"v1", 1, "First", 100⟩, ⟨"v2", 4, "Racer", 100⟩]
      ∧ ∃ us, Separable stillWorld (.list [.text " v2 ", .text "v1", .null, .text "v2"]) (.text "a") .null
        ["v2", "v1"] us := by
  have hready : stillWorld.store.Ready := by decide
  have hread : stillWorld.store.Readable := by decide +kernel
  have hcatalogue : stillWorld.store.Identified := by decide
  have hviewers : Viewer.ids? (.list [.text " v2 ", .text "v1", .null, .text "v2"]) = some ["v2", "v1"] := by
    decide +kernel
  exact ⟨hready, hread, hcatalogue, rfl, hviewers, by decide +kernel, by decide +kernel, by decide +kernel,
    batch_separable hready hread hcatalogue rfl hviewers (.text "a") .null⟩

end Laurels
