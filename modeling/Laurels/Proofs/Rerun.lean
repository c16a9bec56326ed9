import Laurels.Proofs.Batch
import Laurels.Proofs.Outage
import Laurels.Proofs.Unanswered

/-!
# Awarding again

An award can be cut short at any of its queries, and what it has added by then stays in the ledger. It is safe to
award again. The rows are the first of those that the award would have added (`awardIds_course`); an award on a store
that holds them, with nothing else changed, adds the others (`Awarded.rest`); and where nothing is missing an award
asks for no insertion (`awardIds_looks`), even if some tables are missing by then (`awardIds_idle`). The main
statement is `award_rerun`.
-/

namespace Laurels

/-! ## Runs that only read -/

/-- A run of a procedure alone that ends with an answer, and in which every query reads. -/
def Procedure.Looks {α : Type} (p : Procedure α) (w : World) (a : α) : Prop :=
  ∃ es v, AmidNothing p w es (.done a) v ∧ v.store = w.store ∧ ∀ query reply, .asked query reply ∈ es → query.Reads

namespace Procedure

variable {α β : Type} {w : World}

theorem looks_done (a : α) (w : World) : (Procedure.done a).Looks w a :=
  ⟨[], w, .stay _ w, rfl, fun _ _ he => absurd he List.not_mem_nil⟩

/-- A procedure that asks for nothing but reading looks, if it is answered. -/
theorem Answers.looks {p : Procedure α} {a : α} (h : p.Answers w a) (hasks : p.Asks Query.Reads) : p.Looks w a := by
  obtain ⟨hr, hs⟩ := h
  obtain ⟨es, hrun⟩ := amid_run (fun _ _ => False) p w
  rw [hr] at hrun
  exact ⟨es, _, hrun, hs, fun _ _ he => hasks.adequate hrun.follows he⟩

theorem Looks.bind {p : Procedure α} {f : α → Procedure β} {a : α} {b : β} (hp : p.Looks w a)
    (hf : ∀ v : World, v.store = w.store → (f a).Looks v b) : (p >>= f).Looks w b := by
  obtain ⟨es, u, hrun, hs, hreads⟩ := hp
  obtain ⟨es', v, hrun', hs', hreads'⟩ := hf u hs
  refine ⟨es ++ es', v, (hrun.bind f).trans hrun', hs'.trans hs, fun query reply he => ?_⟩
  exact (List.mem_append.mp he).elim (hreads query reply) (hreads' query reply)

theorem Looks.rescue {p : Procedure α} {a : α} (h : p.Looks w a) (handler : Fault → Procedure α) :
    (p.rescue handler).Looks w a := by
  obtain ⟨es, v, hrun, hrest⟩ := h
  exact ⟨es, v, hrun.rescue handler, hrest⟩

end Procedure

/-! ## An award with nothing left to do -/

theorem Store.mem_pairs_of_holds {s : Store} {viewers : List String} {achievements : List Int} {viewer : String}
    {achievement : Int} (hv : viewer ∈ viewers) (ha : achievement ∈ achievements) (h : s.Holds viewer achievement) :
    (viewer, achievement) ∈ pairs s.ledger viewers achievements := by
  obtain ⟨row, hrow, rfl, rfl⟩ := h
  exact List.mem_map.mpr ⟨row, List.mem_filter.mpr ⟨hrow, by simp [hv, ha]⟩, rfl⟩

/-- If the store is in order, the unlocked pairs that are fetched are those of its ledger. -/
theorem Procedure.fetchPairs_looks {w : World} (hready : w.store.Ready) {viewers : List String}
    {achievements : List Int} (hv : viewers ≠ []) (ha : achievements ≠ []) :
    (fetchPairs (viewers.map .text) (achievements.map .int)).Looks w
      (Store.pairs w.store.ledger viewers achievements) := by
  refine Answers.looks ?_ (fetchPairs_asks _ _)
  unfold fetchPairs
  rw [if_neg (by simp [hv, ha])]
  refine ask_answers (s := w.store) ?_ rfl
  rw [Store.answer_of_ready hready]
  simp only [Store.serve, Value.texts_map_text, Value.integers_map_int]
  rfl

/-- Where all that is satisfied is unlocked, there is nothing to add. -/
theorem unlockAll_nothing (o : Occasion) {candidates : List Candidate} {existing : List (String × Int)}
    (h : ∀ c ∈ candidates, satisfied c.2.2.clauses c.2.1 = true → (c.1, c.2.2.achievement.id) ∈ existing) :
    unlockAll o candidates existing = .done [] := by
  induction candidates with
  | nil => rfl
  | cons c candidates ih =>
    obtain ⟨viewer, snapshot, rule⟩ := c
    rw [List.forall_mem_cons] at h
    unfold unlockAll
    split
    · exact ih h.2
    · rename_i hnot
      have hunsatisfied : satisfied rule.clauses snapshot = false := by
        rw [Bool.eq_false_iff]
        exact fun hsat => hnot (List.contains_iff_mem.mpr (h.1 hsat))
      rw [if_pos (by rw [hunsatisfied]; rfl)]
      exact ih h.2

/-- All that the viewers deserve is in the ledger. -/
def Store.Settled (s : Store) (ids : List String) : Prop :=
  ∀ viewer ∈ ids, ∀ a, s.Deserves viewer a → s.Holds viewer a.id

/-- What a rule is satisfied for is among the pairs that are fetched. -/
theorem Store.Settled.fetched {s : Store} {ids : List String} (h : s.Settled ids) :
    ∀ c ∈ candidatesOf ids (.ofFetched (tallies s.resultRows ids)
        (counts s.counterRows ids (wantedKeys (Rule.actionKeys s.rules)))) s.rules,
      satisfied c.2.2.clauses c.2.1 = true →
        (c.1, c.2.2.achievement.id) ∈ pairs s.ledger ids (s.rules.map (·.achievement.id)) := by
  intro c hc hsat
  obtain ⟨⟨v, snapshot⟩, hvs, hc⟩ := List.mem_flatMap.mp hc
  obtain ⟨v', hv, heq⟩ := List.mem_map.mp hvs
  obtain ⟨rule, hrule, rfl⟩ := List.mem_map.mp hc
  cases heq
  change satisfied rule.clauses _ = true at hsat
  rw [satisfied_ofFetched s s hv hrule] at hsat
  have hheld := h _ hv rule.achievement (deserves_iff.mpr ⟨rule, hrule, rfl, hsat⟩)
  exact mem_pairs_of_holds hv (List.mem_map.mpr ⟨rule, hrule, rfl⟩) hheld

open Procedure in
/-- **An award with nothing left to do only looks.** -/
theorem awardIds_looks {w : World} (hready : w.store.Ready) (hread : w.store.Readable) {ids : List String}
    (hsettled : w.store.Settled ids) (source sourceRef : String) : (awardIds ids source sourceRef).Looks w [] := by
  unfold awardIds
  split
  · exact looks_done _ w
  rename_i hids
  have hv : ids ≠ [] := by simpa using hids
  refine Looks.rescue ?_ _
  unfold awardPass
  refine ((ask_activeAchievements_answers hready).looks (asks_ask trivial)).bind fun w₁ h₁ => ?_
  obtain ⟨_, rules, hcompiled, _, _, rfl⟩ :=
    (compile_ensures true fun _ ha hid _ => hread.active ha hid).answers (compile_asks true _) h₁
  refine (hcompiled.looks (compile_asks true _)).bind fun w₂ h₂ => ?_
  show Looks (if w.store.rules.isEmpty = true then _ else _) _ _
  split
  · exact looks_done _ w₂
  rename_i hrules
  have hsome : w.store.rules ≠ [] := by simpa using hrules
  obtain ⟨_, snapshots, htaken, _, _, s₁, s₂, rfl, rfl, rfl⟩ :=
    (takeSnapshots_ensures (steady_eq hready) hv _).answers (takeSnapshots_asks _ _) (h₂.trans h₁)
  refine (htaken.looks (takeSnapshots_asks _ _)).bind fun w₃ h₃ => ?_
  have hw₃ : w₃.store = w.store := h₃.trans (h₂.trans h₁)
  have hfetched := fetchPairs_looks (w := w₃) (hw₃ ▸ hready) hv
    (show w.store.rules.map (·.achievement.id) ≠ [] by simpa using hsome)
  rw [List.map_map, hw₃] at hfetched
  refine hfetched.bind fun w₄ h₄ => ?_
  refine (Answers.looks ⟨rfl, rfl⟩ asks_readClock).bind fun w₅ h₅ => ?_
  have hnothing := unlockAll_nothing ⟨w₄.readClock.1, source, sourceRef⟩ hsettled.fetched
  refine Looks.bind (a := []) ?_ fun w₆ _ => looks_done _ w₆
  exact (congrArg (fun p : Procedure _ => p.Looks w₅ []) hnothing).mpr (looks_done _ w₅)

/-! ## With tables missing -/

/-- The query that a step asks, if it asks one. -/
def Event.query? : Event → Option Query
  | .asked q _ => some q
  | .told _ => none
  | .wrote _ => none

/-- A run that is answered with nothing, leaves the tables as they were, and asks for nothing but reading. -/
structure Idle (p : Procedure (List Unlock)) (w : World) : Prop where
  answers : p.Answers w []
  reads : ∃ qs, (p.run w).2.queries = w.queries ++ qs ∧ ∀ q ∈ qs, q.Reads

section

variable {α : Type} {p q : Procedure α} {w v : World} {es : List Event}

/-- The queries of a run are those of its steps. -/
theorem Amid.alone_queries (h : AmidNothing p w es q v) : v.queries = w.queries ++ es.filterMap Event.query? := by
  induction h with
  | stay p w => exact (List.append_nil _).symm
  | outside change rest ih => exact False.elim change
  | step takes answers rest ih =>
    rw [ih]
    cases answers with
    | asked query => exact List.append_assoc _ _ _
    | told => rfl
    | wrote line => rfl

/-- A run whose queries all read leaves the store as it was. -/
theorem Amid.alone_same (h : AmidNothing p w es q v) (hreads : ∀ query reply, .asked query reply ∈ es → query.Reads) :
    v.store = w.store := by
  refine (h.interleaving.invariant (P := (· = w.store)) (fun _ _ change => False.elim change) ?_ rfl).1
  rintro s query ⟨x, hx, he⟩ rfl
  obtain ⟨e, hes, rfl⟩ := List.mem_map.mp hx
  rw [show e = Event.asked query _ from he] at hes
  exact Store.answer_of_reads (hreads query _ hes)

end

theorem ended_inj {α : Type} {r r' : Except Fault α} (h : Procedure.ended r = .ended r') : r = r' := by
  cases r <;> cases r' <;> cases h <;> rfl

/-- What takes the course of a procedure that only looks does the same, and where it is refused a table, it ends with
nothing awarded. -/
theorem Course.looks {p m : Procedure (List Unlock)} {w w' v : World} {es : List Event} {r : Except Fault (List Unlock)}
    (h : Course (fun _ _ => False) (fun fault => nothingAwarded (.store fault)) p w w' es m v)
    (hend : Procedure.ended r = m) (hlooks : p.Looks w [])
    (hreach : ∀ es m u, AmidNothing p w' es m u → u.store.failing = []) :
    r = .ok [] ∧ ∀ query reply, .asked query reply ∈ es → query.Reads := by
  obtain ⟨full, _, hfull, _, hreads⟩ := hlooks
  cases h with
  | calm shadows =>
    obtain ⟨_, halone, _⟩ := shadows
    obtain ⟨rest, rfl, hrest⟩ := halone.alone_unique (r := .ok []) hfull
    subst hend
    obtain ⟨rfl, hnothing, _⟩ := hrest.of_ended
    rw [List.append_nil] at hreads
    exact ⟨(ended_inj (r := .ok []) hnothing).symm, hreads⟩
  | @broken before rest query fault next _ u _ upto shadows refuses stops =>
    obtain ⟨_, halone, _⟩ := shadows
    obtain ⟨rest', rfl, hrest⟩ := halone.alone_unique (r := .ok []) hfull
    -- the query that is refused is the next one that would have been asked
    obtain ⟨_, _, _, rfl, _⟩ := Amid.of_query (r := .ok []) hrest
    obtain ⟨t, _, _, rfl⟩ := Store.missing_of_refusal? (hreach _ _ _ upto) refuses
    subst hend
    obtain ⟨_, _, _, rfl, hlast⟩ := Amid.of_log stops
    obtain ⟨rfl, hnothing, _⟩ := Amid.of_ended (r := .ok []) hlast
    have hend : Procedure.ended r = .ended (.ok []) := hnothing
    refine ⟨ended_inj hend, fun query' reply' he => ?_⟩
    rcases List.mem_append.mp he with he | he
    · exact hreads query' reply' (List.mem_append_left _ he)
    · rcases List.mem_cons.mp he with heq | he
      · cases heq
        exact hreads query _ (List.mem_append_right _ List.mem_cons_self)
      · cases List.mem_singleton.mp he

/-- **With nothing left to do an award is idle,** and it still is if tables are missing. -/
theorem awardIds_idle {s : Store} (hready : s.Ready) (hread : s.Readable) {ids : List String} (hsettled : s.Settled ids)
    {u : World} (hleft : s.Remnant u.store) (hreach : u.store.failing = []) (source sourceRef : String) :
    Idle (awardIds ids source sourceRef) u := by
  have hasks := Procedure.awardIds_asks ids source sourceRef
  obtain ⟨es, hrun⟩ := amid_run (fun _ _ => False) (awardIds ids source sourceRef) u
  -- it is compared with the award in the whole store
  have hcourse := hrun.course (fun _ _ change => False.elim change) (Procedure.awardIds_stops ids source sourceRef) hasks
    (w := { u with store := s }) hready hleft rfl
  have hlooks : (awardIds ids source sourceRef).Looks { u with store := s } [] :=
    awardIds_looks hready hread hsettled source sourceRef
  obtain ⟨hanswer, hreads⟩ := hcourse.looks rfl hlooks fun es m v hupto =>
    hupto.invariant (P := fun s => s.failing = []) hasks (fun _ _ change _ => False.elim change)
      (fun s q _ hs => (Store.failing_answer s q).trans hs) hreach
  refine ⟨⟨hanswer, hrun.alone_same hreads⟩, es.filterMap Event.query?, hrun.alone_queries, fun query hquery => ?_⟩
  obtain ⟨e, he, heq⟩ := List.mem_filterMap.mp hquery
  cases e with
  | asked query' reply =>
    cases heq
    exact hreads _ reply he
  | told t => cases heq
  | wrote line => cases heq

/-! ## An award for what is left -/

/-- The same unlock at another time. -/
def Unlock.at (time : Int) (u : Unlock) : Unlock := { u with time := time }

theorem Store.holds_withAdded {s : Store} {rows : List UnlockRow} {viewer : String} {achievement : Int} :
    (s.withAdded rows).Holds viewer achievement
      ↔ s.Holds viewer achievement ∨ ∃ row ∈ rows, row.viewer = viewer ∧ row.achievement = achievement := by
  unfold Holds
  show (∃ row ∈ s.ledger ++ rows, _) ↔ _
  constructor
  · rintro ⟨row, hrow, hrest⟩
    exact (List.mem_append.mp hrow).imp (fun h => ⟨row, h, hrest⟩) fun h => ⟨row, h, hrest⟩
  · rintro (⟨row, hrow, hrest⟩ | ⟨row, hrow, hrest⟩)
    · exact ⟨row, List.mem_append_left _ hrow, hrest⟩
    · exact ⟨row, List.mem_append_right _ hrow, hrest⟩

namespace Awarded

variable {ids : List String} {source sourceRef source' sourceRef' : String} {w w' u u' : World}
  {us made left us' : List Unlock}

/-- After an award nothing is left to do for its viewers. -/
theorem settled (h : Awarded ids source sourceRef w us w') :
    (w.store.withAdded (us.map (Unlock.row source sourceRef))).Settled ids := by
  intro v hv a ha
  rw [Store.holds_withAdded]
  by_cases hheld : w.store.Holds v a.id
  · exact Or.inl hheld
  · have hu := (h.mem_iff ⟨v, a.id, a.name, w.clock.ms⟩).mpr ⟨v, hv, a, ha, hheld, rfl⟩
    exact Or.inr ⟨_, List.mem_map.mpr ⟨_, hu, rfl⟩, rfl, rfl⟩

/-- **What was not made is what is left to make:** an award on a store that holds the first of the unlocks reports the
others, at its own time. -/
theorem rest (h : Awarded ids source sourceRef w (made ++ left) w')
    (hu : u.store = w.store.withAdded (made.map (Unlock.row source sourceRef)))
    (h' : Awarded ids source' sourceRef' u us' u') : us' = left.map (Unlock.at u.clock.ms) := by
  have hdeserves : ∀ {v : String} {a : Achievement}, u.store.Deserves v a ↔ w.store.Deserves v a := by
    intro v a
    rw [hu]
    exact Iff.rfl
  have hholds : ∀ {v : String} {achievement : Int}, u.store.Holds v achievement
      ↔ w.store.Holds v achievement ∨ ∃ x ∈ made, x.viewer = v ∧ x.achievement = achievement := by
    intro v achievement
    rw [hu, Store.holds_withAdded]
    exact or_congr_right (by simp [Unlock.row])
  refine Unlock.Before.eq_of_mem_iff h'.order (List.pairwise_map.mpr (List.pairwise_append.mp h.order).2.1) fun x => ?_
  rw [h'.mem_iff, List.mem_map]
  constructor
  · rintro ⟨v, hv, a, ha, hnew, rfl⟩
    rw [hholds, not_or] at hnew
    have hall := (h.mem_iff _).mpr ⟨v, hv, a, hdeserves.mp ha, hnew.1, rfl⟩
    refine ⟨_, (List.mem_append.mp hall).resolve_left fun hmade => hnew.2 ⟨_, hmade, rfl, rfl⟩, rfl⟩
  · rintro ⟨y, hy, rfl⟩
    obtain ⟨v, hv, a, ha, hnew, rfl⟩ := (h.mem_iff y).mp (List.mem_append_right _ hy)
    refine ⟨v, hv, a, hdeserves.mpr ha, ?_, rfl⟩
    rw [hholds, not_or]
    refine ⟨hnew, ?_⟩
    rintro ⟨x, hx, hviewer, hachievement⟩
    -- a pair is reported once, so what is left is not among what was made
    have hdisjoint := h.once
    rw [List.map_append, List.nodup_append] at hdisjoint
    exact hdisjoint.2.2 _ (List.mem_map.mpr ⟨x, hx, rfl⟩) _ (List.mem_map.mpr ⟨_, hy, rfl⟩)
      (Prod.ext hviewer hachievement)

end Awarded

/-! ## The award that was cut short, and the next one -/

/-- What an award for what is left reports and adds: that, at its own time and perhaps in another order. -/
structure Completes (p : Procedure (List Unlock)) (source sourceRef : String) (u : World) (left us : List Unlock) :
    Prop where
  reports : (p.run u).1 = .ok us
  rest : us.Perm (left.map (Unlock.at u.clock.ms))
  /-- It adds to the ledger, and leaves all that is there as it is. -/
  store : (p.run u).2.store = u.store.withAdded (us.map (Unlock.row source sourceRef))

/-- What an award has come to that was cut short, or not, having taken the steps `es`, and what can be made of it. -/
structure Rerunnable (w : World) (viewers source sourceRef : Value) (ids : List String) (es : List Event)
    (q : Procedure (List Unlock)) (v : World) (made left : List Unlock) : Prop where
  /-- The rows that were added are those of the unlocks that were made, -/
  added : addedIn es = made.map (Unlock.row source.asText sourceRef.asText)
  /-- and whatever is left of the tables has them. -/
  kept : (w.store.withAdded (addedIn es)).Remnant v.store
  /-- If no query was refused, the award reports what it made, and nothing is left. -/
  finished : (∀ e ∈ es, ¬ e.Refused) → ∀ r, q = .ended r → r = .ok made ∧ left = []
  /-- With all tables there again, another award for the same viewers does what is left, -/
  rerun : ∀ u : World, u.store = w.store.withAdded (addedIn es) →
    ∀ viewers' ids', Viewer.ids? viewers' = some ids' → (∀ viewer, viewer ∈ ids' ↔ viewer ∈ ids) →
      ∀ source' sourceRef' : Value, ∃ us,
        Completes (award viewers' source' sourceRef') source'.asText sourceRef'.asText u left us
          ∧ (ids' = ids → us = left.map (Unlock.at u.clock.ms))
  /-- and the ledger then has the pairs that it would have had without the cut. -/
  pairs : ∀ u : World, u.store = w.store.withAdded (addedIn es) →
    ∀ viewers' ids', Viewer.ids? viewers' = some ids' → (∀ viewer, viewer ∈ ids' ↔ viewer ∈ ids) →
      ∀ source' sourceRef' : Value,
        (((award viewers' source' sourceRef').run u).2.store.ledger.map UnlockRow.pair).Perm
          (((award viewers source sourceRef).run w).2.store.ledger.map UnlockRow.pair)
  /-- If nothing is left, an award for any of the viewers is idle. -/
  idle : left = [] → ∀ u : World, (w.store.withAdded (addedIn es)).Remnant u.store → u.store.failing = [] →
    ∀ viewers' ids', Viewer.ids? viewers' = some ids' → ids' ⊆ ids → ∀ source' sourceRef' : Value,
      Idle (award viewers' source' sourceRef') u

/-- The pairs of rows that stand for unlocks are those of the unlocks. -/
theorem map_pair_row (source sourceRef : String) (us : List Unlock) :
    (us.map (Unlock.row source sourceRef)).map UnlockRow.pair = us.map Unlock.pair := by
  rw [List.map_map]
  rfl

namespace Completes

variable {p : Procedure (List Unlock)} {source sourceRef : String} {u : World} {left us : List Unlock}

theorem ledger_eq (h : Completes p source sourceRef u left us) :
    (p.run u).2.store.ledger = u.store.ledger ++ us.map (Unlock.row source sourceRef) := by
  rw [h.store]
  rfl

/-- The pairs of an unlock do not depend on its time. -/
theorem pairs (h : Completes p source sourceRef u left us) : (us.map Unlock.pair).Perm (left.map Unlock.pair) := by
  have hpairs := h.rest.map Unlock.pair
  rwa [List.map_map] at hpairs

end Completes

section

variable {ids : List String} {source sourceRef : String} {w w' v : World} {us : List Unlock} {es : List Event}
  {q : Procedure (List Unlock)}

/-- **An award through outages makes the first of the unlocks** that it would have made, and all of them if it comes to
its end without a refusal. -/
theorem Awarded.cut (hready : w.store.Ready)
    (hus : ((awardIds ids source sourceRef).run w).1 = .ok us)
    (hawarded : Awarded ids source sourceRef w us ((awardIds ids source sourceRef).run w).2)
    (h : Amid Outage (awardIds ids source sourceRef) w' es q v) (hleft : w.store.Remnant w'.store)
    (hclock : w'.clock = w.clock) :
    ∃ made left, us = made ++ left ∧ addedIn es = made.map (Unlock.row source sourceRef)
      ∧ (w.store.withAdded (addedIn es)).Remnant v.store
      ∧ ((∀ e ∈ es, ¬ e.Refused) → ∀ r, q = .ended r → r = .ok made ∧ left = []) := by
  have hasks := Procedure.awardIds_asks ids source sourceRef
  obtain ⟨before, m, u, halone, hadded, hkept, hcalm⟩ := awardIds_course h hready hleft hclock
  obtain ⟨full, hfull⟩ := amid_run (fun _ _ => False) (awardIds ids source sourceRef) w
  have hledger : w.store.ledger ++ addedIn full = w.store.ledger ++ us.map (Unlock.row source sourceRef) :=
    (congrArg Store.ledger (hfull.alone_store hasks hready)).symm.trans hawarded.ledger_eq
  obtain ⟨rest, rfl, hrest⟩ := halone.alone_unique hfull
  have hrows := List.append_cancel_left hledger
  rw [addedIn_append, List.append_eq_map_iff] at hrows
  obtain ⟨made, left, rfl, hmade, hmissing⟩ := hrows
  refine ⟨made, left, rfl, hadded.trans hmade.symm, hkept, fun hnone r hend => ?_⟩
  -- without a refusal the steps are all that the award has to take
  obtain rfl := hcalm hnone
  subst hend
  obtain ⟨rfl, hend, _⟩ := hrest.of_ended
  have hempty : left = [] := List.map_eq_nil_iff.mp hmissing
  rw [hempty, List.append_nil] at hus
  exact ⟨(ended_inj hend).symm.trans hus, hempty⟩

end

/--
**It is safe to award again.** In a store in order an award is answered, and adds the rows of what it reports. Amid
outages it makes the first of these unlocks; `Rerunnable` says what can be made of what it leaves, and that after an
award that was not cut short there is nothing left to add.
-/
theorem award_rerun {w : World} (hready : w.store.Ready) (hread : w.store.Readable) (hcatalogue : w.store.Identified)
    {viewers : Value} {ids : List String} (hviewers : Viewer.ids? viewers = some ids) (source sourceRef : Value) :
    ∃ us, ((award viewers source sourceRef).run w).1 = .ok us
      ∧ ((award viewers source sourceRef).run w).2.store
        = w.store.withAdded (us.map (Unlock.row source.asText sourceRef.asText))
      ∧ ∀ w' es q v, w.store.Remnant w'.store → w'.clock = w.clock →
          Amid Outage (award viewers source sourceRef) w' es q v →
          ∃ made left, us = made ++ left ∧ Rerunnable w viewers source sourceRef ids es q v made left := by
  obtain ⟨us, hus, hawarded⟩ :=
    awardIds_run hready hread hcatalogue (nodup_ids hviewers) source.asText sourceRef.asText
  rw [award_eq hviewers]
  refine ⟨us, hus, hawarded.store, fun w' es q v hleft hclock h => ?_⟩
  obtain ⟨made, left, rfl, hadded, hkept, hfinished⟩ := hawarded.cut hready hus h hleft hclock
  -- the award that follows is one on a store in order, and `Awarded` says all of it
  have hagain : ∀ u : World, u.store = w.store.withAdded (addedIn es) → ∀ viewers' ids',
      Viewer.ids? viewers' = some ids' → (∀ viewer, viewer ∈ ids' ↔ viewer ∈ ids) → ∀ source' sourceRef' : Value,
        ∃ us', Completes (award viewers' source' sourceRef') source'.asText sourceRef'.asText u left us'
          ∧ (ids' = ids → us' = left.map (Unlock.at u.clock.ms)) := by
    intro u hu viewers' ids' hviewers' hsame source' sourceRef'
    have hready' : u.store.Ready := hu ▸ hready.withLedger _
    have hread' : u.store.Readable := hu ▸ hread.withLedger _
    have hcatalogue' : u.store.Identified := hu ▸ hcatalogue
    rw [award_eq hviewers']
    obtain ⟨us', hus', h'⟩ := awardIds_run hready' hread' hcatalogue' (nodup_ids hviewers') source'.asText
      sourceRef'.asText
    obtain ⟨us'', _, h''⟩ := awardIds_run hready' hread' hcatalogue' (nodup_ids hviewers) source'.asText
      sourceRef'.asText
    obtain rfl := hawarded.rest (hadded ▸ hu) h''
    refine ⟨us', ⟨hus', (h'.perm h'' hsame).1, h'.store⟩, ?_⟩
    rintro rfl
    exact Unlock.Before.eq_of_mem_iff h'.order h''.order fun x => by rw [h'.mem_iff, h''.mem_iff]
  refine ⟨made, left, rfl, hadded, hkept, hfinished, hagain, ?_, ?_⟩
  · intro u hu viewers' ids' hviewers' hsame source' sourceRef'
    obtain ⟨us', hcompletes, _⟩ := hagain u hu viewers' ids' hviewers' hsame source' sourceRef'
    rw [award_eq hviewers, hawarded.ledger_eq, List.map_append, map_pair_row, hcompletes.ledger_eq, hu, hadded]
    show ((w.store.ledger ++ _ ++ _).map UnlockRow.pair).Perm _
    rw [List.map_append, List.map_append, map_pair_row, map_pair_row, List.map_append, List.append_assoc]
    exact ((hcompletes.pairs).append_left _).append_left _
  · rintro rfl u hu hreach viewers' ids' hviewers' hsub source' sourceRef'
    rw [List.append_nil] at hawarded
    rw [hadded] at hu
    rw [award_eq hviewers']
    exact awardIds_idle (hready.withLedger _) (hread.withLedger _)
      (fun v hv => hawarded.settled v (hsub hv)) hu hreach _ _

/-- Whether a query inserts into the ledger. -/
def insertsUnlock : Query → Bool
  | .insertUnlock _ => true
  | _ => false

/-- An award for two viewers, up to and including its first insertion. -/
def halfway : Procedure (List Unlock) × World :=
  (award (.list [.text "v2", .text "v1"]) (.text "a") .null).runThrough insertsUnlock mixedWorld

/-- The world in which the ledger is lost after that insertion. -/
def lostWorld : World := { halfway.2 with store := { halfway.2.store with unlocks := none } }

/-- The ledger is lost before the second of two insertions. The award is answered with nothing, and one unlock is left
to make. -/
theorem award_rerun_halfway :
    mixedWorld.store.Ready ∧ mixedWorld.store.Readable ∧ mixedWorld.store.Identified
      ∧ Viewer.ids? (.list [.text "v2", .text "v1"]) = some ["v2", "v1"]
      ∧ ∃ es v, Amid Outage (award (.list [.text "v2", .text "v1"]) (.text "a") .null) mixedWorld es (.done []) v
        ∧ v.store.unlocks = none
        ∧ Rerunnable mixedWorld (.list [.text "v2", .text "v1"]) (.text "a") .null ["v2", "v1"] es (.done []) v
          [⟨"v2", 4, "Racer", 100⟩] [⟨"v1", 1, "First", 100⟩] := by
  have hready : mixedWorld.store.Ready := by decide
  have hread : mixedWorld.store.Readable := by decide +kernel
  have hcatalogue : mixedWorld.store.Identified := by decide
  have hviewers : Viewer.ids? (.list [.text "v2", .text "v1"]) = some ["v2", "v1"] := by decide +kernel
  obtain ⟨es₁, hfirst⟩ : ∃ es, AmidNothing (award (.list [.text "v2", .text "v1"]) (.text "a") .null) mixedWorld es
      halfway.1 halfway.2 := (turn_runThrough _ insertsUnlock _ mixedWorld).imp fun _ => Turn.amid
  obtain ⟨es₂, hlast⟩ := amid_run (fun _ _ => False) halfway.1 lostWorld
  have hend : (halfway.1.run lostWorld).1 = .ok [] := by decide +kernel
  rw [hend] at hlast
  -- one row is in the ledger by the time that it is lost, and none is added to a ledger that is not there
  have hadded : addedIn (es₁ ++ es₂) = [⟨"v2", 4, 100, some "a", some ""⟩] := by
    have hgrown := hfirst.interleaving.ledger_eq keepsStore_never
    have hsame := hlast.interleaving.ledger_eq keepsStore_never
    rw [rowsAdded_alone] at hgrown hsame
    have hledger : halfway.2.store.ledger = mixedWorld.store.ledger ++ [⟨"v2", 4, 100, some "a", some ""⟩] := by
      decide +kernel
    have hempty : (halfway.1.run lostWorld).2.store.ledger = lostWorld.store.ledger ++ [] := by decide +kernel
    rw [addedIn_append, List.append_cancel_left (hgrown.symm.trans hledger),
      List.append_cancel_left (hsame.symm.trans hempty)]
    rfl
  have hlost : ∀ u : World, Outage u { u with store := { u.store with unlocks := none } } :=
    fun u => ⟨{ u.store with unlocks := none }, ⟨Or.inl rfl, Or.inl rfl, Or.inr rfl, Or.inl rfl⟩, rfl⟩
  have hcut : Amid Outage (award (.list [.text "v2", .text "v1"]) (.text "a") .null) mixedWorld (es₁ ++ es₂) _ _ :=
    (hfirst.mono fun _ _ => False.elim).trans (.outside (hlost halfway.2) (hlast.mono fun _ _ => False.elim))
  obtain ⟨us, hus, _, hall⟩ := award_rerun hready hread hcatalogue hviewers (.text "a") .null
  obtain ⟨made, left, rfl, hrerunnable⟩ := hall mixedWorld _ _ _ (.refl _) rfl hcut
  have hboth : ((award (.list [.text "v2", .text "v1"]) (.text "a") .null).run mixedWorld).1
      = .ok [⟨"v2", 4, "Racer", 100⟩, ⟨"v1", 1, "First", 100⟩] := by decide +kernel
  have hsplit : made ++ left = [⟨"v2", 4, "Racer", 100⟩, ⟨"v1", 1, "First", 100⟩] :=
    Except.ok.inj (hus.symm.trans hboth)
  have hone : made.length = 1 := by
    have hlength := congrArg List.length (hrerunnable.added.symm.trans hadded)
    rwa [List.length_map] at hlength
  obtain ⟨first, rfl⟩ := List.length_eq_one_iff.mp hone
  rw [List.singleton_append, List.cons.injEq] at hsplit
  obtain ⟨rfl, rfl⟩ := hsplit
  exact ⟨hready, hread, hcatalogue, hviewers, _, _, hcut, by decide +kernel, hrerunnable⟩

end Laurels
