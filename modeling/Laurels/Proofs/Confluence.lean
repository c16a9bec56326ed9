import Laurels.Proofs.AwardRun
import Laurels.Proofs.ExactlyOnce

/-!
# Awards side by side come to one outcome

Awards that are under way at once compete for the unlocks of the viewers that they share, and which of them gets
an unlock depends on the order of their steps. What they come to together does not. Nothing that an award reads
of a viewer changes while only awards are under way, since they write to the ledger alone
(`Interleaving.sameButLedger`); so every award sees its viewers as they stood from the start, and what it sees
deserved is in the ledger by its end, whoever has put it there.

`confluent` is the main statement: in whatever order the steps are taken, the awards report the same pairs, each
once, and these are the pairs that they report when they run one after the other.
-/

namespace Laurels

/-- What a procedure has reported: the new unlocks in its answer, if it has come to one. -/
def Procedure.newUnlocks : Procedure Answer → List Unlock
  | .done answer => answer.newUnlocks
  | _ => []

/-- The pairs that procedures have reported, one procedure after the other. -/
def reportedPairs (qs : List (Procedure Answer)) : List (String × Int) :=
  qs.flatMap fun q => q.newUnlocks.map Unlock.pair

/-- Whether one of some calls is to award the viewer what the tables say is deserved. -/
def Due (calls : List Call) (s : Store) (viewer : String) (achievement : Int) : Prop :=
  (∃ c ∈ calls, viewer ∈ c.viewers) ∧ ∃ a, s.Deserves viewer a ∧ a.id = achievement

/-- The outcome of calls that run one after the other. -/
def inTurn (calls : List Call) (w : World) : List (Procedure Answer) :=
  (Schedule.finish (calls.map Call.procedure) w).1.map .ended

/-- The world after calls that run one after the other. -/
def World.afterTurns (w : World) (calls : List Call) : World :=
  (Schedule.finish (calls.map Call.procedure) w).2

/-- What awards that were side by side have come to, once all of them have ended. -/
structure Confluent (calls : List Call) (w : World) (qs : List (Procedure Answer)) (w' : World) : Prop where
  /-- Every call is answered, unless it names its viewers by no list. -/
  answered : ∀ (i : Nat) (c : Call), calls[i]? = some c → c.Listed → ∃ answer, qs[i]? = some (.done answer)
  /-- Held in the end is what was held and what was due. -/
  held : ∀ viewer achievement,
    w'.store.Holds viewer achievement ↔ w.store.Holds viewer achievement ∨ Due calls w.store viewer achievement
  /-- Reported is what was due and not held. -/
  reported : ∀ viewer achievement, (viewer, achievement) ∈ reportedPairs qs ↔
    Due calls w.store viewer achievement ∧ ¬ w.store.Holds viewer achievement
  /-- No pair is reported twice, by one call or by two. -/
  once : (reportedPairs qs).Nodup
  /-- The calls report what they report when they run one after the other. -/
  sequential : (reportedPairs qs).Perm (reportedPairs (inTurn calls w))
  /-- So the ledger holds the same pairs. -/
  ledger : (w'.store.ledger.map UnlockRow.pair).Perm ((w.afterTurns calls).store.ledger.map UnlockRow.pair)

/-! ## What an award sees -/

namespace Call

theorem Passes.asks {c : Call} (h : c.Passes) : c.procedure.Asks Query.OfPass := by
  cases c with
  | award viewers source sourceRef => exact (Procedure.award_asks viewers source sourceRef).map _
  | awardRace competition viewers => exact (Procedure.awardRace_asks competition viewers).map _
  | _ => exact False.elim h

theorem viewers_eq_nil {c : Call} (h : ¬ c.Listed) : c.viewers = [] := by
  cases c with
  | award viewers source sourceRef =>
    have hnone : Viewer.ids? viewers = none := by
      unfold Listed at h
      exact not_not.mp h
    show (Viewer.ids? viewers).getD [] = []
    rw [hnone]
    rfl
  | _ => exact absurd trivial h

end Call

namespace Interleaving

variable {calls : List Call} {outside : World → World → Prop} {w w' : World} {es : List (Nat × Event)}
  {qs : List (Procedure Answer)}

/-- **While awards are under way the ledger changes, and nothing else.** -/
theorem sameButLedger (hout : KeepsStore outside)
    (h : Interleaving outside (calls.map Call.procedure) w es qs w') (hcalls : ∀ c ∈ calls, c.Passes)
    (hready : w.store.Ready) : ∀ x ∈ es, x.2.From (SameButLedger w.store) := by
  refine (h.invariant (fun w u hwu hw => by rw [hout w u hwu]; exact hw) ?_
    ⟨hready, rfl, rfl, rfl, rfl⟩).2
  -- a recorded query is one of those that the award asks which took the step
  rintro s q ⟨⟨i, e⟩, hx, he⟩ hs
  cases he
  have hlt := h.lt_length hx
  rw [List.length_map] at hlt
  obtain ⟨q', _, hf⟩ := h.follows_call (List.getElem?_eq_getElem hlt)
  exact hs.answer ((hcalls _ (List.getElem_mem hlt)).asks.adequate hf (mem_own.mpr hx))

/-- **How an award ends that was among others.** It has seen its viewers as they stood from the start. -/
theorem award_ends (hout : KeepsStore outside)
    (h : Interleaving outside (calls.map Call.procedure) w es qs w') (hcalls : ∀ c ∈ calls, c.Passes)
    (hready : w.store.Ready) (hread : w.store.Readable) {i : Nat} {c : Call} {q : Procedure Answer}
    (hc : calls[i]? = some c) (hq : qs[i]? = some q) (hend : q.IsEnded) :
    (c.Listed → ∃ answer, q = .done answer)
      ∧ ∃ seen time, (∀ v ∈ c.viewers, seen v = w.store.snapshot v)
        ∧ AwardFacts w.store.rules c.viewers c.origin.1 c.origin.2 seen time (own i es) q.newUnlocks := by
  by_cases hlist : c.Listed
  · obtain ⟨q', hq', hf⟩ := h.follows_call hc
    rw [hq] at hq'
    cases hq'
    obtain ⟨answer, rfl, seen, time, hseen, hfacts⟩ :=
      ((hcalls c (List.mem_of_getElem? hc)).ensures SameButLedger.steady hread hlist).adequate hf
        (fun e he => h.sameButLedger hout hcalls hready _ (mem_own.mp he)) hend
    exact ⟨fun _ => ⟨answer, rfl⟩, seen, time, fun v hv => SameButLedger.eq_of_seen (hseen v hv), hfacts⟩
  · -- a call that is refused takes no step, and awards nobody
    obtain ⟨q', hq', hf⟩ := h.follows_call hc
    rw [hq] at hq'
    cases hq'
    obtain ⟨hnone, rfl⟩ := Call.ends_at_once hlist hf
    refine ⟨fun hlist' => absurd hlist' hlist, w.store.snapshot, 0, fun _ _ => rfl, ?_⟩
    rw [Call.viewers_eq_nil hlist, hnone]
    exact ⟨rfl, Or.inr ⟨rfl, rfl⟩, .slnil, by simp⟩

end Interleaving

/-! ## What awards come to -/

theorem Store.holds_iff {s : Store} {viewer : String} {achievement : Int} :
    s.Holds viewer achievement ↔ (viewer, achievement) ∈ s.ledger.map UnlockRow.pair := by
  unfold Store.Holds
  rw [List.mem_map]
  exact exists_congr fun row => and_congr_right fun _ => (Prod.mk.injEq _ _ _ _).to_iff.symm

/-- Calls that award, side by side and ended, from a world in order whose texts can be read. -/
structure Settled (calls : List Call) (w : World) (es : List (Nat × Event)) (qs : List (Procedure Answer))
    (w' : World) : Prop where
  passes : ∀ c ∈ calls, c.Passes
  ready : w.store.Ready
  readable : w.store.Readable
  run : Interleaving TimePasses (calls.map Call.procedure) w es qs w'
  ended : ∀ q ∈ qs, q.IsEnded

namespace Settled

variable {calls : List Call} {w w' : World} {es : List (Nat × Event)} {qs : List (Procedure Answer)}

/-- Each of the procedures is one of the calls, and has done what an award does. -/
theorem award_ends (h : Settled calls w es qs w') {i : Nat} {q : Procedure Answer} (hq : qs[i]? = some q) :
    ∃ c, calls[i]? = some c ∧ (c.Listed → ∃ answer, q = .done answer)
      ∧ ∃ seen time, (∀ v ∈ c.viewers, seen v = w.store.snapshot v)
        ∧ AwardFacts w.store.rules c.viewers c.origin.1 c.origin.2 seen time (own i es) q.newUnlocks := by
  have hc := List.getElem?_eq_getElem (h.run.lt_of_getElem? hq)
  exact ⟨_, hc, h.run.award_ends keepsStore_timePasses h.passes h.ready h.readable hc hq
    (h.ended q (List.mem_of_getElem? hq))⟩

/-- What a call reports is what its own steps have added. -/
theorem pairs_eq (h : Settled calls w es qs w') {i : Nat} {q : Procedure Answer} (hq : qs[i]? = some q) :
    q.newUnlocks.map Unlock.pair = (addedIn (own i es)).map UnlockRow.pair := by
  obtain ⟨c, _, _, seen, time, _, hfacts⟩ := h.award_ends hq
  rw [hfacts.added, List.map_map]
  rfl

/-- **What is reported is what is added,** pair by pair. -/
theorem perm_added (h : Settled calls w es qs w') :
    (reportedPairs qs).Perm ((rowsAdded es).map UnlockRow.pair) := by
  have hperm := perm_own (fun e => e.added.map UnlockRow.pair) (n := qs.length) fun x hx => by
    rw [h.run.length_eq]
    exact h.run.lt_length hx
  rw [flatMap_range_length fun q => q.newUnlocks.map Unlock.pair] at hperm
  · unfold rowsAdded addedIn
    rw [List.flatMap_map, List.map_flatMap]
    exact hperm.symm
  · intro i q hq
    rw [h.pairs_eq hq]
    exact List.map_flatMap.symm

/-- **No pair is reported twice,** as none is added twice. -/
theorem nodup (h : Settled calls w es qs w') : (reportedPairs qs).Nodup :=
  h.perm_added.nodup_iff.mpr (h.run.added_fresh keepsStore_timePasses).1

theorem ledger_pairs (h : Settled calls w es qs w') :
    (w'.store.ledger.map UnlockRow.pair).Perm (w.store.ledger.map UnlockRow.pair ++ reportedPairs qs) := by
  rw [h.run.ledger_eq keepsStore_timePasses, List.map_append]
  exact h.perm_added.symm.append_left _

/-- Held in the end is what was held and what was reported. -/
theorem holds_iff (h : Settled calls w es qs w') {viewer : String} {achievement : Int} :
    w'.store.Holds viewer achievement ↔
      w.store.Holds viewer achievement ∨ (viewer, achievement) ∈ reportedPairs qs := by
  rw [Store.holds_iff, Store.holds_iff, h.ledger_pairs.mem_iff, List.mem_append]

/-- What is reported was not held before. -/
theorem not_holds (h : Settled calls w es qs w') {viewer : String} {achievement : Int}
    (hmem : (viewer, achievement) ∈ reportedPairs qs) : ¬ w.store.Holds viewer achievement := by
  obtain ⟨row, hrow, hpair⟩ := List.mem_map.mp (h.perm_added.mem_iff.mp hmem)
  cases hpair
  exact (h.run.added_fresh keepsStore_timePasses).2 row hrow

/-- What is reported was due. -/
theorem due_of_reported (h : Settled calls w es qs w') {viewer : String} {achievement : Int}
    (hmem : (viewer, achievement) ∈ reportedPairs qs) : Due calls w.store viewer achievement := by
  obtain ⟨q, hq, hpair⟩ := List.mem_flatMap.mp hmem
  obtain ⟨u, hu, hpair⟩ := List.mem_map.mp hpair
  obtain ⟨i, hi⟩ := List.mem_iff_getElem?.mp hq
  obtain ⟨c, hc, _, seen, time, hseen, hfacts⟩ := h.award_ends hi
  obtain ⟨v, hv, hu'⟩ := List.mem_flatMap.mp (hfacts.deserved.subset hu)
  obtain ⟨rule, hrule, rfl⟩ := List.mem_map.mp hu'
  obtain ⟨hrule, hsat⟩ := List.mem_filter.mp hrule
  cases hpair
  rw [hseen v hv] at hsat
  have hdeserves := Store.deserves_iff.mpr ⟨rule, hrule, rfl, hsat⟩
  exact ⟨⟨c, List.mem_of_getElem? hc, hv⟩, rule.achievement, hdeserves, rfl⟩

/-- What was due is held in the end. -/
theorem holds_of_due (h : Settled calls w es qs w') {viewer : String} {achievement : Int}
    (hdue : Due calls w.store viewer achievement) : w'.store.Holds viewer achievement := by
  obtain ⟨⟨c, hc, hv⟩, a, ha, rfl⟩ := hdue
  obtain ⟨rule, hrule, rfl, hsat⟩ := Store.deserves_iff.mp ha
  obtain ⟨i, hi⟩ := List.mem_iff_getElem?.mp hc
  have hlt : i < qs.length := by
    rw [h.run.length_eq, List.length_map]
    exact (List.getElem?_eq_some_iff.mp hi).1
  obtain ⟨c', hc', _, seen, time, hseen, hfacts⟩ := h.award_ends (List.getElem?_eq_getElem hlt)
  rw [hi] at hc'
  cases hc'
  -- the call has been told that the ledger holds the pair, and what the ledger holds it keeps
  rw [← hseen viewer hv] at hsat
  obtain ⟨e, he, hshows⟩ := hfacts.complete viewer hv rule hrule hsat
  exact h.run.holds_of_shows keepsStore_timePasses (mem_own.mp he) hshows

/-- **What is reported is decided beforehand.** -/
theorem reported_iff (h : Settled calls w es qs w') {viewer : String} {achievement : Int} :
    (viewer, achievement) ∈ reportedPairs qs ↔
      Due calls w.store viewer achievement ∧ ¬ w.store.Holds viewer achievement := by
  constructor
  · intro hmem
    exact ⟨h.due_of_reported hmem, h.not_holds hmem⟩
  · rintro ⟨hdue, hnew⟩
    exact (h.holds_iff.mp (h.holds_of_due hdue)).resolve_left hnew

/-- Two runs of the same calls report the same pairs. -/
theorem perm (h : Settled calls w es qs w') {es₁ : List (Nat × Event)} {qs₁ : List (Procedure Answer)}
    {w₁ : World} (h₁ : Settled calls w es₁ qs₁ w₁) : (reportedPairs qs).Perm (reportedPairs qs₁) :=
  (List.perm_ext_iff_of_nodup h.nodup h₁.nodup).mpr fun _ => h.reported_iff.trans h₁.reported_iff.symm

end Settled

/-- Calls that run one after the other are among the runs of these calls. -/
theorem settled_inTurn {calls : List Call} (hcalls : ∀ c ∈ calls, c.Passes) {w : World} (hready : w.store.Ready)
    (hread : w.store.Readable) : ∃ es, Settled calls w es (inTurn calls w) (w.afterTurns calls) := by
  obtain ⟨es, h⟩ := interleaving_finish TimePasses (calls.map Call.procedure) [] w
  exact ⟨es, hcalls, hready, hread, h, Procedure.isEnded_of_mem_map⟩

/--
**Awards side by side come to one outcome.** Calls that are awards, for any viewers, run side by side from a world
in which all tables are there and every text among the criteria on offer is accepted or rejected. Once all of
them have ended, in whatever order they took their steps, `Confluent` says what they have reported and what the
ledger holds.
-/
theorem confluent {calls : List Call} (hcalls : ∀ c ∈ calls, c.Passes) {w w' : World} (hready : w.store.Ready)
    (hread : w.store.Readable) {es : List (Nat × Event)} {qs : List (Procedure Answer)}
    (h : Interleaving TimePasses (calls.map Call.procedure) w es qs w') (hends : ∀ q ∈ qs, q.IsEnded) :
    Confluent calls w qs w' := by
  have hrun : Settled calls w es qs w' := ⟨hcalls, hready, hread, h, hends⟩
  obtain ⟨es₁, hturns⟩ := settled_inTurn hcalls hready hread
  have hsame := hrun.perm hturns
  refine ⟨fun i c hc hlist => ?_, fun viewer achievement => ?_, fun _ _ => hrun.reported_iff, hrun.nodup, hsame, ?_⟩
  · have hlt : i < qs.length := by
      rw [h.length_eq, List.length_map]
      exact (List.getElem?_eq_some_iff.mp hc).1
    have hq := List.getElem?_eq_getElem hlt
    obtain ⟨c', hc', hanswered, _⟩ := hrun.award_ends hq
    rw [hc] at hc'
    cases hc'
    obtain ⟨answer, hanswer⟩ := hanswered hlist
    exact ⟨answer, hq.trans (congrArg some hanswer)⟩
  · constructor
    · exact fun hheld => (hrun.holds_iff.mp hheld).imp_right hrun.due_of_reported
    · rintro (hheld | hdue)
      · exact hrun.holds_iff.mpr (Or.inl hheld)
      · exact hrun.holds_of_due hdue
  · exact (hrun.ledger_pairs.trans (hsame.append_left _)).trans hturns.ledger_pairs.symm

/-- Awards for overlapping viewers, one of them for a race, and one that is refused. -/
def rivalCalls : List Call :=
  [.award (.list [.text "v2"]) (.text "a") .null, .awardRace (.text "c") (.list [.text " v1 ", .text "v2"]),
    .award (.list [.text "v1", .text "v2", .text "v1"]) .null .null, .award (.flag true) .null .null]

/-- In the two-phase schedule the first two calls share the unlocks that all are after. -/
theorem confluent_rivals :
    (∀ c ∈ rivalCalls, c.Passes) ∧ mixedWorld.store.Ready ∧ mixedWorld.store.Readable
      ∧ ((Schedule.twoPhase ((rivalCalls.map Call.procedure).map .procedure) mixedWorld).1.map
          fun r => r.toOption.map Answer.newUnlocks)
        = [some [⟨"v2", 4, "Racer", 100⟩], some [⟨"v1", 1, "First", 101⟩], some [], none]
      ∧ Confluent rivalCalls mixedWorld
          ((Schedule.twoPhase ((rivalCalls.map Call.procedure).map .procedure) mixedWorld).1.map .ended)
          (Schedule.twoPhase ((rivalCalls.map Call.procedure).map .procedure) mixedWorld).2 := by
  have hcalls : ∀ c ∈ rivalCalls, c.Passes := by simp [rivalCalls, Call.Passes]
  have hready : mixedWorld.store.Ready := by decide
  have hread : mixedWorld.store.Readable := by decide +kernel
  obtain ⟨es, h⟩ := interleaving_twoPhase TimePasses (rivalCalls.map Call.procedure) mixedWorld
  exact ⟨hcalls, hready, hread, by decide +kernel,
    confluent hcalls hready hread h Procedure.isEnded_of_mem_map⟩

end Laurels
