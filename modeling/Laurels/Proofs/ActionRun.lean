import Laurels.Proofs.Batch

/-!
# A recording that runs alone

To record an action is to move one counter, that of the viewer for the key, as long as there is room in it. Then comes
an award for the viewer, which finds the action counted (`recordAction_run`). A counter that is full refuses, and no
award comes (`recordAction_full`).
-/

namespace Laurels

namespace Procedure

theorem awardCounted_run {w : World} (hready : w.store.Ready) (hread : w.store.Readable)
    (hcatalogue : w.store.Identified) {viewer : String} (hviewer : Viewer.distinct [viewer] = [viewer])
    (key : String) (time count : Int) :
    ∃ us v, v.store = w.store ∧ ((awardCounted viewer key time count).run w).1 = .ok (.counted viewer key count time us)
      ∧ Awarded [viewer] "action" key v us ((awardCounted viewer key time count).run w).2 := by
  unfold awardCounted
  rw [run_seq (a := ()) rfl, hviewer]
  generalize hv : ((write .info _).run w).2 = v
  have hstore : v.store = w.store := by rw [← hv]; rfl
  rw [← hstore] at hready hread hcatalogue
  obtain ⟨us, hus, hawarded⟩ := awardIds_run hready hread hcatalogue (List.nodup_singleton viewer) "action" key
  have hrescue := run_rescue_of_ok hus
    (passFailed ("after action " ++ Text.quoted key ++ " for viewer " ++ viewer))
  rw [run_seq (by rw [hrescue]; exact hus), hrescue]
  exact ⟨us, v, hstore, rfl, hawarded⟩

end Procedure

/-- **A recording** counts the action, if there is room for it, and then it is an award for the viewer. -/
theorem recordAction_run {w : World} (hready : w.store.Ready) (hread : w.store.Readable)
    (hcatalogue : w.store.Identified) {viewer key : Value} (hviewer : Viewer.id viewer ≠ "")
    (hkey : Viewer.id key ≠ "") (hroom : ¬ w.store.Full (Viewer.id viewer) (Viewer.id key)) :
    ∃ us v, v.store = w.store.counted (Viewer.id viewer) (Viewer.id key) w.clock.ms
      ∧ ((recordAction viewer key).run w).1 = .ok (.counted (Viewer.id viewer) (Viewer.id key)
          (w.store.counter (Viewer.id viewer) (Viewer.id key) + 1) w.clock.ms us)
      ∧ Awarded [Viewer.id viewer] "action" (Viewer.id key) v us ((recordAction viewer key).run w).2 := by
  have hids : Viewer.distinct [Viewer.id viewer] = [Viewer.id viewer] :=
    Option.some.inj (Viewer.ids?_text (Viewer.mem_distinct_id hviewer))
  have hreply := Store.answer_countAction (Store.refusal?_of_ready hready _) hroom w.clock.ms
  obtain ⟨hcount, hstore⟩ := Procedure.run_ask (w := (Procedure.readClock.run w).2) hreply
  unfold recordAction
  rw [if_neg (by simp [hviewer, hkey]), Procedure.countAndAward_eq, Procedure.run_seq (a := w.clock.ms) rfl,
    Procedure.run_seq hcount]
  -- what is left is the award, and it finds the action counted
  generalize ((Procedure.ask _).run _).2 = v at hstore ⊢
  obtain ⟨us, v', hv', hanswer, hawarded⟩ := Procedure.awardCounted_run (by rw [hstore]; exact hready.counted _ _ _)
    (by rw [hstore]; exact hread) (by rw [hstore]; exact hcatalogue) hids (Viewer.id key) w.clock.ms _
  exact ⟨us, v', hv'.trans hstore, hanswer, hawarded⟩

/-- **A recording fails** if the counter is full, with the store as it was. -/
theorem recordAction_full {w : World} (hready : w.store.Ready) {viewer key : Value} (hviewer : Viewer.id viewer ≠ "")
    (hkey : Viewer.id key ≠ "") (hfull : w.store.Full (Viewer.id viewer) (Viewer.id key)) :
    (recordAction viewer key).Fails w (.store (.cell .unfit)) := by
  unfold recordAction
  rw [if_neg (by simp [hviewer, hkey]), Procedure.countAndAward_eq]
  have hclock : Procedure.readClock.Answers w w.clock.ms := ⟨rfl, rfl⟩
  refine hclock.bind fun v hv => ?_
  rw [← hv] at hready hfull
  exact (Procedure.ask_fails (Store.answer_countAction_of_full (Store.refusal?_of_ready hready _) hfull _)).bind _

end Laurels
