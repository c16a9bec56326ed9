import Laurels.Proofs.ReportRun

/-!
# What is not answered

Most of what can be wrong with a criteria text is the business of its author: the text is rejected, and its
achievement is passed over. One thing is not. A whole number with very many digits, most of them leading zeros,
is no number that is too large, and still it is not read (`CriteriaFault.tooManyDigits`); the fault ends the
compiling of all rules, whichever achievement it belongs to. So with such a text on offer no award for any
viewer is answered (`awardIds_run_unreadable`), and no report (`report_run_unreadable`).

A report needs a number for every clause besides. Where one of them is not defined there is no report either
(`report_run_unmeasured`).
-/

namespace Laurels

theorem CriteriaFault.eq_tooManyDigits {e : CriteriaFault} (h : e.isRejection = false) :
    ∃ digits, e = .tooManyDigits digits := by
  cases e with
  | tooManyDigits digits => exact ⟨digits, rfl⟩
  | _ => cases h

theorem Store.not_readable {s : Store} (h : ¬ s.Readable) :
    ∃ a ∈ active s.catalogueRows, a.id ≠ 0 ∧ ∃ digits, Criteria.parse a.criteria = .error (.tooManyDigits digits) := by
  unfold Readable at h
  push Not at h
  obtain ⟨row, hrow, hd, hid, e, hp, he⟩ := h
  obtain ⟨digits, rfl⟩ := CriteriaFault.eq_tooManyDigits (Bool.eq_false_iff.mpr he)
  exact ⟨row.achievement, mem_active.mpr ⟨row, hrow, rfl, hd⟩, hid, digits, hp⟩

namespace Procedure

variable {α β : Type}

/-- A run that ends with a fault, with the store as it was. -/
def Fails (p : Procedure α) (w : World) (fault : Fault) : Prop :=
  (p.run w).1 = .error fault ∧ (p.run w).2.store = w.store

theorem Fails.bind {p : Procedure α} {w : World} {fault : Fault} (h : p.Fails w fault) (f : α → Procedure β) :
    (p >>= f).Fails w fault := by
  unfold Fails
  rw [run_seq_of_error h.1]
  exact ⟨rfl, h.2⟩

/-- After an answer, what comes next decides. -/
theorem Answers.bind {p : Procedure α} {w : World} {a : α} (h : p.Answers w a) {f : α → Procedure β}
    {fault : Fault} (hf : ∀ v : World, v.store = w.store → (f a).Fails v fault) : (p >>= f).Fails w fault := by
  obtain ⟨hr, hs⟩ := h
  obtain ⟨hr', hs'⟩ := hf _ hs
  unfold Fails
  rw [run_seq hr]
  exact ⟨hr', hs'.trans hs⟩

/-- A text that can be read is compiled without a fault, accepted or not. -/
theorem compileCriteria_answers (warn : Bool) (mention : String) {criteria : String}
    (h : ∀ digits, Criteria.parse criteria ≠ .error (.tooManyDigits digits)) (w : World) :
    ∃ clauses?, (compileCriteria warn mention criteria).Answers w clauses? := by
  unfold compileCriteria
  cases hp : Criteria.parse criteria with
  | ok clauses =>
    dsimp only
    split <;> exact ⟨_, rfl, rfl⟩
  | error e =>
    cases he : e.isRejection with
    | true =>
      dsimp only
      rw [if_pos he]
      cases warn <;> exact ⟨_, rfl, rfl⟩
    | false =>
      obtain ⟨digits, rfl⟩ := CriteriaFault.eq_tooManyDigits he
      exact absurd hp (h digits)

/-- **One text that cannot be read ends the compiling of all.** -/
theorem compile_fails (warn : Bool) {as : List Achievement}
    (h : ∃ a ∈ as, a.id ≠ 0 ∧ ∃ digits, Criteria.parse a.criteria = .error (.tooManyDigits digits)) :
    ∃ digits, ∀ w, (compile warn as).Fails w (.criteria (.tooManyDigits digits)) := by
  induction as with
  | nil =>
    obtain ⟨a, ha, _⟩ := h
    exact absurd ha List.not_mem_nil
  | cons a as ih =>
    unfold compile
    split
    · rename_i hid
      refine ih ?_
      obtain ⟨b, hb, hne, hp⟩ := h
      rcases List.mem_cons.mp hb with rfl | hb
      · exact absurd hid hne
      · exact ⟨b, hb, hne, hp⟩
    · -- the first such text ends the compiling, and those before it are passed over
      by_cases hhead : ∃ digits, Criteria.parse a.criteria = .error (.tooManyDigits digits)
      · obtain ⟨digits, hp⟩ := hhead
        refine ⟨digits, fun w => Fails.bind ?_ _⟩
        unfold compileCriteria
        rw [hp]
        exact ⟨rfl, rfl⟩
      · obtain ⟨b, hb, hne, hp⟩ := h
        rcases List.mem_cons.mp hb with rfl | hb
        · exact absurd hp hhead
        · obtain ⟨digits, hrest⟩ := ih ⟨b, hb, hne, hp⟩
          refine ⟨digits, fun w => ?_⟩
          obtain ⟨clauses?, hanswer⟩ := compileCriteria_answers warn a.mention
            (fun digits hp => hhead ⟨digits, hp⟩) w
          exact hanswer.bind fun v _ => (hrest v).bind _

theorem ask_answers {q : Query} {w : World} {reply : q.Reply} {s : Store}
    (h : w.store.answer q = (.ok reply, s)) (hs : s = w.store) : (ask q).Answers w reply :=
  (run_ask h).imp_right (·.trans hs)

/-- A query that only reads, and that nothing refuses. -/
theorem ask_served {q : Query} {w : World} (h : w.store.refusal? q.tables = none) {reply : q.Reply}
    (hserve : w.store.serve q = .ok (reply, w.store)) : (ask q).Answers w reply := by
  refine ask_answers ?_ rfl
  rw [Store.answer_of_refusal?_eq_none h, hserve]

theorem ask_fails {q : Query} {w : World} {fault : StoreFault} (h : w.store.answer q = (.error fault, w.store)) :
    (ask q).Fails w (.store fault) := by
  have hask : w.ask q = (.error fault, { w with queries := w.queries ++ [q] }) := by
    unfold World.ask
    rw [h]
  unfold Fails ask run
  rw [hask]
  exact ⟨rfl, rfl⟩

theorem compute_fails {x : Except NumberFault α} {fault : NumberFault} (h : x = .error fault) {w : World} :
    (compute x).Fails w (.number fault) := by
  subst h
  exact ⟨rfl, rfl⟩

theorem ask_activeAchievements_answers {w : World} (hready : w.store.Ready) :
    (ask .activeAchievements).Answers w (Store.active w.store.catalogueRows) :=
  ask_answers (Store.answer_of_ready hready .activeAchievements) rfl

end Procedure

open Procedure

/-- **No award is answered** while a text that cannot be read is on offer, and none adds a row. -/
theorem awardIds_run_unreadable {w : World} (hready : w.store.Ready) (hread : ¬ w.store.Readable)
    {ids : List String} (hids : ids ≠ []) (source sourceRef : String) :
    ∃ digits, (awardIds ids source sourceRef).Fails w (.criteria (.tooManyDigits digits)) := by
  obtain ⟨digits, hcompile⟩ := compile_fails true (Store.not_readable hread)
  have hpass : (awardPass ids source sourceRef).Fails w (.criteria (.tooManyDigits digits)) :=
    (ask_activeAchievements_answers hready).bind fun v _ => (hcompile v).bind _
  refine ⟨digits, ?_⟩
  unfold awardIds
  rw [if_neg (by simpa using hids)]
  unfold Fails
  rw [run_rescue_of_error hpass.1]
  exact ⟨rfl, hpass.2⟩

/-- **No report is answered** while a text that cannot be read is on offer. -/
theorem report_run_unreadable {w : World} (hready : w.store.Ready) (hread : ¬ w.store.Readable)
    {viewer : Value} (hviewer : Viewer.id viewer ≠ "") :
    ∃ digits, (report viewer).Fails w (.criteria (.tooManyDigits digits)) := by
  obtain ⟨digits, hcompile⟩ := compile_fails false (Store.not_readable hread)
  rw [report_eq hviewer]
  exact ⟨digits, (ask_activeAchievements_answers hready).bind fun v _ => (hcompile v).bind _⟩

/-- **A report is not answered** if one rule has no entry for the viewer. -/
theorem report_run_unmeasured {w : World} (hready : w.store.Ready) (hread : w.store.Readable)
    {viewer : Value} (hviewer : Viewer.id viewer ≠ "")
    (hentry : ∃ rule ∈ w.store.rules, ∀ e, w.store.entry (Viewer.id viewer) rule ≠ .ok e) :
    ∃ fault, (report viewer).Fails w (.number fault) := by
  have hP := steady_eq hready
  have hasks := report_asks viewer
  rw [report_eq hviewer]
  have htaken : ∀ rule ∈ w.store.rules, _ = w.store.entry (Viewer.id viewer) rule :=
    fun rule => entry_taken (Viewer.id viewer)
  obtain ⟨fault, hfault⟩ := mapM_eq_error hentry
  rw [← mapM_congr htaken] at hfault
  refine ⟨fault, ?_⟩
  unfold reportFor
  refine (ask_activeAchievements_answers hready).bind fun w₁ h₁ => ?_
  -- every step before the entries reads, and is answered by one and the same store
  obtain ⟨_, rules, hanswers, _, _, rfl⟩ :=
    (compile_ensures false fun _ ha hid _ => hread.active ha hid).answers (compile_asks false _) h₁
  refine hanswers.bind fun w₂ h₂ => ?_
  obtain ⟨_, snapshots, hanswers, _, _, s₁, s₂, rfl, rfl, rfl⟩ :=
    (takeSnapshots_ensures hP (List.cons_ne_nil (Viewer.id viewer) []) _).answers
      (takeSnapshots_asks _ _) (h₂.trans h₁)
  refine hanswers.bind fun w₃ h₃ => ?_
  obtain ⟨_, times, hanswers, rfl⟩ := (ask_unlockTimes_ensures hready (Viewer.id viewer)).answers
    (asks_ask trivial) (h₃.trans (h₂.trans h₁))
  exact hanswers.bind fun w₄ _ => (compute_fails hfault).bind _

/-! ## What an answer tells -/

/-- An award that is answered has read every text on offer. -/
theorem readable_of_award {w : World} (hready : w.store.Ready) {viewers source sourceRef : Value}
    {ids : List String} (hids : Viewer.ids? viewers = some ids) (hne : ids ≠ []) {us : List Unlock}
    (h : ((award viewers source sourceRef).run w).1 = .ok us) : w.store.Readable := by
  by_contra hread
  rw [award_eq hids] at h
  obtain ⟨digits, hfails, _⟩ := awardIds_run_unreadable hready hread hne source.asText sourceRef.asText
  rw [hfails] at h
  cases h

/-- A report that is answered has read every text on offer, and has an entry for every rule. -/
theorem readable_of_report {w : World} (hready : w.store.Ready) {viewer : Value}
    (hviewer : Viewer.id viewer ≠ "") {r : Report} (h : ((report viewer).run w).1 = .ok r) :
    w.store.Readable ∧ ∀ rule ∈ w.store.rules, ∃ e, w.store.entry (Viewer.id viewer) rule = .ok e := by
  have hread : w.store.Readable := by
    by_contra hread
    obtain ⟨digits, hfails, _⟩ := report_run_unreadable hready hread hviewer
    rw [hfails] at h
    cases h
  refine ⟨hread, ?_⟩
  by_contra hentries
  push Not at hentries
  obtain ⟨fault, hfails, _⟩ := report_run_unmeasured hready hread hviewer hentries
  rw [hfails] at h
  cases h

end Laurels
