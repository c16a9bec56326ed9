import Laurels.Call
import Laurels.Proofs.AwardHistory
import Laurels.Proofs.Store.Counting

/-!
# What the calls that award do

Three calls end in an award pass: an award for given viewers, an award for a race, and the recording of an
action, which counts first. Each of them is described by its history as the pass is, and `Call.ends` says it of
all three at once: a call adds exactly the rows that its answer reports, each with the source and the reference
that go with that call, or it fails and adds nothing.

A call can fail in two ways (`Call.Fails`). An award that names its viewers by no list is refused at the outset, and a
recording is refused by a counter that is full.
-/

namespace Laurels

/-- Whether a call ends in an award pass. -/
def Call.Awards : Call → Prop
  | .award .. => True
  | .awardRace .. => True
  | .record .. => True
  | _ => False

/-- The source and its reference that a call writes into the rows it adds. -/
def Call.origin : Call → String × String
  | .award _ source sourceRef => (source.asText, sourceRef.asText)
  | .awardRace competition _ => ("competition", competition.asText)
  | .record _ key => ("action", Viewer.id key)
  | _ => ("", "")

/-- The row that a new unlock of a call stands for. -/
def Call.row (c : Call) : Unlock → UnlockRow := Unlock.row c.origin.1 c.origin.2

/-- The new unlocks that an answer reports. -/
def Answer.newUnlocks : Answer → List Unlock
  | .unlocks us => us
  | .outcome (.counted _ _ _ _ us) => us
  | _ => []

@[simp] theorem Value.asText_text (s : String) : (Value.text s).asText = s := by
  unfold Value.asText
  split
  · rename_i h
    exact (String.isEmpty_iff.mp h).symm
  · rfl

/-- An award for a list of viewers is an award for the ids in it. -/
theorem award_eq {viewers : Value} {ids : List String} (hids : Viewer.ids? viewers = some ids)
    (source sourceRef : Value) :
    award viewers source sourceRef = awardIds ids source.asText sourceRef.asText := by
  unfold award
  rw [hids]

variable {P : Store → Prop} {s₀ : Store}

/-- For no viewers there is nothing to do. -/
theorem AwardHistory.nil (source sourceRef : String) {es : List Event} (ha : addedIn es = [])
    (ht : timesIn es = []) : AwardHistory P s₀ [] source sourceRef es [] :=
  ⟨s₀.snapshot, 0, by simp, ha, Or.inr ⟨ht, rfl⟩, .slnil, by simp⟩

namespace Procedure

theorem awardIds_ensures (hP : Steady P s₀) (hread : s₀.Readable) (viewers : List String)
    (source sourceRef : String) :
    (awardIds viewers source sourceRef).Ensures (Event.From P)
      (AwardHistory P s₀ viewers source sourceRef) := by
  unfold awardIds
  split
  · rename_i hnone
    rw [List.isEmpty_iff] at hnone
    subst hnone
    exact ensures_done (AwardHistory.nil source sourceRef rfl rfl)
  · rename_i hsome
    exact (awardPass_ensures hP hread (by simpa using hsome) source sourceRef).rescue _

theorem award_ensures (hP : Steady P s₀) (hread : s₀.Readable) {viewers : Value} {ids : List String}
    (hids : Viewer.ids? viewers = some ids) (source sourceRef : Value) :
    (award viewers source sourceRef).Ensures (Event.From P)
      (AwardHistory P s₀ ids source.asText sourceRef.asText) := by
  rw [award_eq hids]
  exact awardIds_ensures hP hread ids _ _

/-- An award for a race is answered even if the viewers are no list. -/
theorem awardRace_ensures (hP : Steady P s₀) (hread : s₀.Readable) (competition viewers : Value) :
    (awardRace competition viewers).Ensures (Event.From P) fun es us =>
      AwardHistory P s₀ ((Viewer.ids? viewers).getD []) "competition" competition.asText es us := by
  unfold awardRace
  cases hids : Viewer.ids? viewers with
  | some ids =>
    have h := award_ensures hP hread hids (.text "competition") (.text competition.asText)
    rw [Value.asText_text, Value.asText_text] at h
    exact h.rescue _
  | none =>
    unfold award
    rw [hids]
    exact ensures_log (ensures_done (AwardHistory.nil "competition" competition.asText rfl rfl))

/-- What becomes of an action once it is counted: it is noted, and the viewer is awarded. -/
def awardCounted (viewer key : String) (time count : Int) : Procedure ActionOutcome := do
  .write .info ("🎯 [ACH-ACTION] Viewer " ++ viewer ++ " action " ++ Text.quoted key ++ " -> " ++
    toString count)
  let unlocks ← (awardIds (Viewer.distinct [viewer]) "action" key).rescue
    (passFailed ("after action " ++ Text.quoted key ++ " for viewer " ++ viewer))
  pure (.counted viewer key count time unlocks)

theorem countAndAward_eq (viewer key : String) :
    countAndAward viewer key =
      readClock >>= fun time =>
        ask (.countAction (.of viewer key time)) >>= awardCounted viewer key time := rfl

theorem awardCounted_ensures (hP : Steady P s₀) (hread : s₀.Readable) (viewer key : String)
    (time count : Int) :
    (awardCounted viewer key time count).Ensures (Event.From P) fun es outcome =>
      ∃ us line es', outcome = .counted viewer key count time us ∧ es = .wrote line :: es'
        ∧ AwardHistory P s₀ (Viewer.distinct [viewer]) "action" key es' us := by
  unfold awardCounted
  refine ensures_seq (ensures_write _ _) ?_
  rintro _ _ rfl
  refine ensures_seq ((awardIds_ensures hP hread _ "action" key).rescue _) ?_
  intro es us hus
  exact ensures_done ⟨us, _, es, rfl, congrArg (_ :: ·) (List.append_nil es), hus⟩

/-- **How the recording of an action goes:** it reads the clock and has the action counted. If the counters refuse,
that is the end, and if not, what is left is to award the viewer. -/
theorem countAndAward_follows {viewer key : String} {es : List Event} {q : Procedure ActionOutcome}
    (hf : (countAndAward viewer key).Follows es q) (hend : q.IsEnded) :
    ∃ time reply rest, es = .told time :: .asked (.countAction (.of viewer key time)) reply :: rest
      ∧ ((∃ fault, reply = .error fault ∧ rest = [] ∧ q = .raise (.store fault))
        ∨ ∃ count, reply = .ok count ∧ (awardCounted viewer key time count).Follows rest q) := by
  rw [countAndAward_eq] at hf
  cases hf with
  | stay =>
    obtain ⟨r, hr⟩ := hend
    cases r <;> cases hr
  | step takes hf =>
    cases takes with
    | told next time =>
      cases hf with
      | stay =>
        obtain ⟨r, hr⟩ := hend
        cases r <;> cases hr
      | @step _ _ _ _ rest takes hf =>
        cases takes with
        | asked query next reply =>
          refine ⟨time, reply, rest, rfl, ?_⟩
          cases reply with
          | ok count => exact Or.inr ⟨count, rfl, hf⟩
          | error fault =>
            cases hf with
            | stay => exact Or.inl ⟨fault, rfl, rfl, rfl⟩
            | step takes rest => cases takes

end Procedure

/-! ## The calls -/

/-- Whether a call names its viewers by a list. Of the calls that award, one that does not is refused. -/
def Call.Listed : Call → Prop
  | .award viewers _ _ => Viewer.ids? viewers ≠ none
  | _ => True

/-- The calls that are an award and nothing else. -/
def Call.Passes : Call → Prop
  | .award .. => True
  | .awardRace .. => True
  | _ => False

/-- The ids of the viewers that a call awards. One that names its viewers by no list awards nobody. -/
def Call.viewers : Call → List String
  | .award viewers _ _ => (Viewer.ids? viewers).getD []
  | .awardRace _ viewers => (Viewer.ids? viewers).getD []
  | _ => []

/-- How a call that awards fails, with the steps that it has taken by then: it names its viewers by no list, or it
records an action whose counter is full. -/
inductive Call.Fails : Call → List Event → Fault → Prop
  | unlisted {c : Call} (unlisted : ¬ c.Listed) : Fails c [] (.shape .noList)
  | full (viewer key : Value) (time : Int) :
      Fails (.record viewer key)
        [.told time, .asked (.countAction (.of (Viewer.id viewer) (Viewer.id key) time)) (.error (.cell .unfit))]
        (.store (.cell .unfit))

namespace Call

variable {P : Store → Prop} {s₀ : Store} {c : Call} {es : List Event} {q : Procedure Answer}

/-- A call that is refused takes no step. -/
theorem procedure_eq_raise {c : Call} (hlist : ¬ c.Listed) :
    c.procedure = .raise (.shape .noList) := by
  cases c with
  | award viewers source sourceRef =>
    have hnone : Viewer.ids? viewers = none := by
      unfold Listed at hlist
      exact not_not.mp hlist
    show (Answer.unlocks <$> Laurels.award viewers source sourceRef) = _
    unfold Laurels.award
    rw [hnone]
    rfl
  | _ => exact absurd trivial hlist

/-- A call that names its viewers by no list ends at once. -/
theorem ends_at_once (hlist : ¬ c.Listed) (hf : c.procedure.Follows es q) : es = [] ∧ q = .raise (.shape .noList) := by
  rw [procedure_eq_raise hlist] at hf
  cases hf with
  | stay => exact ⟨rfl, rfl⟩
  | step takes rest => cases takes

/-- A call that fails adds nothing. -/
theorem Fails.adds_nothing {fault : Fault} (h : c.Fails es fault) : addedIn es = [] := by
  cases h <;> rfl

/-- Where nothing else is wrong, the counters refuse to count only if the counter is full. -/
theorem full_of_refused (hP : Steady P s₀) {viewer key : String} {time : Int} {fault : StoreFault}
    (h : (Event.asked (.countAction (.of viewer key time)) (.error fault)).From P) : fault = .cell .unfit := by
  obtain ⟨s, hs, hreply⟩ := h
  have hrefusal := Store.refusal?_of_ready (hP.ready s hs) [.actions]
  by_cases hfull : s.Full viewer key
  · rw [Store.answer_countAction_of_full hrefusal hfull] at hreply
    exact Except.error.inj hreply
  · rw [Store.answer_countAction hrefusal hfull] at hreply
    cases hreply

/-- How the recording of an action ends. -/
theorem record_ends (hP : Steady P s₀) (hread : s₀.Readable) {viewer key : Value}
    (hf : (record viewer key).procedure.Follows es q) (hes : ∀ e ∈ es, e.From P) (hend : q.IsEnded) :
    (∃ answer, q = .done answer ∧ addedIn es = answer.newUnlocks.map (record viewer key).row)
      ∨ ∃ fault, q = .raise fault ∧ (record viewer key).Fails es fault := by
  obtain ⟨q', hgone, rfl⟩ := Procedure.Follows.of_map hf
  have hend := Procedure.isEnded_map.mp hend
  unfold recordAction at hgone
  split at hgone
  · have hskipped : (Procedure.done ActionOutcome.skipped).Ensures (Event.From P) fun es outcome =>
        es = [] ∧ outcome = .skipped := Procedure.ensures_done ⟨rfl, rfl⟩
    obtain ⟨_, rfl, rfl, rfl⟩ := hskipped.adequate hgone hes hend
    exact Or.inl ⟨_, rfl, rfl⟩
  · obtain ⟨time, reply, rest, rfl, hgoes⟩ := Procedure.countAndAward_follows hgone hend
    rw [List.forall_mem_cons, List.forall_mem_cons] at hes
    rcases hgoes with ⟨fault, rfl, rfl, rfl⟩ | ⟨count, rfl, hrest⟩
    · obtain rfl := full_of_refused hP hes.2.1
      exact Or.inr ⟨_, rfl, .full viewer key time⟩
    · obtain ⟨_, rfl, us, line, es', rfl, rfl, seen, time', hseen, hfacts⟩ :=
        (Procedure.awardCounted_ensures hP hread _ _ time count).adequate hrest hes.2.2 hend
      exact Or.inl ⟨_, rfl, hfacts.added⟩

/-- What a call does that is an award and nothing else. -/
theorem Passes.ensures (hP : Steady P s₀) (hread : s₀.Readable) {c : Call} (h : c.Passes) (hlist : c.Listed) :
    c.procedure.Ensures (Event.From P) fun es answer =>
      AwardHistory P s₀ c.viewers c.origin.1 c.origin.2 es answer.newUnlocks := by
  cases c with
  | award viewers source sourceRef =>
    obtain ⟨ids, hids⟩ := Option.ne_none_iff_exists'.mp hlist
    have hviewers : (Call.award viewers source sourceRef).viewers = ids := by
      show (Viewer.ids? viewers).getD [] = ids
      rw [hids]
      rfl
    rw [hviewers]
    exact Procedure.ensures_map (Procedure.award_ensures hP hread hids source sourceRef)
  | awardRace competition viewers =>
    exact Procedure.ensures_map (Procedure.awardRace_ensures hP hread competition viewers)
  | _ => exact False.elim h

/-- **A call adds exactly the rows that its answer reports,** or it fails. -/
theorem ends (hP : Steady P s₀) (hread : s₀.Readable) (hc : c.Awards) (hf : c.procedure.Follows es q)
    (hes : ∀ e ∈ es, e.From P) (hend : q.IsEnded) :
    (∃ answer, q = .done answer ∧ addedIn es = answer.newUnlocks.map c.row)
      ∨ ∃ fault, q = .raise fault ∧ c.Fails es fault := by
  by_cases hlist : c.Listed
  · by_cases hpasses : c.Passes
    · obtain ⟨answer, rfl, seen, time, _, hfacts⟩ := (hpasses.ensures hP hread hlist).adequate hf hes hend
      exact Or.inl ⟨answer, rfl, hfacts.added⟩
    · cases c with
      | record viewer key => exact record_ends hP hread hf hes hend
      | award viewers source sourceRef => exact absurd trivial hpasses
      | awardRace competition viewers => exact absurd trivial hpasses
      | _ => exact False.elim hc
  · obtain ⟨rfl, rfl⟩ := ends_at_once hlist hf
    exact Or.inr ⟨_, rfl, .unlisted hlist⟩

end Call

/-- In a run of calls, each call has done what is its own in the record. -/
theorem Interleaving.follows_call {outside : World → World → Prop} {calls : List Call} {w v : World}
    {es : List (Nat × Event)} {qs : List (Procedure Answer)}
    (h : Interleaving outside (calls.map Call.procedure) w es qs v) {i : Nat} {c : Call}
    (hc : calls[i]? = some c) : ∃ q, qs[i]? = some q ∧ c.procedure.Follows (own i es) q := by
  have hp : (calls.map Call.procedure)[i]? = some c.procedure := by
    rw [List.getElem?_map, hc]
    rfl
  exact h.follows hp

end Laurels
