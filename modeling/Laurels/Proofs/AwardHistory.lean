import Mathlib.Data.List.Basic
import Laurels.Trigger
import Laurels.Proofs.History
import Laurels.Proofs.Standing

/-!
# What an award pass does

The history of an award pass is described without a word on what other procedures do in between: the pass is
answered by stores that are in order and share one catalogue, and that is all that is assumed of them
(`Steady`). Four facts then hold, and `AwardFacts` puts them together. The rows that the pass adds are
exactly those it reports. All of them bear one time, read once. What it reports are rules that were satisfied
by what it saw, viewer by viewer and rule by rule in order. And for every satisfied rule it has been told that
the ledger holds the pair, by the reading of the pairs or by its own insertion.

`awardPass_ensures` is the statement; it is made from one for each part of a pass.
-/

namespace Laurels

/-! ## What a history tells -/

/-- The rows that a step adds to the ledger. -/
def Event.added : Event → List UnlockRow
  | .asked q reply => Store.added q reply
  | .told _ => []
  | .wrote _ => []

/-- The time that a step reads off the clock. -/
def Event.time? : Event → Option Int
  | .asked _ _ => none
  | .told t => some t
  | .wrote _ => none

/-- Whether a step tells that the ledger holds a pair from now on. -/
def Event.Shows (viewer : String) (achievement : Int) : Event → Prop
  | .asked (.unlockedPairs _ _) (.ok pairs) => (viewer, achievement) ∈ pairs
  | .asked (.insertUnlock entry) (.ok _) =>
    ∃ row, entry.row = .ok row ∧ row.viewer = viewer ∧ row.achievement = achievement
  | _ => False

/-- The rows that a history adds to the ledger, in order. -/
def addedIn (es : List Event) : List UnlockRow := es.flatMap Event.added

/-- The times that are read in a history, in order. -/
def timesIn (es : List Event) : List Int := es.filterMap Event.time?

@[simp] theorem addedIn_nil : addedIn [] = [] := rfl

@[simp] theorem addedIn_cons (e : Event) (es : List Event) : addedIn (e :: es) = e.added ++ addedIn es := rfl

@[simp] theorem addedIn_append (es₁ es₂ : List Event) : addedIn (es₁ ++ es₂) = addedIn es₁ ++ addedIn es₂ :=
  List.flatMap_append

@[simp] theorem timesIn_nil : timesIn [] = [] := rfl

@[simp] theorem timesIn_asked (q : Query) (reply : Except StoreFault q.Reply) (es : List Event) :
    timesIn (.asked q reply :: es) = timesIn es := rfl

@[simp] theorem timesIn_told (t : Int) (es : List Event) : timesIn (.told t :: es) = t :: timesIn es := rfl

@[simp] theorem timesIn_wrote (line : LogLine) (es : List Event) :
    timesIn (.wrote line :: es) = timesIn es := rfl

@[simp] theorem timesIn_append (es₁ es₂ : List Event) : timesIn (es₁ ++ es₂) = timesIn es₁ ++ timesIn es₂ :=
  List.filterMap_append

namespace Store

theorem mem_pairs {s : Store} {viewers : List String} {achievements : List Int} {viewer : String}
    {achievement : Int} (h : (viewer, achievement) ∈ pairs s.ledger viewers achievements) :
    s.Holds viewer achievement := by
  obtain ⟨r, hr, he⟩ := List.mem_map.mp h
  cases he
  exact ⟨r, (List.mem_filter.mp hr).1, rfl, rfl⟩

/-- What a step shows is so after it. -/
theorem holds_of_shows {w u : World} {e : Event} {viewer : String} {achievement : Int}
    (h : w.Answers e u) (hshows : e.Shows viewer achievement) : u.store.Holds viewer achievement := by
  cases h with
  | told => exact False.elim hshows
  | wrote line => exact False.elim hshows
  | asked q =>
    show (w.store.answer q).2.Holds viewer achievement
    change Event.Shows viewer achievement (.asked q (w.store.answer q).1) at hshows
    cases hr : (w.store.answer q).1 with
    | error e => rw [hr] at hshows; cases q <;> exact False.elim hshows
    | ok r =>
      rw [hr] at hshows
      cases q with
      | unlockedPairs viewers achievements =>
        have hpairs : pairs w.store.ledger (Value.texts viewers) (Value.integers achievements) = r :=
          congrArg Prod.fst (Except.ok.inj (serve_of_answer_eq_ok hr))
        subst hpairs
        exact holds_answer _ (mem_pairs hshows)
      | insertUnlock entry =>
        obtain ⟨row, hrow, rfl, rfl⟩ := hshows
        exact holds_of_inserted hrow hr
      | _ => exact False.elim hshows

end Store

/-! ## The stores that answer -/

/-- The stores with a property are in order, and have the same catalogue as a given one. -/
structure Steady (P : Store → Prop) (s₀ : Store) : Prop where
  ready : ∀ s, P s → s.Ready
  catalogue : ∀ s, P s → s.catalogueRows = s₀.catalogueRows

/-- What a viewer's results and counters can show when they are fetched one after the other. -/
def Seen (P : Store → Prop) (viewer : String) (snapshot : Snapshot) : Prop :=
  ∃ s₁ s₂, P s₁ ∧ P s₂ ∧ snapshot = .of (s₁.tallyOf viewer) (s₂.countersOf viewer)

/-- The row that stands for an unlock. -/
def Unlock.row (source sourceRef : String) (u : Unlock) : UnlockRow :=
  ⟨u.viewer, u.achievement, u.time, some source, some sourceRef⟩

/-- The unlock of a rule's achievement by a viewer. -/
def Rule.unlock (time : Int) (viewer : String) (rule : Rule) : Unlock :=
  ⟨viewer, rule.achievement.id, rule.achievement.name, time⟩

namespace Procedure

variable {P : Store → Prop} {s₀ : Store}

theorem compileCriteria_ensures {allowed : Event → Prop} (warn : Bool) (mention : String) (a : Achievement)
    (hid : a.id ≠ 0) (hread : ∀ e, Criteria.parse a.criteria = .error e → e.isRejection = true) :
    (compileCriteria warn mention a.criteria).Ensures allowed fun es clauses? =>
      addedIn es = [] ∧ timesIn es = [] ∧ clauses?.map (Rule.mk a) = a.rule? := by
  unfold compileCriteria Achievement.rule?
  rw [if_neg hid]
  cases hp : Criteria.parse a.criteria with
  | error e =>
    simp only [hread e hp, if_true]
    cases warn with
    | true => exact ensures_log (ensures_done ⟨rfl, rfl, rfl⟩)
    | false => exact ensures_done ⟨rfl, rfl, rfl⟩
  | ok clauses =>
    cases hw : warn && !(unknownMetrics clauses).isEmpty with
    | true =>
      simp only [hw, if_true]
      exact ensures_log (ensures_done ⟨rfl, rfl, rfl⟩)
    | false =>
      simp only [hw]
      exact ensures_done ⟨rfl, rfl, rfl⟩

theorem compile_ensures {allowed : Event → Prop} (warn : Bool) {as : List Achievement}
    (hread : ∀ a ∈ as, a.id ≠ 0 → ∀ e, Criteria.parse a.criteria = .error e → e.isRejection = true) :
    (compile warn as).Ensures allowed fun es rules =>
      addedIn es = [] ∧ timesIn es = [] ∧ rules = as.filterMap Achievement.rule? := by
  induction as with
  | nil => exact ensures_done ⟨rfl, rfl, rfl⟩
  | cons a as ih =>
    have hrest := ih fun b hb => hread b (List.mem_cons_of_mem _ hb)
    by_cases hid : a.id = 0
    · have hnone : a.rule? = none := by unfold Achievement.rule?; rw [if_pos hid]
      rw [compile, if_pos hid, List.filterMap_cons_none hnone]
      exact hrest
    · rw [compile, if_neg hid]
      refine ensures_seq (compileCriteria_ensures warn a.mention a hid (hread a List.mem_cons_self hid)) ?_
      rintro es clauses? ⟨ha, ht, hc⟩
      refine ensures_seq hrest ?_
      rintro es' rules ⟨ha', ht', rfl⟩
      refine ensures_done ⟨by simp [ha, ha'], by simp [ht, ht'], ?_⟩
      rw [hc]
      cases hr : a.rule? with
      | none => rw [List.filterMap_cons_none hr]; rfl
      | some rule => rw [List.filterMap_cons_some hr]; rfl

theorem fetchTallies_ensures (hP : Steady P s₀) {viewers : List String} (hv : viewers ≠ []) :
    (fetchTallies (viewers.map .text)).Ensures (Event.From P) fun es tallies =>
      addedIn es = [] ∧ timesIn es = [] ∧ ∃ s, P s ∧ tallies = Store.tallies s.resultRows viewers := by
  unfold fetchTallies
  rw [if_neg (by simpa using hv)]
  refine ensures_ask fun reply ⟨s, hs, hr⟩ => ?_
  rw [Store.answer_of_ready (hP.ready s hs)] at hr
  refine ⟨Store.tallies s.resultRows viewers, ?_, rfl, rfl, s, hs, rfl⟩
  rw [hr]
  simp only [Store.serve, Value.texts_map_text]
  rfl

theorem fetchCounts_ensures (hP : Steady P s₀) {viewers keys : List String} (hv : viewers ≠ [])
    (hsome : ∃ s, P s) :
    (fetchCounts (viewers.map .text) (keys.map .text)).Ensures (Event.From P) fun es counts =>
      addedIn es = [] ∧ timesIn es = [] ∧ ∃ s, P s ∧ counts = Store.counts s.counterRows viewers keys := by
  unfold fetchCounts
  by_cases hk : keys = []
  · -- without keys nothing is asked, and any of the stores would have answered the same
    subst hk
    rw [if_pos (by simp)]
    obtain ⟨s, hs⟩ := hsome
    refine ensures_done ⟨rfl, rfl, s, hs, ?_⟩
    unfold Store.counts
    rw [List.filter_eq_nil_iff.mpr (by simp)]
    rfl
  · rw [if_neg (by simp [hv, hk])]
    refine ensures_ask fun reply ⟨s, hs, hr⟩ => ?_
    rw [Store.answer_of_ready (hP.ready s hs)] at hr
    refine ⟨Store.counts s.counterRows viewers keys, ?_, rfl, rfl, s, hs, rfl⟩
    rw [hr]
    simp only [Store.serve, Value.texts_map_text]
    rfl

/-- Snapshots are made of the results of one store and the counters of another. -/
theorem takeSnapshots_ensures (hP : Steady P s₀) {viewers : List String} (hv : viewers ≠ [])
    (keys : List String) :
    (takeSnapshots viewers (keys.map .text)).Ensures (Event.From P) fun es snapshots =>
      addedIn es = [] ∧ timesIn es = [] ∧ ∃ s₁ s₂, P s₁ ∧ P s₂ ∧ snapshots = viewers.map fun v =>
        (v, Snapshot.ofFetched (Store.tallies s₁.resultRows viewers)
          (Store.counts s₂.counterRows viewers keys) v) := by
  unfold takeSnapshots
  rw [if_neg (by simpa using hv)]
  refine ensures_seq (fetchTallies_ensures hP hv) ?_
  rintro es tallies ⟨ha, ht, s₁, hs₁, rfl⟩
  refine ensures_seq (fetchCounts_ensures hP hv ⟨s₁, hs₁⟩) ?_
  rintro es' counts ⟨ha', ht', s₂, hs₂, rfl⟩
  exact ensures_done ⟨by simp [ha, ha'], by simp [ht, ht'], s₁, s₂, hs₁, hs₂, rfl⟩

end Procedure

/-! ## Adding the unlocks -/

/-- A candidate for an unlock: a viewer, what was seen of the viewer, and a rule. -/
abbrev Candidate := String × Snapshot × Rule

/-- What a pass does with its candidates, given the pairs that it takes to be unlocked. -/
structure UnlockFacts (o : Occasion) (candidates : List Candidate) (existing : List (String × Int))
    (es : List Event) (us : List Unlock) : Prop where
  /-- The rows that are added are those that are reported. -/
  added : addedIn es = us.map (Unlock.row o.source o.sourceRef)
  /-- The clock is not read. -/
  times : timesIn es = []
  /-- What is reported was satisfied, in the order of the candidates. -/
  deserved : us.Sublist ((candidates.filter fun c => satisfied c.2.2.clauses c.2.1).map
    fun c => c.2.2.unlock o.time c.1)
  /-- What was satisfied is unlocked, if not before then by now. -/
  complete : ∀ c ∈ candidates, satisfied c.2.2.clauses c.2.1 = true →
    (c.1, c.2.2.achievement.id) ∈ existing ∨ ∃ e ∈ es, e.Shows c.1 c.2.2.achievement.id

namespace UnlockFacts

variable {o : Occasion} {candidates : List Candidate} {existing : List (String × Int)} {es : List Event}
  {us : List Unlock}

/-- A candidate that is passed over: its pair is taken to be unlocked, or its rule is not satisfied. -/
theorem skip (h : UnlockFacts o candidates existing es us) {c : Candidate}
    (hc : (c.1, c.2.2.achievement.id) ∈ existing ∨ satisfied c.2.2.clauses c.2.1 = false) :
    UnlockFacts o (c :: candidates) existing es us where
  added := h.added
  times := h.times
  deserved := h.deserved.trans (((List.sublist_cons_self c candidates).filter _).map _)
  complete := by
    intro d hd hsat
    rcases List.mem_cons.mp hd with rfl | hd
    · rcases hc with hc | hc
      · exact Or.inl hc
      · rw [hc] at hsat
        exact absurd hsat (by simp)
    · exact h.complete d hd hsat

/-- A candidate whose pair another procedure has unlocked in between. -/
theorem lost (h : UnlockFacts o candidates existing es us) (c : Candidate) :
    UnlockFacts o (c :: candidates) existing
      (.asked (.insertUnlock (o.row c.1 c.2.2.achievement.id).entry) (.ok false) :: es) us where
  added := h.added
  times := h.times
  deserved := h.deserved.trans (((List.sublist_cons_self c candidates).filter _).map _)
  complete := by
    intro d hd hsat
    rcases List.mem_cons.mp hd with rfl | hd
    · exact Or.inr ⟨_, List.mem_cons_self, _, UnlockRow.row_entry _, rfl, rfl⟩
    · rcases h.complete d hd hsat with hold | ⟨e, he, hs⟩
      · exact Or.inl hold
      · exact Or.inr ⟨e, List.mem_cons_of_mem _ he, hs⟩

/-- A candidate that is unlocked. Its pair is passed over from then on. -/
theorem won {c : Candidate}
    (h : UnlockFacts o candidates ((c.1, c.2.2.achievement.id) :: existing) es us)
    (hc : satisfied c.2.2.clauses c.2.1 = true) (line : LogLine) :
    UnlockFacts o (c :: candidates) existing
      (.asked (.insertUnlock (o.row c.1 c.2.2.achievement.id).entry) (.ok true) :: .wrote line :: es)
      (c.2.2.unlock o.time c.1 :: us) where
  added := by
    rw [addedIn_cons, addedIn_cons, h.added, List.map_cons]
    simp only [Event.added, Store.added, UnlockRow.row_entry]
    rfl
  times := h.times
  deserved := by
    rw [List.filter_cons_of_pos (p := fun c : Candidate => satisfied c.2.2.clauses c.2.1) hc, List.map_cons]
    exact h.deserved.cons_cons _
  complete := by
    intro d hd hsat
    have hnew : ∀ e : Event, e ∈ es → e ∈ .asked (.insertUnlock (o.row c.1 c.2.2.achievement.id).entry)
        (.ok true) :: .wrote line :: es :=
      fun e he => List.mem_cons_of_mem _ (List.mem_cons_of_mem _ he)
    have hself : ∃ e ∈ (.asked (.insertUnlock (o.row c.1 c.2.2.achievement.id).entry) (.ok true)
        :: .wrote line :: es : List Event), e.Shows c.1 c.2.2.achievement.id :=
      ⟨_, List.mem_cons_self, _, UnlockRow.row_entry _, rfl, rfl⟩
    rcases List.mem_cons.mp hd with rfl | hd
    · exact Or.inr hself
    · rcases h.complete d hd hsat with hold | ⟨e, he, hs⟩
      · rcases List.mem_cons.mp hold with heq | hold
        · -- the same pair again: this very insertion shows it
          rw [(Prod.mk.inj heq).1, (Prod.mk.inj heq).2]
          exact Or.inr hself
        · exact Or.inl hold
      · exact Or.inr ⟨e, hnew e he, hs⟩

end UnlockFacts

namespace Procedure

variable {P : Store → Prop} {s₀ : Store}

/-- The insertion of a row is answered. -/
theorem ask_insertUnlock_ensures (hP : Steady P s₀) (row : UnlockRow) :
    (ask (.insertUnlock row.entry)).Ensures (Event.From P) fun es added =>
      es = [.asked (.insertUnlock row.entry) (.ok added)] := by
  refine ensures_ask fun reply ⟨s, hs, hr⟩ => ?_
  rw [Store.answer_of_ready (hP.ready s hs), Store.serve_insertUnlock s row.row_entry] at hr
  exact ⟨_, hr, rfl⟩

theorem unlockAll_ensures (hP : Steady P s₀) (o : Occasion) (candidates : List Candidate)
    (existing : List (String × Int)) :
    (unlockAll o candidates existing).Ensures (Event.From P) (UnlockFacts o candidates existing) := by
  induction candidates generalizing existing with
  | nil => exact ensures_done ⟨rfl, rfl, .slnil, by simp⟩
  | cons c candidates ih =>
    obtain ⟨viewer, snapshot, rule⟩ := c
    unfold unlockAll
    split
    · rename_i hold
      exact (ih existing).mono fun es us h => h.skip (Or.inl (by simpa using hold))
    · split
      · rename_i hsat
        exact (ih existing).mono fun es us h => h.skip (Or.inr (by simpa using hsat))
      · rename_i hsat
        refine ensures_seq (ask_insertUnlock_ensures hP _) ?_
        rintro es added rfl
        cases added with
        | false =>
          -- somebody else was faster, and nothing is remembered
          exact (ih existing).mono fun es us h => h.lost (viewer, snapshot, rule)
        | true =>
          rw [if_pos rfl]
          refine ensures_seq (ensures_write _ _) ?_
          rintro es _ rfl
          refine ensures_seq (ih _) ?_
          intro es us h
          refine ensures_done ?_
          show UnlockFacts o _ existing (_ :: _ :: (es ++ [])) _
          rw [List.append_nil]
          exact h.won (c := (viewer, snapshot, rule)) (by simpa using hsat) _

end Procedure

/-! ## The pass -/

/-- What an award pass over some viewers does under some rules, having seen a snapshot of each viewer. -/
structure AwardFacts (rules : List Rule) (viewers : List String) (source sourceRef : String)
    (seen : String → Snapshot) (time : Int) (es : List Event) (us : List Unlock) : Prop where
  /-- The rows that are added are those that are reported. -/
  added : addedIn es = us.map (Unlock.row source sourceRef)
  /-- The clock is read once, or not at all if there is nothing to report. -/
  times : timesIn es = [time] ∨ timesIn es = [] ∧ us = []
  /-- What is reported was satisfied, in the order of the viewers and the rules. -/
  deserved : us.Sublist (viewers.flatMap fun v =>
    (rules.filter fun r => satisfied r.clauses (seen v)).map (Rule.unlock time v))
  /-- What was satisfied is unlocked, if not before then by now. -/
  complete : ∀ v ∈ viewers, ∀ r ∈ rules, satisfied r.clauses (seen v) = true →
    ∃ e ∈ es, e.Shows v r.achievement.id

/-- What is said of an award pass by its history: it did all that, having seen what the stores with a property
can show. -/
def AwardHistory (P : Store → Prop) (s₀ : Store) (viewers : List String) (source sourceRef : String)
    (es : List Event) (us : List Unlock) : Prop :=
  ∃ seen time, (∀ v ∈ viewers, Seen P v (seen v))
    ∧ AwardFacts s₀.rules viewers source sourceRef seen time es us

/-- The candidates of a pass, viewer by viewer and rule by rule. -/
def candidatesOf (viewers : List String) (fetched : String → Snapshot) (rules : List Rule) : List Candidate :=
  (viewers.map fun v => (v, fetched v)).flatMap fun (v, s) => rules.map fun r => (v, s, r)

theorem mem_candidatesOf {viewers : List String} {fetched : String → Snapshot} {rules : List Rule}
    {v : String} {r : Rule} (hv : v ∈ viewers) (hr : r ∈ rules) :
    (v, fetched v, r) ∈ candidatesOf viewers fetched rules :=
  List.mem_flatMap.mpr ⟨(v, fetched v), List.mem_map.mpr ⟨v, hv, rfl⟩, List.mem_map.mpr ⟨r, hr, rfl⟩⟩

theorem unlocks_candidatesOf (viewers : List String) (fetched : String → Snapshot) (rules : List Rule)
    (time : Int) :
    ((candidatesOf viewers fetched rules).filter fun c => satisfied c.2.2.clauses c.2.1).map
        (fun c => c.2.2.unlock time c.1)
      = viewers.flatMap fun v =>
          (rules.filter fun r => satisfied r.clauses (fetched v)).map (Rule.unlock time v) := by
  unfold candidatesOf
  rw [List.flatMap_map, List.filter_flatMap, List.map_flatMap]
  congr 1
  funext v
  rw [List.filter_map, List.map_map]
  rfl

/-- Facts about candidates are facts about the pass, with what was fetched put right. -/
theorem UnlockFacts.awardFacts {rules : List Rule} {viewers : List String} {o : Occasion}
    {fetched seen : String → Snapshot} {existing : List (String × Int)} {before es after : List Event}
    {us : List Unlock}
    (h : UnlockFacts o (candidatesOf viewers fetched rules) existing es us)
    (hseen : ∀ v ∈ viewers, ∀ r ∈ rules, satisfied r.clauses (fetched v) = satisfied r.clauses (seen v))
    (hexisting : ∀ v a, (v, a) ∈ existing → ∃ e ∈ before, e.Shows v a)
    (hadded : addedIn before = [] ∧ addedIn after = [])
    (htimes : timesIn before = [o.time] ∧ timesIn after = []) :
    AwardFacts rules viewers o.source o.sourceRef seen o.time (before ++ (es ++ after)) us where
  added := by
    rw [addedIn_append, addedIn_append, hadded.1, hadded.2, List.append_nil, List.nil_append, h.added]
  times := by
    rw [timesIn_append, timesIn_append, htimes.1, htimes.2, h.times]
    exact Or.inl rfl
  deserved := by
    -- satisfied by what was fetched is satisfied by what was seen, viewer by viewer
    have hsub := h.deserved
    rw [unlocks_candidatesOf] at hsub
    have heq : (viewers.flatMap fun v =>
          (rules.filter fun r => satisfied r.clauses (fetched v)).map (Rule.unlock o.time v))
        = viewers.flatMap fun v =>
          (rules.filter fun r => satisfied r.clauses (seen v)).map (Rule.unlock o.time v) :=
      List.flatMap_congr fun v hv => by rw [List.filter_congr (hseen v hv)]
    rwa [heq] at hsub
  complete := by
    intro v hv r hr hsat
    rw [← hseen v hv r hr] at hsat
    -- a pair taken to be unlocked was shown by the query for pairs, before the first insertion
    rcases h.complete (v, fetched v, r) (mem_candidatesOf hv hr) hsat with hold | ⟨e, he, hs⟩
    · obtain ⟨e, he, hs⟩ := hexisting _ _ hold
      exact ⟨e, List.mem_append_left _ he, hs⟩
    · exact ⟨e, List.mem_append_right _ (List.mem_append_left _ he), hs⟩

namespace Procedure

variable {P : Store → Prop} {s₀ : Store}

theorem ask_activeAchievements_ensures (hP : Steady P s₀) :
    (ask .activeAchievements).Ensures (Event.From P) fun es as =>
      addedIn es = [] ∧ timesIn es = [] ∧ as = Store.active s₀.catalogueRows ∧ ∃ s, P s := by
  refine ensures_ask fun reply ⟨s, hs, hr⟩ => ?_
  rw [Store.answer_of_ready (hP.ready s hs)] at hr
  refine ⟨_, hr, rfl, rfl, ?_, s, hs⟩
  rw [← hP.catalogue s hs]
  rfl

theorem fetchPairs_ensures (hP : Steady P s₀) (viewers achievements : List Value) :
    (fetchPairs viewers achievements).Ensures (Event.From P) fun es existing =>
      addedIn es = [] ∧ timesIn es = [] ∧ ∀ v a, (v, a) ∈ existing → ∃ e ∈ es, e.Shows v a := by
  unfold fetchPairs
  split
  · exact ensures_done ⟨rfl, rfl, fun v a h => absurd h (by simp)⟩
  · refine ensures_ask fun reply ⟨s, hs, hr⟩ => ?_
    rw [Store.answer_of_ready (hP.ready s hs)] at hr
    exact ⟨_, hr, rfl, rfl, fun v a h => ⟨_, List.mem_cons_self, h⟩⟩

/-- **What an award pass does.** -/
theorem awardPass_ensures (hP : Steady P s₀) (hread : s₀.Readable) {viewers : List String}
    (hv : viewers ≠ []) (source sourceRef : String) :
    (awardPass viewers source sourceRef).Ensures (Event.From P)
      (AwardHistory P s₀ viewers source sourceRef) := by
  unfold awardPass
  refine ensures_seq (ask_activeAchievements_ensures hP) ?_
  rintro es₁ as ⟨ha₁, ht₁, rfl, s, hs⟩
  refine ensures_seq (compile_ensures true fun _ ha hid _ => hread.active ha hid) ?_
  rintro es₂ rules ⟨ha₂, ht₂, rfl⟩
  show Ensures _ (if s₀.rules.isEmpty = true then _ else _) _
  split
  · -- without rules the pass is over, and any snapshot will do
    rename_i hnone
    rw [List.isEmpty_iff] at hnone
    refine ensures_done
      ⟨s.snapshot, 0, fun v _ => ⟨s, s, hs, hs, rfl⟩, ?_, Or.inr ⟨?_, rfl⟩, List.nil_sublist _, ?_⟩
    · simp [ha₁, ha₂]
    · simp [ht₁, ht₂]
    · rw [hnone]
      exact fun v _ r hr => absurd hr (by simp)
  · refine ensures_seq (takeSnapshots_ensures hP hv _) ?_
    rintro es₃ snapshots ⟨ha₃, ht₃, s₁, s₂, hs₁, hs₂, rfl⟩
    refine ensures_seq (fetchPairs_ensures hP _ _) ?_
    rintro es₄ existing ⟨ha₄, ht₄, hexisting⟩
    refine ensures_seq ensures_readClock ?_
    rintro _ time rfl
    refine ensures_seq (unlockAll_ensures hP _ _ _) ?_
    intro es₆ us hus
    -- the pass is over but for a log line
    have hdone : ∀ after : List Event, addedIn after = [] ∧ timesIn after = [] →
        AwardHistory P s₀ viewers source sourceRef
          (es₁ ++ (es₂ ++ (es₃ ++ (es₄ ++ ([.told time] ++ (es₆ ++ after)))))) us := by
      rintro after ⟨ha, ht⟩
      have hbefore : ∀ v a, (v, a) ∈ existing →
          ∃ e ∈ es₁ ++ (es₂ ++ (es₃ ++ (es₄ ++ [.told time]))), e.Shows v a := by
        intro v a hva
        obtain ⟨e, he, hshows⟩ := hexisting v a hva
        exact ⟨e, by simp [he], hshows⟩
      have hfacts := hus.awardFacts (fun v hv r hr => satisfied_ofFetched s₁ s₂ hv hr) hbefore
        ⟨by simp [ha₁, ha₂, ha₃, ha₄, Event.added], ha⟩ ⟨by simp [ht₁, ht₂, ht₃, ht₄], ht⟩
      simp only [List.append_assoc] at hfacts
      exact ⟨_, time, fun v _ => ⟨s₁, s₂, hs₁, hs₂, rfl⟩, hfacts⟩
    split
    · refine ensures_seq (ensures_write _ _) ?_
      rintro _ _ rfl
      exact ensures_done (hdone _ ⟨rfl, rfl⟩)
    · exact ensures_done (hdone [] ⟨rfl, rfl⟩)

end Procedure

end Laurels
