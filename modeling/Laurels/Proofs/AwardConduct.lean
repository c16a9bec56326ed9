import Laurels.Proofs.CallHistory
import Laurels.Proofs.Conduct

/-!
# What an unlock rests on

An award pass inserts what follows from the steps it has taken before: it has read the catalogue, then the race
counts of its viewers, then their counters, and a rule of the catalogue is satisfied by what these replies say
of the viewer. `Warranted` says so of a row, given the steps that came before its insertion.

Nothing is assumed of the replies. A pass may be refused at any step, or come upon a text that cannot be read,
and what it has inserted by then is warranted all the same (`Call.inserts_warranted`).
-/

namespace Laurels

/-- The keys of the counters that the rules of some achievements read. -/
def keysRead (as : List Achievement) : List String :=
  wantedKeys (Rule.actionKeys (as.filterMap Achievement.rule?))

/-- What a pass has been told of some viewers, one reply after the other. Counters are asked for only if some rule
reads one. -/
inductive Gathered (past : List Event) (as : List Achievement) (viewers : List String)
    (tallies : List (String × Tally)) : List (String × String × Int) → Prop
  | races (nokeys : keysRead as = [])
      (steps : [.asked .activeAchievements (.ok as), .asked (.raceTallies (viewers.map .text)) (.ok tallies)].Sublist
        past) : Gathered past as viewers tallies []
  | counters (counts : List (String × String × Int))
      (steps : [.asked .activeAchievements (.ok as), .asked (.raceTallies (viewers.map .text)) (.ok tallies),
        .asked (.actionCounts (viewers.map .text) ((keysRead as).map .text)) (.ok counts)].Sublist past) :
      Gathered past as viewers tallies counts

/-- A row is warranted by some steps if a rule of its achievement is satisfied by what they have gathered. -/
def Warranted (past : List Event) (row : UnlockRow) : Prop :=
  ∃ as viewers tallies counts, Gathered past as viewers tallies counts ∧ row.viewer ∈ viewers
    ∧ ∃ rule ∈ as.filterMap Achievement.rule?, rule.achievement.id = row.achievement
      ∧ satisfied rule.clauses (.ofFetched tallies counts row.viewer) = true

/-- A step inserts only what the steps before it warrant. -/
def InsertsWarranted (past : List Event) (e : Event) : Prop := ∀ row ∈ e.added, Warranted past row

theorem Gathered.mono {past past' : List Event} {as : List Achievement} {viewers : List String}
    {tallies : List (String × Tally)} {counts : List (String × String × Int)}
    (h : Gathered past as viewers tallies counts) (hsub : past.Sublist past') :
    Gathered past' as viewers tallies counts := by
  cases h with
  | races nokeys steps => exact .races nokeys (steps.trans hsub)
  | counters counts steps => exact .counters counts (steps.trans hsub)

theorem Warranted.mono {past past' : List Event} {row : UnlockRow} (h : Warranted past row)
    (hsub : past.Sublist past') : Warranted past' row := by
  obtain ⟨as, viewers, tallies, counts, hgathered, hrest⟩ := h
  exact ⟨as, viewers, tallies, counts, hgathered.mono hsub, hrest⟩

/-- A step that adds no row inserts nothing that is not warranted. -/
theorem insertsWarranted_of_added {past : List Event} {e : Event} (h : e.added = []) :
    InsertsWarranted past e := by
  intro row hrow
  rw [h] at hrow
  exact absurd hrow List.not_mem_nil

namespace Procedure

variable {allowed : Event → Prop} {past : List Event}

/-! ## Parts of a pass -/

theorem abides_written (level : LogLevel) (text : String) :
    (write level text).Abides allowed InsertsWarranted past fun es _ => past.Sublist es :=
  abides_write (insertsWarranted_of_added rfl) (List.sublist_append_left _ _)

theorem compileCriteria_abides (warn : Bool) (mention : String) (a : Achievement) (hid : a.id ≠ 0) :
    (compileCriteria warn mention a.criteria).Abides allowed InsertsWarranted past fun es clauses? =>
      past.Sublist es ∧ clauses?.map (Rule.mk a) = a.rule? := by
  unfold compileCriteria Achievement.rule?
  rw [if_neg hid]
  cases hp : Criteria.parse a.criteria with
  | error e =>
    simp only
    split
    · split
      · exact abides_seq (abides_written _ _) fun _ _ hes => abides_done ⟨hes, rfl⟩
      · exact abides_done ⟨.refl past, rfl⟩
    · exact abides_raise _ _
  | ok clauses =>
    dsimp only
    split
    · exact abides_seq (abides_written _ _) fun _ _ hes => abides_done ⟨hes, rfl⟩
    · exact abides_done ⟨.refl past, rfl⟩

theorem compile_abides (warn : Bool) (as : List Achievement) :
    (compile warn as).Abides allowed InsertsWarranted past fun es rules =>
      past.Sublist es ∧ rules = as.filterMap Achievement.rule? := by
  induction as generalizing past with
  | nil => exact abides_done ⟨.refl past, rfl⟩
  | cons a as ih =>
    by_cases hid : a.id = 0
    · have hnone : a.rule? = none := by unfold Achievement.rule?; rw [if_pos hid]
      rw [compile, if_pos hid, List.filterMap_cons_none hnone]
      exact ih
    · rw [compile, if_neg hid]
      refine abides_seq (compileCriteria_abides warn a.mention a hid) ?_
      rintro es clauses? ⟨hes, hc⟩
      refine abides_seq ih ?_
      rintro es' rules ⟨hes', rfl⟩
      refine abides_done ⟨hes.trans hes', ?_⟩
      rw [hc]
      cases hr : a.rule? with
      | none => rw [List.filterMap_cons_none hr]; rfl
      | some rule => rw [List.filterMap_cons_some hr]; rfl

/-- The replies about the viewers come after that about the catalogue. -/
theorem takeSnapshots_abides {as : List Achievement} {viewers : List String} (hv : viewers ≠ [])
    (hpast : [Event.asked .activeAchievements (.ok as)].Sublist past) :
    (takeSnapshots viewers (Rule.wanted (as.filterMap Achievement.rule?))).Abides allowed InsertsWarranted past
      fun es snapshots => ∃ tallies counts, Gathered es as viewers tallies counts
        ∧ snapshots = viewers.map fun v => (v, .ofFetched tallies counts v) := by
  unfold takeSnapshots fetchTallies fetchCounts
  rw [if_neg (by simpa using hv), if_neg (by simpa using hv)]
  refine abides_seq (abides_ask (fun _ _ => insertsWarranted_of_added rfl)
    (Q := fun es tallies => [Event.asked .activeAchievements (.ok as),
      .asked (.raceTallies (viewers.map .text)) (.ok tallies)].Sublist es)
    fun tallies _ => hpast.append (.refl _)) ?_
  intro es tallies hes
  by_cases hk : keysRead as = []
  · have hwanted : (Rule.wanted (as.filterMap Achievement.rule?)).isEmpty = true := by
      show ((keysRead as).map Value.text).isEmpty = true
      rw [hk]
      rfl
    rw [if_pos (by rw [hwanted, Bool.or_true])]
    exact abides_seq (abides_done (Q := fun es' counts => es' = es ∧ counts = []) ⟨rfl, rfl⟩) fun _ _ h => by
      obtain ⟨rfl, rfl⟩ := h
      exact abides_done ⟨tallies, [], .races hk hes, rfl⟩
  · have hwanted : ¬ ((viewers.map Value.text).isEmpty || (Rule.wanted (as.filterMap Achievement.rule?)).isEmpty)
        = true := by
      show ¬ ((viewers.map Value.text).isEmpty || ((keysRead as).map Value.text).isEmpty) = true
      simp [hv, hk]
    rw [if_neg hwanted]
    refine abides_seq (abides_ask (fun _ _ => insertsWarranted_of_added rfl)
      (Q := fun es' counts => [Event.asked .activeAchievements (.ok as),
        .asked (.raceTallies (viewers.map .text)) (.ok tallies),
        .asked (.actionCounts (viewers.map .text) ((keysRead as).map .text)) (.ok counts)].Sublist es')
      fun counts _ => hes.append (.refl _)) ?_
    exact fun es' counts hes' => abides_done ⟨tallies, counts, .counters counts hes', rfl⟩

theorem fetchPairs_abides (viewers achievements : List Value) :
    (fetchPairs viewers achievements).Abides allowed InsertsWarranted past fun es _ => past.Sublist es := by
  unfold fetchPairs
  split
  · exact abides_done (.refl past)
  · exact abides_ask (fun _ _ => insertsWarranted_of_added rfl) fun _ _ => List.sublist_append_left _ _

/-- **The insertions of a pass are warranted** if its candidates are. -/
theorem unlockAll_abides (o : Occasion) {candidates : List Candidate} (existing : List (String × Int))
    (h : ∀ c ∈ candidates, satisfied c.2.2.clauses c.2.1 = true →
      Warranted past (o.row c.1 c.2.2.achievement.id)) :
    (unlockAll o candidates existing).Abides allowed InsertsWarranted past fun _ _ => True := by
  induction candidates generalizing existing past with
  | nil => exact abides_done trivial
  | cons c candidates ih =>
    obtain ⟨viewer, snapshot, rule⟩ := c
    rw [List.forall_mem_cons] at h
    unfold unlockAll
    split
    · exact ih existing h.2
    · split
      · exact ih existing h.2
      · rename_i hsat
        have hrow : Warranted past (o.row viewer rule.achievement.id) := h.1 (by simpa using hsat)
        refine abides_seq (R := fun es _ => past.Sublist es) (abides_ask ?_
          fun _ _ => List.sublist_append_left _ _) fun es added hes => ?_
        · -- the row that the insertion adds is the candidate's
          intro reply _ row hadded
          rw [Store.eq_of_mem_added hadded]
          exact hrow
        · have hlater : ∀ es', past.Sublist es' → ∀ c ∈ candidates, satisfied c.2.2.clauses c.2.1 = true →
              Warranted es' (o.row c.1 c.2.2.achievement.id) :=
            fun es' hes' c hc hsat => (h.2 c hc hsat).mono hes'
          split
          · refine abides_seq (abides_written _ _) fun es' _ hes' => ?_
            exact abides_seq (ih _ (hlater es' (hes.trans hes'))) fun _ _ _ => abides_done trivial
          · exact ih existing (hlater es hes)

/-! ## The pass and the calls -/

theorem awardPass_abides {viewers : List String} (hv : viewers ≠ []) (source sourceRef : String) :
    (awardPass viewers source sourceRef).Abides allowed InsertsWarranted past fun _ _ => True := by
  unfold awardPass
  refine abides_seq (abides_ask (fun _ _ => insertsWarranted_of_added rfl)
    (Q := fun es as => [Event.asked .activeAchievements (.ok as)].Sublist es)
    fun as _ => List.sublist_append_right _ _) fun es₁ as hes₁ => ?_
  refine abides_seq (compile_abides true as) ?_
  rintro es₂ rules ⟨hes₂, rfl⟩
  split
  · exact abides_done trivial
  · refine abides_seq (takeSnapshots_abides hv (hes₁.trans hes₂)) ?_
    rintro es₃ snapshots ⟨tallies, counts, hgathered, rfl⟩
    refine abides_seq (fetchPairs_abides _ _) fun es₄ existing hes₄ => ?_
    refine abides_seq (abides_readClock (Q := fun es _ => es₄.Sublist es)
      (fun _ => insertsWarranted_of_added rfl) fun _ _ => List.sublist_append_left _ _) fun es₅ time hes₅ => ?_
    refine abides_seq (unlockAll_abides _ _ fun c hc hsat => ?_) fun es₆ us _ => ?_
    · -- a candidate is a viewer of the pass, what was gathered of the viewer, and a rule of the catalogue
      obtain ⟨⟨v, s⟩, hvs, hc⟩ := List.mem_flatMap.mp hc
      obtain ⟨v', hv', heq⟩ := List.mem_map.mp hvs
      obtain ⟨rule, hrule, rfl⟩ := List.mem_map.mp hc
      cases heq
      exact ⟨as, viewers, tallies, counts, hgathered.mono (hes₄.trans hes₅), hv', rule, hrule, rfl, hsat⟩
    · split
      · exact abides_seq (abides_written _ _) fun _ _ _ => abides_done trivial
      · exact abides_done trivial

theorem awardIds_abides (viewers : List String) (source sourceRef : String) :
    (awardIds viewers source sourceRef).Abides allowed InsertsWarranted past fun _ _ => True := by
  unfold awardIds
  split
  · exact abides_done trivial
  · rename_i hsome
    refine (awardPass_abides (by simpa using hsome) source sourceRef).rescue fun es fault => ?_
    unfold nothingAwarded
    split
    · exact abides_seq (abides_written _ _) fun _ _ _ => abides_done trivial
    · exact abides_raise _ _

theorem passFailed_abides (after : String) (fault : Fault) :
    (passFailed after fault).Abides allowed InsertsWarranted past fun _ _ => True :=
  abides_seq (abides_written _ _) fun _ _ _ => abides_done trivial

theorem award_abides (viewers source sourceRef : Value) :
    (award viewers source sourceRef).Abides allowed InsertsWarranted past fun _ _ => True := by
  unfold award
  split
  · exact abides_raise _ _
  · exact awardIds_abides _ _ _

theorem recordAction_abides (viewer key : Value) :
    (recordAction viewer key).Abides allowed InsertsWarranted past fun _ _ => True := by
  unfold recordAction
  split
  · exact abides_done trivial
  · rw [countAndAward_eq]
    refine abides_seq (abides_readClock (Q := fun _ _ => True) (fun _ => insertsWarranted_of_added rfl)
      fun _ _ => trivial) fun _ time _ => ?_
    refine abides_seq (abides_ask (Q := fun _ _ => True) (fun _ _ => insertsWarranted_of_added rfl)
      fun _ _ => trivial) fun _ count _ => ?_
    unfold awardCounted
    refine abides_seq (abides_written _ _) fun _ _ _ => ?_
    refine abides_seq ((awardIds_abides _ _ _).rescue fun _ => passFailed_abides _) fun _ _ _ => ?_
    exact abides_done trivial

end Procedure

/-- **What a call that awards inserts is warranted** by the steps it has taken before. -/
theorem Call.inserts_warranted {c : Call} (hc : c.Awards) (past : List Event) :
    c.procedure.Abides (fun _ => True) InsertsWarranted past fun _ _ => True := by
  cases c with
  | award viewers source sourceRef => exact Procedure.abides_map (Procedure.award_abides _ _ _)
  | awardRace competition viewers =>
    exact Procedure.abides_map ((Procedure.award_abides _ _ _).rescue fun _ => Procedure.passFailed_abides _)
  | record viewer key => exact Procedure.abides_map (Procedure.recordAction_abides _ _)
  | _ => exact False.elim hc

end Laurels
