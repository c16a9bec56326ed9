import Laurels.Proofs.CallHistory
import Laurels.Proofs.SoloRun
import Laurels.Proofs.ViewerIds

/-!
# Viewers do not interfere

All that the tables say of a viewer stands in rows that bear the viewer's id. `Query.viewers` lists the ids
whose rows a query looks at or writes, and two facts about a single query carry the rest: a query about one
viewer is answered alike by two stores that have the same rows for that viewer (`AlikeFor.answer`), and a query
about others leaves those rows alone (`alikeFor_answer`).

A call asks only about the viewers that it names (`Call.Names.asks`), so that both facts go over to calls.
`viewers_apart` puts them together. No table has to be there for it, none has to be in reach, and the criteria
on offer may be any texts.
-/

namespace Laurels

/-! ## Queries and the viewers that they are about -/

namespace Query

/-- The viewers whose rows a query looks at or writes. -/
def viewers : Query → List String
  | .activeAchievements => []
  | .raceTallies viewers => Value.texts viewers
  | .actionCounts viewers _ => Value.texts viewers
  | .unlockedPairs viewers _ => Value.texts viewers
  | .insertUnlock entry => entry.row.toOption.toList.map (·.viewer)
  | .unlockTimes viewer => (viewer.textCell.toOption.bind id).toList
  | .unlockedList viewer => [viewer]
  | .countAction entry => entry.read.toOption.toList.map (·.1)
  | .create _ => []

/-- A query about viewers of some kind and no others, which creates no table. -/
structure Concerns (among : String → Prop) (q : Query) : Prop where
  viewers : ∀ v ∈ q.viewers, among v
  creates : ∀ item, q ≠ .create item

end Query

namespace Store

/-- Two stores that cannot be told apart by what they hold about one viewer: they have the same tables, the same
of them are out of reach, and the catalogue and the rows of the viewer are the same. -/
structure AlikeFor (viewer : String) (s₁ s₂ : Store) : Prop where
  catalogue : s₁.catalogue = s₂.catalogue
  results : s₁.results.map (List.filter fun r => r.viewer == viewer)
    = s₂.results.map (List.filter fun r => r.viewer == viewer)
  unlocks : s₁.unlocks.map (List.filter fun r => r.viewer == viewer)
    = s₂.unlocks.map (List.filter fun r => r.viewer == viewer)
  actions : s₁.actions.map (List.filter fun r => r.viewer == viewer)
    = s₂.actions.map (List.filter fun r => r.viewer == viewer)
  failing : s₁.failing = s₂.failing

end Store

/-! ## Rows of one kind among others -/

section

variable {α : Type} {kind : α → Bool}

theorem isSome_of_map_eq {β : Type} {f : α → β} {o₁ o₂ : Option α} (h : o₁.map f = o₂.map f) :
    o₁.isSome = o₂.isSome := by
  rw [← Option.isSome_map (f := f), h, Option.isSome_map]

theorem filter_getD {o₁ o₂ : Option (List α)} (h : o₁.map (List.filter kind) = o₂.map (List.filter kind)) :
    (o₁.getD []).filter kind = (o₂.getD []).filter kind := by
  have hget : ∀ o : Option (List α), (o.getD []).filter kind = (o.map (List.filter kind)).getD [] :=
    fun o => by cases o <;> rfl
  rw [hget, hget, h]

end

namespace Store

variable {viewer : String} {s₁ s₂ : Store}

namespace AlikeFor

theorem refl (viewer : String) (s : Store) : AlikeFor viewer s s := ⟨rfl, rfl, rfl, rfl, rfl⟩

theorem trans {s₃ : Store} (h : AlikeFor viewer s₁ s₂) (h' : AlikeFor viewer s₂ s₃) : AlikeFor viewer s₁ s₃ where
  catalogue := h.catalogue.trans h'.catalogue
  results := h.results.trans h'.results
  unlocks := h.unlocks.trans h'.unlocks
  actions := h.actions.trans h'.actions
  failing := h.failing.trans h'.failing

theorem refusal?_eq (h : AlikeFor viewer s₁ s₂) (tables : List Table) :
    s₁.refusal? tables = s₂.refusal? tables := by
  have hhas : s₁.has = s₂.has := by
    funext t
    cases t with
    | results => exact isSome_of_map_eq h.results
    | catalogue => exact congrArg Option.isSome h.catalogue
    | unlocks => exact isSome_of_map_eq h.unlocks
    | actions => exact isSome_of_map_eq h.actions
  unfold refusal?
  rw [h.failing, hhas]

theorem tallies_eq (h : AlikeFor viewer s₁ s₂) {viewers : List String} (hv : ∀ v ∈ viewers, v = viewer) :
    tallies (s₁.results.getD []) viewers = tallies (s₂.results.getD []) viewers := by
  unfold tallies
  refine List.filterMap_congr fun v hmem => ?_
  rw [hv v (List.mem_eraseDups.mp hmem), filter_getD h.results]

theorem counts_eq (h : AlikeFor viewer s₁ s₂) {viewers : List String} (hv : ∀ v ∈ viewers, v = viewer)
    (keys : List String) :
    counts (s₁.actions.getD []) viewers keys = counts (s₂.actions.getD []) viewers keys := by
  unfold counts
  rw [filter_within (fun r hr => ?_) (filter_getD h.actions)]
  rw [Bool.and_eq_true, List.contains_iff_mem] at hr
  exact beq_iff_eq.mpr (hv _ hr.1)

theorem pairs_eq (h : AlikeFor viewer s₁ s₂) {viewers : List String} (hv : ∀ v ∈ viewers, v = viewer)
    (achievements : List Int) :
    pairs (s₁.unlocks.getD []) viewers achievements = pairs (s₂.unlocks.getD []) viewers achievements := by
  unfold pairs
  rw [filter_within (fun r hr => ?_) (filter_getD h.unlocks)]
  rw [Bool.and_eq_true, List.contains_iff_mem] at hr
  exact beq_iff_eq.mpr (hv _ hr.1)

theorem times_eq (h : AlikeFor viewer s₁ s₂) :
    times (s₁.unlocks.getD []) viewer = times (s₂.unlocks.getD []) viewer := by
  unfold times
  rw [filter_within (fun r hr => ?_) (filter_getD h.unlocks)]
  rw [Bool.and_eq_true] at hr
  exact hr.1

theorem unlockedList_eq (h : AlikeFor viewer s₁ s₂) :
    unlockedList (s₁.catalogue.getD []) (s₁.unlocks.getD []) viewer
      = unlockedList (s₂.catalogue.getD []) (s₂.unlocks.getD []) viewer := by
  unfold unlockedList described
  rw [h.catalogue, filter_getD h.unlocks]

/-- An unlock of the viewer is new to both ledgers or to none. -/
theorem insertUnlock_eq (h : AlikeFor viewer s₁ s₂) {row : UnlockRow} (hrow : row.viewer = viewer) :
    (insertUnlock (s₁.unlocks.getD []) row).1 = (insertUnlock (s₂.unlocks.getD []) row).1
      ∧ AlikeFor viewer { s₁ with unlocks := some (insertUnlock (s₁.unlocks.getD []) row).2 }
        { s₂ with unlocks := some (insertUnlock (s₂.unlocks.getD []) row).2 } := by
  have hrows := filter_getD h.unlocks
  have hany := any_within (p := isUnlockOf row.viewer row.achievement) (fun r hr => by
    rw [isUnlockOf, Bool.and_eq_true, hrow] at hr
    exact hr.1) hrows
  unfold insertUnlock
  rw [hany]
  split
  · exact ⟨rfl, { h with unlocks := congrArg some hrows }⟩
  · refine ⟨rfl, { h with unlocks := congrArg some ?_ }⟩
    rw [List.filter_append, List.filter_append, hrows]

theorem filter_again (key : String) (time : Option Int) (rows : List ActionRow) :
    (rows.map fun a => if isCounterOf viewer key a then ActionRow.again time a else a).filter
        (fun r => r.viewer == viewer)
      = (rows.filter fun r => r.viewer == viewer).map
          fun a => if isCounterOf viewer key a then ActionRow.again time a else a := by
  rw [List.filter_map]
  refine congrArg _ (List.filter_congr fun r _ => ?_)
  show ((if isCounterOf viewer key r then ActionRow.again time r else r).viewer == viewer) = _
  split <;> rfl

/-- A counter of the viewer moves in the same way in both stores. -/
theorem countOnce_eq (h : AlikeFor viewer s₁ s₂) (key : String) (time : Option Int) :
    (countOnce s₁.counterRows viewer key time).1 = (countOnce s₂.counterRows viewer key time).1
      ∧ AlikeFor viewer { s₁ with actions := some (countOnce s₁.counterRows viewer key time).2 }
        { s₂ with actions := some (countOnce s₂.counterRows viewer key time).2 } := by
  have hrows : s₁.counterRows.filter (fun r => r.viewer == viewer) = s₂.counterRows.filter fun r => r.viewer == viewer :=
    filter_getD h.actions
  have hfind := find?_within (p := isCounterOf viewer key) (fun r hr => by
    rw [isCounterOf, Bool.and_eq_true] at hr
    exact hr.1) hrows
  unfold countOnce
  rw [hfind]
  split
  · refine ⟨rfl, { h with actions := congrArg some ?_ }⟩
    rw [filter_again, filter_again, hrows]
  · refine ⟨rfl, { h with actions := congrArg some ?_ }⟩
    rw [List.filter_append, List.filter_append, hrows]

theorem create (h : AlikeFor viewer s₁ s₂) (item : SchemaItem) :
    AlikeFor viewer (s₁.create item) (s₂.create item) := by
  cases item with
  | index name => exact h
  | table t =>
    cases t with
    | results => exact { h with results := congrArg some (filter_getD h.results) }
    | catalogue =>
      exact { h with catalogue := congrArg (fun rows : Option (List CatalogueRow) => some (rows.getD [])) h.catalogue }
    | unlocks => exact { h with unlocks := congrArg some (filter_getD h.unlocks) }
    | actions => exact { h with actions := congrArg some (filter_getD h.actions) }

/-- Two stores in reach that serve a query alike: with the same fault of a cell, or with the same reply, and then
they are alike again. -/
inductive Served (viewer : String) {ρ : Type} :
    Except CellFault (ρ × Store) → Except CellFault (ρ × Store) → Prop
  | faulty (fault : CellFault) : Served viewer (.error fault) (.error fault)
  | served {reply₁ reply₂ : ρ} {t₁ t₂ : Store} (reply : reply₁ = reply₂) (stores : AlikeFor viewer t₁ t₂) :
      Served viewer (.ok (reply₁, t₁)) (.ok (reply₂, t₂))

theorem serve (h : AlikeFor viewer s₁ s₂) {q : Query} (hq : ∀ v ∈ q.viewers, v = viewer) :
    Served viewer (s₁.serve q) (s₂.serve q) := by
  cases q with
  | activeAchievements => exact .served (congrArg (fun rows => active (rows.getD [])) h.catalogue) h
  | raceTallies viewers => exact .served (h.tallies_eq hq) h
  | actionCounts viewers keys => exact .served (h.counts_eq hq _) h
  | unlockedPairs viewers achievements => exact .served (h.pairs_eq hq _) h
  | create item => exact .served rfl (h.create item)
  | unlockedList v =>
    obtain rfl := hq v (List.mem_singleton_self v)
    exact .served h.unlockedList_eq h
  | unlockTimes v =>
    cases hcell : v.textCell with
    | error fault =>
      simp only [Store.serve, hcell, bind, Except.bind]
      exact .faulty fault
    | ok cell =>
      simp only [Store.serve, hcell, bind, Except.bind, pure, Except.pure]
      cases cell with
      | none => exact .served rfl h
      | some v =>
        obtain rfl := hq v (by simp [Query.viewers, hcell, Except.toOption])
        exact .served h.times_eq h
  | insertUnlock entry =>
    cases hentry : entry.row with
    | error fault =>
      simp only [Store.serve, hentry, bind, Except.bind]
      exact .faulty fault
    | ok row =>
      obtain ⟨hreply, hstores⟩ := h.insertUnlock_eq (hq row.viewer (by simp [Query.viewers, hentry, Except.toOption]))
      rw [serve_insertUnlock s₁ hentry, serve_insertUnlock s₂ hentry]
      exact .served hreply hstores
  | countAction entry =>
    cases hentry : entry.read with
    | error fault =>
      simp only [Store.serve, hentry, bind, Except.bind]
      exact .faulty fault
    | ok read =>
      obtain ⟨v, key, time⟩ := read
      obtain rfl := hq v (by simp [Query.viewers, hentry, Except.toOption])
      obtain ⟨hreply, hstores⟩ := h.countOnce_eq key time
      rw [serve_countAction hentry, serve_countAction hentry]
      by_cases hroom : (countOnce s₂.counterRows v key time).1 ≤ countLimit
      · rw [countAction_of_room hroom, countAction_of_room (hreply ▸ hroom)]
        exact .served hreply hstores
      · rw [countAction_of_no_room hroom, countAction_of_no_room (hreply ▸ hroom)]
        exact .faulty .unfit

/-- **A query about the viewer is answered alike,** and leaves the stores alike. -/
theorem answer (h : AlikeFor viewer s₁ s₂) {q : Query} (hq : ∀ v ∈ q.viewers, v = viewer) :
    (s₁.answer q).1 = (s₂.answer q).1 ∧ AlikeFor viewer (s₁.answer q).2 (s₂.answer q).2 := by
  unfold Store.answer
  rw [h.refusal?_eq]
  cases s₂.refusal? q.tables with
  | some fault => exact ⟨rfl, h⟩
  | none =>
    have hserve := h.serve hq
    generalize s₁.serve q = r₁ at hserve ⊢
    generalize s₂.serve q = r₂ at hserve ⊢
    cases hserve with
    | faulty fault => exact ⟨rfl, h⟩
    | served reply stores => exact ⟨congrArg Except.ok reply, stores⟩

end AlikeFor

/-- The viewer of an unlock that a query adds is one that the query is about. -/
theorem viewer_mem_of_added {entry : UnlockEntry} {reply : Except StoreFault Bool} {row : UnlockRow}
    (h : added (.insertUnlock entry) reply = [row]) : row.viewer ∈ (Query.insertUnlock entry).viewers := by
  unfold added at h
  split at h
  · rename_i heq
    cases heq
    show row.viewer ∈ entry.row.toOption.toList.map (·.viewer)
    rw [h]
    exact List.mem_singleton_self _
  · cases h

/-- **A query about others leaves the rows of a viewer alone,** and with them the tables. -/
theorem alikeFor_answer (s : Store) {q : Query} (hq : q.Concerns (· ≠ viewer)) :
    AlikeFor viewer s (s.answer q).2 := by
  cases hr : s.refusal? q.tables with
  | some fault =>
    have hsame : (s.answer q).2 = s := by unfold answer; rw [hr]
    rw [hsame]
    exact .refl viewer s
  | none =>
    have hhas : ∀ t ∈ q.tables, s.has t = true := fun t => has_of_refusal?_eq_none hr
    cases effect s q with
    | nothing same => rw [same]; exact .refl viewer s
    | create item asked => exact absurd asked (hq.creates item)
    | unlock entry row asked fresh grown adds =>
      subst asked
      obtain ⟨rows, hrows⟩ := Option.isSome_iff_exists.mp (hhas .unlocks (List.mem_singleton_self _))
      have hother : (row.viewer == viewer) = false :=
        beq_eq_false_iff_ne.mpr (hq.viewers _ (viewer_mem_of_added adds))
      rw [grown]
      refine { AlikeFor.refl viewer s with unlocks := ?_ }
      unfold ledger
      rw [hrows]
      simp [hother]
    | count entry other key time asked read counted =>
      subst asked
      obtain ⟨rows, hrows⟩ := Option.isSome_iff_exists.mp (hhas .actions (List.mem_singleton_self _))
      have hother : other ≠ viewer := hq.viewers _ (by simp [Query.viewers, read, Except.toOption])
      rw [counted]
      refine { AlikeFor.refl viewer s with actions := ?_ }
      unfold counterRows
      rw [hrows]
      exact congrArg some (counters_countOnce hother).symm

end Store

/-! ## What the calls ask about -/

namespace Procedure

variable {among : String → Prop}

theorem fetchTallies_concerns {viewers : List String} (h : ∀ v ∈ viewers, among v) :
    (fetchTallies (viewers.map .text)).Asks (Query.Concerns among) :=
  fetchTallies_asks_of ⟨by simpa [Query.viewers] using h, by simp⟩

theorem fetchCounts_concerns {viewers : List String} (h : ∀ v ∈ viewers, among v) (keys : List Value) :
    (fetchCounts (viewers.map .text) keys).Asks (Query.Concerns among) :=
  fetchCounts_asks_of fun _ => ⟨by simpa [Query.viewers] using h, by simp⟩

theorem fetchPairs_concerns {viewers : List String} (h : ∀ v ∈ viewers, among v) (achievements : List Value) :
    (fetchPairs (viewers.map .text) achievements).Asks (Query.Concerns among) :=
  fetchPairs_asks_of ⟨by simpa [Query.viewers] using h, by simp⟩

theorem bind_assoc {α β γ : Type} (p : Procedure α) (f : α → Procedure β) (g : β → Procedure γ) :
    (p >>= f) >>= g = p >>= fun a => f a >>= g := by
  show (p.bind f).bind g = p.bind fun a => (f a).bind g
  induction p with
  | done a => rfl
  | raise e => rfl
  | query q next ih => exact congrArg (Procedure.query q) (funext ih)
  | now next ih => exact congrArg Procedure.now (funext ih)
  | log line next ih => exact congrArg (Procedure.log line) ih

/-- What comes after the snapshots are taken has a snapshot of each viewer, and of nobody else. -/
theorem takeSnapshots_bind_concerns {α : Type} {viewers : List String} (h : ∀ v ∈ viewers, among v)
    (keys : List Value) {f : List (String × Snapshot) → Procedure α}
    (hf : ∀ fetched : String → Snapshot,
      (f (viewers.map fun v => (v, fetched v))).Asks (Query.Concerns among)) :
    (takeSnapshots viewers keys >>= f).Asks (Query.Concerns among) := by
  unfold takeSnapshots
  split
  · rename_i hnone
    have hlast := hf fun _ => .empty
    rw [List.isEmpty_iff.mp hnone] at hlast
    exact hlast
  · rw [bind_assoc]
    refine (fetchTallies_concerns h).bind fun tallies => ?_
    rw [bind_assoc]
    exact (fetchCounts_concerns h keys).bind fun counts => hf _

theorem ask_activeAchievements_concerns : (ask .activeAchievements).Asks (Query.Concerns among) :=
  asks_ask ⟨by simp [Query.viewers], by simp⟩

theorem unlockAll_concerns (o : Occasion) {candidates : List Candidate} (h : ∀ c ∈ candidates, among c.1)
    (existing : List (String × Int)) : (unlockAll o candidates existing).Asks (Query.Concerns among) := by
  induction candidates generalizing existing with
  | nil => exact asks_done _
  | cons c candidates ih =>
    obtain ⟨viewer, snapshot, rule⟩ := c
    rw [List.forall_mem_cons] at h
    unfold unlockAll
    split
    · exact ih h.2 existing
    · split
      · exact ih h.2 existing
      · refine Asks.bind (asks_ask ⟨?_, by simp⟩) fun added => ?_
        · simp only [Query.viewers, UnlockRow.row_entry, Except.toOption, Option.toList, List.map, List.mem_singleton,
            forall_eq]
          exact h.1
        · split
          · exact (asks_write _ _).bind fun _ => (ih h.2 _).bind fun _ => asks_done _
          · exact ih h.2 existing

theorem awardIds_concerns {viewers : List String} (h : ∀ v ∈ viewers, among v) (source sourceRef : String) :
    (awardIds viewers source sourceRef).Asks (Query.Concerns among) := by
  unfold awardIds
  split
  · exact asks_done _
  · refine Asks.rescue ?_ fun fault => ?_
    · unfold awardPass
      refine ask_activeAchievements_concerns.bind fun as => (compile_asks _ _).bind fun rules => ?_
      split
      · exact asks_done _
      · refine takeSnapshots_bind_concerns h _ fun fetched => (fetchPairs_concerns h _).bind fun existing => ?_
        refine asks_readClock.bind fun time => (unlockAll_concerns _ (fun c hc => ?_) _).bind fun us => ?_
        · obtain ⟨⟨v, s⟩, hvs, hc⟩ := List.mem_flatMap.mp hc
          obtain ⟨v', hv', heq⟩ := List.mem_map.mp hvs
          obtain ⟨rule, _, rfl⟩ := List.mem_map.mp hc
          cases heq
          exact h _ hv'
        · split
          · exact (asks_write _ _).bind fun _ => asks_done _
          · exact asks_done _
    · unfold nothingAwarded
      split
      · exact (asks_write _ _).bind fun _ => asks_done _
      · exact asks_raise _

theorem award_concerns {viewers : Value} (h : ∀ v ∈ (Viewer.ids? viewers).getD [], among v)
    (source sourceRef : Value) : (award viewers source sourceRef).Asks (Query.Concerns among) := by
  unfold award
  cases hids : Viewer.ids? viewers with
  | none => exact asks_raise _
  | some ids =>
    rw [hids] at h
    exact awardIds_concerns h _ _

theorem awardRace_concerns {viewers : Value} (h : ∀ v ∈ (Viewer.ids? viewers).getD [], among v)
    (competition : Value) : (awardRace competition viewers).Asks (Query.Concerns among) :=
  (award_concerns h _ _).rescue fun _ => (asks_write _ _).bind fun _ => asks_done _

theorem recordAction_concerns {viewer : Value} (h : among (Viewer.id viewer)) (key : Value) :
    (recordAction viewer key).Asks (Query.Concerns among) := by
  unfold recordAction
  split
  · exact asks_done _
  · rw [countAndAward_eq]
    refine asks_readClock.bind fun time => Asks.bind (asks_ask ⟨?_, by simp⟩) fun count => ?_
    · simpa [Query.viewers, ActionEntry.read_of, Except.toOption] using h
    · unfold awardCounted
      refine (asks_write _ _).bind fun _ => Asks.bind (Asks.rescue (awardIds_concerns (fun v hv => ?_) _ _) fun _ =>
        (asks_write _ _).bind fun _ => asks_done _) fun us => asks_done _
      -- the one id in the list is trimmed already
      obtain ⟨_, text, htext, rfl⟩ := Viewer.mem_distinct.mp hv
      rw [List.mem_singleton.mp htext]
      exact (Text.trimmed_trimmed _).symm ▸ h

theorem report_concerns {viewer : Value} (h : among (Viewer.id viewer)) :
    (report viewer).Asks (Query.Concerns among) := by
  unfold report
  split
  · exact asks_raise _
  · unfold reportFor
    refine ask_activeAchievements_concerns.bind fun as => (compile_asks _ _).bind fun rules => ?_
    refine takeSnapshots_bind_concerns (by simpa using h) _ fun fetched => ?_
    refine Asks.bind (asks_ask ⟨?_, by simp⟩) fun times => (asks_compute _).bind fun entries => asks_done _
    simpa [Query.viewers, Value.textCell, Except.toOption] using h

theorem listUnlocked_concerns {viewer : Value} (h : among (Viewer.id viewer)) :
    (listUnlocked viewer).Asks (Query.Concerns among) := by
  unfold listUnlocked
  split
  · exact asks_raise _
  · exact asks_ask ⟨by simpa [Query.viewers] using h, by simp⟩

end Procedure

/-! ## Runs -/

/-- Whether a call names viewers, and only such as are of some kind: those of an award or a race award are the ids in
its list, and other calls name one viewer. -/
def Call.Names (among : String → Prop) : Call → Prop
  | .award viewers _ _ => ∀ v ∈ (Viewer.ids? viewers).getD [], among v
  | .awardRace _ viewers => ∀ v ∈ (Viewer.ids? viewers).getD [], among v
  | .record viewer _ => among (Viewer.id viewer)
  | .progress viewer => among (Viewer.id viewer)
  | .unlocked viewer => among (Viewer.id viewer)
  | _ => False

/-- **A call asks only about the viewers that it names.** -/
theorem Call.Names.asks {among : String → Prop} {c : Call} (h : c.Names among) :
    c.procedure.Asks (Query.Concerns among) := by
  cases c with
  | award viewers source sourceRef => exact (Procedure.award_concerns h _ _).map _
  | awardRace competition viewers => exact (Procedure.awardRace_concerns h _).map _
  | record viewer key => exact (Procedure.recordAction_concerns h key).map _
  | progress viewer => exact (Procedure.report_concerns h).map _
  | unlocked viewer => exact (Procedure.listUnlocked_concerns h).map _
  | _ => exact False.elim h

/-- What a procedure comes to on two worlds is the same for one viewer: it ends alike, and leaves the same rows of
the viewer. -/
def SameFor {α : Type} (viewer : String) (p : Procedure α) (w₁ w₂ : World) : Prop :=
  (p.run w₁).1 = (p.run w₂).1 ∧ Store.AlikeFor viewer (p.run w₁).2.store (p.run w₂).2.store

/-- **What is asked about one viewer does not depend on others.** -/
theorem Procedure.Asks.sameFor {α : Type} {viewer : String} {p : Procedure α}
    (h : p.Asks (Query.Concerns (· = viewer))) {w₁ w₂ : World}
    (hstores : Store.AlikeFor viewer w₁.store w₂.store) (hclock : w₁.clock = w₂.clock) : SameFor viewer p w₁ w₂ := by
  obtain ⟨hresult, hstores', _⟩ := h.run_alike (fun _ _ _ hq hs => hs.answer hq.viewers) hstores hclock
  exact ⟨hresult, hstores'⟩

/-- **A call that names only others** leaves the rows of a viewer as they are. -/
theorem Call.Names.spares {viewer : String} {c : Call} (h : c.Names (· ≠ viewer)) (w : World) :
    Store.AlikeFor viewer w.store (c.procedure.run w).2.store := by
  obtain ⟨_, _, _, hlast, _⟩ := h.asks.run (P := Store.AlikeFor viewer w.store)
    (fun s q hq hs => hs.trans (Store.alikeFor_answer s hq)) (Store.AlikeFor.refl viewer w.store)
  exact hlast

/-- A viewer stands apart: what others do and have done makes no difference. -/
structure Apart (viewer : String) : Prop where
  /-- A progress report of the viewer does not depend on the rows of others. -/
  progress : ∀ w₁ w₂ : World, Store.AlikeFor viewer w₁.store w₂.store → w₁.clock = w₂.clock →
    SameFor viewer (report (.text viewer)) w₁ w₂
  /-- Nor does the list of the viewer's unlocks, -/
  unlocked : ∀ w₁ w₂ : World, Store.AlikeFor viewer w₁.store w₂.store → w₁.clock = w₂.clock →
    SameFor viewer (listUnlocked (.text viewer)) w₁ w₂
  /-- what an award for the viewer comes to, -/
  award : ∀ w₁ w₂ : World, Store.AlikeFor viewer w₁.store w₂.store → w₁.clock = w₂.clock →
    ∀ source sourceRef, SameFor viewer (Laurels.award (.list [.text viewer]) source sourceRef) w₁ w₂
  /-- and what the recording of an action comes to. -/
  record : ∀ w₁ w₂ : World, Store.AlikeFor viewer w₁.store w₂.store → w₁.clock = w₂.clock →
    ∀ key, SameFor viewer (recordAction (.text viewer) key) w₁ w₂
  /-- A call that names only others leaves the rows of the viewer as they are. -/
  spared : ∀ c : Call, c.Names (· ≠ viewer) → ∀ w : World,
    Store.AlikeFor viewer w.store (c.procedure.run w).2.store

/--
**Viewers do not interfere.** Take any id that trimming leaves alone. Two stores with the same tables, the same of
them out of reach, the same catalogue and the same rows for that id can differ in the rows of all others as they
will: calls for the viewer end alike and leave the same rows of the viewer. And no call for others touches these.
-/
theorem viewers_apart {viewer : String} (htrimmed : Text.trimmed viewer = viewer) : Apart viewer := by
  have hid : Viewer.id (.text viewer) = viewer := by
    unfold Viewer.id
    rw [Value.asText_text, htrimmed]
  have hlist : Viewer.ids? (.list [.text viewer]) = some (Viewer.distinct [viewer]) := by
    unfold Viewer.ids? Value.items?
    rw [if_neg (by simp [Value.isEmpty])]
    rfl
  have hids : ∀ v ∈ (Viewer.ids? (.list [.text viewer])).getD [], v = viewer := by
    rw [hlist, Option.getD_some]
    intro v hv
    obtain ⟨_, text, htext, rfl⟩ := Viewer.mem_distinct.mp hv
    rw [List.mem_singleton.mp htext]
    exact htrimmed
  have hreport : (report (.text viewer)).Asks (Query.Concerns (· = viewer)) := Procedure.report_concerns hid
  have hlisted : (listUnlocked (.text viewer)).Asks (Query.Concerns (· = viewer)) :=
    Procedure.listUnlocked_concerns hid
  have haward : ∀ source sourceRef,
      (award (.list [.text viewer]) source sourceRef).Asks (Query.Concerns (· = viewer)) :=
    Procedure.award_concerns hids
  have hrecord : ∀ key, (recordAction (.text viewer) key).Asks (Query.Concerns (· = viewer)) :=
    Procedure.recordAction_concerns hid
  exact
    { progress := fun _ _ => hreport.sameFor
      unlocked := fun _ _ => hlisted.sameFor
      award := fun _ _ hstores hclock source sourceRef => (haward source sourceRef).sameFor hstores hclock
      record := fun _ _ hstores hclock key => (hrecord key).sameFor hstores hclock
      spared := fun _ hc w => hc.spares w }

/-- One viewer has won a race. The rows given are those of others. -/
def sharedWorld (results : List ResultRow) (unlocks : List UnlockRow) (actions : List ActionRow) : World where
  store :=
    { results := some (results ++ [⟨7, "alice", some 1, "FINISHED"⟩])
      catalogue := some [⟨1, "First", none, false, "wins>=1"⟩, ⟨2, "Twice", none, false, "wins>=2"⟩]
      unlocks := some unlocks
      actions := some (⟨"alice", "k", 2, none, none⟩ :: actions)
      failing := [] }
  clock := ⟨100, 1⟩
  queries := []
  log := []

/-- A viewer among others, one of whom has the same id in capitals, and the same viewer alone. -/
theorem viewers_apart_alice :
    Apart "alice"
      ∧ Store.AlikeFor "alice" (sharedWorld [⟨6, "Alice", some 1, "FINISHED"⟩, ⟨6, "bob", some 2, "FINISHED"⟩]
          [⟨"Alice", 1, 5, none, none⟩] [⟨"Alice", "k", 9, none, none⟩]).store (sharedWorld [] [] []).store
      ∧ ((award (.list [.text "alice"]) .null .null).run (sharedWorld [⟨6, "Alice", some 1, "FINISHED"⟩,
          ⟨6, "bob", some 2, "FINISHED"⟩] [⟨"Alice", 1, 5, none, none⟩] [⟨"Alice", "k", 9, none, none⟩])).1
        = .ok [⟨"alice", 1, "First", 100⟩]
      ∧ (Call.record (.text " Alice ") (.text "k")).Names (· ≠ "alice") := by
  refine ⟨viewers_apart (by decide +kernel), ⟨rfl, by decide, by decide, by decide, rfl⟩, by decide +kernel, ?_⟩
  show Viewer.id (.text " Alice ") ≠ "alice"
  decide +kernel

end Laurels
