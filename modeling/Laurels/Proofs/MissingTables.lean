import Laurels.Proofs.Outage
import Laurels.Proofs.Unanswered

/-!
# Awards without all tables

A table can be missing because nobody has created it yet. `Rule.Need` lists the tables that an award needs, which
depends on what the catalogue has to offer: without a rule it asks for nothing but the catalogue, and it asks for the
counters only if some rule reads one.

If a needed table is missing, the award comes upon it before it has added a row: up to there it has only read
(`awardBy_misses`). If all of them are there, the run is the one that it would have been with the others as well, query
by query (`Store.Beside.answer`). `award_needs` puts both together; it does not ask that the ids of the catalogue be
distinct, or that the criteria be accepted.
-/

namespace Laurels

/-- The tables that an award needs for some rules. -/
inductive Rule.Need (rules : List Rule) : Table → Prop where
  | catalogue : Need rules .catalogue
  | results (some : rules ≠ []) : Need rules .results
  | unlocks (some : rules ≠ []) : Need rules .unlocks
  | actions {rule : Rule} {clause : Clause} {key : String} (hrule : rule ∈ rules) (hclause : clause ∈ rule.clauses)
      (reads : clause.target = .action key) (named : key ≠ "") : Need rules .actions

/-- The tables that an award needs: the catalogue always, results and ledger if there are rules, and the counters if a
rule reads one. -/
def Store.Needs (s : Store) (t : Table) : Prop := Rule.Need s.rules t

namespace Rule

variable {rules : List Rule} {t : Table}

/-- Counters are wanted if a rule reads one. -/
theorem need_actions_iff : Need rules .actions ↔ wanted rules ≠ [] := by
  constructor
  · intro h
    cases h with
    | actions hrule hclause reads named =>
      have hmem := mem_wantedKeys.mpr ⟨Rule.mem_actionKeys hrule hclause reads named, named⟩
      intro hnone
      have hkeys : wantedKeys (actionKeys rules) = [] := List.map_eq_nil_iff.mp hnone
      rw [hkeys] at hmem
      simp at hmem
  · intro h
    have hkeys : wantedKeys (actionKeys rules) ≠ [] := fun hnone => h (List.map_eq_nil_iff.mpr hnone)
    obtain ⟨key, hkey⟩ := List.exists_mem_of_ne_nil _ hkeys
    obtain ⟨hkey, hne⟩ := mem_wantedKeys.mp hkey
    unfold actionKeys Laurels.actionKeys at hkey
    rw [List.mem_eraseDups, List.mem_filterMap] at hkey
    obtain ⟨clause, hclause, hread⟩ := hkey
    obtain ⟨rule, hrule, hclause⟩ := List.mem_flatMap.mp hclause
    unfold Clause.actionKey? at hread
    split at hread
    · rename_i other htarget
      split at hread
      · cases hread
      · cases hread
        exact .actions hrule hclause htarget hne
    · cases hread

/-- Without rules there is nothing to need but the catalogue. -/
theorem Need.rules_ne_nil (h : Need rules t) (ht : t ≠ .catalogue) : rules ≠ [] := by
  cases h with
  | catalogue => exact absurd rfl ht
  | results some => exact some
  | unlocks some => exact some
  | actions hrule => exact List.ne_nil_of_mem hrule

end Rule

/-! ## A table that is missing -/

namespace Procedure

variable {α β : Type} {w : World} {viewers : List String} {rules : List Rule}

/-- A run that ends at a table that is missing, with the store as it was. -/
def Misses (p : Procedure α) (w : World) : Prop := ∃ t, p.Fails w (.store (.missing t))

theorem Misses.bind {p : Procedure α} (h : p.Misses w) (f : α → Procedure β) : (p >>= f).Misses w := by
  obtain ⟨t, h⟩ := h
  exact ⟨t, h.bind f⟩

/-- After an answer, what comes next may be missing a table. -/
theorem Answers.misses {p : Procedure α} {a : α} (h : p.Answers w a) {f : α → Procedure β}
    (hf : ∀ v : World, v.store = w.store → (f a).Misses v) : (p >>= f).Misses w := by
  obtain ⟨hr, hs⟩ := h
  obtain ⟨t, hr', hs'⟩ := hf _ hs
  refine ⟨t, ?_⟩
  unfold Fails
  rw [run_seq hr]
  exact ⟨hr', hs'.trans hs⟩

/-- After an answer, what comes next may be answered. -/
theorem Answers.seq {p : Procedure α} {a : α} (h : p.Answers w a) {f : α → Procedure β}
    (hf : ∀ v : World, v.store = w.store → ∃ b, (f a).Answers v b) : ∃ b, (p >>= f).Answers w b := by
  obtain ⟨hr, hs⟩ := h
  obtain ⟨b, hr', hs'⟩ := hf _ hs
  refine ⟨b, ?_⟩
  unfold Answers
  rw [run_seq hr]
  exact ⟨hr', hs'.trans hs⟩

/-- A query on a missing table. -/
theorem ask_misses {q : Query} (hreach : w.store.failing = []) {t : Table} (ht : t ∈ q.tables)
    (hmissing : w.store.has t = false) : (ask q).Misses w := by
  cases hrefusal : w.store.refusal? q.tables with
  | none =>
    have hhas := Store.has_of_refusal?_eq_none hrefusal ht
    rw [hmissing] at hhas
    cases hhas
  | some fault =>
    obtain ⟨missing, _, _, rfl⟩ := Store.missing_of_refusal? hreach hrefusal
    refine ⟨missing, ask_fails ?_⟩
    unfold Store.answer
    rw [hrefusal]

/-- A query that only reads, on tables that are there. -/
theorem ask_there {q : Query} (hreach : w.store.failing = []) (hhas : ∀ t ∈ q.tables, w.store.has t = true)
    {reply : q.Reply} (hserve : w.store.serve q = .ok (reply, w.store)) : (ask q).Answers w reply :=
  ask_served (Store.refusal?_of_has hreach hhas) hserve

theorem fetchTallies_answers (h : w.store.refusal? [.results] = none) (viewers : List Value) :
    ∃ tallies, (fetchTallies viewers).Answers w tallies := by
  unfold fetchTallies
  split
  · exact ⟨[], rfl, rfl⟩
  · exact ⟨_, ask_served h rfl⟩

theorem fetchTallies_misses (hreach : w.store.failing = []) (hmissing : w.store.has .results = false)
    {viewers : List Value} (hv : viewers ≠ []) : (fetchTallies viewers).Misses w := by
  unfold fetchTallies
  rw [if_neg (by simpa using hv)]
  exact ask_misses hreach List.mem_cons_self hmissing

theorem fetchCounts_answers (viewers : List Value) {keys : List Value}
    (h : keys ≠ [] → w.store.refusal? [.actions] = none) : ∃ counts, (fetchCounts viewers keys).Answers w counts := by
  unfold fetchCounts
  split
  · exact ⟨[], rfl, rfl⟩
  · rename_i hsome
    have hkeys : keys ≠ [] := by
      intro hnone
      simp [hnone] at hsome
    exact ⟨_, ask_served (h hkeys) rfl⟩

theorem fetchCounts_misses (hreach : w.store.failing = []) (hmissing : w.store.has .actions = false)
    {viewers keys : List Value} (hv : viewers ≠ []) (hkeys : keys ≠ []) : (fetchCounts viewers keys).Misses w := by
  unfold fetchCounts
  rw [if_neg (by simp [hv, hkeys])]
  exact ask_misses hreach List.mem_cons_self hmissing

theorem fetchPairs_misses (hreach : w.store.failing = []) (hmissing : w.store.has .unlocks = false)
    {viewers achievements : List Value} (hv : viewers ≠ []) (has : achievements ≠ []) :
    (fetchPairs viewers achievements).Misses w := by
  unfold fetchPairs
  rw [if_neg (by simp [hv, has])]
  exact ask_misses hreach List.mem_cons_self hmissing

theorem map_text_ne_nil (hv : viewers ≠ []) : viewers.map Value.text ≠ [] := fun h => hv (List.map_eq_nil_iff.mp h)

/-- Snapshots are taken if the results are there, and the counters if they are wanted. -/
theorem takeSnapshots_answers (hresults : w.store.refusal? [.results] = none) {keys : List Value}
    (hactions : keys ≠ [] → w.store.refusal? [.actions] = none) (viewers : List String) :
    ∃ snapshots, (takeSnapshots viewers keys).Answers w snapshots := by
  unfold takeSnapshots
  split
  · exact ⟨[], rfl, rfl⟩
  · obtain ⟨tallies, htallies⟩ := fetchTallies_answers hresults (viewers.map .text)
    refine htallies.seq fun v hv => ?_
    rw [← hv] at hactions
    obtain ⟨counts, hcounts⟩ := fetchCounts_answers (viewers.map .text) hactions
    exact hcounts.seq fun _ _ => ⟨_, rfl, rfl⟩

/-- Snapshots are not taken if one of the two is missing. -/
theorem takeSnapshots_misses (hreach : w.store.failing = []) (hv : viewers ≠ []) {keys : List Value}
    (hmissing : w.store.has .results = false ∨ keys ≠ [] ∧ w.store.has .actions = false) :
    (takeSnapshots viewers keys).Misses w := by
  unfold takeSnapshots
  rw [if_neg (by simpa using hv)]
  cases hresults : w.store.has .results with
  | false => exact (fetchTallies_misses hreach hresults (map_text_ne_nil hv)).bind _
  | true =>
    rw [hresults] at hmissing
    obtain ⟨hkeys, hactions⟩ := hmissing.resolve_left (by simp)
    obtain ⟨tallies, htallies⟩ := fetchTallies_answers (Store.refusal?_singleton hreach hresults) (viewers.map .text)
    refine htallies.misses fun v hstore => ?_
    rw [← hstore] at hreach hactions
    exact (fetchCounts_misses hreach hactions (map_text_ne_nil hv) hkeys).bind _

/-- **A needed table that is missing is found out before a row is added.** -/
theorem awardBy_misses (hreach : w.store.failing = []) (hv : viewers ≠ []) {t : Table} (hneed : Rule.Need rules t)
    (ht : t ≠ .catalogue) (hmissing : w.store.has t = false) (source sourceRef : String) :
    (awardBy viewers source sourceRef rules).Misses w := by
  have hrules : rules ≠ [] := hneed.rules_ne_nil ht
  unfold awardBy
  rw [if_neg (by simpa using hrules)]
  by_cases hearly : w.store.has .results = false ∨ Rule.wanted rules ≠ [] ∧ w.store.has .actions = false
  · exact (takeSnapshots_misses hreach hv hearly).bind _
  · -- what the snapshots take is there, so it is the ledger that is missing
    simp only [not_or, not_and, Bool.not_eq_false] at hearly
    obtain ⟨hresults, hactions⟩ := hearly
    have hunlocks : w.store.has .unlocks = false := by
      cases hneed with
      | catalogue => exact absurd rfl ht
      | results => simp [hresults] at hmissing
      | unlocks => exact hmissing
      | actions hrule hclause reads named =>
        have hwanted := Rule.need_actions_iff.mp (.actions hrule hclause reads named)
        simp [hactions hwanted] at hmissing
    obtain ⟨snapshots, hsnapshots⟩ := takeSnapshots_answers (Store.refusal?_singleton hreach hresults)
      (fun hwanted => Store.refusal?_singleton hreach (hactions hwanted)) viewers
    refine hsnapshots.misses fun v hstore => ?_
    rw [← hstore] at hreach hunlocks
    refine (fetchPairs_misses hreach hunlocks (map_text_ne_nil hv) ?_).bind _
    intro hnone
    exact hrules (List.map_eq_nil_iff.mp hnone)

theorem awardPass_misses (hreach : w.store.failing = []) (hread : w.store.Readable) (hv : viewers ≠ []) {t : Table}
    (hneed : w.store.Needs t) (hmissing : w.store.has t = false) (source sourceRef : String) :
    (awardPass viewers source sourceRef).Misses w := by
  rw [awardPass_eq]
  cases hcatalogue : w.store.has .catalogue with
  | false => exact (ask_misses hreach List.mem_cons_self hcatalogue).bind _
  | true =>
    have ht : t ≠ .catalogue := by
      intro h
      rw [h, hcatalogue] at hmissing
      cases hmissing
    have hactive : (ask .activeAchievements).Answers w (Store.active w.store.catalogueRows) :=
      ask_there hreach (by simpa [Query.tables] using hcatalogue) rfl
    refine hactive.misses fun v₁ h₁ => ?_
    obtain ⟨_, rules, hcompiled, _, _, rfl⟩ :=
      (compile_ensures true fun _ ha hid _ => hread.active ha hid).answers (compile_asks true _) h₁
    refine hcompiled.misses fun v₂ h₂ => ?_
    have hstore := h₂.trans h₁
    rw [← hstore] at hreach hmissing
    exact awardBy_misses hreach hv hneed ht hmissing source sourceRef

theorem awardIds_misses (hreach : w.store.failing = []) (hread : w.store.Readable) (hv : viewers ≠ []) {t : Table}
    (hneed : w.store.Needs t) (hmissing : w.store.has t = false) (source sourceRef : String) :
    (awardIds viewers source sourceRef).Answers w [] := by
  obtain ⟨missing, hr, hs⟩ := awardPass_misses hreach hread hv hneed hmissing source sourceRef
  unfold awardIds
  rw [if_neg (by simpa using hv)]
  unfold Answers
  rw [run_rescue_of_error hr]
  exact ⟨rfl, hs⟩

end Procedure

/-! ## Tables that are not needed -/

namespace Store

/-- A query of an award leaves the tables that there are. -/
theorem has_answer_of_ofPass {s : Store} {q : Query} (hq : q.OfPass) (t : Table) : (s.answer q).2.has t = s.has t := by
  cases hrefusal : s.refusal? q.tables with
  | some fault =>
    unfold answer
    rw [hrefusal]
  | none =>
    cases effect s q with
    | nothing same => rw [same]
    | unlock entry row asked fresh grown =>
      have hledger : s.has .unlocks = true := by
        rw [asked] at hrefusal
        exact has_of_refusal?_eq_none hrefusal List.mem_cons_self
      rw [grown]
      cases t with
      | unlocks => exact hledger.symm
      | _ => rfl
    | count entry viewer key time asked =>
      rw [asked] at hq
      exact False.elim hq
    | create item asked =>
      rw [asked] at hq
      exact False.elim hq

/-- A store in order, and next to it one that has some of its tables, with the same rows. -/
structure Beside (there : Table → Bool) (s₀ s : Store) : Prop where
  ready : s₀.Ready
  remnant : s₀.Remnant s
  reachable : s.failing = []
  has : ∀ t, s.has t = there t

/-- **A query on tables that are there** is answered as with the others as well, and does the same. -/
theorem Beside.answer {there : Table → Bool} {s₀ s : Store} (h : Beside there s₀ s) {q : Query} (hq : q.OfPass)
    (hthere : ∀ t ∈ q.tables, there t = true) :
    (s₀.answer q).1 = (s.answer q).1 ∧ Beside there (s₀.answer q).2 (s.answer q).2 := by
  have hrefusal : s.refusal? q.tables = none := by
    refine refusal?_of_has h.reachable fun t ht => ?_
    rw [h.has]
    exact hthere t ht
  rcases h.remnant.answer h.ready hq with ⟨fault, hrefused, _⟩ | ⟨hreply, hremnant⟩
  · rw [hrefusal] at hrefused
    cases hrefused
  · refine ⟨hreply.symm, ready_answer h.ready q, hremnant, ?_, fun t => ?_⟩
    · rw [failing_answer]
      exact h.reachable
    · rw [has_answer_of_ofPass hq]
      exact h.has t

end Store

namespace Procedure

variable {viewers : List String} {there : Table → Bool}

/-- A query of an award on tables that are there. -/
def OnThere (there : Table → Bool) (q : Query) : Prop := q.OfPass ∧ ∀ t ∈ q.tables, there t = true

theorem awardBy_onThere {rules : List Rule} (h : ∀ t, Rule.Need rules t → there t = true) (source sourceRef : String) :
    (awardBy viewers source sourceRef rules).Asks (OnThere there) := by
  refine awardBy_asks_of (fun hrules => ⟨trivial, ?_⟩) (fun hwanted => ⟨trivial, ?_⟩) (fun hrules => ⟨trivial, ?_⟩)
    (fun hrules entry => ⟨trivial, ?_⟩) source sourceRef
  · simpa [Query.tables] using h .results (.results hrules)
  · simpa [Query.tables] using h .actions (Rule.need_actions_iff.mpr hwanted)
  · simpa [Query.tables] using h .unlocks (.unlocks hrules)
  · simpa [Query.tables] using h .unlocks (.unlocks hrules)

/-- A procedure comes to the same on two worlds, one of which has only some of the tables. -/
def Alike {α : Type} (there : Table → Bool) (p : Procedure α) (w₀ w : World) : Prop :=
  (p.run w₀).1 = (p.run w).1 ∧ Store.Beside there (p.run w₀).2.store (p.run w).2.store
    ∧ (p.run w₀).2.clock = (p.run w).2.clock

variable {α β : Type} {w₀ w : World}

theorem Asks.alike {p : Procedure α} (h : p.Asks (OnThere there)) (hstores : Store.Beside there w₀.store w.store)
    (hclock : w₀.clock = w.clock) : p.Alike there w₀ w :=
  h.run_alike (fun _ _ _ hq hs => hs.answer hq.1 hq.2) hstores hclock

theorem Alike.bind {p : Procedure α} (h : p.Alike there w₀ w) {f : α → Procedure β}
    (hf : ∀ a, (p.run w).1 = .ok a → Store.Beside there (p.run w₀).2.store (p.run w).2.store →
      (p.run w₀).2.clock = (p.run w).2.clock → (f a).Alike there (p.run w₀).2 (p.run w).2) :
    (p >>= f).Alike there w₀ w := by
  obtain ⟨hr, hs, hc⟩ := h
  show (p.bind f).Alike there w₀ w
  unfold Alike
  rw [run_bind, run_bind]
  generalize p.run w₀ = r₀ at hr hs hc hf ⊢
  generalize p.run w = r at hr hs hc hf ⊢
  obtain ⟨r₀, v₀⟩ := r₀
  obtain ⟨r, v⟩ := r
  cases hr
  cases r₀ with
  | ok a => exact hf a rfl hs hc
  | error e => exact ⟨rfl, hs, hc⟩

theorem Alike.rescue {p : Procedure α} (h : p.Alike there w₀ w) {handler : Fault → Procedure α}
    (hh : ∀ fault, (handler fault).Asks (OnThere there)) : (p.rescue handler).Alike there w₀ w := by
  obtain ⟨hr, hs, hc⟩ := h
  unfold Alike
  rw [run_rescue, run_rescue]
  generalize p.run w₀ = r₀ at hr hs hc ⊢
  generalize p.run w = r at hr hs hc ⊢
  obtain ⟨r₀, v₀⟩ := r₀
  obtain ⟨r, v⟩ := r
  cases hr
  cases r₀ with
  | ok a => exact ⟨rfl, hs, hc⟩
  | error e => exact (hh e).alike hs hc

/-- **An award that has what it needs** comes to the same as with all tables. -/
theorem awardIds_alike (hread : w.store.Readable) (hneeds : ∀ t, w.store.Needs t → there t = true)
    (hstores : Store.Beside there w₀.store w.store) (hclock : w₀.clock = w.clock) (viewers : List String)
    (source sourceRef : String) : (awardIds viewers source sourceRef).Alike there w₀ w := by
  have hthere : there .catalogue = true := hneeds .catalogue .catalogue
  have hcatalogue : w.store.has .catalogue = true := (hstores.has .catalogue).trans hthere
  unfold awardIds
  split
  · exact ⟨rfl, hstores, hclock⟩
  · refine Alike.rescue ?_ nothingAwarded_asks
    rw [awardPass_eq]
    have hactive : (ask .activeAchievements).Answers w (Store.active w.store.catalogueRows) :=
      ask_there hstores.reachable (by simpa [Query.tables] using hcatalogue) rfl
    have hasks : (ask .activeAchievements).Asks (OnThere there) :=
      asks_ask ⟨trivial, by simpa [Query.tables] using hthere⟩
    refine (hasks.alike hstores hclock).bind fun as has hstores₁ hclock₁ => ?_
    -- what is compiled are the rules on offer
    rw [hactive.1] at has
    cases has
    refine ((compile_asks true _).alike hstores₁ hclock₁).bind fun rules hrules hstores₂ hclock₂ => ?_
    obtain ⟨_, _, hcompiled, _, _, rfl⟩ :=
      (compile_ensures true fun _ ha hid _ => hread.active ha hid).answers (compile_asks true _) hactive.2
    rw [hcompiled.1] at hrules
    cases hrules
    exact (awardBy_onThere hneeds source sourceRef).alike hstores₂ hclock₂

end Procedure

/-! ## The award -/

namespace Store

/-- The store with rows added to its ledger, if it has one. -/
def grown (s : Store) (rows : List UnlockRow) : Store := { s with unlocks := s.unlocks.map (· ++ rows) }

theorem Ready.grown_eq {s : Store} (h : s.Ready) (rows : List UnlockRow) :
    s.grown rows = { s with unlocks := some (s.ledger ++ rows) } := by
  obtain ⟨old, hold⟩ := Option.isSome_iff_exists.mp (h.has .unlocks)
  unfold grown ledger
  rw [hold]
  rfl

/-- The store with the tables that it lacks, all of them empty. -/
def filled (s : Store) : Store :=
  { s with results := some s.resultRows, catalogue := some s.catalogueRows, unlocks := some s.ledger,
           actions := some s.counterRows }

theorem eq_some_getD_or {α : Type} (t : Option (List α)) : t = some (t.getD []) ∨ t = none := by
  cases t with
  | none => exact Or.inr rfl
  | some rows => exact Or.inl rfl

theorem ready_filled {s : Store} (hreach : s.failing = []) : s.filled.Ready where
  has := fun t => by cases t <;> rfl
  reachable := hreach

theorem remnant_filled (s : Store) : s.filled.Remnant s where
  results := eq_some_getD_or s.results
  catalogue := eq_some_getD_or s.catalogue
  unlocks := eq_some_getD_or s.unlocks
  actions := eq_some_getD_or s.actions

theorem eq_of_isSome_eq {α : Type} {t₀ t t' : Option α} (h : t = t₀ ∨ t = none) (h' : t' = t₀ ∨ t' = none)
    (hsome : t.isSome = t'.isSome) : t = t' := by
  cases t with
  | none =>
    symm
    simpa using hsome.symm
  | some rows =>
    obtain ⟨rows', rfl⟩ := Option.isSome_iff_exists.mp hsome.symm
    have h₀ := h.resolve_right (by simp)
    exact h₀.trans (h'.resolve_right (by simp)).symm

/-- Which tables there are decides what is left of a store. -/
theorem Beside.unique {there : Table → Bool} {s₀ s s' : Store} (h : Beside there s₀ s) (h' : Beside there s₀ s') :
    s = s' := by
  have hhas : ∀ t, s.has t = s'.has t := fun t => (h.has t).trans (h'.has t).symm
  have hresults := eq_of_isSome_eq h.remnant.results h'.remnant.results (hhas .results)
  have hcatalogue := eq_of_isSome_eq h.remnant.catalogue h'.remnant.catalogue (hhas .catalogue)
  have hunlocks := eq_of_isSome_eq h.remnant.unlocks h'.remnant.unlocks (hhas .unlocks)
  have hactions := eq_of_isSome_eq h.remnant.actions h'.remnant.actions (hhas .actions)
  have hfailing := h.reachable.trans h'.reachable.symm
  cases s
  cases s'
  simp only at hresults hcatalogue hunlocks hactions hfailing
  subst hresults hcatalogue hunlocks hactions hfailing
  rfl

theorem Beside.grown {there : Table → Bool} {s₀ s : Store} (h : Beside there s₀ s) (rows : List UnlockRow) :
    Beside there (s₀.grown rows) (s.grown rows) where
  ready := by
    rw [h.ready.grown_eq]
    exact h.ready.withLedger _
  remnant :=
    { results := h.remnant.results
      catalogue := h.remnant.catalogue
      unlocks := by
        rcases h.remnant.unlocks with hledger | hnone
        · exact Or.inl (congrArg (Option.map (· ++ rows)) hledger)
        · exact Or.inr (congrArg (Option.map (· ++ rows)) hnone)
      actions := h.remnant.actions }
  reachable := h.reachable
  has := by
    intro t
    rw [← h.has t]
    cases t with
    | unlocks => exact Option.isSome_map
    | _ => rfl

end Store

/-- **What an award adds** to a store in order, and that it adds nothing if there is no rule. -/
theorem awardIds_adds {w : World} (hready : w.store.Ready) (hread : w.store.Readable) (ids : List String)
    (source sourceRef : String) :
    ∃ us, ((awardIds ids source sourceRef).run w).1 = .ok us
      ∧ ((awardIds ids source sourceRef).run w).2.store = w.store.grown (us.map (Unlock.row source sourceRef))
      ∧ (us ≠ [] → w.store.rules ≠ []) := by
  obtain ⟨es, us, seen, time, hres, _, hfacts, hstore, _⟩ := awardIds_facts hready hread ids source sourceRef
  refine ⟨us, hres, ?_, fun hus => ?_⟩
  · rw [hstore, hready.grown_eq]
  · -- what is reported comes from a rule
    obtain ⟨u, hu⟩ := List.exists_mem_of_ne_nil us hus
    obtain ⟨v, _, hu⟩ := List.mem_flatMap.mp (hfacts.deserved.subset hu)
    obtain ⟨r, hr, _⟩ := List.mem_map.mp hu
    exact List.ne_nil_of_mem (List.mem_filter.mp hr).1

/-- What an award for some viewers does in a world that may lack tables. -/
structure AwardNeeds (viewers source sourceRef : Value) (ids : List String) (w : World) : Prop where
  /-- It is answered. -/
  answered : ∃ us, ((award viewers source sourceRef).run w).1 = .ok us
  /-- Where there is nobody to award, it does nothing at all. -/
  nobody : ids = [] → (award viewers source sourceRef).run w = (.ok [], w)
  /-- If it needs a table that is missing, it awards nothing, and the store stays as it is. -/
  missing : ids ≠ [] → ∀ t, w.store.Needs t → w.store.has t = false → (award viewers source sourceRef).Answers w []
  /-- If all that it needs is there, it awards the same as in any world that has the other tables as well, and adds
  the same rows. -/
  there : (∀ t, w.store.Needs t → w.store.has t = true) →
    ∀ w₀ : World, w₀.store.Ready → w₀.store.Remnant w.store → w₀.clock = w.clock →
      ∃ us, ((award viewers source sourceRef).run w).1 = .ok us
        ∧ ((award viewers source sourceRef).run w₀).1 = .ok us
        ∧ ((award viewers source sourceRef).run w).2.store
          = w.store.grown (us.map (Unlock.row source.asText sourceRef.asText))
        ∧ ((award viewers source sourceRef).run w₀).2.store
          = w₀.store.grown (us.map (Unlock.row source.asText sourceRef.asText))
        ∧ (us ≠ [] → w.store.has .unlocks = true)

namespace Store

theorem Remnant.catalogueRows_eq {s₀ s : Store} (h : s₀.Remnant s) (hhas : s.has .catalogue = true) :
    s.catalogueRows = s₀.catalogueRows := by
  unfold catalogueRows
  rw [Remnant.eq_of_isSome h.catalogue hhas]

end Store

section

variable {w : World} {viewers : Value} {ids : List String}

/-- **An award that has what it needs** adds the rows that it would add to a store with all tables. -/
theorem awardIds_there (hreach : w.store.failing = []) (hread : w.store.Readable)
    (hneeds : ∀ t, w.store.Needs t → w.store.has t = true) {w₀ : World} (hready : w₀.store.Ready)
    (hleft : w₀.store.Remnant w.store) (hclock : w₀.clock = w.clock) (ids : List String) (source sourceRef : String) :
    ∃ us, ((awardIds ids source sourceRef).run w).1 = .ok us
      ∧ ((awardIds ids source sourceRef).run w₀).1 = .ok us
      ∧ ((awardIds ids source sourceRef).run w).2.store = w.store.grown (us.map (Unlock.row source sourceRef))
      ∧ ((awardIds ids source sourceRef).run w₀).2.store = w₀.store.grown (us.map (Unlock.row source sourceRef))
      ∧ (us ≠ [] → w.store.has .unlocks = true) := by
  have hrows : w.store.catalogueRows = w₀.store.catalogueRows := hleft.catalogueRows_eq (hneeds _ .catalogue)
  have hread₀ : w₀.store.Readable := by
    unfold Store.Readable at hread ⊢
    rwa [← hrows]
  have hrules : w₀.store.rules = w.store.rules := by
    unfold Store.rules
    rw [hrows]
  have hbeside : Store.Beside w.store.has w₀.store w.store := ⟨hready, hleft, hreach, fun _ => rfl⟩
  obtain ⟨hres, hlast, _⟩ := Procedure.awardIds_alike hread hneeds hbeside hclock ids source sourceRef
  obtain ⟨us, hus, hstore, hsome⟩ := awardIds_adds hready hread₀ ids source sourceRef
  refine ⟨us, hres.symm.trans hus, hus, ?_, hstore, fun hne => ?_⟩
  · -- the two stores were beside each other before, and are afterwards
    rw [hstore] at hlast
    exact hlast.unique (hbeside.grown _)
  · have hne₀ := hsome hne
    rw [hrules] at hne₀
    exact hneeds .unlocks (.unlocks hne₀)

/--
**Missing tables cost an award no more than they must.** Take any world in which no table is out of reach and every
text among the criteria on offer is accepted or rejected, with whichever tables it has. An award for a list of viewers
is answered. It needs the tables in `Rule.Need` and no others.
-/
theorem award_needs (hreach : w.store.failing = []) (hread : w.store.Readable)
    (hids : Viewer.ids? viewers = some ids) (source sourceRef : Value) :
    AwardNeeds viewers source sourceRef ids w := by
  have hmissing : ids ≠ [] → ∀ t, w.store.Needs t → w.store.has t = false →
      (award viewers source sourceRef).Answers w [] := by
    intro hne t hneed ht
    rw [award_eq hids]
    exact Procedure.awardIds_misses hreach hread hne hneed ht _ _
  have hthere := fun hneeds (w₀ : World) hready (hleft : w₀.store.Remnant w.store) hclock =>
    awardIds_there hreach hread hneeds hready hleft hclock ids source.asText sourceRef.asText
  refine ⟨?_, fun hnone => ?_, hmissing, ?_⟩
  · by_cases hneeds : ∀ t, w.store.Needs t → w.store.has t = true
    · -- some world has the other tables as well, for instance without a row in them
      obtain ⟨us, hus, _⟩ := hthere hneeds { w with store := w.store.filled } (Store.ready_filled hreach)
        (Store.remnant_filled w.store) rfl
      rw [award_eq hids]
      exact ⟨us, hus⟩
    · push Not at hneeds
      obtain ⟨t, hneed, ht⟩ := hneeds
      by_cases hne : ids = []
      · subst hne
        rw [award_eq hids]
        exact ⟨[], rfl⟩
      · exact ⟨[], (hmissing hne t hneed (by simpa using ht)).1⟩
  · subst hnone
    rw [award_eq hids]
    rfl
  · rw [award_eq hids]
    exact hthere

end

/-- Races were run, and nobody has created the tables of achievements but for the catalogue and the ledger. -/
def sparseWorld (catalogue : List CatalogueRow) : World where
  store :=
    { results := some [⟨7, "alice", some 1, "FINISHED"⟩]
      catalogue := some catalogue
      unlocks := some []
      actions := none
      failing := [] }
  clock := ⟨100, 1⟩
  queries := []
  log := []

/-- The counters are missing, and they are needed if a rule reads one that has a name. -/
theorem award_needs_counters :
    AwardNeeds (.list [.text "alice"]) (.text "race") .null ["alice"]
        (sparseWorld [⟨1, "First", none, false, "wins>=1"⟩, ⟨2, "Broken", none, false, "action:k>>1"⟩])
      ∧ AwardNeeds (.list [.text "alice"]) (.text "race") .null ["alice"]
        (sparseWorld [⟨1, "First", none, false, "wins>=1"⟩, ⟨2, "Keen", none, false, "action:k>=1"⟩])
      ∧ ((award (.list [.text "alice"]) (.text "race") .null).run
          (sparseWorld [⟨1, "First", none, false, "wins>=1"⟩, ⟨2, "Broken", none, false, "action:k>>1"⟩])).1
        = .ok [⟨"alice", 1, "First", 100⟩]
      ∧ ((award (.list [.text "alice"]) (.text "race") .null).run
          (sparseWorld [⟨1, "First", none, false, "wins>=1"⟩, ⟨2, "Keen", none, false, "action:k>=1"⟩])).1 = .ok [] := by
  have hids : Viewer.ids? (.list [.text "alice"]) = some ["alice"] := by decide +kernel
  exact ⟨award_needs rfl (by decide +kernel) hids _ _, award_needs rfl (by decide +kernel) hids _ _,
    by decide +kernel, by decide +kernel⟩

end Laurels
