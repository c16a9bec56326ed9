import Laurels.Store.Basic

/-!
# What a query does to a store

`effect` lists all that can become of a store when a query is answered: nothing, one more row of the
ledger, one more action counted, or a table created. Everything else that this module says of a single
query is read off that list.

So the catalogue and the results are the same after any query (`catalogueRows_answer`, `resultRows_answer`),
the ledger only ever grows at its end (`ledger_answer`), by a row whose pair it did not hold
(`added_answer`), and a store in order stays in order (`ready_answer`).
-/

namespace Laurels

section

variable {α : Type} {p kind : α → Bool} {rows₁ rows₂ : List α}

/-- Rows that are looked for among those of one kind only are found alike where these are alike. -/
theorem filter_within (hkind : ∀ r, p r = true → kind r = true) (h : rows₁.filter kind = rows₂.filter kind) :
    rows₁.filter p = rows₂.filter p := by
  have hboth : p = fun r => p r && kind r := by
    funext r
    cases hr : p r with
    | false => rfl
    | true => rw [hkind r hr]; rfl
  rw [hboth, ← List.filter_filter, h, List.filter_filter]

theorem any_within (hkind : ∀ r, p r = true → kind r = true) (h : rows₁.filter kind = rows₂.filter kind) :
    rows₁.any p = rows₂.any p := by
  have hany : ∀ rows : List α, rows.any p = !(rows.filter p).isEmpty := by
    intro rows
    rw [Bool.eq_iff_iff]
    simp
  rw [hany, hany, filter_within hkind h]

theorem find?_within (hkind : ∀ r, p r = true → kind r = true) (h : rows₁.filter kind = rows₂.filter kind) :
    rows₁.find? p = rows₂.find? p := by
  rw [← List.head?_filter, ← List.head?_filter, filter_within hkind h]

end

namespace Store

/-! ## The tables, a missing one being empty -/

/-- The rows of the ledger. -/
def ledger (s : Store) : List UnlockRow := s.unlocks.getD []

/-- The rows of the catalogue. -/
def catalogueRows (s : Store) : List CatalogueRow := s.catalogue.getD []

/-- The rows of the results. -/
def resultRows (s : Store) : List ResultRow := s.results.getD []

/-- The rows of the counters. -/
def counterRows (s : Store) : List ActionRow := s.actions.getD []

/-- Whether the ledger holds the unlock of an achievement by a viewer. -/
def Holds (s : Store) (viewer : String) (achievement : Int) : Prop :=
  ∃ r ∈ s.ledger, r.viewer = viewer ∧ r.achievement = achievement

instance (s : Store) (viewer : String) (achievement : Int) : Decidable (s.Holds viewer achievement) :=
  inferInstanceAs (Decidable (∃ r ∈ s.ledger, _))

/-- All tables exist, and none is out of reach. -/
structure Ready (s : Store) : Prop where
  has : ∀ t, s.has t = true
  reachable : s.failing = []

instance (s : Store) : Decidable s.Ready :=
  decidable_of_iff ((∀ t ∈ Table.all, s.has t = true) ∧ s.failing = [])
    ⟨fun h => ⟨fun t => h.1 t (by cases t <;> decide), h.2⟩, fun h => ⟨fun t _ => h.has t, h.reachable⟩⟩

/-- The rows that a query adds to the ledger, told from its reply. -/
def added : (q : Query) → Except StoreFault q.Reply → List UnlockRow
  | .insertUnlock entry, .ok true => entry.row.toOption.toList
  | _, _ => []

/-- Whether a query counts an action of the viewer. -/
def CountsFor (viewer : String) : Query → Prop
  | .countAction entry => ∃ key time, entry.read = .ok (viewer, key, time)
  | _ => False

/-- The insertion of a row adds no other row. -/
theorem eq_of_mem_added {r row : UnlockRow} {reply : Except StoreFault Bool}
    (h : row ∈ added (.insertUnlock r.entry) reply) : row = r := by
  cases reply with
  | error fault => exact absurd h List.not_mem_nil
  | ok new =>
    cases new with
    | false => exact absurd h List.not_mem_nil
    | true =>
      change row ∈ (r.entry.row).toOption.toList at h
      rw [UnlockRow.row_entry] at h
      exact List.mem_singleton.mp h

theorem any_isUnlockOf {s : Store} {viewer : String} {achievement : Int} :
    s.ledger.any (isUnlockOf viewer achievement) = true ↔ s.Holds viewer achievement := by
  simp [Holds, isUnlockOf, List.any_eq_true]

theorem unlocks_ledger {s : Store} (h : s.has .unlocks = true) :
    { s with unlocks := some s.ledger } = s := by
  obtain ⟨rows, hrows⟩ := Option.isSome_iff_exists.mp h
  cases s
  simp only at hrows
  subst hrows
  rfl

theorem insertUnlock_of_holds {s : Store} {row : UnlockRow}
    (h : s.Holds row.viewer row.achievement) :
    insertUnlock s.ledger row = (false, s.ledger) := by
  unfold insertUnlock
  rw [if_pos (any_isUnlockOf.mpr h)]

theorem insertUnlock_of_not_holds {s : Store} {row : UnlockRow}
    (h : ¬ s.Holds row.viewer row.achievement) :
    insertUnlock s.ledger row = (true, s.ledger ++ [row]) := by
  unfold insertUnlock
  rw [if_neg (fun hany => h (any_isUnlockOf.mp hany))]

theorem serve_insertUnlock (s : Store) {entry : UnlockEntry} {row : UnlockRow} (h : entry.row = .ok row) :
    s.serve (.insertUnlock entry) = .ok ((insertUnlock s.ledger row).1,
      { s with unlocks := some (insertUnlock s.ledger row).2 }) := by
  simp [serve, h, bind, Except.bind, pure, Except.pure, ledger]

theorem countAction_of_room {rows : List ActionRow} {viewer key : String} {time : Option Int}
    (h : (countOnce rows viewer key time).1 ≤ countLimit) :
    countAction rows viewer key time = .ok (countOnce rows viewer key time) := if_pos h

theorem countAction_of_no_room {rows : List ActionRow} {viewer key : String} {time : Option Int}
    (h : ¬ (countOnce rows viewer key time).1 ≤ countLimit) :
    countAction rows viewer key time = .error .unfit := if_neg h

theorem serve_countAction {s : Store} {entry : ActionEntry} {viewer key : String} {time : Option Int}
    (h : entry.read = .ok (viewer, key, time)) :
    s.serve (.countAction entry)
      = (countAction s.counterRows viewer key time).map fun r => (r.1, { s with actions := some r.2 }) := by
  simp only [serve, h, bind, Except.bind, pure, Except.pure, counterRows]
  cases countAction (s.actions.getD []) viewer key time <;> rfl

/-! ## One query -/

theorem refusal?_of_reached {s : Store} {tables : List Table} (hreach : ∀ f ∈ s.failing, f.1 ∉ tables)
    (h : ∀ t ∈ tables, s.has t = true) : s.refusal? tables = none := by
  have hfind : (s.failing.find? fun f => tables.contains f.1) = none := by
    rw [List.find?_eq_none]
    intro f hf
    simpa using hreach f hf
  unfold refusal?
  rw [hfind]
  simpa using h

theorem refusal?_of_has {s : Store} (hreach : s.failing = []) {tables : List Table} (h : ∀ t ∈ tables, s.has t = true) :
    s.refusal? tables = none := by
  refine refusal?_of_reached ?_ h
  rw [hreach]
  simp

theorem refusal?_singleton {s : Store} (hreach : s.failing = []) {t : Table} (h : s.has t = true) :
    s.refusal? [t] = none :=
  refusal?_of_has hreach fun _ ht => List.mem_singleton.mp ht ▸ h

theorem refusal?_of_ready {s : Store} (h : s.Ready) (tables : List Table) :
    s.refusal? tables = none :=
  refusal?_of_has h.reachable fun t _ => h.has t

/-- A query that is not refused is served. -/
theorem answer_of_refusal?_eq_none {s : Store} {q : Query} (h : s.refusal? q.tables = none) :
    s.answer q = match s.serve q with
      | .ok r => (.ok r.1, r.2)
      | .error e => (.error (.cell e), s) := by
  cases hserve : s.serve q <;> simp only [answer, h, hserve]

theorem answer_of_ready {s : Store} (h : s.Ready) (q : Query) :
    s.answer q = match s.serve q with
      | .ok r => (.ok r.1, r.2)
      | .error e => (.error (.cell e), s) :=
  answer_of_refusal?_eq_none (refusal?_of_ready h q.tables)

theorem serve_of_answer_eq_ok {s : Store} {q : Query} {r : q.Reply} (h : (s.answer q).1 = .ok r) :
    s.serve q = .ok (r, (s.answer q).2) := by
  unfold answer at h ⊢
  cases hr : s.refusal? q.tables with
  | some fault => rw [hr] at h; exact absurd h (by simp)
  | none =>
    rw [hr] at h
    cases hs : s.serve q with
    | error e => rw [hs] at h; exact absurd h (by simp)
    | ok served =>
      rw [hs] at h
      cases h
      rfl

/-- A query that is answered by a fault has changed nothing. -/
theorem answer_of_error {s : Store} {q : Query} {fault : StoreFault} (h : (s.answer q).1 = .error fault) :
    (s.answer q).2 = s := by
  unfold answer at h ⊢
  cases hr : s.refusal? q.tables with
  | some refusal => rfl
  | none =>
    rw [hr] at h
    cases hs : s.serve q with
    | error e => rfl
    | ok served =>
      rw [hs] at h
      cases h

theorem has_of_refusal?_eq_none {s : Store} {tables : List Table} {t : Table}
    (h : s.refusal? tables = none) (ht : t ∈ tables) : s.has t = true := by
  unfold refusal? at h
  split at h
  · exact absurd h (by simp)
  · have hfind := Option.map_eq_none_iff.mp h
    simpa using List.find?_eq_none.mp hfind t ht

/-- Tables that refuse nothing together refuse nothing apart. -/
theorem refusal?_of_subset {s : Store} {tables some : List Table} (h : s.refusal? tables = none)
    (hsub : ∀ t ∈ some, t ∈ tables) : s.refusal? some = none := by
  refine refusal?_of_reached (fun f hf hmem => ?_) fun t ht => has_of_refusal?_eq_none h (hsub t ht)
  unfold refusal? at h
  split at h
  · cases h
  · rename_i hreach
    simpa [hsub f.1 hmem] using List.find?_eq_none.mp hreach f hf

/-- If nothing is out of reach, what is refused is refused for a missing table. -/
theorem missing_of_refusal? {s : Store} (hreach : s.failing = []) {tables : List Table} {fault : StoreFault}
    (h : s.refusal? tables = some fault) : ∃ t ∈ tables, s.has t = false ∧ fault = .missing t := by
  unfold refusal? at h
  rw [hreach] at h
  obtain ⟨t, ht, rfl⟩ := Option.map_eq_some_iff.mp h
  have hmissing : s.has t = false := by simpa using List.find?_some ht
  exact ⟨t, List.mem_of_find?_eq_some ht, hmissing, rfl⟩

theorem added_error (q : Query) (fault : StoreFault) : added q (.error fault) = [] := by
  cases q <;> rfl

/--
**What a query can do,** told by its reply and the store after it. It leaves the store as it is, adds a row to
the ledger that was not held, counts an action, or creates part of the schema.
-/
inductive Effect (s : Store) (q : Query) (reply : Except StoreFault q.Reply) (next : Store) : Prop
  | nothing (same : next = s) (adds : added q reply = [])
  | unlock (entry : UnlockEntry) (row : UnlockRow) (asked : q = .insertUnlock entry)
      (fresh : ¬ s.Holds row.viewer row.achievement)
      (grown : next = { s with unlocks := some (s.ledger ++ [row]) }) (adds : added q reply = [row])
  | count (entry : ActionEntry) (viewer key : String) (time : Option Int) (asked : q = .countAction entry)
      (read : entry.read = .ok (viewer, key, time))
      (counted : next = { s with actions := some (countOnce s.counterRows viewer key time).2 })
      (adds : added q reply = [])
  | create (item : SchemaItem) (asked : q = .create item) (created : next = s.create item)
      (adds : added q reply = [])

theorem effect (s : Store) (q : Query) : Effect s q (s.answer q).1 (s.answer q).2 := by
  cases hr : s.refusal? q.tables with
  | some fault =>
    have he : s.answer q = (.error fault, s) := by unfold answer; rw [hr]
    rw [he]
    exact .nothing rfl (added_error q fault)
  | none =>
    rw [answer_of_refusal?_eq_none hr]
    cases q with
    | activeAchievements => exact .nothing rfl rfl
    | raceTallies viewers => exact .nothing rfl rfl
    | actionCounts viewers keys => exact .nothing rfl rfl
    | unlockedPairs viewers achievements => exact .nothing rfl rfl
    | unlockedList viewer => exact .nothing rfl rfl
    | unlockTimes viewer =>
      cases hc : viewer.textCell with
      | error e => exact .nothing (by simp [serve, hc, bind, Except.bind]) (by simp [added])
      | ok cell =>
        exact .nothing (by simp [serve, hc, bind, Except.bind, pure, Except.pure]) (by simp [added])
    | create item => exact .create item rfl rfl rfl
    | countAction entry =>
      cases hc : entry.read with
      | error e => exact .nothing (by simp [serve, hc, bind, Except.bind]) (by simp [added])
      | ok read =>
        obtain ⟨viewer, key, time⟩ := read
        by_cases hroom : (countOnce s.counterRows viewer key time).1 ≤ countLimit
        · rw [serve_countAction hc, countAction_of_room hroom]
          exact .count entry viewer key time rfl hc rfl (by simp [added])
        · rw [serve_countAction hc, countAction_of_no_room hroom]
          exact .nothing rfl rfl
    | insertUnlock entry =>
      cases hc : entry.row with
      | error e =>
        refine .nothing (by simp [serve, hc, bind, Except.bind]) ?_
        simp [serve, hc, bind, Except.bind, added]
      | ok row =>
        rw [serve_insertUnlock s hc]
        by_cases hheld : s.Holds row.viewer row.achievement
        · -- the pair is there: the table is written back as it was
          have hhas := has_of_refusal?_eq_none hr (t := .unlocks) (by simp [Query.tables])
          rw [insertUnlock_of_holds hheld]
          exact .nothing (unlocks_ledger hhas) rfl
        · rw [insertUnlock_of_not_holds hheld]
          refine .unlock entry row rfl hheld rfl ?_
          simp [added, hc, Except.toOption]

/-- What the creation of a table or an index leaves alone. -/
structure SameRows (s s' : Store) : Prop where
  ledger : s'.ledger = s.ledger
  catalogue : s'.catalogueRows = s.catalogueRows
  results : s'.resultRows = s.resultRows
  counters : s'.counterRows = s.counterRows
  failing : s'.failing = s.failing

/-- A created table is empty, and so is a missing one. -/
theorem rows_create (s : Store) (item : SchemaItem) : SameRows s (s.create item) := by
  cases item with
  | index name => exact ⟨rfl, rfl, rfl, rfl, rfl⟩
  | table t => cases t <;> exact ⟨rfl, rfl, rfl, rfl, rfl⟩

theorem catalogueRows_answer (s : Store) (q : Query) :
    (s.answer q).2.catalogueRows = s.catalogueRows := by
  cases effect s q with
  | nothing same => rw [same]
  | unlock entry row asked fresh grown => rw [grown]; rfl
  | count entry viewer key time asked read counted => rw [counted]; rfl
  | create item asked created => rw [created]; exact (rows_create s item).catalogue

theorem resultRows_answer (s : Store) (q : Query) :
    (s.answer q).2.resultRows = s.resultRows := by
  cases effect s q with
  | nothing same => rw [same]
  | unlock entry row asked fresh grown => rw [grown]; rfl
  | count entry viewer key time asked read counted => rw [counted]; rfl
  | create item asked created => rw [created]; exact (rows_create s item).results

/-- **The ledger grows at its end, and only by what is told.** -/
theorem ledger_answer (s : Store) (q : Query) :
    (s.answer q).2.ledger = s.ledger ++ added q (s.answer q).1 := by
  cases effect s q with
  | nothing same adds => rw [same, adds, List.append_nil]
  | unlock entry row asked fresh grown adds => rw [grown, adds]; rfl
  | count entry viewer key time asked read counted adds => rw [counted, adds, List.append_nil]; rfl
  | create item asked created adds =>
    rw [created, adds, List.append_nil]
    exact (rows_create s item).ledger

/-- A query adds nothing, or one row whose pair was not held. -/
theorem added_answer (s : Store) (q : Query) :
    added q (s.answer q).1 = []
      ∨ ∃ row, added q (s.answer q).1 = [row] ∧ ¬ s.Holds row.viewer row.achievement := by
  cases effect s q with
  | nothing same adds => exact Or.inl adds
  | unlock entry row asked fresh grown adds => exact Or.inr ⟨row, adds, fresh⟩
  | count entry viewer key time asked read counted adds => exact Or.inl adds
  | create item asked created adds => exact Or.inl adds

theorem holds_answer {s : Store} {viewer : String} {achievement : Int} (q : Query)
    (h : s.Holds viewer achievement) : (s.answer q).2.Holds viewer achievement := by
  obtain ⟨r, hr, hv, ha⟩ := h
  refine ⟨r, ?_, hv, ha⟩
  rw [ledger_answer]
  exact List.mem_append_left _ hr

theorem has_create {s : Store} {t : Table} (h : s.has t = true) (item : SchemaItem) :
    (s.create item).has t = true := by
  cases item with
  | index name => exact h
  | table u => cases u <;> cases t <;> simp_all [create, has]

theorem has_answer {s : Store} {t : Table} (h : s.has t = true) (q : Query) :
    (s.answer q).2.has t = true := by
  cases effect s q with
  | nothing same => rw [same]; exact h
  | unlock entry row asked fresh grown => rw [grown]; cases t <;> simp_all [has]
  | count entry viewer key time asked read counted => rw [counted]; cases t <;> simp_all [has]
  | create item asked created => rw [created]; exact has_create h item

theorem failing_answer (s : Store) (q : Query) : (s.answer q).2.failing = s.failing := by
  cases effect s q with
  | nothing same => rw [same]
  | unlock entry row asked fresh grown => rw [grown]
  | count entry viewer key time asked read counted => rw [counted]
  | create item asked created => rw [created]; exact (rows_create s item).failing

/-- Once the insertion of a row is answered, the ledger holds its pair, whoever put it there. -/
theorem holds_of_inserted {s : Store} {entry : UnlockEntry} {row : UnlockRow} {added : Bool}
    (hrow : entry.row = .ok row) (h : (s.answer (.insertUnlock entry)).1 = .ok added) :
    (s.answer (.insertUnlock entry)).2.Holds row.viewer row.achievement := by
  have hserve := serve_of_answer_eq_ok h
  rw [serve_insertUnlock s hrow] at hserve
  have hs := congrArg Prod.snd (Except.ok.inj hserve)
  rw [← hs]
  by_cases hheld : s.Holds row.viewer row.achievement
  · rw [insertUnlock_of_holds hheld]
    exact hheld
  · rw [insertUnlock_of_not_holds hheld]
    exact ⟨row, List.mem_append_right _ List.mem_cons_self, rfl, rfl⟩

/-- **A store in order stays in order.** -/
theorem ready_answer {s : Store} (h : s.Ready) (q : Query) : (s.answer q).2.Ready :=
  ⟨fun t => has_answer (h.has t) q, by rw [failing_answer, h.reachable]⟩

/-! ## Counters that do not move -/

theorem isCounterOf_iff {viewer key : String} {r : ActionRow} :
    isCounterOf viewer key r = true ↔ r.viewer = viewer ∧ r.key = key := by
  simp [isCounterOf]

/-- A row is the counter of one viewer for one key. -/
theorem not_isCounterOf {viewer key v k : String} {r : ActionRow} (hr : isCounterOf v k r = true)
    (hother : v = viewer → k ≠ key) : (!isCounterOf viewer key r) = true := by
  obtain ⟨rfl, rfl⟩ := isCounterOf_iff.mp hr
  rw [Bool.not_eq_true', Bool.eq_false_iff]
  intro hown
  obtain ⟨hv, hk⟩ := isCounterOf_iff.mp hown
  exact hother hv hk

/-- A counter that moves stays the one that it is. -/
theorem isCounterOf_moved (viewer key : String) (time : Option Int) (r : ActionRow) :
    isCounterOf viewer key (if isCounterOf viewer key r then ActionRow.again time r else r)
      = isCounterOf viewer key r := by
  split <;> rfl

theorem isCounterOf_comp_moved (viewer key : String) (time : Option Int) :
    isCounterOf viewer key ∘ (fun r => if isCounterOf viewer key r then ActionRow.again time r else r)
      = isCounterOf viewer key := funext (isCounterOf_moved viewer key time)

/-- **All other counters stay as they are.** -/
theorem filter_countOnce (rows : List ActionRow) (viewer key : String) (time : Option Int) :
    (countOnce rows viewer key time).2.filter (fun r => !isCounterOf viewer key r)
      = rows.filter fun r => !isCounterOf viewer key r := by
  unfold countOnce
  split
  · -- the counter that moves is left out before and after
    have hsame : rows.filter ((fun r => !isCounterOf viewer key r) ∘
          fun r => if isCounterOf viewer key r then ActionRow.again time r else r)
        = rows.filter fun r => !isCounterOf viewer key r :=
      List.filter_congr fun r _ => congrArg Bool.not (isCounterOf_moved viewer key time r)
    rw [List.filter_map, hsame]
    refine (List.map_congr_left fun r hr => if_neg ?_).trans (List.map_id _)
    simpa using (List.mem_filter.mp hr).2
  · simp [isCounterOf]

theorem counters_countOnce {rows : List ActionRow} {viewer counted key : String}
    {time : Option Int} (h : counted ≠ viewer) :
    (countOnce rows counted key time).2.filter (fun r => r.viewer == viewer)
      = rows.filter (fun r => r.viewer == viewer) := by
  refine filter_within (fun r hr => ?_) (filter_countOnce rows counted key time)
  -- no counter of this viewer is the one that moves
  rw [Bool.not_eq_true', Bool.eq_false_iff]
  intro hmoved
  exact h ((isCounterOf_iff.mp hmoved).1.symm.trans (beq_iff_eq.mp hr))

theorem counterRows_answer {s : Store} {q : Query} {viewer : String} (h : ¬ CountsFor viewer q) :
    (s.answer q).2.counterRows.filter (fun r => r.viewer == viewer)
      = s.counterRows.filter (fun r => r.viewer == viewer) := by
  cases effect s q with
  | nothing same => rw [same]
  | unlock entry row asked fresh grown => rw [grown]; rfl
  | count entry other key time asked read counted =>
    rw [counted]
    refine counters_countOnce fun hviewer => h ?_
    rw [asked, ← hviewer]
    exact ⟨key, time, read⟩
  | create item asked created => rw [created, (rows_create s item).counters]

end Store

end Laurels
