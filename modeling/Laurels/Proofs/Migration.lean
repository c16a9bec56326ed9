import Laurels.Session
import Laurels.Proofs.MissingTables

/-!
# After a migration

A migration creates the tables that are missing and leaves the others as they are (`migrate_run`), whatever is out of
reach at the time, for what creates a table need not reach it. From then on every table is there as long as nobody drops
one, and so no query ever misses one (`Store.Complete.answer_ne_missing`).

What is left to show is that no call makes up such a fault by itself. `p.Provided post` says that `p` does not end for
want of a table unless some query has missed one, and that `post` holds of its answer, if it has one. Every call is
provided (`Call.provided`): a missing table is told by a query, and told on at most, and a response with status 503 is
given in return for such a fault only.
-/

namespace Laurels

/-! ## What a migration does -/

namespace Store

/-- All tables are there. -/
def Complete (s : Store) : Prop := ∀ t, s.has t = true

theorem complete_filled (s : Store) : s.filled.Complete := by
  intro t
  cases t <;> rfl

/-- What is complete lacks nothing. -/
theorem Complete.filled_eq {s : Store} (h : s.Complete) : s.filled = s := by
  have hget : ∀ {α : Type} {rows : Option (List α)}, rows.isSome = true → some (rows.getD []) = rows := by
    intro α rows hsome
    rw [← Option.some_get hsome]
    rfl
  unfold filled resultRows catalogueRows ledger counterRows
  rw [hget (h .results), hget (h .catalogue), hget (h .unlocks), hget (h .actions)]

theorem answer_create (s : Store) (item : SchemaItem) : s.answer (.create item) = (.ok (), s.create item) := by
  have hrefusal : s.refusal? (Query.create item).tables = none :=
    refusal?_of_reached (by simp [Query.tables]) (by simp [Query.tables])
  rw [answer_of_refusal?_eq_none hrefusal]
  rfl

theorem create_all (s : Store) : SchemaItem.all.foldl create s = s.filled := rfl

/-- **Where all tables are, no query misses one.** -/
theorem Complete.answer_ne_missing {s : Store} (h : s.Complete) (q : Query) (t : Table) :
    (s.answer q).1 ≠ .error (.missing t) := by
  unfold answer
  cases hrefusal : s.refusal? q.tables with
  | none =>
    dsimp only
    cases s.serve q with
    | ok reply => exact nofun
    | error cause => exact nofun
  | some fault =>
    dsimp only
    rintro heq
    cases heq
    unfold refusal? at hrefusal
    split at hrefusal
    · cases hrefusal
    · obtain ⟨missing, hfind, _⟩ := Option.map_eq_some_iff.mp hrefusal
      have hlacks := List.find?_some hfind
      rw [h missing] at hlacks
      cases hlacks

theorem Complete.answer {s : Store} (h : s.Complete) (q : Query) : (s.answer q).2.Complete :=
  fun t => has_answer (h t) q

end Store

namespace Procedure

theorem createAll_run (items : List SchemaItem) (w : World) : ((createAll items).run w).1 = .ok ()
    ∧ ((createAll items).run w).2.store = items.foldl Store.create w.store := by
  induction items generalizing w with
  | nil => exact ⟨rfl, rfl⟩
  | cons item items ih =>
    obtain ⟨hr, hs⟩ := run_ask (Store.answer_create w.store item)
    have hfirst : (createAll (item :: items)).run w = (createAll items).run ((ask (.create item)).run w).2 :=
      run_seq hr
    rw [hfirst, List.foldl_cons, ← hs]
    exact ih _

/-- **A migration creates what is missing,** and leaves what is there. -/
theorem migrate_run (w : World) : (migrate.run w).1 = .ok () ∧ (migrate.run w).2.store = w.store.filled := by
  obtain ⟨hr, hs⟩ := createAll_run SchemaItem.all w
  have hrun : migrate.run w = (write .info "✅ Achievement tables created or already exist.").run
      ((createAll SchemaItem.all).run w).2 := run_seq hr
  rw [hrun, ← Store.create_all, ← hs]
  exact ⟨rfl, rfl⟩

/-! ## Calls that do not end for want of a table -/

variable {α β : Type}

/-- As long as no query misses a table, a procedure does not end because one is missing, and if it ends with an answer,
`post` holds of it. -/
def Provided (post : α → Prop) : Procedure α → Prop
  | .done a => post a
  | .raise e => ∀ t, e ≠ .store (.missing t)
  | .query _ next => ∀ reply, (∀ t, reply ≠ .error (.missing t)) → (next reply).Provided post
  | .now next => ∀ t, (next t).Provided post
  | .log _ next => next.Provided post

variable {post : α → Prop} {p : Procedure α}

/-- A step that misses no table leaves a procedure provided. -/
theorem Provided.follows {q : Procedure α} {es : List Event} (h : p.Provided post) (hf : p.Follows es q)
    (hes : ∀ q reply, .asked q reply ∈ es → ∀ t, reply ≠ .error (.missing t)) : q.Provided post := by
  induction hf with
  | stay p => exact h
  | step takes rest ih =>
    refine ih ?_ fun q reply hmem => hes q reply (List.mem_cons_of_mem _ hmem)
    cases takes with
    | asked query next reply => exact h reply (hes query reply List.mem_cons_self)
    | told next t => exact h t
    | wrote line next => exact h

theorem provided_done {a : α} (h : post a) : (Procedure.done a).Provided post := h

theorem provided_raise {fault : Fault} (h : ∀ t, fault ≠ .store (.missing t)) :
    (Procedure.raise fault : Procedure α).Provided post := h

theorem provided_write (level : LogLevel) (text : String) : (write level text).Provided fun _ => True := trivial

theorem provided_readClock : readClock.Provided fun _ => True := fun _ => trivial

theorem provided_compute (x : Except NumberFault α) : (compute x).Provided fun _ => True := by
  cases x with
  | ok a => exact trivial
  | error fault => exact nofun

theorem provided_ask (q : Query) : (ask q).Provided fun _ => True := by
  intro reply hreply
  cases reply with
  | ok r => exact trivial
  | error fault =>
    rintro t heq
    cases heq
    exact hreply t rfl

theorem Provided.bind {mid : α → Prop} {post : β → Prop} (h : p.Provided mid) {f : α → Procedure β}
    (hf : ∀ a, mid a → (f a).Provided post) : (p >>= f).Provided post := by
  show (p.bind f).Provided post
  induction p with
  | done a => exact hf a h
  | raise fault => exact h
  | query q next ih => exact fun reply hreply => ih reply (h reply hreply)
  | now next ih => exact fun t => ih t (h t)
  | log line next ih => exact ih h

theorem Provided.rescue (h : p.Provided post) {handler : Fault → Procedure α}
    (hh : ∀ fault, (∀ t, fault ≠ .store (.missing t)) → (handler fault).Provided post) :
    (p.rescue handler).Provided post := by
  induction p with
  | done a => exact h
  | raise fault => exact hh fault h
  | query q next ih => exact fun reply hreply => ih reply (h reply hreply)
  | now next ih => exact fun t => ih t (h t)
  | log line next ih => exact ih h

theorem Provided.mono {post' : α → Prop} (h : p.Provided post) (himp : ∀ a, post a → post' a) : p.Provided post' := by
  induction p with
  | done a => exact himp a h
  | raise fault => exact h
  | query q next ih => exact fun reply hreply => ih reply (h reply hreply)
  | now next ih => exact fun t => ih t (h t)
  | log line next ih => exact ih h

theorem Provided.map {post : β → Prop} {f : α → β} (h : p.Provided fun a => post (f a)) : (f <$> p).Provided post :=
  h.bind fun _ ha => provided_done ha

theorem Provided.of_done {a : α} (h : (Procedure.done a).Provided post) : post a := h

theorem Provided.of_raise {fault : Fault} (h : (Procedure.raise fault : Procedure α).Provided post) (t : Table) :
    fault ≠ .store (.missing t) := h t

-- from here on a statement about a procedure is made from the lemmas above, and never computed
attribute [irreducible] Provided

/-! ## Parts of calls -/

theorem compileCriteria_provided (warn : Bool) (mention criteria : String) :
    (compileCriteria warn mention criteria).Provided fun _ => True := by
  unfold compileCriteria
  split
  · split
    · split
      · exact (provided_write _ _).bind fun _ _ => provided_done trivial
      · exact provided_done trivial
    · exact provided_raise nofun
  · dsimp only
    split
    · exact (provided_write _ _).bind fun _ _ => provided_done trivial
    · exact provided_done trivial

theorem compile_provided (warn : Bool) (as : List Achievement) : (compile warn as).Provided fun _ => True := by
  induction as with
  | nil => exact provided_done trivial
  | cons a as ih =>
    unfold compile
    split
    · exact ih
    · exact (compileCriteria_provided _ _ _).bind fun _ _ => ih.bind fun _ _ => provided_done trivial

theorem fetchTallies_provided (viewers : List Value) : (fetchTallies viewers).Provided fun _ => True := by
  unfold fetchTallies
  split
  · exact provided_done trivial
  · exact provided_ask (.raceTallies viewers)

theorem fetchCounts_provided (viewers keys : List Value) : (fetchCounts viewers keys).Provided fun _ => True := by
  unfold fetchCounts
  split
  · exact provided_done trivial
  · exact provided_ask (.actionCounts viewers keys)

theorem fetchPairs_provided (viewers achievements : List Value) :
    (fetchPairs viewers achievements).Provided fun _ => True := by
  unfold fetchPairs
  split
  · exact provided_done trivial
  · exact provided_ask (.unlockedPairs viewers achievements)

theorem takeSnapshots_provided (viewers : List String) (keys : List Value) :
    (takeSnapshots viewers keys).Provided fun _ => True := by
  unfold takeSnapshots
  split
  · exact provided_done trivial
  · exact (fetchTallies_provided _).bind fun _ _ => (fetchCounts_provided _ _).bind fun _ _ => provided_done trivial

theorem unlockAll_provided (o : Occasion) (candidates : List (String × Snapshot × Rule))
    (existing : List (String × Int)) : (unlockAll o candidates existing).Provided fun _ => True := by
  induction candidates generalizing existing with
  | nil => exact provided_done trivial
  | cons candidate candidates ih =>
    obtain ⟨viewer, snapshot, rule⟩ := candidate
    unfold unlockAll
    split
    · exact ih existing
    · split
      · exact ih existing
      · refine (provided_ask _).bind fun added _ => ?_
        split
        · exact (provided_write _ _).bind fun _ _ => (ih _).bind fun _ _ => provided_done trivial
        · exact ih existing

theorem awardBy_provided (viewers : List String) (source sourceRef : String) (rules : List Rule) :
    (awardBy viewers source sourceRef rules).Provided fun _ => True := by
  unfold awardBy
  split
  · exact provided_done trivial
  · refine (takeSnapshots_provided _ _).bind fun snapshots _ => (fetchPairs_provided _ _).bind fun existing _ => ?_
    refine provided_readClock.bind fun time _ => (unlockAll_provided _ _ _).bind fun us _ => ?_
    split
    · exact (provided_write _ _).bind fun _ _ => provided_done trivial
    · exact provided_done trivial

theorem nothingAwarded_provided {fault : Fault} (h : ∀ t, fault ≠ .store (.missing t)) :
    (nothingAwarded fault).Provided fun _ => True := by
  unfold nothingAwarded
  split
  · exact absurd rfl (h _)
  · exact provided_raise h

theorem awardIds_provided (viewers : List String) (source sourceRef : String) :
    (awardIds viewers source sourceRef).Provided fun _ => True := by
  unfold awardIds
  split
  · exact provided_done trivial
  · rw [awardPass_eq]
    exact Provided.rescue ((provided_ask _).bind fun _ _ => (compile_provided _ _).bind fun _ _ => awardBy_provided _ _ _ _)
      fun _ => nothingAwarded_provided

theorem award_provided (viewers source sourceRef : Value) : (award viewers source sourceRef).Provided fun _ => True := by
  unfold award
  split
  · exact provided_raise nofun
  · exact awardIds_provided _ _ _

theorem passFailed_provided (after : String) (fault : Fault) : (passFailed after fault).Provided fun _ => True :=
  (provided_write _ _).bind fun _ _ => provided_done trivial

theorem awardRace_provided (competition viewers : Value) : (awardRace competition viewers).Provided fun _ => True :=
  (award_provided _ _ _).rescue fun _ _ => passFailed_provided _ _

theorem recordAction_provided (viewer key : Value) : (recordAction viewer key).Provided fun _ => True := by
  unfold recordAction
  split
  · exact provided_done trivial
  · rw [countAndAward_eq]
    refine provided_readClock.bind fun time _ => (provided_ask _).bind fun count _ => ?_
    unfold awardCounted
    exact (provided_write _ _).bind fun _ _ =>
      ((awardIds_provided _ _ _).rescue fun _ _ => passFailed_provided _ _).bind fun _ _ => provided_done trivial

theorem report_provided (viewer : Value) : (report viewer).Provided fun _ => True := by
  unfold report
  split
  · exact provided_raise nofun
  · unfold reportFor
    refine (provided_ask _).bind fun achievements _ => (compile_provided _ _).bind fun rules _ => ?_
    refine (takeSnapshots_provided _ _).bind fun snapshots _ => (provided_ask _).bind fun times _ => ?_
    exact (provided_compute _).bind fun entries _ => provided_done trivial

theorem listUnlocked_provided (viewer : Value) : (listUnlocked viewer).Provided fun _ => True := by
  unfold listUnlocked
  split
  · exact provided_raise nofun
  · exact provided_ask (.unlockedList _)

theorem snapshotsOf_provided (viewers keys : Value) : (snapshotsOf viewers keys).Provided fun _ => True := by
  unfold snapshotsOf
  split
  · exact provided_raise nofun
  · exact provided_done trivial
  · split
    · exact provided_raise nofun
    · exact takeSnapshots_provided _ _

theorem pairsOf_provided (viewers achievements : Value) : (pairsOf viewers achievements).Provided fun _ => True := by
  unfold pairsOf
  split
  · exact fetchPairs_provided _ _
  · exact provided_raise nofun

theorem createAll_provided (items : List SchemaItem) : (createAll items).Provided fun _ => True := by
  induction items with
  | nil => exact provided_done trivial
  | cons item items ih => exact (provided_ask _).bind fun _ _ => ih

theorem migrate_provided : migrate.Provided fun _ => True :=
  (createAll_provided _).bind fun _ _ => provided_write _ _

end Procedure

/-! ## Responses -/

namespace Web

open Procedure

/-- A response that does not tell of a missing table. -/
def Sound (r : Response) : Prop := r.status ≠ 503

theorem unlessMigrated_provided {fault : Fault} (h : ∀ t, fault ≠ .store (.missing t)) :
    (unlessMigrated fault).Provided Sound := by
  unfold unlessMigrated
  split
  · exact absurd rfl (h _)
  · exact provided_raise h

/-- A route that answers with status 200, or else with what its fault amounts to. -/
theorem accept_provided {α : Type} {p : Procedure α} (h : p.Provided fun _ => True) {f : α → Response}
    (hf : ∀ a, (f a).status = 200) : ((p.bind fun a => pure (f a)).rescue unlessMigrated).Provided Sound := by
  have haccepted : (p.bind fun a => pure (f a)).Provided Sound := by
    refine h.bind fun a _ => provided_done ?_
    unfold Sound
    rw [hf a]
    decide
  exact haccepted.rescue fun _ => unlessMigrated_provided

theorem catalogue_provided : catalogue.Provided Sound :=
  accept_provided (provided_ask _) fun _ => rfl

theorem validateText_provided (text : String) : (validateText text).Provided Sound := by
  unfold validateText
  split
  · exact provided_done (by decide : 200 ≠ 503)
  · split
    · exact provided_done (by decide : 400 ≠ 503)
    · exact provided_raise nofun

/-- A complaint about a body has status 422. -/
theorem status_of_criteriaOf {r : Request} {response : Response} (h : criteriaOf r = .error response) :
    response.status = 422 := by
  unfold criteriaOf at h
  split at h
  · cases h
    rfl
  · split at h
    · cases h
      rfl
    · split at h
      · cases h
        rfl
      · unfold criteriaIn at h
        split at h
        · cases h
        · cases h
        · cases h
          rfl
      · cases h
        rfl

theorem validate_provided (r : Request) : (validate r).Provided Sound := by
  unfold validate
  split
  · rename_i response h
    refine provided_done ?_
    unfold Sound
    rw [status_of_criteriaOf h]
    decide
  · exact validateText_provided _

theorem unlocked_provided (viewer : String) : (unlocked viewer).Provided Sound := by
  unfold unlocked
  split
  · exact provided_done (by decide : 401 ≠ 503)
  · exact accept_provided (listUnlocked_provided _) fun _ => rfl

theorem reportFailed_provided (viewer : String) {fault : Fault} (h : ∀ t, fault ≠ .store (.missing t)) :
    (reportFailed viewer fault).Provided fun result => ∀ response, result = .error response → Sound response := by
  unfold reportFailed
  split
  · exact absurd rfl (h _)
  · refine provided_done ?_
    rintro _ ⟨⟩
    exact (by decide : 400 ≠ 503)
  · refine (provided_write _ _).bind fun _ _ => provided_done ?_
    rintro _ ⟨⟩
    exact (by decide : 500 ≠ 503)

theorem progress_provided (viewer : String) : (progress viewer).Provided Sound := by
  unfold progress
  split
  · exact provided_done (by decide : 401 ≠ 503)
  · have hreport : (((report (.text viewer)).bind fun r => .done (.ok r)).rescue (reportFailed viewer)).Provided
        fun result => ∀ response, result = .error response → Sound response :=
      Provided.rescue ((report_provided (.text viewer)).bind fun _ _ => provided_done nofun)
        fun _ => reportFailed_provided viewer
    refine hreport.bind fun result hresult => ?_
    split
    · exact provided_done (hresult _ rfl)
    · exact provided_readClock.bind fun _ _ => provided_done (by decide : 200 ≠ 503)

theorem action_provided (viewer key : String) : (action viewer key).Provided Sound := by
  unfold action
  split
  · exact provided_done (by decide : 401 ≠ 503)
  · exact accept_provided (recordAction_provided _ _) fun _ => rfl

theorem respond_provided (r : Request) (route : Route) : (respond r route).Provided Sound := by
  cases route with
  | health => exact provided_done (by decide : 200 ≠ 503)
  | catalogue => exact catalogue_provided
  | validate => exact validate_provided r
  | unlocked => exact unlocked_provided _
  | progress => exact progress_provided _
  | action key => exact action_provided _ _
  | page => exact provided_done (by decide : 200 ≠ 503)

theorem handle_provided (r : Request) : (handle r).Provided Sound := by
  unfold handle
  split
  · rename_i response hfree
    refine provided_done ?_
    unfold permission? at hfree
    split at hfree
    · obtain ⟨method, _, rfl⟩ := Option.map_eq_some_iff.mp hfree
      unfold Sound
      dsimp only
      split <;> decide
    · cases hfree
  · unfold Web.route
    split
    · refine provided_done ?_
      unfold elsewhere Sound
      split
      · exact (by decide : 307 ≠ 503)
      · exact (by decide : 404 ≠ 503)
    · split
      · exact respond_provided r _
      · exact provided_done (by decide : 405 ≠ 503)

theorem exchange_provided (m : Message) : (exchange m).Provided Sound := by
  unfold exchange
  split
  · exact provided_raise nofun
  · refine Provided.map ((handle_provided _).mono fun response hsound => ?_)
    unfold returned
    split
    · exact hsound
    · exact hsound

end Web

open Procedure Web

/-- An answer that does not tell of a missing table. -/
def Answer.Sound (a : Answer) : Prop := ∀ response, a = .response response → response.status ≠ 503

theorem Procedure.Provided.answer {α : Type} {p : Procedure α} (h : p.Provided fun _ => True) {f : α → Answer}
    (hf : ∀ a response, f a ≠ .response response) : (f <$> p).Provided Answer.Sound :=
  Provided.map (h.mono fun a _ response heq => absurd heq (hf a response))

/-- **No call makes up a missing table,** neither in its fault nor in its response. -/
theorem Call.provided (c : Call) : c.procedure.Provided Answer.Sound := by
  cases c with
  | migrate => exact migrate_provided.answer nofun
  | award viewers source sourceRef => exact (award_provided _ _ _).answer nofun
  | awardRace competition viewers => exact (awardRace_provided _ _).answer nofun
  | record viewer key => exact (recordAction_provided _ _).answer nofun
  | progress viewer => exact (report_provided _).answer fun _ _ heq => Answer.noConfusion heq
  | list => exact (provided_ask .activeAchievements).answer nofun
  | unlocked viewer => exact (listUnlocked_provided _).answer nofun
  | pairs viewers achievements => exact (pairsOf_provided _ _).answer nofun
  | times viewer => exact (provided_ask (.unlockTimes viewer)).answer nofun
  | insert entry => exact (provided_ask (.insertUnlock entry)).answer nofun
  | raceTallies viewers => exact (fetchTallies_provided _).answer nofun
  | actionCounts viewers keys => exact (fetchCounts_provided _ _).answer nofun
  | countAction entry => exact (provided_ask (.countAction entry)).answer nofun
  | snapshots viewers keys => exact (snapshotsOf_provided _ _).answer nofun
  | web message =>
    refine Provided.map ((exchange_provided message).mono fun response hsound => ?_)
    rintro _ ⟨⟩
    exact hsound

/-! ## Runs -/

/-- No table is dropped. -/
def KeepsTables (w u : World) : Prop := ∀ t, w.store.has t = true → u.store.has t = true

theorem KeepsTables.complete {w u : World} (h : KeepsTables w u) (hw : w.store.Complete) : u.store.Complete :=
  fun t => h t (hw t)

/-- Of the edits from outside, only one drops a table. -/
theorem Edit.keepsTables {e : Edit} (h : ∀ t, e ≠ .drop t) (w : World) : KeepsTables w (e.apply w) := by
  intro t ht
  cases e with
  | drop dropped => exact absurd rfl (h dropped)
  | achievement row => cases t <;> simpa [Edit.apply, Store.putAchievement, Store.has] using ht
  | results viewer position status times => cases t <;> simpa [Edit.apply, Store.addResults, Store.has] using ht
  | counter row => cases t <;> simpa [Edit.apply, Store.putCounter, Store.has] using ht
  | unlock row => cases t <;> simpa [Edit.apply, Store.putUnlock, Store.has] using ht
  | clock ms tick => exact ht
  | fail failing message => cases t <;> exact ht
  | heal => cases t <;> exact ht

section

variable {calls : List Call} {w v : World} {es : List (Nat × Event)} {qs : List (Procedure Answer)}

/-- **As long as all tables are there, nobody is told that one is missing.** -/
theorem Store.Complete.never_missed (hw : w.store.Complete)
    (h : Interleaving KeepsTables (calls.map Call.procedure) w es qs v) {q : Procedure Answer} (hq : q ∈ qs) :
    q.Provided Answer.Sound := by
  obtain ⟨_, hfrom⟩ := h.invariant (P := Store.Complete) (fun _ _ hkeeps => hkeeps.complete)
    (fun _ q _ hs => hs.answer q) hw
  obtain ⟨i, hi, rfl⟩ := List.mem_iff_getElem.mp hq
  have hlt : i < calls.length := by simpa [h.length_eq] using hi
  obtain ⟨q, hget, hf⟩ := h.follows_call (List.getElem?_eq_getElem hlt)
  rw [List.getElem?_eq_getElem hi] at hget
  cases hget
  -- every reply was given by a store with all tables
  refine (Call.provided _).follows hf fun query reply hmem => ?_
  obtain ⟨s, hs, rfl⟩ := hfrom _ (mem_own.mp hmem)
  exact hs.answer_ne_missing query

end

/-- What is refused for a missing table is the fault of a query. -/
theorem Fault.eq_missing {fault : Fault} (h : fault.refusal? = some .storageMissing) :
    ∃ t, fault = .store (.missing t) := by
  cases fault with
  | store cause =>
    cases cause with
    | missing t => exact ⟨t, rfl⟩
    | _ => cases h
  | criteria cause => cases cause <;> cases h
  | _ => cases h

/-- A table after a migration: its rows, if it was there, and otherwise none. -/
def Ensured {α : Type} (before after : Option (List α)) : Prop :=
  (∀ rows, before = some rows → after = some rows) ∧ (before = none → after = some [])

/-- A store after a migration. -/
structure Store.Migrated (s s' : Store) : Prop where
  results : Ensured s.results s'.results
  catalogue : Ensured s.catalogue s'.catalogue
  unlocks : Ensured s.unlocks s'.unlocks
  actions : Ensured s.actions s'.actions
  failing : s'.failing = s.failing

theorem ensured_getD {α : Type} (rows : Option (List α)) : Ensured rows (some (rows.getD [])) := by
  constructor
  · rintro rows rfl
    rfl
  · rintro rfl
    rfl

theorem Store.migrated_filled (s : Store) : s.Migrated s.filled :=
  ⟨ensured_getD _, ensured_getD _, ensured_getD _, ensured_getD _, rfl⟩

/-- What a migration of a world comes to. -/
structure MigrationRepairs (w : World) : Prop where
  answered : (migrate.run w).1 = .ok ()
  /-- The tables that were there have the same rows, and the others are there and empty. -/
  migrated : w.store.Migrated (migrate.run w).2.store
  /-- Another migration is answered as well, and changes nothing. -/
  again : (migrate.run (migrate.run w).2).1 = .ok ()
    ∧ (migrate.run (migrate.run w).2).2.store = (migrate.run w).2.store
  /-- Whatever is called from then on, in whatever order, while others may do anything but drop a table: no call is
  refused because a table is missing, and no response says so. -/
  later : ∀ (calls : List Call) (es : List (Nat × Event)) (qs : List (Procedure Answer)) (v : World),
    Interleaving KeepsTables (calls.map Call.procedure) (migrate.run w).2 es qs v →
      ∀ q ∈ qs, (∀ fault, q = .raise fault → fault.refusal? ≠ some .storageMissing)
        ∧ ∀ response, q = .done (.response response) → response.status ≠ 503

/--
**A migration repairs any schema, and touches no data.** Take any world: some of its tables may be missing, and others
may be out of reach. The migration is answered, keeps the rows of the tables that are there, and creates the others
empty. No call after it is told that a table is missing, until somebody drops one.
-/
theorem migration_repairs (w : World) : MigrationRepairs w := by
  obtain ⟨hanswered, hstore⟩ := migrate_run w
  obtain ⟨hagain, hsame⟩ := migrate_run (migrate.run w).2
  have hcomplete : (migrate.run w).2.store.Complete := hstore ▸ w.store.complete_filled
  refine ⟨hanswered, hstore ▸ w.store.migrated_filled, ⟨hagain, hsame.trans hcomplete.filled_eq⟩, ?_⟩
  intro calls es qs v h q hq
  have hprovided := hcomplete.never_missed h hq
  constructor
  · rintro fault rfl hmissing
    obtain ⟨t, rfl⟩ := Fault.eq_missing hmissing
    exact hprovided.of_raise t rfl
  · rintro response rfl
    exact hprovided.of_done response rfl

/-- Two tables are missing, and the ledger is out of reach. -/
def patchyWorld : World where
  store :=
    { results := none
      catalogue := some [⟨1, "First", none, false, "wins>=1"⟩]
      unlocks := some [⟨"alice", 1, 5, none, none⟩]
      actions := none
      failing := [(.unlocks, "connection lost")] }
  clock := ⟨100, 1⟩
  queries := []
  log := []

/-- A request for the progress of a viewer. -/
def progressRequest : Message := ⟨"GET", "/api/v1/me/achievement-progress", [("X-Viewer-User-Id", "alice")], none⟩

/-- The world after the migration, once the ledger is in reach again. -/
def healedWorld : World := Edit.heal.apply (migrate.run patchyWorld).2

/-- The migration takes away one reason not to answer, and the end of the outage takes away the other. -/
theorem migration_repairs_patchy :
    MigrationRepairs patchyWorld
      ∧ (∃ es, Interleaving KeepsTables ([Call.web progressRequest].map Call.procedure) (migrate.run patchyWorld).2 es
          [.ended ((Call.web progressRequest).procedure.run healedWorld).1]
          ((Call.web progressRequest).procedure.run healedWorld).2)
      ∧ (((exchange progressRequest).run patchyWorld).1.map (·.status)).toOption = some 503
      ∧ (((exchange progressRequest).run (migrate.run patchyWorld).2).1.map (·.status)).toOption = some 500
      ∧ (((exchange progressRequest).run healedWorld).1.map (·.status)).toOption = some 200 := by
  obtain ⟨es, hes⟩ := turn_run KeepsTables (Call.web progressRequest).procedure healedWorld
  have hrun := hes.behind [] []
  have hafter := Interleaving.outside (Edit.keepsTables (e := .heal) nofun (migrate.run patchyWorld).2) hrun
  exact ⟨migration_repairs patchyWorld, ⟨_, hafter⟩, by decide +kernel, by decide +kernel, by decide +kernel⟩

end Laurels
