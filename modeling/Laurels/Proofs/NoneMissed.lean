import Laurels.Proofs.CallQueries
import Laurels.Proofs.LedgerGrowth
import Laurels.Proofs.ViewerIds

/-!
# No unlock is missed

Actions are recorded while other calls are under way, each of which looks at the counters at some moment of
its own. Still nothing is missed: in any run there is a last step that counts an action of the viewer, and the
call that took this step goes on to award the viewer. All that it reads from then on is final, as far as the
viewer is concerned (`Still`), and what it finds satisfied is unlocked at the end, by that call or by another
one (`AwardFacts.complete`).

`none_missed` is the main statement. That every recording leads to all that its viewer deserves is false
(`missed_unlocks`): a rule can ask for a counter without a key, which no pass ever reads, and a recording whose
counter is full counts nothing and awards nothing. It holds if one of the recordings is answered, of what is
deserved by the counters that have a key.
-/

namespace Laurels

/-- Whether a step counts an action of the viewer. One that is refused counts nothing. -/
def Event.CountsFor (viewer : String) : Event → Prop
  | .asked q (.ok _) => Store.CountsFor viewer q
  | _ => False

/-- A call that counts no action, whatever it is answered. -/
def Call.CountsNothing (c : Call) : Prop :=
  c.procedure.Asks fun q => ∀ viewer, ¬ Store.CountsFor viewer q

theorem Call.countsNothing_report (viewer : Value) : (Call.progress viewer).CountsNothing :=
  ((Procedure.report_asks viewer).map _).mono fun _ h _ => Query.not_countsFor_of_ofPass h.ofPass

/-! ## What stays as it is once nothing is counted -/

/-- A store in order that agrees with another one on all that decides what the viewer deserves. -/
structure Still (viewer : String) (s₀ s : Store) : Prop where
  ready : s.Ready
  catalogue : s.catalogueRows = s₀.catalogueRows
  results : s.resultRows = s₀.resultRows
  counters : s.counterRows.filter (fun r => r.viewer == viewer)
    = s₀.counterRows.filter (fun r => r.viewer == viewer)

namespace Still

variable {viewer : String} {s₀ s : Store}

theorem answer (h : Still viewer s₀ s) {q : Query}
    (hq : ¬ (Event.asked q (s.answer q).1).CountsFor viewer) : Still viewer s₀ (s.answer q).2 := by
  cases hreply : (s.answer q).1 with
  | error fault => rwa [Store.answer_of_error hreply]
  | ok r =>
    rw [hreply] at hq
    exact
      { ready := Store.ready_answer h.ready q
        catalogue := (Store.catalogueRows_answer s q).trans h.catalogue
        results := (Store.resultRows_answer s q).trans h.results
        counters := (Store.counterRows_answer hq).trans h.counters }

theorem tallyOf_eq (h : Still viewer s₀ s) : s.tallyOf viewer = s₀.tallyOf viewer := by
  unfold Store.tallyOf
  rw [h.results]

theorem countersOf_eq (h : Still viewer s₀ s) : s.countersOf viewer = s₀.countersOf viewer := by
  unfold Store.countersOf
  rw [h.counters]

theorem deserves_iff (h : Still viewer s₀ s) {a : Achievement} :
    s.Deserves viewer a ↔ s₀.Deserves viewer a := by
  unfold Store.Deserves Store.snapshot Store.DeservedOn
  rw [h.catalogue, h.tallyOf_eq, h.countersOf_eq]

theorem steady : Steady (Still viewer s₀) s₀ := ⟨fun _ h => h.ready, fun _ h => h.catalogue⟩

/-- There is only one thing to see. -/
theorem eq_of_seen {snapshot : Snapshot} (h : Seen (Still viewer s₀) viewer snapshot) :
    snapshot = s₀.snapshot viewer := by
  obtain ⟨s₁, s₂, h₁, h₂, rfl⟩ := h
  rw [h₁.tallyOf_eq, h₂.countersOf_eq]
  rfl

end Still

/-- **A run that counts no action of the viewer** leaves the viewer where they stand. -/
theorem Interleaving.still {α : Type} {outside : World → World → Prop} {ps qs : List (Procedure α)}
    {w v : World} {es : List (Nat × Event)} (hout : KeepsStore outside)
    (h : Interleaving outside ps w es qs v) (hready : w.store.Ready) {viewer : String}
    (hcount : ∀ x ∈ es, ¬ x.2.CountsFor viewer) :
    Still viewer w.store v.store ∧ ∀ x ∈ es, x.2.From (Still viewer w.store) := by
  refine h.invariant (fun w u hwu hw => by rw [hout w u hwu]; exact hw) ?_ ⟨hready, rfl, rfl, rfl⟩
  rintro s q ⟨x, hx, he⟩ hs
  exact hs.answer (he ▸ hcount x hx)

/-! ## The call that counts last -/

namespace Procedure

/-- If only the first query of a procedure is of some kind, a step of that kind is the first. -/
theorem Follows.first {α : Type} {kind : Query → Prop} {q query : Query}
    {next : Except StoreFault q.Reply → Procedure α} {reply : Except StoreFault query.Reply}
    {es : List Event} {m : Procedure α}
    (hf : (Procedure.query q next).Follows (es ++ [.asked query reply]) m)
    (hnext : ∀ r, (next r).Asks kind) (hquery : ¬ kind query) :
    es = [] ∧ ∃ r, .asked query reply = Event.asked q r ∧ m = next r := by
  cases es with
  | nil =>
    cases hf with
    | step takes rest =>
      cases takes with
      | asked q next reply =>
        cases rest
        exact ⟨rfl, reply, rfl, rfl⟩
  | cons e es =>
    cases hf with
    | step takes rest =>
      cases takes with
      | asked q next r =>
        have hkind := (hnext r).adequate rest (List.mem_append_right _ (List.mem_singleton_self _))
        exact absurd hkind hquery

theorem awardCounted_asks (viewer key : String) (time count : Int) :
    (awardCounted viewer key time count).Asks Query.OfPass := by
  unfold awardCounted
  refine (asks_write _ _).bind fun _ => Asks.bind ?_ fun _ => asks_done _
  exact (awardIds_asks _ _ _).rescue fun _ => (asks_write _ _).bind fun _ => asks_done _

/-- How the recording of an action goes on when the counters have been asked. -/
def afterCount (viewer key : String) (time : Int) : Except StoreFault Int → Procedure Answer
  | .ok count => Answer.outcome <$> awardCounted viewer key time count
  | .error fault => .raise (.store fault)

theorem outcome_countAndAward (viewer key : String) :
    Answer.outcome <$> countAndAward viewer key =
      .now fun time => .query (.countAction (.of viewer key time)) (afterCount viewer key time) := by
  show Procedure.now _ = Procedure.now _
  congr
  funext time
  show Procedure.query _ _ = Procedure.query _ _
  congr
  funext reply
  cases reply <;> rfl

theorem afterCount_asks (viewer key : String) (time : Int) (reply : Except StoreFault Int) :
    (afterCount viewer key time reply).Asks Query.OfPass := by
  cases reply with
  | ok count => exact (awardCounted_asks _ _ _ _).map _
  | error fault => exact asks_raise _

/-- **When an action is counted** in the course of a recording, all that is left to do is to award the viewer. -/
theorem countAndAward_counts {viewer counted key : String} {es : List Event} {e : Event} {m : Procedure Answer}
    (hf : (Answer.outcome <$> countAndAward counted key).Follows (es ++ [e]) m) (hcounts : e.CountsFor viewer) :
    ∃ time count, m = Answer.outcome <$> awardCounted viewer key time count := by
  rw [outcome_countAndAward] at hf
  cases e with
  | told t => exact False.elim hcounts
  | wrote line => exact False.elim hcounts
  | asked query reply =>
    cases reply with
    | error fault => exact False.elim hcounts
    | ok r =>
      have hnot : ¬ query.OfPass := fun h => Query.not_countsFor_of_ofPass h hcounts
      cases es with
      | nil =>
        -- the first step reads the clock
        cases hf with
        | step takes rest => cases takes
      | cons e es =>
        cases hf with
        | step takes rest =>
          cases takes with
          | told next time =>
            obtain ⟨_, r', heq, rfl⟩ := Follows.first rest (afterCount_asks counted key time) hnot
            cases heq
            obtain ⟨key', time', hread⟩ := hcounts
            cases (ActionEntry.read_of counted key time).symm.trans hread
            exact ⟨time, r, rfl⟩

end Procedure

namespace Call

variable {viewer : String} {es : List Event} {m : Procedure Answer}

/-- Of the calls at hand, the recording of an action is the one that counts. -/
theorem counts {c : Call} (hc : c.Awards ∨ c.CountsNothing) {e : Event}
    (hf : c.procedure.Follows (es ++ [e]) m) (hcounts : e.CountsFor viewer) :
    ∃ key time count, m = Answer.outcome <$> Procedure.awardCounted viewer key time count := by
  -- the history has a query that counts, so no bound on the queries may exclude it
  have hnever : ¬ c.procedure.Asks fun q => ∀ viewer, ¬ Store.CountsFor viewer q := by
    intro h
    cases e with
    | told t => exact hcounts
    | wrote line => exact hcounts
    | asked query reply =>
      cases reply with
      | error fault => exact hcounts
      | ok r => exact h.adequate hf (List.mem_append_right _ (List.mem_singleton_self _)) viewer hcounts
  have hpass : ¬ c.procedure.Asks Query.OfPass :=
    fun h => hnever (h.mono fun q hq viewer => Query.not_countsFor_of_ofPass hq)
  rcases hc with hc | hc
  · cases c with
    | award viewers source sourceRef => exact absurd ((Procedure.award_asks _ _ _).map _) hpass
    | awardRace competition viewers => exact absurd ((Procedure.awardRace_asks _ _).map _) hpass
    | record x key =>
      change Procedure.Follows (Answer.outcome <$> recordAction x key) _ _ at hf
      unfold recordAction at hf
      split at hf
      · -- without a viewer or a key the recording has no steps at all
        generalize hes : es ++ [e] = es' at hf
        cases hf with
        | stay => exact absurd hes (by simp)
        | step takes rest => cases takes
      · exact ⟨_, Procedure.countAndAward_counts hf hcounts⟩
    | _ => exact False.elim hc
  · exact absurd hc hnever

/-- The recording of an action, both viewer and key given, has counted if it is answered. -/
theorem record_counts {viewer key : Value} (hviewer : Viewer.id viewer ≠ "") (hkey : Viewer.id key ≠ "")
    {answer : Answer} (hf : (Call.record viewer key).procedure.Follows es (.done answer)) :
    ∃ e ∈ es, e.CountsFor (Viewer.id viewer) := by
  obtain ⟨q, hgone, heq⟩ := Procedure.Follows.of_map hf
  have hend : q.IsEnded := Procedure.isEnded_map.mp ⟨.ok answer, heq.symm⟩
  unfold recordAction at hgone
  rw [if_neg (by simp [hviewer, hkey])] at hgone
  obtain ⟨time, reply, rest, rfl, ⟨fault, rfl, _, rfl⟩ | ⟨count, rfl, _⟩⟩ :=
    Procedure.countAndAward_follows hgone hend
  · cases heq
  · exact ⟨_, List.mem_cons_of_mem _ List.mem_cons_self, _, _, ActionEntry.read_of _ _ _⟩

end Call

/-! ## After the last count -/

theorem exists_last {α : Type} {p : α → Prop} {l : List α} (h : ∃ x ∈ l, p x) :
    ∃ l₁ x l₂, l = l₁ ++ x :: l₂ ∧ p x ∧ ∀ y ∈ l₂, ¬ p y := by
  induction l with
  | nil => exact absurd h (by simp)
  | cons a l ih =>
    -- one further on is later than the head
    by_cases hl : ∃ x ∈ l, p x
    · obtain ⟨l₁, x, l₂, rfl, hx, hrest⟩ := ih hl
      exact ⟨a :: l₁, x, l₂, rfl, hx, hrest⟩
    · obtain ⟨x, hx, hp⟩ := h
      rcases List.mem_cons.mp hx with rfl | hx
      · exact ⟨[], x, l, rfl, hp, fun y hy hpy => hl ⟨y, hy, hpy⟩⟩
      · exact absurd ⟨x, hx, hp⟩ hl

/-- The call that counted last awards the viewer all that the viewer deserves by then. -/
theorem Interleaving.holds_of_awardCounted {outside : World → World → Prop} {ms qs : List (Procedure Answer)}
    {u v : World} {es : List (Nat × Event)} (hout : KeepsStore outside)
    (h : Interleaving outside ms u es qs v) (hready : u.store.Ready) (hread : u.store.Readable)
    {viewer key : String} {time count : Int} {j : Nat}
    (hm : ms[j]? = some (Answer.outcome <$> Procedure.awardCounted viewer key time count))
    (hends : ∀ q ∈ qs, q.IsEnded) (hviewer : viewer ∈ Viewer.distinct [viewer])
    (hcount : ∀ x ∈ es, ¬ x.2.CountsFor viewer) {a : Achievement} (ha : v.store.Deserves viewer a) :
    v.store.Holds viewer a.id := by
  obtain ⟨hstill, hfrom⟩ := h.still hout hready hcount
  obtain ⟨q, hq, hf⟩ := h.follows hm
  have hens : (Answer.outcome <$> Procedure.awardCounted viewer key time count).Ensures
      (Event.From (Still viewer u.store)) fun es _ => ∃ e ∈ es, e.Shows viewer a.id := by
    refine Procedure.ensures_map (Procedure.Ensures.mono
      (Procedure.awardCounted_ensures Still.steady hread viewer key time count) ?_)
    rintro es' outcome ⟨us, line, es'', rfl, rfl, seen, time', hseen, hfacts⟩
    -- deserved at the end is deserved now, and what was seen of the viewer is what there is
    rw [hstill.deserves_iff] at ha
    obtain ⟨rule, hrule, rfl, hsat⟩ := Store.deserves_iff.mp ha
    rw [← Still.eq_of_seen (hseen viewer hviewer)] at hsat
    obtain ⟨e, he, hshows⟩ := hfacts.complete viewer hviewer rule hrule hsat
    exact ⟨e, List.mem_cons_of_mem _ he, hshows⟩
  obtain ⟨_, _, e, he, hshows⟩ := hens.adequate hf (fun e he => hfrom _ (mem_own.mp he))
    (hends q (List.mem_of_getElem? hq))
  exact h.holds_of_shows hout (mem_own.mp he) hshows

/--
**No unlock is missed.** Calls run side by side to their end, in any order of their steps. One of them records
an action of the viewer and is answered, and besides calls that award there may be calls that count nothing. Then
whatever the viewer deserves at the end is in the ledger. So is what the viewer deserves by all counters that there
are, if none of the viewer's is without a key, or the criteria name none without a key.
-/
theorem none_missed {calls : List Call} (hcalls : ∀ c ∈ calls, c.Awards ∨ c.CountsNothing) {w w' : World}
    (hready : w.store.Ready) (hread : w.store.Readable) {es : List (Nat × Event)}
    {qs : List (Procedure Answer)}
    (h : Interleaving TimePasses (calls.map Call.procedure) w es qs w') (hends : ∀ q ∈ qs, q.IsEnded)
    {viewer key : Value} {i : Nat} (hi : calls[i]? = some (.record viewer key)) (hviewer : Viewer.id viewer ≠ "")
    (hkey : Viewer.id key ≠ "") {answer : Answer} (hanswered : qs[i]? = some (.done answer)) :
    (∀ a, w'.store.Deserves (Viewer.id viewer) a → w'.store.Holds (Viewer.id viewer) a.id)
      ∧ ∀ a, w'.store.DeservesInFull (Viewer.id viewer) a →
          w'.store.KeyedFor (Viewer.id viewer) ∨ a.NamesActions → w'.store.Holds (Viewer.id viewer) a.id := by
  -- some step counts
  obtain ⟨q, hq, hf⟩ := h.follows_call hi
  cases hanswered.symm.trans hq
  obtain ⟨e, he, hcounts⟩ := Call.record_counts hviewer hkey hf
  -- the run is cut after the last such step
  obtain ⟨es₁, ⟨j, last⟩, es₂, hes, hlast, hrest⟩ := exists_last
    (p := fun x : Nat × Event => x.2.CountsFor (Viewer.id viewer)) ⟨(i, e), mem_own.mp he, hcounts⟩
  have hes' : es = (es₁ ++ [(j, last)]) ++ es₂ := by rw [hes, List.append_assoc]; rfl
  obtain ⟨ms, u, h₁, h₂⟩ := h.split hes'
  have hlt : j < calls.length := by
    have := h.lt_length (i := j) (e := last) (by rw [hes]; simp)
    rwa [List.length_map] at this
  have hc : calls[j]? = some calls[j] := List.getElem?_eq_getElem hlt
  -- the call that took it has an award for the viewer before it, and nothing else
  obtain ⟨m, hm, hfm⟩ := h₁.follows_call hc
  rw [own_append, own_cons_self] at hfm
  obtain ⟨key', time, count, rfl⟩ := Call.counts (hcalls _ (List.getElem_mem hlt)) hfm hlast
  obtain ⟨hu, _⟩ := h₁.inOrder keepsStore_timePasses hready
  have hread' : u.store.Readable := by
    unfold Store.Readable
    rw [hu.2]
    exact hread
  have hdeserved : ∀ a, w'.store.Deserves (Viewer.id viewer) a → w'.store.Holds (Viewer.id viewer) a.id :=
    fun a ha => h₂.holds_of_awardCounted keepsStore_timePasses hu.1 hread' hm hends
      (Viewer.mem_distinct_id hviewer) hrest ha
  exact ⟨hdeserved, fun a ha hkeys => hdeserved a (Store.deserves_of_full ha hkeys)⟩

/-- A world whose one achievement takes two actions. -/
def keenWorld : World where
  store :=
    { results := some []
      catalogue := some [⟨1, "Keen", none, false, "action:k>=2"⟩]
      unlocks := some []
      actions := some []
      failing := [] }
  clock := ⟨100, 1⟩
  queries := []
  log := []

/-- Two recordings of an action by one viewer, an award for another viewer, and a report. -/
def keenCalls : List Call :=
  [.record (.text " v1 ") (.text "k"), .award (.list [.text "v2"]) .null .null, .progress (.text "v1"),
    .record (.text "v1") (.text "k")]

/-- In the two-phase schedule the first recording sees one action, and the second one sees both. -/
theorem none_missed_race :
    (∀ c ∈ keenCalls, c.Awards ∨ c.CountsNothing) ∧ keenWorld.store.Ready ∧ keenWorld.store.Readable
      ∧ keenCalls[0]? = some (.record (.text " v1 ") (.text "k"))
      ∧ (∃ answer, ((Schedule.twoPhase ((keenCalls.map Call.procedure).map .procedure) keenWorld).1.map
          Procedure.ended)[0]? = some (.done answer))
      ∧ (Schedule.twoPhase ((keenCalls.map Call.procedure).map .procedure) keenWorld).2.store.DeservesInFull
          (Viewer.id (.text " v1 ")) ⟨1, "Keen", "", false, "action:k>=2"⟩
      ∧ (Schedule.twoPhase ((keenCalls.map Call.procedure).map .procedure) keenWorld).2.store.Holds
          (Viewer.id (.text " v1 ")) 1 := by
  have hcalls : ∀ c ∈ keenCalls, c.Awards ∨ c.CountsNothing := by
    simp [keenCalls, Call.Awards, Call.countsNothing_report]
  have hready : keenWorld.store.Ready := by decide
  have hread : keenWorld.store.Readable := by decide +kernel
  have hrecord : keenCalls[0]? = some (Call.record (.text " v1 ") (.text "k")) := rfl
  have hdeserved : (Schedule.twoPhase ((keenCalls.map Call.procedure).map .procedure)
      keenWorld).2.store.DeservesInFull (Viewer.id (.text " v1 ")) ⟨1, "Keen", "", false, "action:k>=2"⟩ := by
    decide +kernel
  have hkeyed : (Schedule.twoPhase ((keenCalls.map Call.procedure).map .procedure)
      keenWorld).2.store.KeyedFor (Viewer.id (.text " v1 ")) := by decide +kernel
  obtain ⟨es, h⟩ := interleaving_twoPhase TimePasses (keenCalls.map Call.procedure) keenWorld
  obtain ⟨answer, hanswered⟩ : ∃ answer, ((Schedule.twoPhase ((keenCalls.map Call.procedure).map .procedure)
      keenWorld).1.map Procedure.ended)[0]? = some (.done answer) := by
    have hok : ((Schedule.twoPhase ((keenCalls.map Call.procedure).map .procedure) keenWorld).1[0]?.bind
        Except.toOption).isSome = true := by decide +kernel
    obtain ⟨answer, hanswer⟩ := Option.isSome_iff_exists.mp hok
    obtain ⟨r, hr, hdone⟩ := Option.bind_eq_some_iff.mp hanswer
    cases r with
    | error fault => cases hdone
    | ok a => exact ⟨a, by rw [List.getElem?_map, hr]; rfl⟩
  exact ⟨hcalls, hready, hread, hrecord, ⟨answer, hanswered⟩, hdeserved,
    (none_missed hcalls hready hread h Procedure.isEnded_of_mem_map hrecord (by decide +kernel) (by decide +kernel)
      hanswered).2 _ hdeserved (Or.inl hkeyed)⟩

/-! ## Unlocks that are missed -/

/-- The recording of an action runs to its end, and an achievement that the viewer then deserves by all counters that
there are is not in the ledger. -/
def MissedBy (w : World) (viewer key : Value) (a : Achievement) : Prop :=
  ∃ es q w', Interleaving TimePasses [(Call.record viewer key).procedure] w es [q] w' ∧ q.IsEnded
    ∧ w'.store.DeservesInFull (Viewer.id viewer) a ∧ ¬ w'.store.Holds (Viewer.id viewer) a.id

/-- What is missed when the recording runs alone is missed. -/
theorem MissedBy.of_run {w : World} {viewer key : Value} {a : Achievement}
    (hdeserved : ((Call.record viewer key).procedure.run w).2.store.DeservesInFull (Viewer.id viewer) a)
    (hmissed : ¬ ((Call.record viewer key).procedure.run w).2.store.Holds (Viewer.id viewer) a.id) :
    MissedBy w viewer key a := by
  obtain ⟨es, hturn⟩ := turn_run TimePasses (Call.record viewer key).procedure w
  exact ⟨_, _, _, hturn _ 0 rfl, ⟨_, rfl⟩, hdeserved, hmissed⟩

/-- A world with one achievement and some counters. -/
def hoardWorld (criteria : String) (counters : List ActionRow) : World where
  store :=
    { results := some []
      catalogue := some [⟨1, "Hoard", none, false, criteria⟩]
      unlocks := some []
      actions := some counters
      failing := [] }
  clock := ⟨100, 1⟩
  queries := []
  log := []

/--
**Some unlocks are missed.** A viewer has a counter without a key, and the achievement that names it stays locked. The
counter of another viewer is full: the next action is refused, and so the viewer is not awarded what the counter is
enough for.
-/
theorem missed_unlocks :
    ((hoardWorld "action:>=1" [⟨"v1", "", 5, none, none⟩]).store.Ready
      ∧ (hoardWorld "action:>=1" [⟨"v1", "", 5, none, none⟩]).store.Readable
      ∧ MissedBy (hoardWorld "action:>=1" [⟨"v1", "", 5, none, none⟩]) (.text "v1") (.text "k")
          ⟨1, "Hoard", "", false, "action:>=1"⟩)
    ∧ (hoardWorld "action:k>=1" [⟨"v1", "k", 2147483647, none, none⟩]).store.Ready
      ∧ (hoardWorld "action:k>=1" [⟨"v1", "k", 2147483647, none, none⟩]).store.Readable
      ∧ MissedBy (hoardWorld "action:k>=1" [⟨"v1", "k", 2147483647, none, none⟩]) (.text "v1") (.text "k")
          ⟨1, "Hoard", "", false, "action:k>=1"⟩ := by
  refine ⟨⟨by decide, by decide +kernel, .of_run ?_ ?_⟩, by decide, by decide +kernel, .of_run ?_ ?_⟩
  · decide +kernel
  · decide +kernel
  · decide +kernel
  · decide +kernel

end Laurels
