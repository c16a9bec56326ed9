import Laurels.Proofs.Confluence
import Laurels.Proofs.Permanence
import Laurels.Proofs.Unanswered

/-!
# Readers of the ledger

Three queries read the unlocks of a viewer, and each of them leaves out something else. One looks for pairs among
viewers and achievements that are listed, and is not even asked if one of the lists is empty. One tells the times, but
not those that are zero or less. And one joins the unlocks with the catalogue.

On any ledger they could disagree. On a ledger that is `Timed` they cannot: its times are positive, and no pair is in
it twice. Awards keep a ledger so as long as the clock shows positive times, because the time of a row is one that the
clock has shown to the call that adds it (`Call.stamps`). Nothing else about these calls matters; they may fail
half-way, or compete.

The query that lists the unlocks asks for the latest ones first and for no more than that. So what is said of the list
is said of all lists that would do (`Store.Lists`). Simultaneous unlocks come in any order, and that of their ids is
only one of them (`simultaneous_unlocks`).

`readers_agree` is the main statement.
-/

namespace Laurels

/-- Whether a relation lets the ledger alone. -/
def SparesLedger (outside : World → World → Prop) : Prop := ∀ w u, outside w u → u.store.ledger = w.store.ledger

/-- A ledger whose times are positive and in which no pair is twice. -/
structure Store.Timed (s : Store) : Prop where
  positive : ∀ r ∈ s.ledger, 0 < r.time
  distinct : (s.ledger.map UnlockRow.pair).Nodup

/-- The lists that show the unlocks of a viewer: what the ledger and the catalogue make up, latest first. Nothing puts
simultaneous unlocks in order. -/
structure Store.Lists (s : Store) (viewer : String) (listed : List Unlocked) : Prop where
  rows : listed.Perm (described s.catalogueRows s.ledger viewer)
  latest : listed.Pairwise fun a b => b.time ≤ a.time

instance (s : Store) (viewer : String) (listed : List Unlocked) : Decidable (s.Lists viewer listed) :=
  decidable_of_iff (listed.Perm (Store.described s.catalogueRows s.ledger viewer)
      ∧ listed.Pairwise fun a b => b.time ≤ a.time)
    ⟨fun h => ⟨h.1, h.2⟩, fun h => ⟨h.rows, h.latest⟩⟩

/-- How three readers of the ledger agree on a viewer: `times` are the times of the unlocks, and `listed` are the unlocks
as the viewer gets to see them. -/
structure ReadersAgree (w : World) (viewer : String) (times : List (Int × Int)) (listed : List Unlocked) : Prop where
  /-- What has a time is what the ledger holds. -/
  times_iff : ∀ achievement, achievement ∈ times.map Prod.fst ↔ w.store.Holds viewer achievement
  /-- An achievement of the catalogue, disabled or not, is listed if it has a time. -/
  listed_iff : ∀ c ∈ w.store.catalogueRows, c.id ∈ listed.map (·.achievement) ↔ c.id ∈ times.map Prod.fst
  /-- So is it with the pairs that are unlocked, whoever and whatever else is asked about. -/
  pairs_iff : ∀ viewers achievements vs as, Value.elements? viewers = some vs →
    Value.elements? achievements = some as → Value.text viewer ∈ vs → ∃ pairs, (pairsOf viewers achievements).Answers w pairs
      ∧ ∀ c ∈ w.store.catalogueRows, Value.int c.id ∈ as → ((viewer, c.id) ∈ pairs ↔ c.id ∈ times.map Prod.fst)
  /-- The time is everywhere that of the row in the ledger. -/
  time : ∀ r ∈ w.store.ledger, r.viewer = viewer → (∀ t, (r.achievement, t) ∈ times ↔ t = r.time)
    ∧ ∀ u ∈ listed, u.achievement = r.achievement → u.time = r.time
  once : (listed.map (·.achievement)).Nodup
  /-- Later unlocks stand first. -/
  order : listed.Pairwise fun a b => b.time ≤ a.time

/-! ## What the readers show -/

namespace Store

variable {s : Store} {viewer : String}

theorem mem_pairs_iff {viewers : List String} {achievements : List Int} {achievement : Int} (hv : viewer ∈ viewers)
    (ha : achievement ∈ achievements) :
    (viewer, achievement) ∈ pairs s.ledger viewers achievements ↔ s.Holds viewer achievement := by
  refine ⟨mem_pairs, ?_⟩
  rintro ⟨r, hr, rfl, rfl⟩
  exact List.mem_map.mpr ⟨r, List.mem_filter.mpr ⟨hr, by simp [hv, ha]⟩, rfl⟩

theorem mem_times {achievement time : Int} :
    (achievement, time) ∈ times s.ledger viewer
      ↔ 0 < time ∧ ∃ r ∈ s.ledger, r.viewer = viewer ∧ r.achievement = achievement ∧ r.time = time := by
  unfold times
  simp only [List.mem_map, List.mem_filter, Bool.and_eq_true, beq_iff_eq, decide_eq_true_eq, Prod.mk.injEq]
  constructor
  · rintro ⟨r, ⟨hr, hv, hpos⟩, rfl, rfl⟩
    exact ⟨hpos, r, hr, hv, rfl, rfl⟩
  · rintro ⟨hpos, r, hr, hv, rfl, rfl⟩
    exact ⟨r, ⟨hr, hv, hpos⟩, rfl, rfl⟩

theorem mem_described {catalogue : List CatalogueRow} {u : Unlocked} :
    u ∈ described catalogue s.ledger viewer
      ↔ ∃ c ∈ catalogue, ∃ r ∈ s.ledger, r.viewer = viewer ∧ r.achievement = c.id ∧ describe c r = u := by
  unfold described
  simp only [List.mem_flatMap, List.mem_map, List.mem_filter, beq_iff_eq, and_assoc]

/-- The list that is shown is one of those that show the unlocks. -/
theorem lists_unlockedList (s : Store) (viewer : String) :
    s.Lists viewer (unlockedList s.catalogueRows s.ledger viewer) where
  rows := sorted_perm _ _
  latest := by
    have hsorted : (unlockedList s.catalogueRows s.ledger viewer).Pairwise fun a b => noEarlier a b = true := by
      refine pairwise_sorted (fun a b => ?_) (fun a b c => ?_) _ <;> simp only [noEarlier, decide_eq_true_eq] <;> omega
    exact hsorted.imp of_decide_eq_true

theorem Lists.mem_iff {listed : List Unlocked} (h : s.Lists viewer listed) {u : Unlocked} :
    u ∈ listed ↔ ∃ c ∈ s.catalogueRows, ∃ r ∈ s.ledger, r.viewer = viewer ∧ r.achievement = c.id ∧ describe c r = u :=
  h.rows.mem_iff.trans mem_described

namespace Timed

/-- The row of a pair is the only one. -/
theorem row_eq (h : s.Timed) {r r' : UnlockRow} (hr : r ∈ s.ledger) (hr' : r' ∈ s.ledger)
    (hviewer : r.viewer = r'.viewer) (hachievement : r.achievement = r'.achievement) : r = r' :=
  List.inj_on_of_nodup_map h.distinct hr hr' (Prod.ext hviewer hachievement)

theorem mem_times_iff (h : s.Timed) {achievement : Int} :
    achievement ∈ (times s.ledger viewer).map Prod.fst ↔ s.Holds viewer achievement := by
  rw [List.mem_map]
  constructor
  · rintro ⟨⟨_, t⟩, ht, rfl⟩
    obtain ⟨_, r, hr, hv, ha, _⟩ := mem_times.mp ht
    exact ⟨r, hr, hv, ha⟩
  · rintro ⟨r, hr, hv, rfl⟩
    exact ⟨(r.achievement, r.time), mem_times.mpr ⟨h.positive r hr, r, hr, hv, rfl, rfl⟩, rfl⟩

theorem mem_listed_iff {listed : List Unlocked} (hlisted : s.Lists viewer listed) {c : CatalogueRow}
    (hc : c ∈ s.catalogueRows) : c.id ∈ listed.map (·.achievement) ↔ s.Holds viewer c.id := by
  rw [List.mem_map]
  constructor
  · rintro ⟨u, hu, heq⟩
    obtain ⟨c', _, r, hr, hv, ha, rfl⟩ := hlisted.mem_iff.mp hu
    exact ⟨r, hr, hv, ha.trans heq⟩
  · rintro ⟨r, hr, hv, ha⟩
    exact ⟨describe c r, hlisted.mem_iff.mpr ⟨c, hc, r, hr, hv, ha, rfl⟩, rfl⟩

/-- Different rows of a viewer are about different achievements, and so are the unlocks that are made of them. -/
theorem nodup_listed (h : s.Timed) (hids : s.Identified) {listed : List Unlocked} (hlisted : s.Lists viewer listed) :
    (listed.map (·.achievement)).Nodup := by
  have hrows : (s.ledger.filter fun r => r.viewer == viewer).Pairwise fun r r' => r.achievement ≠ r'.achievement := by
    refine ((List.pairwise_map.mp h.distinct).filter _).imp_of_mem fun {r r'} hr hr' hne heq => hne ?_
    have hv := beq_iff_eq.mp (List.mem_filter.mp hr).2
    have hv' := beq_iff_eq.mp (List.mem_filter.mp hr').2
    exact Prod.ext (hv.trans hv'.symm) heq
  refine (hlisted.rows.map _).nodup_iff.mpr (List.pairwise_map.mpr ?_)
  unfold described
  refine List.pairwise_flatMap.mpr ⟨fun c _ => List.pairwise_map.mpr ?_, ?_⟩
  · -- one row at most is about one achievement
    refine (hrows.filter _).imp_of_mem fun {r r'} hr hr' hne _ => hne ?_
    rw [beq_iff_eq.mp (List.mem_filter.mp hr).2, beq_iff_eq.mp (List.mem_filter.mp hr').2]
  · refine (List.pairwise_map.mp hids).imp fun {c c'} hne u hu u' hu' => ?_
    obtain ⟨_, _, rfl⟩ := List.mem_map.mp hu
    obtain ⟨_, _, rfl⟩ := List.mem_map.mp hu'
    exact hne

end Timed

end Store

namespace Procedure

variable {w : World}

/-- The pairs that are unlocked, among values of any kind. -/
theorem pairsOf_answers (hready : w.store.Ready) {viewers achievements : Value} {vs as : List Value}
    (hviewers : viewers.elements? = some vs) (hachievements : achievements.elements? = some as) {viewer : String}
    (hv : Value.text viewer ∈ vs) :
    ∃ pairs, (pairsOf viewers achievements).Answers w pairs
      ∧ ∀ achievement, Value.int achievement ∈ as → ((viewer, achievement) ∈ pairs ↔ w.store.Holds viewer achievement) := by
  have hviewer : viewer ∈ Value.texts vs := List.mem_filterMap.mpr ⟨_, hv, rfl⟩
  unfold pairsOf fetchPairs
  rw [hviewers, hachievements]
  dsimp only
  by_cases hempty : as = []
  · -- there is nothing to ask about
    subst hempty
    rw [if_pos (by simp)]
    exact ⟨[], ⟨rfl, rfl⟩, fun _ ha => absurd ha List.not_mem_nil⟩
  · rw [if_neg (by simp [List.ne_nil_of_mem hv, hempty])]
    refine ⟨_, ask_served (Store.refusal?_of_ready hready _) rfl, fun achievement ha => ?_⟩
    exact Store.mem_pairs_iff hviewer (List.mem_filterMap.mpr ⟨_, ha, rfl⟩)

end Procedure

open Procedure Store

/-- **On a ledger that is timed the readers agree.** -/
theorem Store.Timed.readersAgree {w : World} (h : w.store.Timed) (hready : w.store.Ready) (hids : w.store.Identified)
    {viewer : String} {listed : List Unlocked} (hlisted : w.store.Lists viewer listed) :
    ReadersAgree w viewer (times w.store.ledger viewer) listed where
  times_iff achievement := h.mem_times_iff
  listed_iff c hc := (Timed.mem_listed_iff hlisted hc).trans h.mem_times_iff.symm
  pairs_iff viewers achievements vs as hviewers hachievements hv := by
    obtain ⟨pairs, hpairs, hmem⟩ := pairsOf_answers hready hviewers hachievements hv
    exact ⟨pairs, hpairs, fun c _ ha => (hmem c.id ha).trans h.mem_times_iff.symm⟩
  time r hr hv := by
    refine ⟨fun t => ⟨fun ht => ?_, ?_⟩, fun u hu heq => ?_⟩
    · obtain ⟨_, r', hr', hv', ha, rfl⟩ := mem_times.mp ht
      rw [h.row_eq hr' hr (hv'.trans hv.symm) ha]
    · rintro rfl
      exact mem_times.mpr ⟨h.positive r hr, r, hr, hv, rfl, rfl⟩
    · obtain ⟨c, _, r', hr', hv', ha, rfl⟩ := hlisted.mem_iff.mp hu
      rw [h.row_eq hr hr' (hv.trans hv'.symm) (heq.symm.trans ha.symm)]
      rfl
  once := h.nodup_listed hids hlisted
  order := hlisted.latest

/-! ## The times of new rows -/

/-- The clock shows positive times. -/
def Event.Timely : Event → Prop
  | .told t => 0 < t
  | _ => True

/-- A query that inserts a row gives it a positive time. -/
def Query.Stamps : Query → Prop
  | .insertUnlock entry => ∃ r : UnlockRow, entry = r.entry ∧ 0 < r.time
  | _ => True

/-- A step does not insert a row without a positive time. -/
def Event.Stamps : Event → Prop
  | .asked q _ => q.Stamps
  | _ => True

theorem Query.Reads.stamps {q : Query} (h : q.Reads) : q.Stamps := by
  cases q <;> first | exact trivial | exact False.elim h

/-- What is inserted with a positive time has one in the ledger. -/
theorem Query.Stamps.added_positive {q : Query} (h : q.Stamps) (reply : Except StoreFault q.Reply) :
    ∀ r ∈ added q reply, 0 < r.time := by
  intro row hrow
  cases q with
  | insertUnlock entry =>
    obtain ⟨r, rfl, hpos⟩ := h
    rw [eq_of_mem_added hrow]
    exact hpos
  | _ => simp [added] at hrow

namespace Procedure

variable {α : Type} {past : List Event}

/-- Told positive times, a procedure gives positive times to the rows that it inserts. -/
def StampsRows (p : Procedure α) (past : List Event) : Prop :=
  p.Abides Event.Timely (fun _ e => e.Stamps) past fun _ _ => True

theorem Asks.stamps {p : Procedure α} (h : p.Asks Query.Stamps) : p.StampsRows past :=
  h.abides (fun _ _ hq => hq) (fun _ => trivial) fun _ => trivial

theorem ask_stamps (q : Query) (h : q.Stamps) : (ask q).StampsRows past := (asks_ask h).stamps

theorem awardBy_stamps (viewers : List String) (source sourceRef : String) (rules : List Rule) :
    (awardBy viewers source sourceRef rules).StampsRows past := by
  unfold awardBy
  split
  · exact (asks_done _).stamps
  · refine abides_seq ((takeSnapshots_asks _ _).mono fun _ => Query.Reads.stamps).stamps fun _ snapshots _ => ?_
    refine abides_seq ((fetchPairs_asks _ _).mono fun _ => Query.Reads.stamps).stamps fun _ existing _ => ?_
    -- from here on the time is known to be positive
    refine abides_seq (abides_readClock (Q := fun _ t => 0 < t) (fun _ => trivial) fun _ ht => ht) fun _ time htime => ?_
    refine ((unlockAll_asks_of (fun viewer achievement => ?_) _ _).bind fun us => ?_ : Asks Query.Stamps _).stamps
    · exact ⟨_, rfl, htime⟩
    · split
      · exact (asks_write _ _).bind fun _ => asks_done _
      · exact asks_done _

theorem awardIds_stamps (viewers : List String) (source sourceRef : String) :
    (awardIds viewers source sourceRef).StampsRows past := by
  unfold awardIds
  split
  · exact (asks_done _).stamps
  · refine Abides.rescue ?_ fun es fault => (nothingAwarded_asks fault).stamps
    rw [awardPass_eq]
    refine abides_seq (ask_stamps .activeAchievements trivial) fun _ as _ => ?_
    exact abides_seq (compile_asks true as).stamps fun _ rules _ => awardBy_stamps _ _ _ rules

theorem award_stamps (viewers source sourceRef : Value) : (award viewers source sourceRef).StampsRows past := by
  unfold award
  split
  · exact (asks_raise _).stamps
  · exact awardIds_stamps _ _ _

theorem recordAction_stamps (viewer key : Value) : (recordAction viewer key).StampsRows past := by
  unfold recordAction
  split
  · exact (asks_done _).stamps
  · rw [countAndAward_eq]
    refine abides_seq asks_readClock.stamps fun _ time _ => ?_
    refine abides_seq (ask_stamps (.countAction _) trivial) fun _ count _ => ?_
    unfold awardCounted
    refine abides_seq (asks_write _ _).stamps fun _ _ _ => ?_
    refine abides_seq ((awardIds_stamps _ _ _).rescue fun _ _ => ?_) fun _ _ _ => (asks_done _).stamps
    exact ((asks_write _ _).bind fun _ => asks_done _ : Asks Query.Stamps _).stamps

end Procedure

/-- **A call that awards gives positive times to its rows,** if the clock shows it positive times. -/
theorem Call.stamps {c : Call} (hc : c.Awards) (past : List Event) : c.procedure.StampsRows past := by
  cases c with
  | award viewers source sourceRef => exact abides_map (award_stamps _ _ _)
  | awardRace competition viewers =>
    refine abides_map ((award_stamps _ _ _).rescue fun _ _ => ?_)
    exact ((asks_write _ _).bind fun _ => asks_done _ : Asks Query.Stamps _).stamps
  | record viewer key => exact abides_map (recordAction_stamps _ _)
  | _ => exact False.elim hc

/-! ## Runs -/

theorem mem_timesIn {t : Int} {es : List Event} : t ∈ timesIn es ↔ .told t ∈ es := by
  induction es with
  | nil => simp
  | cons e es ih => cases e <;> simp [ih]

/-- A query keeps a ledger timed if what it inserts has a positive time. -/
theorem Store.Timed.answer {s : Store} (h : s.Timed) {q : Query} (hq : q.Stamps) : (s.answer q).2.Timed where
  positive := by
    rw [ledger_answer, List.forall_mem_append]
    exact ⟨h.positive, hq.added_positive _⟩
  distinct := distinct_answer h.distinct q

section

variable {outside : World → World → Prop} {calls : List Call} {w v : World} {es : List (Nat × Event)}
  {qs : List (Procedure Answer)}

/-- **Calls that award keep a ledger timed.** -/
theorem Interleaving.timed (hout : SparesLedger outside) (hcalls : ∀ c ∈ calls, c.Awards)
    (h : Interleaving outside (calls.map Call.procedure) w es qs v)
    (hclock : ∀ t ∈ timesIn (es.map Prod.snd), 0 < t) (hw : w.store.Timed) : v.store.Timed := by
  -- each step belongs to one of the calls, and abides by what is said of it
  have hstamps : ∀ i e, (i, e) ∈ es → e.Stamps := by
    intro i e hmem
    have hi : i < calls.length := by simpa using h.lt_length hmem
    obtain ⟨q, _, hf⟩ := h.follows_call (List.getElem?_eq_getElem hi)
    refine (Call.stamps (hcalls _ (List.getElem_mem hi)) []).each hf (fun e' he' => ?_) e (mem_own.mpr hmem)
    cases e' with
    | told t => exact hclock t (mem_timesIn.mpr (List.mem_map.mpr ⟨_, mem_own.mp he', rfl⟩))
    | _ => exact trivial
  refine (h.invariant (P := Store.Timed) (fun u u' hu hs => ?_) ?_ hw).1
  · have hledger := hout u u' hu
    exact ⟨by rw [hledger]; exact hs.positive, by rw [hledger]; exact hs.distinct⟩
  · rintro s q ⟨⟨i, e⟩, hmem, rfl⟩ hs
    exact hs.answer (hstamps i _ hmem)

/-- A clock that shows a positive time and does not go back shows positive times. -/
theorem Interleaving.timely (hout : ∀ w u, outside w u → u.clock = w.clock) {ps : List (Procedure Answer)}
    (h : Interleaving outside ps w es qs v) (hms : 0 < w.clock.ms) (htick : 0 ≤ w.clock.tick) :
    ∀ t ∈ timesIn (es.map Prod.snd), 0 < t := by
  induction h with
  | start ps w => exact fun t ht => absurd ht List.not_mem_nil
  | step turn takes answers rest ih =>
    cases answers with
    | asked q => exact ih hms htick
    | wrote line => exact ih hms htick
    | told =>
      have hlater := ih (Int.lt_of_lt_of_le hms (Int.le_add_of_nonneg_right htick)) htick
      exact fun t ht => (List.mem_cons.mp ht).elim (fun heq => heq ▸ hms) (hlater t)
  | outside change rest ih =>
    rw [hout _ _ change] at ih
    exact ih hms htick

/--
**The readers of the ledger agree.** Calls that award are under way, one after the other or side by side, from a world
whose ledger is timed; what happens elsewhere leaves the ledger alone, and the clock shows positive times. Once all
tables are there, the times of the unlocks of any viewer are told, and the unlocks are listed. In whichever order
simultaneous ones are listed, the list agrees with the times, with the pairs that are unlocked, and with the ledger.
-/
theorem readers_agree (hout : SparesLedger outside) (hcalls : ∀ c ∈ calls, c.Awards) (hw : w.store.Timed)
    (h : Interleaving outside (calls.map Call.procedure) w es qs v)
    (hclock : ∀ t ∈ timesIn (es.map Prod.snd), 0 < t) (hready : v.store.Ready) (hids : v.store.Identified)
    {viewer : Value} (hviewer : Viewer.id viewer ≠ "") :
    ∃ times listed, (ask (.unlockTimes (.text (Viewer.id viewer)))).Answers v times
      ∧ (listUnlocked viewer).Answers v listed ∧ v.store.Lists (Viewer.id viewer) listed
      ∧ ∀ listed', v.store.Lists (Viewer.id viewer) listed' → ReadersAgree v (Viewer.id viewer) times listed' := by
  refine ⟨_, _, ask_served (Store.refusal?_of_ready hready _) rfl, ?_, lists_unlockedList v.store (Viewer.id viewer),
    fun _ hlisted => (h.timed hout hcalls hclock hw).readersAgree hready hids hlisted⟩
  unfold listUnlocked
  rw [if_neg (by simpa using hviewer)]
  exact ask_served (Store.refusal?_of_ready hready _) rfl

end

/-- A viewer has unlocked an achievement that is disabled by now, and has two others due. -/
def shelvedWorld : World where
  store :=
    { results := some [⟨1, "v1", some 1, "FINISHED"⟩]
      catalogue := some [⟨4, "Racer", some "Race once", false, "races>=1"⟩, ⟨2, "Shelved", none, true, "races>=1"⟩,
        ⟨1, "First", none, false, "wins>=1"⟩, ⟨7, "Spinner", none, false, "action:spin>=1"⟩]
      unlocks := some [⟨"v1", 2, 5, none, none⟩]
      actions := some []
      failing := [] }
  clock := ⟨100, 1⟩
  queries := []
  log := []

/-- An award for the viewer, who then acts, and an award for a race. -/
def shelvedCalls : List Call :=
  [.award (.list [.text "v1"]) .null .null, .record (.text " v1 ") (.text "spin"),
    .awardRace (.text "1") (.list [.text "v1", .text "v2"])]

/-- The calls run one after the other. Two unlocks are simultaneous. -/
theorem readers_agree_shelved :
    shelvedWorld.store.Timed ∧ (∀ c ∈ shelvedCalls, c.Awards)
      ∧ ∃ times listed, (ask (.unlockTimes (.text "v1"))).Answers (shelvedWorld.afterTurns shelvedCalls) times
        ∧ (listUnlocked (.text "v1 ")).Answers (shelvedWorld.afterTurns shelvedCalls) listed
        ∧ ReadersAgree (shelvedWorld.afterTurns shelvedCalls) "v1" times listed
        ∧ ReadersAgree (shelvedWorld.afterTurns shelvedCalls) "v1" times
          [⟨7, 102, "Spinner", ""⟩, ⟨1, 100, "First", ""⟩, ⟨4, 100, "Racer", "Race once"⟩, ⟨2, 5, "Shelved", ""⟩] := by
  have htimed : shelvedWorld.store.Timed := ⟨by decide, by decide⟩
  have hcalls : ∀ c ∈ shelvedCalls, c.Awards := by
    intro c hc
    simp only [shelvedCalls, List.mem_cons, List.not_mem_nil, or_false] at hc
    rcases hc with rfl | rfl | rfl <;> exact trivial
  have hready : shelvedWorld.store.Ready := by decide
  have hid : Viewer.id (.text "v1 ") = "v1" := by decide +kernel
  have hviewer : Viewer.id (.text "v1 ") ≠ "" := by rw [hid]; decide
  obtain ⟨es, h⟩ := interleaving_finish (fun _ _ => False) (shelvedCalls.map Call.procedure) [] shelvedWorld
  change Interleaving _ _ _ _ _ (shelvedWorld.afterTurns shelvedCalls) at h
  have hlast := (h.inOrder keepsStore_never hready).1
  have hids : (shelvedWorld.afterTurns shelvedCalls).store.Identified := by decide +kernel
  have hclock := h.timely (fun _ _ hno => False.elim hno) (by decide) (by decide)
  obtain ⟨times, listed, htold, hshown, hlists, hagree⟩ :=
    readers_agree (fun _ _ hno => False.elim hno) hcalls htimed h hclock hlast.1 hids hviewer
  rw [hid] at htold hlists hagree
  -- the order of ids is one of those that would do
  have hother : (shelvedWorld.afterTurns shelvedCalls).store.Lists "v1"
      [⟨7, 102, "Spinner", ""⟩, ⟨1, 100, "First", ""⟩, ⟨4, 100, "Racer", "Race once"⟩, ⟨2, 5, "Shelved", ""⟩] := by
    decide +kernel
  exact ⟨htimed, hcalls, times, listed, htold, hshown, hagree listed hlists, hagree _ hother⟩

/-- **Simultaneous unlocks come in any order.** The list that is shown here has two of them against the order of their
ids, and with that order it would do as well. -/
theorem simultaneous_unlocks :
    ∃ listed, ((listUnlocked (.text "v1")).run (shelvedWorld.afterTurns shelvedCalls)).1.toOption = some listed
      ∧ (shelvedWorld.afterTurns shelvedCalls).store.Lists "v1" listed
      ∧ ¬ listed.Pairwise (fun a b => b.time < a.time ∨ a.time = b.time ∧ a.achievement < b.achievement)
      ∧ (shelvedWorld.afterTurns shelvedCalls).store.Lists "v1"
        [⟨7, 102, "Spinner", ""⟩, ⟨1, 100, "First", ""⟩, ⟨4, 100, "Racer", "Race once"⟩, ⟨2, 5, "Shelved", ""⟩] := by
  refine ⟨[⟨7, 102, "Spinner", ""⟩, ⟨4, 100, "Racer", "Race once"⟩, ⟨1, 100, "First", ""⟩, ⟨2, 5, "Shelved", ""⟩],
    ?_, ?_, ?_, ?_⟩
  · decide +kernel
  · decide +kernel
  · decide
  · decide +kernel

end Laurels
