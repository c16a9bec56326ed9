import Laurels.Proofs.Conduct
import Laurels.Proofs.ReportRun
import Laurels.Proofs.Shown
import Laurels.Proofs.Store.Growth
import Laurels.Store.Edit

/-!
# What lasts

Calls of all kinds are under way, one after the other or side by side. Some fail, because tables are missing or
out of reach or because what they are given is no use, and meanwhile results are saved, the catalogue is
edited, and the clock is set. Through all of this the rows of the ledger stay as they are, no pair is held
twice, and counters only grow. `permanent` says it of any two moments of a run.

A viewer sees it in reports. A report reads the times of unlocks in a query of its own, whose reply comes from a
later store than the one that first held a row; so the report shows that row, and the achievement as complete,
whatever has become of the results and counters on which it was awarded. Nothing is assumed of the criteria
or of the tables for this: a report that cannot be made is not made (`reportFor_abides`).
-/

namespace Laurels

/-- What happens elsewhere while calls are under way. It may be anything that leaves the ledger and the counters
alone: time passes, tables go out of reach and come back, results are saved, the catalogue is edited. -/
def Elsewhere (w u : World) : Prop := u.store.unlocks = w.store.unlocks ∧ u.store.actions = w.store.actions

theorem elsewhere_addResults (w : World) (viewer : String) (position : Option Int) (status : String) (times : Nat) :
    Elsewhere w { w with store := w.store.addResults viewer position status times } := ⟨rfl, rfl⟩

/-- A report shows every unlock of its viewer that has a positive time, and the achievement as complete. -/
def Report.Honours (r : Report) (ledger : List UnlockRow) : Prop :=
  ∀ row ∈ ledger, row.viewer = r.viewer → 0 < row.time → ∀ e ∈ r.entries, e.achievement.id = row.achievement →
    e.unlockedAt = row.time ∧ e.overall = .one

namespace Store

/-- A store later on, whose ledger holds no pair twice. -/
def Later (s₀ s : Store) : Prop := s₀.Grows s ∧ (s.ledger.map UnlockRow.pair).Nodup

theorem distinct_answer {s : Store} (h : (s.ledger.map UnlockRow.pair).Nodup) (q : Query) :
    ((s.answer q).2.ledger.map UnlockRow.pair).Nodup := by
  rw [ledger_answer]
  rcases added_answer s q with hnone | ⟨row, hrow, hfresh⟩
  · rwa [hnone, List.append_nil]
  · rw [hrow, List.map_append, List.nodup_append_comm]
    refine List.nodup_cons.mpr ⟨fun hmem => hfresh ?_, h⟩
    obtain ⟨row', hrow', hpair⟩ := List.mem_map.mp hmem
    exact ⟨row', hrow', (Prod.mk.inj hpair).1, (Prod.mk.inj hpair).2⟩

theorem later_answer {s₀ s : Store} (h : Later s₀ s) (q : Query) : Later s₀ (s.answer q).2 :=
  ⟨h.1.trans (grows_answer s q), distinct_answer h.2 q⟩

theorem later_elsewhere {s₀ : Store} {w u : World} (h : Elsewhere w u) (hw : Later s₀ w.store) :
    Later s₀ u.store := by
  have hledger : u.store.ledger = w.store.ledger := congrArg (·.getD []) h.1
  have hcounters : u.store.counterRows = w.store.counterRows := congrArg (·.getD []) h.2
  refine ⟨⟨?_, ?_⟩, ?_⟩
  · rw [hledger]
    exact hw.1.ledger
  · rw [hcounters]
    exact hw.1.counters
  · rw [hledger]
    exact hw.2

/-- The times that a later store tells include those of all earlier rows. -/
theorem unlockTime_of_reply {s₀ : Store} {viewer : String} {times : List (Int × Int)}
    (hreply : (Event.asked (.unlockTimes (.text viewer)) (.ok times)).From (Later s₀)) {row : UnlockRow}
    (hrow : row ∈ s₀.ledger) (hviewer : row.viewer = viewer) (htime : 0 < row.time) :
    unlockTime times row.achievement = row.time := by
  obtain ⟨s, hs, hr⟩ := hreply
  have htimes : Store.times s.ledger viewer = times :=
    congrArg Prod.fst (Except.ok.inj (serve_of_answer_eq_ok hr.symm))
  rw [← htimes, ← hviewer]
  exact unlockTime_of_mem hs.2 (hs.1.ledger.subset hrow) htime

end Store

/-- Calls may be under way from `u` on, and others have been before. -/
theorem Interleaving.later {α : Type} {ps qs : List (Procedure α)} {u v : World} {es : List (Nat × Event)}
    (h : Interleaving Elsewhere ps u es qs v) (hdistinct : (u.store.ledger.map UnlockRow.pair).Nodup) :
    Store.Later u.store v.store ∧ ∀ x ∈ es, x.2.From (Store.Later u.store) :=
  h.invariant (fun _ _ => Store.later_elsewhere) (fun _ q _ hs => Store.later_answer hs q) ⟨.refl _, hdistinct⟩

/-! ## Reports -/

namespace Procedure

variable {allowed : Event → Prop} {past : List Event}

/-- **Whatever a report is answered,** its entries show the times that the query for them has told. -/
theorem reportFor_abides (viewer : String) :
    (reportFor viewer).Abides allowed (fun _ _ => True) past fun _ r => r.viewer = viewer
      ∧ ∃ times, allowed (.asked (.unlockTimes (.text viewer)) (.ok times))
        ∧ ∀ e ∈ r.entries, e.unlockedAt = unlockTime times e.achievement.id
          ∧ (0 < e.unlockedAt → e.overall = .one) := by
  unfold reportFor
  refine abides_seq (abides_any _) fun _ achievements _ => ?_
  refine abides_seq (abides_any _) fun _ rules _ => ?_
  refine abides_seq (abides_any _) fun _ snapshots _ => ?_
  refine abides_seq (R := fun _ times => allowed (.asked (.unlockTimes (.text viewer)) (.ok times)))
    (abides_ask (fun _ _ => trivial) fun times htimes => htimes) fun _ times htimes => ?_
  refine abides_seq (abides_compute (Q := fun _ entries =>
    rules.mapM (fun r => Entry.of ((snapshots.lookup viewer).getD .empty) (unlockTime times r.achievement.id) r)
      = .ok entries) fun _ h => h) fun _ entries hentries => ?_
  refine abides_done ⟨rfl, times, htimes, fun e he => ?_⟩
  -- the entry was computed from some rule, with the time of that rule's achievement
  have hmem : (Except.ok e : Except NumberFault Entry) ∈ entries.map .ok := List.mem_map_of_mem he
  rw [← map_eq_map_ok hentries] at hmem
  obtain ⟨rule, _, hrule⟩ := List.mem_map.mp hmem
  have htells := tells_of_entry hrule
  rw [htells.unlockedAt, htells.achievement]
  exact ⟨rfl, fun hpos => htells.overall (Or.inl hpos)⟩

theorem report_abides {s₀ : Store} (past : List Event) (viewer : Value) :
    (report viewer).Abides (Event.From (Store.Later s₀)) (fun _ _ => True) past fun _ r =>
      r.viewer = Viewer.id viewer ∧ r.Honours s₀.ledger := by
  unfold report
  split
  · exact abides_raise _ _
  · refine (reportFor_abides _).mono ?_
    rintro _ r ⟨hviewer, times, htimes, hentries⟩
    refine ⟨hviewer, fun row hrow hrowviewer hpos e he hid => ?_⟩
    obtain ⟨htime, hone⟩ := hentries e he
    rw [hviewer] at hrowviewer
    rw [hid, Store.unlockTime_of_reply htimes hrow hrowviewer hpos] at htime
    exact ⟨htime, hone (htime ▸ hpos)⟩

end Procedure

namespace Web

open Procedure

/-- A successful response to a question for progress is made of a report, and shows all of it. -/
def Tells (viewer : String) (ledger : List UnlockRow) (response : Response) : Prop :=
  ∃ (time : Int) (r : Report), response = accept (("serverTimeMs", .int time) :: r.fields)
    ∧ r.ShownBy response.body ∧ r.viewer = viewer ∧ r.Honours ledger

theorem reportFailed_abides {allowed : Event → Prop} {past : List Event} (viewer : String) (fault : Fault) :
    (reportFailed viewer fault).Abides allowed (fun _ _ => True) past fun _ result =>
      ∃ response, result = .error response ∧ response.status ≠ 200 := by
  unfold reportFailed
  split
  · exact abides_done ⟨_, rfl, fun h => absurd h (by decide : ¬ 503 = 200)⟩
  · exact abides_done ⟨_, rfl, fun h => absurd h (by decide : ¬ 400 = 200)⟩
  · exact abides_seq (abides_any _) fun _ _ _ =>
      abides_done ⟨_, rfl, fun h => absurd h (by decide : ¬ 500 = 200)⟩

theorem progress_abides {s₀ : Store} (past : List Event) (viewer : String) :
    (progress viewer).Abides (Event.From (Store.Later s₀)) (fun _ _ => True) past fun _ response =>
      response.status = 200 → Tells (Viewer.id (.text viewer)) s₀.ledger response := by
  unfold progress
  split
  · exact abides_done fun h => absurd h (by decide)
  · have hreport : (((report (.text viewer)).bind fun r => .done (.ok r)).rescue (reportFailed viewer)).Abides
        (Event.From (Store.Later s₀)) (fun _ _ => True) past fun _ result =>
          (∃ response, result = .error response ∧ response.status ≠ 200)
            ∨ ∃ r, result = .ok r ∧ r.viewer = Viewer.id (.text viewer) ∧ r.Honours s₀.ledger :=
      Abides.rescue (abides_seq (report_abides _ (.text viewer)) fun _ r hr => abides_done (Or.inr ⟨r, rfl, hr⟩))
        fun es fault => (reportFailed_abides viewer fault).mono fun _ _ h => Or.inl h
    refine abides_seq hreport ?_
    rintro _ _ (⟨response, rfl, hstatus⟩ | ⟨r, rfl, hviewer, hr⟩)
    · exact abides_done fun h => absurd h hstatus
    · exact abides_seq (abides_readClock (Q := fun _ _ => True) (fun _ => trivial) fun _ _ => trivial)
        fun _ time _ => abides_done fun _ => ⟨time, r, rfl, r.shownBy_accept time, hviewer, hr⟩

theorem exchange_progress {m : Message} {request : Request} (hm : m.arrival? = some request)
    (hmethod : request.method = "GET") (hroute : Route.ofPath? request.path = some .progress) :
    exchange m = returned "GET" <$> progress request.viewer := by
  have hfree : request.method ≠ "OPTIONS" := by
    rw [hmethod]
    decide
  have hanswers : Route.progress.methods.contains request.method = true := by
    rw [hmethod]
    decide
  rw [exchange_of_route hm hfree hroute hanswers, hmethod]
  rfl

end Web

/-! ## Runs -/

/-- What lasts when a run of calls has come from one world to another and goes on to a third. The record `es` is
that of the whole run. -/
structure Permanent (calls : List Call) (es : List (Nat × Event)) (ms : List (Procedure Answer)) (u : World)
    (qs : List (Procedure Answer)) (v : World) : Prop where
  /-- The rows of the ledger stay as they are. -/
  ledger : u.store.ledger <+: v.store.ledger
  /-- No pair is held twice. -/
  distinct : (v.store.ledger.map UnlockRow.pair).Nodup
  /-- Counters stay and grow, and the time at which they were first moved is not changed. -/
  counters : ∀ r ∈ u.store.counterRows, ∃ r' ∈ v.store.counterRows, r.Grown r'
  /-- Calls that only read change nothing, at any step that they take and in whatever store. -/
  reading : ∀ i c, calls[i]? = some c → c.Reads → ∀ q reply, (i, .asked q reply) ∈ es →
    ∀ s : Store, (s.answer q).2 = s
  /-- Alone they leave all tables as they are. -/
  alone : ∀ c ∈ calls, c.Reads → ∀ w, (c.procedure.run w).2.store = w.store
  /-- A report that is made from now on shows all unlocks that have a positive time by now. -/
  reported : ∀ (i : Nat) (viewer : Value) (r : Report), ms[i]? = some (Call.progress viewer).procedure →
    qs[i]? = some (.done (.report r)) → r.viewer = Viewer.id viewer ∧ r.Honours u.store.ledger
  /-- So does a report that the service gives in response to a request. -/
  responded : ∀ (i : Nat) (m : Web.Message) (request : Web.Request) (response : Web.Response),
    ms[i]? = some (Call.web m).procedure → m.arrival? = some request → request.method = "GET" →
      Web.Route.ofPath? request.path = some .progress → qs[i]? = some (.done (.response response)) →
        response.status = 200 → Web.Tells (Viewer.id (.text request.viewer)) u.store.ledger response

/--
**Unlocks are permanent, and counters only grow.** Calls of any kinds are under way from a world whose ledger
holds no pair twice; their steps come in any order, and what happens elsewhere leaves the ledger and the
counters alone. Then what the ledger and the counters hold at some moment of the run lasts to every later one,
and reports show it.
-/
theorem permanent {calls : List Call} {w u v : World} {es₁ es₂ : List (Nat × Event)}
    {ms qs : List (Procedure Answer)} (hdistinct : (w.store.ledger.map UnlockRow.pair).Nodup)
    (h₁ : Interleaving Elsewhere (calls.map Call.procedure) w es₁ ms u)
    (h₂ : Interleaving Elsewhere ms u es₂ qs v) : Permanent calls (es₁ ++ es₂) ms u qs v := by
  obtain ⟨⟨hgrows, hv⟩, hfrom⟩ := h₂.later (h₁.later hdistinct).1.2
  have hown : ∀ i, ∀ e ∈ own i es₂, e.From (Store.Later u.store) :=
    fun i e he => hfrom _ (mem_own.mp he)
  refine ⟨hgrows.ledger, hv, fun r => hgrows.counters.exists_grown, ?_, fun c _ hc w => hc.asks.run_store w, ?_, ?_⟩
  · intro i c hc hreads q reply hmem s
    obtain ⟨p, _, hf⟩ := (h₁.trans h₂).follows_call hc
    exact Store.answer_of_reads (hreads.asks.adequate hf (mem_own.mpr hmem))
  · intro i viewer r hms hqs
    obtain ⟨q, hq, hf⟩ := h₂.follows hms
    rw [hqs] at hq
    cases hq
    have habides := Procedure.abides_map (f := Answer.report) (Q := fun _ answer =>
      ∃ r, answer = .report r ∧ r.viewer = Viewer.id viewer ∧ r.Honours u.store.ledger)
      ((Procedure.report_abides [] viewer).mono fun _ r hr => ⟨r, rfl, hr⟩)
    obtain ⟨r', hr', hreport⟩ := (habides.follows hf (hown i)).answered
    cases hr'
    exact hreport
  · intro i m request response hms hm hmethod hroute hqs hstatus
    obtain ⟨q, hq, hf⟩ := h₂.follows hms
    rw [hqs] at hq
    cases hq
    have habides := Procedure.abides_map (f := Answer.response) (Q := fun _ answer =>
      ∃ response, answer = .response response ∧ (response.status = 200 →
        Web.Tells (Viewer.id (.text request.viewer)) u.store.ledger response))
      (Procedure.abides_map (f := Web.returned "GET") ((Web.progress_abides [] request.viewer).mono
        fun _ response h => ⟨response, rfl, h⟩))
    have hproc : (Call.web m).procedure = .response <$> (Web.returned "GET" <$> Web.progress request.viewer) := by
      rw [← Web.exchange_progress hm hmethod hroute]
      rfl
    rw [hproc] at hf
    obtain ⟨response', hr', htells⟩ := (habides.follows hf (hown i)).answered
    cases hr'
    exact htells hstatus

/-- A viewer who has not raced is one action short of an achievement. -/
def newcomerWorld : World where
  store :=
    { results := some []
      catalogue := some [⟨1, "Keen", none, false, "action:k>=3; races<=0"⟩]
      unlocks := some []
      actions := some [⟨"v1", "k", 2, some 5, some 6⟩]
      failing := [] }
  clock := ⟨100, 1⟩
  queries := []
  log := []

/-- The action that is missing, and a report on the viewer. -/
def newcomerCalls : List Call := [.record (.text "v1") (.text "k"), .progress (.text "v1")]

/-- The world after the action. -/
def actedWorld : World := ((Call.record (.text "v1") (.text "k")).procedure.run newcomerWorld).2

/-- The world after the viewer has raced as well. -/
def racedWorld : World :=
  { actedWorld with store := actedWorld.store.addResults "v1" (some 2) "FINISHED" 1 }

/-- A viewer who has unlocked an achievement is not eligible for it any more, and still it is shown as complete. -/
theorem permanent_newcomer :
    (newcomerWorld.store.ledger.map UnlockRow.pair).Nodup
      ∧ actedWorld.store.ledger = [⟨"v1", 1, 101, some "action", some "k"⟩]
      ∧ (((report (.text "v1")).run racedWorld).1.toOption.map fun r =>
          r.entries.map fun e => (e.unlockedAt, e.eligible, e.overall)) = some [(101, false, .one)]
      ∧ ∃ es, Permanent newcomerCalls es
          [.ended ((Call.record (.text "v1") (.text "k")).procedure.run newcomerWorld).1,
            (Call.progress (.text "v1")).procedure] actedWorld
          [.ended ((Call.record (.text "v1") (.text "k")).procedure.run newcomerWorld).1,
            .ended ((Call.progress (.text "v1")).procedure.run racedWorld).1]
          ((Call.progress (.text "v1")).procedure.run racedWorld).2 := by
  have hdistinct : (newcomerWorld.store.ledger.map UnlockRow.pair).Nodup := List.nodup_nil
  obtain ⟨es₁, h₁⟩ := turn_run Elsewhere (Call.record (.text "v1") (.text "k")).procedure newcomerWorld
  obtain ⟨es₂, h₂⟩ := turn_run Elsewhere (Call.progress (.text "v1")).procedure racedWorld
  refine ⟨hdistinct, by decide +kernel, by decide +kernel, es₁.map (Prod.mk 0) ++ es₂.map (Prod.mk 1), ?_⟩
  -- what the runs come to does not matter, and must not be computed
  generalize Procedure.ended ((Call.record (.text "v1") (.text "k")).procedure.run newcomerWorld).1 = acted at h₁ ⊢
  generalize Procedure.ended ((Call.progress (.text "v1")).procedure.run racedWorld).1 = reported at h₂ ⊢
  have hbefore : Interleaving Elsewhere (newcomerCalls.map Call.procedure) newcomerWorld (es₁.map (Prod.mk 0))
      [acted, (Call.progress (.text "v1")).procedure] actedWorld :=
    h₁.behind [] [(Call.progress (.text "v1")).procedure]
  -- the race is saved after the action and before the report
  have hafter : Interleaving Elsewhere [acted, (Call.progress (.text "v1")).procedure] actedWorld
      (es₂.map (Prod.mk 1)) [acted, reported] ((Call.progress (.text "v1")).procedure.run racedWorld).2 :=
    .outside (elsewhere_addResults actedWorld "v1" (some 2) "FINISHED" 1) (h₂.behind [acted] [])
  exact permanent hdistinct hbefore hafter

end Laurels
