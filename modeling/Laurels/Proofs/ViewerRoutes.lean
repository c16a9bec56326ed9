import Laurels.Proofs.Pipeline
import Laurels.Proofs.Shown
import Laurels.Proofs.ViewerIds

/-!
# The routes of a viewer

Three routes are for the viewer whom a header names. Without a name in it they answer at once: nothing is asked, read or
written (`respond_unnamed`).

The route of progress has an answer to everything else. `ProgressAnswered` says which: it depends on the first query of
the report that fails, if one does, and else on whether there is a report. Only a missing table is told as such. Every
other fault that can end a report refuses nothing, and so it becomes one and the same response (`reportFailed_broken`).

A client tells the answers apart by their status and by what their body says: the code of a refusal, or the viewer whom
the report is about.

`viewer_routes_answered` is the main statement.
-/

namespace Laurels

namespace Web

open Procedure

/-- The header does not name a viewer: it is absent, or blank. -/
def Request.Unnamed (r : Request) : Prop := ∀ text, r.header? viewerHeader = some text → Text.trimmed text = ""

/-- The routes for the viewer whom a header names. -/
def Route.OfViewer : Route → Prop
  | .unlocked | .progress | .action _ => True
  | _ => False

theorem Request.viewer_eq_empty_iff {r : Request} : r.viewer = "" ↔ r.Unnamed := by
  unfold Request.viewer Request.Unnamed
  cases r.header? viewerHeader with
  | none => exact ⟨nofun, fun _ => rfl⟩
  | some text => simp

theorem Request.id_viewer (r : Request) : Viewer.id (.text r.viewer) = r.viewer := by
  unfold Viewer.id Request.viewer
  rw [Value.asText_text, Text.trimmed_trimmed]

variable {m : Message} {request : Request} {route : Route}

/-- A route for a viewer answers requests of one method. -/
theorem Route.OfViewer.method (h : route.OfViewer) {method : String}
    (hanswers : route.methods.contains method = true) : method = "GET" ∨ method = "POST" := by
  cases route with
  | unlocked => exact Or.inl (List.mem_singleton.mp (List.contains_iff_mem.mp hanswers))
  | progress => exact Or.inl (List.mem_singleton.mp (List.contains_iff_mem.mp hanswers))
  | action key => exact Or.inr (List.mem_singleton.mp (List.contains_iff_mem.mp hanswers))
  | _ => exact False.elim h

theorem respond_unnamed (h : route.OfViewer) (hviewer : request.viewer = "") :
    respond request route = .done anonymous := by
  cases route with
  | unlocked => rw [respond, hviewer]; rfl
  | progress => rw [respond, hviewer]; rfl
  | action key => rw [respond, hviewer]; rfl
  | _ => exact False.elim h

/-- What a route for a viewer responds is returned as it is. -/
theorem exchange_of_viewer (hm : m.arrival? = some request) (hroute : Route.ofPath? request.path = some route)
    (h : route.OfViewer) (hanswers : route.methods.contains request.method = true) :
    exchange m = returned request.method <$> respond request route
      ∧ ∀ response, returned request.method response = response := by
  have hmethod : request.method ≠ "OPTIONS" ∧ request.method ≠ "HEAD" := by
    rcases h.method hanswers with heq | heq <;> rw [heq] <;> decide
  exact ⟨exchange_of_route hm hmethod.1 hroute hanswers, fun _ => if_neg hmethod.2⟩

/-! ## Progress -/

/-- The response to a report that failed for a reason of the service's own. -/
def serverError (fault : Fault) : Response :=
  refuse 500 "server_error" "Failed to compute achievement progress." fault.message

/-- The response that a report on a viewer amounts to, however it is made. -/
def shown (viewer : String) (making : Procedure Report) : Procedure Response := do
  match ← (making.bind fun r => .done (.ok r)).rescue (reportFailed viewer) with
  | .error response => pure response
  | .ok r =>
    let time ← .readClock
    pure (accept (("serverTimeMs", .int time) :: r.fields))

theorem progress_eq {viewer : String} (h : viewer ≠ "") : progress viewer = shown viewer (report (.text viewer)) := by
  unfold progress shown
  exact if_neg (by simpa using h)

section

variable {making : Procedure Report} {w : World} {viewer : String}

/-- A report that was made is told, with the time. -/
theorem shown_made (viewer : String) {r : Report} (h : (making.run w).1 = .ok r) : ∃ time, (shown viewer making).run w
    = (.ok (accept (("serverTimeMs", .int time) :: r.fields)), (making.run w).2.readClock.2) := by
  have hmade : (making.bind fun r => .done (.ok r : Except Response Report)).run w
      = (.ok (.ok r), (making.run w).2) := run_seq h
  have hkept := (run_rescue_of_ok (congrArg Prod.fst hmade) (reportFailed viewer)).trans hmade
  refine ⟨(making.run w).2.clock.ms, ?_⟩
  unfold shown
  rw [run_seq (congrArg Prod.fst hkept), hkept]
  rfl

/-- A fault of a report becomes a response. -/
theorem shown_failed {fault : Fault} (h : (making.run w).1 = .error fault) {response : Response} {v : World}
    (hfailed : (reportFailed viewer fault).run (making.run w).2 = (.ok (.error response), v)) :
    (shown viewer making).run w = (.ok response, v) := by
  have hmade : (making.bind fun r => .done (.ok r : Except Response Report)).run w
      = (.error fault, (making.run w).2) := run_seq_of_error h _
  have hrescued := run_rescue_of_error (congrArg Prod.fst hmade) (reportFailed viewer)
  rw [hmade] at hrescued
  have hresult := hrescued.trans hfailed
  unfold shown
  rw [run_seq (congrArg Prod.fst hresult), hresult]
  rfl

/-- A fault that refuses nothing is one of the service's own. -/
theorem reportFailed_broken {fault : Fault} (h : fault.refusal? = none) (viewer : String) (w : World) :
    ∃ line, (reportFailed viewer fault).run w = (.ok (.error (serverError fault)), w.write line) := by
  refine ⟨⟨.error, "❌ [ACH-PROGRESS] Progress failed for viewer " ++ viewer⟩, ?_⟩
  unfold reportFailed
  split
  · cases h
  · cases h
  · rfl

end

end Web

namespace Store

/-- The first query of a report on a viewer that fails does so because a table is missing. -/
def Unmigrated (s : Store) (viewer : String) : Prop := ∃ t, s.firstFault? (s.inquiry viewer) = some (.missing t)

/-- Something else keeps a report on a viewer from being made: a query that fails, or a number. -/
def Broken (s : Store) (viewer : String) : Prop :=
  (∃ fault, s.firstFault? (s.inquiry viewer) = some fault) ∨ s.Unreported viewer

end Store

open Web Procedure

/-- What the body of a response says to a client who asked for the progress of a viewer. -/
structure Web.Response.TellsProgress (viewer : String) (response : Response) : Prop where
  unnamed : response.status = 401 → response.Refuses "auth_missing_user_id"
  unmigrated : response.status = 503 → response.Refuses "db_not_initialized"
  broken : response.status = 500 → response.Refuses "server_error"
  accepted : response.status = 200 → response.body.field? "ok" = some (.flag true)
  viewer : response.status = 200 → response.body.field? "viewerUserId" = some (.text viewer)

/-- What the route of progress answers to a request, while the store is as it is. -/
structure ProgressAnswered (s : Store) (r : Request) (response : Response) : Prop where
  unnamed : response.status = 401 ↔ r.Unnamed
  unmigrated : response.status = 503 ↔ ¬ r.Unnamed ∧ s.Unmigrated r.viewer
  broken : response.status = 500 ↔ ¬ r.Unnamed ∧ ¬ s.Unmigrated r.viewer ∧ s.Broken r.viewer
  shown : response.status = 200 ↔ ¬ r.Unnamed ∧ ¬ s.Unmigrated r.viewer ∧ ¬ s.Broken r.viewer
  /-- The body says which of these it is, and whose progress it shows. -/
  tells : response.TellsProgress r.viewer
  /-- The table that is told to be missing is the one that was missed. -/
  missing : response.status = 503 →
    ∃ t, s.firstFault? (s.inquiry r.viewer) = some (.missing t) ∧ response = notMigrated t
  /-- What is shown is the report on the viewer, with a time, and all of it can be read off the body. -/
  report : response.status = 200 → ∃ (time : Int) (report : Report), Reported s r.viewer report
    ∧ response = accept (("serverTimeMs", .int time) :: report.fields) ∧ report.ShownBy response.body

namespace Web.Response

/-- A refusal that has some status has one status only, and its own code. -/
theorem tellsProgress_refuse {status : Nat} {code : String} (viewer message details : String)
    (h₄₀₁ : status = 401 → code = "auth_missing_user_id") (h₅₀₃ : status = 503 → code = "db_not_initialized")
    (h₅₀₀ : status = 500 → code = "server_error") (h₂₀₀ : status ≠ 200) :
    (refuse status code message details).TellsProgress viewer where
  unnamed h := h₄₀₁ h ▸ refuses_refuse status code message details
  unmigrated h := h₅₀₃ h ▸ refuses_refuse status code message details
  broken h := h₅₀₀ h ▸ refuses_refuse status code message details
  accepted h := absurd h h₂₀₀
  viewer h := absurd h h₂₀₀

theorem tellsProgress_anonymous (viewer : String) : anonymous.TellsProgress viewer :=
  tellsProgress_refuse viewer _ _ (fun _ => rfl) (by decide) (by decide) (by decide)

theorem tellsProgress_notMigrated (viewer : String) (t : Table) : (notMigrated t).TellsProgress viewer :=
  tellsProgress_refuse viewer _ _ (by decide) (fun _ => rfl) (by decide) (by decide)

theorem tellsProgress_serverError (viewer : String) (fault : Fault) : (serverError fault).TellsProgress viewer :=
  tellsProgress_refuse viewer _ _ (by decide) (by decide) (fun _ => rfl) (by decide)

theorem tellsProgress_accept {viewer : String} {report : Report} (h : report.viewer = viewer) (time : Int) :
    (accept (("serverTimeMs", .int time) :: report.fields)).TellsProgress viewer where
  unnamed hstatus := absurd hstatus (by decide : ¬ 200 = 401)
  unmigrated hstatus := absurd hstatus (by decide : ¬ 200 = 503)
  broken hstatus := absurd hstatus (by decide : ¬ 200 = 500)
  accepted _ := rfl
  viewer _ := h ▸ (report.shownBy_accept time).viewer

end Web.Response

namespace ProgressAnswered

variable {s : Store} {r : Request}

theorem of_unnamed (h : r.Unnamed) : ProgressAnswered s r anonymous := by
  have hstatus : anonymous.status = 401 := rfl
  have htells := Response.tellsProgress_anonymous r.viewer
  constructor <;> simp [hstatus, h, htells]

theorem of_missing (h : ¬ r.Unnamed) {t : Table} (hfirst : s.firstFault? (s.inquiry r.viewer) = some (.missing t)) :
    ProgressAnswered s r (notMigrated t) := by
  have hstatus : (notMigrated t).status = 503 := rfl
  have hunmigrated : s.Unmigrated r.viewer := ⟨t, hfirst⟩
  have htells := Response.tellsProgress_notMigrated r.viewer t
  constructor <;> simp [hstatus, h, hunmigrated, hfirst, htells]

theorem of_broken (h : ¬ r.Unnamed) (hmigrated : ¬ s.Unmigrated r.viewer) (hbroken : s.Broken r.viewer)
    (fault : Fault) : ProgressAnswered s r (Web.serverError fault) := by
  have hstatus : (Web.serverError fault).status = 500 := rfl
  have htells := Response.tellsProgress_serverError r.viewer fault
  constructor <;> simp [hstatus, h, hmigrated, hbroken, htells]

theorem of_report (h : ¬ r.Unnamed) (hmigrated : ¬ s.Unmigrated r.viewer) (hbroken : ¬ s.Broken r.viewer)
    {report : Report} (hreported : Reported s r.viewer report) (time : Int) :
    ProgressAnswered s r (accept (("serverTimeMs", .int time) :: report.fields)) := by
  have hstatus : (accept (("serverTimeMs", .int time) :: report.fields)).status = 200 := rfl
  have hshown := report.shownBy_accept time
  have htells := Response.tellsProgress_accept hreported.about time
  refine ⟨?_, ?_, ?_, ?_, htells, ?_, fun _ => ⟨time, report, hreported, rfl, hshown⟩⟩ <;>
    simp [hstatus, h, hmigrated, hbroken]

end ProgressAnswered

namespace Procedure

variable {making : Procedure Report} {w : World} {r : Request} {fault : Fault}

/-- The route ends with a response, having changed nothing. -/
def Shows (making : Procedure Report) (w : World) (r : Request) : Prop :=
  ∃ response v, (shown r.viewer making).run w = (.ok response, v) ∧ v.store = (making.run w).2.store
    ∧ v.queries = (making.run w).2.queries ∧ ProgressAnswered w.store r response

theorem shows_missing (hnamed : ¬ r.Unnamed) {t : Table} (h : (making.run w).1 = .error (.store (.missing t)))
    (hfirst : w.store.firstFault? (w.store.inquiry r.viewer) = some (.missing t)) : making.Shows w r :=
  ⟨notMigrated t, _, shown_failed h rfl, rfl, rfl, .of_missing hnamed hfirst⟩

theorem shows_broken (hnamed : ¬ r.Unnamed) (h : (making.run w).1 = .error fault) (hfault : fault.refusal? = none)
    (hmigrated : ¬ w.store.Unmigrated r.viewer) (hbroken : w.store.Broken r.viewer) : making.Shows w r := by
  obtain ⟨line, hline⟩ := reportFailed_broken hfault r.viewer (making.run w).2
  exact ⟨_, _, shown_failed h hline, rfl, rfl, .of_broken hnamed hmigrated hbroken fault⟩

theorem shows_report (hnamed : ¬ r.Unnamed) {report : Report} (h : (making.run w).1 = .ok report)
    (hreported : Reported w.store r.viewer report) (hmigrated : ¬ w.store.Unmigrated r.viewer)
    (hbroken : ¬ w.store.Broken r.viewer) : making.Shows w r := by
  obtain ⟨time, htold⟩ := shown_made r.viewer h
  exact ⟨_, _, htold, rfl, rfl, .of_report hnamed hmigrated hbroken hreported time⟩

/-- What works through the queries of a report is shown for what it comes to. -/
theorem WorkedThrough.shows (hnamed : ¬ r.Unnamed)
    (h : WorkedThrough w (w.store.inquiry r.viewer) (fun result =>
      (w.store.Unreported r.viewer ∧ ∃ fault, result = .error fault ∧ fault.refusal? = none)
        ∨ (¬ w.store.Unreported r.viewer ∧ ∃ report, result = .ok report ∧ Reported w.store r.viewer report))
      (making.run w)) : making.Shows w r := by
  cases hfirst : w.store.firstFault? (w.store.inquiry r.viewer) with
  | some fault =>
    have hr := h.stopped fault hfirst
    have hbroken : w.store.Broken r.viewer := Or.inl ⟨fault, hfirst⟩
    by_cases hmissing : ∃ t, fault = .missing t
    · obtain ⟨t, rfl⟩ := hmissing
      exact shows_missing hnamed hr hfirst
    · refine shows_broken hnamed hr ?_ ?_ hbroken
      · cases fault with
        | missing t => exact absurd ⟨t, rfl⟩ hmissing
        | _ => rfl
      · rintro ⟨t, ht⟩
        exact hmissing ⟨t, Option.some.inj (hfirst.symm.trans ht)⟩
  | none =>
    have hmigrated : ¬ w.store.Unmigrated r.viewer := by
      rintro ⟨t, ht⟩
      rw [hfirst] at ht
      cases ht
    rcases h.through hfirst with ⟨hun, fault, hr, hfault⟩ | ⟨hmade, report, hr, hreported⟩
    · exact shows_broken hnamed hr hfault hmigrated (Or.inr hun)
    · refine shows_report hnamed hr hreported hmigrated ?_
      rintro (⟨fault, hfault⟩ | hun)
      · rw [hfirst] at hfault
        cases hfault
      · exact hmade hun

end Procedure

/-- **The route of progress has an answer to every request,** and changes nothing. -/
theorem progress_answered (w : World) (r : Request) :
    ∃ response v, (progress r.viewer).run w = (.ok response, v) ∧ v.store = w.store
      ∧ (¬ r.Unnamed → v.queries = w.queries ++ w.store.asked (w.store.inquiry r.viewer))
      ∧ ProgressAnswered w.store r response := by
  by_cases hnamed : r.Unnamed
  · refine ⟨anonymous, w, ?_, rfl, fun h => absurd hnamed h, .of_unnamed hnamed⟩
    rw [Request.viewer_eq_empty_iff.mpr hnamed]
    rfl
  have hviewer : Viewer.id (.text r.viewer) ≠ "" := by
    rw [r.id_viewer]
    exact fun h => hnamed (Request.viewer_eq_empty_iff.mp h)
  have hworked := reportFor_inquires w.store r.viewer w rfl
  obtain ⟨response, v, hrun, hstore, hqueries, hanswered⟩ := hworked.shows hnamed
  rw [progress_eq (r.id_viewer ▸ hviewer), report_eq hviewer, r.id_viewer]
  exact ⟨response, v, hrun, hstore.trans hworked.store, fun _ => hqueries.trans hworked.queries, hanswered⟩

/-- How a route for a viewer answers a message that arrives as a request. -/
structure RouteAnswered (w : World) (r : Request) (route : Route) (result : Except Fault Response × World) : Prop where
  /-- Without a name nothing at all is done, and the answer says that the name is missing. -/
  unnamed : r.Unnamed →
    result = (.ok anonymous, w) ∧ anonymous.status = 401 ∧ anonymous.Refuses "auth_missing_user_id"
  /-- The route of progress lets no fault out, and changes no table. It makes the queries of a report up to the first
  that fails. -/
  progress : route = .progress → ∃ response v, result = (.ok response, v) ∧ v.store = w.store
    ∧ (¬ r.Unnamed → v.queries = w.queries ++ w.store.asked (w.store.inquiry r.viewer))
    ∧ ProgressAnswered w.store r response

/--
**The routes for a viewer tell apart all that can happen.** Take any world, with any tables missing or out of reach and
any text among the criteria, and any message that leads to one of the three routes and has its method. If the header does
not name a viewer, the answer is that, and nothing else happens. The route of progress answers in every case, and which
answer it is depends on the first query of the report that fails, and on the report itself if none does.
-/
theorem viewer_routes_answered {m : Message} {r : Request} {route : Route} (hm : m.arrival? = some r)
    (hroute : Route.ofPath? r.path = some route) (hviewer : route.OfViewer)
    (hmethod : route.methods.contains r.method = true) (w : World) :
    RouteAnswered w r route ((exchange m).run w) := by
  obtain ⟨hexchange, hreturned⟩ := exchange_of_viewer hm hroute hviewer hmethod
  rw [hexchange]
  constructor
  · intro hnamed
    rw [respond_unnamed hviewer (Request.viewer_eq_empty_iff.mpr hnamed)]
    exact ⟨congrArg (fun response => (Except.ok response, w)) (hreturned anonymous), rfl, refuses_refuse _ _ _ _⟩
  · rintro rfl
    obtain ⟨response, v, hrun, hrest⟩ := progress_answered w r
    refine ⟨response, v, ?_, hrest⟩
    have hmapped := run_seq (f := fun response => .done (returned r.method response)) (congrArg Prod.fst hrun)
    rw [hrun, hreturned] at hmapped
    exact hmapped

/-- Results are there, counters are missing, and other tables may be out of reach. -/
def tornWorld (criteria : String) (failing : List (Table × String)) : World where
  store :=
    { results := some [⟨1, "alice", some 1, "FINISHED"⟩]
      catalogue := some [⟨1, "First", none, false, criteria⟩]
      unlocks := some []
      actions := none
      failing }
  clock := ⟨100, 1⟩
  queries := []
  log := []

/-- A question for the progress of whoever the header names. -/
def progressOf (name : String) : Message :=
  ⟨"get", "/api/v1/me/achievement-progress", [("x-viewer-user-id", name)], none⟩

/-- The request that arrives. -/
def progressArrival (name : String) : Request :=
  ⟨"GET", "/api/v1/me/achievement-progress".toList, [("x-viewer-user-id", name)], none⟩

/-- The status of the answer to the question, and a text in its body. -/
def progressTold (name : String) (w : World) (field : String) : Option (Nat × Option String) :=
  ((exchange (progressOf name)).run w).1.toOption.map fun response =>
    (response.status, (response.body.field? field).bind Value.text?)

/-- The ledger is out of reach, and the criteria name a counter. -/
def uncountedWorld : World := tornWorld "action:k>=1" [(.unlocks, "connection lost")]

/-- The ledger is out of reach, and the criteria name no counter. -/
def severedWorld : World := tornWorld "wins>=1" [(.unlocks, "connection lost")]

/-- Whether the missing counters are come upon before the ledger depends on the criteria on offer. With the ledger in
reach they are not missed at all, and nothing matters if nobody is named. -/
theorem viewer_routes_answered_torn :
    RouteAnswered uncountedWorld (progressArrival " alice ") .progress
        ((exchange (progressOf " alice ")).run uncountedWorld)
      ∧ progressTold " alice " uncountedWorld "error" = some (503, some "db_not_initialized")
      ∧ RouteAnswered severedWorld (progressArrival " alice ") .progress
        ((exchange (progressOf " alice ")).run severedWorld)
      ∧ progressTold " alice " severedWorld "error" = some (500, some "server_error")
      ∧ RouteAnswered severedWorld (progressArrival "  ") .progress ((exchange (progressOf "  ")).run severedWorld)
      ∧ progressTold "  " severedWorld "error" = some (401, some "auth_missing_user_id")
      ∧ RouteAnswered (tornWorld "wins>=1" []) (progressArrival " alice ") .progress
        ((exchange (progressOf " alice ")).run (tornWorld "wins>=1" []))
      ∧ progressTold " alice " (tornWorld "wins>=1" []) "viewerUserId" = some (200, some "alice") := by
  have halice : (progressOf " alice ").arrival? = some (progressArrival " alice ") := by rfl
  have hblank : (progressOf "  ").arrival? = some (progressArrival "  ") := by rfl
  have hroute : Route.ofPath? "/api/v1/me/achievement-progress".toList = some .progress := by decide +kernel
  refine ⟨viewer_routes_answered halice hroute trivial (by decide) _, ?_,
    viewer_routes_answered halice hroute trivial (by decide) _, ?_,
    viewer_routes_answered hblank hroute trivial (by decide) _, ?_,
    viewer_routes_answered halice hroute trivial (by decide) _, ?_⟩ <;> decide +kernel

end Laurels
