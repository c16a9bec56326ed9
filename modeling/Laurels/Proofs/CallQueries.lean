import Laurels.Call
import Laurels.Proofs.History
import Laurels.Proofs.Store.Answer

/-!
# What the calls ask

An award pass reads four tables and inserts into the ledger (`Query.OfPass`), and a report only reads
(`Query.Reads`), whatever they are answered. Neither counts an action, and neither creates a table. So the only
call among those that award which counts is the recording of an action, and it does so once and first.

Most calls only read (`Call.Reads`), and so does every request to the service that does not arrive as a `POST`
(`Web.exchange_asks`).
-/

namespace Laurels

/-- The queries that read, and leave the store as it is. -/
def Query.Reads : Query → Prop
  | .insertUnlock _ => False
  | .countAction _ => False
  | .create _ => False
  | _ => True

/-- The queries of an award pass: it reads, and inserts into the ledger. -/
def Query.OfPass : Query → Prop
  | .countAction _ => False
  | .create _ => False
  | _ => True

theorem Query.not_countsFor_of_ofPass {q : Query} {viewer : String} (h : q.OfPass) :
    ¬ Store.CountsFor viewer q := by
  intro hc
  cases q <;> first | exact hc | exact h

theorem Query.Reads.ofPass {q : Query} (h : q.Reads) : q.OfPass := by
  cases q <;> first | exact h | exact trivial

namespace Store

/-- What reads changes nothing. -/
theorem answer_of_reads {s : Store} {q : Query} (h : q.Reads) : (s.answer q).2 = s := by
  cases effect s q with
  | nothing same => exact same
  | unlock entry row asked => rw [asked] at h; exact False.elim h
  | count entry viewer key time asked => rw [asked] at h; exact False.elim h
  | create item asked => rw [asked] at h; exact False.elim h

/-- A query of an award pass changes the ledger at most. -/
theorem answer_of_ofPass {s : Store} {q : Query} (h : q.OfPass) :
    (s.answer q).2 = { s with unlocks := (s.answer q).2.unlocks } := by
  cases effect s q with
  | nothing same => rw [same]
  | unlock entry row asked fresh grown => rw [grown]
  | count entry viewer key time asked => rw [asked] at h; exact False.elim h
  | create item asked => rw [asked] at h; exact False.elim h

end Store

namespace Procedure

variable {kind : Query → Prop}

/-! ## Parts of a pass -/

theorem compileCriteria_asks (warn : Bool) (mention criteria : String) :
    (compileCriteria warn mention criteria).Asks kind := by
  unfold compileCriteria
  split
  · split
    · split
      · exact (asks_write _ _).bind fun _ => asks_done _
      · exact asks_done _
    · exact asks_raise _
  · dsimp only
    split
    · exact (asks_write _ _).bind fun _ => asks_done _
    · exact asks_done _

theorem compile_asks (warn : Bool) (as : List Achievement) : (compile warn as).Asks kind := by
  induction as with
  | nil => exact asks_done _
  | cons a as ih =>
    unfold compile
    split
    · exact ih
    · exact (compileCriteria_asks warn _ _).bind fun _ => ih.bind fun _ => asks_done _

theorem fetchTallies_asks_of {viewers : List Value} (h : kind (.raceTallies viewers)) :
    (fetchTallies viewers).Asks kind := by
  unfold fetchTallies
  split
  · exact asks_done _
  · exact asks_ask h

/-- Counters are asked for only if there are keys. -/
theorem fetchCounts_asks_of {viewers keys : List Value} (h : keys ≠ [] → kind (.actionCounts viewers keys)) :
    (fetchCounts viewers keys).Asks kind := by
  unfold fetchCounts
  split
  · exact asks_done _
  · rename_i hsome
    refine asks_ask (h ?_)
    rintro rfl
    simp at hsome

theorem fetchPairs_asks_of {viewers achievements : List Value} (h : kind (.unlockedPairs viewers achievements)) :
    (fetchPairs viewers achievements).Asks kind := by
  unfold fetchPairs
  split
  · exact asks_done _
  · exact asks_ask h

theorem takeSnapshots_asks_of {viewers : List String} {keys : List Value}
    (htallies : kind (.raceTallies (viewers.map .text)))
    (hcounts : keys ≠ [] → kind (.actionCounts (viewers.map .text) keys)) : (takeSnapshots viewers keys).Asks kind := by
  unfold takeSnapshots
  split
  · exact asks_done _
  · exact (fetchTallies_asks_of htallies).bind fun _ => (fetchCounts_asks_of hcounts).bind fun _ => asks_done _

theorem fetchTallies_asks (viewers : List Value) : (fetchTallies viewers).Asks Query.Reads :=
  fetchTallies_asks_of trivial

theorem fetchCounts_asks (viewers keys : List Value) : (fetchCounts viewers keys).Asks Query.Reads :=
  fetchCounts_asks_of fun _ => trivial

theorem fetchPairs_asks (viewers achievements : List Value) : (fetchPairs viewers achievements).Asks Query.Reads :=
  fetchPairs_asks_of trivial

theorem takeSnapshots_asks (viewers : List String) (keys : List Value) :
    (takeSnapshots viewers keys).Asks Query.Reads :=
  takeSnapshots_asks_of trivial fun _ => trivial

theorem unlockAll_asks_of {o : Occasion}
    (hinsert : ∀ viewer achievement, kind (.insertUnlock (o.row viewer achievement).entry))
    (candidates : List (String × Snapshot × Rule)) (existing : List (String × Int)) :
    (unlockAll o candidates existing).Asks kind := by
  induction candidates generalizing existing with
  | nil => exact asks_done _
  | cons c candidates ih =>
    obtain ⟨viewer, snapshot, rule⟩ := c
    unfold unlockAll
    split
    · exact ih existing
    · split
      · exact ih existing
      · refine Asks.bind (asks_ask (hinsert _ _)) fun added => ?_
        split
        · exact (asks_write _ _).bind fun _ => (ih _).bind fun _ => asks_done _
        · exact ih existing

/-! ## The calls that award -/

/-- An award pass from where its rules are compiled. -/
def awardBy (viewers : List String) (source sourceRef : String) (rules : List Rule) : Procedure (List Unlock) :=
  if rules.isEmpty then .done []
  else do
    let snapshots ← takeSnapshots viewers (Rule.wanted rules)
    let existing ← fetchPairs (viewers.map .text) (rules.map fun r => .int r.achievement.id)
    let time ← .readClock
    let candidates := snapshots.flatMap fun (v, s) => rules.map fun r => (v, s, r)
    let unlocks ← unlockAll ⟨time, source, sourceRef⟩ candidates existing
    if !unlocks.isEmpty then
      .write .info ("🏁 [ACH-AWARD] " ++ toString unlocks.length ++ " new unlock(s) for " ++
        toString viewers.length ++ " viewer(s)")
    pure unlocks

theorem awardPass_eq (viewers : List String) (source sourceRef : String) :
    awardPass viewers source sourceRef
      = ask .activeAchievements >>= fun as => compile true as >>= awardBy viewers source sourceRef := rfl

/-- Rules are what a pass asks anything for, and counters are asked for only if some rule wants them. -/
theorem awardBy_asks_of {viewers : List String} {rules : List Rule}
    (htallies : rules ≠ [] → kind (.raceTallies (viewers.map .text)))
    (hcounts : Rule.wanted rules ≠ [] → kind (.actionCounts (viewers.map .text) (Rule.wanted rules)))
    (hpairs : rules ≠ [] → kind (.unlockedPairs (viewers.map .text) (rules.map fun r => .int r.achievement.id)))
    (hinsert : rules ≠ [] → ∀ entry, kind (.insertUnlock entry)) (source sourceRef : String) :
    (awardBy viewers source sourceRef rules).Asks kind := by
  unfold awardBy
  split
  · exact asks_done _
  · rename_i hsome
    have hrules : rules ≠ [] := fun hnone => hsome (List.isEmpty_iff.mpr hnone)
    refine (takeSnapshots_asks_of (htallies hrules) hcounts).bind fun snapshots => ?_
    refine (fetchPairs_asks_of (hpairs hrules)).bind fun existing => ?_
    refine asks_readClock.bind fun time => (unlockAll_asks_of (fun _ _ => hinsert hrules _) _ _).bind fun us => ?_
    split
    · exact (asks_write _ _).bind fun _ => asks_done _
    · exact asks_done _

theorem awardPass_asks (viewers : List String) (source sourceRef : String) :
    (awardPass viewers source sourceRef).Asks Query.OfPass :=
  Asks.bind (asks_ask trivial) fun as => (compile_asks true as).bind fun _ =>
    awardBy_asks_of (fun _ => trivial) (fun _ => trivial) (fun _ => trivial) (fun _ _ => trivial) source sourceRef

theorem nothingAwarded_asks (fault : Fault) : (nothingAwarded fault).Asks kind := by
  unfold nothingAwarded
  split
  · exact (asks_write _ _).bind fun _ => asks_done _
  · exact asks_raise _

theorem awardIds_asks (viewers : List String) (source sourceRef : String) :
    (awardIds viewers source sourceRef).Asks Query.OfPass := by
  unfold awardIds
  split
  · exact asks_done _
  · exact (awardPass_asks _ _ _).rescue nothingAwarded_asks

theorem award_asks (viewers source sourceRef : Value) :
    (award viewers source sourceRef).Asks Query.OfPass := by
  unfold award
  split
  · exact asks_raise _
  · exact awardIds_asks _ _ _

theorem awardRace_asks (competition viewers : Value) :
    (awardRace competition viewers).Asks Query.OfPass :=
  (award_asks _ _ _).rescue fun _ => (asks_write _ _).bind fun _ => asks_done _

/-! ## Reports -/

theorem report_asks (viewer : Value) : (report viewer).Asks Query.Reads := by
  unfold report
  split
  · exact asks_raise _
  · unfold reportFor
    refine Asks.bind (asks_ask trivial) fun as => (compile_asks _ _).bind fun rules => ?_
    refine (takeSnapshots_asks _ _).bind fun snapshots => Asks.bind (asks_ask trivial) fun times => ?_
    exact (asks_compute _).bind fun entries => asks_done _

/-! ## Other calls that read -/

theorem listUnlocked_asks (viewer : Value) : (listUnlocked viewer).Asks Query.Reads := by
  unfold listUnlocked
  split
  · exact asks_raise _
  · exact asks_ask trivial

theorem snapshotsOf_asks (viewers keys : Value) : (snapshotsOf viewers keys).Asks Query.Reads := by
  unfold snapshotsOf
  split
  · exact asks_raise _
  · exact asks_done _
  · split
    · exact asks_raise _
    · exact takeSnapshots_asks _ _

theorem pairsOf_asks (viewers achievements : Value) : (pairsOf viewers achievements).Asks Query.Reads := by
  unfold pairsOf
  split
  · exact fetchPairs_asks _ _
  · exact asks_raise _

end Procedure

namespace Web

open Procedure

variable {kind : Query → Prop}

theorem unlessMigrated_asks (fault : Fault) : (unlessMigrated fault).Asks kind := by
  unfold unlessMigrated
  split
  · exact asks_done _
  · exact asks_raise _

theorem reportFailed_asks (viewer : String) (fault : Fault) : (reportFailed viewer fault).Asks kind := by
  unfold reportFailed
  split
  · exact asks_done _
  · exact asks_done _
  · exact (asks_write _ _).bind fun _ => asks_done _

theorem catalogue_asks : catalogue.Asks Query.Reads :=
  (Asks.bind (asks_ask trivial) fun _ => asks_done _).rescue unlessMigrated_asks

theorem validateText_asks (text : String) : (validateText text).Asks kind := by
  unfold validateText
  split
  · exact asks_done _
  · split
    · exact asks_done _
    · exact asks_raise _

theorem validate_asks (r : Request) : (validate r).Asks kind := by
  unfold validate
  split
  · exact asks_done _
  · exact validateText_asks _

theorem unlocked_asks (viewer : String) : (unlocked viewer).Asks Query.Reads := by
  unfold unlocked
  split
  · exact asks_done _
  · exact (Asks.bind (listUnlocked_asks _) fun _ => asks_done _).rescue unlessMigrated_asks

theorem progress_asks (viewer : String) : (progress viewer).Asks Query.Reads := by
  unfold progress
  split
  · exact asks_done _
  · refine (Asks.rescue (Asks.bind (report_asks _) fun _ => asks_done _) (reportFailed_asks _)).bind fun r => ?_
    split
    · exact asks_done _
    · exact asks_readClock.bind fun _ => asks_done _

/-- Only the route of an action does more than read. -/
theorem respond_asks (r : Request) {route : Route} (h : ∀ key, route ≠ .action key) :
    (respond r route).Asks Query.Reads := by
  cases route with
  | health => exact asks_done _
  | catalogue => exact catalogue_asks
  | validate => exact validate_asks r
  | unlocked => exact unlocked_asks _
  | progress => exact progress_asks _
  | action key => exact absurd rfl (h key)
  | page => exact asks_done _

/-- **A request that does not arrive as a `POST` only reads.** -/
theorem exchange_asks {m : Message} (h : ∀ r, m.arrival? = some r → r.method ≠ "POST") :
    (exchange m).Asks Query.Reads := by
  unfold exchange
  cases hm : m.arrival? with
  | none => exact asks_raise _
  | some r =>
    refine Asks.map ?_ _
    unfold handle
    split
    · exact asks_done _
    · unfold Web.route
      split
      · exact asks_done _
      · split
        · -- an action is answered to a `POST` only
          rename_i hmethod
          refine respond_asks r fun key hkey => h r hm ?_
          rw [hkey] at hmethod
          exact List.mem_singleton.mp (List.contains_iff_mem.mp hmethod)
        · exact asks_done _

end Web

namespace Call

/-- The calls that only read. -/
def Reads : Call → Prop
  | .progress _ | .list | .unlocked _ | .pairs .. | .times _ | .raceTallies _ | .actionCounts .. => True
  | .snapshots .. => True
  | .web m => ∀ r, m.arrival? = some r → r.method ≠ "POST"
  | _ => False

theorem Reads.asks {c : Call} (h : c.Reads) : c.procedure.Asks Query.Reads := by
  cases c with
  | progress viewer => exact (Procedure.report_asks viewer).map _
  | list => exact Procedure.Asks.map (Procedure.asks_ask trivial) _
  | unlocked viewer => exact (Procedure.listUnlocked_asks viewer).map _
  | pairs viewers achievements => exact (Procedure.pairsOf_asks viewers achievements).map _
  | times viewer => exact Procedure.Asks.map (Procedure.asks_ask trivial) _
  | raceTallies viewers => exact (Procedure.fetchTallies_asks viewers).map _
  | actionCounts viewers keys => exact (Procedure.fetchCounts_asks viewers keys).map _
  | snapshots viewers keys => exact (Procedure.snapshotsOf_asks viewers keys).map _
  | web m => exact (Web.exchange_asks h).map _
  | _ => exact False.elim h

end Call

end Laurels
