import Laurels.Proofs.MissingTables
import Laurels.Proofs.Restriction

/-!
# Snapshots, row by row

Snapshots of viewers come from two queries. One groups the results of all of them by viewer, the other one looks for
their counters, and each viewer is then looked up in both replies. Nothing of this is left in a snapshot: it holds
how many results of each kind the viewer has (`Tally.Counts`) and the viewer's counters for the keys that were asked
for (`CountersFor`), whoever else was asked for at the same time (`ofFetched_eq`).

`snapshots_sound` is the main statement. It needs the results and the counters, and neither of the other tables.
-/

namespace Laurels

/-- How many results a viewer has, counted row by row. A place that is not known is not the first place, and a race is
finished if its status says exactly so. -/
structure Tally.Counts (rows : List ResultRow) (viewer : String) (t : Tally) : Prop where
  races : t.races = rows.countP fun r => r.viewer = viewer
  finished : t.finished = rows.countP fun r => r.viewer = viewer ∧ r.status = "FINISHED"
  wins : t.wins = rows.countP fun r => r.viewer = viewer ∧ r.status = "FINISHED" ∧ r.position = some 1
  dnf : t.dnf = rows.countP fun r => r.viewer = viewer ∧ r.status ≠ "FINISHED"
  total : t.races = t.finished + t.dnf
  wins_le : t.wins ≤ t.finished

/-- The counters of a viewer for the keys that are asked for, but not for the empty one. A key has one counter if this
is so in the table. -/
structure CountersFor (rows : List ActionRow) (viewer : String) (keys : List String)
    (counters : List (String × Int)) : Prop where
  mem_iff : ∀ key count, (key, count) ∈ counters
    ↔ key ≠ "" ∧ key ∈ keys ∧ ∃ r ∈ rows, r.viewer = viewer ∧ r.key = key ∧ r.count = count
  distinct : (rows.map fun r => (r.viewer, r.key)).Nodup → (counters.map Prod.fst).Nodup

/-! ## What a snapshot holds -/

/-- The tally of a viewer counts the viewer's rows. -/
theorem Store.tallyOf_counts (s : Store) (viewer : String) : (s.tallyOf viewer).Counts s.resultRows viewer where
  races := (List.countP_eq_length_filter ..).symm.trans (List.countP_congr (by simp))
  finished := (List.countP_filter ..).trans (List.countP_congr (by simp [ResultRow.isFinished, and_comm]))
  wins := by
    refine (List.countP_filter ..).trans (List.countP_congr fun r _ => ?_)
    simp [ResultRow.isWin, ResultRow.isFinished, and_comm]
  dnf := (List.countP_filter ..).trans (List.countP_congr (by simp [ResultRow.isFinished, and_comm]))
  total := (List.length_eq_countP_add_countP ResultRow.isFinished).trans
    (congrArg _ (List.countP_congr (by simp)))
  wins_le := List.countP_mono_left fun r _ hwin => (Bool.and_eq_true_iff.mp hwin).1

/-- The counters of a viewer for some keys. -/
def Store.countersAt (s : Store) (viewer : String) (keys : List String) : List (String × Int) :=
  (s.counterRows.filter fun r => r.viewer == viewer && keys.contains r.key).map fun r => (r.key, r.count)

theorem Store.countersAt_wanted (s : Store) (viewer : String) (keys : List String) :
    CountersFor s.counterRows viewer keys (s.countersAt viewer (wantedKeys keys)) where
  mem_iff key count := by
    unfold countersAt
    simp only [List.mem_map, List.mem_filter, Bool.and_eq_true, beq_iff_eq, List.contains_iff_mem, mem_wantedKeys,
      Prod.mk.injEq]
    constructor
    · rintro ⟨r, ⟨hr, hv, hkey, hne⟩, rfl, rfl⟩
      exact ⟨hne, hkey, r, hr, hv, rfl, rfl⟩
    · rintro ⟨hne, hkey, r, hr, hv, rfl, rfl⟩
      exact ⟨r, ⟨hr, hv, hkey, hne⟩, rfl, rfl⟩
  distinct hkeyed := by
    -- rows of one viewer differ in their keys
    unfold countersAt
    rw [List.map_map, List.Nodup, List.pairwise_map]
    rw [List.Nodup, List.pairwise_map] at hkeyed
    refine (hkeyed.filter _).imp_of_mem fun {r r'} hr hr' hne heq => hne ?_
    have hv := (Bool.and_eq_true_iff.mp (List.mem_filter.mp hr).2).1
    have hv' := (Bool.and_eq_true_iff.mp (List.mem_filter.mp hr').2).1
    exact Prod.ext ((beq_iff_eq.mp hv).trans (beq_iff_eq.mp hv').symm) heq

/-- **A snapshot that is fetched with others holds what belongs to its viewer.** -/
theorem ofFetched_eq (s : Store) {viewers keys : List String} {viewer : String} (hv : viewer ∈ viewers) :
    Snapshot.ofFetched (Store.tallies s.resultRows viewers) (Store.counts s.counterRows viewers keys) viewer
      = .of (s.tallyOf viewer) (s.countersAt viewer keys) := by
  have htally := Store.lookup_tallies s.resultRows hv
  -- among the rows of this viewer, the other viewers that were asked for do not matter
  have hcounters : ((Store.counts s.counterRows viewers keys).filter fun c => c.1 == viewer).map
        (fun c => (c.2.1, Number.int c.2.2))
      = (s.countersAt viewer keys).map fun c => (c.1, .int c.2) := by
    unfold Store.counts Store.countersAt
    rw [List.filter_map, List.filter_filter, List.map_map, List.map_map]
    refine congrArg (List.map _) (List.filter_congr fun r _ => ?_)
    by_cases hr : r.viewer = viewer
    · simp [hr, hv]
    · simp [beq_eq_false_iff_ne.mpr hr]
  simp only [Snapshot.ofFetched, Snapshot.of, htally, hcounters]
  rfl

/-- Of a viewer without rows nothing is known. -/
theorem snapshot_eq_empty {s : Store} {viewer : String} (hresults : ∀ r ∈ s.resultRows, r.viewer ≠ viewer)
    (hcounters : ∀ r ∈ s.counterRows, r.viewer ≠ viewer) (keys : List String) :
    Snapshot.of (s.tallyOf viewer) (s.countersAt viewer keys) = .empty := by
  have hnone : s.resultRows.filter (fun r => r.viewer == viewer) = [] :=
    List.filter_eq_nil_iff.mpr fun r hr => by simpa using hresults r hr
  have hnone' : s.counterRows.filter (fun r => r.viewer == viewer && keys.contains r.key) = [] :=
    List.filter_eq_nil_iff.mpr fun r hr => by simp [hcounters r hr]
  unfold Store.tallyOf Store.countersAt
  rw [hnone, hnone']
  rfl

/-! ## Taking snapshots -/

namespace Procedure

/-- **Snapshots that are taken where nothing refuses to count,** one for each viewer. -/
theorem snapshotsOf_answers {w : World} (hthere : w.store.refusal? [.results, .actions] = none) {viewers keys : Value}
    {ids : List String} (hviewers : Viewer.ids? viewers = some ids) {items : List Value}
    (hkeys : keys.elements? = some items) (htexts : ∀ k ∈ items, k.isEmpty = false → ∃ key, k = .text key) :
    (snapshotsOf viewers keys).Answers w (ids.map fun v =>
      (v, .of (w.store.tallyOf v) (w.store.countersAt v (wantedKeys (Value.texts items))))) := by
  have htaken : snapshotsOf viewers keys = takeSnapshots ids ((wantedKeys (Value.texts items)).map .text) := by
    unfold snapshotsOf Value.keys
    rw [hviewers, hkeys]
    dsimp only
    rw [Value.keysIn_texts htexts]
    cases ids <;> rfl
  have hresults : w.store.refusal? [.results] = none := Store.refusal?_of_subset hthere (by simp)
  have hactions : w.store.refusal? [.actions] = none := Store.refusal?_of_subset hthere (by simp)
  obtain ⟨ss, hss⟩ : ∃ ss, (takeSnapshots ids ((wantedKeys (Value.texts items)).map .text)).Answers w ss :=
    takeSnapshots_answers hresults (fun _ => hactions) ids
  have hfetched : ids.map (fun v => (v, Snapshot.ofFetched (Store.tallies w.store.resultRows ids)
        (Store.counts w.store.counterRows ids (wantedKeys (Value.texts items))) v))
      = ids.map fun v => (v, .of (w.store.tallyOf v) (w.store.countersAt v (wantedKeys (Value.texts items)))) :=
    List.map_congr_left fun v hv => by rw [ofFetched_eq w.store hv]
  rw [htaken, ← hfetched, ← snapshots_of_run hss.1]
  exact hss

end Procedure

open Procedure

/--
**Snapshots are complete, and their counts are right.** Results and counters are there. A value names some viewers, and
another one lists keys; empty entries among these may be of any kind. Then snapshots are taken, and nothing changes.
There is one for each viewer, in the order in which they are named, and none for anybody else. It tells how many races
the viewer has run, finished, won and not finished, and it holds the viewer's counters for the keys that are listed,
the empty one excepted. Of a viewer without rows it is empty. And it is the one that is taken of this viewer alone.
-/
theorem snapshots_sound {w : World} (hthere : w.store.refusal? [.results, .actions] = none) {viewers keys : Value}
    {ids : List String} (hviewers : Viewer.ids? viewers = some ids) {items : List Value}
    (hkeys : keys.elements? = some items) (htexts : ∀ k ∈ items, k.isEmpty = false → ∃ key, k = .text key) :
    ∃ ss, (snapshotsOf viewers keys).Answers w ss ∧ ss.map Prod.fst = ids ∧ ids.Nodup
      ∧ ∀ v snapshot, (v, snapshot) ∈ ss →
        (∃ tally counters, snapshot = .of tally counters ∧ tally.Counts w.store.resultRows v
          ∧ CountersFor w.store.counterRows v (Value.texts items) counters)
        ∧ ((∀ r ∈ w.store.resultRows, r.viewer ≠ v) → (∀ r ∈ w.store.counterRows, r.viewer ≠ v) → snapshot = .empty)
        ∧ (snapshotsOf (.list [.text v]) keys).Answers w [(v, snapshot)] := by
  have hanswers := snapshotsOf_answers hthere hviewers hkeys htexts
  refine ⟨_, hanswers, ?_, nodup_ids hviewers, fun v snapshot hmem => ?_⟩
  · rw [List.map_map]
    exact List.map_id ids
  · obtain ⟨_, hv, heq⟩ := List.mem_map.mp hmem
    cases heq
    obtain ⟨_, _, rfl⟩ := Option.map_eq_some_iff.mp hviewers
    refine ⟨⟨_, _, rfl, w.store.tallyOf_counts v, w.store.countersAt_wanted v _⟩, ?_, ?_⟩
    · exact fun hresults hcounters => snapshot_eq_empty hresults hcounters _
    · exact snapshotsOf_answers hthere (Viewer.ids?_text hv) hkeys htexts

/-- Results and counters of which some count for nobody who is asked for, some for no key, and some for no victory.
There is no catalogue, and the ledger is out of reach. -/
def statsWorld : World where
  store :=
    { results := some [⟨1, "v1", some 1, "FINISHED"⟩, ⟨1, "v2", none, "DNF"⟩, ⟨2, "v1", none, "FINISHED"⟩,
        ⟨2, "V1", some 1, "FINISHED"⟩, ⟨3, "v1", some 1, "finished"⟩]
      catalogue := none
      unlocks := some []
      actions := some [⟨"v1", "spin", 3, some 5, some 6⟩, ⟨"v2", "", 4, some 5, some 5⟩,
        ⟨"v1", "unread", 9, none, none⟩, ⟨"v2", "like", 2, some 5, some 5⟩]
      failing := [(.unlocks, "down")] }
  clock := ⟨100, 1⟩
  queries := []
  log := []

/-- Viewers and keys that are named more than once, in the company of entries that name nothing. -/
theorem snapshots_sound_repeated :
    let viewers := Value.list [.text " v1", .text "v2\n", .null, .text "v1", .text "v3"]
    let items := [Value.text "spin", .null, .text "", .text "like", .text "spin"]
    statsWorld.store.refusal? [.results, .actions] = none ∧ Viewer.ids? viewers = some ["v1", "v2", "v3"]
      ∧ (∀ k ∈ items, k.isEmpty = false → ∃ key, k = .text key)
      ∧ ∃ ss, (snapshotsOf viewers (.list items)).Answers statsWorld ss
        ∧ ss = [("v1", ⟨.int 3, .int 2, .int 1, .int 1, [("spin", .int 3)]⟩),
            ("v2", ⟨.int 1, .int 0, .int 0, .int 1, [("like", .int 2)]⟩), ("v3", .empty)]
        ∧ ∀ v snapshot, (v, snapshot) ∈ ss →
          (snapshotsOf (.list [.text v]) (.list items)).Answers statsWorld [(v, snapshot)] := by
  intro viewers items
  have hthere : statsWorld.store.refusal? [.results, .actions] = none := by decide
  have hviewers : Viewer.ids? viewers = some ["v1", "v2", "v3"] := by decide +kernel
  have htexts : ∀ k ∈ items, k.isEmpty = false → ∃ key, k = .text key := by
    intro k hk hfull
    cases k with
    | text key => exact ⟨key, rfl⟩
    | _ => simp [items, Value.isEmpty] at hk hfull
  have hkeys : (Value.list items).elements? = some items := rfl
  obtain ⟨ss, hss, _, _, hall⟩ := snapshots_sound hthere hviewers hkeys htexts
  refine ⟨hthere, hviewers, htexts, ss, hss, ?_, fun v snapshot hmem => (hall v snapshot hmem).2.2⟩
  have hrun : ((snapshotsOf viewers (.list items)).run statsWorld).1.toOption
      = some [("v1", ⟨.int 3, .int 2, .int 1, .int 1, [("spin", .int 3)]⟩),
          ("v2", ⟨.int 1, .int 0, .int 0, .int 1, [("like", .int 2)]⟩), ("v3", .empty)] := by
    decide +kernel
  rw [hss.1] at hrun
  exact Option.some.inj hrun

end Laurels
