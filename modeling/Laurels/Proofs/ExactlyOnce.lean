import Laurels.Proofs.LedgerGrowth

/-!
# Every unlock is reported exactly once

Calls that award run side by side, in any order of their steps. Each of them works from a reading of the
ledger that may be out of date by the time it adds a row, and the ledger itself decides which of two calls is
first. What links the two is the history of each call: `Call.ends` says that a call reports the rows that its own
steps have added, or fails and has added none, and `Interleaving.adder_unique` that no pair is added by the steps of
two.

`exactly_once` is the main statement. It is about every moment of a run and not only its end, since a run that
is cut short is a run.
-/

namespace Laurels

/-- A call reports a row: it has ended with an answer, and one of the new unlocks in that answer stands for
the row. -/
def Reports (calls : List Call) (qs : List (Procedure Answer)) (i : Nat) (row : UnlockRow) : Prop :=
  ∃ c answer, calls[i]? = some c ∧ qs[i]? = some (.done answer) ∧ ∃ u ∈ answer.newUnlocks, c.row u = row

/-- The action that a call records cannot be counted, as its counter is full. -/
def Call.Overruns (c : Call) (s : Store) : Prop :=
  ∃ viewer key, c = .record viewer key ∧ s.Full (Viewer.id viewer) (Viewer.id key)

/-- How calls and the ledger agree, when a run of the calls has come from one world to another. -/
structure ExactlyOnce (calls : List Call) (w : World) (es : List (Nat × Event))
    (qs : List (Procedure Answer)) (w' : World) : Prop where
  /-- The ledger holds no pair twice, if it did not from the start. -/
  distinct : (w.store.ledger.map UnlockRow.pair).Nodup → (w'.store.ledger.map UnlockRow.pair).Nodup
  /-- The rows from before are as they were. -/
  kept : w.store.ledger <+: w'.store.ledger
  /-- A reported row is in the ledger. The call that reports it has added it, and its pair was not held
  before. -/
  sound : ∀ i row, Reports calls qs i row → row ∈ w'.store.ledger
    ∧ (∃ e, (i, e) ∈ es ∧ row ∈ e.added) ∧ ¬ w.store.Holds row.viewer row.achievement
  /-- A pair is reported by one call only, and with one row. -/
  unique : ∀ i j row row', Reports calls qs i row → Reports calls qs j row' → row.pair = row'.pair →
    i = j ∧ row = row'
  /-- No call reports a pair twice. -/
  once : ∀ (i : Nat) (answer : Answer), qs[i]? = some (.done answer) →
    (answer.newUnlocks.map Unlock.pair).Nodup
  /-- Once all calls have ended, every new row is reported by exactly one. -/
  complete : (∀ q ∈ qs, q.IsEnded) → ∀ row ∈ w'.store.ledger, row ∉ w.store.ledger →
    ∃! i, Reports calls qs i row
  /-- No call fails, unless it names its viewers by no list, or records an action whose counter has no room left. -/
  answered : ∀ (i : Nat) (c : Call) (fault : Fault), calls[i]? = some c → qs[i]? = some (.raise fault) →
    ¬ c.Listed ∨ c.Overruns w'.store

namespace Interleaving

variable {calls : List Call} {outside : World → World → Prop} {w w' : World} {es : List (Nat × Event)}
  {qs : List (Procedure Answer)}

theorem lt_of_getElem? (h : Interleaving outside (calls.map Call.procedure) w es qs w') {i : Nat}
    {q : Procedure Answer} (hq : qs[i]? = some q) : i < calls.length := by
  have hlt := (List.getElem?_eq_some_iff.mp hq).1
  rwa [h.length_eq, List.length_map] at hlt

/-- **How a call that awards ends:** with an answer that reports the rows it has added, or with a fault. -/
theorem call_ends (hout : KeepsStore outside)
    (h : Interleaving outside (calls.map Call.procedure) w es qs w') (hcalls : ∀ c ∈ calls, c.Awards)
    (hready : w.store.Ready) (hread : w.store.Readable) {i : Nat} {c : Call} {q : Procedure Answer}
    (hc : calls[i]? = some c) (hq : qs[i]? = some q) (hend : q.IsEnded) :
    (∃ answer, q = .done answer ∧ addedIn (own i es) = answer.newUnlocks.map c.row)
      ∨ ∃ fault, q = .raise fault ∧ c.Fails (own i es) fault := by
  obtain ⟨q', hq', hf⟩ := h.follows_call hc
  rw [hq] at hq'
  cases hq'
  exact Call.ends (steady_inOrder w.store) hread (hcalls c (List.mem_of_getElem? hc)) hf
    (fun e he => (h.inOrder hout hready).2 _ (mem_own.mp he)) hend

/-- What a call reports is what its steps have added. -/
theorem reports_iff (hout : KeepsStore outside)
    (h : Interleaving outside (calls.map Call.procedure) w es qs w') (hcalls : ∀ c ∈ calls, c.Awards)
    (hready : w.store.Ready) (hread : w.store.Readable) {i : Nat} {q : Procedure Answer}
    (hq : qs[i]? = some q) (hend : q.IsEnded) {row : UnlockRow} :
    Reports calls qs i row ↔ row ∈ addedIn (own i es) := by
  have hlt := h.lt_of_getElem? hq
  have hc : calls[i]? = some calls[i] := List.getElem?_eq_getElem hlt
  rcases h.call_ends hout hcalls hready hread hc hq hend with
    ⟨answer, rfl, hadded⟩ | ⟨fault, rfl, hfails⟩
  · rw [hadded, List.mem_map]
    constructor
    · rintro ⟨c, answer', hc', hq', u, hu, hrow⟩
      rw [hc] at hc'
      rw [hq] at hq'
      cases hc'
      cases hq'
      exact ⟨u, hu, hrow⟩
    · rintro ⟨u, hu, hrow⟩
      exact ⟨_, answer, hc, hq, u, hu, hrow⟩
  · rw [hfails.adds_nothing]
    constructor
    · rintro ⟨c, answer, _, hq', _⟩
      rw [hq] at hq'
      cases hq'
    · intro hrow
      exact absurd hrow List.not_mem_nil

/-- A report comes from a call that has ended. -/
theorem added_of_reports (hout : KeepsStore outside)
    (h : Interleaving outside (calls.map Call.procedure) w es qs w') (hcalls : ∀ c ∈ calls, c.Awards)
    (hready : w.store.Ready) (hread : w.store.Readable) {i : Nat} {row : UnlockRow}
    (hrep : Reports calls qs i row) : row ∈ addedIn (own i es) := by
  obtain ⟨c, answer, hc, hq, hu⟩ := hrep
  exact (h.reports_iff hout hcalls hready hread hq ⟨.ok answer, rfl⟩).mp ⟨c, answer, hc, hq, hu⟩

end Interleaving

/--
**Exactly once.** Calls that award run side by side from any world whose store is in order and whose criteria
can be read; their steps come in any order, and the clock may be moved in between. Then every unlock is
reported by exactly one call, the one that added its row, and no call fails on account of another. Only a recording
whose counter is full fails.
-/
theorem exactly_once {calls : List Call} (hcalls : ∀ c ∈ calls, c.Awards) {w w' : World}
    (hready : w.store.Ready) (hread : w.store.Readable) {es : List (Nat × Event)}
    {qs : List (Procedure Answer)}
    (h : Interleaving TimePasses (calls.map Call.procedure) w es qs w') :
    ExactlyOnce calls w es qs w' where
  distinct := h.ledger_nodup keepsStore_timePasses
  kept := by
    rw [h.ledger_eq keepsStore_timePasses]
    exact List.prefix_append _ _
  sound := by
    intro i row hrep
    have hmem := h.added_of_reports keepsStore_timePasses hcalls hready hread hrep
    have hrow : row ∈ rowsAdded es := mem_rowsAdded.mpr ⟨i, hmem⟩
    refine ⟨?_, ?_, (h.added_fresh keepsStore_timePasses).2 row hrow⟩
    · rw [h.ledger_eq keepsStore_timePasses]
      exact List.mem_append_right _ hrow
    · obtain ⟨e, he, hadded⟩ := List.mem_flatMap.mp hmem
      exact ⟨e, mem_own.mp he, hadded⟩
  unique := by
    intro i j row row' hi hj hpair
    exact h.adder_unique keepsStore_timePasses
      (h.added_of_reports keepsStore_timePasses hcalls hready hread hi)
      (h.added_of_reports keepsStore_timePasses hcalls hready hread hj) hpair
  once := by
    intro i answer hq
    have hlt := h.lt_of_getElem? hq
    have hc : calls[i]? = some calls[i] := List.getElem?_eq_getElem hlt
    rcases h.call_ends keepsStore_timePasses hcalls hready hread hc hq ⟨.ok answer, rfl⟩ with
      ⟨answer', hdone, hadded⟩ | ⟨fault, hraise, _⟩
    · cases hdone
      have hsub := (addedIn_own_sublist i es).map UnlockRow.pair
      rw [hadded, List.map_map] at hsub
      exact (h.added_fresh keepsStore_timePasses).1.sublist hsub
    · cases hraise
  complete := by
    intro hends row hrow hnew
    rw [h.ledger_eq keepsStore_timePasses] at hrow
    rcases List.mem_append.mp hrow with hold | hadded
    · exact absurd hold hnew
    · -- the row was added by some call, which has ended and so reports it
      obtain ⟨i, hi⟩ := mem_rowsAdded.mp hadded
      obtain ⟨e, he, _⟩ := List.mem_flatMap.mp hi
      have hlt : i < qs.length := by
        rw [h.length_eq]
        exact h.lt_length (mem_own.mp he)
      have hq : qs[i]? = some qs[i] := List.getElem?_eq_getElem hlt
      have hrep := (h.reports_iff keepsStore_timePasses hcalls hready hread hq
        (hends _ (List.getElem_mem hlt))).mpr hi
      refine ⟨i, hrep, fun j hj => ?_⟩
      have hj' := h.added_of_reports keepsStore_timePasses hcalls hready hread hj
      exact (h.adder_unique keepsStore_timePasses hj' hi rfl).1
  answered := by
    intro i c fault hc hq
    rcases h.call_ends keepsStore_timePasses hcalls hready hread hc hq ⟨.error fault, rfl⟩ with
      ⟨answer, hdone, _⟩ | ⟨fault', _, hfails⟩
    · cases hdone
    · generalize hes : own i es = steps at hfails
      cases hfails with
      | unlisted hlist => exact Or.inl hlist
      | full viewer key time =>
        -- the reply that ended the call is in the record
        have hrefused : .asked (.countAction (.of (Viewer.id viewer) (Viewer.id key) time)) (.error (.cell .unfit))
            ∈ own i es := by
          rw [hes]
          exact List.mem_cons_of_mem _ List.mem_cons_self
        exact Or.inr ⟨viewer, key, rfl, h.full_of_refused keepsStore_timePasses (mem_own.mp hrefused)⟩

/-- A viewer has won a race, which no award has followed yet, and another viewer has an unlock from before. One
text in the catalogue is rejected. -/
def raceWorld : World where
  store :=
    { results := some [⟨1, "v1", some 1, "FINISHED"⟩]
      catalogue := some [⟨1, "First", none, false, "wins>=1"⟩, ⟨2, "Broken", none, false, "wins>>1"⟩,
        ⟨3, "Keen", none, false, "action:k>=1"⟩]
      unlocks := some [⟨"v2", 1, 5, none, none⟩]
      actions := some []
      failing := [] }
  clock := ⟨100, 1⟩
  queries := []
  log := []

/-- Three calls that are after the same unlocks, and one that is refused. -/
def raceCalls : List Call :=
  [.award (.list [.text "v1"]) (.text "a") (.text "b"), .awardRace (.text "c") (.list [.text "v1"]),
    .record (.text "v1") (.text "k"), .award (.flag true) .null .null]

/-- In the two-phase schedule the first of the calls gets the unlock that all are after. -/
theorem exactly_once_race :
    (∀ c ∈ raceCalls, c.Awards) ∧ raceWorld.store.Ready ∧ raceWorld.store.Readable
      ∧ ((Schedule.twoPhase ((raceCalls.map Call.procedure).map .procedure) raceWorld).1.map
          fun r => r.toOption.map Answer.newUnlocks)
        = [some [⟨"v1", 1, "First", 101⟩], some [], some [⟨"v1", 3, "Keen", 103⟩], none]
      ∧ ∃ es, ExactlyOnce raceCalls raceWorld es
          ((Schedule.twoPhase ((raceCalls.map Call.procedure).map .procedure) raceWorld).1.map .ended)
          (Schedule.twoPhase ((raceCalls.map Call.procedure).map .procedure) raceWorld).2 := by
  have hcalls : ∀ c ∈ raceCalls, c.Awards := by simp [raceCalls, Call.Awards]
  have hready : raceWorld.store.Ready := by decide
  have hread : raceWorld.store.Readable := by decide +kernel
  obtain ⟨es, h⟩ := interleaving_twoPhase TimePasses (raceCalls.map Call.procedure) raceWorld
  exact ⟨hcalls, hready, hread, by decide +kernel, es, exactly_once hcalls hready hread h⟩

end Laurels
