import Laurels.Proofs.Unanswered

/-!
# The queries of a report

A report asks for the catalogue, the race counts, the counters if some rule reads one, and the times of the unlocks, in
this order. A query that fails ends it. So does a criteria text that cannot be read, and that comes to light as soon as
the catalogue is there, so that nothing else is asked for. `Store.inquiry` lists the queries, `Store.asked` those that
are made, and `Store.firstFault?` is the fault of the first that fails.

`p.WorksThrough s qs fin` says that `p` makes its way through `qs` on the store `s`. It is put together from the parts
of `p`, one query after the other (`WorksThrough.seq`). For a report it is shown in two halves, because there may be no
report although every query is answered: `reportFor_reported` and `reportFor_unreported`.
-/

namespace Laurels

namespace Store

/-- The fault of the first among queries that fails, if one does. -/
def firstFault? (s : Store) : List Query → Option StoreFault
  | [] => none
  | q :: qs =>
    match (s.answer q).1 with
    | .ok _ => s.firstFault? qs
    | .error fault => some fault

/-- Queries up to the first that fails, which is the last one asked. -/
def asked (s : Store) : List Query → List Query
  | [] => []
  | q :: qs => if (s.answer q).1.isOk then q :: s.asked qs else [q]

/-- The queries of a report on a viewer, if each of them is answered. -/
def inquiry (s : Store) (viewer : String) : List Query :=
  .activeAchievements ::
    if s.Readable then
      .raceTallies [.text viewer] ::
        ((if (Rule.wanted s.rules).isEmpty then [] else [.actionCounts [.text viewer] (Rule.wanted s.rules)])
          ++ [.unlockTimes (.text viewer)])
    else []

/-- There is no report on a viewer, even if every query is answered: a text cannot be read, or some rule has no
entry. -/
def Unreported (s : Store) (viewer : String) : Prop :=
  ¬ s.Readable ∨ ∃ rule ∈ s.rules, ∀ e, s.entry viewer rule ≠ .ok e

variable {s : Store} {q : Query} {qs qs₁ : List Query} {fault : StoreFault}

theorem firstFault?_cons_of_ok {reply : q.Reply} (h : (s.answer q).1 = .ok reply) :
    s.firstFault? (q :: qs) = s.firstFault? qs := by
  rw [firstFault?, h]

theorem firstFault?_cons_of_error (h : (s.answer q).1 = .error fault) : s.firstFault? (q :: qs) = some fault := by
  rw [firstFault?, h]

theorem asked_cons_of_ok {reply : q.Reply} (h : (s.answer q).1 = .ok reply) :
    s.asked (q :: qs) = q :: s.asked qs := by
  rw [asked, h]
  rfl

theorem asked_cons_of_error (h : (s.answer q).1 = .error fault) : s.asked (q :: qs) = [q] := by
  rw [asked, h]
  rfl

theorem firstFault?_append (qs₂ : List Query) :
    s.firstFault? (qs₁ ++ qs₂) = (s.firstFault? qs₁).or (s.firstFault? qs₂) := by
  induction qs₁ with
  | nil => rfl
  | cons q qs₁ ih =>
    rw [List.cons_append]
    cases hreply : (s.answer q).1 with
    | ok reply => rw [firstFault?_cons_of_ok hreply, firstFault?_cons_of_ok hreply, ih]
    | error fault => rw [firstFault?_cons_of_error hreply, firstFault?_cons_of_error hreply, Option.some_or]

theorem asked_append_of_none (h : s.firstFault? qs₁ = none) (qs₂ : List Query) :
    s.asked (qs₁ ++ qs₂) = s.asked qs₁ ++ s.asked qs₂ := by
  induction qs₁ with
  | nil => rfl
  | cons q qs₁ ih =>
    rw [List.cons_append]
    cases hreply : (s.answer q).1 with
    | ok reply =>
      rw [firstFault?_cons_of_ok hreply] at h
      rw [asked_cons_of_ok hreply, asked_cons_of_ok hreply, ih h, List.cons_append]
    | error fault =>
      rw [firstFault?_cons_of_error hreply] at h
      cases h

theorem asked_append_of_some (h : s.firstFault? qs₁ = some fault) (qs₂ : List Query) :
    s.asked (qs₁ ++ qs₂) = s.asked qs₁ := by
  induction qs₁ with
  | nil => cases h
  | cons q qs₁ ih =>
    rw [List.cons_append]
    cases hreply : (s.answer q).1 with
    | ok reply =>
      rw [firstFault?_cons_of_ok hreply] at h
      rw [asked_cons_of_ok hreply, asked_cons_of_ok hreply, ih h]
    | error fault => rw [asked_cons_of_error hreply, asked_cons_of_error hreply]

end Store

namespace Procedure

variable {α β : Type}

/-- What came of working through queries. -/
structure WorkedThrough (w : World) (qs : List Query) (fin : Except Fault α → Prop) (r : Except Fault α × World) :
    Prop where
  store : r.2.store = w.store
  queries : r.2.queries = w.queries ++ w.store.asked qs
  /-- The first query that fails decides how it ends. -/
  stopped : ∀ fault, w.store.firstFault? qs = some fault → r.1 = .error (.store fault)
  through : w.store.firstFault? qs = none → fin r.1

namespace WorkedThrough

variable {w : World} {qs : List Query} {fin : Except Fault α → Prop} {r : Except Fault α × World}

theorem of_some {fault : StoreFault} (hfirst : w.store.firstFault? qs = some fault) (hr : r.1 = .error (.store fault))
    (hstore : r.2.store = w.store) (hqueries : r.2.queries = w.queries ++ w.store.asked qs) :
    WorkedThrough w qs fin r where
  store := hstore
  queries := hqueries
  stopped fault' hfault := by
    rw [hr, Option.some.inj (hfirst.symm.trans hfault)]
  through hnone := by
    rw [hfirst] at hnone
    cases hnone

theorem of_none (hfirst : w.store.firstFault? qs = none) (hfin : fin r.1) (hstore : r.2.store = w.store)
    (hqueries : r.2.queries = w.queries ++ w.store.asked qs) : WorkedThrough w qs fin r where
  store := hstore
  queries := hqueries
  stopped fault hfault := by
    rw [hfirst] at hfault
    cases hfault
  through _ := hfin

end WorkedThrough

/-- A procedure makes one query after the other on a store, which stays as it is. The first query that fails ends it,
and if none does, it ends in accordance with `fin`. -/
def WorksThrough (p : Procedure α) (s : Store) (qs : List Query) (fin : Except Fault α → Prop) : Prop :=
  ∀ w : World, w.store = s → WorkedThrough w qs fin (p.run w)

variable {p : Procedure α} {s : Store} {qs qs₁ qs₂ : List Query}

/-- What asks nothing changes nothing that queries change. -/
theorem Asks.run_silent (h : p.Asks fun _ => False) (w : World) :
    (p.run w).2.store = w.store ∧ (p.run w).2.queries = w.queries := by
  induction p generalizing w with
  | done a => exact ⟨rfl, rfl⟩
  | raise fault => exact ⟨rfl, rfl⟩
  | query q next ih => exact False.elim ((h.takes (.asked q next (w.store.answer q).1)).1 q _ rfl)
  | now next ih => exact ih _ (h.takes (.told next _)).2 _
  | log line next ih => exact ih (h.takes (.wrote line next)).2 _

theorem WorksThrough.mono {fin fin' : Except Fault α → Prop} (h : p.WorksThrough s qs fin)
    (himp : ∀ r, fin r → fin' r) : p.WorksThrough s qs fin' := by
  intro w hw
  have hp := h w hw
  exact ⟨hp.store, hp.queries, hp.stopped, fun hnone => himp _ (hp.through hnone)⟩

theorem worksThrough_nil (h : p.Asks fun _ => False) {fin : Except Fault α → Prop}
    (hfin : ∀ w : World, w.store = s → fin (p.run w).1) : p.WorksThrough s [] fin := by
  intro w hw
  obtain ⟨hstore, hqueries⟩ := h.run_silent w
  exact ⟨hstore, hqueries.trans (List.append_nil _).symm, nofun, fun _ => hfin w hw⟩

theorem worksThrough_done {a : α} {fin : Except Fault α → Prop} (h : fin (.ok a)) :
    (Procedure.done a).WorksThrough s [] fin :=
  worksThrough_nil (asks_done a) fun _ _ => h

/-- A query that only reads is one to work through. -/
theorem worksThrough_ask {q : Query} {reply : q.Reply} (hserve : s.serve q = .ok (reply, s)) :
    (ask q).WorksThrough s [q] fun r => ∃ a, r = .ok a ∧ a = reply := by
  rintro w rfl
  have hrun : ((ask q).run w).2 = (w.ask q).2 := by
    unfold ask run
    cases (w.ask q).1 <;> rfl
  have hqueries : ((ask q).run w).2.queries = w.queries ++ [q] := congrArg World.queries hrun
  cases hrefusal : w.store.refusal? q.tables with
  | none =>
    have hanswer : w.store.answer q = (.ok reply, w.store) := by
      rw [Store.answer_of_refusal?_eq_none hrefusal, hserve]
    have hreply := congrArg Prod.fst hanswer
    obtain ⟨hr, hs⟩ := run_ask hanswer
    refine .of_none ((Store.firstFault?_cons_of_ok hreply).trans rfl) ⟨reply, hr, rfl⟩ hs ?_
    rw [hqueries, Store.asked_cons_of_ok hreply]
    rfl
  | some fault =>
    have hanswer : w.store.answer q = (.error fault, w.store) := by
      unfold Store.answer
      rw [hrefusal]
    have hreply := congrArg Prod.fst hanswer
    obtain ⟨hr, hs⟩ := ask_fails hanswer
    refine .of_some (Store.firstFault?_cons_of_error hreply) hr hs ?_
    rw [hqueries, Store.asked_cons_of_error hreply]

/-- One procedure works through its queries, and then, if it has an answer, another through others. -/
theorem WorksThrough.seq {post : α → Prop} {f : α → Procedure β} {fin : Except Fault β → Prop}
    (h : p.WorksThrough s qs₁ fun r => ∃ a, r = .ok a ∧ post a)
    (hf : ∀ a, post a → (f a).WorksThrough s qs₂ fin) : (p >>= f).WorksThrough s (qs₁ ++ qs₂) fin := by
  rintro w rfl
  have hp := h w rfl
  cases hfirst : w.store.firstFault? qs₁ with
  | some fault =>
    -- the second one does not begin
    rw [run_seq_of_error (hp.stopped fault hfirst)]
    refine .of_some ?_ rfl hp.store ?_
    · rw [Store.firstFault?_append, hfirst, Option.some_or]
    · rw [Store.asked_append_of_some hfirst]
      exact hp.queries
  | none =>
    obtain ⟨a, hr, ha⟩ := hp.through hfirst
    have hq := hf a ha (p.run w).2 hp.store
    have hall : w.store.firstFault? (qs₁ ++ qs₂) = (p.run w).2.store.firstFault? qs₂ := by
      rw [Store.firstFault?_append, hfirst, Option.none_or, hp.store]
    rw [run_seq hr]
    refine ⟨hq.store.trans hp.store, ?_, fun fault hfault => hq.stopped fault (hall ▸ hfault),
      fun hnone => hq.through (hall ▸ hnone)⟩
    rw [hq.queries, hp.queries, hp.store, Store.asked_append_of_none hfirst, List.append_assoc]

/-- The procedure that comes last has no queries left. -/
theorem WorksThrough.last {post : α → Prop} {f : α → Procedure β} {fin : Except Fault β → Prop}
    (h : p.WorksThrough s qs fun r => ∃ a, r = .ok a ∧ post a) (hf : ∀ a, post a → (f a).WorksThrough s [] fin) :
    (p >>= f).WorksThrough s qs fin :=
  List.append_nil qs ▸ h.seq hf

/-- What never has an answer is not gone on from. -/
theorem WorksThrough.ends {post : Fault → Prop}
    (h : p.WorksThrough s qs fun r => ∃ fault, r = .error fault ∧ post fault) (f : α → Procedure β) :
    (p >>= f).WorksThrough s qs fun r => ∃ fault, r = .error fault ∧ post fault := by
  rintro w rfl
  have hp := h w rfl
  cases hfirst : w.store.firstFault? qs with
  | some fault =>
    rw [run_seq_of_error (hp.stopped fault hfirst)]
    exact .of_some hfirst rfl hp.store hp.queries
  | none =>
    obtain ⟨fault, hr, hpost⟩ := hp.through hfirst
    rw [run_seq_of_error hr]
    exact .of_none hfirst ⟨fault, rfl, hpost⟩ hp.store hp.queries

/-! ## A report -/

theorem compile_worksThrough (hread : s.Readable) :
    (compile false (Store.active s.catalogueRows)).WorksThrough s [] fun r =>
      ∃ rules, r = .ok rules ∧ rules = s.rules := by
  refine worksThrough_nil (compile_asks false _) fun w hw => ?_
  obtain ⟨_, rules, hanswers, _, _, hrules⟩ :=
    (compile_ensures false fun _ ha hid _ => hread.active ha hid).answers (compile_asks false _) hw
  exact ⟨rules, hanswers.1, hrules⟩

theorem compute_worksThrough {x : Except NumberFault α} {a : α} (h : x = .ok a) :
    (compute x).WorksThrough s [] fun r => ∃ b, r = .ok b ∧ b = a := by
  subst h
  exact worksThrough_done ⟨a, rfl, rfl⟩

/-- The counters of a viewer are asked for only if there are keys. -/
theorem fetchCounts_worksThrough (viewer : String) (keys : List String) :
    (fetchCounts [.text viewer] (keys.map .text)).WorksThrough s
      (if (keys.map Value.text).isEmpty then [] else [.actionCounts [.text viewer] (keys.map .text)])
      fun r => ∃ counts, r = .ok counts ∧ counts = Store.counts s.counterRows [viewer] keys := by
  unfold fetchCounts
  cases keys with
  | nil =>
    refine worksThrough_done ⟨[], rfl, ?_⟩
    unfold Store.counts
    rw [List.filter_eq_nil_iff.mpr (by simp)]
    rfl
  | cons key keys =>
    refine worksThrough_ask ?_
    simp only [Store.serve, Value.texts_map_text]
    rfl

theorem takeSnapshots_worksThrough (viewer : String) (keys : List String) :
    (takeSnapshots [viewer] (keys.map .text)).WorksThrough s
      (.raceTallies [.text viewer] ::
        if (keys.map Value.text).isEmpty then [] else [.actionCounts [.text viewer] (keys.map .text)])
      fun r => ∃ snapshots, r = .ok snapshots ∧ snapshots = [viewer].map fun v =>
        (v, Snapshot.ofFetched (Store.tallies s.resultRows [viewer]) (Store.counts s.counterRows [viewer] keys) v) := by
  unfold takeSnapshots
  rw [if_neg (by simp)]
  refine (worksThrough_ask (q := .raceTallies [.text viewer]) rfl).seq ?_
  rintro _ rfl
  refine (fetchCounts_worksThrough viewer keys).last ?_
  rintro _ rfl
  exact worksThrough_done ⟨_, rfl, rfl⟩

/-- With every text read, it is the numbers of the entries that decide. -/
theorem reportFor_worksThrough (hread : s.Readable) {viewer : String} {fin : Except Fault Report → Prop}
    (h : (compute (s.rules.mapM (s.entry viewer)) >>= fun entries =>
      Procedure.done ⟨viewer, s.fetched viewer, entries⟩).WorksThrough s [] fin) :
    (reportFor viewer).WorksThrough s (s.inquiry viewer) fin := by
  unfold reportFor Store.inquiry
  rw [if_pos hread]
  refine (worksThrough_ask (q := .activeAchievements) rfl).seq ?_
  rintro _ rfl
  refine (compile_worksThrough hread).seq ?_
  rintro _ rfl
  refine (takeSnapshots_worksThrough viewer _).seq ?_
  rintro _ rfl
  refine WorksThrough.last (worksThrough_ask (q := .unlockTimes (.text viewer)) rfl) ?_
  rintro _ rfl
  -- no entry can tell what was fetched from what there is
  have htaken : ∀ rule ∈ s.rules, _ = s.entry viewer rule := fun rule => entry_taken viewer
  rw [← mapM_congr htaken, ← snapshot_taken] at h
  exact h

/-- **A report is made** once its queries are answered, if every text is read and every rule has an entry. -/
theorem reportFor_reported {viewer : String} (h : ¬ s.Unreported viewer) :
    (reportFor viewer).WorksThrough s (s.inquiry viewer) fun r =>
      ∃ report, r = .ok report ∧ Reported s viewer report := by
  unfold Store.Unreported at h
  push Not at h
  obtain ⟨hread, hentries⟩ := h
  obtain ⟨entries, hm, hmap⟩ := map_eq_of_mapM_eq_ok hentries
  refine reportFor_worksThrough hread ((compute_worksThrough hm).last ?_)
  rintro _ rfl
  exact worksThrough_done ⟨_, rfl, rfl, rfl, hmap⟩

/-- **Otherwise it is not,** and not for anything that a viewer or a missing table could be blamed for. -/
theorem reportFor_unreported {viewer : String} (h : s.Unreported viewer) :
    (reportFor viewer).WorksThrough s (s.inquiry viewer) fun r =>
      ∃ fault, r = .error fault ∧ fault.refusal? = none := by
  by_cases hread : s.Readable
  · obtain ⟨fault, hfault⟩ := mapM_eq_error (h.resolve_left (not_not_intro hread))
    refine reportFor_worksThrough hread (WorksThrough.ends ?_ _)
    rw [hfault]
    exact worksThrough_nil (asks_compute _) fun _ _ => ⟨.number fault, rfl, rfl⟩
  · -- what cannot be read is met with before anything else is asked for
    obtain ⟨digits, hcompile⟩ := compile_fails false (Store.not_readable hread)
    unfold reportFor Store.inquiry
    rw [if_neg hread]
    refine (worksThrough_ask (q := .activeAchievements) rfl).seq ?_
    rintro _ rfl
    refine WorksThrough.ends (worksThrough_nil (compile_asks false _) fun w _ => ?_) _
    exact ⟨_, (hcompile w).1, rfl⟩

/-- **What becomes of a report.** It makes its queries in order, and the first that fails ends it. -/
theorem reportFor_inquires (s : Store) (viewer : String) :
    (reportFor viewer).WorksThrough s (s.inquiry viewer) fun r =>
      (s.Unreported viewer ∧ ∃ fault, r = .error fault ∧ fault.refusal? = none)
        ∨ (¬ s.Unreported viewer ∧ ∃ report, r = .ok report ∧ Reported s viewer report) := by
  by_cases h : s.Unreported viewer
  · exact (reportFor_unreported h).mono fun _ hr => Or.inl ⟨h, hr⟩
  · exact (reportFor_reported h).mono fun _ hr => Or.inr ⟨h, hr⟩

end Procedure

end Laurels
