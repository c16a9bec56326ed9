import Laurels.Proofs.ActionRun
import Laurels.Proofs.Amid
import Laurels.Proofs.NoneMissed

/-!
# The event comes first

An action is counted and race results are saved whatever becomes of the award that follows. The award may fail in
many ways: a table is missing or out of reach, at the first query or in the middle of the inserts, or a criteria text
cannot be read. A missing table is dealt with in the award, all else around it (`Amid.of_passFailed`), and nothing is
dealt with around the counting.

`event_first` puts the two events together. It is about any store, whichever tables it has, and about failures that
come and go between any two steps (`ReachShifts`).
-/

namespace Laurels

/-- What may befall a store at any time: tables go out of reach, or come back into it. -/
def ReachShifts (w u : World) : Prop :=
  ∃ failing, u = { w with store := { w.store with failing := failing } }

/-- Two stores with the same tables and rows. -/
structure Store.SameTables (s s' : Store) : Prop where
  results : s'.results = s.results
  catalogue : s'.catalogue = s.catalogue
  unlocks : s'.unlocks = s.unlocks
  actions : s'.actions = s.actions

/-- The tables of a store once an action is counted: its counter has moved, and the ledger has been added to at most. -/
structure Store.CountedIn (viewer key : String) (time : Int) (s s' : Store) : Prop where
  results : s'.results = s.results
  catalogue : s'.catalogue = s.catalogue
  actions : s'.actions = (s.counted viewer key time).actions
  ledger : s.ledger <+: s'.ledger

/-! ## One counter moves -/

/-- The counters before and after one more action: one row is begun or moved, and all others are as they were. -/
inductive CounterMoved (viewer key : String) (time : Int) : List ActionRow → List ActionRow → Prop
  | begun (rows : List ActionRow) (new : ∀ r ∈ rows, Store.isCounterOf viewer key r = false) :
      CounterMoved viewer key time rows (rows ++ [⟨viewer, key, 1, some time, some time⟩])
  | moved (before : List ActionRow) (r : ActionRow) (after : List ActionRow)
      (own : Store.isCounterOf viewer key r = true) :
      CounterMoved viewer key time (before ++ r :: after)
        (before ++ { r with count := r.count + 1, first := r.first.or (some time), last := some time } :: after)

namespace Store

theorem map_again_eq_self {viewer key : String} {time : Option Int} {rows : List ActionRow}
    (h : ∀ r ∈ rows, isCounterOf viewer key r = false) :
    rows.map (fun r => if isCounterOf viewer key r then ActionRow.again time r else r) = rows := by
  refine (List.map_congr_left fun r hr => ?_).trans (List.map_id _)
  rw [h r hr]
  rfl

/-- Rows that are keyed have one row of a counter at most. -/
theorem filter_of_keyed {rows : List ActionRow} (hkeyed : (rows.map fun r => (r.viewer, r.key)).Nodup)
    (viewer key : String) : rows.filter (isCounterOf viewer key) = (rows.find? (isCounterOf viewer key)).toList := by
  rw [← List.head?_filter]
  have hsub := hkeyed.sublist ((List.filter_sublist (p := isCounterOf viewer key)).map fun r => (r.viewer, r.key))
  have hpair : ∀ r ∈ rows.filter (isCounterOf viewer key), (r.viewer, r.key) = (viewer, key) := by
    intro r hr
    obtain ⟨hviewer, hkey⟩ := isCounterOf_iff.mp (List.mem_filter.mp hr).2
    rw [hviewer, hkey]
  generalize rows.filter (isCounterOf viewer key) = own at hsub hpair ⊢
  match own with
  | [] => rfl
  | [r] => rfl
  | r :: r' :: own =>
    -- two rows of one counter would have the same key
    rw [List.map_cons, List.map_cons, hpair r (by simp), hpair r' (by simp)] at hsub
    simp at hsub

/-- **One counter moves,** where each viewer and key have one at most. -/
theorem counterMoved_countOnce {rows : List ActionRow} (hkeyed : (rows.map fun r => (r.viewer, r.key)).Nodup)
    (viewer key : String) (time : Int) :
    CounterMoved viewer key time rows (countOnce rows viewer key (some time)).2 := by
  unfold countOnce
  cases hfind : rows.find? (isCounterOf viewer key) with
  | none => exact .begun rows fun r hr => by simpa using List.find?_eq_none.mp hfind r hr
  | some r =>
    obtain ⟨hown, before, after, rfl, hbefore⟩ := List.find?_eq_some_iff_append.mp hfind
    have hbefore' : ∀ a ∈ before, isCounterOf viewer key a = false := fun a ha => by simpa using hbefore a ha
    -- it is the only one of its counter
    have hafter : ∀ a ∈ after, isCounterOf viewer key a = false := by
      have hrows := filter_of_keyed hkeyed viewer key
      have hnone : before.filter (isCounterOf viewer key) = [] := by simpa using hbefore'
      rw [hfind, List.filter_append, hnone, List.filter_cons_of_pos hown] at hrows
      simpa using hrows
    dsimp only
    rw [List.map_append, List.map_cons, map_again_eq_self hbefore',
      map_again_eq_self hafter, if_pos hown]
    exact .moved before r after hown

/-- Counting an action is answered with a fault, and then nothing has happened, or with the new count. -/
theorem answer_countAction_or (s : Store) (viewer key : String) (time : Int) :
    (∃ fault, s.answer (.countAction (.of viewer key time)) = (.error fault, s))
      ∨ s.answer (.countAction (.of viewer key time))
          = (.ok (s.counter viewer key + 1), s.counted viewer key time) := by
  rcases s.answer_countAction_cases viewer key time with ⟨fault, _, hanswer⟩ | ⟨_, hanswer⟩ | ⟨_, hanswer⟩
  · exact Or.inl ⟨fault, hanswer⟩
  · exact Or.inl ⟨_, hanswer⟩
  · exact Or.inr hanswer

end Store

/-! ## Passes that must not fail -/

/-- How a pass ends whose failure is only noted: as it ends by itself, or, if it fails, with nothing awarded. -/
inductive Survives (outside : World → World → Prop) (pass : Procedure (List Unlock)) (w : World) :
    List Event → List Unlock → Prop
  | answered {es : List Event} {us : List Unlock} {v : World} (ends : Amid outside pass w es (.done us) v) :
      Survives outside pass w es us
  | failed {es : List Event} {fault : Fault} {v : World} (ends : Amid outside pass w es (.raise fault) v)
      (line : LogLine) : Survives outside pass w (es ++ [.wrote line]) []

theorem Amid.of_passFailed {outside : World → World → Prop} {pass : Procedure (List Unlock)} {after : String}
    {w v : World} {es : List Event} {r : Except Fault (List Unlock)}
    (h : Amid outside (pass.rescue (passFailed after)) w es (.ended r) v) :
    ∃ us, r = .ok us ∧ Survives outside pass w es us := by
  rcases h.of_rescue with ⟨us, rfl, hends⟩ | ⟨fault, es₁, es₂, u, rfl, hends, hnoted⟩
  · exact ⟨us, rfl, .answered hends⟩
  · obtain ⟨_, es', _, rfl, hlast⟩ := Amid.of_log hnoted
    obtain ⟨rfl, hr, _⟩ := Amid.of_ended (r := .ok []) hlast
    cases r with
    | error fault => cases hr
    | ok us =>
      cases hr
      exact ⟨[], rfl, .failed hends _⟩

/-! ## The two events -/

/-- **What becomes of a race award:** it is answered. -/
structure RaceAnswered (competition viewers : Value) : Prop where
  /-- An answer comes, whatever the store is like. -/
  alone : ∀ w, ∃ us, ((awardRace competition viewers).run w).1 = .ok us
  /-- Where the award by itself would have failed, nothing is awarded. -/
  failed : ∀ w fault, ((award viewers (.text "competition") (.text competition.asText)).run w).1 = .error fault →
    ((awardRace competition viewers).run w).1 = .ok []
  /-- And so it is if tables go out of reach and come back at any step. -/
  amid : ∀ w es r v, Amid ReachShifts (awardRace competition viewers) w es (.ended r) v →
    ∃ us, r = .ok us
      ∧ Survives ReachShifts (award viewers (.text "competition") (.text competition.asText)) w es us

theorem raceAnswered (competition viewers : Value) : RaceAnswered competition viewers where
  alone := by
    intro w
    obtain ⟨es, h⟩ := amid_run (fun _ _ => False) (awardRace competition viewers) w
    obtain ⟨us, hus, _⟩ := Amid.of_passFailed h
    exact ⟨us, hus⟩
  failed := by
    intro w fault hfault
    unfold awardRace
    rw [Procedure.run_rescue_of_error hfault]
    rfl
  amid := fun _ _ _ _ => Amid.of_passFailed

/-- **What becomes of the recording of an action,** told by the reply of the counters, the steps after it, the end
and the world at the end: it is refused with no table changed, or counted. -/
inductive Kept (viewer key : String) (time : Int) (w : World) :
    Except StoreFault Int → List Event → Except Fault ActionOutcome → World → Prop
  | refused {fault : StoreFault} {v : World} (same : w.store.SameTables v.store) :
      Kept viewer key time w (.error fault) [] (.error (.store fault)) v
  | counted {u v : World} {line : LogLine} {es : List Event} {us : List Unlock}
      (before : Store.CountedIn viewer key time w.store u.store)
      (survives : Survives ReachShifts (awardIds (Viewer.distinct [viewer]) "action" key) u es us)
      (after : Store.CountedIn viewer key time w.store v.store)
      (moved : (w.store.counterRows.map fun r => (r.viewer, r.key)).Nodup →
        CounterMoved viewer key time w.store.counterRows v.store.counterRows) :
      Kept viewer key time w (.ok (w.store.counter viewer key + 1)) (.wrote line :: es)
        (.ok (.counted viewer key (w.store.counter viewer key + 1) time us)) v

section

open Relation (ReflTransGen)

namespace Store.SameTables

variable {s s' s'' : Store}

theorem refl (s : Store) : s.SameTables s := ⟨rfl, rfl, rfl, rfl⟩

theorem trans (h : s.SameTables s') (h' : s'.SameTables s'') : s.SameTables s'' where
  results := h'.results.trans h.results
  catalogue := h'.catalogue.trans h.catalogue
  unlocks := h'.unlocks.trans h.unlocks
  actions := h'.actions.trans h.actions

theorem counter_eq (h : s.SameTables s') (viewer key : String) : s'.counter viewer key = s.counter viewer key := by
  unfold counter counterRows
  rw [h.actions]

end Store.SameTables

theorem ReachShifts.sameTables {w u : World} (h : ReflTransGen ReachShifts w u) : w.store.SameTables u.store := by
  induction h with
  | refl => exact .refl w.store
  | tail _ change ih =>
    obtain ⟨failing, rfl⟩ := change
    exact ⟨ih.results, ih.catalogue, ih.unlocks, ih.actions⟩

namespace Store.CountedIn

variable {viewer key : String} {time : Int} {s s' s'' : Store}

theorem sameTables (h : CountedIn viewer key time s s') (h' : s'.SameTables s'') : CountedIn viewer key time s s'' where
  results := h'.results.trans h.results
  catalogue := h'.catalogue.trans h.catalogue
  actions := h'.actions.trans h.actions
  ledger := by
    unfold Store.ledger
    rw [h'.unlocks]
    exact h.ledger

theorem answer (h : CountedIn viewer key time s s') {q : Query} (hq : q.OfPass) :
    CountedIn viewer key time s (s'.answer q).2 where
  results := (congrArg Store.results (answer_of_ofPass hq)).trans h.results
  catalogue := (congrArg Store.catalogue (answer_of_ofPass hq)).trans h.catalogue
  actions := (congrArg Store.actions (answer_of_ofPass hq)).trans h.actions
  ledger := by
    rw [ledger_answer]
    exact h.ledger.trans (List.prefix_append _ _)

/-- The store that has just counted an action. -/
theorem of_counted (h : s.SameTables s') : CountedIn viewer key time s (s'.counted viewer key time) where
  results := h.results
  catalogue := h.catalogue
  actions := by
    unfold counted counterRows
    rw [h.actions]
  ledger := by
    unfold Store.ledger counted
    simp only [h.unlocks, List.prefix_refl]

theorem counterMoved (h : CountedIn viewer key time s s')
    (hkeyed : (s.counterRows.map fun r => (r.viewer, r.key)).Nodup) :
    CounterMoved viewer key time s.counterRows s'.counterRows := by
  have hrows : s'.counterRows = (countOnce s.counterRows viewer key (some time)).2 := by
    show s'.actions.getD [] = _
    rw [h.actions]
    rfl
  rw [hrows]
  exact counterMoved_countOnce hkeyed viewer key time

end Store.CountedIn

/-- What follows the counting of an action does not fail, and leaves the counter as it is. -/
theorem awardCounted_kept {viewer key : String} {time count : Int} {s : Store} {w v : World} {es : List Event}
    {r : Except Fault ActionOutcome} (hw : Store.CountedIn viewer key time s w.store)
    (h : Amid ReachShifts (Procedure.awardCounted viewer key time count) w es (.ended r) v) :
    ∃ line es' u us, es = .wrote line :: es' ∧ r = .ok (.counted viewer key count time us)
      ∧ Store.CountedIn viewer key time s u.store
      ∧ Survives ReachShifts (awardIds (Viewer.distinct [viewer]) "action" key) u es' us
      ∧ Store.CountedIn viewer key time s v.store := by
  have hkept : ∀ {α : Type} {p q : Procedure α} {w v : World} {es : List Event}, p.Asks Query.OfPass →
      Amid ReachShifts p w es q v → Store.CountedIn viewer key time s w.store →
      Store.CountedIn viewer key time s v.store := fun hasks h =>
    h.invariant hasks (fun _ _ hwu hw => hw.sameTables (ReachShifts.sameTables (.single hwu)))
      fun _ _ hq hs => hs.answer hq
  have hlast := hkept (Procedure.awardCounted_asks viewer key time count) h hw
  unfold Procedure.awardCounted at h
  rcases Amid.of_bind h with ⟨_, es₁, es₂, u, rfl, hwrite, hrest⟩ | ⟨fault, _, hwrite⟩
  · have hu := hkept (Procedure.asks_write _ _) hwrite hw
    obtain ⟨_, rfl⟩ := Amid.of_write (r := .ok ()) hwrite
    rcases Amid.of_bind hrest with ⟨us, es₃, es₄, m, rfl, hpass, hdone⟩ | ⟨fault, _, hpass⟩
    · obtain ⟨us', hus, hsurvives⟩ := Amid.of_passFailed (r := .ok us) hpass
      cases hus
      obtain ⟨rfl, hr, _⟩ := Amid.of_ended (r := .ok _) hdone
      rw [List.append_nil]
      refine ⟨_, es₃, u, us, rfl, ?_, hu, hsurvives, hlast⟩
      cases r <;> cases hr
      rfl
    · obtain ⟨us', hus, _⟩ := Amid.of_passFailed (r := .error fault) hpass
      cases hus
  · obtain ⟨hr, _⟩ := Amid.of_write (r := .error fault) hwrite
    cases hr

theorem recordAction_kept {viewer key : Value} (hviewer : Viewer.id viewer ≠ "") (hkey : Viewer.id key ≠ "")
    {w v : World} {es : List Event} {r : Except Fault ActionOutcome}
    (h : Amid ReachShifts (recordAction viewer key) w es (.ended r) v) :
    ∃ time reply rest,
      es = .told time :: .asked (.countAction (.of (Viewer.id viewer) (Viewer.id key) time)) reply :: rest
        ∧ Kept (Viewer.id viewer) (Viewer.id key) time w reply rest r v := by
  unfold recordAction at h
  rw [if_neg (by simp [hviewer, hkey]), Procedure.countAndAward_eq] at h
  obtain ⟨u₁, es₁, hreach₁, rfl, h₁⟩ := Amid.of_now h
  obtain ⟨u₂, es₂, hreach₂, rfl, h₂⟩ := Amid.of_query h₁
  -- whatever is out of reach by now, the tables are as they were
  have hsame₂ := ReachShifts.sameTables hreach₂
  have hsame : w.store.SameTables u₂.store := (ReachShifts.sameTables hreach₁).trans hsame₂
  refine ⟨u₁.clock.ms, _, es₂, rfl, ?_⟩
  rcases u₂.store.answer_countAction_or (Viewer.id viewer) (Viewer.id key) u₁.clock.ms with
    ⟨fault, hanswer⟩ | hanswer
  · have hreply : (u₂.ask (.countAction (.of (Viewer.id viewer) (Viewer.id key) u₁.clock.ms))).1 = .error fault :=
      congrArg Prod.fst hanswer
    have hstore : (u₂.ask (.countAction (.of (Viewer.id viewer) (Viewer.id key) u₁.clock.ms))).2.store = u₂.store :=
      congrArg Prod.snd hanswer
    rw [hreply] at h₂ ⊢
    obtain ⟨rfl, hr, hreach⟩ := Amid.of_ended (r := .error (.store fault)) h₂
    cases r <;> cases hr
    have hlast := ReachShifts.sameTables hreach
    rw [hstore] at hlast
    exact .refused (hsame.trans hlast)
  · have hreply : (u₂.ask (.countAction (.of (Viewer.id viewer) (Viewer.id key) u₁.clock.ms))).1
        = .ok (w.store.counter (Viewer.id viewer) (Viewer.id key) + 1) := by
      rw [← hsame.counter_eq]
      exact congrArg Prod.fst hanswer
    have hstore : (u₂.ask (.countAction (.of (Viewer.id viewer) (Viewer.id key) u₁.clock.ms))).2.store
        = u₂.store.counted (Viewer.id viewer) (Viewer.id key) u₁.clock.ms := congrArg Prod.snd hanswer
    have hcounted : Store.CountedIn (Viewer.id viewer) (Viewer.id key) u₁.clock.ms w.store
        (u₂.store.counted (Viewer.id viewer) (Viewer.id key) u₁.clock.ms) := .of_counted hsame
    rw [← hstore] at hcounted
    rw [hreply] at h₂ ⊢
    obtain ⟨line, es', u, us, rfl, rfl, hbefore, hsurvives, hafter⟩ := awardCounted_kept hcounted h₂
    exact .counted hbefore hsurvives hafter hafter.counterMoved

end

/-- **What becomes of the recording of an action.** -/
structure RecordingAnswered (viewer key : Value) : Prop where
  /-- Without a viewer or a key it is skipped, and takes no step at all. -/
  skipped : Viewer.id viewer = "" ∨ Viewer.id key = "" → recordAction viewer key = .done .skipped
  /-- Otherwise it fails where the counters refuse to count, and only there. -/
  fails_iff : Viewer.id viewer ≠ "" → Viewer.id key ≠ "" → ∀ w : World,
    (∃ fault, ((recordAction viewer key).run w).1 = .error fault)
      ↔ ∃ fault, (w.store.answer (.countAction (.of (Viewer.id viewer) (Viewer.id key) w.clock.ms))).1 = .error fault
  /-- And whatever tables go out of reach and come back at any step, its first query counts the action, and all the
  rest is told by the reply. -/
  amid : Viewer.id viewer ≠ "" → Viewer.id key ≠ "" → ∀ w es r v,
    Amid ReachShifts (recordAction viewer key) w es (.ended r) v →
    ∃ time reply rest,
      es = .told time :: .asked (.countAction (.of (Viewer.id viewer) (Viewer.id key) time)) reply :: rest
        ∧ Kept (Viewer.id viewer) (Viewer.id key) time w reply rest r v

theorem recordingAnswered (viewer key : Value) : RecordingAnswered viewer key where
  skipped := by
    intro hblank
    unfold recordAction
    rw [if_pos (by simpa using hblank)]
  fails_iff := by
    intro hviewer hkey w
    unfold recordAction
    rw [if_neg (by simp [hviewer, hkey]), Procedure.countAndAward_eq, Procedure.run_seq (a := w.clock.ms) rfl]
    rcases w.store.answer_countAction_or (Viewer.id viewer) (Viewer.id key) w.clock.ms with
      ⟨fault, hanswer⟩ | hanswer
    · have hfails := Procedure.ask_fails (w := (Procedure.readClock.run w).2) hanswer
      rw [(hfails.bind _).1, hanswer]
      exact ⟨fun _ => ⟨fault, rfl⟩, fun _ => ⟨_, rfl⟩⟩
    · obtain ⟨hcount, hstore⟩ := Procedure.run_ask (w := (Procedure.readClock.run w).2) hanswer
      rw [Procedure.run_seq hcount, hanswer]
      generalize ((Procedure.ask _).run _).2 = u at hstore
      have hcounted : Store.CountedIn (Viewer.id viewer) (Viewer.id key) w.clock.ms w.store u.store := by
        rw [hstore]
        exact .of_counted (.refl w.store)
      obtain ⟨es, h⟩ := amid_run ReachShifts (Procedure.awardCounted (Viewer.id viewer) (Viewer.id key) w.clock.ms
        (w.store.counter (Viewer.id viewer) (Viewer.id key) + 1)) u
      obtain ⟨_, _, _, us, _, hok, _⟩ := awardCounted_kept hcounted h
      rw [hok]
      exact ⟨(fun ⟨_, herror⟩ => nomatch herror), (fun ⟨_, herror⟩ => nomatch herror)⟩
  amid := fun hviewer hkey _ _ _ _ => recordAction_kept hviewer hkey

/--
**The event comes first.** In any store, whichever tables it has, whichever of them are in reach and whatever the
criteria texts are, a race award is answered, and an action is counted unless the counters themselves refuse. An
award that fails awards nothing, and takes nothing back of what has been counted.
-/
theorem event_first :
    (∀ competition viewers, RaceAnswered competition viewers) ∧ ∀ viewer key, RecordingAnswered viewer key :=
  ⟨raceAnswered, recordingAnswered⟩

/-- A counter stands at some count, the ledger is missing, and other tables may be out of reach. -/
def shakenWorld (count : Int) (failing : List (Table × String)) : World where
  store :=
    { results := some []
      catalogue := some [⟨1, "Keen", none, false, "action:k>=1"⟩]
      unlocks := none
      actions := some [⟨"v1", "k", count, some 2, none⟩]
      failing }
  clock := ⟨100, 1⟩
  queries := []
  log := []

/-- The results are out of reach, so that no award can be made. -/
def awardlessWorld : World := shakenWorld 4 [(.results, "down")]

/-- An action of the viewer on the counter. -/
def actedOn (w : World) : Except Fault ActionOutcome × World := (recordAction (.text " v1 ") (.text "k")).run w

/-- An action is not counted if the counters are out of reach, or its own is full. That no award can be made changes
neither the action nor the race that it is for. -/
theorem event_first_shaken :
    recordAction (.text "  ") (.text "k") = .done .skipped
      ∧ (∃ fault, (actedOn (shakenWorld 4 [(.actions, "down")])).1 = .error fault)
      ∧ (∃ fault, (actedOn (shakenWorld 2147483647 [])).1 = .error fault)
      ∧ ((award (.list [.text "v1"]) (.text "competition") (.text (Value.int 7).asText)).run awardlessWorld).1
        = .error (.store (.unreachable "down"))
      ∧ ((awardRace (.int 7) (.list [.text "v1"])).run awardlessWorld).1 = .ok []
      ∧ (actedOn awardlessWorld).1 = .ok (.counted "v1" "k" 5 100 [])
      ∧ (actedOn awardlessWorld).2.store.actions = some [⟨"v1", "k", 5, some 2, some 100⟩]
      ∧ ∃ time reply rest, Kept "v1" "k" time awardlessWorld reply rest (actedOn awardlessWorld).1
        (actedOn awardlessWorld).2 := by
  have hviewer : Viewer.id (.text " v1 ") = "v1" := by decide +kernel
  have hkey : Viewer.id (.text "k") = "k" := by decide +kernel
  have hnamed : Viewer.id (.text " v1 ") ≠ "" ∧ Viewer.id (.text "k") ≠ "" := by decide +kernel
  have hanswered := event_first.2 (.text " v1 ") (.text "k")
  have hraised : ((award (.list [.text "v1"]) (.text "competition") (.text (Value.int 7).asText)).run awardlessWorld).1
      = .error (.store (.unreachable "down")) := by decide +kernel
  refine ⟨(event_first.2 (.text "  ") (.text "k")).skipped (Or.inl (by decide +kernel)), ?_, ?_, hraised,
    (event_first.1 (.int 7) (.list [.text "v1"])).failed _ _ hraised, by decide +kernel, by decide +kernel, ?_⟩
  · exact (hanswered.fails_iff hnamed.1 hnamed.2 _).mpr ⟨.unreachable "down", by decide +kernel⟩
  · exact (hanswered.fails_iff hnamed.1 hnamed.2 _).mpr ⟨.cell .unfit, by decide +kernel⟩
  · obtain ⟨es, hrun⟩ := amid_run ReachShifts (recordAction (.text " v1 ") (.text "k")) awardlessWorld
    obtain ⟨time, reply, rest, _, hkept⟩ := hanswered.amid hnamed.1 hnamed.2 _ _ _ _ hrun
    rw [hviewer, hkey] at hkept
    exact ⟨time, reply, rest, hkept⟩

end Laurels
