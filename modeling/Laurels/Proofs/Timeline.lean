import Laurels.Proofs.Interleaving
import Laurels.Proofs.Store.Growth

/-!
# Timelines

The record of an interleaving tells which steps were taken, and nothing of the worlds in between. A `Timeline`
keeps those as well: each of its `Moment`s has the world as it was and what happened next, be it a step of one
of the procedures or something outside. Without its worlds a timeline is an interleaving (`Timeline.interleaving`).

While calls are under way competitions go on, and save results (`ResultsSaved`). From one moment to a later one
the results and the ledger are added to, the counters grow, and the catalogue stays as it is
(`Timeline.since`).

`Script.perform` plays a timeline from a list of moves.
-/

namespace Laurels

/-- A moment of a run: the world as it is, and what happens next, which is a step of one of the procedures or,
if it is none of those, something outside. -/
structure Moment where
  world : World
  next : Option (Nat × Event)

/-- The record that goes with some moments. -/
def recordOf (ms : List Moment) : List (Nat × Event) := ms.filterMap (·.next)

/-- **Procedures side by side, moment by moment.** -/
inductive Timeline {α : Type} (outside : World → World → Prop) :
    List (Procedure α) → World → List Moment → List (Procedure α) → World → Prop
  | start (ps : List (Procedure α)) (w : World) : Timeline outside ps w [] ps w
  | step {ps qs : List (Procedure α)} {w u v : World} {i : Nat} {p p' : Procedure α} {e : Event}
      {ms : List Moment} (turn : ps[i]? = some p) (takes : p.Takes e p') (answers : w.Answers e u)
      (rest : Timeline outside (ps.set i p') u ms qs v) :
      Timeline outside ps w (⟨w, some (i, e)⟩ :: ms) qs v
  | outside {ps qs : List (Procedure α)} {w u v : World} {ms : List Moment} (change : outside w u)
      (rest : Timeline outside ps u ms qs v) : Timeline outside ps w (⟨w, none⟩ :: ms) qs v

section

variable {α : Type} {outside : World → World → Prop} {ps qs : List (Procedure α)} {w v : World}
  {ms : List Moment}

theorem Timeline.interleaving (h : Timeline outside ps w ms qs v) :
    Interleaving outside ps w (recordOf ms) qs v := by
  induction h with
  | start ps w => exact .start ps w
  | step turn takes answers rest ih => exact .step turn takes answers ih
  | outside change rest ih => exact .outside change ih

namespace Timeline

/-- **A timeline can be cut at any of its moments.** -/
theorem cut (h : Timeline outside ps w ms qs v) {k : Nat} {m : Moment} (hk : ms[k]? = some m) :
    ∃ rs, Timeline outside ps w (ms.take k) rs m.world ∧ Timeline outside rs m.world (ms.drop k) qs v := by
  induction h generalizing k with
  | start ps w => cases hk
  | @step ps qs w u v i p p' e ms turn takes answers rest ih =>
    cases k with
    | zero =>
      cases hk
      exact ⟨ps, .start ps w, .step turn takes answers rest⟩
    | succ k =>
      obtain ⟨rs, h₁, h₂⟩ := ih hk
      exact ⟨rs, .step turn takes answers h₁, h₂⟩
  | @outside ps qs w u v ms change rest ih =>
    cases k with
    | zero =>
      cases hk
      exact ⟨ps, .start ps w, .outside change rest⟩
    | succ k =>
      obtain ⟨rs, h₁, h₂⟩ := ih hk
      exact ⟨rs, .outside change h₁, h₂⟩

/-- The procedure that takes a step has been under way from the start, and the world of that moment answers. -/
theorem taken (h : Timeline outside ps w ms qs v) {k i : Nat} {u : World} {e : Event}
    (hk : ms[k]? = some ⟨u, some (i, e)⟩) :
    ∃ rs p p' u', Timeline outside ps w (ms.take k) rs u ∧ rs[i]? = some p ∧ p.Takes e p' ∧ u.Answers e u' := by
  obtain ⟨rs, h₁, h₂⟩ := h.cut hk
  have hdrop : ms.drop k = ⟨u, some (i, e)⟩ :: ms.drop (k + 1) := by
    obtain ⟨hlt, hget⟩ := List.getElem?_eq_some_iff.mp hk
    rw [List.drop_eq_getElem_cons hlt, hget]
  rw [hdrop] at h₂
  generalize ms.drop (k + 1) = rest at h₂
  cases h₂ with
  | step turn takes answers rest => exact ⟨rs, _, _, _, h₁, turn, takes, answers⟩

theorem reply_eq (h : Timeline outside ps w ms qs v) {k i : Nat} {u : World} {q : Query}
    {reply : Except StoreFault q.Reply} (hk : ms[k]? = some ⟨u, some (i, .asked q reply)⟩) :
    reply = (u.store.answer q).1 := by
  obtain ⟨_, _, _, _, _, _, _, answers⟩ := h.taken hk
  cases answers with
  | asked => rfl

end Timeline

end

/-! ## Results are saved -/

/-- The store after some results have been saved. -/
def Store.saveResults (s : Store) (rows : List ResultRow) : Store :=
  { s with results := s.results.map (· ++ rows) }

/-- What the outside may do while competitions go on: results are saved, and time passes. -/
def ResultsSaved (w u : World) : Prop :=
  ∃ rows clock, u = { w with store := w.store.saveResults rows, clock := clock }

/-- A store later on, with the same catalogue. -/
structure Store.Since (s s' : Store) : Prop where
  catalogue : s'.catalogueRows = s.catalogueRows
  results : s.resultRows <+: s'.resultRows
  grows : s.Grows s'

namespace Store.Since

theorem refl (s : Store) : s.Since s := ⟨rfl, List.prefix_refl _, .refl s⟩

theorem trans {s₁ s₂ s₃ : Store} (h : s₁.Since s₂) (h' : s₂.Since s₃) : s₁.Since s₃ :=
  ⟨h'.catalogue.trans h.catalogue, h.results.trans h'.results, h.grows.trans h'.grows⟩

theorem answer (s : Store) (q : Query) : s.Since (s.answer q).2 where
  catalogue := catalogueRows_answer s q
  results := (resultRows_answer s q).symm ▸ List.prefix_refl _
  grows := grows_answer s q

theorem saveResults (s : Store) (rows : List ResultRow) : s.Since (s.saveResults rows) where
  catalogue := rfl
  results := by
    unfold Store.resultRows Store.saveResults
    cases s.results with
    | none => exact List.prefix_refl _
    | some before => exact List.prefix_append before rows
  grows := ⟨List.prefix_refl _, .refl _⟩

theorem rules_eq {s s' : Store} (h : s.Since s') : Store.active s'.catalogueRows = Store.active s.catalogueRows := by
  rw [h.catalogue]

end Store.Since

theorem World.Answers.since {w u : World} {e : Event} (h : w.Answers e u) : w.store.Since u.store := by
  rcases h.store with ⟨q, _, hs⟩ | hs
  · rw [hs]
    exact .answer w.store q
  · rw [hs]
    exact .refl w.store

namespace Timeline

variable {α : Type} {ps qs : List (Procedure α)} {w v : World} {ms : List Moment}

theorem since (h : Timeline ResultsSaved ps w ms qs v) : w.store.Since v.store := by
  induction h with
  | start ps w => exact .refl w.store
  | step turn takes answers rest ih => exact answers.since.trans ih
  | @outside ps qs w u v ms change rest ih =>
    obtain ⟨rows, clock, rfl⟩ := change
    exact (Store.Since.saveResults w.store rows).trans ih

theorem since_start (h : Timeline ResultsSaved ps w ms qs v) {k : Nat} {m : Moment} (hk : ms[k]? = some m) :
    w.store.Since m.world.store := by
  obtain ⟨_, h₁, _⟩ := h.cut hk
  exact h₁.since

/-- **From one moment to a later one** the tables are added to. -/
theorem since_moment (h : Timeline ResultsSaved ps w ms qs v) {j k : Nat} {m m' : Moment} (hj : ms[j]? = some m)
    (hk : ms[k]? = some m') (hle : j ≤ k) : m.world.store.Since m'.world.store := by
  obtain ⟨_, _, h₂⟩ := h.cut hj
  refine h₂.since_start (k := k - j) ?_
  rw [List.getElem?_drop, Nat.add_sub_cancel' hle]
  exact hk

end Timeline

/-! ## Scripts -/

/-- One step of a procedure on a world, if it has not ended: what it is, how the procedure goes on, and the world
after it. -/
def Procedure.advance {α : Type} (p : Procedure α) (w : World) : Option (Event × Procedure α × World) :=
  match p with
  | .done _ => none
  | .raise _ => none
  | .query q next => some (.asked q (w.ask q).1, next (w.ask q).1, (w.ask q).2)
  | .now next => some (.told w.readClock.1, next w.readClock.1, w.readClock.2)
  | .log line next => some (.wrote line, next, w.write line)

/-- What is to happen next: some steps of a procedure, or the saving of results. -/
inductive Move where
  | steps (i count : Nat)
  | results (rows : List ResultRow)

namespace Script

variable {α : Type}

/-- Let one of the procedures take a number of steps, as far as it has any. -/
def performSteps (i : Nat) : Nat → List (Procedure α) → World → List Moment × List (Procedure α) × World
  | 0, ps, w => ([], ps, w)
  | count + 1, ps, w =>
    match ps[i]?.bind (·.advance w) with
    | none => ([], ps, w)
    | some (e, p, u) =>
      let rest := performSteps i count (ps.set i p) u
      (⟨w, some (i, e)⟩ :: rest.1, rest.2)

/-- Perform some moves. -/
def perform : List Move → List (Procedure α) → World → List Moment × List (Procedure α) × World
  | [], ps, w => ([], ps, w)
  | .steps i count :: moves, ps, w =>
    let first := performSteps i count ps w
    let rest := perform moves first.2.1 first.2.2
    (first.1 ++ rest.1, rest.2)
  | .results rows :: moves, ps, w =>
    let rest := perform moves ps { w with store := w.store.saveResults rows }
    (⟨w, none⟩ :: rest.1, rest.2)

end Script

section

variable {α : Type} {outside : World → World → Prop} {ps qs rs : List (Procedure α)} {w u v : World}

theorem Timeline.append {ms ms' : List Moment} (h : Timeline outside ps w ms qs u)
    (h' : Timeline outside qs u ms' rs v) : Timeline outside ps w (ms ++ ms') rs v := by
  induction h with
  | start ps w => exact h'
  | step turn takes answers rest ih => exact .step turn takes answers (ih h')
  | outside change rest ih => exact .outside change (ih h')

theorem Procedure.takes_advance {p p' : Procedure α} {e : Event} (h : p.advance w = some (e, p', u)) :
    p.Takes e p' ∧ w.Answers e u := by
  cases p with
  | done a => cases h
  | raise fault => cases h
  | query q next =>
    cases h
    exact ⟨.asked q next _, .asked w q⟩
  | now next =>
    cases h
    exact ⟨.told next _, .told w⟩
  | log line next =>
    cases h
    exact ⟨.wrote line _, .wrote w line⟩

namespace Script

theorem timeline_performSteps (i count : Nat) (ps : List (Procedure α)) (w : World) :
    Timeline outside ps w (performSteps i count ps w).1 (performSteps i count ps w).2.1
      (performSteps i count ps w).2.2 := by
  induction count generalizing ps w with
  | zero => exact .start ps w
  | succ count ih =>
    unfold performSteps
    cases hnext : ps[i]?.bind (·.advance w) with
    | none => exact .start ps w
    | some next =>
      obtain ⟨e, p', u⟩ := next
      obtain ⟨p, hp, hadvance⟩ := Option.bind_eq_some_iff.mp hnext
      obtain ⟨htakes, hanswers⟩ := Procedure.takes_advance hadvance
      exact .step hp htakes hanswers (ih (ps.set i p') u)

/-- **What a script performs is a run.** -/
theorem timeline_perform (moves : List Move) (ps : List (Procedure α)) (w : World) :
    Timeline ResultsSaved ps w (perform moves ps w).1 (perform moves ps w).2.1 (perform moves ps w).2.2 := by
  induction moves generalizing ps w with
  | nil => exact .start ps w
  | cons move moves ih =>
    cases move with
    | steps i count => exact (timeline_performSteps i count ps w).append (ih _ _)
    | results rows => exact .outside ⟨rows, w.clock, rfl⟩ (ih _ _)

end Script

end

end Laurels
