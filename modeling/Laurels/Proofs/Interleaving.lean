import Laurels.Schedule
import Laurels.Proofs.Store.Answer

/-!
# Interleavings

Procedures that are under way at once take their steps in any order whatever. An `Interleaving` is one such
run, with a record of who took which step and what it was; between two steps the outside may change the
world, as far as a relation `outside` lets it.

Two views of a run are enough for everything that follows. Each procedure has its own history, the steps in
the record that it took (`Interleaving.follows`); and the store goes through one query after the other
(`Interleaving.invariant`). A run can be cut at any place in its record (`Interleaving.split`).

Running alone is an interleaving (`turn_run`), and so is the two-phase schedule
(`interleaving_twoPhase`).
-/

namespace Laurels

/-- A step that was taken: a query with its reply, a reading of the clock, or a log line. -/
inductive Event where
  | asked (q : Query) (reply : Except StoreFault q.Reply)
  | told (time : Int)
  | wrote (line : LogLine)

namespace Procedure

variable {α : Type}

/-- A procedure takes one step. -/
inductive Takes : Procedure α → Event → Procedure α → Prop
  | asked (q : Query) (next : Except StoreFault q.Reply → Procedure α) (reply : Except StoreFault q.Reply) :
      Takes (.query q next) (.asked q reply) (next reply)
  | told (next : Int → Procedure α) (t : Int) : Takes (.now next) (.told t) (next t)
  | wrote (line : LogLine) (next : Procedure α) : Takes (.log line next) (.wrote line) next

/-- A procedure takes several steps, whatever it is answered. -/
inductive Follows : Procedure α → List Event → Procedure α → Prop
  | stay (p : Procedure α) : Follows p [] p
  | step {p q r : Procedure α} {e : Event} {es : List Event} (h : Takes p e q) (rest : Follows q es r) :
      Follows p (e :: es) r

/-- The end that a result stands for. -/
def ended : Except Fault α → Procedure α
  | .ok a => .done a
  | .error e => .raise e

/-- Whether a procedure has come to an end. -/
def IsEnded (p : Procedure α) : Prop := ∃ r, p = ended r

/-- What results stand for has come to an end. -/
theorem isEnded_of_mem_map {rs : List (Except Fault α)} : ∀ q ∈ rs.map ended, q.IsEnded := by
  intro q hq
  obtain ⟨r, _, rfl⟩ := List.mem_map.mp hq
  exact ⟨r, rfl⟩

end Procedure

/-- The world has an answer to a step, and goes on. -/
inductive World.Answers : World → Event → World → Prop
  | asked (w : World) (q : Query) : Answers w (.asked q (w.ask q).1) (w.ask q).2
  | told (w : World) : Answers w (.told w.readClock.1) w.readClock.2
  | wrote (w : World) (line : LogLine) : Answers w (.wrote line) (w.write line)

/--
**Procedures side by side.** From the procedures `ps` and a world, a run comes to other procedures and
another world, having recorded which of them took which step.
-/
inductive Interleaving {α : Type} (outside : World → World → Prop) :
    List (Procedure α) → World → List (Nat × Event) → List (Procedure α) → World → Prop
  | start (ps : List (Procedure α)) (w : World) : Interleaving outside ps w [] ps w
  | step {ps qs : List (Procedure α)} {w u v : World} {i : Nat} {p p' : Procedure α} {e : Event}
      {es : List (Nat × Event)} (turn : ps[i]? = some p) (takes : p.Takes e p') (answers : w.Answers e u)
      (rest : Interleaving outside (ps.set i p') u es qs v) :
      Interleaving outside ps w ((i, e) :: es) qs v
  | outside {ps qs : List (Procedure α)} {w u v : World} {es : List (Nat × Event)} (change : outside w u)
      (rest : Interleaving outside ps u es qs v) : Interleaving outside ps w es qs v

/-- The steps of one procedure in the record of a run. -/
def own (i : Nat) (es : List (Nat × Event)) : List Event :=
  es.filterMap fun x => if x.1 = i then some x.2 else none

theorem own_append (i : Nat) (es₁ es₂ : List (Nat × Event)) :
    own i (es₁ ++ es₂) = own i es₁ ++ own i es₂ := List.filterMap_append

theorem own_cons_self (i : Nat) (e : Event) (es : List (Nat × Event)) :
    own i ((i, e) :: es) = e :: own i es := by
  simp [own]

theorem own_cons_ne {i j : Nat} (h : j ≠ i) (e : Event) (es : List (Nat × Event)) :
    own i ((j, e) :: es) = own i es := by
  simp [own, h]

theorem mem_own {i : Nat} {e : Event} {es : List (Nat × Event)} : e ∈ own i es ↔ (i, e) ∈ es := by
  unfold own
  rw [List.mem_filterMap]
  constructor
  · rintro ⟨⟨j, e'⟩, hmem, he⟩
    split at he
    · rename_i hj
      cases he
      exact hj ▸ hmem
    · exact absurd he (by simp)
  · intro h
    exact ⟨(i, e), h, by simp⟩

/-! ## What a step does to the store -/

namespace World

/-- A step changes the store as its query does, if it is one. -/
theorem Answers.store {w u : World} {e : Event} (h : w.Answers e u) :
    (∃ q, e = .asked q (w.store.answer q).1 ∧ u.store = (w.store.answer q).2) ∨ u.store = w.store := by
  cases h with
  | asked q => exact Or.inl ⟨q, rfl, rfl⟩
  | told => exact Or.inr rfl
  | wrote line => exact Or.inr rfl

end World

/-- An event that some store with a property accounts for. -/
def Event.From (P : Store → Prop) : Event → Prop
  | .asked q reply => ∃ s, P s ∧ reply = (s.answer q).1
  | .told _ => True
  | .wrote _ => True

theorem World.Answers.from_store {P : Store → Prop} {w u : World} {e : Event} (h : w.Answers e u)
    (hw : P w.store) : e.From P := by
  cases h with
  | asked q => exact ⟨w.store, hw, rfl⟩
  | told => exact trivial
  | wrote line => exact trivial

namespace Interleaving

variable {α : Type} {outside : World → World → Prop} {ps qs : List (Procedure α)} {w v : World}
  {es : List (Nat × Event)}

/-- **Each procedure has its own history.** -/
theorem follows (h : Interleaving outside ps w es qs v) {i : Nat} {p : Procedure α}
    (hp : ps[i]? = some p) : ∃ q, qs[i]? = some q ∧ p.Follows (own i es) q := by
  induction h generalizing p with
  | start ps w => exact ⟨p, hp, .stay p⟩
  | @step ps qs w u v j p₀ p' e es turn takes answers rest ih =>
    have hj : j < ps.length := (List.getElem?_eq_some_iff.mp turn).1
    by_cases hij : j = i
    · -- the step is the procedure's own
      subst hij
      rw [turn] at hp
      cases hp
      obtain ⟨q, hq, hf⟩ := ih (p := p') (by rw [List.getElem?_set_self hj])
      rw [own_cons_self]
      exact ⟨q, hq, .step takes hf⟩
    · rw [own_cons_ne hij]
      exact ih (by rw [List.getElem?_set_ne hij]; exact hp)
  | outside change rest ih => exact ih hp

theorem length_eq (h : Interleaving outside ps w es qs v) : qs.length = ps.length := by
  induction h with
  | start ps w => rfl
  | step turn takes answers rest ih => rw [ih, List.length_set]
  | outside change rest ih => exact ih

/-- Only procedures that are there take steps. -/
theorem lt_length (h : Interleaving outside ps w es qs v) {i : Nat} {e : Event} (hmem : (i, e) ∈ es) :
    i < ps.length := by
  induction h with
  | start ps w => exact absurd hmem (by simp)
  | step turn takes answers rest ih =>
    rcases List.mem_cons.mp hmem with heq | hrest
    · cases heq
      exact (List.getElem?_eq_some_iff.mp turn).1
    · have := ih hrest
      rwa [List.length_set] at this
  | outside change rest ih => exact ih hmem

/-- **A run can be cut at any place.** -/
theorem split (h : Interleaving outside ps w es qs v) {es₁ es₂ : List (Nat × Event)}
    (hes : es = es₁ ++ es₂) :
    ∃ ms u, Interleaving outside ps w es₁ ms u ∧ Interleaving outside ms u es₂ qs v := by
  induction h generalizing es₁ with
  | start ps w =>
    obtain ⟨rfl, rfl⟩ := List.append_eq_nil_iff.mp hes.symm
    exact ⟨ps, w, .start ps w, .start ps w⟩
  | @step ps qs w u v i p p' e es turn takes answers rest ih =>
    -- the cut is before this step or after it
    cases es₁ with
    | nil =>
      rw [List.nil_append] at hes
      subst hes
      exact ⟨ps, w, .start ps w, .step turn takes answers rest⟩
    | cons x es₁ =>
      rw [List.cons_append] at hes
      cases hes
      obtain ⟨ms, m, h₁, h₂⟩ := ih rfl
      exact ⟨ms, m, .step turn takes answers h₁, h₂⟩
  | outside change rest ih =>
    obtain ⟨ms, m, h₁, h₂⟩ := ih hes
    exact ⟨ms, m, .outside change h₁, h₂⟩

/-- Two runs, one after the other. -/
theorem trans {ms : List (Procedure α)} {u : World} {es₂ : List (Nat × Event)}
    (h : Interleaving outside ps w es ms u) (h₂ : Interleaving outside ms u es₂ qs v) :
    Interleaving outside ps w (es ++ es₂) qs v := by
  induction h with
  | start ps w => exact h₂
  | step turn takes answers rest ih => exact .step turn takes answers (ih h₂)
  | outside change rest ih => exact .outside change (ih h₂)

/--
**Invariants of the store.** What the outside and each recorded query keep holds to the end, and every
recorded reply is one that a store with the property gave.
-/
theorem invariant {P : Store → Prop} (h : Interleaving outside ps w es qs v)
    (hout : ∀ w u, outside w u → P w.store → P u.store)
    (hask : ∀ s q, (∃ x ∈ es, x.2 = .asked q (s.answer q).1) → P s → P (s.answer q).2)
    (hw : P w.store) : P v.store ∧ ∀ x ∈ es, x.2.From P := by
  induction h with
  | start ps w => exact ⟨hw, by simp⟩
  | @step ps qs w u v i p p' e es turn takes answers rest ih =>
    -- the recorded reply came from `w`, and the property has to be taken on to `u`
    have hu : P u.store := by
      rcases answers.store with ⟨q, he, hs⟩ | hs
      · rw [hs]
        exact hask w.store q ⟨(i, e), List.mem_cons_self, he⟩ hw
      · rw [hs]; exact hw
    obtain ⟨hv, hfrom⟩ := ih
      (fun s q ⟨x, hx, he⟩ => hask s q ⟨x, List.mem_cons_of_mem _ hx, he⟩) hu
    refine ⟨hv, fun x hx => ?_⟩
    rcases List.mem_cons.mp hx with rfl | hx
    · exact answers.from_store hw
    · exact hfrom x hx
  | outside change rest ih => exact ih hask (hout _ _ change hw)

end Interleaving

/-! ## Schedules are interleavings -/

section Schedules

variable {α : Type} (outside : World → World → Prop)

theorem set_eq_self {ps : List (Procedure α)} {i : Nat} {p : Procedure α} (h : ps[i]? = some p) :
    ps.set i p = ps := by
  obtain ⟨hi, rfl⟩ := List.getElem?_eq_some_iff.mp h
  exact List.set_getElem_self hi

/-- A procedure has a turn: it goes some way by itself, at whichever place it stands among others. -/
def Turn (p : Procedure α) (w : World) (es : List Event) (r : Procedure α) (v : World) : Prop :=
  ∀ (ps : List (Procedure α)) (i : Nat), ps[i]? = some p →
    Interleaving outside ps w (es.map (Prod.mk i)) (ps.set i r) v

variable {outside}

theorem Turn.stay (p : Procedure α) (w : World) : Turn outside p w [] p w := by
  intro ps i hp
  rw [set_eq_self hp]
  exact .start ps w

/-- One step of a procedure, and then the rest of its turn. -/
theorem Turn.cons {p p' r : Procedure α} {e : Event} {w u v : World} {es : List Event}
    (takes : p.Takes e p') (answers : w.Answers e u) (rest : Turn outside p' u es r v) :
    Turn outside p w (e :: es) r v := by
  intro ps i hp
  have hi : i < ps.length := (List.getElem?_eq_some_iff.mp hp).1
  have hrest := rest (ps.set i p') i (by rw [List.getElem?_set_self hi])
  rw [List.set_set] at hrest
  exact .step hp takes answers hrest

/-- The turn of a procedure that stands behind others. -/
theorem Turn.behind {p r : Procedure α} {w v : World} {es : List Event} (h : Turn outside p w es r v)
    (before ps : List (Procedure α)) :
    Interleaving outside (before ++ p :: ps) w (es.map (Prod.mk before.length)) (before ++ r :: ps) v := by
  have hrun := h (before ++ p :: ps) before.length (by simp)
  rwa [List.set_append_right _ _ (Nat.le_refl _), Nat.sub_self, List.set_cons_zero] at hrun

variable (outside)

/-- A procedure that runs by itself up to a gate. -/
theorem turn_runThrough (gate : Query → Bool) (p : Procedure α) (w : World) :
    ∃ es : List Event, Turn outside p w es (p.runThrough gate w).1 (p.runThrough gate w).2 := by
  induction p generalizing w with
  | done a => exact ⟨[], .stay _ w⟩
  | raise e => exact ⟨[], .stay _ w⟩
  | query q next ih =>
    cases hgate : gate q && (w.ask q).1.isOk with
    | true =>
      -- the query itself is still part of the turn
      refine ⟨[.asked q (w.ask q).1], ?_⟩
      simp only [Procedure.runThrough, hgate, if_true]
      exact .cons (.asked q next _) (.asked w q) (.stay _ _)
    | false =>
      obtain ⟨es, hes⟩ := ih (w.ask q).1 (w.ask q).2
      refine ⟨.asked q (w.ask q).1 :: es, ?_⟩
      simp only [Procedure.runThrough, hgate, Bool.false_eq_true, if_false]
      exact .cons (.asked q next _) (.asked w q) hes
  | now next ih =>
    obtain ⟨es, hes⟩ := ih w.readClock.1 w.readClock.2
    exact ⟨.told w.readClock.1 :: es, .cons (.told next _) (.told w) hes⟩
  | log line next ih =>
    obtain ⟨es, hes⟩ := ih (w.write line)
    exact ⟨.wrote line :: es, .cons (.wrote line next) (.wrote w line) hes⟩

theorem runThrough_never (p : Procedure α) (w : World) :
    p.runThrough (fun _ => false) w = (.ended (p.run w).1, (p.run w).2) := by
  induction p generalizing w with
  | done a => rfl
  | raise e => rfl
  | query q next ih => exact ih _ _
  | now next ih => exact ih _ _
  | log line next ih => exact ih _

/-- **Running alone is an interleaving.** -/
theorem turn_run (p : Procedure α) (w : World) :
    ∃ es : List Event, Turn outside p w es (.ended (p.run w).1) (p.run w).2 := by
  have h := turn_runThrough outside (fun _ => false) p w
  rwa [runThrough_never] at h

/-- In the first phase each procedure runs up to its gate; those in front have had their turn. -/
theorem interleaving_approach (gate : Query → Bool) (ps : List (Procedure α))
    (before : List (Procedure α)) (w : World) :
    ∃ es, Interleaving outside (before ++ ps) w es
      (before ++ (Schedule.approach gate (ps.map .procedure) w).1)
      (Schedule.approach gate (ps.map .procedure) w).2 := by
  induction ps generalizing before w with
  | nil => exact ⟨[], .start _ _⟩
  | cons p ps ih =>
    obtain ⟨es₁, h₁⟩ := turn_runThrough outside gate p w
    obtain ⟨es₂, h₂⟩ := ih (before ++ [(p.runThrough gate w).1]) (p.runThrough gate w).2
    rw [List.append_assoc, List.append_assoc] at h₂
    exact ⟨_, (h₁.behind before ps).trans h₂⟩

/-- In the second phase each procedure runs to its end. -/
theorem interleaving_finish (ps : List (Procedure α)) (before : List (Procedure α)) (w : World) :
    ∃ es, Interleaving outside (before ++ ps) w es
      (before ++ (Schedule.finish ps w).1.map .ended) (Schedule.finish ps w).2 := by
  induction ps generalizing before w with
  | nil => exact ⟨[], .start _ _⟩
  | cons p ps ih =>
    obtain ⟨es₁, h₁⟩ := turn_run outside p w
    obtain ⟨es₂, h₂⟩ := ih (before ++ [.ended (p.run w).1]) (p.run w).2
    rw [List.append_assoc, List.append_assoc] at h₂
    exact ⟨_, (h₁.behind before ps).trans h₂⟩

/-- **The two-phase schedule is an interleaving.** -/
theorem interleaving_twoPhase (ps : List (Procedure α)) (w : World) :
    ∃ es, Interleaving outside ps w es ((Schedule.twoPhase (ps.map .procedure) w).1.map .ended)
      (Schedule.twoPhase (ps.map .procedure) w).2 := by
  obtain ⟨es₁, h₁⟩ := interleaving_approach outside readsPairs ps [] w
  obtain ⟨es₂, h₂⟩ := interleaving_finish outside
    (Schedule.approach readsPairs (ps.map .procedure) w).1 []
    (Schedule.approach readsPairs (ps.map .procedure) w).2
  exact ⟨es₁ ++ es₂, h₁.trans h₂⟩

end Schedules

end Laurels
