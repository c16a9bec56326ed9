import Mathlib.Logic.Relation
import Laurels.Proofs.History

/-!
# A procedure amid what happens outside

A single procedure is under way, and between its steps the outside may change the world, as far as a relation lets
it. `Amid` is one such run; it is an interleaving in which nobody else takes part (`Amid.interleaving`), and one in
which the outside does nothing is the run of the procedure alone (`amid_run`).

A run that has come to an end is taken apart along the procedure: at its first step (`Amid.of_query` and the like),
where one procedure hands over to the next (`Amid.of_bind`), and where a rescue takes over (`Amid.of_rescue`). The
worlds in between come with the parts.
-/

namespace Laurels

/-- A procedure takes steps, and in between the outside changes the world. -/
inductive Amid {α : Type} (outside : World → World → Prop) :
    Procedure α → World → List Event → Procedure α → World → Prop
  | stay (p : Procedure α) (w : World) : Amid outside p w [] p w
  | step {p p' q : Procedure α} {w u v : World} {e : Event} {es : List Event} (takes : p.Takes e p')
      (answers : w.Answers e u) (rest : Amid outside p' u es q v) : Amid outside p w (e :: es) q v
  | outside {p q : Procedure α} {w u v : World} {es : List Event} (change : outside w u)
      (rest : Amid outside p u es q v) : Amid outside p w es q v

namespace Amid

open Relation (ReflTransGen)

variable {α β : Type} {outside : World → World → Prop} {p q : Procedure α} {w v : World} {es : List Event}

theorem follows (h : Amid outside p w es q v) : p.Follows es q := by
  induction h with
  | stay p w => exact .stay p
  | step takes answers rest ih => exact .step takes ih
  | outside change rest ih => exact ih

/-- Nobody else takes part. -/
theorem interleaving (h : Amid outside p w es q v) :
    Interleaving outside [p] w (es.map (Prod.mk 0)) [q] v := by
  induction h with
  | stay p w => exact .start [p] w
  | step takes answers rest ih => exact .step rfl takes answers ih
  | outside change rest ih => exact .outside change ih

/-- What the outside and the queries of a procedure keep holds to the end. -/
theorem invariant {kind : Query → Prop} {P : Store → Prop} (h : Amid outside p w es q v)
    (hasks : p.Asks kind) (hout : ∀ w u, outside w u → P w.store → P u.store)
    (hanswer : ∀ s q, kind q → P s → P (s.answer q).2) (hw : P w.store) : P v.store := by
  induction h with
  | stay p w => exact hw
  | step takes answers rest ih =>
    obtain ⟨hkind, hrest⟩ := hasks.takes takes
    refine ih hrest ?_
    rcases answers.store with ⟨query, he, hs⟩ | hs
    · rw [hs]
      exact hanswer _ query (hkind query _ he) hw
    · rw [hs]
      exact hw
  | outside change rest ih => exact ih hasks (hout _ _ change hw)

theorem mono {outside' : World → World → Prop} (h : Amid outside p w es q v)
    (himp : ∀ w u, outside w u → outside' w u) : Amid outside' p w es q v := by
  induction h with
  | stay p w => exact .stay p w
  | step takes answers rest ih => exact .step takes answers ih
  | outside change rest ih => exact .outside (himp _ _ change) ih

/-- Two runs, one after the other. -/
theorem trans {m : Procedure α} {u : World} {es₂ : List Event} (h : Amid outside p w es m u)
    (h₂ : Amid outside m u es₂ q v) : Amid outside p w (es ++ es₂) q v := by
  induction h with
  | stay p w => exact h₂
  | step takes answers rest ih => exact .step takes answers (ih h₂)
  | outside change rest ih => exact .outside change (ih h₂)

/-! ## Along the procedure -/

/-- **The first step:** there is none, or the world that answers it is one that the outside has led to. -/
theorem first (h : Amid outside p w es q v) :
    (es = [] ∧ q = p ∧ ReflTransGen outside w v)
      ∨ ∃ e es' p' u u', es = e :: es' ∧ ReflTransGen outside w u ∧ p.Takes e p' ∧ u.Answers e u'
        ∧ Amid outside p' u' es' q v := by
  induction h with
  | stay p w => exact Or.inl ⟨rfl, rfl, .refl⟩
  | @step p p' q w u v e es takes answers rest ih => exact Or.inr ⟨e, es, p', w, u, rfl, .refl, takes, answers, rest⟩
  | outside change rest ih =>
    rcases ih with ⟨hes, hq, hreach⟩ | ⟨e, es', p', u, u', hes, hreach, htakes, hanswers, hrest⟩
    · exact Or.inl ⟨hes, hq, .head change hreach⟩
    · exact Or.inr ⟨e, es', p', u, u', hes, .head change hreach, htakes, hanswers, hrest⟩

/-- From an end there is no way on, save for what the outside does. -/
theorem of_ended {r : Except Fault α} (h : Amid outside (.ended r) w es q v) :
    es = [] ∧ q = .ended r ∧ ReflTransGen outside w v := by
  rcases h.first with h | ⟨e, es', p', u, u', _, _, htakes, _⟩
  · exact h
  · cases r <;> cases htakes

theorem of_query {query : Query} {next : Except StoreFault query.Reply → Procedure α} {r : Except Fault α}
    (h : Amid outside (.query query next) w es (.ended r) v) :
    ∃ u es', ReflTransGen outside w u ∧ es = .asked query (u.ask query).1 :: es'
      ∧ Amid outside (next (u.ask query).1) (u.ask query).2 es' (.ended r) v := by
  rcases h.first with ⟨_, hq, _⟩ | ⟨e, es', p', u, u', rfl, hreach, htakes, hanswers, hrest⟩
  · cases r <;> cases hq
  · cases htakes
    cases hanswers
    exact ⟨u, es', hreach, rfl, hrest⟩

theorem of_now {next : Int → Procedure α} {r : Except Fault α} (h : Amid outside (.now next) w es (.ended r) v) :
    ∃ u es', ReflTransGen outside w u ∧ es = .told u.clock.ms :: es'
      ∧ Amid outside (next u.clock.ms) u.readClock.2 es' (.ended r) v := by
  rcases h.first with ⟨_, hq, _⟩ | ⟨e, es', p', u, u', rfl, hreach, htakes, hanswers, hrest⟩
  · cases r <;> cases hq
  · cases htakes
    cases hanswers
    exact ⟨u, es', hreach, rfl, hrest⟩

theorem of_log {line : LogLine} {next : Procedure α} {r : Except Fault α}
    (h : Amid outside (.log line next) w es (.ended r) v) :
    ∃ u es', ReflTransGen outside w u ∧ es = .wrote line :: es'
      ∧ Amid outside next (u.write line) es' (.ended r) v := by
  rcases h.first with ⟨_, hq, _⟩ | ⟨e, es', p', u, u', rfl, hreach, htakes, hanswers, hrest⟩
  · cases r <;> cases hq
  · cases htakes
    cases hanswers
    exact ⟨u, es', hreach, rfl, hrest⟩

theorem of_write {level : LogLevel} {text : String} {r : Except Fault Unit}
    (h : Amid outside (Procedure.write level text) w es (.ended r) v) : r = .ok () ∧ es = [.wrote ⟨level, text⟩] := by
  obtain ⟨u, es', _, rfl, hlast⟩ := of_log h
  obtain ⟨rfl, hr, _⟩ := of_ended (r := .ok ()) hlast
  cases r <;> cases hr
  exact ⟨rfl, rfl⟩

end Amid

namespace Procedure

variable {α β : Type}

theorem Takes.of_bind {p : Procedure β} {f : β → Procedure α} {q : Procedure α} {e : Event}
    (h : (p.bind f).Takes e q) : (∃ b, p = .done b) ∨ ∃ p', p.Takes e p' ∧ q = p'.bind f := by
  cases p with
  | done b => exact Or.inl ⟨b, rfl⟩
  | raise fault => cases h
  | query query next =>
    cases h
    exact Or.inr ⟨_, .asked query next _, rfl⟩
  | now next =>
    cases h
    exact Or.inr ⟨_, .told next _, rfl⟩
  | log line next =>
    cases h
    exact Or.inr ⟨_, .wrote line next, rfl⟩

theorem Takes.bind {p p' : Procedure β} {e : Event} (h : p.Takes e p') (f : β → Procedure α) :
    (p.bind f).Takes e (p'.bind f) := by
  cases h with
  | asked query next reply => exact .asked query _ reply
  | told next t => exact .told _ t
  | wrote line next => exact .wrote line _

theorem Takes.rescue {p p' : Procedure α} {e : Event} (h : p.Takes e p') (handler : Fault → Procedure α) :
    (p.rescue handler).Takes e (p'.rescue handler) := by
  cases h with
  | asked query next reply => exact .asked query _ reply
  | told next t => exact .told _ t
  | wrote line next => exact .wrote line _

theorem Takes.of_rescue {p q : Procedure α} {handler : Fault → Procedure α} {e : Event}
    (h : (p.rescue handler).Takes e q) : (∃ fault, p = .raise fault) ∨ ∃ p', p.Takes e p' ∧ q = p'.rescue handler := by
  cases p with
  | done a => cases h
  | raise fault => exact Or.inl ⟨fault, rfl⟩
  | query query next =>
    cases h
    exact Or.inr ⟨_, .asked query next _, rfl⟩
  | now next =>
    cases h
    exact Or.inr ⟨_, .told next _, rfl⟩
  | log line next =>
    cases h
    exact Or.inr ⟨_, .wrote line next, rfl⟩

end Procedure

namespace Amid

variable {α β : Type} {outside : World → World → Prop} {p : Procedure α} {w v : World} {es : List Event}
  {r : Except Fault α}

/-- One procedure, and then the next. -/
theorem bind {p p' : Procedure β} (h : Amid outside p w es p' v) (f : β → Procedure α) :
    Amid outside (p >>= f) w es (p'.bind f) v := by
  induction h with
  | stay p w => exact .stay _ w
  | step takes answers rest ih => exact .step (takes.bind f) answers ih
  | outside change rest ih => exact .outside change ih

theorem rescue {p' : Procedure α} (h : Amid outside p w es p' v) (handler : Fault → Procedure α) :
    Amid outside (p.rescue handler) w es (p'.rescue handler) v := by
  induction h with
  | stay p w => exact .stay _ w
  | step takes answers rest ih => exact .step (takes.rescue handler) answers ih
  | outside change rest ih => exact .outside change ih

/-- **One procedure hands over to the next** when it ends with an answer. -/
theorem of_bind {p : Procedure β} {f : β → Procedure α} (h : Amid outside (p >>= f) w es (.ended r) v) :
    (∃ b es₁ es₂ u, es = es₁ ++ es₂ ∧ Amid outside p w es₁ (.done b) u ∧ Amid outside (f b) u es₂ (.ended r) v)
      ∨ ∃ fault, r = .error fault ∧ Amid outside p w es (.raise fault) v := by
  change Amid outside (p.bind f) w es (.ended r) v at h
  generalize hp : p.bind f = whole at h
  generalize hq : Procedure.ended r = q at h
  induction h generalizing p with
  | stay q w =>
    subst hq
    cases p with
    | done b => exact Or.inl ⟨b, [], [], w, rfl, .stay _ w, hp ▸ .stay _ w⟩
    | raise fault =>
      cases r <;> cases hp
      exact Or.inr ⟨fault, rfl, .stay _ w⟩
    | _ => cases r <;> cases hp
  | @step whole p' q w u v e es takes answers rest ih =>
    subst hp hq
    rcases takes.of_bind with ⟨b, rfl⟩ | ⟨p₁, htakes, rfl⟩
    · exact Or.inl ⟨b, [], _, w, rfl, .stay _ w, .step takes answers rest⟩
    · rcases ih rfl rfl with ⟨b, es₁, es₂, m, rfl, h₁, h₂⟩ | ⟨fault, hr, h₁⟩
      · exact Or.inl ⟨b, e :: es₁, es₂, m, rfl, .step htakes answers h₁, h₂⟩
      · exact Or.inr ⟨fault, hr, .step htakes answers h₁⟩
  | outside change rest ih =>
    rcases ih hp hq with ⟨b, es₁, es₂, m, rfl, h₁, h₂⟩ | ⟨fault, hr, h₁⟩
    · exact Or.inl ⟨b, es₁, es₂, m, rfl, .outside change h₁, h₂⟩
    · exact Or.inr ⟨fault, hr, .outside change h₁⟩

/-- **A rescue takes over** when the procedure ends with a fault. -/
theorem of_rescue {handler : Fault → Procedure α} (h : Amid outside (p.rescue handler) w es (.ended r) v) :
    (∃ a, r = .ok a ∧ Amid outside p w es (.done a) v)
      ∨ ∃ fault es₁ es₂ u, es = es₁ ++ es₂ ∧ Amid outside p w es₁ (.raise fault) u
        ∧ Amid outside (handler fault) u es₂ (.ended r) v := by
  generalize hp : p.rescue handler = whole at h
  generalize hq : Procedure.ended r = q at h
  induction h generalizing p with
  | stay q w =>
    subst hq
    cases p with
    | done a =>
      cases r <;> cases hp
      exact Or.inl ⟨a, rfl, .stay _ w⟩
    | raise fault => exact Or.inr ⟨fault, [], [], w, rfl, .stay _ w, hp ▸ .stay _ w⟩
    | _ => cases r <;> cases hp
  | @step whole p' q w u v e es takes answers rest ih =>
    subst hp hq
    rcases takes.of_rescue with ⟨fault, rfl⟩ | ⟨p₁, htakes, rfl⟩
    · exact Or.inr ⟨fault, [], _, w, rfl, .stay _ w, .step takes answers rest⟩
    · rcases ih rfl rfl with ⟨a, hr, h₁⟩ | ⟨fault, es₁, es₂, m, rfl, h₁, h₂⟩
      · exact Or.inl ⟨a, hr, .step htakes answers h₁⟩
      · exact Or.inr ⟨fault, e :: es₁, es₂, m, rfl, .step htakes answers h₁, h₂⟩
  | outside change rest ih =>
    rcases ih hp hq with ⟨a, hr, h₁⟩ | ⟨fault, es₁, es₂, m, rfl, h₁, h₂⟩
    · exact Or.inl ⟨a, hr, .outside change h₁⟩
    · exact Or.inr ⟨fault, es₁, es₂, m, rfl, .outside change h₁, h₂⟩

end Amid

/-- An interleaving in which nobody else takes part. -/
theorem Interleaving.amid {α : Type} {outside : World → World → Prop} {ps qs : List (Procedure α)} {w v : World}
    {es : List (Nat × Event)} (h : Interleaving outside ps w es qs v) {p : Procedure α} (hps : ps = [p]) :
    ∃ q, qs = [q] ∧ Amid outside p w (es.map Prod.snd) q v := by
  induction h generalizing p with
  | start ps w => exact ⟨p, hps, .stay p w⟩
  | @step ps qs w u v i p₀ p' e es turn takes answers rest ih =>
    subst hps
    obtain ⟨hlt, heq⟩ := List.getElem?_eq_some_iff.mp turn
    obtain rfl : i = 0 := Nat.lt_one_iff.mp hlt
    cases heq
    obtain ⟨q, hqs, hrest⟩ := ih (p := p') rfl
    exact ⟨q, hqs, .step takes answers hrest⟩
  | outside change rest ih =>
    obtain ⟨q, hqs, hrest⟩ := ih hps
    exact ⟨q, hqs, .outside change hrest⟩

theorem Turn.amid {α : Type} {outside : World → World → Prop} {p q : Procedure α} {w v : World} {es : List Event}
    (h : Turn outside p w es q v) : Amid outside p w es q v := by
  obtain ⟨_, hq, hrun⟩ := (h [p] 0 rfl).amid rfl
  cases hq
  rwa [List.map_map, show es.map (Prod.snd ∘ Prod.mk 0) = es from List.map_id es] at hrun

/-- **Running alone** is to run amid nothing. -/
theorem amid_run {α : Type} (outside : World → World → Prop) (p : Procedure α) (w : World) :
    ∃ es, Amid outside p w es (.ended (p.run w).1) (p.run w).2 := by
  obtain ⟨es, hes⟩ := turn_run outside p w
  exact ⟨es, hes.amid⟩

end Laurels
