import Laurels.Proofs.CallQueries
import Laurels.Proofs.LedgerGrowth

/-!
# Running alone

To run alone is an interleaving in which one procedure takes all the steps (`Procedure.alone`). So what is said
of histories can be said of `Procedure.run`, and that is `Ensures.run`: if the procedure ensures something as
long as the stores that answer it have a property, and its own queries keep that property, then the run ends
with an answer, and what was ensured holds of it.
-/

namespace Laurels

theorem own_alone (es : List Event) : own 0 (es.map (Prod.mk 0)) = es := by
  unfold own
  rw [List.filterMap_map]
  exact List.filterMap_some

theorem rowsAdded_alone (es : List Event) : rowsAdded (es.map (Prod.mk 0)) = addedIn es := by
  unfold rowsAdded
  rw [List.map_map]
  exact congrArg addedIn (List.map_id es)

/-- **Running alone** is taking all the steps of an interleaving in which the outside does nothing. -/
theorem Procedure.alone {α : Type} (p : Procedure α) (w : World) :
    ∃ es : List Event, p.Follows es (.ended (p.run w).1)
      ∧ Interleaving (fun _ _ => False) [p] w (es.map (Prod.mk 0)) [.ended (p.run w).1] (p.run w).2 := by
  obtain ⟨es, hes⟩ := turn_run (fun _ _ => False) p w
  have h := hes [p] 0 rfl
  obtain ⟨q, hq, hf⟩ := h.follows (i := 0) rfl
  cases hq
  rw [own_alone] at hf
  exact ⟨es, hf, h⟩

theorem mem_alone {es : List Event} {e : Event} (h : e ∈ es) : (0, e) ∈ es.map (Prod.mk 0) :=
  List.mem_map.mpr ⟨e, h, rfl⟩

/-- What the queries of a procedure keep holds when its run is over, and of the stores that answered it. -/
theorem Procedure.Asks.run {α : Type} {P : Store → Prop} {kind : Query → Prop} {p : Procedure α}
    (hasks : p.Asks kind) (hkeep : ∀ s q, kind q → P s → P (s.answer q).2) {w : World} (hw : P w.store) :
    ∃ es, p.Follows es (.ended (p.run w).1) ∧ (∀ e ∈ es, e.From P) ∧ P (p.run w).2.store
      ∧ Interleaving (fun _ _ => False) [p] w (es.map (Prod.mk 0)) [.ended (p.run w).1] (p.run w).2 := by
  obtain ⟨es, hf, hrun⟩ := p.alone w
  -- its own queries are the only ones that change the store
  obtain ⟨hlast, hfrom⟩ := hrun.invariant (P := P) (fun _ _ h => False.elim h) (by
    rintro s q ⟨x, hx, he⟩ hs
    obtain ⟨e, hes, rfl⟩ := List.mem_map.mp hx
    rw [show e = Event.asked q (s.answer q).1 from he] at hes
    exact hkeep s q (hasks.adequate hf hes) hs) hw
  exact ⟨es, hf, fun e he => hfrom _ (mem_alone he), hlast, hrun⟩

/-- **From histories to runs.** -/
theorem Procedure.Ensures.run {α : Type} {P : Store → Prop} {kind : Query → Prop} {p : Procedure α}
    {post : List Event → α → Prop} (h : p.Ensures (Event.From P) post) (hasks : p.Asks kind)
    (hkeep : ∀ s q, kind q → P s → P (s.answer q).2) {w : World} (hw : P w.store) :
    ∃ es a, (p.run w).1 = .ok a ∧ post es a ∧ P (p.run w).2.store
      ∧ Interleaving (fun _ _ => False) [p] w (es.map (Prod.mk 0)) [.ended (p.run w).1] (p.run w).2 := by
  obtain ⟨es, hf, hfrom, hlast, hrun⟩ := hasks.run hkeep hw
  obtain ⟨a, hend, hpost⟩ := h.adequate hf hfrom ⟨_, rfl⟩
  refine ⟨es, a, ?_, hpost, hlast, hrun⟩
  cases hr : (p.run w).1 with
  | ok b =>
    rw [hr] at hend
    cases hend
    rfl
  | error fault =>
    rw [hr] at hend
    cases hend

/-- What asks for nothing but reading leaves the store as it was, however it ends. -/
theorem Procedure.Asks.run_store {α : Type} {p : Procedure α} (hasks : p.Asks Query.Reads) (w : World) :
    (p.run w).2.store = w.store := by
  obtain ⟨_, _, _, hstore, _⟩ :=
    hasks.run (P := (· = w.store)) (fun s q hq hs => (Store.answer_of_reads hq).trans hs) rfl
  exact hstore

/-- After an answer, a sequence goes on with what depends on it. -/
theorem Procedure.run_seq {α β : Type} {p : Procedure α} {f : α → Procedure β} {w : World} {a : α}
    (h : (p.run w).1 = .ok a) : (p >>= f).run w = (f a).run (p.run w).2 := by
  show (p.bind f).run w = _
  rw [run_bind]
  generalize p.run w = r at h ⊢
  obtain ⟨r, v⟩ := r
  cases h
  rfl

/-- A fault ends a sequence where it is. -/
theorem Procedure.run_seq_of_error {α β : Type} {p : Procedure α} {w : World} {fault : Fault}
    (h : (p.run w).1 = .error fault) (f : α → Procedure β) : (p >>= f).run w = (.error fault, (p.run w).2) := by
  show (p.bind f).run w = _
  rw [run_bind]
  generalize p.run w = r at h ⊢
  obtain ⟨r, v⟩ := r
  cases h
  rfl

/-- A query that is answered, and the store after it. -/
theorem Procedure.run_ask {q : Query} {w : World} {reply : q.Reply} {s : Store} (h : w.store.answer q = (.ok reply, s)) :
    ((ask q).run w).1 = .ok reply ∧ ((ask q).run w).2.store = s := by
  have hask : w.ask q = (.ok reply, { w with store := s, queries := w.queries ++ [q] }) := by
    unfold World.ask
    rw [h]
  unfold ask run
  rw [hask]
  exact ⟨rfl, rfl⟩

/-- Where there is no fault, there is nothing to rescue. -/
theorem Procedure.run_rescue_of_ok {α : Type} {p : Procedure α} {w : World} {a : α} (h : (p.run w).1 = .ok a)
    (handler : Fault → Procedure α) : (p.rescue handler).run w = p.run w := by
  rw [run_rescue]
  generalize p.run w = r at h ⊢
  obtain ⟨r, v⟩ := r
  cases h
  rfl

/-- A fault is what a rescue takes over from. -/
theorem Procedure.run_rescue_of_error {α : Type} {p : Procedure α} {w : World} {fault : Fault}
    (h : (p.run w).1 = .error fault) (handler : Fault → Procedure α) :
    (p.rescue handler).run w = (handler fault).run (p.run w).2 := by
  rw [run_rescue]
  generalize p.run w = r at h ⊢
  obtain ⟨r, v⟩ := r
  cases h
  rfl

/-- A run that ends with an answer, with the store as it was. -/
def Procedure.Answers {α : Type} (p : Procedure α) (w : World) (a : α) : Prop :=
  (p.run w).1 = .ok a ∧ (p.run w).2.store = w.store

/-- What is ensured of a procedure that only reads holds of its run. -/
theorem Procedure.Ensures.answers {α : Type} {s : Store} {p : Procedure α} {post : List Event → α → Prop}
    (h : p.Ensures (Event.From (· = s)) post) (hasks : p.Asks Query.Reads) {w : World} (hw : w.store = s) :
    ∃ es a, p.Answers w a ∧ post es a := by
  obtain ⟨es, a, hr, hpost, _⟩ :=
    h.run hasks (fun s q hq hs => (Store.answer_of_reads hq).trans hs) hw
  exact ⟨es, a, ⟨hr, hasks.run_store w⟩, hpost⟩

/-- **Two runs side by side.** If the queries of a procedure are answered alike by stores that are related, and
leave them related, then so is the procedure as a whole, as long as the clocks agree. -/
theorem Procedure.Asks.run_alike {α : Type} {kind : Query → Prop} {related : Store → Store → Prop}
    (hanswer : ∀ q s₁ s₂, kind q → related s₁ s₂ →
      (s₁.answer q).1 = (s₂.answer q).1 ∧ related (s₁.answer q).2 (s₂.answer q).2)
    {p : Procedure α} (hasks : p.Asks kind) {w₁ w₂ : World} (hstores : related w₁.store w₂.store)
    (hclock : w₁.clock = w₂.clock) :
    (p.run w₁).1 = (p.run w₂).1 ∧ related (p.run w₁).2.store (p.run w₂).2.store
      ∧ (p.run w₁).2.clock = (p.run w₂).2.clock := by
  induction p generalizing w₁ w₂ with
  | done a => exact ⟨rfl, hstores, hclock⟩
  | raise e => exact ⟨rfl, hstores, hclock⟩
  | query q next ih =>
    obtain ⟨hkind, hrest⟩ := hasks.takes (.asked q next (w₁.store.answer q).1)
    obtain ⟨hreply, hnext⟩ := hanswer q _ _ (hkind q _ rfl) hstores
    have hsame : (w₁.ask q).1 = (w₂.ask q).1 := hreply
    unfold Procedure.run
    rw [← hsame]
    exact ih _ hrest hnext hclock
  | now next ih =>
    have hsame : w₁.readClock.1 = w₂.readClock.1 := congrArg Clock.ms hclock
    have hlater : w₁.readClock.2.clock = w₂.readClock.2.clock := by
      unfold World.readClock
      rw [hclock]
    unfold Procedure.run
    rw [← hsame]
    exact ih _ (hasks.takes (.told next _)).2 hstores hlater
  | log line next ih => exact ih (hasks.takes (.wrote line next)).2 hstores hclock

/-- The first reading of the clock shows the time that the run begins with. -/
theorem Interleaving.first_time {α : Type} {ps qs : List (Procedure α)} {w v : World}
    {es : List (Nat × Event)} (h : Interleaving (fun _ _ => False) ps w es qs v) {t : Int} {ts : List Int}
    (ht : timesIn (es.map Prod.snd) = t :: ts) : t = w.clock.ms := by
  induction h with
  | start ps w => exact absurd ht (by simp)
  | step turn takes answers rest ih =>
    cases answers with
    | asked q => exact ih ht
    | told => exact (List.cons.inj ht).1.symm
    | wrote line => exact ih ht
  | outside change rest ih => exact False.elim change

end Laurels
