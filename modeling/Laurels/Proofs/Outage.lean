import Laurels.Proofs.Amid
import Laurels.Proofs.AwardRun

/-!
# Outages

While a procedure is under way, tables can be lost or go out of reach (`Outage`). What such a run does is told by
comparison with the same procedure in a world that is in order and stays so. As long as no query is refused, the two
worlds answer the same, and the run goes the way of the procedure alone (`Shadows`); there is only one such way
(`Amid.alone_unique`).

`StopsAt` says what becomes of a procedure when a query is refused, and `Amid.course` puts both together: a run goes
the way of the procedure alone up to its first refused query. For an award this is its end, but for a log line
(`awardIds_stops`).
-/

namespace Laurels

/-! ## What is left of a store -/

/-- What can be left of a store. Tables are lost, with their rows, and any of them may be out of reach; a table that
is there has all its rows. -/
structure Store.Remnant (s₀ s : Store) : Prop where
  results : s.results = s₀.results ∨ s.results = none
  catalogue : s.catalogue = s₀.catalogue ∨ s.catalogue = none
  unlocks : s.unlocks = s₀.unlocks ∨ s.unlocks = none
  actions : s.actions = s₀.actions ∨ s.actions = none

/-- What may befall a store at any time: tables are lost, go out of reach, or come back into it. -/
def Outage (w u : World) : Prop := ∃ s, w.store.Remnant s ∧ u = { w with store := s }

namespace Store.Remnant

variable {s₀ s s' : Store}

theorem refl (s : Store) : s.Remnant s := ⟨Or.inl rfl, Or.inl rfl, Or.inl rfl, Or.inl rfl⟩

theorem trans_table {α : Type} {t₀ t t' : Option α} (h : t = t₀ ∨ t = none) (h' : t' = t ∨ t' = none) :
    t' = t₀ ∨ t' = none := by
  rcases h' with rfl | rfl
  · exact h
  · exact Or.inr rfl

theorem trans (h : s₀.Remnant s) (h' : s.Remnant s') : s₀.Remnant s' where
  results := trans_table h.results h'.results
  catalogue := trans_table h.catalogue h'.catalogue
  unlocks := trans_table h.unlocks h'.unlocks
  actions := trans_table h.actions h'.actions

theorem eq_of_isSome {α : Type} {t₀ t : Option α} (h : t = t₀ ∨ t = none) (hsome : t.isSome = true) :
    t = t₀ := by
  rcases h with h | rfl
  · exact h
  · cases hsome

/-- **A query of an award is refused, or answered as by the whole store.** -/
theorem answer (h : s₀.Remnant s) (hready : s₀.Ready) {q : Query} (hq : q.OfPass) :
    (∃ fault, s.refusal? q.tables = some fault ∧ s.answer q = (.error fault, s))
      ∨ (s.answer q).1 = (s₀.answer q).1 ∧ (s₀.answer q).2.Remnant (s.answer q).2 := by
  cases hr : s.refusal? q.tables with
  | some fault =>
    refine Or.inl ⟨fault, rfl, ?_⟩
    unfold Store.answer
    rw [hr]
  | none =>
    right
    have hhas := fun t => has_of_refusal?_eq_none (t := t) hr
    rw [answer_of_refusal?_eq_none hr, answer_of_ready hready]
    -- the query looks at its own tables only, and these have all their rows
    cases q with
    | activeAchievements =>
      simp only [serve, eq_of_isSome h.catalogue (hhas .catalogue List.mem_cons_self), h, and_self]
    | raceTallies viewers =>
      simp only [serve, eq_of_isSome h.results (hhas .results List.mem_cons_self), h, and_self]
    | actionCounts viewers keys =>
      simp only [serve, eq_of_isSome h.actions (hhas .actions List.mem_cons_self), h, and_self]
    | unlockedPairs viewers achievements =>
      simp only [serve, eq_of_isSome h.unlocks (hhas .unlocks List.mem_cons_self), h, and_self]
    | unlockTimes viewer =>
      have hledger := eq_of_isSome h.unlocks (hhas .unlocks List.mem_cons_self)
      cases hc : viewer.textCell <;> simp [serve, hc, hledger, h, bind, Except.bind, pure, Except.pure]
    | unlockedList viewer =>
      simp only [serve, eq_of_isSome h.unlocks (hhas .unlocks List.mem_cons_self),
        eq_of_isSome h.catalogue (hhas .catalogue (List.mem_cons_of_mem _ List.mem_cons_self)), h, and_self]
    | insertUnlock entry =>
      have hledger := eq_of_isSome h.unlocks (hhas .unlocks List.mem_cons_self)
      cases hc : entry.row with
      | error e => simp [serve, hc, h, bind, Except.bind]
      | ok row =>
        simp only [serve, hc, hledger, bind, Except.bind, pure, Except.pure, true_and]
        exact ⟨h.results, h.catalogue, Or.inl rfl, h.actions⟩
    | countAction entry => exact False.elim hq
    | create item => exact False.elim hq

end Store.Remnant

/-! ## The way of a procedure alone -/

/-- A run of a procedure alone. -/
abbrev AmidNothing {α : Type} : Procedure α → World → List Event → Procedure α → World → Prop :=
  Amid fun _ _ => False

theorem Procedure.Takes.unique {α : Type} {p p₁ p₂ : Procedure α} {w w₁ w₂ : World} {e₁ e₂ : Event}
    (h₁ : p.Takes e₁ p₁) (ha₁ : w.Answers e₁ w₁) (h₂ : p.Takes e₂ p₂) (ha₂ : w.Answers e₂ w₂) :
    e₁ = e₂ ∧ p₁ = p₂ ∧ w₁ = w₂ := by
  cases h₁ with
  | asked query next reply =>
    cases h₂
    cases ha₁
    cases ha₂
    exact ⟨rfl, rfl, rfl⟩
  | told next t =>
    cases h₂
    cases ha₁
    cases ha₂
    exact ⟨rfl, rfl, rfl⟩
  | wrote line next =>
    cases h₂
    cases ha₁
    cases ha₂
    exact ⟨rfl, rfl, rfl⟩

/-- **A procedure alone has one way to go.** Wherever it is, the rest of its run lies before it. -/
theorem Amid.alone_unique {α : Type} {p q : Procedure α} {w v v' : World} {es full : List Event} {r : Except Fault α}
    (h : AmidNothing p w es q v) (hfull : AmidNothing p w full (.ended r) v') :
    ∃ rest, full = es ++ rest ∧ AmidNothing q v rest (.ended r) v' := by
  induction h generalizing full with
  | stay p w => exact ⟨full, rfl, hfull⟩
  | outside change rest ih => exact False.elim change
  | step takes answers rest ih =>
    rcases hfull.first with ⟨_, hend, _⟩ | ⟨e', es', p', u, u', rfl, hreach, takes', answers', hrest⟩
    · subst hend
      cases r <;> cases takes
    · rcases hreach.cases_head with rfl | ⟨_, change, _⟩
      · obtain ⟨rfl, rfl, rfl⟩ := takes.unique answers takes' answers'
        obtain ⟨rest', rfl, hlast⟩ := ih hrest
        exact ⟨rest', rfl, hlast⟩
      · exact False.elim change

/-! ## Until a query is refused -/

/-- A run of a procedure that goes the way of the procedure alone, in a world of which less may be left. -/
def Shadows {α : Type} (p : Procedure α) (w : World) (es : List Event) (q : Procedure α) (v : World) : Prop :=
  ∃ u, AmidNothing p w es q u ∧ u.store.Remnant v.store ∧ v.clock = u.clock

/-- What a procedure does when a query is refused, whichever it is. -/
def Procedure.StopsAt {α : Type} (after : StoreFault → Procedure α) : Procedure α → Prop
  | .done _ => True
  | .raise _ => True
  | .query _ next => (∀ fault, next (.error fault) = after fault) ∧ ∀ reply, (next reply).StopsAt after
  | .now next => ∀ t, (next t).StopsAt after
  | .log _ next => next.StopsAt after

/-- The course that a procedure takes in the world `w'`, compared with the world `w` in which it is alone: it goes
the same way, to the end or until a query is refused. -/
inductive Course {α : Type} (outside : World → World → Prop) (after : StoreFault → Procedure α) (p : Procedure α)
    (w w' : World) : List Event → Procedure α → World → Prop
  | calm {es : List Event} {q : Procedure α} {v : World} (shadows : Shadows p w es q v) :
      Course outside after p w w' es q v
  | broken {before rest : List Event} {query : Query} {fault : StoreFault}
      {next : Except StoreFault query.Reply → Procedure α} {q : Procedure α} {u v : World}
      (upto : Amid outside p w' before (.query query next) u) (shadows : Shadows p w before (.query query next) u)
      (refuses : u.store.refusal? query.tables = some fault)
      (stops : Amid outside (after fault) (u.ask query).2 rest q v) :
      Course outside after p w w' (before ++ .asked query (.error fault) :: rest) q v

section

variable {α : Type} {outside : World → World → Prop} {after : StoreFault → Procedure α} {p p' q : Procedure α}
  {w w' u u' v : World} {e : Event} {es : List Event}

namespace Course

theorem cons (takes : p.Takes e p') (answers : w.Answers e u) (answers' : w'.Answers e u')
    (h : Course outside after p' u u' es q v) : Course outside after p w w' (e :: es) q v := by
  cases h with
  | calm shadows =>
    obtain ⟨v₀, halone, hrest⟩ := shadows
    exact .calm ⟨v₀, .step takes answers halone, hrest⟩
  | @broken before rest query fault next _ _ _ upto shadows refuses stops =>
    obtain ⟨v₀, halone, hrest⟩ := shadows
    have hupto := upto.step takes answers'
    exact .broken hupto ⟨v₀, .step takes answers halone, hrest⟩ refuses stops

theorem later (change : outside w' u') (h : Course outside after p w u' es q v) :
    Course outside after p w w' es q v := by
  cases h with
  | calm shadows => exact .calm shadows
  | broken upto shadows refuses stops => exact .broken (.outside change upto) shadows refuses stops

end Course

theorem Procedure.StopsAt.takes (h : p.StopsAt after) (takes : p.Takes e p') : p'.StopsAt after := by
  cases takes with
  | asked query next reply => exact h.2 reply
  | told next t => exact h t
  | wrote line next => exact h

/-- **A run through outages goes the way of the procedure alone, until a query is refused.** -/
theorem Amid.course (h : Amid outside p w' es q v) (hout : ∀ w u, outside w u → Outage w u) (hstops : p.StopsAt after)
    (hasks : p.Asks Query.OfPass) (hready : w.store.Ready) (hleft : w.store.Remnant w'.store)
    (hclock : w'.clock = w.clock) : Course outside after p w w' es q v := by
  induction h generalizing w with
  | stay p w' => exact .calm ⟨w, .stay p w, hleft, hclock⟩
  | outside change rest ih =>
    obtain ⟨s, hs, rfl⟩ := hout _ _ change
    exact (ih hstops hasks hready (hleft.trans hs) hclock).later change
  | @step p p' q w' u' v e es takes answers rest ih =>
    obtain ⟨hkind, hasks'⟩ := hasks.takes takes
    have hstops' := hstops.takes takes
    cases answers with
    | told =>
      have htime : w'.readClock.1 = w.readClock.1 := congrArg Clock.ms hclock
      have hlater : w'.readClock.2.clock = w.readClock.2.clock := by
        unfold World.readClock
        rw [hclock]
      refine (ih (w := w.readClock.2) hstops' hasks' hready hleft hlater).cons takes ?_ (.told w')
      rw [htime]
      exact .told w
    | wrote line =>
      exact (ih (w := w.write line) hstops' hasks' hready hleft hclock).cons takes (.wrote w line) (.wrote w' line)
    | asked query =>
      rcases hleft.answer hready (hkind query _ rfl) with ⟨fault, hrefusal, hanswer⟩ | ⟨hreply, hleft'⟩
      · -- the refusal is where the comparison ends
        cases takes with
        | asked query next reply =>
          have hfault : (w'.ask query).1 = .error fault := congrArg Prod.fst hanswer
          rw [hfault] at rest ⊢
          rw [hstops.1] at rest
          exact .broken (.stay _ w') ⟨w, .stay _ w, hleft, hclock⟩ hrefusal rest
      · have hreply' : (w'.ask query).1 = (w.ask query).1 := hreply
        refine (ih (w := (w.ask query).2) hstops' hasks' (Store.ready_answer hready query) hleft' hclock).cons takes ?_
          (.asked w' query)
        rw [hreply']
        exact .asked w query

end

/-! ## An award that is refused a query -/

namespace Procedure

variable {α β : Type} {after : StoreFault → Procedure α}

/-- What asks nothing is refused nothing. -/
theorem StopsAt.of_asks {p : Procedure α} (h : p.Asks fun _ => False) : p.StopsAt after := by
  induction p with
  | done a => exact trivial
  | raise fault => exact trivial
  | query q next ih => exact ((h.takes (.asked q next (.error (.unreachable "")))).1 q _ rfl).elim
  | now next ih => exact fun t => ih t (h.takes (.told next t)).2
  | log line next ih => exact ih (h.takes (.wrote line next)).2

theorem StopsAt.rescue {p : Procedure α} (h : p.StopsAt after) {handler : Fault → Procedure α}
    (hh : ∀ fault, (handler fault).Asks fun _ => False) :
    (p.rescue handler).StopsAt fun fault => (after fault).rescue handler := by
  induction p with
  | done a => exact trivial
  | raise fault => exact .of_asks (hh fault)
  | query q next ih =>
    exact ⟨fun fault => congrArg (Procedure.rescue · handler) (h.1 fault), fun reply => ih reply (h.2 reply)⟩
  | now next ih => exact fun t => ih t (h t)
  | log line next ih => exact ih h

/-- A procedure that ends with the refusal of any of its queries. -/
def Fragile (p : Procedure α) : Prop := p.StopsAt fun fault => .raise (.store fault)

theorem fragile_done (a : α) : (Procedure.done a).Fragile := trivial

theorem fragile_ask (q : Query) : (ask q).Fragile := by
  refine ⟨fun _ => rfl, fun reply => ?_⟩
  cases reply <;> exact trivial

theorem Fragile.bind {p : Procedure α} {f : α → Procedure β} (hp : p.Fragile) (hf : ∀ a, (f a).Fragile) :
    (p >>= f).Fragile := by
  show (p.bind f).Fragile
  induction p with
  | done a => exact hf a
  | raise fault => exact trivial
  | query q next ih =>
    exact ⟨fun fault => congrArg (Procedure.bind · f) (hp.1 fault), fun reply => ih reply (hp.2 reply)⟩
  | now next ih => exact fun t => ih t (hp t)
  | log line next ih => exact ih hp

theorem fetchTallies_fragile (viewers : List Value) : (fetchTallies viewers).Fragile := by
  unfold fetchTallies
  split
  · exact fragile_done _
  · exact fragile_ask _

theorem fetchCounts_fragile (viewers keys : List Value) : (fetchCounts viewers keys).Fragile := by
  unfold fetchCounts
  split
  · exact fragile_done _
  · exact fragile_ask _

theorem fetchPairs_fragile (viewers achievements : List Value) : (fetchPairs viewers achievements).Fragile := by
  unfold fetchPairs
  split
  · exact fragile_done _
  · exact fragile_ask _

theorem takeSnapshots_fragile (viewers : List String) (keys : List Value) : (takeSnapshots viewers keys).Fragile := by
  unfold takeSnapshots
  split
  · exact fragile_done _
  · exact (fetchTallies_fragile _).bind fun _ => (fetchCounts_fragile _ _).bind fun _ => fragile_done _

theorem unlockAll_fragile (o : Occasion) (candidates : List Candidate) (existing : List (String × Int)) :
    (unlockAll o candidates existing).Fragile := by
  induction candidates generalizing existing with
  | nil => exact fragile_done _
  | cons c candidates ih =>
    obtain ⟨viewer, snapshot, rule⟩ := c
    unfold unlockAll
    split
    · exact ih existing
    · split
      · exact ih existing
      · refine (fragile_ask _).bind fun added => ?_
        split
        · exact Fragile.bind (.of_asks (asks_write _ _)) fun _ => (ih _).bind fun _ => fragile_done _
        · exact ih existing

theorem awardPass_fragile (viewers : List String) (source sourceRef : String) :
    (awardPass viewers source sourceRef).Fragile := by
  unfold awardPass
  refine (fragile_ask _).bind fun as => Fragile.bind (.of_asks (compile_asks true as)) fun rules => ?_
  split
  · exact fragile_done _
  · refine (takeSnapshots_fragile _ _).bind fun snapshots => (fetchPairs_fragile _ _).bind fun existing => ?_
    refine Fragile.bind (.of_asks asks_readClock) fun time => (unlockAll_fragile _ _ _).bind fun us => ?_
    split
    · exact Fragile.bind (.of_asks (asks_write _ _)) fun _ => fragile_done _
    · exact fragile_done _

/-- **An award that is refused a query has nothing left to do** but to tell of a missing table. -/
theorem awardIds_stops (viewers : List String) (source sourceRef : String) :
    (awardIds viewers source sourceRef).StopsAt fun fault => nothingAwarded (.store fault) := by
  unfold awardIds
  split
  · exact trivial
  · exact (awardPass_fragile viewers source sourceRef).rescue nothingAwarded_asks

end Procedure

/-! ## What is added until then -/

/-- A query that was answered with a fault. -/
def Event.Refused : Event → Prop
  | .asked _ (.error _) => True
  | _ => False

/-- The store with rows added to its ledger. -/
def Store.withAdded (s : Store) (rows : List UnlockRow) : Store := { s with unlocks := some (s.ledger ++ rows) }

theorem Procedure.Asks.addedIn_eq_nil {α : Type} {p q : Procedure α} {es : List Event} (h : p.Asks fun _ => False)
    (hf : p.Follows es q) : addedIn es = [] := by
  unfold addedIn
  rw [List.flatMap_eq_nil_iff]
  intro e he
  cases e with
  | asked query reply => exact False.elim (h.adequate hf he)
  | told t => rfl
  | wrote line => rfl

/-- A procedure that does what an award does leaves the store as it was but for the rows that it adds. -/
theorem Amid.alone_store {α : Type} {p q : Procedure α} {w v : World} {es : List Event} (h : AmidNothing p w es q v)
    (hasks : p.Asks Query.OfPass) (hready : w.store.Ready) : v.store = w.store.withAdded (addedIn es) := by
  have hsame : SameButLedger w.store v.store := h.invariant hasks (fun _ _ change => False.elim change)
    (fun _ _ hq hs => hs.answer hq) ⟨hready, rfl, rfl, rfl, rfl⟩
  have hledger := h.interleaving.ledger_eq keepsStore_never
  rw [rowsAdded_alone] at hledger
  exact hsame.eq_of_ledger hledger

/-- **An award through outages adds what it would have added by then,** and whatever is left of the tables at the end
has all these rows. -/
theorem awardIds_course {ids : List String} {source sourceRef : String} {w w' v : World} {es : List Event}
    {q : Procedure (List Unlock)} (h : Amid Outage (awardIds ids source sourceRef) w' es q v)
    (hready : w.store.Ready) (hleft : w.store.Remnant w'.store) (hclock : w'.clock = w.clock) :
    ∃ before m u, AmidNothing (awardIds ids source sourceRef) w before m u ∧ addedIn es = addedIn before
      ∧ (w.store.withAdded (addedIn es)).Remnant v.store ∧ ((∀ e ∈ es, ¬ e.Refused) → m = q) := by
  have hasks := Procedure.awardIds_asks ids source sourceRef
  have hstops := Procedure.awardIds_stops ids source sourceRef
  cases h.course (fun _ _ change => change) hstops hasks hready hleft hclock with
  | calm shadows =>
    obtain ⟨u, halone, hu, _⟩ := shadows
    rw [halone.alone_store hasks hready] at hu
    exact ⟨es, q, u, halone, rfl, hu, fun _ => rfl⟩
  | @broken before rest query fault next _ u' _ upto shadows refuses stops =>
    obtain ⟨u, halone, hu, _⟩ := shadows
    rw [halone.alone_store hasks hready] at hu
    -- what comes after the refusal adds nothing, and tables are at most lost
    have hsilent : addedIn rest = [] := (Procedure.nothingAwarded_asks _).addedIn_eq_nil stops.follows
    have hadded : addedIn (before ++ .asked query (.error fault) :: rest) = addedIn before := by
      rw [addedIn_append, addedIn_cons, hsilent, List.append_nil]
      show _ ++ Store.added query (.error fault) = _
      rw [Store.added_error, List.append_nil]
    have hsame : (u'.ask query).2.store = u'.store := by
      show (u'.store.answer query).2 = _
      unfold Store.answer
      rw [refuses]
    have hv : (w.store.withAdded (addedIn before)).Remnant v.store := by
      refine stops.invariant (P := Store.Remnant _) (Procedure.nothingAwarded_asks (.store fault)) ?_
        (fun _ _ hq _ => False.elim hq) (by rw [hsame]; exact hu)
      rintro w _ ⟨s, hs, rfl⟩ hw
      exact hw.trans hs
    rw [hadded]
    refine ⟨before, _, u, halone, rfl, hv, fun hnone => ?_⟩
    exact absurd trivial (hnone _ (List.mem_append_right _ List.mem_cons_self))

end Laurels
