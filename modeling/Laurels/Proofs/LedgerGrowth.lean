import Mathlib.Data.List.Flatten
import Mathlib.Data.List.Nodup
import Mathlib.Data.List.Perm.Basic
import Laurels.Proofs.CallHistory

/-!
# How the ledger grows

In a run of procedures side by side the ledger grows by the rows that the steps add, in the order of the
steps (`Interleaving.ledger_eq`). No step adds a row whose pair the ledger holds by then, so that the pairs of
all added rows differ from each other and from those that were held before (`Interleaving.added_fresh`). It
follows that a pair which is added is added by one procedure only (`Interleaving.adder_unique`).
-/

namespace Laurels

/-- What the ledger holds at most once: a viewer and an achievement. -/
def UnlockRow.pair (r : UnlockRow) : String × Int := (r.viewer, r.achievement)

/-- The pair of a viewer and an achievement that an unlock is about. -/
def Unlock.pair (u : Unlock) : String × Int := (u.viewer, u.achievement)

/-- What the outside may do while calls are under way: the clock may go on, or be set. -/
def TimePasses (w u : World) : Prop := ∃ clock, u = { w with clock := clock }

/-- Whether a relation lets the store alone. -/
def KeepsStore (outside : World → World → Prop) : Prop := ∀ w u, outside w u → u.store = w.store

theorem keepsStore_timePasses : KeepsStore TimePasses := by
  rintro w _ ⟨clock, rfl⟩
  rfl

/-- The outside does nothing. -/
theorem keepsStore_never : KeepsStore fun _ _ => False := fun _ _ h => False.elim h

namespace World

theorem Answers.ledger_eq {w u : World} {e : Event} (h : w.Answers e u) :
    u.store.ledger = w.store.ledger ++ e.added := by
  cases h with
  | asked q => exact Store.ledger_answer w.store q
  | told => exact (List.append_nil _).symm
  | wrote line => exact (List.append_nil _).symm

/-- A step adds nothing, or one row whose pair was not held. -/
theorem Answers.added_cases {w u : World} {e : Event} (h : w.Answers e u) :
    e.added = [] ∨ ∃ row, e.added = [row] ∧ ¬ w.store.Holds row.viewer row.achievement := by
  cases h with
  | told => exact Or.inl rfl
  | wrote line => exact Or.inl rfl
  | asked q => exact Store.added_answer w.store q

end World

theorem Store.Holds.of_ledger_subset {s t : Store} {viewer : String} {achievement : Int}
    (h : s.Holds viewer achievement) (hsub : s.ledger ⊆ t.ledger) : t.Holds viewer achievement := by
  obtain ⟨row, hrow, hv, ha⟩ := h
  exact ⟨row, hsub hrow, hv, ha⟩

/-- A store in order, with the catalogue that another store has. -/
def Store.InOrder (s₀ s : Store) : Prop := s.Ready ∧ s.catalogueRows = s₀.catalogueRows

theorem steady_inOrder (s₀ : Store) : Steady (Store.InOrder s₀) s₀ where
  ready := fun _ hs => hs.1
  catalogue := fun _ hs => hs.2

theorem Store.inOrder_answer {s₀ s : Store} (h : Store.InOrder s₀ s) (q : Query) :
    Store.InOrder s₀ (s.answer q).2 :=
  ⟨ready_answer h.1 q, (catalogueRows_answer s q).trans h.2⟩

/-! ## The record of a run -/

/-- The rows that a run adds to the ledger, in order. -/
def rowsAdded (es : List (Nat × Event)) : List UnlockRow := addedIn (es.map Prod.snd)

/-- The rows that a run adds to the ledger, each with the procedure that adds it. -/
def adders (es : List (Nat × Event)) : List (Nat × UnlockRow) :=
  es.flatMap fun x => x.2.added.map (Prod.mk x.1)

theorem map_adders (es : List (Nat × Event)) : (adders es).map Prod.snd = rowsAdded es := by
  unfold adders rowsAdded addedIn
  rw [List.map_flatMap, List.flatMap_map]
  congr 1
  funext x
  rw [List.map_map]
  exact List.map_id _

theorem mem_adders {i : Nat} {row : UnlockRow} {es : List (Nat × Event)} :
    (i, row) ∈ adders es ↔ row ∈ addedIn (own i es) := by
  unfold adders addedIn
  rw [List.mem_flatMap, List.mem_flatMap]
  constructor
  · rintro ⟨⟨j, e⟩, hmem, hrow⟩
    obtain ⟨row', hrow', heq⟩ := List.mem_map.mp hrow
    cases heq
    exact ⟨e, mem_own.mpr hmem, hrow'⟩
  · rintro ⟨e, hmem, hrow⟩
    exact ⟨(i, e), mem_own.mp hmem, List.mem_map.mpr ⟨row, hrow, rfl⟩⟩

theorem mem_rowsAdded {row : UnlockRow} {es : List (Nat × Event)} :
    row ∈ rowsAdded es ↔ ∃ i, row ∈ addedIn (own i es) := by
  rw [← map_adders, List.mem_map]
  constructor
  · rintro ⟨⟨i, row'⟩, hmem, rfl⟩
    exact ⟨i, mem_adders.mp hmem⟩
  · rintro ⟨i, hmem⟩
    exact ⟨(i, row), mem_adders.mpr hmem, rfl⟩

theorem own_sublist (i : Nat) (es : List (Nat × Event)) : (own i es).Sublist (es.map Prod.snd) := by
  induction es with
  | nil => exact .slnil
  | cons x es ih =>
    obtain ⟨j, e⟩ := x
    by_cases hj : j = i
    · subst hj
      rw [own_cons_self]
      exact ih.cons_cons e
    · rw [own_cons_ne hj]
      exact ih.cons e

theorem addedIn_own_sublist (i : Nat) (es : List (Nat × Event)) :
    (addedIn (own i es)).Sublist (rowsAdded es) := (own_sublist i es).flatMap _

theorem flatMap_range_ite {β : Type} (l : List β) {j n : Nat} (hj : j < n) :
    ((List.range n).flatMap fun i => if j = i then l else []) = l := by
  induction n with
  | zero => omega
  | succ n ih =>
    rw [List.range_succ, List.flatMap_append, List.flatMap_singleton]
    by_cases hlast : j = n
    · -- the procedure at the end is the one, and none before it
      have hnone : ((List.range n).flatMap fun i => if j = i then l else []) = [] := by
        rw [List.flatMap_eq_nil_iff]
        intro i hi
        have := List.mem_range.mp hi
        rw [if_neg (by omega)]
      rw [hnone, if_pos hlast, List.nil_append]
    · rw [ih (by omega), if_neg hlast, List.append_nil]

/-- **What the steps of a run come to** is what the steps of each procedure come to, put together. -/
theorem perm_own {β : Type} (f : Event → List β) {n : Nat} {es : List (Nat × Event)} (h : ∀ x ∈ es, x.1 < n) :
    (es.flatMap fun x => f x.2).Perm ((List.range n).flatMap fun i => (own i es).flatMap f) := by
  induction es with
  | nil => simp [own]
  | cons x es ih =>
    obtain ⟨j, e⟩ := x
    rw [List.forall_mem_cons] at h
    have hsplit : ((List.range n).flatMap fun i => (own i ((j, e) :: es)).flatMap f)
        = (List.range n).flatMap fun i => (if j = i then f e else []) ++ (own i es).flatMap f := by
      congr 1
      funext i
      by_cases hi : j = i
      · subst hi
        rw [own_cons_self, if_pos rfl, List.flatMap_cons]
      · rw [own_cons_ne hi, if_neg hi, List.nil_append]
    have hperm := List.flatMap_append_perm (List.range n) (fun i => if j = i then f e else [])
      fun i => (own i es).flatMap f
    rw [flatMap_range_ite _ h.1] at hperm
    rw [hsplit, List.flatMap_cons]
    exact ((ih h.2).append_left _).trans hperm

theorem flatMap_range_length {α β : Type} (f : α → List β) (qs : List α) {g : Nat → List β}
    (hg : ∀ i q, qs[i]? = some q → g i = f q) : (List.range qs.length).flatMap g = qs.flatMap f := by
  induction qs generalizing g with
  | nil => rfl
  | cons q qs ih =>
    rw [List.length_cons, List.range_succ_eq_map, List.flatMap_cons, List.flatMap_map, hg 0 q rfl,
      ih fun i q' hq' => hg (i + 1) q' hq', List.flatMap_cons]

namespace Interleaving

variable {α : Type} {outside : World → World → Prop} {ps qs : List (Procedure α)} {w v : World}
  {es : List (Nat × Event)}

/-- **The ledger grows at its end,** by the rows that the steps add. -/
theorem ledger_eq (hout : KeepsStore outside) (h : Interleaving outside ps w es qs v) :
    v.store.ledger = w.store.ledger ++ rowsAdded es := by
  induction h with
  | start ps w => exact (List.append_nil _).symm
  | step turn takes answers rest ih =>
    rw [ih, answers.ledger_eq, List.append_assoc]
    rfl
  | outside change rest ih => rw [ih, hout _ _ change]

theorem ledger_subset (hout : KeepsStore outside) (h : Interleaving outside ps w es qs v) :
    w.store.ledger ⊆ v.store.ledger := by
  rw [h.ledger_eq hout]
  exact List.subset_append_left _ _

/-- **What a run adds was not held,** neither before the run nor by what the run added before. -/
theorem added_fresh (hout : KeepsStore outside) (h : Interleaving outside ps w es qs v) :
    ((rowsAdded es).map UnlockRow.pair).Nodup
      ∧ ∀ row ∈ rowsAdded es, ¬ w.store.Holds row.viewer row.achievement := by
  induction h with
  | start ps w => exact ⟨List.nodup_nil, fun row hrow => absurd hrow List.not_mem_nil⟩
  | @step ps qs w u v i p p' e es turn takes answers rest ih =>
    obtain ⟨hnodup, hfresh⟩ := ih
    have hcons : rowsAdded ((i, e) :: es) = e.added ++ rowsAdded es := rfl
    have hledger := answers.ledger_eq
    -- what the later steps add was not held after this step, so it was not held before it
    have hold : ∀ row ∈ rowsAdded es, ¬ w.store.Holds row.viewer row.achievement := by
      intro row hrow hheld
      refine hfresh row hrow (hheld.of_ledger_subset ?_)
      rw [hledger]
      exact List.subset_append_left _ _
    rcases answers.added_cases with ha | ⟨new, ha, hnew⟩
    · rw [hcons, ha]
      exact ⟨hnodup, hold⟩
    · rw [hcons, ha]
      refine ⟨?_, ?_⟩
      · -- the store after this step holds the new pair, so no later step adds it again
        rw [List.singleton_append, List.map_cons, List.nodup_cons]
        refine ⟨fun hmem => ?_, hnodup⟩
        obtain ⟨row, hrow, hpair⟩ := List.mem_map.mp hmem
        refine hfresh row hrow ⟨new, ?_, (congrArg Prod.fst hpair).symm, (congrArg Prod.snd hpair).symm⟩
        rw [hledger, ha]
        exact List.mem_append_right _ List.mem_cons_self
      · intro row hrow
        rcases List.mem_append.mp hrow with hrow | hrow
        · rw [List.mem_singleton.mp hrow]
          exact hnew
        · exact hold row hrow
  | outside change rest ih =>
    rw [hout _ _ change] at ih
    exact ih

/-- Distinct pairs stay distinct. -/
theorem ledger_nodup (hout : KeepsStore outside) (h : Interleaving outside ps w es qs v)
    (hw : (w.store.ledger.map UnlockRow.pair).Nodup) : (v.store.ledger.map UnlockRow.pair).Nodup := by
  obtain ⟨hnodup, hfresh⟩ := h.added_fresh hout
  rw [h.ledger_eq hout, List.map_append, List.nodup_append]
  refine ⟨hw, hnodup, ?_⟩
  rintro _ hold _ hnew rfl
  obtain ⟨old, hold, heq⟩ := List.mem_map.mp hold
  obtain ⟨new, hnew, hpair⟩ := List.mem_map.mp hnew
  rw [← hpair] at heq
  exact hfresh new hnew ⟨old, hold, congrArg Prod.fst heq, congrArg Prod.snd heq⟩

/-- **A pair is added by one procedure only,** and with one row. -/
theorem adder_unique (hout : KeepsStore outside) (h : Interleaving outside ps w es qs v) {i j : Nat}
    {row row' : UnlockRow} (hi : row ∈ addedIn (own i es)) (hj : row' ∈ addedIn (own j es))
    (hpair : row.pair = row'.pair) : i = j ∧ row = row' := by
  -- the pairs stay distinct when each row is marked with its adder
  have hnodup := (h.added_fresh hout).1
  rw [← map_adders, List.map_map] at hnodup
  have heq := List.inj_on_of_nodup_map hnodup (mem_adders.mpr hi) (mem_adders.mpr hj) hpair
  exact Prod.mk.inj heq

/-- **A run keeps the store in order,** and so every reply in its record comes from a store in order. -/
theorem inOrder (hout : KeepsStore outside)
    (h : Interleaving outside ps w es qs v) (hready : w.store.Ready) :
    Store.InOrder w.store v.store ∧ ∀ x ∈ es, x.2.From (Store.InOrder w.store) :=
  h.invariant (fun w u hwu hw => by rw [hout w u hwu]; exact hw)
    (fun s q _ hs => Store.inOrder_answer hs q) ⟨hready, rfl⟩

/-- **Every reply in a record comes from a store that has grown into the last one.** -/
theorem grows_after (hout : KeepsStore outside) (h : Interleaving outside ps w es qs v) :
    w.store.Grows v.store ∧ ∀ x ∈ es, x.2.From (·.Grows v.store) := by
  induction h with
  | start ps w => exact ⟨.refl _, fun x hx => absurd hx List.not_mem_nil⟩
  | @step ps qs w u v i p p' e es turn takes answers rest ih =>
    have hgrows : w.store.Grows u.store := by
      rcases answers.store with ⟨q, _, hs⟩ | hs
      · rw [hs]
        exact Store.grows_answer w.store q
      · rw [hs]
        exact .refl _
    exact ⟨hgrows.trans ih.1, List.forall_mem_cons.mpr ⟨answers.from_store (hgrows.trans ih.1), ih.2⟩⟩
  | outside change rest ih => rwa [hout _ _ change] at ih

/-- A counter that has refused a step of a run is full from then on. -/
theorem full_of_refused (hout : KeepsStore outside) (h : Interleaving outside ps w es qs v) {i : Nat}
    {viewer key : String} {time : Int} {cause : CellFault}
    (hmem : (i, .asked (.countAction (.of viewer key time)) (.error (.cell cause))) ∈ es) :
    v.store.Full viewer key := by
  obtain ⟨s, hgrows, hreply⟩ := (h.grows_after hout).2 _ hmem
  exact (Store.full_of_answer hreply.symm).later hgrows

/-- What a step of a run shows is so from then on. -/
theorem holds_of_shows (hout : KeepsStore outside) (h : Interleaving outside ps w es qs v) {i : Nat}
    {e : Event} (hmem : (i, e) ∈ es) {viewer : String} {achievement : Int}
    (hshows : e.Shows viewer achievement) : v.store.Holds viewer achievement := by
  induction h with
  | start ps w => exact absurd hmem List.not_mem_nil
  | step turn takes answers rest ih =>
    rcases List.mem_cons.mp hmem with heq | hmem
    · cases heq
      exact (Store.holds_of_shows answers hshows).of_ledger_subset (rest.ledger_subset hout)
    · exact ih hmem
  | outside change rest ih => exact ih hmem

end Interleaving

end Laurels
