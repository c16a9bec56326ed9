import Laurels.Proofs.Store.Answer

/-!
# How a store grows

Whatever a store is asked, its ledger is only added to, and its counters only count up. `Store.Grows` says so
of two stores, the second one later than the first; it holds from a store to itself and can be chained, so
that `grows_answer`, which is about one query, is all that has to be said of the queries.

A counter that is not there counts as nothing, and one that is begun counts at least once. So a counter grows
also while it comes into being (`CountersGrow.find?_none`).
-/

namespace Laurels

/-- A counter later on. It belongs to the same viewer and key, it counts no less, and the time at which it was
first moved stays once it is known. -/
structure ActionRow.Grown (r r' : ActionRow) : Prop where
  viewer : r'.viewer = r.viewer
  key : r'.key = r.key
  count : r.count ≤ r'.count
  first : ∀ t, r.first = some t → r'.first = some t

namespace ActionRow.Grown

theorem refl (r : ActionRow) : r.Grown r := ⟨rfl, rfl, Int.le_refl _, fun _ h => h⟩

theorem trans {r₁ r₂ r₃ : ActionRow} (h : r₁.Grown r₂) (h' : r₂.Grown r₃) : r₁.Grown r₃ where
  viewer := h'.viewer.trans h.viewer
  key := h'.key.trans h.key
  count := Int.le_trans h.count h'.count
  first := fun t ht => h'.first t (h.first t ht)

theorem again (time : Option Int) (r : ActionRow) : r.Grown (Store.ActionRow.again time r) where
  viewer := rfl
  key := rfl
  count := by
    show r.count ≤ r.count + 1
    omega
  first := by
    intro t ht
    show r.first.or time = some t
    rw [ht]
    rfl

theorem isCounterOf {r r' : ActionRow} (h : r.Grown r') (viewer key : String) :
    Store.isCounterOf viewer key r' = Store.isCounterOf viewer key r := by
  unfold Store.isCounterOf
  rw [h.viewer, h.key]

end ActionRow.Grown

/-- Counters later on: those that were there have grown, and those that were begun have counted something. -/
inductive CountersGrow : List ActionRow → List ActionRow → Prop
  | begun {rows : List ActionRow} (counted : ∀ r ∈ rows, 0 < r.count) : CountersGrow [] rows
  | kept {r r' : ActionRow} {rows rows' : List ActionRow} (grown : r.Grown r')
      (rest : CountersGrow rows rows') : CountersGrow (r :: rows) (r' :: rows')

namespace CountersGrow

variable {rows rows' rows'' : List ActionRow}

theorem refl (rows : List ActionRow) : CountersGrow rows rows := by
  induction rows with
  | nil => exact .begun (by simp)
  | cons r rows ih => exact .kept (.refl r) ih

theorem counted (h : CountersGrow rows rows') (hrows : ∀ r ∈ rows, 0 < r.count) :
    ∀ r ∈ rows', 0 < r.count := by
  induction h with
  | begun counted => exact counted
  | kept grown rest ih =>
    rw [List.forall_mem_cons] at hrows ⊢
    exact ⟨Int.lt_of_lt_of_le hrows.1 grown.count, ih hrows.2⟩

theorem trans (h : CountersGrow rows rows') (h' : CountersGrow rows' rows'') : CountersGrow rows rows'' := by
  induction h generalizing rows'' with
  | begun counted => exact .begun (h'.counted counted)
  | kept grown rest ih =>
    cases h' with
    | kept grown' rest' => exact .kept (grown.trans grown') (ih rest')

/-- Some counters move, and no other is begun. -/
theorem map {f : ActionRow → ActionRow} (hf : ∀ r : ActionRow, r.Grown (f r)) (rows : List ActionRow) :
    CountersGrow rows (rows.map f) := by
  induction rows with
  | nil => exact .begun (by simp)
  | cons r rows ih => exact .kept (hf r) ih

/-- A counter is begun. -/
theorem concat {r : ActionRow} (hr : 0 < r.count) (rows : List ActionRow) :
    CountersGrow rows (rows ++ [r]) := by
  induction rows with
  | nil => exact .begun (by simpa using hr)
  | cons r rows ih => exact .kept (.refl r) ih

theorem countOnce (rows : List ActionRow) (viewer key : String) (time : Option Int) :
    CountersGrow rows (Store.countOnce rows viewer key time).2 := by
  unfold Store.countOnce
  split
  · refine .map (fun r => ?_) rows
    split
    · exact .again time r
    · exact .refl r
  · exact .concat (by decide : (0 : Int) < 1) rows

/-- No counter disappears. -/
theorem exists_grown (h : CountersGrow rows rows') {r : ActionRow} (hr : r ∈ rows) :
    ∃ r' ∈ rows', r.Grown r' := by
  induction h with
  | begun counted => exact absurd hr List.not_mem_nil
  | kept grown rest ih =>
    rcases List.mem_cons.mp hr with rfl | hr
    · exact ⟨_, List.mem_cons_self, grown⟩
    · obtain ⟨r', hr', hgrown⟩ := ih hr
      exact ⟨r', List.mem_cons_of_mem _ hr', hgrown⟩

variable {viewer key : String} {r' : ActionRow}

theorem find?_some (h : CountersGrow rows rows') {r : ActionRow}
    (hr : rows.find? (Store.isCounterOf viewer key) = some r) :
    ∃ r', rows'.find? (Store.isCounterOf viewer key) = some r' ∧ r.Grown r' := by
  induction h with
  | begun counted => cases hr
  | @kept r₀ r₀' rows rows' grown rest ih =>
    have hsame := grown.isCounterOf viewer key
    by_cases hfirst : Store.isCounterOf viewer key r₀ = true
    · rw [List.find?_cons_of_pos hfirst] at hr
      cases hr
      exact ⟨r₀', List.find?_cons_of_pos (hsame.trans hfirst), grown⟩
    · rw [List.find?_cons_of_neg hfirst] at hr
      rw [List.find?_cons_of_neg (by rwa [hsame])]
      exact ih hr

/-- A counter that was not there counts something once it is. -/
theorem find?_none (h : CountersGrow rows rows')
    (hnone : rows.find? (Store.isCounterOf viewer key) = none)
    (hr : rows'.find? (Store.isCounterOf viewer key) = some r') : 0 < r'.count := by
  induction h with
  | begun counted => exact counted r' (List.mem_of_find?_eq_some hr)
  | @kept r₀ r₀' rows rows' grown rest ih =>
    have hfirst : ¬ Store.isCounterOf viewer key r₀ = true := fun hfirst => by
      rw [List.find?_cons_of_pos hfirst] at hnone
      cases hnone
    rw [List.find?_cons_of_neg hfirst] at hnone
    rw [List.find?_cons_of_neg (by rwa [grown.isCounterOf])] at hr
    exact ih hnone hr

end CountersGrow

namespace Store

/-- A store later on: rows of the ledger stay as they are, and counters grow. -/
structure Grows (s s' : Store) : Prop where
  ledger : s.ledger <+: s'.ledger
  counters : CountersGrow s.counterRows s'.counterRows

namespace Grows

theorem refl (s : Store) : s.Grows s := ⟨List.prefix_refl _, .refl _⟩

theorem trans {s₁ s₂ s₃ : Store} (h : s₁.Grows s₂) (h' : s₂.Grows s₃) : s₁.Grows s₃ :=
  ⟨h.ledger.trans h'.ledger, h.counters.trans h'.counters⟩

end Grows

/-- **Whatever a store is asked, it grows.** -/
theorem grows_answer (s : Store) (q : Query) : s.Grows (s.answer q).2 where
  ledger := by
    rw [ledger_answer]
    exact List.prefix_append _ _
  counters := by
    cases effect s q with
    | nothing same => rw [same]; exact .refl _
    | unlock entry row asked fresh grown => rw [grown]; exact .refl _
    | count entry viewer key time asked read counted =>
      rw [counted]
      exact .countOnce s.counterRows viewer key time
    | create item asked created => rw [created, (rows_create s item).counters]; exact .refl _

end Store

end Laurels
