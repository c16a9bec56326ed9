import Laurels.Proofs.Counts

/-!
# One more action

To count an action is to move one counter, that of the viewer for the key: it counts one more (`counter_counted`), and
all others stay as they are (`filter_countOnce`). A counter has room for a limited count. One that has come to the limit
is `Full`, and it refuses all further actions; since counters never count down, it is full for good (`Full.later`).

`answer_countAction_cases` is all that can be answered: the table refuses, the counter is full, or the action is
counted.
-/

namespace Laurels

namespace Store

variable {s s' : Store} {viewer key : String} {time : Int}

/-- The store after one more action of a viewer. -/
def counted (s : Store) (viewer key : String) (time : Int) : Store :=
  { s with actions := some (countOnce s.counterRows viewer key (some time)).2 }

theorem find?_countOnce (rows : List ActionRow) (viewer key : String) (time : Option Int) :
    ((countOnce rows viewer key time).2.find? (isCounterOf viewer key)).map (·.count)
      = some (((rows.find? (isCounterOf viewer key)).map (·.count)).getD 0 + 1) := by
  unfold countOnce
  cases hfind : rows.find? (isCounterOf viewer key) with
  | none =>
    dsimp only
    rw [List.find?_append, hfind]
    simp [isCounterOf]
  | some r =>
    dsimp only
    rw [List.find?_map, isCounterOf_comp_moved, hfind, Option.map_some, Option.map_some, if_pos (List.find?_some hfind)]
    rfl

/-- **The counter moves by one.** -/
theorem counter_counted (s : Store) (viewer key : String) (time : Int) :
    (s.counted viewer key time).counter viewer key = s.counter viewer key + 1 := by
  have hfind := find?_countOnce s.counterRows viewer key (some time)
  unfold counter
  change (((countOnce s.counterRows viewer key (some time)).2.find? (isCounterOf viewer key)).map (·.count)).getD 0 = _
  rw [hfind]
  rfl

/-- Every row of a counter has moved. -/
theorem count_counted {n : Int} (hn : s.counter viewer key = n)
    (h : ∀ r ∈ s.counterRows, isCounterOf viewer key r = true → r.count = n) :
    ∀ r ∈ (s.counted viewer key time).counterRows, isCounterOf viewer key r = true → r.count = n + 1 := by
  intro r hr hcounter
  change r ∈ (countOnce s.counterRows viewer key (some time)).2 at hr
  unfold countOnce at hr
  cases hfind : s.counterRows.find? (isCounterOf viewer key) with
  | none =>
    have hzero : n = 0 := by
      rw [← hn]
      unfold counter
      rw [hfind]
      rfl
    rw [hfind] at hr
    rcases List.mem_append.mp hr with hold | hbegun
    · exact absurd hcounter (List.find?_eq_none.mp hfind r hold)
    · rw [List.mem_singleton.mp hbegun, hzero]
      rfl
  | some first =>
    rw [hfind] at hr
    obtain ⟨a, ha, rfl⟩ := List.mem_map.mp hr
    by_cases hmoved : isCounterOf viewer key a = true
    · rw [if_pos hmoved]
      exact congrArg (· + 1) (h a ha hmoved)
    · rw [if_neg hmoved] at hcounter
      exact absurd hcounter hmoved

/-- Stores with the same rows for all but one counter have the same other counters. -/
theorem counter_congr (h : s'.counterRows.filter (fun r => !isCounterOf viewer key r)
      = s.counterRows.filter fun r => !isCounterOf viewer key r) {v k : String} (hother : v = viewer → k ≠ key) :
    s'.counter v k = s.counter v k := by
  unfold counter
  rw [find?_within (fun r hr => not_isCounterOf hr hother) h]

theorem Ready.counted (h : s.Ready) (viewer key : String) (time : Int) : (s.counted viewer key time).Ready where
  has := by
    intro t
    cases t with
    | actions => rfl
    | results => exact h.has .results
    | catalogue => exact h.has .catalogue
    | unlocks => exact h.has .unlocks
  reachable := h.reachable

/-! ## The room of a counter -/

theorem countOnce_fst (s : Store) (viewer key : String) (time : Option Int) :
    (countOnce s.counterRows viewer key time).1 = s.counter viewer key + 1 := by
  unfold countOnce counter
  cases s.counterRows.find? (isCounterOf viewer key) <;> rfl

/-- There is no room left in a counter. -/
def Full (s : Store) (viewer key : String) : Prop := countLimit ≤ s.counter viewer key

instance (s : Store) (viewer key : String) : Decidable (s.Full viewer key) := inferInstanceAs (Decidable (_ ≤ _))

/-- A counter that is full stays full. -/
theorem Full.later (h : s.Full viewer key) (hgrows : s.Grows s') : s'.Full viewer key :=
  Int.le_trans h (counter_le hgrows.counters viewer key)

theorem lt_countLimit_iff (s : Store) (viewer key : String) :
    s.counter viewer key < countLimit ↔ ¬ s.Full viewer key := Int.not_le.symm

theorem countOnce_le_limit_iff (s : Store) (viewer key : String) (time : Option Int) :
    (countOnce s.counterRows viewer key time).1 ≤ countLimit ↔ ¬ s.Full viewer key := by
  rw [countOnce_fst]
  unfold Full
  omega

/-- Where the table does not refuse it and there is room, an action is counted. -/
theorem answer_countAction (h : s.refusal? [.actions] = none) (hroom : ¬ s.Full viewer key) (time : Int) :
    s.answer (.countAction (.of viewer key time)) = (.ok (s.counter viewer key + 1), s.counted viewer key time) := by
  rw [answer_of_refusal?_eq_none h, serve_countAction (ActionEntry.read_of viewer key time),
    countAction_of_room ((countOnce_le_limit_iff s viewer key _).mpr hroom)]
  show (Except.ok (countOnce s.counterRows viewer key (some time)).1, _) = _
  rw [countOnce_fst]
  rfl

/-- A counter that is full refuses, and nothing is changed. -/
theorem answer_countAction_of_full (h : s.refusal? [.actions] = none) (hfull : s.Full viewer key) (time : Int) :
    s.answer (.countAction (.of viewer key time)) = (.error (.cell .unfit), s) := by
  rw [answer_of_refusal?_eq_none h, serve_countAction (ActionEntry.read_of viewer key time),
    countAction_of_no_room fun hle => (countOnce_le_limit_iff s viewer key _).mp hle hfull]
  rfl

/-- **What counting an action is answered with:** the table refuses, the counter is full, or it counts one more. -/
theorem answer_countAction_cases (s : Store) (viewer key : String) (time : Int) :
    (∃ fault, s.refusal? [.actions] = some fault
        ∧ s.answer (.countAction (.of viewer key time)) = (.error fault, s))
      ∨ (s.Full viewer key ∧ s.answer (.countAction (.of viewer key time)) = (.error (.cell .unfit), s))
      ∨ (¬ s.Full viewer key ∧ s.answer (.countAction (.of viewer key time))
          = (.ok (s.counter viewer key + 1), s.counted viewer key time)) := by
  cases hrefusal : s.refusal? [.actions] with
  | some fault =>
    refine Or.inl ⟨fault, rfl, ?_⟩
    have htables : s.refusal? (Query.countAction (.of viewer key time)).tables = some fault := hrefusal
    unfold answer
    rw [htables]
  | none =>
    by_cases hfull : s.Full viewer key
    · exact Or.inr (Or.inl ⟨hfull, answer_countAction_of_full hrefusal hfull time⟩)
    · exact Or.inr (Or.inr ⟨hfull, answer_countAction hrefusal hfull time⟩)

/-- If it is the cell that refuses, the counter is full. -/
theorem full_of_answer {cause : CellFault} {time : Int}
    (h : (s.answer (.countAction (.of viewer key time))).1 = .error (.cell cause)) : s.Full viewer key := by
  rcases s.answer_countAction_cases viewer key time with ⟨fault, hrefusal, hanswer⟩ | ⟨hfull, _⟩ | ⟨_, hanswer⟩
  · -- a table that refuses is out of reach or missing
    rw [hanswer] at h
    cases h
    unfold refusal? at hrefusal
    split at hrefusal
    · cases hrefusal
    · obtain ⟨_, _, heq⟩ := Option.map_eq_some_iff.mp hrefusal
      cases heq
  · exact hfull
  · rw [hanswer] at h
    cases h

end Store

end Laurels
