import Laurels.Proofs.AwardConduct
import Laurels.Proofs.Counts
import Laurels.Proofs.Timeline

/-!
# When an unlock was deserved

Was there a moment at which a viewer deserved the achievement that a pass has unlocked? A pass reads results and
counters one after the other, with nothing to hold them together, and rules may ask for much of the one and
for little of the other. So there need not be such a moment: `undeserved_unlocks` has a viewer who unlocks an
achievement for actions without races, though the first action came after the first race. It also has one whose
counter without a key is passed over.

What can be said is `deserved_over`. The results held at one moment and the counters at another one, no earlier,
both after the pass has read the catalogue and before it inserts. One moment will do for both if in between
only results or only counters of the viewer have changed, or if the rule asks only for many races, or only for
few actions.
-/

namespace Laurels

/-! ## The moments of some steps -/

/-- Steps that are taken in an order are taken at moments in that order. -/
theorem exists_getElem_of_cons_sublist {γ β : Type} {f : γ → Option β} {b : β} {bs : List β} {l : List γ}
    (h : (b :: bs).Sublist (l.filterMap f)) :
    ∃ j x, l[j]? = some x ∧ f x = some b ∧ bs.Sublist ((l.drop (j + 1)).filterMap f) := by
  induction l with
  | nil => cases h
  | cons y l ih =>
    cases hy : f y with
    | none =>
      rw [List.filterMap_cons_none hy] at h
      obtain ⟨j, x, hj, hx, hrest⟩ := ih h
      exact ⟨j + 1, x, hj, hx, hrest⟩
    | some b' =>
      rw [List.filterMap_cons_some hy] at h
      cases h with
      | cons _ hskip =>
        obtain ⟨j, x, hj, hx, hrest⟩ := ih hskip
        exact ⟨j + 1, x, hj, hx, hrest⟩
      | cons_cons _ hrest => exact ⟨0, y, rfl, hy, hrest⟩

/-- The step that a procedure takes next at a moment, if the moment is its own. -/
def Moment.own? (i : Nat) (m : Moment) : Option Event :=
  m.next.bind fun x => if x.1 = i then some x.2 else none

theorem own_recordOf (i : Nat) (ms : List Moment) : own i (recordOf ms) = ms.filterMap (Moment.own? i) :=
  List.filterMap_filterMap

theorem Moment.own?_eq_some {i : Nat} {m : Moment} {e : Event} (h : m.own? i = some e) :
    m = ⟨m.world, some (i, e)⟩ := by
  obtain ⟨world, next⟩ := m
  cases next with
  | none => cases h
  | some x =>
    obtain ⟨j, e'⟩ := x
    simp only [own?, Option.bind_some] at h
    split at h
    · rename_i hj
      cases h
      rw [hj]
    · cases h

/-- A step that a procedure has taken after the first `k` moments, and the steps after it. -/
theorem exists_moment {i k : Nat} {ms : List Moment} {e : Event} {es : List Event}
    (h : (e :: es).Sublist (own i (recordOf (ms.drop k)))) :
    ∃ j u, k ≤ j ∧ ms[j]? = some ⟨u, some (i, e)⟩ ∧ es.Sublist (own i (recordOf (ms.drop (j + 1)))) := by
  rw [own_recordOf] at h
  obtain ⟨j, m, hj, hm, hrest⟩ := exists_getElem_of_cons_sublist h
  rw [List.getElem?_drop] at hj
  rw [List.drop_drop] at hrest
  refine ⟨k + j, m.world, Nat.le_add_right k j, ?_, ?_⟩
  · rw [← Moment.own?_eq_some hm]
    exact hj
  · rw [own_recordOf]
    exact hrest

/-! ## What has been gathered -/

/-- Results of one moment and counters of a later one, both fetched by a call between two moments of a run: first
the call reads the catalogue, and after that the results and the counters. -/
structure Fetch (ms : List Moment) (i start j k stop : Nat) (early late : World) : Prop where
  /-- The call reads the catalogue. -/
  catalogue : ∃ u as, ms[start]? = some ⟨u, some (i, .asked .activeAchievements (.ok as))⟩
  order : start < j ∧ j ≤ k ∧ k < stop
  early : ∃ next, ms[j]? = some ⟨early, next⟩
  late : ∃ next, ms[k]? = some ⟨late, next⟩

section

variable {α : Type} {ps qs : List (Procedure α)} {w v : World} {ms : List Moment}

theorem getElem?_of_take {l : List Moment} {n k : Nat} {m : Moment} (h : (l.take n)[k]? = some m) :
    k < n ∧ l[k]? = some m := by
  rw [List.getElem?_take] at h
  split at h
  · rename_i hlt
    exact ⟨hlt, h⟩
  · cases h

/-- The catalogue is the same at all times, so its rules are those that the run began with. -/
theorem Timeline.achievements_eq (h : Timeline ResultsSaved ps w ms qs v) {k i : Nat} {u : World}
    {as : List Achievement} (hk : ms[k]? = some ⟨u, some (i, .asked .activeAchievements (.ok as))⟩) :
    as = Store.active w.store.catalogueRows := by
  have hserve := Store.serve_of_answer_eq_ok (h.reply_eq hk).symm
  have has : Store.active u.store.catalogueRows = as := congrArg Prod.fst (Except.ok.inj hserve)
  rw [← has]
  exact (h.since_start hk).rules_eq

theorem Timeline.tallies_eq (h : Timeline ResultsSaved ps w ms qs v) {k i : Nat} {u : World}
    {viewers : List String} {tallies : List (String × Tally)}
    (hk : ms[k]? = some ⟨u, some (i, .asked (.raceTallies (viewers.map .text)) (.ok tallies))⟩) :
    tallies = Store.tallies u.store.resultRows viewers := by
  have hserve := Store.serve_of_answer_eq_ok (h.reply_eq hk).symm
  have ht : Store.tallies u.store.resultRows (Value.texts (viewers.map .text)) = tallies :=
    congrArg Prod.fst (Except.ok.inj hserve)
  rw [Value.texts_map_text] at ht
  exact ht.symm

theorem Timeline.counts_eq (h : Timeline ResultsSaved ps w ms qs v) {k i : Nat} {u : World}
    {viewers keys : List String} {counts : List (String × String × Int)}
    (hk : ms[k]? = some ⟨u, some (i, .asked (.actionCounts (viewers.map .text) (keys.map .text)) (.ok counts))⟩) :
    counts = Store.counts u.store.counterRows viewers keys := by
  have hserve := Store.serve_of_answer_eq_ok (h.reply_eq hk).symm
  have hc : Store.counts u.store.counterRows (Value.texts (viewers.map .text)) (Value.texts (keys.map .text))
      = counts := congrArg Prod.fst (Except.ok.inj hserve)
  rw [Value.texts_map_text, Value.texts_map_text] at hc
  exact hc.symm

/-- **What a call has gathered** are results and counters of two of the moments before. -/
theorem Timeline.fetch (h : Timeline ResultsSaved ps w ms qs v) {i n : Nat} {as : List Achievement}
    {viewers : List String} {tallies : List (String × Tally)} {counts : List (String × String × Int)}
    (hg : Gathered (own i (recordOf (ms.take n))) as viewers tallies counts) :
    as = Store.active w.store.catalogueRows ∧ ∃ start j k early late, Fetch ms i start j k n early late
      ∧ tallies = Store.tallies early.store.resultRows viewers
      ∧ counts = Store.counts late.store.counterRows viewers (keysRead as) := by
  -- the first two steps are the same, whether or not counters are asked for
  have htwo : ∀ {es : List Event}, (.asked .activeAchievements (.ok as)
      :: .asked (.raceTallies (viewers.map .text)) (.ok tallies) :: es).Sublist (own i (recordOf (ms.take n))) →
      as = Store.active w.store.catalogueRows ∧ ∃ start j early, start < j ∧ j < n
        ∧ (∃ u, ms[start]? = some ⟨u, some (i, .asked .activeAchievements (.ok as))⟩)
        ∧ (∃ next, ms[j]? = some ⟨early, next⟩) ∧ tallies = Store.tallies early.store.resultRows viewers
        ∧ es.Sublist (own i (recordOf ((ms.take n).drop (j + 1)))) := by
    intro es hes
    obtain ⟨start, u₀, _, h₀, hes⟩ := exists_moment (k := 0) hes
    obtain ⟨j, u₁, hlt, h₁, hes⟩ := exists_moment hes
    obtain ⟨_, h₀⟩ := getElem?_of_take h₀
    obtain ⟨hj, h₁⟩ := getElem?_of_take h₁
    exact ⟨h.achievements_eq h₀, start, j, u₁, hlt, hj, ⟨u₀, h₀⟩, ⟨_, h₁⟩, h.tallies_eq h₁, hes⟩
  cases hg with
  | races nokeys steps =>
    -- no counter is read, so those of the same moment will do
    obtain ⟨has, start, j, early, hlt, hj, ⟨u₀, h₀⟩, hearly, ht, _⟩ := htwo steps
    refine ⟨has, start, j, j, early, early, ⟨⟨u₀, as, h₀⟩, ⟨hlt, Nat.le_refl j, hj⟩, hearly, hearly⟩, ht, ?_⟩
    rw [nokeys]
    unfold Store.counts
    rw [List.filter_eq_nil_iff.mpr (by simp)]
    rfl
  | counters counts steps =>
    obtain ⟨has, start, j, early, hlt, hj, ⟨u₀, h₀⟩, hearly, ht, hes⟩ := htwo steps
    obtain ⟨k, u₂, hjk, h₂, _⟩ := exists_moment hes
    obtain ⟨hk, h₂⟩ := getElem?_of_take h₂
    exact ⟨has, start, j, k, early, u₂,
      ⟨⟨u₀, as, h₀⟩, ⟨hlt, Nat.le_of_succ_le hjk, hk⟩, hearly, ⟨_, h₂⟩⟩, ht, h.counts_eq h₂⟩

end

/-! ## When an unlock was deserved -/

/-- Two moments, or the rule, are such that one of the moments will do for both: not both the results and the
counters of the viewer have changed, or the rule asks only for many races, or only for few actions. -/
def Settles (rule : Rule) (viewer : String) (early late : World) : Prop :=
  early.store.tallyOf viewer = late.store.tallyOf viewer
    ∨ early.store.countersOf viewer = late.store.countersOf viewer
    ∨ (∀ c ∈ rule.clauses, ∀ count, c.target = .race count → c.op.Rises)
    ∨ ∀ c ∈ rule.clauses, ∀ key, c.target = .action key → c.op.Falls

theorem satisfied_imp {clauses : List Clause} {s s' : Snapshot}
    (h : ∀ c ∈ clauses, c.holds s = true → c.holds s' = true) (hs : satisfied clauses s = true) :
    satisfied clauses s' = true := by
  unfold satisfied at hs ⊢
  rw [List.all_eq_true] at hs ⊢
  exact fun c hc => h c hc (hs c hc)

/-- What holds of the results of one moment and the counters of a later one holds at one of them, if one will
do. -/
theorem satisfied_at_once {rule : Rule} {viewer : String} {early late : World}
    (hsince : early.store.Since late.store) (hsettles : Settles rule viewer early late)
    (hsat : satisfied rule.clauses (.of (early.store.tallyOf viewer) (late.store.countersOf viewer)) = true) :
    satisfied rule.clauses (early.store.snapshot viewer) = true
      ∨ satisfied rule.clauses (late.store.snapshot viewer) = true := by
  unfold Store.snapshot
  rcases hsettles with htally | hcounters | hrises | hfalls
  · rw [htally] at hsat
    exact Or.inr hsat
  · rw [← hcounters] at hsat
    exact Or.inl hsat
  · exact Or.inr (satisfied_imp (fun c hc => Clause.holds_later hsince.results (hrises c hc)) hsat)
  · exact Or.inl (satisfied_imp (fun c hc => Clause.holds_earlier hsince.grows.counters (hfalls c hc)) hsat)

/--
**Every unlock was deserved over some time.** Calls that award run side by side, their steps in any order, while
results are saved. When a call inserts a row, it has read the catalogue at some moment before; the results of
the viewer at a moment after that and the counters at one no earlier satisfy a rule of the achievement; and if
one of the moments will do for both, there is one at which the viewer satisfied the rule.
-/
theorem deserved_over {calls : List Call} (hcalls : ∀ c ∈ calls, c.Awards) {w v : World} {ms : List Moment}
    {qs : List (Procedure Answer)} (h : Timeline ResultsSaved (calls.map Call.procedure) w ms qs v) {i n : Nat}
    {u : World} {e : Event} (hn : ms[n]? = some ⟨u, some (i, e)⟩) {row : UnlockRow} (hrow : row ∈ e.added) :
    ∃ rule ∈ w.store.rules, rule.achievement.id = row.achievement
      ∧ ∃ start j k early late, Fetch ms i start j k n early late
        ∧ satisfied rule.clauses (.of (early.store.tallyOf row.viewer) (late.store.countersOf row.viewer)) = true
        ∧ (Settles rule row.viewer early late →
            ∃ l m, j ≤ l ∧ l ≤ k ∧ ms[l]? = some m
              ∧ satisfied rule.clauses (m.world.store.snapshot row.viewer) = true) := by
  obtain ⟨rs, p, p', _, hbefore, hturn, htakes, _⟩ := h.taken hn
  -- the call has come to its insertion by the steps of its own
  have hlt : i < calls.length := by
    have hlen := hbefore.interleaving.length_eq
    rw [List.length_map] at hlen
    rw [← hlen]
    exact (List.getElem?_eq_some_iff.mp hturn).1
  have hc : calls[i]? = some calls[i] := List.getElem?_eq_getElem hlt
  obtain ⟨q, hq, hf⟩ := hbefore.interleaving.follows_call hc
  rw [hturn] at hq
  cases hq
  have habides := (Call.inserts_warranted (hcalls _ (List.mem_of_getElem? hc)) []).follows hf
    fun _ _ => trivial
  obtain ⟨as, viewers, tallies, counts, hgathered, hviewer, rule, hrule, hid, hsat⟩ :=
    (habides.takes htakes trivial).1 row hrow
  obtain ⟨rfl, start, j, k, early, late, hfetch, rfl, rfl⟩ := h.fetch hgathered
  -- what was fetched for all viewers of the pass and all rules is what there was of this one
  change rule ∈ w.store.rules at hrule
  change satisfied rule.clauses (.ofFetched _ (Store.counts _ _ (wantedKeys (Rule.actionKeys w.store.rules))) _)
    = true at hsat
  rw [satisfied_ofFetched early.store late.store hviewer hrule] at hsat
  refine ⟨rule, hrule, hid, start, j, k, early, late, hfetch, hsat, fun hsettles => ?_⟩
  obtain ⟨_, hj⟩ := hfetch.early
  obtain ⟨_, hk⟩ := hfetch.late
  rcases satisfied_at_once (h.since_moment hj hk hfetch.order.2.1) hsettles hsat with hearly | hlate
  · exact ⟨j, _, Nat.le_refl j, hfetch.order.2.1, hj, hearly⟩
  · exact ⟨k, _, hfetch.order.2.1, Nat.le_refl k, hk, hlate⟩

/-- A world with one achievement on offer, and perhaps a counter. -/
def offerWorld (criteria : String) (counters : List ActionRow) : World where
  store :=
    { results := some []
      catalogue := some [⟨1, "Hermit", none, false, criteria⟩]
      unlocks := some []
      actions := some counters
      failing := [] }
  clock := ⟨100, 1⟩
  queries := []
  log := []

/-- An award for a viewer, and an action of the same viewer. -/
def hermitCalls : List Call := [.award (.list [.text "v1"]) .null .null, .record (.text "v1") (.text "k")]

/-- The award reads the results; a race is saved; the action is counted; and the award goes on. -/
def hermitMoves : List Move :=
  [.steps 0 2, .results [⟨1, "v1", some 1, "FINISHED"⟩], .steps 1 2, .steps 0 10]

/-- A call inserts a row at a moment of its own. -/
theorem Moment.exists_step {ms : List Moment} {n i : Nat} {rows : List UnlockRow}
    (h : (ms[n]?.bind (·.next)).map (fun x => (x.1, x.2.added)) = some (i, rows)) :
    ∃ u e, ms[n]? = some ⟨u, some (i, e)⟩ ∧ e.added = rows := by
  obtain ⟨⟨j, e⟩, hnext, heq⟩ := Option.map_eq_some_iff.mp h
  obtain ⟨⟨u, next⟩, hm, rfl⟩ := Option.bind_eq_some_iff.mp hnext
  obtain ⟨rfl, rfl⟩ := Prod.mk.inj heq
  exact ⟨u, e, hm, rfl⟩

/-- For a rule that asks only for many, the viewer satisfies it when the counters are fetched, although a race is
saved and an action counted in between. -/
theorem deserved_over_keen :
    (∀ c ∈ hermitCalls, c.Awards)
      ∧ ∃ ms qs v u e, Timeline ResultsSaved (hermitCalls.map Call.procedure)
          (offerWorld "races>=0; action:k>=1" []) ms qs v
        ∧ ms[8]? = some ⟨u, some (0, e)⟩ ∧ ⟨"v1", 1, 101, some "", some ""⟩ ∈ e.added
        ∧ ∃ rule ∈ (offerWorld "races>=0; action:k>=1" []).store.rules, rule.achievement.id = 1
          ∧ ∃ l m, l < 8 ∧ ms[l]? = some m ∧ satisfied rule.clauses (m.world.store.snapshot "v1") = true := by
  have hcalls : ∀ c ∈ hermitCalls, c.Awards := by simp [hermitCalls, Call.Awards]
  have hrun := Script.timeline_perform hermitMoves (hermitCalls.map Call.procedure)
    (offerWorld "races>=0; action:k>=1" [])
  have hstep : ((Script.perform hermitMoves (hermitCalls.map Call.procedure)
      (offerWorld "races>=0; action:k>=1" [])).1[8]?.bind (·.next)).map (fun x => (x.1, x.2.added))
        = some (0, [⟨"v1", 1, 101, some "", some ""⟩]) := by decide +kernel
  have hrises : ∀ rule ∈ (offerWorld "races>=0; action:k>=1" []).store.rules, ∀ c ∈ rule.clauses, c.op.Rises := by
    decide +kernel
  obtain ⟨u, e, hn, hadded⟩ := Moment.exists_step hstep
  have hrow : ⟨"v1", 1, 101, some "", some ""⟩ ∈ e.added := by
    rw [hadded]
    exact List.mem_singleton_self _
  obtain ⟨rule, hrule, hid, start, j, k, early, late, hfetch, _, honce⟩ := deserved_over hcalls hrun hn hrow
  obtain ⟨l, m, _, hlk, hm, hsat⟩ := honce (Or.inr (Or.inr (Or.inl fun c hc _ _ => hrises rule hrule c hc)))
  exact ⟨hcalls, _, _, _, u, e, hrun, hn, hrow, rule, hrule, hid, l, m,
    Nat.lt_of_le_of_lt hlk hfetch.order.2.2, hm, hsat⟩

/-! ## Unlocks that were never deserved -/

/-- The rows that a moment adds to the ledger. -/
def Moment.inserts (m : Moment) : List UnlockRow := (m.next.map fun x => x.2.added).getD []

/-- A run of calls can insert a row, and there is no moment in it at which the viewer satisfies a rule of the
achievement by all that the tables hold. -/
def NeverDeserved (calls : List Call) (w : World) (row : UnlockRow) : Prop :=
  ∃ ms qs v, Timeline ResultsSaved (calls.map Call.procedure) w ms qs v ∧ (∃ m ∈ ms, row ∈ m.inserts)
    ∧ ∀ m ∈ ms, ∀ rule ∈ w.store.rules, rule.achievement.id = row.achievement →
        satisfied rule.clauses (m.world.store.fullSnapshot row.viewer) = false

/--
**Some unlocks were never deserved.** One viewer unlocks an achievement for actions without races, while the
first race is saved before the first action is counted. Another unlocks one for keeping a counter at zero that
stands at five, for it is the counter without a key.
-/
theorem undeserved_unlocks :
    NeverDeserved hermitCalls (offerWorld "races<=0; action:k>=1" []) ⟨"v1", 1, 101, some "", some ""⟩
      ∧ NeverDeserved [.award (.list [.text "v1"]) .null .null]
          (offerWorld "action:<=0" [⟨"v1", "", 5, none, none⟩]) ⟨"v1", 1, 100, some "", some ""⟩ := by
  constructor
  · refine ⟨_, _, _, Script.timeline_perform hermitMoves _ _, ?_, ?_⟩
    · decide +kernel
    · decide +kernel
  · refine ⟨_, _, _, Script.timeline_perform [.steps 0 10] _ _, ?_, ?_⟩
    · decide +kernel
    · decide +kernel

end Laurels
