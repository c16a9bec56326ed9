import Laurels.Criteria.Evaluation
import Laurels.Proofs.Criteria.ActionRule

/-!
# Canonical names

A metric may be written in many ways, and its canonical name is one of them: it resolves to the same metric
(`Metric.resolve_normalize`). For that the canonical name has to be one that canonicalising leaves alone, whichever
rule it came from. A name that opens as an action keeps all that follows, another opening included, so that
`action_action.x` is the action `action.x` and not `x`; and the further spellings stand for names that are canonical
(`Metric.canonicalChars_canonicalChars`).

Canonicalising also never leaves the names that a clause can have. These are in lower case and free of blanks, so
that trimming and lower-casing a canonical name change nothing more (`LowerName.canonicalChars`). A clause under its
canonical name therefore measures what it measured, and agrees with the clause in all that is read off it
(`Clause.agrees_canonical`).
-/

namespace Laurels

namespace Criteria

open Text

/-! ## Names in lower case -/

/-- A metric name in lower case, as clauses have it. -/
structure LowerName (cs : List Char) : Prop where
  start : cs.head?.any isMetricStart = true
  chars : ∀ c ∈ cs, isMetricChar c = true ∧ c.toLower = c

theorem lowerName_iff {cs : List Char} : LowerName cs ↔ cs.head?.any isMetricStart = true
    ∧ cs.all (fun c => isMetricChar c && c.toLower == c) = true := by
  simp only [List.all_eq_true, Bool.and_eq_true, beq_iff_eq]
  exact ⟨fun h => ⟨h.start, h.chars⟩, fun h => ⟨h.1, h.2⟩⟩

instance : DecidablePred LowerName := fun _ => decidable_of_iff _ lowerName_iff.symm

theorem isMetricChar_of_isMetricStart {c : Char} (h : isMetricStart c = true) : isMetricChar c = true := by
  rw [isMetricChar_iff]
  rcases isMetricStart_iff.mp h with hletter | rfl
  · exact Or.inl hletter
  · exact Or.inr (Or.inr List.mem_cons_self)

theorem isMetricStart_toLower {c : Char} (h : isMetricStart c = true) : isMetricStart c.toLower = true :=
  of_ascii (p := fun c => isMetricStart c = true → isMetricStart c.toLower = true) (by decide)
    (toNat_lt_of_isMetricChar (isMetricChar_of_isMetricStart h)) h

theorem MetricName.lowerName {name : List Char} (h : MetricName name) : LowerName (name.map Char.toLower) := by
  obtain ⟨⟨c, cs, rfl, hc⟩, hall⟩ := metricName_iff.mp h
  refine ⟨isMetricStart_toLower hc, fun d hd => ?_⟩
  obtain ⟨e, he, rfl⟩ := List.mem_map.mp hd
  have hmetric := hall e he
  exact ⟨isMetricChar_toLower hmetric, toLower_toLower (toNat_lt_of_isMetricChar hmetric)⟩

namespace LowerName

variable {cs : List Char}

theorem metricName (h : LowerName cs) : MetricName cs := by
  cases cs with
  | nil => cases h.start
  | cons c rest => exact metricName_iff.mpr ⟨⟨c, rest, rfl, h.start⟩, fun d hd => (h.chars d hd).1⟩

theorem trim_eq (h : LowerName cs) : trim cs = cs :=
  trim_eq_self fun c hc => isBlank_of_isMetricChar (h.chars c hc).1

theorem map_toLower (h : LowerName cs) : cs.map Char.toLower = cs :=
  (List.map_congr_left fun c hc => (h.chars c hc).2).trans (List.map_id cs)

theorem lower_eq (h : LowerName cs) : lower cs = cs := h.metricName.lower_eq.trans h.map_toLower

/-- What follows the opening of an action is a name together with it. -/
theorem action {key : List Char} (h : ∀ c ∈ key, isMetricChar c = true ∧ c.toLower = c) :
    LowerName (Metric.actionOpening ++ key) where
  start := rfl
  chars := by
    intro c hc
    rcases List.mem_append.mp hc with hc | hc
    · exact (by decide : LowerName Metric.actionOpening).chars c hc
    · exact h c hc

end LowerName

/-- A clause that is read from a line has its metric in lower case. -/
theorem Accepted.lowerName {line : List Char} {c : Clause} (h : Accepted line c) : LowerName c.metric.toList := by
  obtain ⟨r, _, _, hmeans⟩ := h
  rw [hmeans.metric, String.toList_ofList]
  exact r.metric_name.lowerName

/-- Every clause of an accepted text is read from one of its lines. -/
theorem exists_line {text : String} {cs : List Clause} (h : parse text = .ok cs) :
    ∀ c ∈ cs, ∃ line ∈ clauseLines text, Accepted line c := by
  replace h := (parse_eq_ok_iff.mp h).2
  generalize clauseLines text = lines at h ⊢
  induction h with
  | nil => exact fun _ hc => nomatch hc
  | cons hfirst _ ih =>
    intro c hc
    rcases List.mem_cons.mp hc with rfl | hc
    · exact ⟨_, List.mem_cons_self, hfirst⟩
    · obtain ⟨line, hline, haccepted⟩ := ih c hc
      exact ⟨line, List.mem_cons_of_mem _ hline, haccepted⟩

end Criteria

open Criteria

/-! ## Canonical names -/

theorem RaceCount.name_of_ofName? {s : String} {count : RaceCount} (h : ofName? s = some count) : count.name = s :=
  beq_iff_eq.mp (List.find?_some (p := fun r : RaceCount => r.name == s) h)

namespace Metric

open Text

theorem append_of_after? {opening cs rest : List Char} (h : after? opening cs = some rest) : opening ++ rest = cs := by
  induction opening generalizing cs with
  | nil => exact Option.some.inj h.symm
  | cons o os ih =>
    cases cs with
    | nil => cases h
    | cons c cs =>
      unfold after? at h
      split at h
      · rename_i hoc
        rw [List.cons_append, hoc, ih h]
      · cases h

/-- The three things that canonicalising does to a name. -/
inductive Canonicalises (cs : List Char) : List Char → Prop where
  /-- It leaves the name as it is. -/
  | same : Canonicalises cs cs
  /-- It writes an action with a colon. -/
  | opened {opening key : List Char} (hopening : opening ∈ actionSpellings) (heq : opening ++ key = cs) :
    Canonicalises cs (actionOpening ++ key)
  /-- It replaces a further spelling. -/
  | spelled {spelling name : String} (hspelling : (spelling, name) ∈ spellings) (heq : spelling.toList = cs) :
    Canonicalises cs name.toList

theorem canonicalises (cs : List Char) : Canonicalises cs (canonicalChars cs) := by
  unfold canonicalChars
  split
  · exact .same
  · split
    · rename_i key hkey
      obtain ⟨opening, hopening, hafter⟩ := List.exists_of_findSome?_eq_some hkey
      exact .opened hopening (append_of_after? hafter)
    · cases hlookup : spellings.lookup (String.ofList cs) with
      | none =>
        rw [Option.getD_none, String.toList_ofList]
        exact .same
      | some name =>
        obtain ⟨before, after, heq, _⟩ := List.lookup_eq_some_iff.mp hlookup
        have hspelling : (String.ofList cs, name) ∈ spellings := by
          rw [heq]
          exact List.mem_append_right before List.mem_cons_self
        exact .spelled hspelling String.toList_ofList

/-- **A canonical name is left alone.** -/
theorem canonicalChars_canonicalChars (cs : List Char) : canonicalChars (canonicalChars cs) = canonicalChars cs := by
  have h := canonicalises cs
  generalize hresult : canonicalChars cs = result at h ⊢
  cases h with
  | same => exact hresult
  | opened hopening heq =>
    -- it begins with the opening that is looked for first
    unfold canonicalChars
    rw [after?_append]
  | spelled hspelling heq =>
    exact (by decide : ∀ entry ∈ spellings, canonicalChars entry.2.toList = entry.2.toList) _ hspelling

end Metric

/-- The canonical form of a name that a clause can have is such a name too. -/
theorem Criteria.LowerName.canonicalChars {cs : List Char} (h : LowerName cs) :
    LowerName (Metric.canonicalChars cs) := by
  have hcanonical := Metric.canonicalises cs
  generalize Metric.canonicalChars cs = result at hcanonical ⊢
  cases hcanonical with
  | same => exact h
  | opened hopening heq =>
    subst heq
    exact .action fun c hc => h.chars c (List.mem_append_right _ hc)
  | spelled hspelling heq =>
    exact (by decide : ∀ entry ∈ Metric.spellings, LowerName entry.2.toList) _ hspelling

namespace Metric

open Text

/-- The canonical name of what a name resolves to is the canonical form of the name. -/
theorem canonical_resolve (name : String) : (resolve name).canonical = normalize name := by
  unfold resolve
  split
  · rename_i key hkey
    show String.ofList actionOpening ++ String.ofList key = normalize name
    rw [← String.ofList_append, append_of_after? hkey, String.ofList_toList]
  · split
    · rename_i count hcount
      exact RaceCount.name_of_ofName? hcount
    · rfl

theorem toList_normalize {name : String} (h : LowerName name.toList) :
    (normalize name).toList = canonicalChars name.toList := by
  unfold normalize
  rw [h.trim_eq, h.lower_eq, String.toList_ofList]

theorem lowerName_normalize {name : String} (h : LowerName name.toList) : LowerName (normalize name).toList := by
  rw [toList_normalize h]
  exact h.canonicalChars

theorem normalize_normalize {name : String} (h : LowerName name.toList) :
    normalize (normalize name) = normalize name := by
  rw [← String.toList_inj, toList_normalize (lowerName_normalize h), toList_normalize h,
    canonicalChars_canonicalChars]

/-- **The canonical form of a name resolves to what the name does.** -/
theorem resolve_normalize {name : String} (h : LowerName name.toList) : resolve (normalize name) = resolve name := by
  unfold resolve
  rw [normalize_normalize h]

end Metric

/-! ## Clauses -/

namespace Clause

/-- Two clauses agree in all that is read off them: what they compare, and how that comes out on every snapshot and
on measurements of any kind. -/
structure Agrees (c c' : Clause) : Prop where
  canonical : c'.target.canonical = c.target.canonical
  op : c'.op = c.op
  threshold : c'.threshold = c.threshold
  current : ∀ s, c'.current s = c.current s
  holds : ∀ s, c'.holds s = c.holds s
  current_of : ∀ m, (Condition.ofClause c').current m = (Condition.ofClause c).current m
  holds_of : ∀ m, (Condition.ofClause c').holds m = (Condition.ofClause c).holds m

variable {c : Clause}

theorem metric_canonical (c : Clause) : c.canonical.metric = Metric.normalize c.metric := by
  unfold canonical target
  dsimp only
  rw [Metric.canonical_resolve]

theorem op_canonical (c : Clause) : c.canonical.op = c.op := by
  unfold canonical
  rfl

theorem threshold_canonical (c : Clause) : c.canonical.threshold = c.threshold := by
  unfold canonical
  rfl

theorem target_canonical (h : LowerName c.metric.toList) : c.canonical.target = c.target := by
  unfold target
  rw [metric_canonical, Metric.resolve_normalize h]

theorem canonical_canonical (h : LowerName c.metric.toList) : c.canonical.canonical = c.canonical := by
  have htarget := target_canonical h
  generalize hc : c.canonical = c' at htarget ⊢
  unfold canonical at hc ⊢
  rw [htarget, ← hc]

/-- Clauses agree that measure the same metric and compare it in the same way. -/
theorem Agrees.of_target {c' : Clause} (htarget : c'.target = c.target) (hop : c'.op = c.op)
    (hthreshold : c'.threshold = c.threshold) : Agrees c c' := by
  have hcurrent (s : Snapshot) : c'.current s = c.current s := by
    unfold Clause.current
    rw [htarget]
  have hcurrent' (m : Measurements) : (Condition.ofClause c').current m = (Condition.ofClause c).current m := by
    unfold Condition.current Condition.target Condition.ofClause
    exact congrArg m.read htarget
  refine ⟨congrArg Metric.canonical htarget, hop, hthreshold, hcurrent, fun s => ?_, hcurrent', fun m => ?_⟩
  · unfold Clause.holds
    rw [hcurrent, hop, hthreshold]
  · unfold Condition.holds
    rw [hcurrent', Condition.ofClause, Condition.ofClause, hop, hthreshold]

/-- **A clause under its canonical name** means what it meant. -/
theorem agrees_canonical (h : LowerName c.metric.toList) : Agrees c c.canonical :=
  .of_target (target_canonical h) (op_canonical c) (threshold_canonical c)

end Clause

section

variable {clauses : List Clause} {f : Clause → Clause}

theorem satisfied_map (h : ∀ c ∈ clauses, c.Agrees (f c)) (s : Snapshot) :
    satisfied (clauses.map f) s = satisfied clauses s := by
  unfold satisfied
  rw [List.all_map, Bool.eq_iff_iff, List.all_eq_true, List.all_eq_true]
  exact forall₂_congr fun c hc => Bool.eq_iff_iff.mp ((h c hc).holds s)

theorem actionKeys_map (htarget : ∀ c ∈ clauses, (f c).target = c.target) :
    actionKeys (clauses.map f) = actionKeys clauses := by
  unfold actionKeys
  rw [List.filterMap_map]
  refine congrArg List.eraseDups (List.filterMap_congr fun c hc => ?_)
  rw [Function.comp_apply]
  unfold Clause.actionKey?
  rw [htarget c hc]

theorem unknownMetrics_map (htarget : ∀ c ∈ clauses, (f c).target = c.target) :
    unknownMetrics (clauses.map f) = unknownMetrics clauses := by
  unfold unknownMetrics
  rw [List.filterMap_map]
  refine congrArg List.eraseDups (List.filterMap_congr fun c hc => ?_)
  rw [Function.comp_apply]
  unfold Clause.unknown?
  rw [htarget c hc]

end

end Laurels
