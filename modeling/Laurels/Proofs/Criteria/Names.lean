import Laurels.Proofs.Criteria.Canonical

/-!
# The names of metrics

A metric has many names. All of them have one canonical form, and it says which metric is meant: two names resolve to
the same metric exactly if their canonical forms are the same (`Metric.resolve_eq_iff`). On the names that a clause can
be written with, the canonical form is a name itself, and one in lower case; it stands for itself, and it does not
change with the case of a letter (`Metric.Coherent`).

A name in upper case has the canonical form of the name in lower case (`Metric.normalize_lowered`), so what is known of
names in lower case carries over. That the letters of two names are the same in lower case is enough for both to be
names, for only what is a character of a name becomes one in lower case (`metricName_of_lowered`).
-/

namespace Laurels

namespace Criteria

/-! ## Names and their lower case -/

theorem isMetricChar_of_toLower {c : Char} (h : isMetricChar c.toLower = true) : isMetricChar c = true := by
  by_cases hcapital : 'A' ≤ c ∧ c ≤ 'Z'
  · exact isMetricChar_iff.mpr (Or.inl (Or.inl hcapital))
  · rwa [toLower_eq_self_iff.mpr hcapital] at h

theorem isMetricStart_of_toLower {c : Char} (h : isMetricStart c.toLower = true) : isMetricStart c = true := by
  by_cases hcapital : 'A' ≤ c ∧ c ≤ 'Z'
  · exact isMetricStart_iff.mpr (Or.inl (Or.inl hcapital))
  · rwa [toLower_eq_self_iff.mpr hcapital] at h

theorem toList_lowered (name : String) : (lowered name).toList = name.toList.map Char.toLower := String.toList_ofList

theorem lowerName_lowered {name : String} (h : MetricName name.toList) : LowerName (lowered name).toList := by
  rw [toList_lowered]
  exact h.lowerName

/-- What is a name in lower case is a name. -/
theorem metricName_of_lowered {name : String} (h : MetricName (lowered name).toList) : MetricName name.toList := by
  rw [toList_lowered, metricName_iff] at h
  rw [metricName_iff]
  obtain ⟨⟨c, cs, heq, hc⟩, hall⟩ := h
  obtain ⟨d, ds, hname, rfl, _⟩ := List.map_eq_cons_iff.mp heq
  exact ⟨⟨d, ds, hname, isMetricStart_of_toLower hc⟩,
    fun e he => isMetricChar_of_toLower (hall _ (List.mem_map_of_mem he))⟩

theorem LowerName.lowered_eq {name : String} (h : LowerName name.toList) : lowered name = name := by
  unfold lowered
  rw [h.map_toLower, String.ofList_toList]

end Criteria

namespace Metric

open Criteria Text

variable {name : String}

/-! ## What the canonical form tells -/

/-- **The canonical form says which metric is meant.** -/
theorem resolve_eq_iff {name other : String} :
    resolve name = resolve other ↔ (resolve name).canonical = (resolve other).canonical := by
  refine ⟨congrArg canonical, fun h => ?_⟩
  rw [canonical_resolve, canonical_resolve] at h
  unfold resolve
  rw [h]

/-- **Letter case makes no difference.** -/
theorem normalize_lowered (h : MetricName name.toList) : normalize (lowered name) = normalize name := by
  have htrim : trim name.toList = name.toList := trim_eq_self fun c hc => isBlank_of_isMetricChar (h.isMetricChar c hc)
  rw [← String.toList_inj, toList_normalize (lowerName_lowered h), toList_lowered]
  unfold normalize
  rw [htrim, h.lower_eq, String.toList_ofList]

theorem lowerName_canonical (h : MetricName name.toList) : LowerName (normalize name).toList := by
  rw [← normalize_lowered h]
  exact lowerName_normalize (lowerName_lowered h)

/-- How the canonical form of a name goes with the name, with its other forms, and with the metric that is meant. -/
structure Coherent (name : String) : Prop where
  /-- The canonical form is its own canonical form. -/
  idempotent : normalize (normalize name) = normalize name
  /-- A name with the same letters, whatever their case, has the same one. -/
  caseless : ∀ other, lowered other = lowered name → normalize other = normalize name
  /-- It is a name that can be written in a clause. -/
  written : MetricName (normalize name).toList
  /-- No letter of it is a capital one. -/
  lower : ∀ c ∈ (normalize name).toList, ¬ ('A' ≤ c ∧ c ≤ 'Z')
  /-- It is the canonical name of the metric that is meant. -/
  canonical : (resolve name).canonical = normalize name
  /-- That name stands for the same metric. -/
  resolved : resolve (resolve name).canonical = resolve name
  /-- No other metric has that canonical name. -/
  same_iff : ∀ other, resolve other = resolve name ↔ (resolve other).canonical = (resolve name).canonical

/--
**The names of metrics are coherent.** A name that a clause can be written with, in whatever letter case, has one
canonical form, which is such a name itself and stands for the same metric; and an action goes by its key in lower
case, whichever opening it is written with and whatever the key begins with.
-/
theorem names_cohere {name key : String} (hname : MetricName name.toList)
    (hkey : ∀ c ∈ key.toList, Letter c ∨ ('0' ≤ c ∧ c ≤ '9') ∨ c ∈ ['_', '.', ':', '-']) :
    Coherent name ∧ ∀ opening ∈ ["action:", "action.", "action_"], resolve (opening ++ key) = .action (lowered key) := by
  have hlower : LowerName (normalize name).toList := lowerName_canonical hname
  have hidempotent : normalize (normalize name) = normalize name := by
    rw [← normalize_lowered hname, normalize_normalize (lowerName_lowered hname)]
  refine ⟨{
    idempotent := hidempotent
    caseless := fun other hother => ?_
    written := hlower.metricName
    lower := lowered_eq_self_iff.mp hlower.lowered_eq
    canonical := canonical_resolve name
    resolved := ?_
    same_iff := fun other => resolve_eq_iff }, fun opening hopening => ?_⟩
  · have hwritten : MetricName other.toList :=
      metricName_of_lowered (hother ▸ (lowerName_lowered hname).metricName)
    rw [← normalize_lowered hwritten, hother, normalize_lowered hname]
  · rw [resolve_eq_iff, canonical_resolve, canonical_resolve, hidempotent]
  · exact resolve_opened hopening fun c hc => isMetricChar_iff.mpr (hkey c hc)

/-- A further spelling in mixed case, and a key that begins like an action. -/
theorem names_cohere_nested : MetricName "WebDefaultVehicleSets".toList
    ∧ (∀ c ∈ "Action_x".toList, Letter c ∨ ('0' ≤ c ∧ c ≤ '9') ∨ c ∈ ['_', '.', ':', '-'])
    ∧ Coherent "WebDefaultVehicleSets" ∧ normalize "webDEFAULTvehicleSETS" = normalize "WebDefaultVehicleSets"
    ∧ normalize "WebDefaultVehicleSets" = "action:default_vehicle_set"
    ∧ resolve "action.Action_x" = .action "action_x" := by
  have hname : MetricName "WebDefaultVehicleSets".toList :=
    metricName_iff.mpr ⟨⟨'W', _, rfl, by decide⟩,
      List.all_eq_true.mp (by decide : "WebDefaultVehicleSets".toList.all isMetricChar = true)⟩
  have hkey : ∀ c ∈ "Action_x".toList, Letter c ∨ ('0' ≤ c ∧ c ≤ '9') ∨ c ∈ ['_', '.', ':', '-'] :=
    fun c hc => isMetricChar_iff.mp (List.all_eq_true.mp (by decide : "Action_x".toList.all isMetricChar = true) c hc)
  obtain ⟨hcoherent, hopened⟩ := names_cohere hname hkey
  exact ⟨hname, hkey, hcoherent, hcoherent.caseless _ (by decide +kernel), by decide +kernel, hopened "action." (by decide)⟩

end Metric

end Laurels
