import Mathlib.Data.List.DropRight
import Laurels.Viewer

/-!
# Ids of viewers

Trimming a text twice is trimming it once (`Text.trimmed_trimmed`). So an id is a text that trimming leaves
alone, and the ids that a list names are such texts, none of them empty and none of them twice
(`Viewer.mem_distinct`, `Viewer.nodup_distinct`).
-/

namespace Laurels

namespace Text

theorem head?_trimBy {p : Char → Bool} {cs : List Char} {c : Char} (h : (trimBy p cs).head? = some c) :
    p c = false := by
  unfold trimBy at h
  rw [List.head?_reverse] at h
  -- what is left after both ends are dropped begins where the front was dropped
  obtain ⟨back, hback⟩ := List.dropWhile_suffix p (l := (cs.dropWhile p).reverse)
  have hfront : (cs.dropWhile p).head? = some c := by
    rw [← List.getLast?_reverse, ← hback, List.getLast?_append, h]
    rfl
  have hnot := List.head?_dropWhile_not p cs
  rw [hfront] at hnot
  exact hnot

/-- What is trimmed is not trimmed any further. -/
theorem trimBy_trimBy (p : Char → Bool) (cs : List Char) : trimBy p (trimBy p cs) = trimBy p cs := by
  have hfront : (trimBy p cs).dropWhile p = trimBy p cs := by
    rw [List.dropWhile_eq_self_iff]
    intro hlen
    have hhead : (trimBy p cs).head? = some (trimBy p cs)[0] := by
      rw [List.head?_eq_getElem?, List.getElem?_eq_getElem hlen]
    rw [head?_trimBy hhead]
    simp
  have hunfold : trimBy p (trimBy p cs) = (((trimBy p cs).dropWhile p).reverse.dropWhile p).reverse := rfl
  rw [hunfold, hfront]
  unfold trimBy
  rw [List.reverse_reverse, List.dropWhile_idempotent]

theorem trimmed_trimmed (s : String) : trimmed (trimmed s) = trimmed s := by
  unfold trimmed trim
  rw [String.toList_ofList, trimBy_trimBy]

end Text

namespace Viewer

theorem nodup_eraseDups : ∀ texts : List String, texts.eraseDups.Nodup
  | [] => List.nodup_nil
  | text :: texts => by
    have hnot : text ∉ (texts.filter fun other => !other == text).eraseDups := by
      rw [List.mem_eraseDups, List.mem_filter]
      simp
    rw [List.eraseDups_cons]
    exact List.nodup_cons.mpr ⟨hnot, nodup_eraseDups _⟩
termination_by texts => texts.length
decreasing_by
  have := List.length_filter_le (fun other => !other == text) texts
  rw [List.length_cons]
  omega

theorem nodup_distinct (texts : List String) : (distinct texts).Nodup := nodup_eraseDups _

theorem mem_distinct {texts : List String} {viewer : String} :
    viewer ∈ distinct texts ↔ viewer ≠ "" ∧ ∃ text ∈ texts, Text.trimmed text = viewer := by
  unfold distinct
  rw [List.mem_eraseDups, List.mem_filter, List.mem_map, and_comm]
  simp

/-- An id names itself. -/
theorem mem_distinct_id {viewer : Value} (h : id viewer ≠ "") : id viewer ∈ distinct [id viewer] :=
  mem_distinct.mpr ⟨h, id viewer, List.mem_singleton_self _, Text.trimmed_trimmed _⟩

end Viewer

end Laurels
