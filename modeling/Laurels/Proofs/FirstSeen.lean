import Laurels.Proofs.ViewerIds

/-!
# Viewers in order of first occurrence

A list of viewers is read one entry after the other. An entry that names a viewer who has not been named before puts
the id behind those found so far, and any other entry changes nothing (`note`). Reading a list to its end gives
the ids that the list names (`distinct_eq_foldl`), so what holds of them is shown entry by entry.

There are two such facts. The ids found so far are those of the viewers named so far, in the order in which each of
them was named first: one more entry keeps this (`FirstSeen.concat`), and no other ids have it (`FirstSeen.unique`). And
if there are ids already when reading begins, they stay in front, and behind them come those that the entries name, less
the ones that are there (`foldl_note`). Two lists read one after the other are a case of this. `ids_deduplicated` is the
main statement.
-/

namespace Laurels.Viewer

/-- The id that an entry of a list of viewers names, empty if it names nobody. -/
def named (entry : Value) : String := Text.trimmed (entryText entry)

/-- The ids after one more entry. -/
def note (ids : List String) (entry : Value) : List String :=
  if named entry = "" ∨ named entry ∈ ids then ids else ids ++ [named entry]

/-- How many entries come before the first one that names a viewer. -/
def firstAt (entries : List Value) (viewer : String) : Nat := entries.findIdx fun entry => named entry == viewer

/-- The ids of the viewers whom entries name, in order of first occurrence. -/
structure FirstSeen (entries : List Value) (ids : List String) : Prop where
  /-- They are what the entries name, unless it is nobody. -/
  mem_iff : ∀ viewer, viewer ∈ ids ↔ viewer ≠ "" ∧ ∃ entry ∈ entries, named entry = viewer
  /-- Who comes before another one was named before that one. -/
  order : ids.Pairwise fun viewer other => firstAt entries viewer < firstAt entries other

/-- What the ids are that a list of viewers names. -/
structure Deduplicated (entries : List Value) (ids : List String) : Prop where
  /-- The list has an answer, and they are the answer. -/
  answered : ids? (.list entries) = some ids
  /-- They are trimmed, and none of them is empty. -/
  trimmed : ∀ viewer ∈ ids, Text.trimmed viewer = viewer ∧ viewer ≠ ""
  /-- No id is there twice. -/
  nodup : ids.Nodup
  /-- They are those of the viewers named, in order of first occurrence. -/
  firstSeen : FirstSeen entries ids
  /-- No other ids are that. -/
  only : ∀ ids', FirstSeen entries ids' → ids' = ids
  /-- Read again, they are the same. -/
  again : ids? (.list (ids.map .text)) = some ids
  /-- If more entries follow, the ids that these name come behind, less the ones that are there. -/
  append : ∀ more, ∃ added, ids? (.list more) = some added
    ∧ ids? (.list (entries ++ more)) = some (ids ++ added.filter fun viewer => viewer ∉ ids)

variable {entries front : List Value} {ids : List String} {entry : Value} {viewer : String}

/-! ## One more entry -/

theorem note_of_known (h : named entry = "" ∨ named entry ∈ ids) : note ids entry = ids := if_pos h

theorem note_of_new (hne : named entry ≠ "") (hnew : named entry ∉ ids) : note ids entry = ids ++ [named entry] :=
  if_neg (not_or.mpr ⟨hne, hnew⟩)

theorem exists_named_concat : (∃ e ∈ front ++ [entry], named e = viewer)
    ↔ (∃ e ∈ front, named e = viewer) ∨ named entry = viewer := by
  simp [or_and_right, exists_or]

theorem firstAt_lt (h : ∃ entry ∈ front, named entry = viewer) : firstAt front viewer < front.length := by
  obtain ⟨entry, hentry, hnamed⟩ := h
  exact List.findIdx_lt_length_of_exists ⟨entry, hentry, beq_iff_eq.mpr hnamed⟩

/-- Who has been named already keeps the place, whatever follows. -/
theorem firstAt_append_of_named (h : ∃ entry ∈ front, named entry = viewer) (more : List Value) :
    firstAt (front ++ more) viewer = firstAt front viewer := by
  unfold firstAt
  rw [List.findIdx_append]
  exact if_pos (firstAt_lt h)

/-- Who is named by the last entry only has the place behind all others. -/
theorem firstAt_concat_of_new (h : ¬ ∃ entry ∈ front, named entry = viewer) (hnamed : named entry = viewer) :
    firstAt (front ++ [entry]) viewer = front.length := by
  have hlength : front.findIdx (fun entry => named entry == viewer) = front.length := by
    refine List.findIdx_eq_length_of_false fun entry hentry => ?_
    rw [beq_eq_false_iff_ne]
    exact fun heq => h ⟨entry, hentry, heq⟩
  unfold firstAt
  rw [List.findIdx_append, hlength, if_neg (Nat.lt_irrefl _), List.findIdx_singleton, if_pos (beq_iff_eq.mpr hnamed)]
  omega

namespace FirstSeen

theorem nil : FirstSeen [] [] where
  mem_iff := by simp
  order := List.Pairwise.nil

/-- **One more entry keeps the order of first occurrence.** -/
theorem concat (h : FirstSeen front ids) (entry : Value) : FirstSeen (front ++ [entry]) (note ids entry) := by
  have hnamed : ∀ viewer ∈ ids, ∃ entry ∈ front, named entry = viewer := fun viewer hviewer =>
    ((h.mem_iff viewer).mp hviewer).2
  -- the ids that are there keep their places, so they stay in order
  have horder : ids.Pairwise fun viewer other =>
      firstAt (front ++ [entry]) viewer < firstAt (front ++ [entry]) other := by
    refine h.order.imp_of_mem fun {viewer other} hviewer hother hlt => ?_
    rw [firstAt_append_of_named (hnamed viewer hviewer), firstAt_append_of_named (hnamed other hother)]
    exact hlt
  by_cases hknown : named entry = "" ∨ named entry ∈ ids
  · rw [note_of_known hknown]
    refine ⟨fun viewer => ?_, horder⟩
    rw [h.mem_iff, exists_named_concat]
    refine and_congr_right fun hne => (or_iff_left_of_imp ?_).symm
    rintro rfl
    rcases hknown with hempty | hmem
    · exact absurd hempty hne
    · exact hnamed _ hmem
  · obtain ⟨hne, hnew⟩ := not_or.mp hknown
    rw [note_of_new hne hnew]
    refine ⟨fun viewer => ?_, ?_⟩
    · rw [List.mem_append, h.mem_iff, List.mem_singleton, exists_named_concat]
      constructor
      · rintro (⟨hviewer, hfront⟩ | rfl)
        · exact ⟨hviewer, Or.inl hfront⟩
        · exact ⟨hne, Or.inr rfl⟩
      · rintro ⟨hviewer, hfront | rfl⟩
        · exact Or.inl ⟨hviewer, hfront⟩
        · exact Or.inr rfl
    · refine List.pairwise_append.mpr ⟨horder, List.pairwise_singleton _ _, fun viewer hviewer other hother => ?_⟩
      rw [List.mem_singleton.mp hother, firstAt_append_of_named (hnamed viewer hviewer),
        firstAt_concat_of_new (fun hfront => hnew ((h.mem_iff _).mpr ⟨hne, hfront⟩)) rfl]
      exact firstAt_lt (hnamed viewer hviewer)

/-- What is found by reading to the end is in order of first occurrence. -/
theorem of_foldl (entries : List Value) : FirstSeen entries (entries.foldl note []) := by
  induction entries using List.reverseRecOn with
  | nil => exact nil
  | append_singleton front entry ih =>
    rw [List.foldl_concat]
    exact ih.concat entry

theorem trimmed (h : FirstSeen entries ids) (hviewer : viewer ∈ ids) : Text.trimmed viewer = viewer ∧ viewer ≠ "" := by
  obtain ⟨hne, entry, _, rfl⟩ := (h.mem_iff viewer).mp hviewer
  exact ⟨Text.trimmed_trimmed _, hne⟩

theorem nodup (h : FirstSeen entries ids) : ids.Nodup := by
  refine h.order.imp fun {viewer other} hlt heq => ?_
  rw [heq] at hlt
  exact Nat.lt_irrefl _ hlt

/-- **The order of first occurrence leaves no choice.** -/
theorem unique {ids' : List String} (h' : FirstSeen entries ids') (h : FirstSeen entries ids) : ids' = ids := by
  have hperm : ids'.Perm ids :=
    (List.perm_ext_iff_of_nodup h'.nodup h.nodup).mpr fun viewer => (h'.mem_iff viewer).trans (h.mem_iff viewer).symm
  exact hperm.eq_of_pairwise (fun _ _ _ _ hlt hgt => (Nat.lt_asymm hlt hgt).elim) h'.order h.order

end FirstSeen

/-! ## Reading to the end -/

/-- Texts are dropped as repetitions exactly where an entry changes nothing: the texts kept so far are the ids found so
far, the last one in front. -/
theorem loop_eq_foldl (entries : List Value) (ids : List String) :
    List.eraseDupsBy.loop (· == ·) ((entries.map named).filter fun s => !s.isEmpty) ids.reverse
      = entries.foldl note ids := by
  induction entries generalizing ids with
  | nil => exact List.reverse_reverse ids
  | cons entry entries ih =>
    rw [List.map_cons, List.foldl_cons]
    by_cases hne : named entry = ""
    · rw [List.filter_cons_of_neg (by simp [hne]), note_of_known (Or.inl hne), ih]
    · rw [List.filter_cons_of_pos (by simpa using hne), List.eraseDupsBy.loop]
      by_cases hmem : named entry ∈ ids
      · have hany : ids.reverse.any (named entry == ·) = true := by simpa using hmem
        rw [hany, note_of_known (Or.inr hmem)]
        exact ih ids
      · have hany : ids.reverse.any (named entry == ·) = false := by
          rw [List.any_eq_false]
          exact fun id hid heq => hmem (List.mem_reverse.mp (beq_iff_eq.mp heq ▸ hid))
        rw [hany, note_of_new hne hmem, ← ih, List.reverse_concat]

/-- The ids that a list names are found by reading it entry by entry. -/
theorem distinct_eq_foldl (entries : List Value) : distinct (entries.map entryText) = entries.foldl note [] := by
  unfold distinct
  rw [List.map_map]
  exact loop_eq_foldl entries []

theorem ids?_list (entries : List Value) : ids? (.list entries) = some (entries.foldl note []) := by
  have hitems : (Value.list entries).items? = some entries := by
    cases entries <;> rfl
  unfold ids?
  rw [hitems, Option.map_some, distinct_eq_foldl]

theorem mem_append_others {found : List String} :
    viewer ∈ ids ++ (found.filter fun other => other ∉ ids) ↔ viewer ∈ ids ∨ viewer ∈ found := by
  rw [List.mem_append, List.mem_filter]
  by_cases hids : viewer ∈ ids <;> simp [hids]

/-- Ids that are there already are not added again, and make no other difference to an entry. -/
theorem note_append (ids found : List String) (entry : Value) :
    note (ids ++ found.filter fun viewer => viewer ∉ ids) entry
      = ids ++ (note found entry).filter fun viewer => viewer ∉ ids := by
  by_cases hknown : named entry = "" ∨ named entry ∈ found
  · rw [note_of_known hknown, note_of_known (hknown.imp_right fun h => mem_append_others.mpr (Or.inr h))]
  · obtain ⟨hne, hfound⟩ := not_or.mp hknown
    rw [note_of_new hne hfound, List.filter_append]
    by_cases hids : named entry ∈ ids
    · have hnone : [named entry].filter (fun viewer => viewer ∉ ids) = [] := by simp [hids]
      rw [hnone, List.append_nil, note_of_known (Or.inr (mem_append_others.mpr (Or.inl hids)))]
    · have hone : [named entry].filter (fun viewer => viewer ∉ ids) = [named entry] := by simp [hids]
      rw [hone, note_of_new hne fun hmem => (mem_append_others.mp hmem).elim hids hfound, List.append_assoc]

/-- **Ids that are there already stay in front.** -/
theorem foldl_note (ids : List String) (entries : List Value) :
    entries.foldl note ids = ids ++ (entries.foldl note []).filter fun viewer => viewer ∉ ids := by
  induction entries using List.reverseRecOn with
  | nil => exact (List.append_nil ids).symm
  | append_singleton front entry ih => rw [List.foldl_concat, List.foldl_concat, ih, note_append]

/-- Ids that are read again are all new. -/
theorem foldl_note_ids (htrimmed : ∀ viewer ∈ ids, Text.trimmed viewer = viewer ∧ viewer ≠ "") (hnodup : ids.Nodup) :
    (ids.map Value.text).foldl note [] = ids := by
  induction ids using List.reverseRecOn with
  | nil => rfl
  | append_singleton front viewer ih =>
    rw [List.forall_mem_append] at htrimmed
    obtain ⟨hfront, _, hdisjoint⟩ := List.nodup_append.mp hnodup
    have hnamed : named (.text viewer) = viewer := (htrimmed.2 viewer (List.mem_singleton_self _)).1
    have hne : named (.text viewer) ≠ "" := hnamed.symm ▸ (htrimmed.2 viewer (List.mem_singleton_self _)).2
    have hnew : named (.text viewer) ∉ front := fun hmem =>
      hdisjoint _ hmem viewer (List.mem_singleton_self _) hnamed
    rw [List.map_append, List.map_singleton, List.foldl_concat, ih htrimmed.1 hfront, note_of_new hne hnew, hnamed]

/--
**Viewers are named once each, in order of first occurrence.** Every list of viewers names the trimmed texts of its
entries that are not blank, none of them twice, the one that comes first in front. Reading these again changes nothing,
and two lists together name what the first one names and then whatever else the second one does. A list that is left
out names nobody.
-/
theorem ids_deduplicated : ids? .null = some [] ∧ ∀ entries : List Value, ∃ ids, Deduplicated entries ids := by
  refine ⟨rfl, fun entries => ⟨entries.foldl note [], ?_⟩⟩
  have hseen : FirstSeen entries (entries.foldl note []) := FirstSeen.of_foldl entries
  exact {
    answered := ids?_list entries
    trimmed := fun viewer hviewer => hseen.trimmed hviewer
    nodup := hseen.nodup
    firstSeen := hseen
    only := fun ids' hids' => hids'.unique hseen
    again := by rw [ids?_list, foldl_note_ids (fun viewer hviewer => hseen.trimmed hviewer) hseen.nodup]
    append := fun more => ⟨more.foldl note [], ids?_list more, by rw [ids?_list, List.foldl_append, foldl_note]⟩ }

/-- Blank ends are dropped before ids are compared, and letter case is kept. -/
example : ids? (.list [.text " v2 ", .null, .text "V2", .text "v1", .text "v2", .text " "])
    = some ["v2", "V2", "v1"] := by
  decide +kernel

end Laurels.Viewer
