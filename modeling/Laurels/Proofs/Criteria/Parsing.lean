import Laurels.Criteria.Parser

/-!
# Parsing criteria

What is used of the parser elsewhere: an accepted text has a clause for each of its segments, so it has one at
least and not many more than it has characters (`length_of_parse`).

The last section is about a text that is neither accepted nor rejected. Zero is a small number however it is
written; written with too many digits it is not read at all (`parse_zeros`).
-/

namespace Laurels.Criteria

open Text

/-! ## Clauses and segments -/

/-- Reading clauses reads one from each line. -/
theorem parseClauses_cons {line : List Char} {lines : List (List Char)} {cs : List Clause}
    (h : parseClauses (line :: lines) = .ok cs) :
    ∃ c rest, parseClause line = .ok c ∧ parseClauses lines = .ok rest ∧ cs = c :: rest := by
  unfold parseClauses at h
  cases hc : parseClause line with
  | error e =>
    rw [hc] at h
    cases h
  | ok c =>
    cases hrest : parseClauses lines with
    | error e =>
      rw [hc, hrest] at h
      cases h
    | ok rest =>
      rw [hc, hrest] at h
      cases h
      exact ⟨c, rest, rfl, rfl, rfl⟩

theorem length_of_parseClauses {lines : List (List Char)} {cs : List Clause}
    (h : parseClauses lines = .ok cs) : cs.length = lines.length := by
  induction lines generalizing cs with
  | nil =>
    cases h
    rfl
  | cons line lines ih =>
    obtain ⟨c, rest, _, hrest, rfl⟩ := parseClauses_cons h
    exact congrArg (· + 1) (ih hrest)

theorem parse_eq_ok {text : String} {cs : List Clause} (h : parse text = .ok cs) :
    cs ≠ [] ∧ parseClauses (segments text.toList) = .ok cs := by
  unfold parse at h
  split at h
  · cases h
  · split at h
    · cases h
    · cases h
    · rename_i hne hp
      cases h
      exact ⟨hne, hp⟩

theorem length_pieces_le (atCut : Char → Bool) (cs : List Char) :
    (pieces atCut cs).length ≤ cs.length + 1 := by
  induction cs with
  | nil => exact Nat.le_refl _
  | cons c cs ih =>
    unfold pieces
    split
    · exact Nat.succ_le_succ ih
    · split
      · exact Nat.succ_le_succ (Nat.zero_le _)
      · rename_i hpieces
        rw [hpieces] at ih
        exact Nat.le_succ_of_le ih

theorem length_trim_le (cs : List Char) : (trim cs).length ≤ cs.length := by
  unfold trim trimBy
  rw [List.length_reverse]
  refine Nat.le_trans (List.dropWhile_sublist _).length_le ?_
  rw [List.length_reverse]
  exact (List.dropWhile_sublist _).length_le

/-- A text has at most one clause more than it has characters. -/
theorem length_of_parse {text : String} {cs : List Clause} (h : parse text = .ok cs) :
    cs.length ≤ text.length + 1 := by
  rw [length_of_parseClauses (parse_eq_ok h).2]
  unfold segments
  refine Nat.le_trans (List.length_filter_le _ _) ?_
  rw [List.length_map]
  refine Nat.le_trans (length_pieces_le _ _) (Nat.succ_le_succ ?_)
  exact Nat.le_trans (List.length_filter_le _ _) (length_trim_le text.toList)

/-! ## One plain segment -/

theorem trim_eq_self {cs : List Char} (h : ∀ c ∈ cs, isBlank c = false) : trim cs = cs := by
  have hdrop : ∀ ds : List Char, (∀ c ∈ ds, isBlank c = false) → ds.dropWhile isBlank = ds := by
    intro ds hds
    cases ds with
    | nil => rfl
    | cons d ds => rw [List.dropWhile_cons_of_neg (by simp [hds d List.mem_cons_self])]
  unfold trim trimBy
  rw [hdrop cs h, hdrop _ fun c hc => h c (List.mem_reverse.mp hc), List.reverse_reverse]

theorem pieces_eq_singleton {atCut : Char → Bool} {cs : List Char} (h : ∀ c ∈ cs, atCut c = false) :
    pieces atCut cs = [cs] := by
  induction cs with
  | nil => rfl
  | cons c cs ih =>
    unfold pieces
    rw [h c List.mem_cons_self, ih fun d hd => h d (List.mem_cons_of_mem _ hd)]
    rfl

/-- Without blanks, carriage returns and cuts, a text that is no comment is one segment. -/
theorem segments_eq_singleton {cs : List Char}
    (h : ∀ c ∈ cs, isBlank c = false ∧ c ≠ '\r' ∧ isSeparator c = false) (hclause : isComment cs = false) :
    segments cs = [cs] := by
  have htrim : trim cs = cs := trim_eq_self fun c hc => (h c hc).1
  have hreturns : cs.filter (· ≠ '\r') = cs := List.filter_eq_self.mpr fun c hc => by simpa using (h c hc).2.1
  unfold segments
  rw [htrim, hreturns, pieces_eq_singleton fun c hc => (h c hc).2.2, List.map_singleton, htrim]
  exact List.filter_cons_of_pos (by rw [hclause]; rfl)

/-! ## Zero with many digits -/

/-- A clause with the threshold zero, written with the given number of digits. -/
def zeros (digits : Nat) : String := "races>=" ++ String.ofList (List.replicate digits '0')

theorem toList_zeros (digits : Nat) :
    (zeros digits).toList = 'r' :: 'a' :: 'c' :: 'e' :: 's' :: '>' :: '=' :: List.replicate digits '0' := by
  unfold zeros
  rw [String.toList_append]
  exact congrArg ("races>=".toList ++ ·) String.toList_ofList

theorem valueOf_replicate_zero (n : Nat) : valueOf (List.replicate n 0) = 0 := by
  unfold valueOf
  induction n with
  | zero => rfl
  | succ n ih => exact ih

theorem parts?_zeros (digits : Nat) :
    parts? (zeros digits).toList = some (['r', 'a', 'c', 'e', 's'], .atLeast, List.replicate digits '0') := by
  have hdrop : dropBlanks (List.replicate digits '0') = List.replicate digits '0' := by
    unfold dropBlanks
    rw [List.dropWhile_replicate]
    rfl
  rw [toList_zeros]
  exact congrArg (fun rest => some (['r', 'a', 'c', 'e', 's'], Operator.atLeast, rest)) hdrop

theorem written?_zeros {digits : Nat} (h : 0 < digits) :
    written? (List.replicate digits '0') = some ⟨false, List.replicate digits 0, none⟩ := by
  have hsign : Numeral.sign (List.replicate digits '0') = (false, List.replicate digits '0') := by
    cases digits with
    | zero => rfl
    | succ n => rfl
  have hrun : Numeral.digitRun (List.replicate digits '0') = (List.replicate digits 0, []) := by
    have hzero : isDigit '0' = true := by decide
    have hvalue : digit? '0' = some 0 := by decide
    unfold Numeral.digitRun
    rw [List.takeWhile_replicate, List.dropWhile_replicate, if_pos hzero, if_pos hzero,
      List.filterMap_replicate_of_some hvalue]
  unfold written?
  rw [hsign]
  dsimp only
  rw [hrun]
  cases digits with
  | zero => omega
  | succ n => rfl

/-- The number is finite, but its digits are counted first. -/
theorem threshold_zeros {digits : Nat} (h : Numeral.maxDigits < digits) (raw : String) :
    Written.threshold ⟨false, List.replicate digits 0, none⟩ raw = .error (.tooManyDigits digits) := by
  have hfinite : (Written.nearest ⟨false, List.replicate digits 0, none⟩).isFinite = true := by
    show (Binary64.ofDecimal false (valueOf (List.replicate digits 0 ++ [])) _).isFinite = true
    rw [List.append_nil, valueOf_replicate_zero]
    rfl
  unfold Written.threshold
  rw [hfinite]
  dsimp only
  rw [List.length_replicate, if_pos h]
  rfl

theorem parseClause_zeros {digits : Nat} (h : Numeral.maxDigits < digits) :
    parseClause (zeros digits).toList = .error (.tooManyDigits digits) := by
  unfold parseClause
  rw [parts?_zeros]
  dsimp only
  rw [written?_zeros (Nat.lt_of_le_of_lt (Nat.zero_le _) h)]
  dsimp only
  rw [threshold_zeros h]
  rfl

/-- **Zero is not read** if it is written with more digits than are allowed. -/
theorem parse_zeros {digits : Nat} (h : Numeral.maxDigits < digits) :
    parse (zeros digits) = .error (.tooManyDigits digits) := by
  have hplain : ∀ c ∈ (zeros digits).toList, isBlank c = false ∧ c ≠ '\r' ∧ isSeparator c = false := by
    rw [toList_zeros]
    simp only [List.mem_cons, List.mem_replicate]
    rintro c (rfl | rfl | rfl | rfl | rfl | rfl | rfl | ⟨_, rfl⟩) <;> decide
  have htext : trim (zeros digits).toList ≠ [] := by
    rw [trim_eq_self fun c hc => (hplain c hc).1, toList_zeros]
    exact List.cons_ne_nil _ _
  have hsegments : segments (zeros digits).toList = [(zeros digits).toList] :=
    segments_eq_singleton hplain (by rw [toList_zeros]; rfl)
  unfold parse
  rw [if_neg htext, hsegments]
  unfold parseClauses
  rw [parseClause_zeros h]
  rfl

end Laurels.Criteria
