import BoundSql.Statement.Row
import Mathlib.Data.List.Induction
import Mathlib.Data.List.Nodup
/-!
Rows that are merged into others. A column stands where it came first and has the value that it was
given last, and no column comes twice.
-/

namespace BoundSql

namespace Row

variable (r s : Row) (column c : String) (v : Value)

theorem get?_cons (e : String × Value) :
    get? (e :: r) c = if e.1 = c then some e.2 else r.get? c := by
  by_cases he : e.1 = c <;> simp [get?, he]

theorem get?_append : get? (r ++ s) c = (r.get? c).or (s.get? c) := by
  simp [get?, List.find?_append, Option.map_or]

theorem get?_of_not_mem {r : Row} {c : String} (h : c ∉ r.columns) : r.get? c = none := by
  simp only [get?, Option.map_eq_none_iff, List.find?_eq_none, beq_iff_eq]
  intro e he hc
  exact h (hc ▸ List.mem_map_of_mem he)

theorem any_column : (r.any fun e => e.1 == column) = true ↔ column ∈ r.columns := by
  simp [columns]

theorem columns_put :
    (r.put column v).columns = if column ∈ r.columns then r.columns else r.columns ++ [column] := by
  unfold put
  by_cases hm : column ∈ r.columns
  · rw [if_pos ((any_column r column).2 hm), if_pos hm]
    simp only [columns, List.map_map]
    refine List.map_congr_left fun e _ => ?_
    by_cases he : e.1 = column <;> simp [he]
  · rw [if_neg (mt (any_column r column).1 hm), if_neg hm]
    simp [columns]

theorem get?_overwrite_self {r : Row} {column : String} (hm : column ∈ r.columns) :
    get? (r.map fun e => if e.1 == column then (column, v) else e) column = some v := by
  induction r with
  | nil => cases hm
  | cons e r ih =>
    rw [List.map_cons, get?_cons]
    by_cases he : e.1 = column
    · simp [he]
    · have hr : column ∈ columns r := (List.mem_cons.1 hm).resolve_left fun h => he h.symm
      rw [if_neg (by simp [he])]
      exact ih hr

theorem get?_overwrite_of_ne {column c : String} (h : c ≠ column) :
    get? (r.map fun e => if e.1 == column then (column, v) else e) c = r.get? c := by
  induction r with
  | nil => rfl
  | cons e r ih =>
    rw [List.map_cons, get?_cons, get?_cons, ih]
    by_cases he : e.1 = column <;> simp [he, h.symm]

theorem get?_put_self : (r.put column v).get? column = some v := by
  unfold put
  by_cases hm : column ∈ r.columns
  · rw [if_pos ((any_column r column).2 hm), get?_overwrite_self v hm]
  · rw [if_neg (mt (any_column r column).1 hm), get?_append, get?_of_not_mem hm, get?_cons]
    simp

theorem get?_put_of_ne {column c : String} (h : c ≠ column) :
    (r.put column v).get? c = r.get? c := by
  unfold put
  split
  · exact get?_overwrite_of_ne r v h
  · rw [get?_append, get?_cons, if_neg h.symm]
    simp [get?]

variable {r} {s} {c}

theorem mem_columns_put {column : String} {v : Value} (h : c ∈ (r.put column v).columns) :
    c ∈ r.columns ∨ c = column := by
  rw [columns_put] at h
  split at h
  · exact .inl h
  · simpa using h

theorem mem_columns_merge (h : c ∈ (r.merge s).columns) : c ∈ r.columns ∨ c ∈ s.columns := by
  unfold merge at h
  induction s generalizing r with
  | nil => exact .inl h
  | cons e s ih =>
    rcases ih h with hm | hm
    · rcases mem_columns_put hm with hm | rfl
      · exact .inl hm
      · exact .inr (by simp [columns])
    · exact .inr (List.mem_cons_of_mem _ hm)

theorem nodup_columns_put (h : r.columns.Nodup) : (r.put column v).columns.Nodup := by
  rw [columns_put]
  split
  · exact h
  · rename_i hm
    refine List.nodup_append.2 ⟨h, List.pairwise_singleton _ _, fun c hc d hd he => hm ?_⟩
    rwa [← List.mem_singleton.1 hd, ← he]

theorem nodup_columns_merge (s : Row) (h : r.columns.Nodup) : (r.merge s).columns.Nodup := by
  unfold merge
  induction s generalizing r with
  | nil => exact h
  | cons e s ih => exact ih (nodup_columns_put e.1 e.2 h)

variable (r s c)

theorem columns_prefix_merge : r.columns <+: (r.merge s).columns := by
  unfold merge
  induction s generalizing r with
  | nil => exact List.prefix_rfl
  | cons e s ih =>
    refine List.IsPrefix.trans ?_ (ih (r.put e.1 e.2))
    rw [columns_put]
    split
    · exact List.prefix_rfl
    · exact List.prefix_append _ _

theorem get?_merge : (r.merge s).get? c = (get? s.reverse c).or (r.get? c) := by
  unfold merge
  induction s generalizing r with
  | nil => simp [get?]
  | cons e s ih =>
    rw [List.foldl_cons, ih, List.reverse_cons, get?_append, get?_cons, Option.or_assoc]
    congr 1
    by_cases hc : e.1 = c
    · subst hc
      simp [get?_put_self]
    · rw [get?_put_of_ne r _ fun he => hc he.symm, if_neg hc]
      simp [get?]

section Merges

variable {r s : Row} {c d : String} (v w : Value)

theorem put_of_mem (h : c ∈ r.columns) :
    r.put c v = r.map fun e => if e.1 == c then (c, v) else e :=
  if_pos ((any_column r c).2 h)

theorem put_of_not_mem (h : c ∉ r.columns) : r.put c v = r ++ [(c, v)] :=
  if_neg (mt (any_column r c).1 h)

theorem overwrite_of_not_mem (h : c ∉ r.columns) :
    (r.map fun e => if e.1 == c then (c, v) else e) = r := by
  refine (List.map_congr_left fun e he => ?_).trans (List.map_id r)
  have hne : e.1 ≠ c := fun hc => h (hc ▸ List.mem_map_of_mem he)
  simp [hne]

theorem mem_columns_put_self (r : Row) (c : String) : c ∈ (r.put c v).columns := by
  rw [columns_put]
  split
  · assumption
  · simp

theorem put_append_of_mem (h : c ∈ r.columns) (s : Row) :
    put (r ++ s) c v = r.put c v ++ s.map fun e => if e.1 == c then (c, v) else e := by
  have hm : c ∈ columns (r ++ s) := by
    rw [columns, List.map_append]
    exact List.mem_append_left _ h
  rw [put_of_mem v hm, put_of_mem v h, List.map_append]

theorem put_put_self (r : Row) (c : String) : (r.put c w).put c v = r.put c v := by
  rw [put_of_mem v (mem_columns_put_self w r c)]
  by_cases h : c ∈ r.columns
  · rw [put_of_mem w h, put_of_mem v h, List.map_map]
    refine List.map_congr_left fun e _ => ?_
    by_cases he : e.1 = c <;> simp [he]
  · rw [put_of_not_mem w h, put_of_not_mem v h, List.map_append, overwrite_of_not_mem v h]
    simp

theorem put_put_comm (h : c ∈ r.columns) (hne : d ≠ c) :
    (r.put d w).put c v = (r.put c v).put d w := by
  have hcolumns : (r.put c v).columns = r.columns := by rw [columns_put, if_pos h]
  by_cases hd : d ∈ r.columns
  · have hc : c ∈ (r.put d w).columns := by rwa [columns_put, if_pos hd]
    have hd' : d ∈ (r.put c v).columns := by rwa [hcolumns]
    rw [put_of_mem w hd', put_of_mem v hc, put_of_mem w hd, put_of_mem v h, List.map_map,
      List.map_map]
    refine List.map_congr_left fun e _ => ?_
    by_cases hec : e.1 = c
    · simp [hec, hne.symm]
    · by_cases hed : e.1 = d <;> simp [hec, hed, hne]
  · rw [put_of_not_mem w hd, put_append_of_mem v h, put_of_not_mem w (hcolumns.symm ▸ hd)]
    simp [hne]

theorem merge_append (r s t : Row) : r.merge (s ++ t) = (r.merge s).merge t :=
  List.foldl_append

theorem merge_concat (r s : Row) (e : String × Value) :
    r.merge (s ++ [e]) = (r.merge s).put e.1 e.2 :=
  r.merge_append s [e]

theorem mem_columns_merge_right (r : Row) (h : c ∈ s.columns) : c ∈ (r.merge s).columns := by
  obtain ⟨e, he, rfl⟩ := List.mem_map.1 h
  obtain ⟨before, behind, rfl⟩ := List.append_of_mem he
  rw [← List.singleton_append, ← List.append_assoc, merge_append, merge_concat]
  exact (columns_prefix_merge _ _).subset (mem_columns_put_self e.2 _ e.1)

theorem merge_put (r s : Row) (c : String) : r.merge (s.put c v) = (r.merge s).put c v := by
  induction s using List.reverseRecOn with
  | nil => rfl
  | append_singleton s e ih =>
    by_cases h : c ∈ columns s
    · have hm := mem_columns_merge_right r h
      rw [put_append_of_mem v h, merge_append, ih, merge_concat]
      by_cases he : e.1 = c
      · subst he
        simp only [List.map_cons, beq_self_eq_true, if_true, List.map_nil]
        exact (put_put_self v v _ _).trans (put_put_self v e.2 _ _).symm
      · rw [put_put_comm v e.2 hm he]
        simp [he, merge]
    · by_cases he : e.1 = c
      · subst he
        have hput : put (s ++ [e]) e.1 v = s ++ [(e.1, v)] := by
          rw [put_of_mem v (by simp [columns]), List.map_append, overwrite_of_not_mem v h]
          simp
        rw [hput, merge_concat, merge_concat, put_put_self]
      · have hnew : c ∉ columns (s ++ [e]) := by
          rw [columns, List.map_append, List.mem_append, not_or]
          exact ⟨h, by simpa using Ne.symm he⟩
        rw [put_of_not_mem v hnew, merge_concat]

theorem merge_merge (r s t : Row) : r.merge (s.merge t) = (r.merge s).merge t := by
  induction t using List.reverseRecOn with
  | nil => rfl
  | append_singleton t e ih => rw [merge_concat, merge_put, ih, merge_concat]

theorem mem_put {e : String × Value} (h : e ∈ r.put c v) : e ∈ r ∨ e = (c, v) := by
  by_cases hc : c ∈ r.columns
  · rw [put_of_mem v hc] at h
    obtain ⟨e', he', rfl⟩ := List.mem_map.1 h
    split
    · exact .inr rfl
    · exact .inl he'
  · rw [put_of_not_mem v hc] at h
    simpa using h

theorem mem_merge {e : String × Value} (h : e ∈ r.merge s) : e ∈ r ∨ e ∈ s := by
  induction s using List.reverseRecOn with
  | nil => exact .inl h
  | append_singleton s e' ih =>
    rw [merge_concat] at h
    rcases mem_put _ h with h | rfl
    · exact (ih h).imp_right fun hm => List.mem_append_left _ hm
    · exact .inr (List.mem_append_right _ (List.mem_singleton_self _))

end Merges

end Row

end BoundSql
