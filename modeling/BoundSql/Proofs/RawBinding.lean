import BoundSql.Proofs.MarkerReading
import BoundSql.Proofs.WrittenStatement
import Mathlib.Algebra.Order.BigOperators.Group.List
import Mathlib.Algebra.Order.Ring.Nat
/-!
Which values a statement binds that a caller wrote as a whole. Every marker is numbered, but nothing
keeps the caller from writing numbers beside the markers, or digits behind them. Each value is bound to
one place exactly when he does neither; otherwise a value is bound twice, or there is none for a number.
-/

namespace BoundSql

theorem eq_of_forall₂_le_of_sum_eq {as bs : List Nat} (h : List.Forall₂ (· ≤ ·) as bs)
    (hsum : bs.sum = as.sum) : bs = as := by
  induction h with
  | nil => rfl
  | @cons a b as bs hab hrest ih =>
    have hle : as.sum ≤ bs.sum := hrest.sum_le_sum
    rw [List.sum_cons, List.sum_cons] at hsum
    rw [ih (by omega), show b = a by omega]

namespace Placeholder

open Token (takeDigits)

variable {t : Text}

theorem le_digitsValue_natText_append (n : Nat) (digits : Text) :
    n ≤ digitsValue (natText n ++ digits) := by
  have hvalue := digitsValue_natText n
  unfold digitsValue at hvalue ⊢
  rw [List.foldl_append, hvalue]
  exact le_foldl_digitValue? digits n

theorem length_number?_addDollar (ks : List Token) :
    ((Token.addDollar ks).filterMap Token.number?).length =
      (ks.filterMap Token.number?).length + if (takeDigits ks).1 = [] then 0 else 1 := by
  have hkept := Token.filterMap_number?_takeDigits ks
  unfold Token.addDollar
  split
  · rename_i hks
    rw [List.filterMap_cons_none (Token.number?_char _), hks, if_pos rfl, Nat.add_zero]
  · rename_i digits rest hsome hks
    have hne : digits ≠ [] := by simpa using hsome
    rw [hks] at hkept
    simp [hks, hne, hkept]

theorem isNumbered_cons_of_ne {c : Char} (hc : c ≠ '$') :
    SqlFragment.isNumbered (c :: t) = SqlFragment.isNumbered t := by
  simp [SqlFragment.isNumbered, hc]

theorem markerCount_le_length_indices (t : Text) (o : Nat) :
    markerCount t + (if SqlFragment.isNumbered t then 1 else 0) ≤
      (indices (numberMarkers o t)).length := by
  rw [indices_eq]
  induction t generalizing o with
  | nil => simp [markerCount, SqlFragment.isNumbered]
  | cons c t ih =>
    by_cases hc : c = '?'
    · subst hc
      have ht := ih (o + 1)
      rw [ofText_numberMarkers_marker, List.filterMap_cons_some (Token.number?_slot _),
        Token.filterMap_number?_takeDigits, List.length_cons, markerCount_cons, if_pos rfl,
        isNumbered_cons_of_ne (by decide)]
      omega
    · have ht := ih o
      rw [numberMarkers, if_neg hc, Token.ofText, markerCount_cons, if_neg hc,
        Nat.add_zero (markerCount t)]
      by_cases hd : c = '$'
      · have hdigits := takeDigits_numberMarkers_eq_nil_iff (o := o) (t := t)
        rw [if_pos hd, length_number?_addDollar]
        by_cases hnil : (takeDigits (Token.ofText (numberMarkers o t))).1 = []
        · have hhead : t.head?.any isDecimalDigit = false := by
            cases h : t.head? with
            | none => rfl
            | some d => simpa using hdigits.1 hnil d h
          simpa [hnil, SqlFragment.isNumbered, hhead] using ht
        · rw [if_neg hnil]
          split at ht <;> split <;> omega
      · rw [if_neg hd, List.filterMap_cons_none (Token.number?_char _), isNumbered_cons_of_ne hd]
        exact ht

theorem forall₂_le_indices (h : SqlFragment.isNumbered t = false) (o : Nat) :
    List.Forall₂ (· ≤ ·) (List.range' (o + 1) (markerCount t)) (indices (numberMarkers o t)) := by
  rw [indices_eq]
  induction t generalizing o with
  | nil => exact .nil
  | cons c t ih =>
    have ht : SqlFragment.isNumbered t = false := (Bool.or_eq_false_iff.1 h).2
    by_cases hc : c = '?'
    · subst hc
      rw [ofText_numberMarkers_marker, markerCount_cons, if_pos rfl, List.range'_succ,
        List.filterMap_cons_some (Token.number?_slot _), Token.filterMap_number?_takeDigits]
      exact .cons (le_digitsValue_natText_append _ _) (ih ht (o + 1))
    · rw [ofText_numberMarkers_cons hc h, markerCount_cons, if_neg hc,
        Nat.add_zero (markerCount t), List.filterMap_cons_none (Token.number?_char c)]
      exact ih ht o

/-- The numbers of a text are those of its values, in whatever order, exactly when the caller wrote no
numbers and no digit follows a marker. -/
theorem indices_perm_iff (t : Text) (o : Nat) :
    (indices (numberMarkers o t)).Perm (List.range' (o + 1) (markerCount t)) ↔
      SqlFragment.isNumbered t = false ∧ MarkersApart t := by
  constructor
  · intro hperm
    have hnumbered : SqlFragment.isNumbered t = false := by
      -- a number of the caller's would be one too many
      have hmany := markerCount_le_length_indices t o
      rw [hperm.length_eq, List.length_range'] at hmany
      cases h : SqlFragment.isNumbered t with
      | false => rfl
      | true =>
        rw [h, if_pos rfl] at hmany
        omega
    have hsame := eq_of_forall₂_le_of_sum_eq (forall₂_le_indices hnumbered o) hperm.sum_eq
    exact ⟨hnumbered, (indices_numberMarkers_eq_iff hnumbered).1 hsame⟩
  · rintro ⟨hnumbered, hapart⟩
    rw [(indices_numberMarkers_eq_iff hnumbered).2 hapart]

end Placeholder

namespace Target

open Placeholder (markerCount numberMarkers indices MarkersApart)
open BoundSql.Action

/-- Where placeholders are numbered, a statement of the caller's is refused when it has not as many
markers as values. Otherwise its text is sent with numbered markers, at most once, and once if the call
ends well. The numbers in it are those of the values, each of them once, exactly when the caller wrote no
numbers himself and no digit behind a marker. -/
theorem raw_binds (target : Target) (s : Session) {sql : String} {params : Value} {vs : List Value}
    (hd : s.context.dialect.isNumbered) (hvs : valuesOf params = .ok vs)
    (hmarked : 0 < markerCount sql.toList) :
    let r := (target.raw (.text sql) params).exec s
    let sent := numberMarkers 0 sql.toList
    (markerCount sql.toList ≠ vs.length →
      r = (reject (.markerCount sql (markerCount sql.toList) vs.length), s)) ∧
    (markerCount sql.toList = vs.length →
      (∃ k ≤ 1, statements r.2.log = statements s.log ++ List.replicate k (sent, vs) ∧
        ∀ rows, r.1 = .ok rows → k = 1) ∧
      ((indices sent).Perm (List.range' 1 vs.length) ↔
        SqlFragment.isNumbered sql.toList = false ∧ MarkersApart sql.toList)) := by
  have hpostgres : s.context.dialect = .postgres := by
    cases h : s.context.dialect with
    | postgres => rfl
    | sqlite => simp [h, Dialect.isNumbered] at hd
  refine ⟨fun hcount => ?_, fun hcount => ⟨?_, ?_⟩⟩
  · have hwritten : written s.context.dialect (.text sql) vs =
        reject (.markerCount sql (markerCount sql.toList) vs.length) := by
      have hne : ¬ (markerCount sql.toList : Int) = (vs.length : Int) := by omega
      have hsome : ¬ (markerCount sql.toList = 0) := by omega
      simp [written, hsome, Placeholder.renumber, hne, reject, Except.map]
    show exec (target.raw (.text sql) params) s = _
    unfold raw
    rw [exec_bind_ok (exec_get s), hvs, exec_bind_ok (exec_conclude (.ok vs) s), hwritten]
    exact exec_bind_error (exec_conclude _ s)
  · have hrun := hands_run target ⟨numberMarkers 0 sql.toList, vs, .postgres⟩ s
    show ∃ k ≤ 1, statements (exec (target.raw (.text sql) params) s).2.log = _ ∧ _
    unfold raw
    rw [exec_bind_ok (exec_get s), hvs, exec_bind_ok (exec_conclude (.ok vs) s), written_eq hcount,
      exec_bind_ok (exec_conclude (.ok _) s), hpostgres]
    exact hrun
  · rw [← hcount]
    exact Placeholder.indices_perm_iff sql.toList 0

theorem raw_binds_sum :
    (answering .postgres).context.dialect.isNumbered ∧
      statements ((raw .database (.text "SELECT ? + ?") (.list [.int 1, .int 2])).exec
        (answering .postgres)).2.log = [("SELECT $1 + $2".toList, [.int 1, .int 2])] ∧
      (indices "SELECT $1 + $2".toList).Perm [1, 2] ∧
      (raw .database (.text "SELECT ? + ?") (.list [.int 1])).exec (answering .postgres) =
        (reject (.markerCount "SELECT ? + ?" 2 1), answering .postgres) := by
  have hmarked : 0 < markerCount "SELECT ? + ?".toList := by decide +kernel
  have hcount : markerCount "SELECT ? + ?".toList = [Value.int 1, .int 2].length := by decide +kernel
  have htwo : valuesOf (.list [.int 1, .int 2]) = .ok [.int 1, .int 2] := rfl
  have hone : valuesOf (.list [.int 1]) = .ok [.int 1] := rfl
  obtain ⟨⟨k, -, hlog, hok⟩, hperm⟩ :=
    (raw_binds .database (answering .postgres) rfl htwo hmarked).2 hcount
  obtain rfl := hok [] rfl
  exact ⟨rfl, hlog, hperm.2 (by decide +kernel),
    (raw_binds .database (answering .postgres) rfl hone hmarked).1 (by decide +kernel)⟩

/-- A number of the caller's and the number of a marker name the same value. -/
theorem raw_binds_twice :
    markerCount "SELECT $1, ?".toList = [Value.int 5].length ∧
      statements ((raw .database (.text "SELECT $1, ?") (.list [.int 5])).exec
        (answering .postgres)).2.log = [("SELECT $1, $1".toList, [.int 5])] ∧
      indices "SELECT $1, $1".toList = [1, 1] ∧ ¬ [1, 1].Perm (List.range' 1 1) :=
  ⟨by decide +kernel, rfl, by decide +kernel, by decide⟩

end Target

end BoundSql
