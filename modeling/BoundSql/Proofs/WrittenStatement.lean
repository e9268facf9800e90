import BoundSql.Proofs.DialectText
import BoundSql.Proofs.HandedStatement
/-!
Statements that a caller wrote as a whole. What the driver is handed is the text of the caller with
the placeholders of the dialect in the places of the markers, wherever placeholders are numbered. Where
they are not, markers are numbered all the same and every number is taken away again: the numbers of
the caller's own go with them, and the digits behind a marker.
-/

namespace BoundSql

/-- Pieces of a text with others between them, as far as they go. -/
def interleave : List Text → List Text → Text
  | [], _ => []
  | p :: ps, [] => p ++ interleave ps []
  | p :: ps, m :: ms => p ++ m ++ interleave ps ms

theorem interleave_cutAt_cons {c d : Char} (h : c ≠ d) (t : Text) (ms : List Text) :
    interleave (cutAt d (c :: t)) ms = c :: interleave (cutAt d t) ms := by
  have hne := cutAt_ne_nil d t
  simp only [cutAt, h, ↓reduceIte]
  cases hcut : cutAt d t with
  | nil => exact absurd hcut hne
  | cons p ps => cases ms <;> simp [interleave]

theorem interleave_cutAt_separator (d : Char) (t m : Text) (ms : List Text) :
    interleave (cutAt d (d :: t)) (m :: ms) = m ++ interleave (cutAt d t) ms := by
  simp [cutAt, interleave]

namespace Dialect

/-- A text with the placeholders of a dialect in the places of its markers. -/
def withPlaceholders (d : Dialect) (t : Text) : Text :=
  interleave (cutAt '?' t) (d.placeholders 0 (Placeholder.markerCount t))

theorem withPlaceholders_sqlite (t : Text) : sqlite.withPlaceholders t = t := by
  simp only [withPlaceholders, placeholders, Placeholder.markerCount]
  induction t with
  | nil => rfl
  | cons c t ih =>
    by_cases hc : c = '?'
    · subst hc
      rw [List.count_cons_self, List.replicate_succ, interleave_cutAt_separator, ih]
      rfl
    · rw [List.count_cons_of_ne hc, interleave_cutAt_cons hc, ih]

theorem numberMarkers_eq_interleave (o : Int) (t : Text) :
    Placeholder.numberMarkers o t =
      interleave (cutAt '?' t) (slotTexts o (Placeholder.markerCount t)) := by
  simp only [Placeholder.markerCount]
  induction t generalizing o with
  | nil => rfl
  | cons c t ih =>
    by_cases hc : c = '?'
    · subst hc
      rw [List.count_cons_self, slotTexts, interleave_cutAt_separator, ← ih]
      rfl
    · rw [List.count_cons_of_ne hc, interleave_cutAt_cons hc, ← ih, Placeholder.numberMarkers,
        if_neg hc]

theorem numberMarkers_eq_self {t : Text} (h : Placeholder.markerCount t = 0) (o : Int) :
    Placeholder.numberMarkers o t = t := by
  have hsame := withPlaceholders_sqlite t
  rw [withPlaceholders, h] at hsame
  rw [numberMarkers_eq_interleave, h]
  exact hsame

end Dialect

namespace Placeholder

open Token (takeDigits)

theorem length_ofText_numberMarkers (t : Text) (o : Nat) :
    (Token.ofText (numberMarkers o t)).length + (if SqlFragment.isNumbered t then 1 else 0) ≤
      t.length := by
  induction t generalizing o with
  | nil => simp [numberMarkers, Token.ofText, SqlFragment.isNumbered]
  | cons c t ih =>
    by_cases hc : c = '?'
    · subst hc
      have ht := ih (o + 1)
      have hlength := Token.length_takeDigits (Token.ofText (numberMarkers (o + 1 : Nat) t))
      have hnumbered : SqlFragment.isNumbered ('?' :: t) = SqlFragment.isNumbered t := by
        simp [SqlFragment.isNumbered]
      rw [ofText_numberMarkers_marker, hnumbered, List.length_cons, List.length_cons]
      omega
    · have ht := ih o
      rw [numberMarkers, if_neg hc, Token.ofText]
      by_cases hd : c = '$'
      · subst hd
        have hlength := Token.length_takeDigits (Token.ofText (numberMarkers o t))
        have hdigits := takeDigits_numberMarkers_eq_nil_iff (o := o) (t := t)
        rw [if_pos rfl]
        unfold Token.addDollar
        split
        · rename_i hks
          have hhead : t.head?.any isDecimalDigit = false := by
            rw [hks] at hdigits
            cases h : t.head? with
            | none => rfl
            | some d => simpa using hdigits.1 rfl d h
          simp only [SqlFragment.isNumbered, hhead, Bool.and_false, Bool.false_or, List.length_cons]
          omega
        · rename_i digits rest hsome hks
          rw [hks] at hlength
          have hpos : digits ≠ [] := by simpa using hsome
          have hone : 0 < digits.length := List.length_pos_iff.2 hpos
          simp only [List.length_cons] at hlength ⊢
          split at ht <;> split <;> omega
      · have hnumbered : SqlFragment.isNumbered (c :: t) = SqlFragment.isNumbered t := by
          simp [SqlFragment.isNumbered, hd]
        rw [if_neg hd, hnumbered, List.length_cons, List.length_cons]
        omega

/-- A text comes out of numbering and of taking the numbers away as it was, exactly when the caller
wrote no numbers and no digit follows a marker. -/
theorem positional_numberMarkers_eq_self_iff (t : Text) :
    positional ['?'] (numberMarkers 0 t) = t ↔
      SqlFragment.isNumbered t = false ∧ MarkersApart t := by
  cases hnumbered : SqlFragment.isNumbered t with
  | false =>
    rw [← Int.natCast_zero, positional_numberMarkers_eq_iff hnumbered]
    simp
  | true =>
    have hshort := length_ofText_numberMarkers t 0
    rw [hnumbered, if_pos rfl, ← length_positional] at hshort
    simp only [reduceCtorEq, false_and, iff_false]
    intro h
    rw [Int.natCast_zero, h] at hshort
    omega

end Placeholder

namespace Target

open Placeholder (markerCount numberMarkers MarkersApart)
open BoundSql.Action

theorem written_eq {sql : String} {vs : List Value} (h : markerCount sql.toList = vs.length)
    (d : Dialect) :
    written d (.text sql) vs =
      .ok { sql := d.render (numberMarkers 0 sql.toList), params := vs, dialect := d } := by
  simp only [written]
  by_cases hnone : d.isNumbered = true ∧ markerCount sql.toList = 0
  · -- the text that is left as it is has no marker to number
    rw [if_pos (by simpa using hnone), Dialect.numberMarkers_eq_self hnone.2]
    cases d with
    | postgres => rfl
    | sqlite => simp [Dialect.isNumbered] at hnone
  · have hrenumber : Placeholder.renumber sql.toList 0 vs.length = .ok (numberMarkers 0 sql.toList) :=
      if_pos (congrArg Int.ofNat h)
    rw [if_neg (by simpa using hnone), hrenumber]
    rfl

theorem render_eq_withPlaceholders_iff (d : Dialect) (t : Text) :
    d.render (numberMarkers 0 t) = d.withPlaceholders t ↔
      (d = .sqlite → SqlFragment.isNumbered t = false ∧ MarkersApart t) := by
  cases d with
  | postgres => simp [Dialect.render, Dialect.withPlaceholders, Dialect.placeholders,
      Dialect.numberMarkers_eq_interleave]
  | sqlite =>
    rw [Dialect.withPlaceholders_sqlite, Dialect.render,
      Placeholder.positional_numberMarkers_eq_self_iff]
    simp

/-- A statement of the caller's that has as many markers as values. The driver is handed one text
with the values in order, at most once, and once if the call ends well. It is the text of the caller
with the placeholders of the dialect in the places of the markers, unless placeholders have no numbers
and the caller wrote a number himself or a digit behind a marker. -/
theorem raw_hands (target : Target) (s : Session) {sql : String} {params : Value} {vs : List Value}
    (hvs : valuesOf params = .ok vs) (hcount : markerCount sql.toList = vs.length) :
    let d := s.context.dialect
    let handed := d.render (numberMarkers 0 sql.toList)
    let r := (target.raw (.text sql) params).exec s
    (∃ k ≤ 1, statements r.2.log = statements s.log ++ List.replicate k (handed, vs) ∧
      ∀ rows, r.1 = .ok rows → k = 1) ∧
    (handed = d.withPlaceholders sql.toList ↔
      (d = .sqlite → SqlFragment.isNumbered sql.toList = false ∧ MarkersApart sql.toList)) ∧
    (d = .sqlite → d.withPlaceholders sql.toList = sql.toList) := by
  refine ⟨?_, render_eq_withPlaceholders_iff _ _, fun hd => ?_⟩
  · have hrun := hands_run target
      { sql := s.context.dialect.render (numberMarkers 0 sql.toList), params := vs,
        dialect := s.context.dialect } s
    unfold raw
    rw [exec_bind_ok (exec_get s), hvs, exec_bind_ok (exec_conclude (.ok vs) s), written_eq hcount,
      exec_bind_ok (exec_conclude (.ok _) s)]
    exact hrun
  · rw [hd, Dialect.withPlaceholders_sqlite]

def answering (d : Dialect) : Session where
  context := { dialect := d }
  driver := .direct
  backend := .canned (some []) [] (.foreign "OSError" "connection lost")

def priceInsert : String := "INSERT INTO t VALUES ('costs $ 5', ?)"

/-- A dollar sign in a literal without a digit behind it is kept. -/
theorem raw_hands_priceInsert :
    valuesOf (.list [.int 1]) = .ok [.int 1] ∧ markerCount priceInsert.toList = 1 ∧
      statements ((raw .database (.text priceInsert) (.list [.int 1])).exec (answering .sqlite)).2.log =
        [(priceInsert.toList, [.int 1])] := by
  have hvalues : valuesOf (.list [.int 1]) = .ok [.int 1] := rfl
  have hcount : markerCount priceInsert.toList = 1 := by decide +kernel
  obtain ⟨⟨k, -, hlog, hok⟩, hkept, hsame⟩ := raw_hands .database (answering .sqlite) hvalues hcount
  have htext := hkept.2 fun _ => by decide +kernel
  obtain rfl := hok [] rfl
  rw [hlog, htext, hsame rfl]
  exact ⟨hvalues, hcount, rfl⟩

/-- An amount in a literal is replaced like a placeholder, and what is stored is another text. -/
theorem raw_loses_amount :
    let sql := "INSERT INTO t VALUES ('costs $5', ?)"
    valuesOf (.list [.int 1]) = .ok [.int 1] ∧ markerCount sql.toList = 1 ∧
      Dialect.sqlite.withPlaceholders sql.toList = sql.toList ∧
      statements ((raw .database (.text sql) (.list [.int 1])).exec (answering .sqlite)).2.log =
        [("INSERT INTO t VALUES ('costs ?', ?)".toList, [.int 1])] :=
  ⟨rfl, by decide +kernel, Dialect.withPlaceholders_sqlite _, rfl⟩

end Target

end BoundSql
