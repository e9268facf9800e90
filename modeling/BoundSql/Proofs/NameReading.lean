import BoundSql.Proofs.NameGrammar
import BoundSql.Proofs.QuotedName
import Mathlib.Data.List.Nodup
/-!
Which names are one name once they are quoted. Of a name its parts stay, and of a part only the name
characters in it; the parts can be read from the quoted name again, so nothing else is told apart and
nothing of them is lost.
-/

namespace BoundSql

namespace Identifier

def keptPart (part : Text) : Text :=
  if part = ['*'] then part else (trim part).filter isNameChar

def keptParts (name : Text) : List Text :=
  (cutAt '.' (trim name)).map keptPart

def writtenPart (w : Text) : Text :=
  if w = ['*'] then w else quotedPart w

def IsKept (w : Text) : Prop :=
  IsPartBody w ∨ w = ['*']

theorem IsPartBody.ne_star {w : Text} (h : IsPartBody w) : w ≠ ['*'] := by
  rintro rfl
  exact absurd (h.2 '*' (by simp)) (by decide)

theorem quotePart_kept {limit : Int} {part q : Text} (h : quotePart limit part = .ok q) :
    IsPartBody (keptPart part) ∧ q = writtenPart (keptPart part) := by
  obtain ⟨hbody, rfl⟩ := quotePart_eq_ok h
  have hstar : part ≠ ['*'] := by
    rintro rfl
    exact hbody.1 (by decide)
  rw [keptPart, if_neg hstar, writtenPart, if_neg hbody.ne_star]
  exact ⟨hbody, rfl⟩

theorem quoteParts_kept {limit : Int} {first : Bool} {parts qs : List Text}
    (h : quoteParts limit first parts = .ok qs) :
    (∀ part ∈ parts, IsKept (keptPart part)) ∧
      qs = parts.map fun part => writtenPart (keptPart part) := by
  fun_induction quoteParts limit first parts generalizing qs with
  | case1 =>
    cases h
    simp
  | case2 first part hs =>
    cases h
    obtain ⟨rfl, -⟩ : part = ['*'] ∧ first = false := by simpa using hs
    exact ⟨by simp [IsKept, keptPart], rfl⟩
  | case3 first part hs =>
    obtain ⟨q, hq, rfl⟩ := Outcome.map_eq_ok.1 h
    obtain ⟨hbody, rfl⟩ := quotePart_kept hq
    exact ⟨List.forall_mem_singleton.2 (.inl hbody), rfl⟩
  | case4 first part parts hne ih =>
    obtain ⟨q, hq, h⟩ := Outcome.bind_eq_ok.1 h
    obtain ⟨rest, hrest, rfl⟩ := Outcome.map_eq_ok.1 h
    obtain ⟨hbody, rfl⟩ := quotePart_kept hq
    obtain ⟨hkept, rfl⟩ := ih hrest
    exact ⟨List.forall_mem_cons.2 ⟨.inl hbody, hkept⟩, rfl⟩

theorem partsFrom_quotedBody {w t : Text} {ws : List Text} (hw : ∀ c ∈ w, isNameChar c)
    (ht : t.head? ≠ some '"') (h : partsFrom false t = some ([], ws)) :
    partsFrom true (w ++ '"' :: t) = some (w, ws) := by
  have hquote : '"' ∉ w := fun hm => absurd (hw _ hm) (by decide)
  have hread := partsFrom_doubled_append w ht h
  rwa [doubled_eq_self hquote] at hread

theorem partsFrom_writtenPart {w t : Text} {ws : List Text} (hw : IsKept w)
    (ht : t.head? ≠ some '"') (h : partsFrom false t = some ([], ws)) :
    partsFrom false (writtenPart w ++ t) = some ([], w :: ws) := by
  rcases hw with hw | rfl
  · have hbody := partsFrom_quotedBody hw.2 ht h
    simp [writtenPart, hw.ne_star, quotedPart, partsFrom, hbody]
  · simp [writtenPart, partsFrom, h]

theorem partsFrom_joinWith {ws : List Text} (h : ∀ w ∈ ws, IsKept w) :
    partsFrom false (joinWith ['.'] (ws.map writtenPart)) = some ([], ws) := by
  induction ws with
  | nil => rfl
  | cons w ws ih =>
    obtain ⟨hw, hws⟩ := List.forall_mem_cons.1 h
    have hrest := ih hws
    cases ws with
    | nil => simpa [joinWith] using partsFrom_writtenPart hw (t := []) (by simp) rfl
    | cons u ws =>
      have hdot : partsFrom false ('.' :: joinWith ['.'] ((u :: ws).map writtenPart)) =
          some ([], u :: ws) := by
        simpa [partsFrom] using hrest
      simpa [joinWith] using partsFrom_writtenPart hw (by simp) hdot

theorem quote_kept {limit : Int} {name q : Text} (h : quote limit name = .ok q) :
    (∀ w ∈ keptParts name, IsKept w) ∧ q = joinWith ['.'] ((keptParts name).map writtenPart) := by
  simp only [quote] at h
  split at h
  · cases h
  · obtain ⟨qs, hqs, rfl⟩ := Outcome.map_eq_ok.1 h
    obtain ⟨hkept, rfl⟩ := quoteParts_kept hqs
    exact ⟨List.forall_mem_map.2 hkept, by rw [keptParts, List.map_map]; rfl⟩

theorem nodup_quoted_iff {limit : Int} {columns : List String} {names : List Text}
    (h : columns.mapM (quoteName limit) = .ok names) :
    names.Nodup ↔ (columns.map fun c => keptParts c.toList).Nodup := by
  have hwritten : names =
      (columns.map fun c => keptParts c.toList).map fun ws => joinWith ['.'] (ws.map writtenPart) := by
    rw [List.map_map, ← List.map_id names]
    exact Outcome.map_of_mapM h fun c q hq => (quote_kept (Outcome.mapError_eq_ok.1 hq)).2
  have hread : names.map (partsFrom false) =
      (columns.map fun c => keptParts c.toList).map fun ws => some ([], ws) := by
    rw [List.map_map]
    refine Outcome.map_of_mapM h fun c q hq => ?_
    obtain ⟨hkept, rfl⟩ := quote_kept (Outcome.mapError_eq_ok.1 hq)
    exact partsFrom_joinWith hkept
  constructor
  · intro hnames
    rw [hwritten] at hnames
    exact List.Nodup.of_map _ hnames
  · intro hparts
    refine List.Nodup.of_map (partsFrom false) ?_
    rw [hread]
    exact hparts.map fun ws us he => by simpa using he

end Identifier

end BoundSql
