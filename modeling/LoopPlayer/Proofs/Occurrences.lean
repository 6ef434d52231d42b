import Mathlib.Algebra.Order.BigOperators.Group.List
import Mathlib.Algebra.Order.Ring.Nat
import LoopPlayer.Proofs.Blocks
import LoopPlayer.Source.Logging

/-! How often a text occurs in another. What is cut out of a text has no more occurrences in all than
the text itself, so a text prints no more than it has logging calls, and neither do its lines. -/
namespace LoopPlayer

namespace Text

def occurrences (part : List Char) : List Char → Nat
  | [] => 0
  | c :: rest => (if part.isPrefixOf (c :: rest) then 1 else 0) + occurrences part rest

variable {part : List Char}

theorem occurrencesTail (part : List Char) (c : Char) (rest : List Char) :
    occurrences part rest ≤ occurrences part (c :: rest) := Nat.le_add_left _ _

theorem occurrencesAppend (part before after : List Char) :
    occurrences part before + occurrences part after ≤ occurrences part (before ++ after) := by
  induction before with
  | nil => exact Nat.le_of_eq (Nat.zero_add _)
  | cons c before ih =>
    have longer : part.isPrefixOf (c :: before) → part.isPrefixOf (c :: (before ++ after)) := by
      rw [List.isPrefixOf_iff_prefix, List.isPrefixOf_iff_prefix]
      exact fun starts => starts.trans (List.prefix_append (c :: before) after)
    rw [List.cons_append, occurrences, occurrences]
    by_cases starts : part.isPrefixOf (c :: before)
    · rw [if_pos starts, if_pos (longer starts)]
      omega
    · rw [if_neg starts]
      omega

theorem occurrencesDrop (part text : List Char) (count : Nat) :
    occurrences part (text.drop count) ≤ occurrences part text := by
  have split := occurrencesAppend part (text.take count) (text.drop count)
  rw [List.take_append_drop] at split
  omega

theorem occurrencesInfix {inner text : List Char} (inside : inner <:+: text) :
    occurrences part inner ≤ occurrences part text := by
  obtain ⟨before, after, rfl⟩ := inside
  have outer := occurrencesAppend part (before ++ inner) after
  have middle := occurrencesAppend part before inner
  omega

theorem occurrencesStrip (part : List Char) (line : Line) :
    occurrences part (strip line) ≤ occurrences part line := by
  obtain ⟨before, after, whole, -⟩ := stripWithin line
  exact occurrencesInfix ⟨before, after, whole.symm⟩

theorem occursCounted {text : List Char} (nonempty : part ≠ []) (occurs : occurs part text) :
    0 < occurrences part text := by
  induction text with
  | nil =>
    rw [Text.occurs, List.isEmpty_iff] at occurs
    exact absurd occurs nonempty
  | cons c rest ih =>
    rw [Text.occurs, Bool.or_eq_true] at occurs
    rw [occurrences]
    rcases occurs with here | later
    · rw [if_pos here]
      omega
    · have found := ih later
      omega

theorem piecesNonempty (separator : List Char) (skip : Nat) (text : List Char) :
    piecesFrom separator skip text ≠ [] := by
  induction text generalizing skip with
  | nil => cases skip <;> exact List.cons_ne_nil _ _
  | cons c text ih =>
    cases skip with
    | succ skip => exact ih skip
    | zero =>
      rw [piecesFrom]
      split
      · exact List.cons_ne_nil _ _
      · cases piecesFrom separator 0 text <;> exact List.cons_ne_nil _ _

theorem firstPiece {separator text first : List Char} {rest : List (List Char)}
    (cut : piecesFrom separator 0 text = first :: rest) : first <+: text := by
  induction text generalizing first rest with
  | nil =>
    rw [piecesFrom, List.cons.injEq] at cut
    exact cut.1 ▸ List.nil_prefix
  | cons c text ih =>
    rw [piecesFrom] at cut
    split at cut
    · rw [List.cons.injEq] at cut
      exact cut.1 ▸ List.nil_prefix
    · cases later : piecesFrom separator 0 text with
      | nil =>
        rw [later, consFirst, List.cons.injEq] at cut
        rw [← cut.1]
        exact (List.prefix_cons_inj c).mpr List.nil_prefix
      | cons piece others =>
        rw [later, consFirst, List.cons.injEq] at cut
        rw [← cut.1]
        exact (List.prefix_cons_inj c).mpr (ih later)

theorem occurrencesPiecesFrom (part separator : List Char) (skip : Nat) (text : List Char) :
    ((piecesFrom separator skip text).map (occurrences part)).sum ≤ occurrences part text := by
  induction text generalizing skip with
  | nil => cases skip <;> exact Nat.le_refl _
  | cons c text ih =>
    cases skip with
    | succ skip => exact Nat.le_trans (ih skip) (occurrencesTail part c text)
    | zero =>
      rw [piecesFrom]
      split
      · rw [List.map_cons, List.sum_cons, occurrences, Nat.zero_add]
        exact Nat.le_trans (ih _) (occurrencesTail part c text)
      · have later := ih 0
        cases cut : piecesFrom separator 0 text with
        | nil =>
          have bare := occurrencesAppend part [c] text
          simpa [consFirst] using Nat.le_of_add_right_le bare
        | cons first rest =>
          rw [cut, List.map_cons, List.sum_cons] at later
          have longer : part.isPrefixOf (c :: first) → part.isPrefixOf (c :: text) := by
            rw [List.isPrefixOf_iff_prefix, List.isPrefixOf_iff_prefix]
            exact fun starts => starts.trans ((List.prefix_cons_inj c).mpr (firstPiece cut))
          rw [consFirst, List.map_cons, List.sum_cons, occurrences, occurrences]
          by_cases starts : part.isPrefixOf (c :: first)
          · rw [if_pos starts, if_pos (longer starts)]
            omega
          · rw [if_neg starts]
            omega

theorem occurrencesPieces (part separator text : List Char) :
    ((pieces separator text).map (occurrences part)).sum ≤ occurrences part text :=
  occurrencesPiecesFrom part separator 0 text

theorem occurrencesLines (part text : List Char) :
    ((lines text).map (occurrences part)).sum ≤ occurrences part text := by
  have shorter (line : List Char) : occurrences part (dropReturn line) ≤ occurrences part line := by
    unfold dropReturn
    split
    · exact occurrencesInfix (List.dropLast_prefix line).isInfix
    · exact Nat.le_refl _
  rw [lines, List.map_map]
  refine Nat.le_trans ?_ (occurrencesPieces part ['\n'] text)
  exact List.sum_le_sum fun line _ => shorter line

end Text

namespace Logging
open Text (occurrences occurrencesTail)

theorem printedCalls (skip : Nat) (text : List Char) :
    (printedFrom skip text).length ≤ occurrences opening text := by
  induction text generalizing skip with
  | nil => cases skip <;> exact Nat.le_refl _
  | cons c text ih =>
    cases skip with
    | succ skip => exact Nat.le_trans (ih skip) (occurrencesTail opening c text)
    | zero =>
      rw [printedFrom]
      split
      · rename_i called
        have opens : opening.isPrefixOf (c :: text) := by
          by_contra other
          rw [call?, if_neg other] at called
          cases called
        rw [List.length_cons, occurrences, if_pos opens, Nat.add_comm]
        exact Nat.add_le_add_left (ih _) 1
      · exact Nat.le_trans (ih 0) (occurrencesTail opening c text)

theorem outputsCalls (text : List Char) : (outputs text).length ≤ occurrences opening text := by
  rw [outputs]
  split
  · rename_i silent
    exact Text.occursCounted (by decide) (Bool.and_eq_true_iff.mp silent).2
  · exact printedCalls 0 text

end Logging
end LoopPlayer
