import Mathlib.Data.List.Basic
import Mathlib.Data.List.DropRight
import Mathlib.Data.List.Pairwise
import LoopPlayer.Source.Block

/-! How blocks lie to each other. A line with a registration opens more than it may have closed
before, so its block starts on that line, and a block that starts inside another one ends no later.
The parts of a body are its lines cut into pieces, without gaps and without overlaps. -/
namespace LoopPlayer
open Text (Line strip)

namespace Delimiter

def isPlain (c : Char) : Bool := !isQuote c && c != '/'

theorem barePlain {plain : List Char} (allPlain : plain.all isPlain) (rest : List Char) :
    bareFrom 0 (plain ++ rest) = plain ++ bareFrom 0 rest := by
  induction plain with
  | nil => rfl
  | cons c plain ih =>
    rw [List.all_cons, Bool.and_eq_true, isPlain, Bool.and_eq_true, Bool.not_eq_true', bne_iff_ne]
      at allPlain
    obtain ⟨⟨quote, slash⟩, later⟩ := allPlain
    simp [bareFrom, quote, slash, ih later]

theorem blankPlain {c : Char} (blank : Text.isBlank c) : isPlain c := by
  have unlike (d : Char) (marked : Text.isBlank d = false) : c ≠ d := by
    rintro rfl
    rw [marked] at blank
    cases blank
  simp [isPlain, isQuote, unlike '"' (by decide), unlike '\'' (by decide), unlike '\x60' (by decide),
    unlike '/' (by decide)]

end Delimiter

namespace Registration

theorem openingPlain (registration : Registration) :
    registration.opening.toList.all Delimiter.isPlain := by
  cases registration <;> decide

theorem openingOpens (registration : Registration) :
    registration.opening.toList.any Delimiter.isOpener := by
  cases registration <;> decide

theorem startsOpening {text : List Char} {registration : Registration}
    (found : start? text = some registration) : registration.opening.toList <+: text := by
  simpa using List.find?_some found

end Registration

theorem Text.stripWithin (line : Line) :
    ∃ before after, line = before ++ strip line ++ after ∧ ∀ c ∈ before, Text.isBlank c := by
  obtain ⟨after, ended⟩ := List.rdropWhile_prefix Text.isBlank (Text.dropBlank line)
  refine ⟨line.takeWhile Text.isBlank, after, ?_, fun _ => List.mem_takeWhile_imp⟩
  calc line = line.takeWhile Text.isBlank ++ line.dropWhile Text.isBlank :=
        List.takeWhile_append_dropWhile.symm
    _ = _ := by rw [List.append_assoc]; exact congrArg _ ended.symm

theorem Delimiter.registrationOpens {line : Line} {registration : Registration}
    (found : Registration.start? (strip line) = some registration) : 0 < opened line := by
  -- a registration is no part of a literal or a comment, as only blanks stand before it
  obtain ⟨before, after, whole, blank⟩ := Text.stripWithin line
  obtain ⟨rest, stripped⟩ := Registration.startsOpening found
  obtain ⟨c, listed, opener⟩ := List.any_eq_true.mp registration.openingOpens
  have blanks : before.all isPlain :=
    List.all_eq_true.mpr fun d member => blankPlain (blank d member)
  refine List.countP_pos_iff.mpr ⟨c, ?_, opener⟩
  rw [bare, whole, ← stripped, List.append_assoc, List.append_assoc, barePlain blanks,
    barePlain registration.openingPlain]
  simp [listed]

namespace Block

variable {lines : List Line} {start upTo : Nat}

theorem closingBounds {depth : Int} {started : Bool} {length : Nat}
    (closes : closing? depth started lines = some length) : 0 < length ∧ length ≤ lines.length := by
  induction lines generalizing depth started length with
  | nil => cases closes
  | cons line rest ih =>
    rw [closing?] at closes
    split at closes
    · cases closes
      simp
    · obtain ⟨shorter, later, rfl⟩ := Option.map_eq_some_iff.mp closes
      have bounds := ih later
      simp only [List.length_cons]
      omega

theorem startBeforeStop (inside : start < lines.length) : start < stop lines start := by
  unfold stop
  split
  · next closes =>
    have bounds := closingBounds closes
    omega
  · exact inside

theorem stopInside (lines : List Line) (start : Nat) : stop lines start ≤ max start lines.length := by
  unfold stop
  split
  · next closes =>
    have bounds := closingBounds closes
    rw [List.length_drop] at bounds
    omega
  · exact Nat.le_max_right _ _

theorem chainStopAfter (lines : List Line) (fuel reached : Nat) :
    reached ≤ chainStop lines fuel reached := by
  induction fuel generalizing reached with
  | zero => exact Nat.le_refl _
  | succ fuel ih =>
    rw [chainStop]
    split
    · next line found =>
      have inside := (List.getElem?_eq_some_iff.mp found).1
      split
      · exact Nat.le_trans (Nat.le_of_lt (startBeforeStop inside)) (ih _)
      · exact Nat.le_refl _
    · exact Nat.le_refl _

theorem startBeforeRegistrationStop (registration : Registration) (inside : start < lines.length) :
    start < registrationStop lines start registration := by
  have block := startBeforeStop inside
  cases registration with
  | promise => exact Nat.lt_of_lt_of_le block (chainStopAfter lines _ _)
  | _ => exact block

theorem closingLower {lower depth : Int} (below : lower ≤ depth) {length : Nat}
    (closes : closing? depth true lines = some length) :
    ∃ shorter ≤ length, closing? lower true lines = some shorter := by
  induction lines generalizing lower depth length with
  | nil => cases closes
  | cons line rest ih =>
    simp only [closing?, Bool.true_or, Bool.true_and, decide_eq_true_eq] at closes ⊢
    by_cases ended : lower + Delimiter.opened line - Delimiter.closed line ≤ 0
    · refine ⟨1, ?_, if_pos ended⟩
      split at closes
      · cases closes
        exact Nat.le_refl 1
      · obtain ⟨shorter, -, rfl⟩ := Option.map_eq_some_iff.mp closes
        exact Nat.le_add_left 1 shorter
    · rw [if_neg (by omega)] at closes
      obtain ⟨longer, later, rfl⟩ := Option.map_eq_some_iff.mp closes
      have below : lower + Delimiter.opened line - Delimiter.closed line ≤
          depth + Delimiter.opened line - Delimiter.closed line := by omega
      obtain ⟨shorter, bound, sooner⟩ := ih below later
      exact ⟨shorter + 1, Nat.succ_le_succ bound, by rw [if_neg ended, sooner]; rfl⟩

theorem closingWithin {depth : Int} (open_ : 0 ≤ depth) {length skipped : Nat}
    (closes : closing? depth true lines = some length) (within : skipped < length) :
    ∃ deeper, 0 ≤ deeper ∧ closing? deeper true (lines.drop skipped) = some (length - skipped) := by
  induction skipped generalizing lines depth length with
  | zero => exact ⟨depth, open_, closes⟩
  | succ skipped ih =>
    cases lines with
    | nil => cases closes
    | cons line rest =>
      simp only [closing?, Bool.true_or, Bool.true_and, decide_eq_true_eq] at closes
      split at closes
      · cases closes
        omega
      · obtain ⟨shorter, later, rfl⟩ := Option.map_eq_some_iff.mp closes
        obtain ⟨deeper, opened, rest⟩ := ih (by omega) later (by omega)
        exact ⟨deeper, opened, by rw [List.drop_succ_cons, rest, Nat.add_sub_add_right]⟩

def registered? (lines : List Line) (index : Nat) : Option Registration :=
  Registration.start? (strip (lines[index]?.getD []))

theorem registeredInside {index : Nat} {registration : Registration}
    (found : registered? lines index = some registration) : index < lines.length := by
  by_contra outside
  have nothing : Registration.start? (strip []) = none := by decide
  rw [registered?, List.getElem?_eq_none (Nat.le_of_not_lt outside), Option.getD_none, nothing]
    at found
  cases found

theorem closingRegistered {registration : Registration}
    (found : registered? lines start = some registration) :
    closing? 0 false (lines.drop start) = closing? 0 true (lines.drop start) := by
  -- the first line of a registration's block opens it
  have inside := registeredInside found
  rw [registered?, List.getElem?_eq_getElem inside, Option.getD_some] at found
  have opens := Delimiter.registrationOpens found
  rw [List.drop_eq_getElem_cons inside]
  simp only [closing?, opens, decide_true, Bool.or_true]

theorem stopNested {inner : Nat} {outerRegistration innerRegistration : Registration}
    (outerFound : registered? lines start = some outerRegistration)
    (innerFound : registered? lines inner = some innerRegistration)
    (after : start < inner) (before : inner < stop lines start) :
    stop lines inner ≤ stop lines start := by
  have inside := registeredInside innerFound
  cases closes : closing? 0 true (lines.drop start) with
  | none =>
    have whole : stop lines start = lines.length := by
      rw [stop, closingRegistered outerFound, closes]
    rw [whole]
    exact Nat.le_trans (stopInside lines inner) (Nat.max_le.mpr ⟨Nat.le_of_lt inside, Nat.le_refl _⟩)
  | some length =>
    have whole : stop lines start = start + length := by
      rw [stop, closingRegistered outerFound, closes]
    rw [whole] at before ⊢
    obtain ⟨deeper, opened, later⟩ :=
      closingWithin (Int.le_refl 0) closes (show inner - start < length by omega)
    rw [List.drop_drop, Nat.add_sub_cancel' (Nat.le_of_lt after)] at later
    obtain ⟨shorter, bound, sooner⟩ := closingLower opened later
    have part : stop lines inner = inner + shorter := by
      rw [stop, closingRegistered innerFound, sooner]
    omega

namespace Part

def first : Part → Nat
  | line index => index
  | inner _ start _ => start

def next : Part → Nat
  | line index => index + 1
  | inner _ _ stop => stop

def Found (lines : List Line) (upTo : Nat) : Part → Prop
  | line index => registered? lines index = none
  | inner registration start stop => registered? lines start = some registration ∧
      stop = min (registrationStop lines start registration) upTo

end Part

/-- Parts that cut the lines from one index up to another into pieces. -/
inductive Tiles (lines : List Line) (upTo : Nat) : Nat → List Part → Prop where
  | done {index : Nat} (reached : upTo ≤ index) : Tiles lines upTo index []
  | line {index : Nat} {rest : List Part} (before : index < upTo)
      (found : registered? lines index = none) (tail : Tiles lines upTo (index + 1) rest) :
      Tiles lines upTo index (.line index :: rest)
  | inner {index : Nat} {rest : List Part} {registration : Registration} (before : index < upTo)
      (found : registered? lines index = some registration)
      (tail : Tiles lines upTo (min (registrationStop lines index registration) upTo) rest) :
      Tiles lines upTo index
        (.inner registration index (min (registrationStop lines index registration) upTo) :: rest)

theorem partsFromTile {fuel index : Nat} (enough : upTo - index ≤ fuel) :
    Tiles lines upTo index (partsFrom lines upTo fuel index) := by
  induction fuel generalizing index with
  | zero => exact .done (by omega)
  | succ fuel ih =>
    rw [partsFrom]
    split
    · next before =>
      split
      · next found => exact .line before found (ih (by omega))
      · next registration found =>
        have later := startBeforeRegistrationStop registration (registeredInside found)
        exact .inner before found (ih (by omega))
    · next reached => exact .done (Nat.le_of_not_lt reached)

theorem partsTile (lines : List Line) (start upTo : Nat) :
    Tiles lines upTo start (parts lines start upTo) := partsFromTile (Nat.le_refl _)

namespace Tiles

variable {index : Nat} {all : List Part}

theorem partsWithin (tiles : Tiles lines upTo index all) :
    ∀ part ∈ all, index ≤ part.first ∧ part.first < part.next ∧ part.next ≤ upTo := by
  induction tiles with
  | done => simp
  | line before _ _ ih =>
    refine List.forall_mem_cons.mpr ⟨⟨Nat.le_refl _, Nat.lt_succ_self _, before⟩, ?_⟩
    intro part member
    have bounds := ih part member
    omega
  | @inner _ _ registration before found _ ih =>
    have after := startBeforeRegistrationStop registration (registeredInside found)
    have block := Nat.lt_min.mpr ⟨after, before⟩
    refine List.forall_mem_cons.mpr ⟨⟨Nat.le_refl _, block, Nat.min_le_right _ _⟩, ?_⟩
    intro part member
    have bounds := ih part member
    omega

theorem inOrder (tiles : Tiles lines upTo index all) :
    all.Pairwise fun a b => a.next ≤ b.first := by
  induction tiles with
  | done => exact .nil
  | line _ _ tail ih => exact .cons (fun part member => (tail.partsWithin part member).1) ih
  | inner _ _ tail ih => exact .cons (fun part member => (tail.partsWithin part member).1) ih

theorem partsApart (tiles : Tiles lines upTo index all) {a b : Part} (first : a ∈ all)
    (second : b ∈ all)
    (different : a ≠ b) : a.next ≤ b.first ∨ b.next ≤ a.first := by
  have either : all.Pairwise fun a b => a.next ≤ b.first ∨ b.next ≤ a.first :=
    tiles.inOrder.imp Or.inl
  have : Std.Symm fun a b : Part => a.next ≤ b.first ∨ b.next ≤ a.first := ⟨fun _ _ => Or.symm⟩
  exact either.forall first second different

theorem linesCovered (tiles : Tiles lines upTo index all) {line : Nat} (after : index ≤ line)
    (before : line < upTo) : ∃ part ∈ all, part.first ≤ line ∧ line < part.next := by
  induction tiles with
  | done => omega
  | @line index rest _ _ _ ih =>
    rcases Nat.eq_or_lt_of_le after with rfl | later
    · exact ⟨.line index, by simp, Nat.le_refl _, Nat.lt_succ_self _⟩
    · obtain ⟨part, member, around⟩ := ih later
      exact ⟨part, List.mem_cons_of_mem _ member, around⟩
  | @inner start _ registration _ _ _ ih =>
    by_cases inside : line < min (registrationStop lines start registration) upTo
    · exact ⟨_, List.mem_cons_self, after, inside⟩
    · obtain ⟨part, member, around⟩ := ih (Nat.le_of_not_lt inside)
      exact ⟨part, List.mem_cons_of_mem _ member, around⟩

theorem partsFound (tiles : Tiles lines upTo index all) : ∀ part ∈ all, part.Found lines upTo := by
  induction tiles with
  | done => simp
  | line _ found _ ih => exact List.forall_mem_cons.mpr ⟨found, ih⟩
  | inner _ found _ ih => exact List.forall_mem_cons.mpr ⟨⟨found, rfl⟩, ih⟩

end Tiles
end Block
end LoopPlayer
