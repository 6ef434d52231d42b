import Mathlib.Order.Interval.Set.Basic
import LoopPlayer.Proofs.Ownership

/-! How the blocks of registrations lie. However their delimiters are closed, a block that starts
inside another one ends no later, so two blocks share no line or one of them has all lines of the
other. A body cuts the blocks in it where it ends, which shortens none of them unless something is
attached to a chain. -/
namespace LoopPlayer.Block
open Text (Line)

variable {lines : List Line}

def span (lines : List Line) (start : Nat) : Set Nat := Set.Ico start (stop lines start)

theorem lastNested {outer inner : Nat} (outerFound : (registered? lines outer).isSome)
    (innerFound : (registered? lines inner).isSome) (after : outer < inner)
    (before : (inner : Int) ≤ last lines outer) : last lines inner ≤ last lines outer := by
  obtain ⟨outerRegistration, outerOpens⟩ := Option.isSome_iff_exists.mp outerFound
  obtain ⟨innerRegistration, innerOpens⟩ := Option.isSome_iff_exists.mp innerFound
  rw [last] at before
  have within : inner < stop lines outer := by omega
  have nested := stopNested outerOpens innerOpens after within
  rw [last, last]
  omega

theorem spansBelow {outer inner : Nat} (outerFound : (registered? lines outer).isSome)
    (innerFound : (registered? lines inner).isSome) (after : outer ≤ inner) :
    span lines outer ∩ span lines inner = ∅ ∨ span lines inner ⊆ span lines outer := by
  rcases Nat.eq_or_lt_of_le after with rfl | later
  · exact .inr (Set.Subset.refl _)
  by_cases before : (inner : Int) ≤ last lines outer
  · have nested := lastNested outerFound innerFound later before
    rw [last, last] at nested
    exact .inr (Set.Ico_subset_Ico after (by omega))
  · refine .inl (Set.eq_empty_iff_forall_notMem.mpr fun index ⟨inOuter, inInner⟩ => before ?_)
    have around := Nat.lt_of_le_of_lt inInner.1 inOuter.2
    rw [last]
    omega

/-- The blocks that a scan comes to: those of the registrations of a program, and in the body of such
a block those of the registrations that it steps over, cut where the body ends. -/
inductive Scanned (lines : List Line) : Registration → Nat → Nat → Prop where
  | program {registration : Registration} {start : Nat}
      (found : registered? lines start = some registration) :
      Scanned lines registration start (registrationStop lines start registration)
  | body {outer registration : Registration} {start upTo first next : Nat}
      (around : Scanned lines outer start upTo)
      (part : .inner registration first next ∈ parts lines (start + 1) upTo) :
      Scanned lines registration first next

namespace Scanned

variable {registration : Registration} {start upTo : Nat}

theorem startRegistered (scanned : Scanned lines registration start upTo) :
    registered? lines start = some registration := by
  cases scanned with
  | program found => exact found
  | body around part => exact ((partsTile lines _ _).partsFound _ part).1

theorem endsAtStop (unattached : Unattached lines) (scanned : Scanned lines registration start upTo) :
    upTo = stop lines start := by
  induction scanned with
  | program found => exact unattached.registrationStops _ _
  | @body outer registration start upTo first next around part ih =>
    have tiles := partsTile lines (start + 1) upTo
    obtain ⟨opens, cut⟩ := tiles.partsFound _ part
    obtain ⟨after, inside, before⟩ := tiles.partsWithin _ part
    have below : first < stop lines start := ih ▸ Nat.lt_of_lt_of_le inside before
    have nested := stopNested around.startRegistered opens after below
    rw [cut, unattached.registrationStops, ih, Nat.min_eq_left nested]

end Scanned

/-- A registration inside the block of another one has a block that ends no later, so that two blocks
are apart or one is inside the other. Where no line is attached to a chain, every block that a scan
comes to has its own end, and so has every registration in it: to cut it there changes nothing. -/
theorem registrationBlocksNest (lines : List Line) :
    (∀ outer inner, (registered? lines outer).isSome → (registered? lines inner).isSome →
      outer < inner → (inner : Int) ≤ last lines outer → last lines inner ≤ last lines outer) ∧
    (∀ first second, (registered? lines first).isSome → (registered? lines second).isSome →
      span lines first ∩ span lines second = ∅ ∨
        span lines first ⊆ span lines second ∨ span lines second ⊆ span lines first) ∧
    (Unattached lines → ∀ registration start upTo, Scanned lines registration start upTo →
      upTo = registrationStop lines start registration ∧
      ∀ inner first, registered? lines first = some inner → start < first → first < upTo →
        min (registrationStop lines first inner) upTo = registrationStop lines first inner) := by
  refine ⟨fun _ _ => lastNested, fun first second firstFound secondFound => ?_,
    fun unattached registration start upTo scanned => ⟨?_, ?_⟩⟩
  · rcases Nat.le_total first second with after | after
    · exact (spansBelow firstFound secondFound after).imp_right .inr
    · rcases spansBelow secondFound firstFound after with apart | inside
      · exact .inl (Set.inter_comm _ _ ▸ apart)
      · exact .inr (.inl inside)
  · rw [scanned.endsAtStop unattached, unattached.registrationStops]
  · intro inner first found after before
    rw [scanned.endsAtStop unattached] at before ⊢
    rw [unattached.registrationStops]
    exact Nat.min_eq_left (stopNested scanned.startRegistered found after before)

def looseBlocks : List Line :=
  ["setTimeout(() => \x7b".toList, "  queueMicrotask(f) \x7d".toList,
    "  requestAnimationFrame(f)".toList, "  requestIdleCallback(() => \x7b".toList, "  \x7d".toList]

theorem looseBlocksNest :
    [0, 1, 2, 3].map (last looseBlocks) = [4, 1, 2, 4] ∧
      last looseBlocks 1 ≤ last looseBlocks 0 ∧ last looseBlocks 3 ≤ last looseBlocks 0 ∧
      (span looseBlocks 1 ∩ span looseBlocks 3 = ∅ ∨
        span looseBlocks 1 ⊆ span looseBlocks 3 ∨ span looseBlocks 3 ⊆ span looseBlocks 1) ∧
      Scanned looseBlocks .idle 3 5 ∧ 5 = registrationStop looseBlocks 3 .idle ∧
      min (registrationStop looseBlocks 1 .microtask) 5 = registrationStop looseBlocks 1 .microtask := by
  obtain ⟨nested, apart, uncut⟩ := registrationBlocksNest looseBlocks
  have ends : [0, 1, 2, 3].map (last looseBlocks) = [4, 1, 2, 4] := by decide +kernel
  have opens : ∀ index ∈ [0, 1, 3], (registered? looseBlocks index).isSome := by decide +kernel
  have unattached : Unattached looseBlocks := by decide +kernel
  have timer : Scanned looseBlocks .timeout 0 5 :=
    .program (show registered? looseBlocks 0 = some .timeout by decide +kernel)
  have idle : Scanned looseBlocks .idle 3 5 := timer.body (by decide +kernel)
  refine ⟨ends, ?_, ?_, ?_, idle, (uncut unattached _ _ _ idle).1, ?_⟩
  · exact nested 0 1 (opens 0 (by decide)) (opens 1 (by decide)) (by decide) (by decide +kernel)
  · exact nested 0 3 (opens 0 (by decide)) (opens 3 (by decide)) (by decide) (by decide +kernel)
  · exact apart 1 3 (opens 1 (by decide)) (opens 3 (by decide))
  · exact (uncut unattached _ _ _ timer).2 .microtask 1 (by decide +kernel) (by decide) (by decide)

end LoopPlayer.Block
