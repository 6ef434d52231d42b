import LoopPlayer.Proofs.Blocks
import LoopPlayer.Proofs.Nesting

/-! The blocks that timers claim. A timer takes over the blocks of the microtasks registered in its
body, and no line of them is looked at again. Line by line, what is claimed only grows, a line
claims nothing above itself, and no two claimed blocks share a line. -/
namespace LoopPlayer.Source
open Text (Line strip)
open Block (Part parts partsTile registered? registeredInside registrationStop stop stopNested)

def covers (index : Nat) (block : Registration × Nat × Nat) : Bool :=
  block.2.1 ≤ index && index < block.2.2

def Apart (a b : Registration × Nat × Nat) : Prop := a.2.2 ≤ b.2.1 ∨ b.2.2 ≤ a.2.1

theorem coversIff {index : Nat} {block : Registration × Nat × Nat} :
    covers index block ↔ block.2.1 ≤ index ∧ index < block.2.2 := by simp [covers]

variable {lines : List Line}

theorem withinBlocks (blocks : List (Registration × Nat × Nat)) (index : Nat) :
    within (blocks.map Prod.snd) index = blocks.any (covers index) := by
  rw [within, List.any_map]
  rfl

theorem nestedNone {registration : Registration} (other : registration ≠ .timeout)
    (lines : List Line) (start upTo : Nat) : nestedBlocks lines start upTo registration = [] := by
  refine List.eq_nil_iff_forall_not_mem.mpr fun block member => other ?_
  have nests := (memNestedBlocks.mp member).2
  cases registration <;> first | rfl | cases nests

def timerBlocks (lines : List Line) (start : Nat) : List (Registration × Nat × Nat) :=
  nestedBlocks lines start (stop lines start) .timeout

theorem timerBlockFound {start : Nat} {block : Registration × Nat × Nat}
    (member : block ∈ timerBlocks lines start) : registered? lines block.2.1 = some block.1 :=
  ((partsTile lines _ _).partsFound _ (memNestedBlocks.mp member).1).1

theorem timerBlockBounds {start : Nat} {block : Registration × Nat × Nat}
    (member : block ∈ timerBlocks lines start) :
    start < block.2.1 ∧ block.2.1 < block.2.2 ∧ block.2.2 ≤ stop lines start :=
  (partsTile lines _ _).partsWithin _ (memNestedBlocks.mp member).1

theorem timerBlocksApart (lines : List Line) (start : Nat) :
    (timerBlocks lines start).Pairwise Apart := by
  refine List.pairwise_filterMap.mpr ((partsTile lines _ _).inOrder.imp ?_)
  intro a b before x fromA y fromB
  cases a <;> cases b <;>
    simp only [Option.ite_none_right_eq_some, Option.some.injEq, reduceCtorEq] at fromA fromB
  obtain ⟨-, rfl⟩ := fromA
  obtain ⟨-, rfl⟩ := fromB
  exact .inl before

theorem enclosingPart {outer inner : Nat} (outerFound : registered? lines outer = some .timeout)
    (innerFound : registered? lines inner = some .timeout) (after : outer < inner)
    (before : inner < stop lines outer)
    (free : ∀ block ∈ timerBlocks lines outer, covers inner block = false) :
    ∃ registration first next,
      .inner registration first next ∈ parts lines (outer + 1) (stop lines outer) ∧
        ¬ registration.nestsIn .timeout ∧ first ≤ inner ∧ stop lines inner ≤ next := by
  have tiles := partsTile lines (outer + 1) (stop lines outer)
  obtain ⟨part, member, around⟩ := tiles.linesCovered after before
  have found := tiles.partsFound part member
  cases part with
  | line index =>
    obtain rfl : inner = index := by
      simp only [Part.first, Part.next] at around
      omega
    rw [Part.Found, innerFound] at found
    cases found
  | inner registration first next =>
    simp only [Part.first, Part.next] at around
    obtain ⟨opened, cut⟩ := found
    -- a part whose work nests is claimed, and the inner timer is in no claimed block
    have unnested : ¬ registration.nestsIn .timeout := by
      intro nests
      have uncovered := free _ (memNestedBlocks.mpr ⟨member, nests⟩)
      exact Bool.eq_false_iff.mp uncovered (coversIff.mpr around)
    have whole : registrationStop lines first registration = stop lines first := by
      cases registration with
      | promise => exact absurd rfl unnested
      | _ => rfl
    rw [whole] at cut
    have within : inner < stop lines first := (Nat.lt_min.mp (cut ▸ around.2)).1
    refine ⟨registration, first, next, member, unnested, around.1, ?_⟩
    rw [cut]
    refine Nat.le_min.mpr ⟨?_, stopNested outerFound innerFound after before⟩
    rcases Nat.eq_or_lt_of_le around.1 with rfl | later
    · exact Nat.le_refl _
    · exact stopNested opened innerFound later within

theorem timersApart {outer inner : Nat} (outerFound : registered? lines outer = some .timeout)
    (innerFound : registered? lines inner = some .timeout) (after : outer < inner)
    (free : ∀ block ∈ timerBlocks lines outer, covers inner block = false)
    {a b : Registration × Nat × Nat} (ofOuter : a ∈ timerBlocks lines outer)
    (ofInner : b ∈ timerBlocks lines inner) : Apart a b := by
  have outerBounds := timerBlockBounds ofOuter
  have innerBounds := timerBlockBounds ofInner
  by_cases before : inner < stop lines outer
  · obtain ⟨registration, first, next, member, unnested, above, ends⟩ :=
      enclosingPart outerFound innerFound after before free
    have nested := memNestedBlocks.mp ofOuter
    have other : Part.inner a.1 a.2.1 a.2.2 ≠ .inner registration first next := by
      intro same
      rw [Part.inner.injEq] at same
      exact unnested (same.1 ▸ nested.2)
    rcases (partsTile lines _ _).partsApart nested.1 member other with order | order
    · exact .inl (Nat.le_trans order (Nat.le_trans above (Nat.le_of_lt innerBounds.1)))
    · exact .inr (Nat.le_trans innerBounds.2.2 (Nat.le_trans ends order))
  · exact .inl (by omega)

theorem registeredSilent {index : Nat} {registration : Registration}
    (found : registered? lines index = some registration) :
    Logging.opening.isPrefixOf (lines[index]?.getD []) = false := by
  obtain ⟨before, after, whole, blank⟩ := Text.stripWithin (lines[index]?.getD [])
  obtain ⟨rest, stripped⟩ := Registration.startsOpening found
  rw [Bool.eq_false_iff, Ne, List.isPrefixOf_iff_prefix]
  rintro ⟨tail, logged⟩
  have called : (lines[index]?.getD []).head? = some 'c' := by
    rw [← logged, List.head?_append, show Logging.opening.head? = some 'c' by decide, Option.some_or]
  rw [whole, ← stripped, List.append_assoc, List.append_assoc] at called
  cases before with
  | nil =>
    have other : registration.opening.toList.head? ≠ some 'c' := by cases registration <;> decide
    obtain ⟨c, first⟩ : ∃ c, registration.opening.toList.head? = some c :=
      Option.isSome_iff_exists.mp (by cases registration <;> decide)
    rw [List.nil_append, List.head?_append, first, Option.some_or, ← first] at called
    exact other called
  | cons c before =>
    have first : c = 'c' := Option.some.inj called
    exact absurd (blank c (by simp)) (by subst first; decide)

def jobsAt (lines : List Line) (index : Nat) : List Job :=
  if Logging.opening.isPrefixOf (lines[index]?.getD []) then
    [immediate (lines[index]?.getD []) index]
  else
    match registered? lines index with
    | none => []
    | some registration =>
      jobs lines index (registrationStop lines index registration) registration

theorem jobsAtFound {index : Nat} {registration : Registration}
    (found : registered? lines index = some registration) :
    jobsAt lines index =
      jobs lines index (registrationStop lines index registration) registration := by
  rw [jobsAt, registeredSilent found, found]
  rfl

def claimedBy (lines : List Line) (job : Job) : List (Registration × Nat × Nat) :=
  if job.lane = .macrotask then timerBlocks lines (job.line - 1).toNat else []

def reported (lines : List Line) : Nat → List Job
  | 0 => []
  | index + 1 =>
    if ((reported lines index).flatMap (claimedBy lines)).any (covers index) then
      reported lines index
    else reported lines index ++ jobsAt lines index

def claimed (lines : List Line) (index : Nat) : List (Registration × Nat × Nat) :=
  (reported lines index).flatMap (claimedBy lines)

theorem reportedNext (lines : List Line) (index : Nat) :
    reported lines (index + 1) = if (claimed lines index).any (covers index) then
      reported lines index else reported lines index ++ jobsAt lines index := rfl

theorem jobClaims {index : Nat} {registration : Registration} {job : Job}
    (member : job ∈ jobs lines index (registrationStop lines index registration) registration) :
    claimedBy lines job =
      nestedBlocks lines index (registrationStop lines index registration) registration := by
  obtain ⟨task, own, rfl⟩ := List.mem_map.mp member
  have lane : task.lane = registration.lane := tasksLane own
  by_cases timer : registration = .timeout
  · subst timer
    obtain rfl := List.mem_singleton.mp own
    refine (if_pos lane).trans ?_
    simp only [deferred, Int.add_sub_cancel, Int.toNat_natCast]
    rfl
  · have other : registration.lane ≠ .macrotask := by
      cases registration <;> first | exact absurd rfl timer | exact Lane.noConfusion
    rw [claimedBy, if_neg (by rw [lane]; exact other), nestedNone timer]

theorem jobsClaimed (index : Nat) (registration : Registration) :
    (jobs lines index (registrationStop lines index registration) registration).flatMap
        (claimedBy lines) =
      nestedBlocks lines index (registrationStop lines index registration) registration := by
  rw [List.flatMap_congr fun job member => jobClaims member]
  cases registration with
  | promise =>
    rw [nestedNone Registration.noConfusion, List.flatMap_eq_nil_iff]
    exact fun _ _ => rfl
  | _ => exact List.flatMap_singleton _ _

theorem jobsAtClaimed (lines : List Line) (index : Nat) :
    (jobsAt lines index).flatMap (claimedBy lines) =
      if registered? lines index = some .timeout then timerBlocks lines index else [] := by
  cases found : registered? lines index with
  | none =>
    unfold jobsAt
    split <;> simp [found, claimedBy, immediate]
  | some registration =>
    rw [jobsAtFound found, jobsClaimed]
    split
    · next timer =>
      cases timer
      rfl
    · next other => exact nestedNone (fun timer => other (congrArg some timer)) _ _ _

theorem claimedNext (lines : List Line) (index : Nat) :
    claimed lines (index + 1) = claimed lines index ∨
      registered? lines index = some .timeout ∧
      (∀ block ∈ claimed lines index, covers index block = false) ∧
      claimed lines (index + 1) = claimed lines index ++ timerBlocks lines index := by
  by_cases covered : (claimed lines index).any (covers index)
  · left
    rw [claimed, reportedNext, if_pos covered, claimed]
  · have step : claimed lines (index + 1) = claimed lines index ++
        if registered? lines index = some .timeout then timerBlocks lines index else [] := by
      rw [claimed, reportedNext, if_neg covered, List.flatMap_append, jobsAtClaimed, claimed]
    by_cases timer : registered? lines index = some .timeout
    · rw [if_pos timer] at step
      refine .inr ⟨timer, fun block member => ?_, step⟩
      exact Bool.eq_false_iff.mpr fun inside => covered (List.any_eq_true.mpr ⟨block, member, inside⟩)
    · rw [if_neg timer, List.append_nil] at step
      exact .inl step

theorem claimedSource {index : Nat} {block : Registration × Nat × Nat}
    (member : block ∈ claimed lines index) :
    ∃ timer < index, registered? lines timer = some .timeout ∧ block ∈ timerBlocks lines timer ∧
      timerBlocks lines timer ⊆ claimed lines index := by
  induction index with
  | zero => cases member
  | succ index ih =>
    have earlier (old : block ∈ claimed lines index)
        (kept : claimed lines index ⊆ claimed lines (index + 1)) :
        ∃ timer < index + 1, registered? lines timer = some .timeout ∧
          block ∈ timerBlocks lines timer ∧ timerBlocks lines timer ⊆ claimed lines (index + 1) := by
      obtain ⟨timer, above, found, inside, claims⟩ := ih old
      exact ⟨timer, by omega, found, inside, fun _ member => kept (claims member)⟩
    rcases claimedNext lines index with same | ⟨found, -, more⟩
    · exact earlier (same ▸ member) (fun _ member => same ▸ member)
    · rw [more] at member earlier ⊢
      rcases List.mem_append.mp member with old | new
      · exact earlier old (List.subset_append_left _ _)
      · exact ⟨index, by omega, found, new, List.subset_append_right _ _⟩

theorem claimedBounds {index : Nat} {block : Registration × Nat × Nat}
    (member : block ∈ claimed lines index) :
    registered? lines block.2.1 = some block.1 ∧ block.2.1 < block.2.2 := by
  obtain ⟨timer, -, -, inside, -⟩ := claimedSource member
  exact ⟨timerBlockFound inside, (timerBlockBounds inside).2.1⟩

theorem claimedApart (lines : List Line) (index : Nat) : (claimed lines index).Pairwise Apart := by
  induction index with
  | zero => exact .nil
  | succ index ih =>
    rcases claimedNext lines index with same | ⟨found, free, more⟩
    · rwa [same]
    · rw [more]
      refine List.pairwise_append.mpr ⟨ih, timerBlocksApart lines index, fun a old b new => ?_⟩
      obtain ⟨timer, above, opened, inside, claims⟩ := claimedSource old
      exact timersApart opened found above (fun block member => free block (claims member)) inside new

theorem coveredAbove {index later : Nat} (below : index ≤ later) :
    (claimed lines later).any (covers index) = (claimed lines index).any (covers index) := by
  induction later, below using Nat.le_induction with
  | base => rfl
  | succ later below ih =>
    rcases claimedNext lines later with same | ⟨-, -, more⟩
    · rw [same, ih]
    · have beyond : (timerBlocks lines later).any (covers index) = false := by
        refine List.any_eq_false.mpr fun block member inside => ?_
        have bounds := timerBlockBounds member
        have around := coversIff.mp inside
        omega
      rw [more, List.any_append, beyond, Bool.or_false, ih]

theorem jobsFromNext {index : Nat} (inside : index < lines.length) (rest : List (Line × Nat))
    (heard : ¬ (claimed lines index).any (covers index)) :
    jobsFrom lines ((claimed lines index).map Prod.snd) ((lines[index], index) :: rest) =
      jobsAt lines index ++ jobsFrom lines ((claimed lines (index + 1)).map Prod.snd) rest := by
  have line : lines[index]?.getD [] = lines[index] := by
    rw [List.getElem?_eq_getElem inside, Option.getD_some]
  have more : claimed lines (index + 1) =
      claimed lines index ++ (jobsAt lines index).flatMap (claimedBy lines) := by
    rw [claimed, reportedNext, if_neg heard, List.flatMap_append, claimed]
  rw [more, jobsFrom, withinBlocks, if_neg heard, jobsAt, registered?, line]
  split
  · simp [claimedBy, immediate]
  · cases Registration.start? (strip lines[index]) with
    | none => simp
    | some registration => simp [jobsClaimed]

theorem reportedFrom {index : Nat} (inside : index ≤ lines.length) :
    reported lines index ++
      jobsFrom lines ((claimed lines index).map Prod.snd) (lines.zipIdx.drop index) =
      jobsOfLines lines := by
  induction index with
  | zero => rfl
  | succ index ih =>
    have bound : index < lines.zipIdx.length := by rwa [List.length_zipIdx]
    rw [← ih (Nat.le_of_lt inside), List.drop_eq_getElem_cons bound, List.getElem_zipIdx, Nat.zero_add]
    by_cases covered : (claimed lines index).any (covers index)
    · have same : reported lines (index + 1) = reported lines index := if_pos covered
      rw [jobsFrom, withinBlocks, if_pos covered, claimed, same, claimed]
    · rw [jobsFromNext inside _ covered, reportedNext, if_neg covered, List.append_assoc]

theorem reportedAll (lines : List Line) : reported lines lines.length = jobsOfLines lines := by
  rw [← reportedFrom (Nat.le_refl lines.length), List.drop_eq_nil_of_le (by simp), jobsFrom,
    List.append_nil]

end LoopPlayer.Source
