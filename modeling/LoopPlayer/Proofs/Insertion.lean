import LoopPlayer.Proofs.Blanks

/-! One line more between two others, a line that says nothing. It opens and closes nothing, so blocks
end where they did. But a chain goes on only with a line that is attached directly below a block, so
where the new line comes between the two, the chain is severed. Unless that happens, bodies have the
parts that they had, and perhaps the new line. -/
namespace LoopPlayer
open Text (Line strip)

theorem Text.stripStrip (line : Line) : strip (strip line) = strip line := by
  obtain ⟨before, after, whole, blankBefore, blankAfter⟩ := stripBetween line
  calc strip (strip line) = strip (strip line ++ after) := (stripAppend blankAfter _).symm
    _ = strip (before ++ (strip line ++ after)) := by
      conv_rhs => rw [strip, dropBlank, List.dropWhile_append_of_pos blankBefore]
      rfl
    _ = strip line := congrArg strip whole.symm

/-- A line that says nothing: there is nothing on it but blanks, or a comment behind them. -/
structure Inert (line : List Char) : Prop where
  oneLine : '\n' ∉ line
  silent : strip line = [] ∨ ['/', '/'] <+: strip line

namespace Inert

variable {line : List Char}

instance : Decidable (Inert line) :=
  decidable_of_iff ('\n' ∉ line ∧ (strip line = [] ∨ ['/', '/'] <+: strip line))
    ⟨fun ⟨oneLine, silent⟩ => ⟨oneLine, silent⟩, fun inert => ⟨inert.oneLine, inert.silent⟩⟩

theorem bareEmpty (inert : Inert line) : Delimiter.bare (strip line) = [] := by
  rcases inert.silent with nothing | ⟨rest, comment⟩
  · rw [nothing]
    rfl
  · have whole := Delimiter.bareComment rest
    have ends : ('/' :: rest).dropWhile (· != '\n') = [] := by
      refine List.dropWhile_eq_nil_iff.mpr fun c member => bne_iff_ne.mpr ?_
      rintro rfl
      obtain ⟨before, after, all, -⟩ := Text.stripBetween line
      refine inert.oneLine ?_
      rw [all, ← comment]
      exact List.mem_append_right _ (List.mem_append_left _ (List.mem_cons_of_mem _ member))
    rw [ends] at whole
    rw [← comment]
    exact whole

theorem layoutEmpty (inert : Inert line) : Block.layout line = ⟨0, 0, false, none⟩ := by
  rw [Block.layoutStripped (Text.stripStrip line).symm, Block.layout, Delimiter.opened,
    Delimiter.closed, inert.bareEmpty, Block.attaches, Text.stripStrip]
  rcases inert.silent with nothing | ⟨rest, comment⟩
  · rw [nothing]
    rfl
  · rw [← comment]
    rfl

theorem notAtOnce (inert : Inert line) : Logging.opening.isPrefixOf line = false := by
  obtain ⟨before, after, whole, blankBefore, blankAfter⟩ := Text.stripBetween line
  have solid : ∀ c, Text.isBlank c → some c ≠ some 'c' := by
    rintro c blank same
    cases same
    exact absurd blank (by decide)
  rw [Bool.eq_false_iff, Ne, List.isPrefixOf_iff_prefix]
  rintro ⟨rest, starts⟩
  have first : line.head? = some 'c' := by rw [← starts]; rfl
  rw [whole] at first
  cases before with
  | cons c before => exact solid c (blankBefore c List.mem_cons_self) first
  | nil =>
    rcases inert.silent with nothing | ⟨more, comment⟩
    · rw [nothing] at first
      cases after with
      | nil => cases first
      | cons c after => exact solid c (blankAfter c List.mem_cons_self) first
    · rw [← comment] at first
      simp at first

theorem dropReturn (inert : Inert line) : Inert (Text.dropReturn line) where
  oneLine member := by
    obtain ⟨blanks, -, whole⟩ := Trailed.dropReturn line
    exact inert.oneLine (whole ▸ List.mem_append_left blanks member)
  silent := by
    rw [(Trailed.dropReturn line).stripAgrees]
    exact inert.silent

end Inert

namespace Block

def sunk (gap index : Nat) : Nat := if index < gap then index else index + 1

section

variable {gap a b : Nat}

theorem sunkLess : sunk gap a < sunk gap b ↔ a < b := by
  unfold sunk
  split <;> split <;> omega

theorem sunkMost : sunk gap a ≤ sunk gap b ↔ a ≤ b := by
  rw [← Nat.not_lt, sunkLess, Nat.not_lt]

theorem sunkNext : sunk (gap + 1) (a + 1) = sunk gap a + 1 := by
  unfold sunk
  split <;> split <;> omega

theorem sunkBefore : sunk gap a < sunk (gap + 1) b ↔ a < b := by
  unfold sunk
  split <;> split <;> omega

theorem sunkEnds : sunk (gap + 1) a ≤ sunk (gap + 1) b ↔ a ≤ b := by
  unfold sunk
  split <;> split <;> omega

theorem sunkElse (other : a ≠ gap) : sunk (gap + 1) a = sunk gap a := by
  unfold sunk
  split <;> split <;> omega

theorem sunkAt (gap : Nat) : sunk (gap + 1) gap = gap := if_pos (Nat.lt_succ_self gap)

theorem sunkApart : sunk gap a ≠ gap := by
  unfold sunk
  split <;> omega

theorem sunkRange {count : Nat} (inside : gap ≤ count) :
    (List.range (count + 1)).filter (· != gap) = (List.range count).map (sunk gap) := by
  induction count with
  | zero =>
    obtain rfl := Nat.le_zero.mp inside
    rfl
  | succ count ih =>
    rw [List.range_succ, List.filter_append]
    rcases Nat.eq_or_lt_of_le inside with rfl | above
    · have kept : (List.range (count + 1)).filter (· != count + 1) = List.range (count + 1) :=
        List.filter_eq_self.mpr fun index member =>
          bne_iff_ne.mpr (Nat.ne_of_lt (List.mem_range.mp member))
      have still : (List.range (count + 1)).map (sunk (count + 1)) = List.range (count + 1) :=
        (List.map_congr_left fun index member => if_pos (List.mem_range.mp member)).trans
          (List.map_id' _)
      rw [kept, still, List.filter_cons_of_neg (by simp)]
      exact List.append_nil _
    · have above := Nat.le_of_lt_succ above
      have last : sunk gap count = count + 1 := if_neg (Nat.not_lt.mpr above)
      have kept : (count + 1 != gap) = true := bne_iff_ne.mpr (by omega)
      rw [ih above, List.range_succ, List.map_append, List.map_singleton, last,
        List.filter_cons_of_pos (by exact kept), List.filter_nil]

end

/-- The second program is the first with one more line, which says nothing, between two of its. -/
inductive Parted : List Line → List Line → Nat → Prop where
  | mk {upper lower : List Line} {line : Line} (inert : Inert line) (below : lower ≠ []) :
      Parted (upper ++ lower) (upper ++ line :: lower) upper.length

theorem closingParted {line : Line} (inert : Inert line) {depth : Int} {started : Bool}
    (unended : ¬ (started && depth ≤ 0)) (upper lower : List Line) :
    closing? depth started (upper ++ line :: lower) =
      (closing? depth started (upper ++ lower)).map (sunk (upper.length + 1)) := by
  -- nothing is open where the line comes first, so no block ends there
  have opened : Delimiter.opened line = 0 := congrArg Layout.opened inert.layoutEmpty
  have closed : Delimiter.closed line = 0 := congrArg Layout.closed inert.layoutEmpty
  induction upper generalizing depth started with
  | nil =>
    have neutral : depth + Delimiter.opened line - Delimiter.closed line = depth := by omega
    have same : (started || decide (0 < Delimiter.opened line)) = started := by simp [opened]
    rw [List.nil_append, List.nil_append, closing?, neutral, same, if_neg unended]
    cases closes : closing? depth started lower with
    | none => rfl
    | some length =>
      have positive := (closingBounds closes).1
      refine congrArg some (if_neg ?_).symm
      rw [List.length_nil]
      omega
  | cons first upper ih =>
    rw [List.cons_append, List.cons_append, closing?, closing?]
    split
    · rfl
    · next unended =>
      rw [ih unended, Option.map_map, Option.map_map]
      refine congrArg (Option.map · _) (funext fun length => ?_)
      exact sunkNext.symm

namespace Parted

variable {lines whole : List Line} {gap : Nat}

theorem oneLonger (parted : Parted lines whole gap) :
    whole.length = lines.length + 1 ∧ gap < lines.length := by
  obtain ⟨-, below⟩ := parted
  have nonempty := List.length_pos_of_ne_nil below
  rw [List.length_append, List.length_append, List.length_cons]
  omega

theorem sameLines (parted : Parted lines whole gap) (index : Nat) :
    whole[sunk gap index]? = lines[index]? := by
  obtain @⟨upper, lower, line, -, -⟩ := parted
  rw [sunk]
  split
  · next above => rw [List.getElem?_append_left above, List.getElem?_append_left above]
  · next below =>
    have below := Nat.le_of_not_lt below
    rw [List.getElem?_append_right (by omega), List.getElem?_append_right below,
      Nat.sub_add_comm below, List.getElem?_cons_succ]

theorem gapInert (parted : Parted lines whole gap) :
    ∃ line, whole[gap]? = some line ∧ Inert line := by
  obtain @⟨upper, lower, line, inert, -⟩ := parted
  refine ⟨line, ?_, inert⟩
  rw [List.getElem?_append_right (Nat.le_refl _), Nat.sub_self]
  rfl

theorem sameRegistration (parted : Parted lines whole gap) (index : Nat) :
    registered? whole (sunk gap index) = registered? lines index := by
  rw [registered?, parted.sameLines, registered?]

theorem gapUnregistered (parted : Parted lines whole gap) : registered? whole gap = none := by
  obtain ⟨line, found, inert⟩ := parted.gapInert
  rw [registered?, found]
  exact congrArg Layout.registration inert.layoutEmpty

theorem stopSunk (parted : Parted lines whole gap) (index : Nat) :
    stop whole (sunk gap index) = sunk (gap + 1) (stop lines index) := by
  obtain ⟨size, inside⟩ := parted.oneLonger
  have ends : whole.length = sunk (gap + 1) lines.length := by
    rw [size, sunk, if_neg (by omega)]
  obtain @⟨upper, lower, line, inert, below⟩ := parted
  rw [stop, stop, ends]
  by_cases above : index < upper.length
  · have place : sunk upper.length index = index := if_pos above
    have closing := closingParted inert (by decide : ¬ (false && (0 : Int) ≤ 0))
      (upper.drop index) lower
    rw [place, List.drop_append_of_le_length (Nat.le_of_lt above),
      List.drop_append_of_le_length (Nat.le_of_lt above), closing, List.length_drop]
    cases closing? 0 false (upper.drop index ++ lower) with
    | none => rfl
    | some length =>
      simp only [Option.map_some, sunk]
      split <;> split <;> omega
  · have place : sunk upper.length index = index + 1 := if_neg above
    have below : (upper ++ line :: lower).drop (index + 1) = (upper ++ lower).drop index := by
      obtain ⟨more, rfl⟩ := Nat.exists_eq_add_of_le (Nat.le_of_not_lt above)
      rw [Nat.add_assoc, List.drop_length_add_append, List.drop_length_add_append,
        List.drop_succ_cons]
    rw [place, below]
    cases closes : closing? 0 false ((upper ++ lower).drop index) with
    | none => rfl
    | some length =>
      have positive := (closingBounds closes).1
      simp only [sunk]
      split <;> omega

end Parted

def seams (lines : List Line) : Nat → Nat → List Nat
  | 0, _ => []
  | fuel + 1, reached =>
    match lines[reached]? with
    | some line => if attaches line then reached :: seams lines fuel (stop lines reached) else []
    | none => []

/-- The chain goes on directly below the gap with a further block. -/
def Severed (lines : List Line) (gap start : Nat) : Prop :=
  registered? lines start = some .promise ∧ gap ∈ seams lines lines.length (stop lines start)

instance (lines : List Line) (gap start : Nat) : Decidable (Severed lines gap start) :=
  inferInstanceAs (Decidable (_ ∧ _))

def Uncut (lines : List Line) (gap : Nat) : Prop := ∀ start < lines.length, ¬ Severed lines gap start

instance (lines : List Line) (gap : Nat) : Decidable (Uncut lines gap) :=
  inferInstanceAs (Decidable (∀ start < lines.length, _))

theorem chainStopEnough {lines : List Line} {fuel more reached : Nat}
    (enough : lines.length ≤ reached + fuel) (larger : fuel ≤ more) :
    chainStop lines more reached = chainStop lines fuel reached := by
  induction fuel generalizing more reached with
  | zero =>
    have past : lines[reached]? = none := List.getElem?_eq_none enough
    cases more with
    | zero => rfl
    | succ more => simp only [chainStop, past]
  | succ fuel ih =>
    obtain ⟨more, rfl⟩ := Nat.exists_eq_succ_of_ne_zero (by omega : more ≠ 0)
    cases found : lines[reached]? with
    | none => simp only [chainStop, found]
    | some line =>
      have later := startBeforeStop (List.getElem?_eq_some_iff.mp found).1
      have onward : chainStop lines more (stop lines reached) =
          chainStop lines fuel (stop lines reached) := ih (by omega) (by omega)
      simp only [chainStop, found, onward]

theorem seamsBefore {lines : List Line} {seam fuel reached : Nat}
    (member : seam ∈ seams lines fuel reached) :
    reached ≤ seam ∧ seam ≤ chainStop lines fuel reached := by
  induction fuel generalizing reached with
  | zero => cases member
  | succ fuel ih =>
    rw [seams] at member
    split at member
    · next line found =>
      split at member
      · next attached =>
        have later := startBeforeStop (List.getElem?_eq_some_iff.mp found).1
        simp only [chainStop, found, attached, if_true]
        rcases List.mem_cons.mp member with rfl | further
        · exact ⟨Nat.le_refl _, Nat.le_trans (Nat.le_of_lt later) (chainStopAfter lines fuel _)⟩
        · have bounds := ih further
          omega
      · cases member
    · cases member

namespace Parted

variable {lines whole : List Line} {gap : Nat}

theorem chainRests (parted : Parted lines whole gap) (fuel : Nat) : chainStop whole fuel gap = gap := by
  obtain ⟨line, found, inert⟩ := parted.gapInert
  cases fuel with
  | zero => rfl
  | succ fuel =>
    have unattached : attaches line = false := congrArg Layout.attached inert.layoutEmpty
    rw [chainStop, found]
    simp [unattached]

theorem chainStopSunk (parted : Parted lines whole gap) (fuel reached : Nat) :
    chainStop whole fuel (sunk (gap + 1) reached) =
      if gap ∈ seams lines fuel reached then gap
      else sunk (gap + 1) (chainStop lines fuel reached) := by
  induction fuel generalizing reached with
  | zero => rfl
  | succ fuel ih =>
    by_cases here : reached = gap
    · subst here
      have inside := parted.oneLonger.2
      have found := List.getElem?_eq_getElem inside
      rw [sunkAt, parted.chainRests, seams, chainStop, found]
      by_cases attached : attaches lines[reached]
      · simp [attached]
      · simp [attached, sunkAt]
    · rw [sunkElse here, chainStop, parted.sameLines, seams, chainStop]
      cases lines[reached]? with
      | none => exact (sunkElse here).symm
      | some line =>
        by_cases attached : attaches line
        · simp only [attached, if_true, parted.stopSunk, ih, List.mem_cons, Ne.symm here, false_or]
        · simp only [attached, Bool.false_eq_true, if_false, List.not_mem_nil, sunkElse here]

theorem registrationStops (parted : Parted lines whole gap) {index : Nat}
    {registration : Registration} (found : registered? lines index = some registration) :
    registrationStop whole (sunk gap index) registration =
      if Severed lines gap index then gap
      else sunk (gap + 1) (registrationStop lines index registration) := by
  cases registration with
  | promise =>
    have first := startBeforeStop (registeredInside found)
    have enough : chainStop whole whole.length (sunk (gap + 1) (stop lines index)) =
        chainStop whole lines.length (sunk (gap + 1) (stop lines index)) := by
      have size := parted.oneLonger
      refine chainStopEnough ?_ (by omega)
      rw [sunk]
      split <;> omega
    rw [registrationStop, parted.stopSunk, enough, parted.chainStopSunk]
    exact if_congr (and_iff_right found).symm rfl rfl
  | _ =>
    have unsevered : ¬ Severed lines gap index := by
      rintro ⟨chain, -⟩
      rw [found] at chain
      cases chain
    rw [if_neg unsevered]
    exact parted.stopSunk index

end Parted

theorem Tiles.tilingUnique {lines : List Line} {upTo index : Nat} {all others : List Part}
    (tiles : Tiles lines upTo index all) (also : Tiles lines upTo index others) : all = others := by
  induction tiles generalizing others with
  | done reached =>
    cases also with
    | done => rfl
    | line before _ _ => omega
    | inner before _ _ => omega
  | line before found _ ih =>
    cases also with
    | done reached => omega
    | line _ _ tail => exact congrArg _ (ih tail)
    | inner _ opened _ =>
      rw [found] at opened
      cases opened
  | inner before found _ ih =>
    cases also with
    | done reached => omega
    | line _ unopened _ =>
      rw [found] at unopened
      cases unopened
    | inner _ opened tail =>
      cases found.symm.trans opened
      exact congrArg _ (ih tail)

def Part.sunk (gap : Nat) : Part → Part
  | line index => line (Block.sunk gap index)
  | inner registration start stop =>
    inner registration (Block.sunk gap start) (Block.sunk (gap + 1) stop)

namespace Parted

variable {lines whole : List Line} {gap upTo index : Nat}

theorem tilesFrom (parted : Parted lines whole gap) {parts : List Part} (before : index < upTo)
    (tiles : Tiles whole (sunk (gap + 1) upTo) (sunk gap index) parts) :
    ∃ more, Tiles whole (sunk (gap + 1) upTo) (sunk (gap + 1) index) more ∧
      more.filter (· != .line gap) = parts.filter (· != .line gap) := by
  by_cases here : index = gap
  · subst here
    have inside : index < sunk (index + 1) upTo := by
      rw [sunk]
      split <;> omega
    have next : sunk index index = index + 1 := if_neg (Nat.lt_irrefl index)
    rw [next] at tiles
    rw [sunkAt]
    exact ⟨_, .line inside parted.gapUnregistered tiles, List.filter_cons_of_neg (by simp)⟩
  · rw [sunkElse here]
    exact ⟨parts, tiles, rfl⟩

theorem tilingSunk (parted : Parted lines whole gap) (uncut : Uncut lines gap) {all : List Part}
    (tiles : Tiles lines upTo index all) :
    ∃ more, Tiles whole (sunk (gap + 1) upTo) (sunk (gap + 1) index) more ∧
      more.filter (· != .line gap) = all.map (Part.sunk gap) := by
  induction tiles with
  | done reached => exact ⟨[], .done (sunkEnds.mpr reached), rfl⟩
  | @line index rest before found _ ih =>
    obtain ⟨more, tail, same⟩ := ih
    rw [sunkNext] at tail
    have opened := parted.sameRegistration index
    rw [found] at opened
    obtain ⟨all, tiles, kept⟩ := parted.tilesFrom before (.line (sunkBefore.mpr before) opened tail)
    refine ⟨all, tiles, ?_⟩
    rw [kept, List.filter_cons_of_pos, same]
    · rfl
    · simp [sunkApart]
  | @inner index rest registration before found _ ih =>
    obtain ⟨more, tail, same⟩ := ih
    have opened := parted.sameRegistration index
    rw [found] at opened
    have stops := parted.registrationStops found
    rw [if_neg (uncut index (registeredInside found))] at stops
    have cut : sunk (gap + 1) (min (registrationStop lines index registration) upTo) =
        min (registrationStop whole (sunk gap index) registration) (sunk (gap + 1) upTo) := by
      rw [stops]
      unfold sunk
      split <;> split <;> split <;> omega
    rw [cut] at tail
    obtain ⟨all, tiles, kept⟩ := parted.tilesFrom before (.inner (sunkBefore.mpr before) opened tail)
    refine ⟨all, tiles, ?_⟩
    rw [kept, List.filter_cons_of_pos, same, ← cut]
    · rfl
    · simp

theorem partsSunk (parted : Parted lines whole gap) (uncut : Uncut lines gap) (start upTo : Nat) :
    (parts whole (sunk (gap + 1) start) (sunk (gap + 1) upTo)).filter (· != .line gap) =
      (parts lines start upTo).map (Part.sunk gap) := by
  obtain ⟨more, tiles, same⟩ := parted.tilingSunk uncut (partsTile lines start upTo)
  rw [(partsTile whole _ _).tilingUnique tiles, same]

theorem tilesAbove (parted : Parted lines whole gap) {all : List Part} (above : upTo ≤ gap)
    (tiles : Tiles lines upTo index all) : Tiles whole upTo index all := by
  have place {index : Nat} (before : index < upTo) : sunk gap index = index :=
    if_pos (Nat.lt_of_lt_of_le before above)
  induction tiles with
  | done reached => exact .done reached
  | @line index rest before found _ ih =>
    have opened := parted.sameRegistration index
    rw [place before, found] at opened
    exact .line before opened ih
  | @inner index rest registration before found _ ih =>
    have opened := parted.sameRegistration index
    have stops := parted.registrationStops found
    rw [place before] at opened stops
    rw [found] at opened
    have cut : min (registrationStop lines index registration) upTo =
        min (registrationStop whole index registration) upTo := by
      rw [stops]
      split
      · next severed =>
        obtain ⟨chain, seam⟩ := severed
        cases found.symm.trans chain
        have beyond : gap ≤ registrationStop lines index .promise := (seamsBefore seam).2
        omega
      · unfold sunk
        split <;> omega
    rw [cut] at ih ⊢
    exact .inner before opened ih

theorem bodyAbove (parted : Parted lines whole gap) (above : upTo ≤ gap) (start : Nat) :
    parts whole start upTo = parts lines start upTo :=
  (partsTile whole start upTo).tilingUnique (parted.tilesAbove above (partsTile lines start upTo))

end Parted
end Block

end LoopPlayer
