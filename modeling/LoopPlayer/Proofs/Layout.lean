import LoopPlayer.Proofs.Blocks
import LoopPlayer.Source.Jobs

/-! What blocks are made of. They see no more of a line than how many delimiters it opens and
closes, whether it is attached and what it registers, so programs that agree in this line by line
have the same blocks, with the same parts. -/
namespace LoopPlayer
open Text (Line strip)

namespace Block

structure Layout where
  opened : Nat
  closed : Nat
  attached : Bool
  registration : Option Registration
  deriving DecidableEq, Repr

def layout (line : Line) : Layout :=
  ⟨Delimiter.opened line, Delimiter.closed line, attaches line, Registration.start? (strip line)⟩

variable {lines other : List Line}

theorem lengthLayout (same : lines.map layout = other.map layout) :
    lines.length = other.length := by
  simpa using congrArg List.length same

theorem lineLayout (same : lines.map layout = other.map layout) (index : Nat) :
    lines[index]? = none ∧ other[index]? = none ∨
      ∃ first second, lines[index]? = some first ∧ other[index]? = some second ∧
        layout first = layout second := by
  have line : lines[index]?.map layout = other[index]?.map layout := by
    rw [← List.getElem?_map, ← List.getElem?_map, same]
  cases here : lines[index]? with
  | none =>
    rw [here, Option.map_none] at line
    exact .inl ⟨rfl, Option.map_eq_none_iff.mp line.symm⟩
  | some first =>
    rw [here, Option.map_some] at line
    obtain ⟨second, there, agree⟩ := Option.map_eq_some_iff.mp line.symm
    exact .inr ⟨first, second, rfl, there, agree.symm⟩

theorem registeredLayout (same : lines.map layout = other.map layout) (index : Nat) :
    registered? lines index = registered? other index := by
  rw [registered?, registered?]
  rcases lineLayout same index with ⟨here, there⟩ | ⟨first, second, here, there, line⟩
  · rw [here, there]
  · rw [here, there]
    exact congrArg Layout.registration line

theorem closingLayout (same : lines.map layout = other.map layout) (depth : Int) (started : Bool) :
    closing? depth started lines = closing? depth started other := by
  induction lines generalizing other depth started with
  | nil =>
    obtain rfl := List.map_eq_nil_iff.mp same.symm
    rfl
  | cons line rest ih =>
    cases other with
    | nil => cases same
    | cons second later =>
      rw [List.map_cons, List.map_cons, List.cons.injEq] at same
      obtain ⟨line, rest⟩ := same
      have opened : Delimiter.opened _ = Delimiter.opened second := congrArg Layout.opened line
      have closed : Delimiter.closed _ = Delimiter.closed second := congrArg Layout.closed line
      simp only [closing?, opened, closed, ih rest]

theorem stopLayout (same : lines.map layout = other.map layout) (start : Nat) :
    stop lines start = stop other start := by
  have below : (lines.drop start).map layout = (other.drop start).map layout := by
    rw [List.map_drop, List.map_drop, same]
  rw [stop, stop, closingLayout below, lengthLayout same]

theorem chainStopLayout (same : lines.map layout = other.map layout) (fuel reached : Nat) :
    chainStop lines fuel reached = chainStop other fuel reached := by
  induction fuel generalizing reached with
  | zero => rfl
  | succ fuel ih =>
    rw [chainStop, chainStop, stopLayout same, ih]
    rcases lineLayout same reached with ⟨here, there⟩ | ⟨first, second, here, there, line⟩
    · rw [here, there]
    · have attached : attaches first = attaches second := congrArg Layout.attached line
      simp only [here, there, attached]

theorem registrationStopLayout (same : lines.map layout = other.map layout) (start : Nat)
    (registration : Registration) :
    registrationStop lines start registration = registrationStop other start registration := by
  cases registration with
  | promise =>
    rw [registrationStop, registrationStop, stopLayout same, lengthLayout same,
      chainStopLayout same]
  | _ => exact stopLayout same start

theorem partsFromLayout (same : lines.map layout = other.map layout) (upTo fuel index : Nat) :
    partsFrom lines upTo fuel index = partsFrom other upTo fuel index := by
  induction fuel generalizing index with
  | zero => rfl
  | succ fuel ih =>
    have registered := registeredLayout same index
    rw [registered?, registered?] at registered
    simp only [partsFrom, registered, registrationStopLayout same, ih]

theorem partsLayout (same : lines.map layout = other.map layout) (start upTo : Nat) :
    parts lines start upTo = parts other start upTo := partsFromLayout same upTo _ start

end Block

theorem Source.nestedBlocksLayout {lines other : List Line}
    (same : lines.map Block.layout = other.map Block.layout) (start stop : Nat)
    (registration : Registration) :
    nestedBlocks lines start stop registration = nestedBlocks other start stop registration := by
  rw [nestedBlocks, nestedBlocks, Block.partsLayout same]

end LoopPlayer
