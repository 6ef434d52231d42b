import LoopPlayer.Board

/-! A board as the sum of the steps that went into it. Its index counts them, its output is what they
print one after another, and the replay of a trace's beginning, with the next step applied, is the
replay of the beginning one step longer. -/
namespace LoopPlayer.Board

theorem foldIndex (matching : Matching) (board : Board) (steps : List Step) :
    (steps.foldl (apply matching) board).index = board.index + steps.length := by
  induction steps generalizing board with
  | nil => simp
  | cons step rest ih =>
    rw [List.foldl_cons, ih]
    simp only [apply, List.length_cons]
    omega

theorem replayIndex (matching : Matching) (steps : List Step) :
    (replay matching steps).index = steps.length - 1 := by
  rw [replay, foldIndex]
  show -1 + (steps.length : Int) = _
  omega

theorem foldOutput (matching : Matching) (board : Board) (steps : List Step) :
    (steps.foldl (apply matching) board).output = board.output ++ steps.flatMap printed := by
  induction steps generalizing board with
  | nil => simp
  | cons step rest ih => rw [List.foldl_cons, ih, List.flatMap_cons, ← List.append_assoc, apply]

theorem replayOutput (matching : Matching) (steps : List Step) :
    (replay matching steps).output = steps.flatMap printed := by
  rw [replay, foldOutput]
  exact List.nil_append _

theorem replayConcat (matching : Matching) (steps : List Step) (step : Step) :
    replay matching (steps ++ [step]) = (replay matching steps).apply matching step := by
  simp only [replay, List.foldl_append, List.foldl_cons, List.foldl_nil]

theorem replayNext {matching : Matching} {steps : List Step} {n : Nat} {step : Step}
    (found : steps[n]? = some step) :
    replay matching (steps.take (n + 1)) = (replay matching (steps.take n)).apply matching step := by
  rw [List.take_add_one, found, Option.toList_some, replayConcat]

end LoopPlayer.Board
