import LoopPlayer.Player.Basic

/-! A player in use. Listeners are told one after another, and each of them may use the player,
subscribe and unsubscribe, return or fail before the next is told. The machine makes each of these
one move. Its stack holds the operations whose listeners are being told, the innermost first; when
it is empty, every operation has returned or failed. -/
namespace LoopPlayer

variable {σ : Type}

/-- An operation between its halves: the listener that runs, those after it, the picture that they
all get, and what is owed when the last has returned. -/
structure Activation where
  listener : String
  waiting : List String
  picture : Board
  owed : Owed
  deriving DecidableEq, Repr

structure Stage (σ : Type) where
  rig : Rig σ
  stack : List Activation := []
  deriving DecidableEq, Repr

/-- `returned` and `failed` speak of the running listener and do nothing without one. A failing
listener takes its operation with it, which then never pays what it owes. -/
inductive Move where
  | call (operation : Operation)
  | subscribe (listener : String)
  | unsubscribe (listener : String)
  | returned
  | failed
  deriving DecidableEq, Repr

namespace Stage

def setListeners (stage : Stage σ) (listeners : List String) : Stage σ :=
  { stage with rig := { stage.rig with player := { stage.rig.player with listeners } } }

variable [Scheduler σ]

def tell (stage : Stage σ) (picture : Board) (owed : Owed) : List String → Stage σ
  | [] => { stage with rig := stage.rig.settle owed }
  | listener :: waiting =>
    { stage with stack := ⟨listener, waiting, picture, owed⟩ :: stage.stack }

/-- Those who are told are the listeners at that time, in the order of their subscriptions. Of equal
subscriptions the first is removed. -/
def step (stage : Stage σ) : Move → Stage σ
  | .call operation =>
    match stage.rig.begin operation with
    | (rig, none) => { stage with rig }
    | (rig, some owed) => { stage with rig }.tell rig.player.board owed rig.player.listeners
  | .subscribe listener => stage.setListeners (stage.rig.player.listeners ++ [listener])
  | .unsubscribe listener => stage.setListeners (stage.rig.player.listeners.erase listener)
  | .returned =>
    match stage.stack with
    | [] => stage
    | activation :: stack =>
      { stage with stack }.tell activation.picture activation.owed activation.waiting
  | .failed => { stage with stack := stage.stack.tail }

def run (stage : Stage σ) (moves : List Move) : Stage σ := moves.foldl step stage

end Stage
end LoopPlayer
