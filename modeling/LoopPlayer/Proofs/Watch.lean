import LoopPlayer.Proofs.Run

/-! Watching a scheduler. Any scheduler can be watched by keeping a list of the ticks that it took
on. The player sees nothing of the list, so that a run that is watched is the run that is not. -/
namespace LoopPlayer

variable {σ : Type}

structure Booked where
  generation : Nat
  handle : Nat
  ran : Bool := false
  deriving DecidableEq, Repr

structure Watched (σ : Type) where
  inner : σ
  booked : List Booked := []
  deriving DecidableEq, Repr

def Booked.waits (generation : Nat) (booked : Booked) : Bool :=
  booked.generation == generation && !booked.ran

namespace Watched

instance [Scheduler σ] : Scheduler (Watched σ) where
  later watched ms generation :=
    match Scheduler.later watched.inner ms generation with
    | (inner, some handle) => (⟨inner, watched.booked ++ [⟨generation, handle, false⟩]⟩, some handle)
    | (inner, none) => (⟨inner, watched.booked⟩, none)
  cancel watched handle := { watched with inner := Scheduler.cancel watched.inner handle }

def waiting (watched : Watched σ) (generation : Nat) : List Booked :=
  watched.booked.filter (Booked.waits generation)

def release (watched : Watched σ) (index : Nat) : Watched σ :=
  { watched with booked := watched.booked.modify index fun booked => { booked with ran := true } }

theorem releaseSplit {watched : Watched σ} {index : Nat} {booked : Booked}
    (found : watched.booked[index]? = some booked) :
    ∃ before rest, watched.booked = before ++ booked :: rest ∧
      (watched.release index).booked = before ++ { booked with ran := true } :: rest := by
  obtain ⟨inside, same⟩ := List.getElem?_eq_some_iff.mp found
  refine ⟨watched.booked.take index, watched.booked.drop (index + 1), ?_, ?_⟩
  · rw [← same, List.getElem_cons_drop, List.take_append_drop]
  · rw [release, List.modify_eq_take_cons_drop inside, same]

theorem releaseOther {watched : Watched σ} {index generation : Nat} {booked : Booked}
    (found : watched.booked[index]? = some booked) (other : booked.generation ≠ generation) :
    (watched.release index).waiting generation = watched.waiting generation := by
  obtain ⟨before, rest, old, new⟩ := releaseSplit found
  simp only [waiting, old, new, List.filter_append, List.filter_cons, Booked.waits,
    beq_eq_false_iff_ne.mpr other, Bool.false_and, Bool.false_eq_true, ite_false]

theorem releaseOne {watched : Watched σ} {index generation : Nat} {booked : Booked}
    (found : watched.booked[index]? = some booked) (waits : booked.waits generation = true) :
    ((watched.release index).waiting generation).length + 1 =
      (watched.waiting generation).length := by
  obtain ⟨before, rest, old, new⟩ := releaseSplit found
  have ran : Booked.waits generation { booked with ran := true } = false := by simp [Booked.waits]
  simp only [waiting, old, new, List.filter_append, List.filter_cons, waits, ran, ite_true,
    Bool.false_eq_true, ite_false, List.length_append, List.length_cons]
  omega

theorem releasePast {watched : Watched σ} {generation : Nat}
    (past : ∀ booked ∈ watched.booked, booked.generation ≤ generation) (index : Nat) :
    ∀ booked ∈ (watched.release index).booked, booked.generation ≤ generation := by
  intro booked member
  cases found : watched.booked[index]? with
  | none =>
    rw [release, List.modify_eq_self (List.getElem?_eq_none_iff.mp found)] at member
    exact past booked member
  | some one =>
    obtain ⟨before, rest, old, new⟩ := releaseSplit found
    rw [new] at member
    rw [old] at past
    simp only [List.mem_append, List.mem_cons] at member past
    rcases member with left | rfl | right
    · exact past booked (Or.inl left)
    · exact past one (Or.inr (Or.inl rfl))
    · exact past booked (Or.inr (Or.inr right))

end Watched

namespace Rig

def unwatched (rig : Rig (Watched σ)) : Rig σ := ⟨rig.player, rig.scheduler.inner, rig.notices⟩

@[simp] theorem unwatchedPlayer (rig : Rig (Watched σ)) : rig.unwatched.player = rig.player := rfl

theorem setTransportUnwatched (rig : Rig (Watched σ)) (transport : Transport) :
    (rig.setTransport transport).unwatched = rig.unwatched.setTransport transport := by
  rw [setTransport, apply_ite unwatched]
  rfl

variable [Scheduler σ]

theorem bookUnwatched (rig : Rig (Watched σ)) : rig.book.unwatched = rig.unwatched.book := by
  simp only [book, unwatched, Scheduler.later]
  split <;> rename_i took <;> simp only [took]

theorem unbookUnwatched (rig : Rig (Watched σ)) : rig.unbook.unwatched = rig.unwatched.unbook := by
  simp only [unbook, unwatched]
  cases rig.player.pending <;> rfl

theorem finishUnwatched (rig : Rig (Watched σ)) : rig.finish.unwatched = rig.unwatched.finish := by
  rw [finish, setTransportUnwatched, unbookUnwatched, finish]

theorem rewindUnwatched (rig : Rig (Watched σ)) : rig.rewind.unwatched = rig.unwatched.rewind := by
  simp only [rewind, setTransportUnwatched, ← unbookUnwatched]
  rfl

theorem pauseUnwatched (rig : Rig (Watched σ)) : rig.pause.unwatched = rig.unwatched.pause := by
  simp only [pause, apply_ite unwatched, setTransportUnwatched, unbookUnwatched]
  rfl

theorem playUnwatched (rig : Rig (Watched σ)) : rig.play.unwatched = rig.unwatched.play := by
  simp only [play, apply_ite unwatched, finishUnwatched, bookUnwatched, setTransportUnwatched]
  rfl

theorem advanceUnwatched (rig : Rig (Watched σ)) :
    (rig.advance.1.unwatched, rig.advance.2) = rig.unwatched.advance := by
  cases next : rig.player.next? with
  | none => simp only [advance, unwatchedPlayer, next, finishUnwatched]
  | some step =>
    simp only [advance, unwatchedPlayer, next, apply_ite unwatched, finishUnwatched]
    rfl

theorem beginUnwatched (rig : Rig (Watched σ)) (operation : Operation) :
    ((rig.begin operation).1.unwatched, (rig.begin operation).2) =
      rig.unwatched.begin operation := by
  cases operation with
  | control control =>
    cases control with
    | play => simp only [begin, playUnwatched]
    | pause => simp only [begin, pauseUnwatched]
    | step =>
      simp only [begin, unwatchedPlayer, ← pauseUnwatched, ← advanceUnwatched]
      split <;> rfl
    | reset => simp only [begin, rewindUnwatched]
  | load source =>
    simp only [begin, rewindUnwatched, ← unbookUnwatched]
    rfl
  | setSpeed speed => rfl
  | tick generation =>
    have same : rig.unwatched.player = rig.player := rfl
    by_cases live : generation = rig.player.generation ∧ rig.player.transport = .playing
    · obtain ⟨rfl, playing⟩ := live
      have advanced := advanceUnwatched rig.taken
      rw [beginLive playing, ← same, beginLive (same ▸ playing)]
      exact congrArg (fun result => (result.1, if result.2 then some Owed.rebook else none)) advanced
    · rw [beginStale live, beginStale (same ▸ live)]
      rfl

theorem settleUnwatched (rig : Rig (Watched σ)) (owed : Owed) :
    (rig.settle owed).unwatched = rig.unwatched.settle owed := by
  cases owed with
  | nothing => rfl
  | settle =>
    simp only [settle, apply_ite unwatched, setTransportUnwatched]
    rfl
  | rebook =>
    simp only [settle, apply_ite unwatched, bookUnwatched]
    rfl

end Rig

namespace Stage

def unwatched (stage : Stage (Watched σ)) : Stage σ := ⟨stage.rig.unwatched, stage.stack⟩

variable [Scheduler σ]

theorem tellUnwatched (stage : Stage (Watched σ)) (picture : Board) (owed : Owed)
    (listeners : List String) :
    (stage.tell picture owed listeners).unwatched =
      stage.unwatched.tell picture owed listeners := by
  cases listeners with
  | nil => simp only [tell, unwatched, Rig.settleUnwatched]
  | cons listener waiting => rfl

theorem stepUnwatched (stage : Stage (Watched σ)) (move : Move) :
    (stage.step move).unwatched = stage.unwatched.step move := by
  cases move with
  | call operation =>
    have begun := Rig.beginUnwatched stage.rig operation
    simp only [step, unwatched, ← begun]
    split
    · rename_i rig quiet
      simp only [quiet]
    · rename_i rig owed told
      simp only [told]
      exact tellUnwatched _ _ _ _
  | subscribe listener => rfl
  | unsubscribe listener => rfl
  | returned =>
    obtain ⟨rig, stack⟩ := stage
    cases stack with
    | nil => rfl
    | cons activation stack => exact tellUnwatched _ _ _ _
  | failed => rfl

end Stage
end LoopPlayer
