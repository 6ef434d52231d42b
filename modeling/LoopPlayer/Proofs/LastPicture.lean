import Mathlib.Data.List.Infix
import LoopPlayer.Proofs.Failure

/-! What listeners were shown last. Listeners are told one after another, so that one of them may
move the player before those behind it have been told. All of them are told of that move first, and
then the rest of the earlier ones still get the picture of the earlier notification. Each has seen
the board as it is in the end, but for some it was not the last picture. -/
namespace LoopPlayer

variable {σ : Type}

structure Shown where
  listener : String
  picture : Board
  board : Board
  deriving DecidableEq, Repr

def Shown.outdated (shown : Shown) : Bool := shown.picture ≠ shown.board

namespace Rig

variable [Scheduler σ]

theorem beginQuietBoard (rig : Rig σ) (operation : Operation)
    (quiet : (rig.begin operation).2 = none) :
    (rig.begin operation).1.player.board = rig.player.board := by
  have exhausted {rig : Rig σ} {owed : Owed}
      (quiet : (if rig.advance.2 then some owed else none) = none) :
      rig.advance.1.player.board = rig.player.board := by
    have advanced := rig.advanceOutcome
    generalize rig.advance = result at advanced quiet ⊢
    cases advanced with
    | exhausted none => rw [finishPlayer]
    | last next last => cases quiet
    | more next more => cases quiet
  cases operation with
  | control control =>
    cases control with
    | play =>
      simp only [begin, play]
      split
      · rfl
      · split
        · rw [finishPlayer]
        · rw [bookPlayer, setTransportPlayer]
    | pause =>
      obtain ⟨_, _, _, frame⟩ := pauseFrame rig
      rw [begin, frame]
    | step =>
      by_cases finished : rig.player.transport = .finished
      · simp only [begin, if_pos finished]
      · rw [beginStep finished] at quiet ⊢
        obtain ⟨_, _, _, frame⟩ := pauseFrame rig
        rw [exhausted quiet, frame]
    | reset => cases quiet
  | load source => cases quiet
  | setSpeed speed => rfl
  | tick generation =>
    by_cases live : generation = rig.player.generation ∧ rig.player.transport = .playing
    · obtain ⟨rfl, playing⟩ := live
      rw [beginLive playing] at quiet ⊢
      exact exhausted quiet
    · rw [beginStale live]
      rfl

end Rig

namespace Stage

def showFirst (picture board : Board) (listeners : List String) : List Shown :=
  listeners.head?.toList.map fun listener => ⟨listener, picture, board⟩

variable [Scheduler σ]

def shows (stage : Stage σ) : Event σ → List Shown
  | .move (.call operation) =>
    match stage.rig.begin operation with
    | (_, none) => []
    | (rig, some _) => showFirst rig.player.board rig.player.board rig.player.listeners
  | .move .returned =>
    match stage.stack with
    | [] => []
    | activation :: _ => showFirst activation.picture stage.rig.player.board activation.waiting
  | _ => []

def showsAll (stage : Stage σ) : List (Event σ) → List Shown
  | [] => []
  | event :: rest => stage.shows event ++ (stage.after event).showsAll rest

def shownTo (stage : Stage σ) (listener : String) (events : List (Event σ)) : List Shown :=
  (stage.showsAll events).filter fun one => one.listener = listener

omit [Scheduler σ] in
theorem showFirstTo (picture board : Board) (first listener : String) (rest : List String) :
    (showFirst picture board (first :: rest)).filter (fun one => one.listener = listener) =
      if first = listener then [⟨listener, picture, board⟩] else [] := by
  by_cases same : first = listener
  · subst same
    simp [showFirst]
  · simp [showFirst, same]

def Awaiting (stage : Stage σ) (listener : String) : Prop :=
  ∃ activation ∈ stage.stack, listener ∈ activation.waiting

/-- What holds of a listener, who is subscribed all the time, and of what it has been shown since
nothing was under way. -/
structure Informed (stage : Stage σ) (listener : String) (shown : List Shown) : Prop where
  current : shown ≠ [] ∨ stage.Awaiting listener →
    (∃ one ∈ shown, one.picture = stage.rig.player.board) ∨
    ∃ activation ∈ stage.stack,
      listener ∈ activation.waiting ∧ activation.picture = stage.rig.player.board
  last : ∀ one ∈ shown.getLast?, one.board = stage.rig.player.board ∨ stage.Awaiting listener

omit [Scheduler σ] in
theorem Informed.unchangedKeeps {before after : Stage σ} {listener : String} {shown : List Shown}
    (informed : Informed before listener shown) (stack : after.stack = before.stack)
    (board : after.rig.player.board = before.rig.player.board) :
    Informed after listener shown := by
  refine ⟨?_, ?_⟩
  all_goals simp only [Awaiting, stack, board]
  · exact informed.current
  · exact informed.last

theorem toldInformed (stage : Stage σ) (owed : Owed) {listener : String} {listeners : List String}
    (subscribed : listener ∈ listeners) (shown : List Shown) :
    let board := stage.rig.player.board
    Informed (stage.tell board owed listeners) listener
      (shown ++ (showFirst board board listeners).filter fun one => one.listener = listener) := by
  intro board
  cases listeners with
  | nil => cases subscribed
  | cons first rest =>
    rw [showFirstTo]
    by_cases own : first = listener
    · rw [if_pos own]
      refine ⟨fun _ => .inl ⟨⟨listener, board, board⟩, by simp, rfl⟩, fun one last => .inl ?_⟩
      rw [List.getLast?_append, List.getLast?_singleton, Option.some_or, Option.mem_some] at last
      rw [← last]
      rfl
    · rw [if_neg own, List.append_nil]
      have waits : listener ∈ rest :=
        (List.mem_cons.mp subscribed).resolve_left fun same => own same.symm
      exact ⟨fun _ => .inr ⟨_, List.mem_cons_self, waits, rfl⟩,
        fun _ _ => .inr ⟨_, List.mem_cons_self, waits⟩⟩

theorem onwardInformed {stage : Stage σ} {listener : String} {shown : List Shown}
    (informed : Informed stage listener shown) {activation : Activation} {below : List Activation}
    (stack : stage.stack = activation :: below) :
    Informed ({ stage with stack := below }.tell activation.picture activation.owed
        activation.waiting) listener
      (shown ++ (showFirst activation.picture stage.rig.player.board activation.waiting).filter
        fun one => one.listener = listener) := by
  obtain ⟨current, last⟩ := informed
  simp only [Awaiting, stack, List.exists_mem_cons_iff] at current last
  cases waiting : activation.waiting with
  | nil =>
    have board : (stage.rig.settle activation.owed).player.board = stage.rig.player.board :=
      Rig.settleBoard activation.owed
    simp only [waiting, List.not_mem_nil, false_and, false_or] at current last
    have nothing : (showFirst activation.picture stage.rig.player.board []).filter
        (fun one => one.listener = listener) = [] := rfl
    rw [nothing, List.append_nil]
    refine ⟨?_, ?_⟩
    all_goals simp only [tell, Awaiting, board]
    · exact current
    · exact last
  | cons first rest =>
    rw [showFirstTo]
    simp only [waiting, List.mem_cons] at current last
    by_cases own : first = listener
    · rw [if_pos own]
      subst own
      refine ⟨fun _ => ?_, fun one last => .inl ?_⟩
      · rcases current (.inr (.inl (.inl rfl))) with ⟨one, member, same⟩ | ⟨-, same⟩ | later
        · exact .inl ⟨one, List.mem_append_left _ member, same⟩
        · exact .inl ⟨_, List.mem_append_right shown (List.mem_singleton_self _), same⟩
        · exact .inr (List.exists_mem_cons_of_exists later)
      · rw [List.getLast?_append, List.getLast?_singleton, Option.some_or, Option.mem_some] at last
        rw [← last]
        rfl
    · have other : listener = first ↔ False := iff_false_intro fun same => own same.symm
      simp only [other, false_or] at current last
      rw [if_neg own, List.append_nil]
      refine ⟨?_, ?_⟩
      all_goals simp only [tell, Awaiting, List.exists_mem_cons_iff]
      · exact current
      · exact last

theorem afterInformed {stage : Stage σ} {listener : String} {shown : List Shown}
    (informed : Informed stage listener shown) (subscribed : listener ∈ stage.rig.player.listeners)
    {event : Event σ} (returns : event ≠ .move .failed) :
    Informed (stage.after event) listener
      (shown ++ (stage.shows event).filter fun one => one.listener = listener) := by
  have silent {after : Stage σ} (stack : after.stack = stage.stack)
      (board : after.rig.player.board = stage.rig.player.board) :
      Informed after listener (shown ++ []) := by
    rw [List.append_nil]
    exact informed.unchangedKeeps stack board
  cases event with
  | drift scheduler => exact silent rfl rfl
  | move move =>
    cases move with
    | subscribe other => exact silent rfl rfl
    | unsubscribe other => exact silent rfl rfl
    | failed => exact absurd rfl returns
    | returned =>
      simp only [after, step, shows]
      cases stack : stage.stack with
      | nil => exact silent rfl rfl
      | cons activation below => exact onwardInformed informed stack
    | call operation =>
      have listeners := Rig.beginListeners stage.rig operation
      have quietBoard := stage.rig.beginQuietBoard operation
      simp only [after, step, shows]
      generalize stage.rig.begin operation = begun at listeners quietBoard ⊢
      obtain ⟨rig, owed⟩ := begun
      cases owed with
      | none => exact silent rfl (quietBoard rfl)
      | some owed =>
        rw [← listeners] at subscribed
        exact toldInformed { stage with rig } owed subscribed shown

theorem throughInformed {stage : Stage σ} {listener : String} {shown : List Shown}
    (informed : Informed stage listener shown) {events : List (Event σ)}
    (returns : .move .failed ∉ events)
    (stays : ∀ part, part <+: events → listener ∈ (stage.through part).rig.player.listeners) :
    Informed (stage.through events) listener (shown ++ stage.shownTo listener events) := by
  induction events generalizing stage shown with
  | nil =>
    rw [shownTo, showsAll, List.filter_nil, List.append_nil]
    exact informed
  | cons event rest ih =>
    have first : Informed (stage.after event) listener _ :=
      afterInformed informed (stays [] List.nil_prefix) fun failed =>
        returns (failed ▸ List.mem_cons_self)
    have later := ih first (fun failed => returns (List.mem_cons_of_mem event failed))
      fun part inside => stays (event :: part) ((List.prefix_cons_inj event).mpr inside)
    rw [List.append_assoc] at later
    rw [shownTo, showsAll, List.filter_append]
    exact later

/-- Take any moment of a run at which nothing is under way and a later one, with listeners in
between that do what they like but never fail. A listener that stays subscribed and was told has
been shown the board as it is in the end. Since it was told last, the board has not changed, so that
its last picture is the present one unless it was outdated when it was shown. -/
theorem lastPictureCurrent (steps : List Step) (settings : Settings) (scheduler : σ)
    (before during : List (Event σ)) (listener : String)
    (quiet : ((start steps settings scheduler).through before).stack = [])
    (returns : .move .failed ∉ during)
    (stays : ∀ part, part <+: during → listener ∈
      (((start steps settings scheduler).through before).through part).rig.player.listeners)
    (done : (((start steps settings scheduler).through before).through during).stack = []) :
    let stage := (start steps settings scheduler).through before
    let board := (stage.through during).rig.player.board
    let shown := stage.shownTo listener during
    (shown ≠ [] → ∃ one ∈ shown, one.picture = board) ∧
      ∀ last ∈ shown.getLast?, last.board = board ∧ (last.picture = board ↔ ¬ last.outdated) := by
  intro stage board shown
  have nobody : Informed stage listener [] := by
    refine ⟨fun told => ?_, fun one last => nomatch last⟩
    rcases told with some | ⟨activation, member, -⟩
    · exact absurd rfl some
    · rw [quiet] at member
      cases member
  have informed : Informed (stage.through during) listener shown :=
    throughInformed nobody returns stays
  have done : (stage.through during).stack = [] := done
  obtain ⟨current, last⟩ := informed
  simp only [Awaiting, done, List.not_mem_nil, false_and, exists_false, or_false] at current last
  refine ⟨current, fun one member => ?_⟩
  have same := last one member
  refine ⟨same, ?_⟩
  rw [Shown.outdated, same, decide_eq_true_iff, ne_eq, Decidable.not_not]

def nestedStep : List (Event Ledger) :=
  let step : Event Ledger := .move (.call (.control .step))
  [step, step] ++ List.replicate 4 (.move .returned)

theorem nestedStepSeen :
    let steps := [1, 2, 3].map fun n => ⟨n, n, "code", "a", "note", .callStack, 1, .execute, none⟩
    let before : List (Event Ledger) := [.move (.subscribe "a"), .move (.subscribe "b")]
    let stage := (start steps {} ({} : Ledger)).through before
    let board := (stage.through nestedStep).rig.player.board
    let shown := stage.shownTo "a" nestedStep
    (shown ≠ [] → ∃ one ∈ shown, one.picture = board) ∧
      ∀ last ∈ shown.getLast?, last.board = board ∧ (last.picture = board ↔ ¬ last.outdated) := by
  intro steps before
  have stays : ∀ part ∈ nestedStep.inits, "a" ∈
      (((start steps {} ({} : Ledger)).through before).through part).rig.player.listeners := by
    decide +kernel
  exact lastPictureCurrent steps {} ({} : Ledger) before nestedStep "a" (by decide +kernel)
    (by decide +kernel)
    (fun part inside => stays part ((List.mem_inits part nestedStep).mpr inside))
    (by decide +kernel)

theorem nestedStepOutdates :
    let steps := [1, 2, 3].map fun n => ⟨n, n, "code", "a", "note", .callStack, 1, .execute, none⟩
    let before : List (Event Ledger) := [.move (.subscribe "a"), .move (.subscribe "b")]
    let stage := (start steps {} ({} : Ledger)).through before
    stage.stack = [] ∧ (stage.through nestedStep).stack = [] ∧ .move .failed ∉ nestedStep ∧
      (∀ part ∈ nestedStep.inits, "b" ∈ (stage.through part).rig.player.listeners) ∧
      (stage.through nestedStep).rig.player.board.index = 1 ∧
      (stage.shownTo "b" nestedStep).map (fun one => one.picture.index) = [1, 0] := by
  decide +kernel

end Stage
end LoopPlayer
