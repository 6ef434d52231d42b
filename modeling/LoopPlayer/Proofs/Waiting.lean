import LoopPlayer.Timers.Basic

/-! The timers that wait. Only live timers are counted, run and jumped to; a cancelled one is still
in the queue and nothing else. -/
namespace LoopPlayer.Timers

variable {α : Type}

def waiting (timers : Timers α) : List (Timer α) := timers.queue.filter Timer.live

theorem pendingWaiting (timers : Timers α) : timers.pending = timers.waiting.length :=
  List.countP_eq_length_filter

theorem cancelWaiting (timers : Timers α) (serial : Nat) :
    (timers.cancel serial).waiting = timers.waiting.filter (·.serial != serial) := by
  rw [waiting, waiting, cancel, List.filter_filter]
  induction timers.queue with
  | nil => rfl
  | cons timer rest ih =>
    rw [List.map_cons]
    by_cases same : timer.serial = serial
    · simpa [same] using ih
    · cases live : timer.live <;> simpa [same, live] using ih

theorem insertLength (timer : Timer α) (queue : List (Timer α)) :
    (insert timer queue).length = queue.length + 1 := by
  induction queue with
  | nil => rfl
  | cons head rest ih =>
    rw [insert]
    split
    · rfl
    · rw [List.length_cons, ih, List.length_cons]

theorem insertWaiting {timer : Timer α} (live : timer.live = true) {queue : List (Timer α)}
    (dead : ∀ other ∈ queue, other.live = false) :
    (insert timer queue).filter Timer.live = [timer] := by
  have alone (queue : List (Timer α)) (dead : ∀ other ∈ queue, other.live = false) :
      queue.filter Timer.live = [] :=
    List.filter_eq_nil_iff.mpr fun other member => by simp [dead other member]
  induction queue with
  | nil => exact List.filter_cons_of_pos live
  | cons head rest ih =>
    rw [insert]
    split
    · rw [List.filter_cons_of_pos live, alone _ dead]
    · rw [List.filter_cons_of_neg (by simp [dead head List.mem_cons_self])]
      exact ih fun other member => dead other (List.mem_cons_of_mem _ member)

theorem laterWaiting {timers : Timers α} (none : timers.waiting = []) (ms : Int) (action : α) :
    (timers.later ms action).waiting = [⟨timers.now + ms, timers.made + 1, action, true⟩] := by
  refine insertWaiting rfl fun timer member => ?_
  exact Bool.eq_false_iff.mpr (List.filter_eq_nil_iff.mp none timer member)

/-- All that taking a due timer can do: the first live one is due and is taken, or what is left has
none that is due. -/
inductive Taken (timers : Timers α) : Option (Timer α) × Timers α → Prop where
  | found {timer : Timer α} {queue : List (Timer α)} (due : timer.due ≤ timers.now)
      (waiting : timers.waiting = timer :: queue.filter Timer.live)
      (shorter : queue.length < timers.queue.length) :
      Taken timers (some timer, { timers with queue })
  | settled {queue : List (Timer α)} (waiting : queue.filter Timer.live = timers.waiting)
      (none : (splitDue timers.now queue).1 = none) :
      Taken timers (Option.none, { timers with queue })

theorem takeDueTaken (timers : Timers α) : Taken timers timers.takeDue := by
  obtain ⟨now, made, queue⟩ := timers
  simp only [takeDue]
  induction queue with
  | nil => exact .settled rfl rfl
  | cons timer rest ih =>
    rw [splitDue]
    split
    · rename_i due
      split
      · rename_i live
        exact .found due (List.filter_cons_of_pos live) (Nat.lt_succ_self _)
      · rename_i dead
        have dropped : (⟨now, made, timer :: rest⟩ : Timers α).waiting =
            (⟨now, made, rest⟩ : Timers α).waiting := List.filter_cons_of_neg dead
        generalize splitDue now rest = split at ih ⊢
        obtain ⟨taken, left⟩ := split
        cases ih with
        | found due waiting shorter =>
          exact .found due (dropped.trans waiting) (Nat.lt_succ_of_lt shorter)
        | settled waiting none => exact .settled (waiting.trans dropped.symm) none
    · rename_i later
      exact .settled rfl (by rw [splitDue, if_neg later])

theorem dropWaiting (queue : List (Timer α)) :
    (queue.dropWhile (!·.live)).filter Timer.live = queue.filter Timer.live := by
  induction queue with
  | nil => rfl
  | cons timer rest ih => cases live : timer.live <;> simp [live, ih]

theorem jumpWaiting {timers after : Timers α} (jump : timers.jump? = some after) :
    after.waiting = timers.waiting := by
  rw [jump?] at jump
  split at jump
  · cases jump
  · rename_i timer rest front
    cases jump
    rw [waiting, waiting, ← dropWaiting timers.queue, front]

theorem takeDueAlone {timers : Timers α} {timer : Timer α} (queue : timers.queue = [timer])
    (live : timer.live = true) (due : timer.due ≤ timers.now) :
    timers.takeDue = (some timer, { timers with queue := [] }) := by
  rw [takeDue, queue, splitDue, if_pos due, if_pos live]

theorem takeDueNone {timers : Timers α}
    (later : ∀ timer ∈ timers.queue, timers.now < timer.due) : timers.takeDue = (none, timers) := by
  obtain ⟨now, made, queue⟩ := timers
  cases queue with
  | nil => rfl
  | cons timer rest =>
    have notDue : ¬ timer.due ≤ now := Int.not_le.mpr (later timer List.mem_cons_self)
    rw [takeDue, splitDue, if_neg notDue]

theorem jumpAlone {timers : Timers α} {timer : Timer α} (queue : timers.queue = [timer])
    (live : timer.live = true) :
    timers.jump? = some { timers with now := max timers.now timer.due } := by
  simp [jump?, queue, live]

theorem dropCancelledTaken {timers : Timers α} (none : timers.jump? = none) :
    timers.dropCancelled.takeDue.1 = Option.none := by
  have empty : timers.dropCancelled.queue = [] := by
    rw [jump?] at none
    split at none
    · assumption
    · cases none
  refine congrArg Prod.fst (takeDueNone fun timer waits => ?_)
  rw [empty] at waits
  cases waits

end LoopPlayer.Timers
