import LoopPlayer.Proofs.Watch

/-! Which ticks are booked. Listeners that use the player leave at most one tick of the present
generation waiting, the one whose handle the player holds, unless one of them stops playback under a
tick and starts it again: the tick then books a second one beside it. -/
namespace LoopPlayer

variable {σ : Type}

namespace Rig

def released (rig : Rig (Watched σ)) (index : Nat) : Rig (Watched σ) :=
  { rig with scheduler := rig.scheduler.release index }

@[simp] theorem releasedPlayer (rig : Rig (Watched σ)) (index : Nat) :
    (rig.released index).player = rig.player := rfl

variable {rig : Rig (Watched σ)}

def Past (rig : Rig (Watched σ)) : Prop :=
  ∀ booked ∈ rig.scheduler.booked, booked.generation ≤ rig.player.generation

structure Unbooked (rig : Rig (Watched σ)) : Prop where
  pending : rig.player.pending = none
  waiting : rig.scheduler.waiting rig.player.generation = []
  past : Past rig

/- What waits is what is pending, and only while playback goes on. -/
structure Calm (rig : Rig (Watched σ)) : Prop where
  held : (rig.scheduler.waiting rig.player.generation).map Booked.handle = rig.player.pending.toList
  playing : rig.player.transport ≠ .playing → rig.player.pending = none
  past : Past rig

theorem Unbooked.unbookedCalm (unbooked : Unbooked rig) : Calm rig where
  held := by rw [unbooked.waiting, unbooked.pending]; rfl
  playing _ := unbooked.pending
  past := unbooked.past

theorem Calm.calmUnbooked (calm : Calm rig) (none : rig.player.pending = none) : Unbooked rig where
  pending := none
  waiting := by
    have held := calm.held
    rw [none] at held
    exact List.map_eq_nil_iff.mp held
  past := calm.past

theorem setTransportUnbooked (unbooked : Unbooked rig) (transport : Transport) :
    Unbooked (rig.setTransport transport) := by
  constructor
  all_goals simp only [Past, setTransportPlayer, setTransportScheduler]
  · exact unbooked.pending
  · exact unbooked.waiting
  · exact unbooked.past

variable [Scheduler σ]

theorem unbookBooked (rig : Rig (Watched σ)) :
    rig.unbook.scheduler.booked = rig.scheduler.booked := by
  unfold unbook
  cases rig.player.pending <;> rfl

theorem unbookUnbooked (past : Past rig) : Unbooked rig.unbook where
  pending := rfl
  waiting := by
    rw [Watched.waiting, unbookBooked, List.filter_eq_nil_iff]
    intro booked member waits
    have old := past booked member
    simp only [Booked.waits, Bool.and_eq_true, beq_iff_eq, unbookPlayer] at waits
    omega
  past booked member := by
    rw [unbookBooked] at member
    exact Nat.le_succ_of_le (past booked member)

theorem finishUnbooked (past : Past rig) : Unbooked rig.finish :=
  setTransportUnbooked (unbookUnbooked past) .finished

theorem rewindUnbooked (past : Past rig) : Unbooked rig.rewind := by
  have unbooked := unbookUnbooked past
  have cleared : Unbooked { rig.unbook with player := { rig.unbook.player with board := {} } } :=
    ⟨unbooked.pending, unbooked.waiting, unbooked.past⟩
  exact setTransportUnbooked cleared .idle

def Bookable {σ : Type} [Scheduler σ] (rig : Rig σ) : Prop :=
  (Scheduler.later rig.scheduler (rig.player.settings.interval rig.player.speed)
    rig.player.generation).2.isSome

theorem bookRefused (refused : ¬ Bookable rig) :
    rig.book.scheduler.booked = rig.scheduler.booked ∧
    rig.book.player.pending = rig.player.pending := by
  simp only [Bookable, Scheduler.later] at refused
  simp only [book, Scheduler.later]
  split at refused
  · simp at refused
  · simp

theorem bookTaken (taken : Bookable rig) :
    ∃ handle, rig.book.scheduler.booked =
        rig.scheduler.booked ++ [⟨rig.player.generation, handle, false⟩] ∧
      rig.book.player.pending = some handle := by
  simp only [Bookable, Scheduler.later] at taken
  simp only [book, Scheduler.later]
  split at taken
  · rename_i inner handle _
    exact ⟨handle, by simp⟩
  · simp at taken

theorem bookRefusedCalm (calm : Calm rig) (playing : rig.player.transport = .playing)
    (refused : ¬ Bookable rig) : Calm rig.book := by
  obtain ⟨booked, pending⟩ := bookRefused refused
  refine ⟨?_, fun stopped => absurd playing stopped, ?_⟩
  · rw [Watched.waiting, booked, pending]
    exact calm.held
  · rw [Past, booked]
    exact calm.past

theorem bookCalm (unbooked : Unbooked rig) (playing : rig.player.transport = .playing) :
    Calm rig.book := by
  by_cases taken : Bookable rig
  · obtain ⟨handle, booked, pending⟩ := bookTaken taken
    refine ⟨?_, fun stopped => absurd playing stopped, ?_⟩
    · have waiting : List.filter (Booked.waits rig.player.generation) rig.scheduler.booked = [] :=
        unbooked.waiting
      rw [Watched.waiting, booked, pending, bookPlayer, List.filter_append, waiting]
      simp [Booked.waits]
    · intro one member
      rw [booked, List.mem_append, List.mem_singleton] at member
      rcases member with old | rfl
      · exact unbooked.past one old
      · exact Nat.le_refl _
  · exact bookRefusedCalm unbooked.unbookedCalm playing taken

theorem playCalm (calm : Calm rig) : Calm rig.play := by
  unfold play
  split
  · exact calm
  · rename_i stopped
    rw [not_or] at stopped
    split
    · exact (finishUnbooked calm.past).unbookedCalm
    · have unbooked := calm.calmUnbooked (calm.playing stopped.1)
      exact bookCalm (setTransportUnbooked unbooked .playing) (by rw [setTransportPlayer])

theorem pauseCalm (calm : Calm rig) : Calm rig.pause := by
  unfold pause
  split
  · exact (setTransportUnbooked (unbookUnbooked calm.past) .paused).unbookedCalm
  · exact calm

theorem advanceUnbooked (unbooked : Unbooked rig) : Unbooked rig.advance.1 := by
  have advanced := rig.advanceOutcome
  generalize rig.advance = result at advanced ⊢
  cases advanced with
  | exhausted none => exact finishUnbooked unbooked.past
  | last next last => exact finishUnbooked unbooked.past
  | more next more => exact ⟨unbooked.pending, unbooked.waiting, unbooked.past⟩

theorem advanceCalm (calm : Calm rig) : Calm rig.advance.1 := by
  have advanced := rig.advanceOutcome
  generalize rig.advance = result at advanced ⊢
  cases advanced with
  | exhausted none => exact (finishUnbooked calm.past).unbookedCalm
  | @last step next last =>
    have finished : Unbooked (rig.applied step).finish := finishUnbooked calm.past
    exact finished.unbookedCalm
  | more next more => exact ⟨calm.held, calm.playing, calm.past⟩

theorem beginOwed (rig : Rig (Watched σ)) {operation : Operation}
    (asked : ∀ generation, operation ≠ .tick generation) :
    (rig.begin operation).2 ≠ some .rebook := by
  cases operation with
  | control control =>
    cases control <;> simp only [begin] <;> try exact fun owed => by cases owed
    split
    · exact fun owed => by cases owed
    · dsimp only
      split <;> exact fun owed => by cases owed
  | load source => exact fun owed => by cases owed
  | setSpeed speed => exact fun owed => by cases owed
  | tick generation => exact absurd rfl (asked generation)

theorem beginCalm (calm : Calm rig) {operation : Operation}
    (asked : ∀ generation, operation ≠ .tick generation) : Calm (rig.begin operation).1 := by
  cases operation with
  | control control =>
    cases control with
    | play => exact playCalm calm
    | pause => exact pauseCalm calm
    | step =>
      simp only [begin]
      split
      · exact calm
      · exact advanceCalm (pauseCalm calm)
    | reset => exact (rewindUnbooked calm.past).unbookedCalm
  | load source =>
    have loaded : Unbooked (rig.loaded source) := by
      have unbooked := unbookUnbooked calm.past
      refine ⟨unbooked.pending, unbooked.waiting, ?_⟩
      rw [Past, loadedPlayer]
      exact unbooked.past
    rw [beginLoad]
    exact (rewindUnbooked loaded.past).unbookedCalm
  | setSpeed speed => exact ⟨calm.held, calm.playing, calm.past⟩
  | tick generation => exact absurd rfl (asked generation)

theorem tickCalm (calm : Calm rig) {index : Nat} {booked : Booked}
    (found : rig.scheduler.booked[index]? = some booked) (waits : booked.ran = false) :
    Calm ((rig.released index).begin (.tick booked.generation)).1 ∧
    ∀ owed, ((rig.released index).begin (.tick booked.generation)).2 = some owed →
      owed = .rebook ∧ Unbooked ((rig.released index).begin (.tick booked.generation)).1 := by
  -- at most one tick of the present generation waits, and this one has just left the list
  have past : Past (rig.released index) := Watched.releasePast calm.past index
  have one (same : booked.generation = rig.player.generation) :
      ((rig.released index).scheduler.waiting rig.player.generation).length + 1 =
        (rig.scheduler.waiting rig.player.generation).length :=
    Watched.releaseOne found (by simp [Booked.waits, same, waits])
  have count := congrArg List.length calm.held
  rw [List.length_map] at count
  by_cases live : booked.generation = rig.player.generation ∧ rig.player.transport = .playing
  · obtain ⟨present, playing⟩ := live
    have few := Option.length_toList_le (o := rig.player.pending)
    have less := one present
    have empty : (rig.released index).scheduler.waiting rig.player.generation = [] :=
      List.length_eq_zero_iff.mp (by omega)
    have unbooked : Unbooked (rig.released index).taken := ⟨rfl, empty, past⟩
    have begun := beginLive (show (rig.released index).player.transport = .playing from playing)
    rw [releasedPlayer, ← present] at begun
    rw [begun]
    refine ⟨(advanceUnbooked unbooked).unbookedCalm, fun owed told => ⟨?_, advanceUnbooked unbooked⟩⟩
    split at told
    · exact (Option.some.inj told).symm
    · cases told
  · have begun := beginStale (show ¬ (booked.generation = (rig.released index).player.generation ∧
      (rig.released index).player.transport = .playing) from live)
    rw [begun]
    refine ⟨⟨?_, calm.playing, past⟩, fun owed told => by cases told⟩
    by_cases same : booked.generation = rig.player.generation
    · have none := calm.playing fun playing => live ⟨same, playing⟩
      rw [none, ← one same] at count
      cases count
    · exact (congrArg (List.map Booked.handle) (Watched.releaseOther found same)).trans calm.held

theorem settleCalm (calm : Calm rig) {owed : Owed} (other : owed ≠ .rebook) :
    Calm (rig.settle owed) := by
  cases owed with
  | nothing => exact calm
  | settle =>
    simp only [settle]
    split
    · rename_i idle
      have none := calm.playing (by rw [idle]; exact Transport.noConfusion)
      exact (setTransportUnbooked (calm.calmUnbooked none) .paused).unbookedCalm
    · exact calm
  | rebook => exact absurd rfl other

theorem rebookCalm (calm : Calm rig)
    (fair : rig.player.transport = .playing → rig.player.pending.isSome → ¬ Bookable rig) :
    Calm (rig.settle .rebook) := by
  simp only [settle]
  split
  · rename_i playing
    cases pending : rig.player.pending with
    | none => exact bookCalm (calm.calmUnbooked pending) playing
    | some handle =>
      exact bookRefusedCalm calm playing (fair playing (by rw [pending]; rfl))
  · exact calm

end Rig
end LoopPlayer
