import LoopPlayer.Player.View
import LoopPlayer.Proofs.Onlookers

/-! Starting anew. A player that was rewound, whatever was done to it before, goes on as a player
that was just made: the two differ in how old they are and in the ticks that are left over from
before, and neither is ever seen. -/
namespace LoopPlayer

namespace Ledger

def calls (ledger : Ledger) : List (Int × Nat) :=
  ledger.bookings.map fun booking => (booking.delay, booking.generation)

@[simp] theorem callsLater (ledger : Ledger) (ms : Int) (generation : Nat) :
    (ledger.later ms generation).calls = ledger.calls ++ [(ms, generation)] := by
  simp [calls, later]

@[simp] theorem callsClose (ledger : Ledger) (index : Nat) :
    (ledger.close index).calls = ledger.calls := by
  apply List.ext_getElem?
  intro i
  simp only [calls, close, List.getElem?_map, List.getElem?_modify]
  cases ledger.bookings[i]? with
  | none => rfl
  | some booking =>
    simp only [Option.map_some]
    split <;> rfl

@[simp] theorem callsCancel (ledger : Ledger) (index : Nat) :
    (ledger.cancel index).calls = ledger.calls := by
  unfold cancel
  split
  · exact callsClose ledger index
  · rfl

end Ledger

/-- What may befall a player on a ledger: it is asked for something, or a tick is run, one that was
cancelled or ran before included. -/
inductive Incident where
  | order (order : Order)
  | fire (index : Nat)
  deriving DecidableEq, Repr

def Incident.since (made : Nat) : Incident → Option Incident
  | .order asked => some (.order asked)
  | .fire index => if index < made then none else some (.fire (index - made))

namespace Rig

def fire (rig : Rig Ledger) (index : Nat) : Rig Ledger :=
  match rig.scheduler.bookings[index]? with
  | some booking =>
    ({ rig with scheduler := rig.scheduler.close index }.perform (.tick booking.generation)).1
  | none => rig

def meet (rig : Rig Ledger) : Incident → Rig Ledger
  | .order order => rig.heed order
  | .fire index => rig.fire index

def meetAll (rig : Rig Ledger) (incidents : List Incident) : Rig Ledger := incidents.foldl meet rig

theorem unbookCalls (rig : Rig Ledger) : rig.unbook.scheduler.calls = rig.scheduler.calls := by
  unfold unbook
  cases rig.player.pending with
  | none => rfl
  | some handle => exact Ledger.callsCancel _ handle

theorem bookCalls (rig : Rig Ledger) : rig.book.scheduler.calls = rig.scheduler.calls ++
    [(rig.player.settings.interval rig.player.speed, rig.player.generation)] :=
  Ledger.callsLater _ _ _

/- Two players that show the same and will do the same, one older than the other by some generations
and with calls from before. -/
structure Twin (past : List (Int × Nat)) (age : Nat) (elder younger : Rig Ledger) : Prop where
  player : elder.player = { younger.player with
    generation := age + younger.player.generation
    pending := elder.player.pending
    listeners := elder.player.listeners }
  calls : elder.scheduler.calls = past ++ younger.scheduler.calls.map fun call =>
    (call.1, age + call.2)

def aged (age : Nat) : Operation → Operation
  | .tick generation => .tick (age + generation)
  | operation => operation

namespace Twin

variable {past : List (Int × Nat)} {age : Nat} {elder younger : Rig Ledger}

theorem noteKeeps (twin : Twin past age elder younger) (notice other : Notice) :
    Twin past age (elder.note notice) (younger.note other) := ⟨twin.player, twin.calls⟩

theorem sameTransport (twin : Twin past age elder younger) :
    elder.player.transport = younger.player.transport := by rw [twin.player]

theorem sameSteps (twin : Twin past age elder younger) :
    elder.player.steps = younger.player.steps := by rw [twin.player]

theorem sameBoard (twin : Twin past age elder younger) :
    elder.player.board = younger.player.board := by rw [twin.player]

theorem generationAged (twin : Twin past age elder younger) :
    elder.player.generation = age + younger.player.generation := by rw [twin.player]

theorem playerChangeKeeps (twin : Twin past age elder younger)
    {changedElder changedYounger : Rig Ledger}
    (player : changedElder.player = { changedYounger.player with
      generation := age + changedYounger.player.generation
      pending := changedElder.player.pending
      listeners := changedElder.player.listeners })
    (elderCalls : changedElder.scheduler.calls = elder.scheduler.calls)
    (youngerCalls : changedYounger.scheduler.calls = younger.scheduler.calls) :
    Twin past age changedElder changedYounger :=
  ⟨player, by rw [elderCalls, youngerCalls, twin.calls]⟩

theorem setTransportKeeps (twin : Twin past age elder younger) (transport : Transport) :
    Twin past age (elder.setTransport transport) (younger.setTransport transport) := by
  refine twin.playerChangeKeeps ?_ (by rw [setTransportScheduler]) (by rw [setTransportScheduler])
  simp only [setTransportPlayer]
  exact congrArg (fun player : Player => { player with transport }) twin.player

theorem bookKeeps (twin : Twin past age elder younger) : Twin past age elder.book younger.book where
  player := by
    simp only [bookPlayer]
    exact congrArg (fun player : Player => { player with pending := elder.book.player.pending })
      twin.player
  calls := by
    have interval : elder.player.settings.interval elder.player.speed =
        younger.player.settings.interval younger.player.speed := by rw [twin.player]
    rw [bookCalls, bookCalls, twin.calls, interval, twin.generationAged, List.map_append,
      List.append_assoc]
    rfl

theorem unbookKeeps (twin : Twin past age elder younger) :
    Twin past age elder.unbook younger.unbook := by
  refine twin.playerChangeKeeps ?_ (unbookCalls elder) (unbookCalls younger)
  simp only [unbookPlayer]
  rw [twin.generationAged, Nat.add_assoc]
  exact congrArg (fun player : Player =>
    { player with generation := age + (younger.player.generation + 1), pending := none }) twin.player

theorem finishKeeps (twin : Twin past age elder younger) :
    Twin past age elder.finish younger.finish :=
  twin.unbookKeeps.setTransportKeeps .finished

theorem boardChangeKeeps (twin : Twin past age elder younger) (board : Board) :
    Twin past age { elder with player := { elder.player with board } }
      { younger with player := { younger.player with board } } :=
  twin.playerChangeKeeps (congrArg (fun player : Player => { player with board }) twin.player)
    rfl rfl

theorem stepsChangeKeeps (twin : Twin past age elder younger) (steps : List Step) :
    Twin past age { elder with player := { elder.player with steps } }
      { younger with player := { younger.player with steps } } :=
  twin.playerChangeKeeps (congrArg (fun player : Player => { player with steps }) twin.player)
    rfl rfl

theorem appliedKeeps (twin : Twin past age elder younger) (step : Step) :
    Twin past age (elder.applied step) (younger.applied step) := by
  have same : elder.player.board.apply elder.player.matching step =
      younger.player.board.apply younger.player.matching step := by
    simp only [Player.matching]
    rw [twin.player]
  simp only [Rig.applied, same]
  exact (twin.boardChangeKeeps _).noteKeeps _ _

theorem takenKeeps (twin : Twin past age elder younger) : Twin past age elder.taken younger.taken :=
  twin.playerChangeKeeps
    (congrArg (fun player : Player => { player with pending := none }) twin.player) rfl rfl

theorem advanceKeeps (twin : Twin past age elder younger) :
    Twin past age elder.advance.1 younger.advance.1 ∧ elder.advance.2 = younger.advance.2 := by
  have next : elder.player.next? = younger.player.next? := by
    rw [Player.next?, Player.next?, twin.sameSteps, twin.sameBoard]
  rw [advance, advance, next]
  cases younger.player.next? with
  | none => exact ⟨twin.finishKeeps, rfl⟩
  | some step =>
    have applied := twin.appliedKeeps step
    have last : ((elder.applied step).player.board.index + 1 ==
        ((elder.applied step).player.steps.length : Int)) =
        ((younger.applied step).player.board.index + 1 ==
        ((younger.applied step).player.steps.length : Int)) := by
      rw [applied.sameBoard, applied.sameSteps]
    refine ⟨?_, rfl⟩
    show Twin past age
      (if (elder.applied step).player.board.index + 1 ==
        ((elder.applied step).player.steps.length : Int) then (elder.applied step).finish
        else elder.applied step)
      (if (younger.applied step).player.board.index + 1 ==
        ((younger.applied step).player.steps.length : Int) then (younger.applied step).finish
        else younger.applied step)
    rw [last]
    split
    · exact applied.finishKeeps
    · exact applied

theorem pauseKeeps (twin : Twin past age elder younger) :
    Twin past age elder.pause younger.pause := by
  rw [pause, pause, twin.sameTransport]
  split
  · exact twin.unbookKeeps.setTransportKeeps .paused
  · exact twin

theorem playKeeps (twin : Twin past age elder younger) :
    Twin past age elder.play younger.play := by
  rw [play, play, twin.sameTransport, twin.sameSteps, twin.sameBoard]
  split
  · exact twin
  · split
    · exact twin.finishKeeps
    · exact (twin.setTransportKeeps .playing).bookKeeps

theorem rewindKeeps (twin : Twin past age elder younger) :
    Twin past age elder.rewind younger.rewind :=
  (twin.unbookKeeps.boardChangeKeeps {}).setTransportKeeps .idle

theorem loadedKeeps (twin : Twin past age elder younger) (source : String) :
    Twin past age (elder.loaded source) (younger.loaded source) := by
  unfold Rig.loaded
  generalize compile source = compiled
  have compiling := twin.unbookKeeps.noteKeeps compiled.2 compiled.2
  exact (compiling.stepsChangeKeeps compiled.1).noteKeeps _ _

theorem beginKeeps (twin : Twin past age elder younger) (operation : Operation) :
    Twin past age (elder.begin (aged age operation)).1 (younger.begin operation).1 ∧
      (elder.begin (aged age operation)).2 = (younger.begin operation).2 := by
  cases operation with
  | control control =>
    cases control with
    | play => exact ⟨twin.playKeeps, rfl⟩
    | pause => exact ⟨twin.pauseKeeps, rfl⟩
    | step =>
      obtain ⟨advanced, told⟩ := twin.pauseKeeps.advanceKeeps
      simp only [aged, begin, twin.sameTransport]
      split
      · exact ⟨twin, rfl⟩
      · exact ⟨advanced, by simp only [told]⟩
    | reset => exact ⟨twin.rewindKeeps, rfl⟩
  | load source =>
    have same : aged age (.load source) = .load source := rfl
    rw [same, beginLoad, beginLoad]
    exact ⟨(twin.loadedKeeps source).rewindKeeps, rfl⟩
  | setSpeed speed =>
    have same : elder.player.settings.clampSpeed speed =
        younger.player.settings.clampSpeed speed := by rw [twin.player]
    simp only [aged, begin, same]
    refine ⟨twin.playerChangeKeeps ?_ rfl rfl, trivial⟩
    exact congrArg (fun player : Player =>
      { player with speed := younger.player.settings.clampSpeed speed }) twin.player
  | tick generation =>
    obtain ⟨advanced, told⟩ := twin.takenKeeps.advanceKeeps
    by_cases live : generation = younger.player.generation ∧ younger.player.transport = .playing
    · obtain ⟨rfl, playing⟩ := live
      rw [aged, ← twin.generationAged, beginLive (twin.sameTransport.trans playing),
        beginLive playing]
      exact ⟨advanced, by simp only [told]⟩
    · have stale : ¬ (age + generation = elder.player.generation ∧
          elder.player.transport = .playing) := by
        rw [twin.generationAged, twin.sameTransport, Nat.add_left_cancel_iff]
        exact live
      rw [aged, beginStale stale, beginStale live]
      exact ⟨twin.noteKeeps _ _, rfl⟩

theorem settleKeeps (twin : Twin past age elder younger) (owed : Owed) :
    Twin past age (elder.settle owed) (younger.settle owed) := by
  cases owed with
  | nothing => exact twin
  | settle =>
    simp only [settle, twin.sameTransport]
    split
    · exact twin.setTransportKeeps .paused
    · exact twin
  | rebook =>
    simp only [settle, twin.sameTransport]
    split
    · exact twin.bookKeeps
    · exact twin

theorem performKeeps (twin : Twin past age elder younger) (operation : Operation) :
    Twin past age (elder.perform (aged age operation)).1 (younger.perform operation).1 := by
  obtain ⟨begun, told⟩ := twin.beginKeeps operation
  cases owed : (younger.begin operation).2 with
  | none =>
    rw [performQuiet owed, performQuiet (told.trans owed)]
    exact begun
  | some owes =>
    rw [performTold owed, performTold (told.trans owed)]
    exact begun.settleKeeps owes

theorem heedKeeps (twin : Twin past age elder younger) (order : Order) :
    Twin past age (elder.heed order) (younger.heed order) := by
  cases order with
  | control control => exact twin.performKeeps (.control control)
  | load source => exact twin.performKeeps (.load source)
  | setSpeed speed => exact twin.performKeeps (.setSpeed speed)
  | subscribe listener => exact twin.playerChangeKeeps (by rw [heed, heed, twin.player]) rfl rfl
  | unsubscribe listener => exact twin.playerChangeKeeps (by rw [heed, heed, twin.player]) rfl rfl

theorem bookingAt (twin : Twin past age elder younger) {index : Nat} (later : past.length ≤ index) :
    (elder.scheduler.bookings[index]?).map Booking.generation =
      (younger.scheduler.bookings[index - past.length]?).map fun booking =>
        age + booking.generation := by
  have calls := congrArg (·[index]?) twin.calls
  simp only [List.getElem?_append_right later, Ledger.calls, List.getElem?_map] at calls
  have generations := congrArg (Option.map Prod.snd) calls
  rw [Option.map_map, Option.map_map, Option.map_map] at generations
  exact generations

theorem closeKeeps (twin : Twin past age elder younger) (index other : Nat) :
    Twin past age { elder with scheduler := elder.scheduler.close index }
      { younger with scheduler := younger.scheduler.close other } :=
  twin.playerChangeKeeps twin.player (Ledger.callsClose _ _) (Ledger.callsClose _ _)

theorem fireKeeps (twin : Twin past age elder younger) {index : Nat} (later : past.length ≤ index) :
    Twin past age (elder.fire index) (younger.fire (index - past.length)) := by
  have booking := twin.bookingAt later
  unfold fire
  cases ofYounger : younger.scheduler.bookings[index - past.length]? with
  | none =>
    rw [ofYounger, Option.map_none, Option.map_eq_none_iff] at booking
    rw [booking]
    exact twin
  | some own =>
    rw [ofYounger, Option.map_some] at booking
    obtain ⟨old, ofElder, same⟩ := Option.map_eq_some_iff.mp booking
    rw [ofElder]
    simp only
    rw [same]
    exact (twin.closeKeeps _ _).performKeeps (.tick own.generation)

theorem firedBefore (twin : Twin past age elder younger) (before : ∀ call ∈ past, call.2 < age)
    {index : Nat} (earlier : index < past.length) : Twin past age (elder.fire index) younger := by
  have calls := congrArg (·[index]?) twin.calls
  simp only [List.getElem?_append_left earlier, Ledger.calls, List.getElem?_map,
    List.getElem?_eq_getElem earlier] at calls
  obtain ⟨booking, found, same⟩ := Option.map_eq_some_iff.mp calls
  have old : booking.generation < age := by
    have bound := before past[index] (List.getElem_mem earlier)
    rwa [← same] at bound
  let closed : Rig Ledger := { elder with scheduler := elder.scheduler.close index }
  have stale : ¬ (booking.generation = closed.player.generation ∧
      closed.player.transport = .playing) := by
    have same : closed.player.generation = age + younger.player.generation := twin.generationAged
    omega
  have quiet : (closed.begin (.tick booking.generation)).2 = none := by rw [beginStale stale]
  have fired : elder.fire index = closed.note (.staleTick booking.generation) := by
    rw [fire, found]
    exact (performQuiet quiet).trans (by rw [beginStale stale])
  rw [fired]
  exact twin.playerChangeKeeps twin.player (Ledger.callsClose _ _) rfl

theorem metAll (twin : Twin past age elder younger) (before : ∀ call ∈ past, call.2 < age)
    (incidents : List Incident) :
    Twin past age (elder.meetAll incidents)
      (younger.meetAll (incidents.filterMap (Incident.since past.length))) := by
  induction incidents generalizing elder younger with
  | nil => exact twin
  | cons incident rest ih =>
    cases incident with
    | order order =>
      have kept : Incident.since past.length (.order order) = some (.order order) := rfl
      rw [List.filterMap_cons_some kept]
      exact ih (twin.heedKeeps order)
    | fire index =>
      by_cases earlier : index < past.length
      -- a tick from before is stale for the elder one, and the younger one never had it
      · have dropped : Incident.since past.length (.fire index) = none := if_pos earlier
        rw [List.filterMap_cons_none dropped]
        exact ih (twin.firedBefore before earlier)
      · have kept : Incident.since past.length (.fire index) = some (.fire (index - past.length)) :=
          if_neg earlier
        rw [List.filterMap_cons_some kept]
        exact ih (twin.fireKeeps (Nat.le_of_not_lt earlier))

end Twin

def Bygone (rig : Rig Ledger) : Prop :=
  ∀ call ∈ rig.scheduler.calls, call.2 ≤ rig.player.generation

theorem Worked.bygoneKept {before after : Rig Ledger} (worked : Worked before after)
    (bygone : Bygone before) : Bygone after := by
  induction worked with
  | still still => rwa [Bygone, still.scheduler, still.generation]
  | book rig =>
    intro call member
    rw [bookCalls, List.mem_append, List.mem_singleton] at member
    rcases member with earlier | rfl
    · exact bygone call earlier
    · exact Nat.le_refl _
  | unbook rig =>
    intro call member
    rw [unbookCalls] at member
    exact Nat.le_succ_of_le (bygone call member)
  | finish rig =>
    intro call member
    rw [Rig.finish, setTransportScheduler, unbookCalls] at member
    rw [finishPlayer]
    exact Nat.le_succ_of_le (bygone call member)
  | trans _ _ first second => exact second (first bygone)

structure Aged (settings : Settings) (rig : Rig Ledger) : Prop where
  bygone : Bygone rig
  configured : rig.player.settings = settings
  speed : settings.clampSpeed rig.player.speed = rig.player.speed

theorem clampTwice (settings : Settings) (speed : Int) :
    settings.clampSpeed (settings.clampSpeed speed) = settings.clampSpeed speed := by
  simp only [Settings.clampSpeed]
  omega

namespace Aged

variable {settings : Settings} {rig : Rig Ledger}

theorem workedKeeps (aged : Aged settings rig) {after : Rig Ledger} (worked : Worked rig after) :
    Aged settings after := by
  obtain ⟨same, speed⟩ := worked.workedGeared
  refine ⟨worked.bygoneKept aged.bygone, same.trans aged.configured, ?_⟩
  rcases speed with still | ⟨speed, bounded⟩
  · rw [still]
    exact aged.speed
  · rw [bounded, aged.configured]
    exact clampTwice settings speed

theorem meetKeeps (aged : Aged settings rig) (incident : Incident) :
    Aged settings (rig.meet incident) := by
  cases incident with
  | order order =>
    cases order with
    | control control => exact aged.workedKeeps (performWorked rig _)
    | load source => exact aged.workedKeeps (performWorked rig _)
    | setSpeed speed => exact aged.workedKeeps (performWorked rig _)
    | subscribe listener => exact ⟨aged.bygone, aged.configured, aged.speed⟩
    | unsubscribe listener => exact ⟨aged.bygone, aged.configured, aged.speed⟩
  | fire index =>
    simp only [meet, fire]
    split
    · have closed : Aged settings { rig with scheduler := rig.scheduler.close index } := by
        refine ⟨?_, aged.configured, aged.speed⟩
        simp only [Bygone, Ledger.callsClose]
        exact aged.bygone
      exact closed.workedKeeps (performWorked _ _)
    · exact aged

theorem metAll (aged : Aged settings rig) (incidents : List Incident) :
    Aged settings (rig.meetAll incidents) := by
  induction incidents generalizing rig with
  | nil => exact aged
  | cons incident rest ih => exact ih (aged.meetKeeps incident)

theorem startAged (steps : List Step) (settings : Settings) (honours : Bool) :
    Aged settings (Rig.start steps settings { honours }) :=
  ⟨fun _ member => (nomatch member), rfl, clampTwice settings settings.speed⟩

end Aged

/-- Whatever befalls both from now on, ticks from before included, the one shows the same and makes
the same calls as the other, which has `made` calls less behind it. -/
def Alike (made : Nat) (elder younger : Rig Ledger) : Prop :=
  ∀ incidents : List Incident,
    let old := elder.meetAll incidents
    let new := younger.meetAll (incidents.filterMap (Incident.since made))
    old.player.view = new.player.view ∧
      (old.scheduler.bookings.drop made).map Booking.delay = new.scheduler.bookings.map Booking.delay

theorem Twin.twinsAlike {past : List (Int × Nat)} {age : Nat} {elder younger : Rig Ledger}
    (twin : Twin past age elder younger) (before : ∀ call ∈ past, call.2 < age) :
    Alike past.length elder younger := by
  intro incidents old new
  have met : Twin past age old new := twin.metAll before incidents
  refine ⟨?_, ?_⟩
  · rw [met.player]
    rfl
  · have calls := congrArg (fun calls => (calls.drop past.length).map Prod.fst) met.calls
    simpa [Ledger.calls, Function.comp_def] using calls

theorem Aged.rewoundAlike {settings : Settings} {rig younger : Rig Ledger} (aged : Aged settings rig)
    (fresh : younger.player =
      { steps := rig.player.steps, settings, speed := settings.clampSpeed rig.player.speed })
    (unused : younger.scheduler.bookings = []) :
    Alike rig.scheduler.bookings.length rig.rewind younger := by
  have calls : rig.rewind.scheduler.calls = rig.scheduler.calls := by
    rw [rewind, setTransportScheduler]
    exact unbookCalls rig
  have twin : Twin rig.scheduler.calls (rig.player.generation + 1) rig.rewind younger := by
    refine ⟨?_, ?_⟩
    · rw [rewindPlayer, fresh, aged.speed, ← aged.configured]
      rfl
    · rw [calls, Ledger.calls, Ledger.calls, unused]
      exact (List.append_nil _).symm
  have before : ∀ call ∈ rig.scheduler.calls, call.2 < rig.player.generation + 1 :=
    fun call member => Nat.lt_succ_of_le (aged.bygone call member)
  have length : rig.scheduler.calls.length = rig.scheduler.bookings.length := List.length_map _
  rw [← length]
  exact twin.twinsAlike before

/-- Whatever was done to a player and whichever of its ticks ran, once it is rewound or gets another
program it goes on, at every moment, as a player just made from the same trace with the same settings
and at the same speed, in what it shows and in the calls that it makes. Ticks from before may run as
often as they like. -/
theorem rewoundStartsAnew (steps : List Step) (settings : Settings) (honours : Bool)
    (history : List Incident) :
    let rig := (Rig.start steps settings ({ honours } : Ledger)).meetAll history
    let made := rig.scheduler.bookings.length
    Alike made (rig.heed (.control .reset))
      ((Rig.start rig.player.steps settings ({ honours } : Ledger)).heed
        (.setSpeed rig.player.speed)) ∧
    ∀ source, Alike made (rig.heed (.load source))
      ((Rig.ofSource source settings ({ honours } : Ledger)).heed (.setSpeed rig.player.speed)) := by
  intro rig made
  have aged : Aged settings rig := (Aged.startAged steps settings honours).metAll history
  constructor
  · exact aged.rewoundAlike rfl rfl
  · intro source
    have loaded : Aged settings (rig.loaded source) := aged.workedKeeps (.loadedWorked rig source)
    have calls : (rig.loaded source).scheduler.calls = rig.scheduler.calls := unbookCalls rig
    have length : (rig.loaded source).scheduler.bookings.length = made := by
      simpa only [Ledger.calls, List.length_map] using congrArg List.length calls
    rw [← length]
    refine loaded.rewoundAlike ?_ rfl
    simp only [loadedPlayer, ofSource]
    -- What the program compiles to does not matter, and is not worked out.
    generalize compile source = compiled
    rfl

end Rig
end LoopPlayer
