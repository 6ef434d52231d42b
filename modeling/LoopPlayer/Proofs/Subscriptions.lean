import Mathlib.Data.List.Perm.Subperm
import LoopPlayer.Proofs.LastPicture

/-! Subscriptions and the functions that take them back. The player keeps listeners, not
subscriptions, and such a function removes its listener once more each time it is called. Called a
second time it takes back another subscription of the same listener, if there still is one, and the
function of that one then finds less to remove. What the one takes and the other misses makes up the
difference between those who are told and the subscriptions that were never taken back. -/
namespace LoopPlayer
open scoped List

variable {σ : Type}

structure Subscription where
  listener : String
  released : Bool := false
  deriving DecidableEq, Repr

structure Desk (σ : Type) where
  stage : Stage σ
  made : List Subscription := []

inductive Doing (σ : Type) where
  | subscribe (listener : String)
  | release (number : Nat)
  | call (operation : Operation)
  | returned
  | failed
  | drift (scheduler : σ)

namespace Stage

variable [Scheduler σ]

def audience (stage : Stage σ) (operation : Operation) : List String :=
  let returns := List.replicate stage.rig.player.listeners.length (.move .returned)
  (stage.showsAll (.move (.call operation) :: returns)).map Shown.listener

omit [Scheduler σ] in
theorem showFirstListeners (picture board : Board) (listeners : List String) :
    (showFirst picture board listeners).map Shown.listener = listeners.head?.toList := by
  cases listeners <;> rfl

theorem tellShows (stage : Stage σ) (picture : Board) (owed : Owed) (listeners : List String) :
    ((stage.tell picture owed listeners).showsAll
      (List.replicate listeners.length (.move .returned))).map Shown.listener = listeners.tail := by
  induction listeners with
  | nil => rfl
  | cons first rest ih =>
    have next : (stage.tell picture owed (first :: rest)).after (.move .returned) =
        stage.tell picture owed rest := rfl
    have shown : (stage.tell picture owed (first :: rest)).shows (.move .returned) =
        showFirst picture stage.rig.player.board rest := rfl
    rw [List.length_cons, List.replicate_succ, showsAll, next, shown, List.map_append,
      showFirstListeners, ih, List.tail_cons]
    cases rest <;> rfl

theorem audienceListeners {stage : Stage σ} {operation : Operation}
    (told : (stage.rig.begin operation).2.isSome) :
    stage.audience operation = stage.rig.player.listeners := by
  obtain ⟨owed, owes⟩ := Option.isSome_iff_exists.mp told
  have listeners := Rig.beginListeners stage.rig operation
  have called : stage.after (.move (.call operation)) = _ := callTold owes
  rw [audience, showsAll, called, List.map_append, ← listeners, tellShows]
  simp only [shows]
  generalize stage.rig.begin operation = begun at owes ⊢
  obtain ⟨rig, some⟩ := begun
  cases owes
  rw [showFirstListeners]
  cases rig.player.listeners <;> rfl

end Stage

namespace Desk

def opened (steps : List Step) (settings : Settings) (scheduler : σ) : Desk σ :=
  { stage := Stage.start steps settings scheduler }

def listeners (desk : Desk σ) : List String := desk.stage.rig.player.listeners

def spared (desk : Desk σ) : List String :=
  (desk.made.filter fun one => !one.released).map Subscription.listener

/- A released subscription is released again, and its listener is still subscribed. -/
def takes (desk : Desk σ) (listener : String) : Doing σ → Nat
  | .release number =>
    if desk.made[number]? = some ⟨listener, true⟩ ∧ listener ∈ desk.listeners then 1 else 0
  | _ => 0

def misses (desk : Desk σ) (listener : String) : Doing σ → Nat
  | .release number =>
    if desk.made[number]? = some ⟨listener, false⟩ ∧ listener ∉ desk.listeners then 1 else 0
  | _ => 0

variable [Scheduler σ]

def after (desk : Desk σ) : Doing σ → Desk σ
  | .subscribe listener =>
    { stage := desk.stage.step (.subscribe listener), made := desk.made ++ [{ listener }] }
  | .release number =>
    match desk.made[number]? with
    | none => desk
    | some one =>
      { stage := desk.stage.step (.unsubscribe one.listener)
        made := desk.made.set number { one with released := true } }
  | .call operation => { desk with stage := desk.stage.step (.call operation) }
  | .returned => { desk with stage := desk.stage.step .returned }
  | .failed => { desk with stage := desk.stage.step .failed }
  | .drift scheduler => { desk with stage := desk.stage.after (.drift scheduler) }

def through (desk : Desk σ) (doings : List (Doing σ)) : Desk σ := doings.foldl after desk

def taken (desk : Desk σ) (listener : String) : List (Doing σ) → Nat
  | [] => 0
  | doing :: rest => desk.takes listener doing + (desk.after doing).taken listener rest

def missed (desk : Desk σ) (listener : String) : List (Doing σ) → Nat
  | [] => 0
  | doing :: rest => desk.misses listener doing + (desk.after doing).missed listener rest

end Desk

namespace Stage

variable [Scheduler σ]

theorem tellListeners (stage : Stage σ) (picture : Board) (owed : Owed) (listeners : List String) :
    (stage.tell picture owed listeners).rig.player.listeners = stage.rig.player.listeners := by
  rcases tellRig stage picture owed listeners with same | settled
  · rw [same]
  · obtain ⟨_, _, frame⟩ := Rig.settleFrame stage.rig owed
    rw [settled, frame]

theorem callListeners (stage : Stage σ) (operation : Operation) :
    (stage.step (.call operation)).rig.player.listeners = stage.rig.player.listeners := by
  have begun := Rig.beginListeners stage.rig operation
  simp only [step]
  generalize stage.rig.begin operation = result at begun ⊢
  obtain ⟨rig, none | owed⟩ := result
  · exact begun
  · rw [tellListeners, begun]

theorem returnedListeners (stage : Stage σ) :
    (stage.step .returned).rig.player.listeners = stage.rig.player.listeners := by
  simp only [step]
  split
  · rfl
  · rw [tellListeners]

end Stage

namespace Desk

theorem sparedCount (desk : Desk σ) (listener : String) :
    desk.spared.count listener = desk.made.count { listener } := by
  rw [spared, List.count, List.countP_map, List.countP_filter, List.count]
  refine congrArg (List.countP · desk.made) (funext fun one => ?_)
  obtain ⟨other, _ | _⟩ := one
  · by_cases own : other = listener <;> simp [own]
  · simp

theorem releasedCount {made : List Subscription} {number : Nat} {one : Subscription}
    (present : made[number]? = some one) (listener : String) :
    made.count { listener } =
      (made.set number { one with released := true }).count { listener } +
        if one = { listener } then 1 else 0 := by
  obtain ⟨inside, rfl⟩ := List.getElem?_eq_some_iff.mp present
  have released := (List.set_perm_cons_eraseIdx inside ⟨made[number].listener, true⟩).count_eq
    (⟨listener, false⟩ : Subscription)
  have before := (List.getElem_cons_eraseIdx_perm inside).count_eq
    (⟨listener, false⟩ : Subscription)
  rw [released, ← before, List.count_cons, List.count_cons]
  simp

theorem erasedCount (listeners : List String) (other listener : String) :
    listeners.count listener = (listeners.erase other).count listener +
      if other = listener ∧ listener ∈ listeners then 1 else 0 := by
  by_cases inside : other ∈ listeners
  · rw [(List.perm_cons_erase inside).count_eq listener, List.count_cons]
    by_cases own : other = listener
    · subst own
      simp [inside]
    · simp [own]
  · rw [List.erase_of_not_mem inside, if_neg, Nat.add_zero]
    rintro ⟨rfl, present⟩
    exact inside present

variable [Scheduler σ]

theorem afterAccounts (desk : Desk σ) (doing : Doing σ) (listener : String) :
    (desk.after doing).listeners.count listener + desk.takes listener doing +
        desk.made.count { listener } =
      desk.listeners.count listener + desk.misses listener doing +
        (desk.after doing).made.count { listener } := by
  cases doing with
  | subscribe other =>
    have listeners : (desk.after (.subscribe other)).listeners = desk.listeners ++ [other] := rfl
    have made : (desk.after (.subscribe other)).made = desk.made ++ [{ listener := other }] := rfl
    have same : [other].count listener =
        [({ listener := other } : Subscription)].count { listener } := by
      by_cases own : other = listener <;> simp [own]
    simp only [listeners, made, List.count_append, takes, misses, same]
    omega
  | release number =>
    cases present : desk.made[number]? with
    | none => simp [after, takes, misses, present]
    | some one =>
      have listeners : (desk.after (.release number)).listeners =
          desk.listeners.erase one.listener := by
        simp only [after, present]
        rfl
      have made : (desk.after (.release number)).made =
          desk.made.set number { one with released := true } := by
        simp only [after, present]
      have erased := erasedCount desk.listeners one.listener listener
      rw [listeners, made, takes, misses, present, erased, releasedCount present listener]
      generalize (desk.listeners.erase one.listener).count listener = left
      obtain ⟨other, released⟩ := one
      by_cases own : other = listener
      · by_cases inside : listener ∈ desk.listeners <;> cases released <;>
          simp [own, inside] <;> omega
      · simp [own]
  | call operation =>
    have listeners : (desk.after (.call operation)).listeners = desk.listeners :=
      desk.stage.callListeners operation
    rw [listeners]
    rfl
  | returned =>
    have listeners : (desk.after .returned).listeners = desk.listeners :=
      desk.stage.returnedListeners
    rw [listeners]
    rfl
  | failed => rfl
  | drift scheduler => rfl

theorem missesNobody {desk : Desk σ} {doing : Doing σ} {listener : String}
    (misses : desk.misses listener doing ≠ 0) :
    (desk.after doing).listeners.count listener = 0 := by
  cases doing with
  | release number =>
    simp only [Desk.misses, ne_eq, ite_eq_right_iff, Nat.one_ne_zero, imp_false,
      Decidable.not_not] at misses
    obtain ⟨present, outside⟩ := misses
    have listeners : (desk.after (.release number)).listeners = desk.listeners.erase listener := by
      simp only [after, present]
      rfl
    rw [listeners, List.erase_of_not_mem outside]
    exact List.count_eq_zero_of_not_mem outside
  | _ => exact absurd rfl misses

structure Settled (desk : Desk σ) (listener : String) (taken missed : Nat) : Prop where
  account : desk.listeners.count listener + taken = desk.made.count { listener } + missed
  within : desk.listeners.count listener ≤ desk.made.count { listener }

theorem throughSettled {desk : Desk σ} {listener : String} {taken missed : Nat}
    (settled : Settled desk listener taken missed) (doings : List (Doing σ)) :
    Settled (desk.through doings) listener (taken + desk.taken listener doings)
      (missed + desk.missed listener doings) := by
  induction doings generalizing desk taken missed with
  | nil => exact settled
  | cons doing rest ih =>
    have accounts := desk.afterAccounts doing listener
    obtain ⟨account, within⟩ := settled
    have next : Settled (desk.after doing) listener (taken + desk.takes listener doing)
        (missed + desk.misses listener doing) := by
      refine ⟨by omega, ?_⟩
      by_cases misses : desk.misses listener doing = 0
      · omega
      · rw [missesNobody misses]
        exact Nat.zero_le _
    rw [Desk.taken, Desk.missed, ← Nat.add_assoc, ← Nat.add_assoc]
    exact ih next

/-- Whatever is done at a desk, those whom the next notification tells are, listener by listener, as
many as the subscriptions never released, less those that were taken and more those that were
missed. Nobody is told more often. So they are the same as long as no subscription is released again
while its listener is still subscribed. -/
theorem audienceSpared (steps : List Step) (settings : Settings) (scheduler : σ)
    (doings : List (Doing σ)) (operation : Operation)
    (told :
      (((opened steps settings scheduler).through doings).stage.rig.begin operation).2.isSome) :
    let start := opened steps settings scheduler
    let desk := start.through doings
    let audience := desk.stage.audience operation
    (∀ listener, audience.count listener + start.taken listener doings =
      desk.spared.count listener + start.missed listener doings) ∧
    audience <+~ desk.spared ∧
    ((∀ listener, start.taken listener doings = 0) → audience ~ desk.spared) := by
  intro start desk audience
  have everyone : audience = desk.listeners := Stage.audienceListeners told
  have settled (listener : String) : Settled desk listener (start.taken listener doings)
      (start.missed listener doings) := by
    have none : Settled start listener 0 0 := ⟨rfl, Nat.le_refl 0⟩
    have settled := throughSettled none doings
    rwa [Nat.zero_add, Nat.zero_add] at settled
  rw [everyone]
  refine ⟨fun listener => ?_, List.subperm_ext_iff.mpr fun listener _ => ?_, fun apart => ?_⟩
  · rw [sparedCount]
    exact (settled listener).account
  · rw [sparedCount]
    exact (settled listener).within
  · refine List.perm_iff_count.mpr fun listener => ?_
    have account := (settled listener).account
    have within := (settled listener).within
    rw [apart listener] at account
    rw [sparedCount]
    omega

theorem releasedAgainSpared :
    let doings : List (Doing Ledger) := [.subscribe "a", .release 0, .release 0, .subscribe "b"]
    let desk := (opened [] {} ({} : Ledger)).through doings
    desk.spared = ["b"] ∧ desk.stage.audience (.control .reset) ~ desk.spared := by
  intro doings desk
  refine ⟨by decide, ?_⟩
  obtain ⟨-, -, same⟩ := audienceSpared [] {} ({} : Ledger) doings (.control .reset) (by decide)
  refine same fun listener => ?_
  by_cases own : "a" = listener
  · subst own
    decide
  · simp [doings, Desk.taken, takes, after, opened, Stage.step, Stage.setListeners, own]

/- The function of the first of two subscriptions is called twice, and nobody is told any more. -/
theorem releasedTwiceTakes :
    let doings : List (Doing Ledger) := [.subscribe "a", .subscribe "a", .release 0, .release 0]
    let desk := (opened [] {} ({} : Ledger)).through doings
    desk.spared = ["a"] ∧ desk.stage.audience (.control .reset) = [] := by
  decide

end Desk
end LoopPlayer
