import Mathlib.Data.List.Nodup
import LoopPlayer.Proofs.Occurrences
import LoopPlayer.Proofs.Registrations

/-! What a block reads for logging calls: the line that opens it and the lines of its body that are in
no inner registration. It prints no more than these lines have calls, and two blocks read no line in
common as long as chains keep to the blocks that they start in. -/
namespace LoopPlayer

namespace Source
open Text (Line strip occurrences)
open Block (Part parts partsTile registered? registeredInside registrationStop stop stopNested)

variable {lines : List Line}

def bodyLines (lines : List Line) (start upTo : Nat) : List Nat :=
  (parts lines (start + 1) upTo).filterMap fun
    | .line index => some index
    | .inner .. => none

def owned (lines : List Line) (block : Registration × Nat × Nat) : List Nat :=
  block.2.1 :: bodyLines lines block.2.1 block.2.2

def texts (lines : List Line) (block : Registration × Nat × Nat) : List Printed :=
  (block.2.1, head lines block.2.1 block.1) ::
    (bodyLines lines block.2.1 block.2.2).map fun index => (index, stripped lines index)

def callsAt (lines : List Line) (index : Nat) : Nat :=
  occurrences Logging.opening (lines[index]?.getD [])

def blockCalls (lines : List Line) (block : Registration × Nat × Nat) : Nat :=
  ((owned lines block).map (callsAt lines)).sum

theorem sumFlatMap {α β : Type} (all : List α) (f : α → List β) (count : β → Nat) :
    ((all.flatMap f).map count).sum = (all.map fun a => ((f a).map count).sum).sum := by
  rw [List.map_flatMap, List.flatMap_def, List.sum_flatten, List.map_map]
  rfl

theorem textsOwned (lines : List Line) (block : Registration × Nat × Nat) :
    (texts lines block).map Prod.fst = owned lines block := by
  rw [texts, owned, List.map_cons, List.map_map]
  exact congrArg _ (List.map_id _)

theorem chainTextsRead (lines : List Line) (start upTo : Nat) :
    chainTexts lines start upTo = texts lines (.promise, start, upTo) := by
  rw [chainTexts, texts, bodyLines, List.map_filterMap]
  refine congrArg _ (List.filterMap_congr fun part _ => ?_)
  cases part <;> rfl

theorem callbackPrintedRead (lines : List Line) (start upTo : Nat) (registration : Registration) :
    callbackPrinted lines start upTo registration =
      (texts lines (registration, start, upTo)).flatMap fun read => printedBy read.1 read.2 := by
  rw [callbackPrinted, texts, List.flatMap_cons, List.flatMap_map, bodyLines]
  refine congrArg _ ?_
  induction parts lines (start + 1) upTo with
  | nil => rfl
  | cons part rest ih =>
    cases part with
    | line index => rw [List.flatMap_cons, ih]; rfl
    | inner registration first next => rw [List.flatMap_cons, ih]; rfl

theorem printedByCalls (index : Nat) (text : List Char) :
    (printedBy index text).length ≤ occurrences Logging.opening text := by
  rw [printedBy, List.length_map]
  exact Logging.outputsCalls text

theorem textsCalls (lines : List Line) (block : Registration × Nat × Nat) :
    ((texts lines block).map fun read => occurrences Logging.opening read.2).sum ≤
      blockCalls lines block := by
  rw [blockCalls, ← textsOwned, List.map_map]
  refine List.sum_le_sum fun read member => ?_
  have whole (index : Nat) : occurrences Logging.opening (stripped lines index) ≤ callsAt lines index :=
    Text.occurrencesStrip Logging.opening _
  rcases List.mem_cons.mp member with rfl | body
  · exact Nat.le_trans (Text.occurrencesDrop _ _ _) (whole _)
  · obtain ⟨index, -, rfl⟩ := List.mem_map.mp body
    exact whole index

theorem deferredOutputs (registration : Registration) (start : Nat) (printed : List Printed) :
    (deferred registration start printed).outputs.length = printed.length := by
  cases printed <;> simp [deferred, Task.outputs]

theorem linksPrinted (read : Printed) :
    ((links read).map fun link => (printedBy link.line link.text).length).sum ≤
      occurrences Logging.opening read.2 := by
  obtain ⟨index, text⟩ := read
  have cut := Text.occurrencesPieces Logging.opening attachment text
  rw [links]
  generalize Text.pieces attachment text = pieces at cut ⊢
  refine Nat.le_trans ?_ cut
  cases pieces with
  | nil => exact Nat.le_refl _
  | cons first rest =>
    rw [List.map_cons, List.sum_cons, List.map_map, List.map_cons, List.sum_cons]
    exact Nat.add_le_add (printedByCalls index first)
      (List.sum_le_sum fun piece _ => printedByCalls index piece)

theorem continuationsPrinted (all : List Link) :
    (continuations all).1.length + ((continuations all).2.map fun task => task.2.length).sum =
      (all.map fun link => (printedBy link.line link.text).length).sum := by
  induction all with
  | nil => rfl
  | cons link rest ih =>
    rw [List.map_cons, List.sum_cons, ← ih, continuations]
    cases link.attached <;> simp <;> omega

theorem tasksOutputs (lines : List Line) (block : Registration × Nat × Nat) :
    ((blockTasks lines block).map fun task => task.outputs.length).sum ≤ blockCalls lines block := by
  obtain ⟨registration, start, upTo⟩ := block
  refine Nat.le_trans ?_ (textsCalls lines _)
  have callback : ([deferred registration start
      (callbackPrinted lines start upTo registration)].map fun task => task.outputs.length).sum ≤
      ((texts lines (registration, start, upTo)).map fun read =>
        occurrences Logging.opening read.2).sum := by
    rw [List.map_singleton, List.sum_singleton, deferredOutputs, callbackPrintedRead,
      List.length_flatMap]
    exact List.sum_le_sum fun read _ => printedByCalls read.1 read.2
  cases registration with
  | promise =>
    have tasks : blockTasks lines (.promise, start, upTo) = chainTasks lines start upTo := rfl
    have printed := continuationsPrinted ((chainTexts lines start upTo).flatMap links)
    have lengths : ((fun task : Task => task.outputs.length) ∘ fun (index, printed) =>
        deferred .promise index printed) = fun task => task.2.length :=
      funext fun task => deferredOutputs .promise task.1 task.2
    rw [sumFlatMap, chainTextsRead] at printed
    rw [tasks, chainTasks, List.map_map, lengths, chainTextsRead]
    refine Nat.le_trans (Nat.le_add_left _ _) (Nat.le_trans (Nat.le_of_eq printed) ?_)
    exact List.sum_le_sum fun read _ => linksPrinted read
  | _ => exact callback

/-- No chain runs past the end of a block that it starts in, and nothing that starts in a chain runs
past the end of the chain. -/
def ChainsContained (lines : List Line) : Prop :=
  ∀ inner < lines.length, ∀ outer < inner,
    ∀ around ∈ registered? lines outer, ∀ within ∈ registered? lines inner,
      around = .promise ∨ within = .promise → inner < registrationStop lines outer around →
        registrationStop lines inner within ≤ registrationStop lines outer around

instance (lines : List Line) : Decidable (ChainsContained lines) := by
  unfold ChainsContained
  infer_instance

theorem ChainsContained.innerStopsFirst (chains : ChainsContained lines) {outer inner : Nat}
    {around within : Registration} (outerFound : registered? lines outer = some around)
    (innerFound : registered? lines inner = some within) (after : outer < inner)
    (before : inner < registrationStop lines outer around) :
    registrationStop lines inner within ≤ registrationStop lines outer around := by
  by_cases chain : around = .promise ∨ within = .promise
  · exact chains inner (registeredInside innerFound) outer after around outerFound within innerFound
      chain before
  · have block (start : Nat) {registration : Registration} (other : registration ≠ .promise) :
        registrationStop lines start registration = stop lines start := by
      cases registration <;> first | rfl | exact absurd rfl other
    rw [not_or] at chain
    rw [block outer chain.1] at before ⊢
    rw [block inner chain.2]
    exact stopNested outerFound innerFound after before

structure Opened (lines : List Line) (block : Registration × Nat × Nat) : Prop where
  found : registered? lines block.2.1 = some block.1
  ends : block.2.2 ≤ registrationStop lines block.2.1 block.1

theorem bodyLine {start upTo index : Nat} :
    index ∈ bodyLines lines start upTo ↔ .line index ∈ parts lines (start + 1) upTo := by
  constructor
  · intro member
    obtain ⟨part, body, found⟩ := List.mem_filterMap.mp member
    cases part with
    | line other =>
      cases found
      exact body
    | inner registration first next => cases found
  · exact fun body => List.mem_filterMap.mpr ⟨_, body, rfl⟩

theorem bodyLineBounds {start upTo index : Nat} (member : index ∈ bodyLines lines start upTo) :
    start < index ∧ index < upTo ∧ registered? lines index = none := by
  have tiles := partsTile lines (start + 1) upTo
  have bounds := tiles.partsWithin _ (bodyLine.mp member)
  exact ⟨bounds.1, bounds.2.2, tiles.partsFound _ (bodyLine.mp member)⟩

theorem bodyLinesOrder (lines : List Line) (start upTo : Nat) :
    (bodyLines lines start upTo).Pairwise (· < ·) := by
  refine List.pairwise_filterMap.mpr ((partsTile lines _ _).inOrder.imp ?_)
  intro a b before x fromA y fromB
  cases a <;> cases b <;> simp only [Option.some.injEq, reduceCtorEq] at fromA fromB
  subst fromA fromB
  exact before

theorem ownedOrder (lines : List Line) (block : Registration × Nat × Nat) :
    (owned lines block).Pairwise (· < ·) :=
  .cons (fun _ member => (bodyLineBounds member).1) (bodyLinesOrder lines _ _)

theorem ownedDistinct (lines : List Line) (block : Registration × Nat × Nat) :
    (owned lines block).Nodup := (ownedOrder lines block).imp Nat.ne_of_lt

theorem ownedApart (chains : ChainsContained lines) {a b : Registration × Nat × Nat}
    (second : Opened lines b) (above : a.2.1 < b.2.1) :
    (owned lines a).Disjoint (owned lines b) := by
  -- the line is of the outer block's own body, so what starts in that body ends before it
  intro index ofFirst ofSecond
  have below : b.2.1 ≤ index := by
    rcases List.mem_cons.mp ofSecond with same | body
    · exact Nat.le_of_eq same.symm
    · exact Nat.le_of_lt (bodyLineBounds body).1
  have body : index ∈ bodyLines lines a.2.1 a.2.2 := by
    rcases List.mem_cons.mp ofFirst with same | body
    · omega
    · exact body
  obtain ⟨-, within, bare⟩ := bodyLineBounds body
  have other : index ≠ b.2.1 := by
    rintro rfl
    rw [second.found] at bare
    cases bare
  have inside : index < b.2.2 := by
    rcases List.mem_cons.mp ofSecond with same | body
    · exact absurd same other
    · exact (bodyLineBounds body).2.1
  have tiles := partsTile lines (a.2.1 + 1) a.2.2
  obtain ⟨part, member, around⟩ := tiles.linesCovered above (by omega : b.2.1 < a.2.2)
  have found := tiles.partsFound part member
  cases part with
  | line own =>
    obtain rfl : own = b.2.1 := by
      simp only [Part.first, Part.next] at around
      omega
    rw [Part.Found, second.found] at found
    cases found
  | inner registration start next =>
    simp only [Part.first, Part.next] at around
    obtain ⟨opened, cut⟩ := found
    have apart := tiles.partsApart member (bodyLine.mp body) (by simp)
    simp only [Part.first, Part.next] at apart
    have stops : registrationStop lines b.2.1 b.1 ≤ registrationStop lines start registration := by
      rcases Nat.eq_or_lt_of_le around.1 with rfl | later
      · rw [second.found] at opened
        cases opened
        exact Nat.le_refl _
      · exact chains.innerStopsFirst opened second.found later (by omega)
    have ends := second.ends
    omega

end Source
end LoopPlayer
