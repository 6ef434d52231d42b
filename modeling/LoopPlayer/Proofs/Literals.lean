import LoopPlayer.Proofs.Calls
import LoopPlayer.Source.Jobs

/-! Lines that differ in the bodies of their literals. Braces and parentheses are counted outside
literals, so there a body makes no difference. All else that is sought in a line is sought in its
literals as well, but is found in the same places as long as no body has a logging call or an
attachment in it. -/
namespace LoopPlayer
open Text (Line occurs)
open Delimiter (isQuote isPlain bareFrom literalLength)

/-- A literal's body that reads the same in every kind of quotes. -/
structure Simple (body : List Char) : Prop where
  nonempty : body ≠ []
  unquoted : ∀ c ∈ body, isQuote c = false
  unescaped : '\\' ∉ body
  oneLine : '\n' ∉ body

structure Unmarked (body : List Char) : Prop extends Simple body where
  silent : occurs Logging.opening body = false
  detached : occurs Source.attachment body = false

instance (body : List Char) : Decidable (Simple body) :=
  decidable_of_iff (body ≠ [] ∧ body.all (fun c => !isQuote c) ∧ '\\' ∉ body ∧ '\n' ∉ body)
    ⟨fun ⟨a, b, c, d⟩ => ⟨a, by simpa using b, c, d⟩,
      fun ⟨a, b, c, d⟩ => ⟨a, by simpa using b, c, d⟩⟩

instance (body : List Char) : Decidable (Unmarked body) :=
  decidable_of_iff (Simple body ∧ occurs Logging.opening body = false ∧
      occurs Source.attachment body = false)
    ⟨fun ⟨a, b, c⟩ => ⟨a, b, c⟩, fun ⟨a, b, c⟩ => ⟨a, b, c⟩⟩

/-- Two lines that differ only in the bodies of complete literals, and there only in bodies that are
admitted. They are read from the left, as literals and comments are found. -/
inductive Exchanged (admitted : List Char → Prop) : Line → Line → Prop where
  | done : Exchanged admitted [] []
  | character {c : Char} {rest other : Line} (ordinary : isQuote c = false)
      (code : ¬ (c = '/' ∧ rest.head? = some '/')) (tail : Exchanged admitted rest other) :
      Exchanged admitted (c :: rest) (c :: other)
  | comment (rest : Line) : Exchanged admitted ('/' :: '/' :: rest) ('/' :: '/' :: rest)
  | stray {quote : Char} {rest other : Line} (quoted : isQuote quote)
      (open_ : literalLength quote rest = none) (also : literalLength quote other = none)
      (tail : Exchanged admitted rest other) : Exchanged admitted (quote :: rest) (quote :: other)
  | kept {quote : Char} {body rest other : Line} (quoted : isQuote quote)
      (closes : literalLength quote (body ++ [quote]) = some (body.length + 1))
      (tail : Exchanged admitted rest other) :
      Exchanged admitted (quote :: (body ++ quote :: rest)) (quote :: (body ++ quote :: other))
  | swapped {quote : Char} {body new rest other : Line} (quoted : isQuote quote)
      (old : admitted body) (instead : admitted new) (tail : Exchanged admitted rest other) :
      Exchanged admitted (quote :: (body ++ quote :: rest)) (quote :: (new ++ quote :: other))

theorem soughtPast {quote : Char} {before rest said after : List Char} (absent : quote ∉ before)
    (whole : before ++ rest = said ++ quote :: after) :
    ∃ more, said = before ++ more ∧ rest = more ++ quote :: after := by
  rcases List.append_eq_append_iff.mp whole with ⟨more, longer, cut⟩ | ⟨more, shorter, cut⟩
  · exact ⟨more, longer, cut⟩
  · cases more with
    | nil =>
      rw [List.append_nil] at shorter
      exact ⟨[], by rw [shorter, List.append_nil], cut.symm⟩
    | cons c more =>
      cases cut
      exact absurd (by simp [shorter]) absent

namespace Simple

variable {body : List Char} (simple : Simple body)

include simple

theorem quoteAbsent {quote : Char} (quoted : isQuote quote) : quote ∉ body := by
  intro member
  rw [simple.unquoted quote member] at quoted
  cases quoted

theorem simpleSpoken {quote : Char} (quoted : isQuote quote) : Logging.Spoken quote body :=
  ⟨simple.nonempty, fun member => simple.quoteAbsent quoted (List.mem_of_mem_tail member),
    simple.oneLine⟩

theorem bodyDetermined {quote : Char} (quoted : isQuote quote) {said rest after : List Char}
    (unquoted : quote ∉ said.tail) (whole : body ++ quote :: rest = said ++ quote :: after) :
    said = body ∧ after = rest := by
  obtain ⟨more, rfl, cut⟩ := soughtPast (simple.quoteAbsent quoted) whole
  cases more with
  | nil =>
    cases cut
    exact ⟨List.append_nil body, rfl⟩
  | cons c more =>
    cases cut
    refine absurd ?_ unquoted
    rw [List.tail_append_of_ne_nil simple.nonempty]
    simp

end Simple

namespace Delimiter

section

variable {quote : Char} {text body : List Char}

theorem plainUnquoted {c : Char} (plain : isPlain c) : isQuote c = false := by
  simpa [isPlain] using (Bool.and_eq_true_iff.mp plain).1

theorem quoteUnescaped (quoted : isQuote quote) : quote ≠ '\\' := by
  rintro rfl
  exact absurd quoted (by decide)

theorem literalNext {c : Char} (unescaped : c ≠ '\\') (other : c ≠ quote) (text : List Char) :
    literalLength quote (c :: text) = (literalLength quote text).map (· + 1) := by
  cases text with
  | nil => simp [literalLength, other]
  | cons d rest => simp [literalLength, unescaped, other]

theorem literalClosed (quoted : isQuote quote) (text : List Char) :
    literalLength quote (quote :: text) = some 1 := by
  have unescaped := quoteUnescaped quoted
  cases text with
  | nil => simp [literalLength]
  | cons d rest => simp [literalLength, unescaped]

theorem literalAppend (quoted : isQuote quote) {length : Nat}
    (closes : literalLength quote text = some length) (after : List Char) :
    literalLength quote (text ++ after) = some length := by
  induction text using literalLength.induct quote generalizing length with
  | case1 => cases closes
  | case2 c own =>
    obtain rfl := beq_iff_eq.mp own
    rw [literalClosed quoted] at closes
    rw [← closes]
    exact literalClosed quoted after
  | case3 c other => simp [literalLength, other] at closes
  | case4 c d rest escaped line => simp [literalLength, escaped, line] at closes
  | case5 c d rest escaped line ih =>
    simp only [literalLength, escaped, line, if_true, if_false, Bool.false_eq_true] at closes
    obtain ⟨shorter, later, rfl⟩ := Option.map_eq_some_iff.mp closes
    simp [literalLength, escaped, line, ih later]
  | case6 c d rest unescaped own =>
    obtain rfl := beq_iff_eq.mp own
    rw [literalClosed quoted] at closes
    rw [← closes]
    exact literalClosed quoted _
  | case7 c d rest unescaped other ih =>
    rw [beq_iff_eq] at unescaped other
    rw [literalNext unescaped other] at closes
    obtain ⟨shorter, later, rfl⟩ := Option.map_eq_some_iff.mp closes
    rw [List.cons_append, literalNext unescaped other, ih later, Option.map_some]

theorem literalSplit (quoted : isQuote quote) {length : Nat}
    (closes : literalLength quote text = some length) :
    ∃ body rest, text = body ++ quote :: rest ∧
      literalLength quote (body ++ [quote]) = some (body.length + 1) := by
  induction text using literalLength.induct quote generalizing length with
  | case1 => cases closes
  | case2 c own =>
    obtain rfl := beq_iff_eq.mp own
    exact ⟨[], [], rfl, literalClosed quoted []⟩
  | case3 c other => simp [literalLength, other] at closes
  | case4 c d rest escaped line => simp [literalLength, escaped, line] at closes
  | case5 c d rest escaped line ih =>
    simp only [literalLength, escaped, line, if_true, if_false, Bool.false_eq_true] at closes
    obtain ⟨shorter, later, -⟩ := Option.map_eq_some_iff.mp closes
    obtain ⟨body, more, rfl, ends⟩ := ih later
    exact ⟨c :: d :: body, more, rfl, by simp [literalLength, escaped, line, ends]⟩
  | case6 c d rest unescaped own =>
    obtain rfl := beq_iff_eq.mp own
    exact ⟨[], d :: rest, rfl, literalClosed quoted []⟩
  | case7 c d rest unescaped other ih =>
    rw [beq_iff_eq] at unescaped other
    rw [literalNext unescaped other] at closes
    obtain ⟨shorter, later, -⟩ := Option.map_eq_some_iff.mp closes
    obtain ⟨body, more, cut, ends⟩ := ih later
    refine ⟨c :: body, more, by rw [cut]; rfl, ?_⟩
    rw [List.cons_append, literalNext unescaped other, ends]
    rfl

theorem literalSimple (quoted : isQuote quote) (simple : Simple body) :
    literalLength quote (body ++ [quote]) = some (body.length + 1) := by
  obtain ⟨-, unquoted, unescaped, -⟩ := simple
  induction body with
  | nil => exact literalClosed quoted []
  | cons c more ih =>
    obtain ⟨escape, unescaped⟩ := List.ne_and_not_mem_of_not_mem_cons unescaped
    obtain ⟨bare, unquoted⟩ := List.forall_mem_cons.mp unquoted
    have other : c ≠ quote := by
      rintro rfl
      rw [quoted] at bare
      cases bare
    rw [List.cons_append, literalNext (Ne.symm escape) other, ih unquoted unescaped]
    rfl

end

theorem bareSkip (skip : Nat) (text : List Char) : bareFrom skip text = bare (text.drop skip) := by
  induction text generalizing skip with
  | nil => cases skip <;> rfl
  | cons c rest ih =>
    cases skip with
    | zero => rfl
    | succ skip => exact ih skip

theorem bareLiteral {quote : Char} {body : List Char} (quoted : isQuote quote)
    (closes : literalLength quote (body ++ [quote]) = some (body.length + 1)) (rest : List Char) :
    bare (quote :: (body ++ quote :: rest)) = bare rest := by
  have whole : body ++ quote :: rest = (body ++ [quote]) ++ rest := by simp
  have closes := literalAppend quoted closes rest
  rw [bare, bareFrom, if_pos quoted, whole, closes]
  simp only [bareSkip]
  rw [List.drop_left' (by simp)]

end Delimiter

namespace Exchanged

variable {admitted : List Char → Prop} {line other : Line}

theorem sameHead (exchanged : Exchanged admitted line other) : line.head? = other.head? := by
  cases exchanged <;> rfl

theorem refl (admitted : List Char → Prop) (line : Line) : Exchanged admitted line line := by
  induction size : line.length using Nat.strong_induction_on generalizing line with
  | _ size ih =>
    subst size
    cases line with
    | nil => exact .done
    | cons c rest =>
      have tail := ih _ (Nat.lt_succ_self rest.length) rest rfl
      cases quoted : isQuote c with
      | true =>
        cases closes : literalLength c rest with
        | none => exact .stray quoted closes closes tail
        | some length =>
          obtain ⟨body, more, rfl, ends⟩ := Delimiter.literalSplit quoted closes
          refine .kept quoted ends (ih _ ?_ more rfl)
          simp only [List.length_cons, List.length_append]
          omega
      | false =>
        by_cases comment : c = '/' ∧ rest.head? = some '/'
        · obtain ⟨rfl, second⟩ := comment
          obtain ⟨more, rfl⟩ := List.head?_eq_some_iff.mp second
          exact .comment more
        · exact .character quoted comment tail

theorem bareSame (simple : ∀ body, admitted body → Simple body)
    (exchanged : Exchanged admitted line other) : Delimiter.bare line = Delimiter.bare other := by
  induction exchanged with
  | done => rfl
  | comment rest => rfl
  | @character c rest other ordinary code tail ih =>
    have ordinary : ¬ isQuote c := by simp [ordinary]
    have here : ¬ (c == '/' && rest.head? == some '/') := by simpa using code
    have there : ¬ (c == '/' && other.head? == some '/') := by rwa [← tail.sameHead]
    rw [Delimiter.bare, Delimiter.bare, bareFrom, bareFrom, if_neg ordinary, if_neg ordinary,
      if_neg here, if_neg there]
    exact congrArg (c :: ·) ih
  | stray quoted open_ also tail ih =>
    rw [Delimiter.bare, Delimiter.bare, bareFrom, bareFrom, if_pos quoted, if_pos quoted, open_,
      also]
    exact congrArg _ ih
  | kept quoted closes tail ih =>
    rw [Delimiter.bareLiteral quoted closes, Delimiter.bareLiteral quoted closes, ih]
  | swapped quoted old instead tail ih =>
    rw [Delimiter.bareLiteral quoted (Delimiter.literalSimple quoted (simple _ old)),
      Delimiter.bareLiteral quoted (Delimiter.literalSimple quoted (simple _ instead)), ih]

theorem append {before : List Char} (plain : before.all isPlain)
    (exchanged : Exchanged admitted line other) :
    Exchanged admitted (before ++ line) (before ++ other) := by
  induction before with
  | nil => exact exchanged
  | cons c before ih =>
    rw [List.all_cons, Bool.and_eq_true] at plain
    refine .character (Delimiter.plainUnquoted plain.1) ?_ (ih plain.2)
    rintro ⟨rfl, -⟩
    exact absurd plain.1 (by decide)

theorem bodyExchanged {before : List Char} (plain : before.all isPlain) {quote : Char}
    (quoted : isQuote quote) {body new : List Char} (old : admitted body) (instead : admitted new)
    (after : List Char) :
    Exchanged admitted (before ++ quote :: (body ++ quote :: after))
      (before ++ quote :: (new ++ quote :: after)) :=
  .append plain (.swapped quoted old instead (.refl admitted after))

end Exchanged

end LoopPlayer
