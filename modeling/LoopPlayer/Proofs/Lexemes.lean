import Mathlib.Data.List.Chain
import LoopPlayer.Proofs.Arguments
import LoopPlayer.Proofs.Blanks

/-! Lines as they are written: whole literals and single characters, and a comment at the end or none.
The counting of delimiters finds its way back to the code behind every literal, so it counts the single
characters that are delimiters and nothing else. -/
namespace LoopPlayer.Delimiter

inductive Lexeme where
  | literal (quote : Char) (body : List Char)
  | character (c : Char)
  deriving DecidableEq, Repr

namespace Lexeme

def text : Lexeme → List Char
  | literal quote body => quote :: (body ++ [quote])
  | character c => [c]

def WellFormed : Lexeme → Prop
  | literal quote body => isQuote quote ∧ LiteralBody quote body
  | character c => isQuote c = false

instance : (lexeme : Lexeme) → Decidable lexeme.WellFormed
  | literal quote body =>
    decidable_of_iff
      (isQuote quote ∧ literalLength quote (body ++ [quote]) = some (body.length + 1))
      (and_congr_right LiteralBody.readIff)
  | character _ => inferInstanceAs (Decidable (_ = false))

def Joins (a b : Lexeme) : Prop := ¬ (a = .character '/' ∧ b = .character '/')

instance (a b : Lexeme) : Decidable (a.Joins b) := inferInstanceAs (Decidable (¬ _))

def counts (counted : Char → Bool) : Lexeme → Bool
  | literal .. => false
  | character c => counted c

end Lexeme

def commentText : Option (List Char) → List Char
  | none => []
  | some text => '/' :: '/' :: text

def written (lexemes : List Lexeme) (comment : Option (List Char)) : List Char :=
  lexemes.flatMap Lexeme.text ++ commentText comment

theorem bareCommentText {comment : Option (List Char)} (oneLine : ∀ text ∈ comment, '\n' ∉ text) :
    bare (commentText comment) = [] := by
  cases comment with
  | none => rfl
  | some text =>
    have ended : ('/' :: text).dropWhile (· != '\n') = [] := by
      refine List.dropWhile_eq_nil_iff.mpr fun c member => ?_
      have other : c ≠ '\n' := by
        rintro rfl
        rcases List.mem_cons.mp member with slash | inside
        · exact absurd slash (by decide)
        · exact oneLine text rfl inside
      simpa using other
    rw [commentText, bareComment, ended]
    rfl

theorem slashBehind {lexemes : List Lexeme} {comment : Option (List Char)}
    (valid : ∀ lexeme ∈ lexemes, lexeme.WellFormed)
    (code : ∀ next ∈ lexemes.head?, Lexeme.Joins (.character '/') next)
    (slash : (written lexemes comment).head? = some '/') : lexemes = [] ∧ comment ≠ none := by
  -- behind a slash that is code, only the comment can begin with another one
  cases lexemes with
  | nil =>
    refine ⟨rfl, ?_⟩
    rintro rfl
    cases slash
  | cons lexeme rest =>
    have joins := code lexeme rfl
    cases lexeme with
    | literal quote body =>
      have quoted := (valid _ List.mem_cons_self).1
      obtain rfl : quote = '/' := Option.some.inj slash
      exact absurd quoted (by decide)
    | character c =>
      obtain rfl : c = '/' := Option.some.inj slash
      exact absurd ⟨rfl, rfl⟩ joins

theorem bareWritten (counted : Char → Bool) (slash : counted '/' = false) {lexemes : List Lexeme}
    {comment : Option (List Char)} (valid : ∀ lexeme ∈ lexemes, lexeme.WellFormed)
    (code : lexemes.IsChain Lexeme.Joins) (oneLine : ∀ text ∈ comment, '\n' ∉ text) :
    (bare (written lexemes comment)).countP counted = lexemes.countP (Lexeme.counts counted) := by
  induction lexemes with
  | nil =>
    rw [written, List.flatMap_nil, List.nil_append, bareCommentText oneLine]
    rfl
  | cons lexeme rest ih =>
    obtain ⟨first, later⟩ := List.forall_mem_cons.mp valid
    obtain ⟨joins, tail⟩ := List.isChain_cons.mp code
    have ih := ih later tail
    rw [List.countP_cons, ← ih]
    cases lexeme with
    | literal quote body =>
      have whole : written (.literal quote body :: rest) comment =
          quote :: (body ++ quote :: written rest comment) := by simp [written, Lexeme.text]
      have closes := first.2.literalLengthBody first.1 []
      rw [whole, bareLiteral first.1 closes]
      rfl
    | character c =>
      have whole : written (.character c :: rest) comment = c :: written rest comment := rfl
      by_cases commented : c = '/' ∧ (written rest comment).head? = some '/'
      · -- the slashes of the comment and the one before it begin the comment
        obtain ⟨rfl, behind⟩ := commented
        obtain ⟨rfl, some⟩ := slashBehind later joins behind
        obtain ⟨text, rfl⟩ := Option.ne_none_iff_exists'.mp some
        have longer : ∀ more ∈ Option.some ('/' :: text), '\n' ∉ more := by
          rintro _ ⟨⟩ member
          exact oneLine text rfl ((List.mem_cons.mp member).resolve_left (by decide))
        have all : written [.character '/'] (Option.some text) =
            commentText (Option.some ('/' :: text)) := rfl
        have own : written [] (Option.some text) = commentText (Option.some text) := rfl
        rw [all, own, bareCommentText longer, bareCommentText oneLine]
        simp [Lexeme.counts, slash]
      · rw [whole, bareNext first commented, List.countP_cons]
        rfl

theorem countEither {a b : Char} (apart : a ≠ b) (lexemes : List Lexeme) :
    lexemes.countP (Lexeme.counts fun c => c == a || c == b) =
      lexemes.count (.character a) + lexemes.count (.character b) := by
  induction lexemes with
  | nil => rfl
  | cons lexeme rest ih =>
    rw [List.countP_cons, List.count_cons, List.count_cons, ih]
    cases lexeme with
    | literal quote body => simp [Lexeme.counts]
    | character c =>
      by_cases first : c = a
      · subst first
        simp [Lexeme.counts, apart]
        omega
      · by_cases second : c = b
        · subst second
          simp [Lexeme.counts, first]
          omega
        · simp [Lexeme.counts, first, second]

/-- The delimiters that are counted are the single characters that are delimiters, each as often as it
stands in the line. What is in a literal or in the comment does not count. -/
theorem delimitersCounted {lexemes : List Lexeme} {comment : Option (List Char)}
    (valid : ∀ lexeme ∈ lexemes, lexeme.WellFormed) (code : lexemes.IsChain Lexeme.Joins)
    (oneLine : ∀ text ∈ comment, '\n' ∉ text) :
    opened (written lexemes comment) =
        lexemes.count (.character '(') + lexemes.count (.character '\x7b') ∧
      closed (written lexemes comment) =
        lexemes.count (.character ')') + lexemes.count (.character '\x7d') := by
  have openers := bareWritten isOpener (by decide) valid code oneLine
  have closers := bareWritten isCloser (by decide) valid code oneLine
  exact ⟨openers.trans (countEither (by decide) lexemes),
    closers.trans (countEither (by decide) lexemes)⟩

theorem slashesCounted :
    let lexemes : List Lexeme := [.character '(', .literal '"' "(\\\"".toList, .character '/',
      .literal '\'' "//)".toList, .character '\x7b', .character '/']
    let line := written lexemes (some ")".toList)
    (line = "(\"(\\\"\"/'//)'\x7b///)".toList) ∧ opened line = 2 ∧ closed line = 0 := by
  intro lexemes line
  have valid : ∀ lexeme ∈ lexemes, lexeme.WellFormed := by decide +kernel
  have code : lexemes.IsChain Lexeme.Joins := by decide +kernel
  have oneLine : ∀ text ∈ some ")".toList, '\n' ∉ text := by decide +kernel
  have both := delimitersCounted valid code oneLine
  exact ⟨by decide +kernel, both.1.trans (by decide +kernel), both.2.trans (by decide +kernel)⟩

end LoopPlayer.Delimiter
