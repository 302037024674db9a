import NetInterface.Proofs.Text.Lines
import NetInterface.Toml.Document

/-!
Lines of a document that say nothing.

A line is quiet if it is blank or a comment. What is read next does not depend on the quiet lines
before it (`skipLines_of_isQuiet`), so a document reads as its statements do one after another
(`parse_of_statements`).
-/

namespace NetInterface.Toml

open Text

/-- Whether a line is blank or a comment. -/
def isQuiet : List Char → Bool
  | [] => true
  | character :: rest =>
      if Scalar.isBlank character then isQuiet rest
      else character = '#' && rest.all Quoted.isPlain

/-- Whether a line begins with something other than a blank, a comment or its end. -/
def isStatement (line : List Char) : Bool :=
  line.head?.any fun character =>
    !(Scalar.isBlank character || ['\r', '\n', '#'].contains character)

theorem skipLines_comment {comment : List Char} (plain : comment.all Quoted.isPlain = true)
    (rest : List Char) : skipLines true (comment ++ '\n' :: rest) = skipLines false rest := by
  induction comment with
  | nil => rfl
  | cons character others inductionHypothesis =>
      rw [List.all_cons, Bool.and_eq_true] at plain
      obtain ⟨visible, plain⟩ := plain
      have inside : character ≠ '\n' ∧ character ≠ '\r' := by
        constructor <;> (rintro rfl; exact absurd visible (by decide))
      rw [List.cons_append, skipLines, if_pos rfl, if_pos visible, inductionHypothesis plain]
      · exact inside.1
      · intro _ same
        exact absurd same inside.2

theorem skipLines_blank {character : Char} (blank : Scalar.isBlank character = true)
    (rest : List Char) : skipLines false (character :: rest) = skipLines false rest := by
  have inside : character ≠ '\n' ∧ character ≠ '\r' := by
    constructor <;> (rintro rfl; exact absurd blank (by decide))
  rw [skipLines, if_neg Bool.false_ne_true, if_pos blank]
  · exact inside.1
  · intro _ same
    exact absurd same inside.2

/-- Nothing is read from a quiet line. -/
theorem skipLines_of_isQuiet {line : List Char} (quiet : isQuiet line = true) (rest : List Char) :
    skipLines false (line ++ '\n' :: rest) = skipLines false rest := by
  induction line with
  | nil => rfl
  | cons character others inductionHypothesis =>
      rw [isQuiet] at quiet
      split at quiet
      · next blank =>
        rw [List.cons_append, skipLines_blank blank, inductionHypothesis quiet]
      · simp only [Bool.and_eq_true, decide_eq_true_eq] at quiet
        obtain ⟨rfl, plain⟩ := quiet
        exact skipLines_comment plain rest

/-- A statement is where lines are skipped up to. -/
theorem skipLines_of_isStatement {line : List Char} (statement : isStatement line = true)
    (rest : List Char) : skipLines false (line ++ rest) = .ok (line ++ rest) := by
  cases line with
  | nil => cases statement
  | cons character others =>
      simp only [isStatement, List.head?_cons, Option.any_some, Bool.not_eq_true',
        Bool.or_eq_false_iff, List.contains_cons, beq_eq_false_iff_ne,
        List.contains_nil] at statement
      obtain ⟨visible, unreturned, unended, uncommented, -⟩ := statement
      rw [List.cons_append, skipLines, if_neg Bool.false_ne_true, if_neg (by simp [visible]),
        if_neg uncommented]
      · exact unended
      · intro _ same
        exact absurd same unreturned

/-- Statements on lines of their own, and what is built from them one after another. -/
inductive Statements : Builder → List (List Char) → Builder → Prop
  | none {builder : Builder} : Statements builder [] builder
  | next {builder further final : Builder} {line : List Char} {others : List (List Char)}
      (statement : isStatement line = true)
      (reads : ∀ rest, builder.line (line ++ '\n' :: rest) = .ok (further, rest))
      (remaining : Statements further others final) : Statements builder (line :: others) final

theorem length_le_length_terminated (document : List String) :
    document.length ≤ (terminated document).toList.length := by
  induction document with
  | nil => exact Nat.zero_le _
  | cons line document inductionHypothesis =>
      rw [toList_terminated_cons, List.length_append, List.length_cons, List.length_cons]
      omega

/-- The lines of a document are read as its statements are, the quiet ones left out. -/
theorem lines_of_statements {document : List String} {builder final : Builder}
    (statements : Statements builder
      ((document.filter fun line => !isQuiet line.toList).map String.toList) final)
    {steps : Nat} (enough : document.length < steps) :
    Builder.lines steps builder (terminated document).toList = .ok final := by
  induction document generalizing builder steps with
  | nil =>
      obtain ⟨steps, rfl⟩ := Nat.exists_eq_add_one_of_ne_zero (Nat.ne_zero_of_lt enough)
      cases statements
      rfl
  | cons line document inductionHypothesis =>
      obtain ⟨steps, rfl⟩ := Nat.exists_eq_add_one_of_ne_zero (Nat.ne_zero_of_lt enough)
      rw [toList_terminated_cons]
      cases quiet : isQuiet line.toList with
      | true =>
          rw [List.filter_cons_of_neg (by simp [quiet])] at statements
          -- Quiet lines go with the statement behind them and take no step of their own.
          have remaining := inductionHypothesis statements (Nat.lt_of_succ_lt enough)
          rw [Builder.lines] at remaining ⊢
          rw [skipLines_of_isQuiet quiet, remaining]
      | false =>
          rw [List.filter_cons_of_pos (by simp [quiet]), List.map_cons] at statements
          cases statements with
          | next statement reads remaining =>
              have others := inductionHypothesis remaining (Nat.lt_of_succ_lt_succ enough)
              have read := reads (terminated document).toList
              rw [Builder.lines, skipLines_of_isStatement statement]
              cases characters : line.toList with
              | nil =>
                  rw [characters] at statement
                  cases statement
              | cons character rest =>
                  rw [characters] at read
                  simp only [bind, Except.bind, List.cons_append] at read ⊢
                  rw [read]
                  exact others

/-- A document gives what its statements give. -/
theorem parse_of_statements {document : List String} {final : Builder}
    (unmarked : (terminated document).toList.head? ≠ some '\uFEFF')
    (statements : Statements ⟨[], []⟩
      ((document.filter fun line => !isQuiet line.toList).map String.toList) final) :
    parse (terminated document) = .ok (Node.membersToValues final.root) := by
  have whole : dropByteOrderMark (terminated document).toList = (terminated document).toList := by
    unfold dropByteOrderMark
    split
    · next rest marked => exact absurd (by rw [marked]; rfl) unmarked
    · rfl
  have enough := Nat.lt_succ_of_le (length_le_length_terminated document)
  rw [parse, whole, lines_of_statements statements enough]
  rfl

end NetInterface.Toml
