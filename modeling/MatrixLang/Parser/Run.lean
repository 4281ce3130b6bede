import MatrixLang.Parser.Basic
import MatrixLang.Parser.Cursor

/-!
# Running parsers

`Parser.run` runs a parser on a cursor, with a given answer to calls of rules;
where a call has no answer, neither has the parser.  The lemmas say that running
follows `bind`, that better answers never change a reply, and that no reply
leaves more in front of the cursor than there was.
-/

namespace MatrixLang

/-- Answers to calls of rules, each with the cursor it leaves. -/
abbrev Callee : Type :=
  (rule : Rule) -> Cursor -> Option (Reply rule.Result)

namespace Reply

variable {α β : Type}

/-- Goes on with the value of a reply; a failure stays. -/
def andThen
    (reply : Reply α)
    (next : α -> Cursor -> Option (Reply β)) : Option (Reply β) :=
  match reply with
  | ⟨.ok value, cursor⟩ => next value cursor
  | ⟨.error diagnostic, cursor⟩ => some ⟨.error diagnostic, cursor⟩

end Reply

namespace Parser

variable {α β : Type}

/-- Runs a parser on a cursor. -/
def run (callee : Callee) : Parser α -> Cursor -> Option (Reply α)
  | .finish value, cursor => some ⟨.ok value, cursor⟩
  | .inspect next, cursor => (next cursor.current).run callee cursor
  | .advance next, cursor =>
      cursor.advance.andThen fun _ after => next.run callee after
  | .reject refusal, cursor =>
      some ⟨.error (.ofCause (refusal.cause cursor.current)), cursor⟩
  | .note event next, cursor => next.run callee (cursor.record event)
  | .call rule next, cursor =>
      (callee rule cursor).bind fun reply =>
        reply.andThen fun value after => (next value).run callee after

/-- Running a sequence runs its second part where the first one ends. -/
theorem run_bind
    (callee : Callee)
    (parser : Parser α)
    (next : α -> Parser β)
    (cursor : Cursor) :
    (parser.bind next).run callee cursor =
      (parser.run callee cursor).bind fun reply =>
        reply.andThen fun value after => (next value).run callee after := by
  induction parser generalizing cursor with
  | finish value => rfl
  | inspect rest inductionHypothesis => exact inductionHypothesis _ _
  | advance rest inductionHypothesis =>
      simp only [bind, run]
      rcases cursor.advance with ⟨_ | _, after⟩
      · rfl
      · exact inductionHypothesis _
  | reject refusal => rfl
  | note event rest inductionHypothesis => exact inductionHypothesis _
  | call rule rest inductionHypothesis =>
      simp only [bind, run]
      rcases callee rule cursor with _ | ⟨_ | value, after⟩
      · rfl
      · rfl
      · exact inductionHypothesis _ _

/-- Better answers to calls never change a reply. -/
theorem run_eq_some_of_le
    {callee better : Callee}
    (improves : ∀ rule cursor reply,
      callee rule cursor = some reply -> better rule cursor = some reply)
    {parser : Parser α}
    {cursor : Cursor}
    {reply : Reply α}
    (found : parser.run callee cursor = some reply) :
    parser.run better cursor = some reply := by
  induction parser generalizing cursor with
  | finish value => exact found
  | inspect next inductionHypothesis => exact inductionHypothesis _ found
  | advance next inductionHypothesis =>
      simp only [run] at found ⊢
      generalize cursor.advance = step at found ⊢
      rcases step with ⟨_ | _, after⟩
      · exact found
      · exact inductionHypothesis found
  | reject refusal => exact found
  | note event next inductionHypothesis => exact inductionHypothesis found
  | call rule next inductionHypothesis =>
      simp only [run] at found ⊢
      cases answer : callee rule cursor with
      | none =>
          rw [answer] at found
          cases found
      | some reply =>
          rw [answer] at found
          rw [improves _ _ _ answer]
          rcases reply with ⟨_ | value, after⟩
          · exact found
          · exact inductionHypothesis _ found

/--
A parser leaves no more in front of the cursor than there was, if no call does.
-/
theorem left_le_of_run
    {callee : Callee}
    (answers : ∀ rule cursor reply,
      callee rule cursor = some reply -> reply.cursor.left ≤ cursor.left)
    {parser : Parser α}
    {cursor : Cursor}
    {reply : Reply α}
    (found : parser.run callee cursor = some reply) :
    reply.cursor.left ≤ cursor.left := by
  induction parser generalizing cursor with
  | finish value =>
      cases found
      exact Nat.le_refl _
  | inspect next inductionHypothesis => exact inductionHypothesis _ found
  | advance next inductionHypothesis =>
      have moved := cursor.left_advance_le
      simp only [run] at found
      generalize cursor.advance = step at found moved
      rcases step with ⟨_ | _, after⟩
      · cases found
        exact moved
      · exact Nat.le_trans (inductionHypothesis found) moved
  | reject refusal =>
      cases found
      exact Nat.le_refl _
  | note event next inductionHypothesis =>
      have moved : reply.cursor.left ≤ (cursor.record event).left :=
        inductionHypothesis found
      exact moved
  | call rule next inductionHypothesis =>
      simp only [run] at found
      cases answer : callee rule cursor with
      | none =>
          rw [answer] at found
          cases found
      | some step =>
          rw [answer] at found
          have moved := answers _ _ _ answer
          rcases step with ⟨_ | value, after⟩
          · cases found
            exact moved
          · exact Nat.le_trans (inductionHypothesis _ found) moved

end Parser
end MatrixLang
