import MatrixLang.Proofs.Ebnf
import MatrixLang.Proofs.Movement

/-!
# Contracts for the rules of the grammar

A contract says of every rule which words it may take, which trees it reads from
them, and which closing kinds it may name as expected behind its words.
`Parser.Keeps` is the weakest precondition of a parser under a contract.  Beside
the postcondition it carries a goal, a set of words: whatever a parser has taken
must be the front of a word of the goal, and so must every kind that it reports
as expected where it fails.

`Contract.meets_parse` turns this into a statement about replies, once the body
of every rule keeps the contract.  `Parser.ParsesAt` is the form in which the
parsers of the grammar are shown to keep it; it composes along `bind`.
-/

namespace MatrixLang

/-- A literal has a value; every other token is readable as it is. -/
def Token.Readable (token : Token) : Prop :=
  (token.kind = .intLiteral -> (Numeral.int32? token.spelling).isSome) ∧
    (token.kind = .floatLiteral -> (Single.ofLiteral? token.spelling).isSome)

instance (token : Token) : Decidable token.Readable :=
  inferInstanceAs (Decidable (_ ∧ _))

/-- The kinds of some tokens. -/
def kinds (tokens : List Token) : List Token.Kind :=
  tokens.map Token.kind

@[simp]
theorem kinds_nil : kinds [] = [] :=
  rfl

@[simp]
theorem kinds_cons
    (token : Token)
    (tokens : List Token) :
    kinds (token :: tokens) = token.kind :: kinds tokens :=
  rfl

@[simp]
theorem kinds_append
    (first second : List Token) :
    kinds (first ++ second) = kinds first ++ kinds second :=
  List.map_append

/-- A word is the front of a word of the goal. -/
def Extends (goal : List Token.Kind -> Prop) (word : List Token.Kind) : Prop :=
  ∃ rest, goal (word ++ rest)

/-- The front of a word that extends to the goal does so too. -/
theorem Extends.of_append
    {goal : List Token.Kind -> Prop}
    {front back : List Token.Kind}
    (further : Extends goal (front ++ back)) :
    Extends goal front := by
  obtain ⟨rest, reached⟩ := further
  exact ⟨back ++ rest, by rwa [← List.append_assoc]⟩

/--
The words of a form, alone or with one of several closing kinds behind them.
-/
def Form.Completes
    (form : Form)
    (closers : List Token.Kind)
    (word : List Token.Kind) : Prop :=
  form.Derives word ∨
    ∃ front, ∃ closer ∈ closers, word = front ++ [closer] ∧ form.Derives front

/--
The tokens taken from a lookahead token on, with the lookahead token behind
them.
-/
def Starts (token : Token) (tokens : List Token) (after : Token) : Prop :=
  (tokens ++ [after]).head? = some token

/--
A start of two parts is the start of the first one, whose end starts the second
one.
-/
theorem Starts.trans
    {token middle after : Token}
    {front back : List Token}
    (first : Starts token front middle)
    (behind : Starts middle back after) :
    Starts token (front ++ back) after := by
  unfold Starts at first behind ⊢
  cases front with
  | nil =>
      cases first
      exact behind
  | cons head tail => exact first

/-- A refusal names only kinds that lead on to the goal. -/
def Refusal.Justified
    (goal : List Token.Kind -> Prop)
    (token : Token)
    (taken : List Token) : Refusal -> Prop
  | .unexpected expected =>
      expected ≠ [] ∧ token.kind ∉ expected ∧
        ∀ kind ∈ expected, Extends goal (kinds taken ++ [kind])
  | .number => Extends goal (kinds taken)

/-- What is promised about every rule of the grammar. -/
structure Contract where
  /-- The words that a rule takes. -/
  form : Rule -> Form
  /-- The closing kinds that a rule may expect behind its words. -/
  closers : Rule -> List Token.Kind
  /-- The trees that a rule reads from tokens, in front of a lookahead token. -/
  reads : (rule : Rule) -> List Token -> rule.Result -> Token -> Prop

namespace Contract

/-- What the tokens that a rule has taken may grow into. -/
def goal (contract : Contract) (rule : Rule) : List Token.Kind -> Prop :=
  (contract.form rule).Completes (contract.closers rule)

/-- What holds where a rule ends. -/
def post
    (contract : Contract)
    (rule : Rule)
    (value : rule.Result)
    (tokens : List Token)
    (after : Token) : Prop :=
  (contract.form rule).Derives (kinds tokens) ∧
    contract.reads rule tokens value after

end Contract

/--
A parser stopped on the way from a spot, with a goal still ahead of what was
taken.
-/
inductive Failure
    (goal : List Token.Kind -> Prop)
    (taken : List Token)
    (start : Spot) : Diagnostic -> Spot -> Prop
  | refused
      {after : Spot}
      {tokens : List Token}
      {refusal : Refusal}
      (moves : start.Moves tokens after)
      (readable : ∀ token ∈ tokens, token.Readable)
      (justified : refusal.Justified goal after.current (taken ++ tokens)) :
      Failure goal taken start (.ofCause (refusal.cause after.current)) after
  | unreadable
      {last : Spot}
      {tokens : List Token}
      {token : Token}
      {rest : TokenStream}
      (moves : start.Moves tokens last)
      (readable : ∀ token ∈ tokens ++ [last.current], token.Readable)
      (inside : last.current.kind ≠ .endOfFile)
      (pulled : last.source.tokens = token :: rest.tokens)
      (invalid : token.kind = .invalid)
      (further : Extends goal (kinds (taken ++ tokens ++ [last.current]))) :
      Failure goal taken start (.ofCause (.lexical token)) ⟨last.current, rest⟩

namespace Failure

variable {goal : List Token.Kind -> Prop} {taken : List Token}
  {diagnostic : Diagnostic}

/-- A failure behind some tokens is a failure from before them. -/
theorem after
    {start middle stop : Spot}
    {front : List Token}
    (moves : start.Moves front middle)
    (readable : ∀ token ∈ front, token.Readable)
    (failure : Failure goal (taken ++ front) middle diagnostic stop) :
    Failure goal taken start diagnostic stop := by
  have both {tokens : List Token} (rest : ∀ token ∈ tokens, token.Readable) :
      ∀ token ∈ front ++ tokens, token.Readable := by
    intro token member
    rcases List.mem_append.1 member with early | late
    · exact readable token early
    · exact rest token late
  cases failure with
  | refused further furtherReadable justified =>
      rw [List.append_assoc] at justified
      exact .refused (moves.trans further) (both furtherReadable) justified
  | unreadable further furtherReadable inside pulled invalid reached =>
      rw [List.append_assoc taken] at reached
      refine .unreadable (moves.trans further) ?_ inside pulled invalid reached
      rw [List.append_assoc]
      exact both furtherReadable

/--
A failure on the way to one goal is a failure on the way to a goal that it leads
to.
-/
theorem toward
    {inner : List Token.Kind -> Prop}
    {start stop : Spot}
    (leads : ∀ word, inner word -> Extends goal (kinds taken ++ word))
    (failure : Failure inner [] start diagnostic stop) :
    Failure goal taken start diagnostic stop := by
  have lift {word : List Token.Kind} (further : Extends inner word) :
      Extends goal (kinds taken ++ word) := by
    obtain ⟨rest, reached⟩ := further
    have longer := leads _ reached
    rw [← List.append_assoc] at longer
    exact longer.of_append
  cases failure with
  | @refused _ tokens refusal moves readable justified =>
      refine .refused moves readable ?_
      cases refusal with
      | unexpected expected =>
          obtain ⟨nonempty, absent, acceptable⟩ := justified
          refine ⟨nonempty, absent, fun kind member => ?_⟩
          have reached := lift (acceptable kind member)
          rwa [List.nil_append, ← List.append_assoc, ← kinds_append] at reached
      | number =>
          have reached := lift justified
          rwa [List.nil_append, ← kinds_append] at reached
  | unreadable moves readable inside pulled invalid further =>
      refine .unreadable moves readable inside pulled invalid ?_
      have reached := lift further
      rwa [List.nil_append, ← kinds_append, ← List.append_assoc] at reached

end Failure

/-- A reply ends with the postcondition, or stops with the goal still ahead. -/
def Reply.Meets
    {α : Type}
    (goal : List Token.Kind -> Prop)
    (post : α -> List Token -> Token -> Prop)
    (start : Spot)
    (taken : List Token)
    (reply : Reply α) : Prop :=
  match reply.result with
  | .ok value =>
      ∃ tokens, start.Moves tokens reply.cursor.spot ∧
        (∀ token ∈ tokens, token.Readable) ∧
          post value (taken ++ tokens) reply.cursor.current
  | .error diagnostic => Failure goal taken start diagnostic reply.cursor.spot

/-- What a reply meets behind some tokens it meets from before them. -/
theorem Reply.Meets.after
    {α : Type}
    {goal : List Token.Kind -> Prop}
    {post : α -> List Token -> Token -> Prop}
    {start middle : Spot}
    {taken front : List Token}
    {reply : Reply α}
    (moves : start.Moves front middle)
    (readable : ∀ token ∈ front, token.Readable)
    (meets : reply.Meets goal post middle (taken ++ front)) :
    reply.Meets goal post start taken := by
  rcases reply with ⟨diagnostic | value, cursor⟩
  · exact Failure.after moves readable meets
  · obtain ⟨tokens, further, furtherReadable, reached⟩ := meets
    rw [List.append_assoc] at reached
    refine ⟨front ++ tokens, moves.trans further,
      fun token member => ?_, reached⟩
    rcases List.mem_append.1 member with early | late
    · exact readable token early
    · exact furtherReadable token late

namespace Parser

variable {α β : Type} (contract : Contract)

/--
Started at a lookahead token, having taken some tokens, a parser keeps on the
way to the goal and ends with the postcondition.
-/
def Keeps
    (goal : List Token.Kind -> Prop)
    (post : α -> List Token -> Token -> Prop)
    (token : Token)
    (taken : List Token) : Parser α -> Prop
  | .finish value => post value taken token
  | .inspect next => (next token).Keeps goal post token taken
  | .advance next =>
      token.kind ≠ .endOfFile ∧ token.Readable ∧
        Extends goal (kinds (taken ++ [token])) ∧
        ∀ after, next.Keeps goal post after (taken ++ [token])
  | .reject refusal => refusal.Justified goal token taken
  | .note _ next => next.Keeps goal post token taken
  | .call rule next =>
      (∀ word, contract.goal rule word -> Extends goal (kinds taken ++ word)) ∧
        ∀ value tokens after,
          contract.post rule value tokens after -> Starts token tokens after ->
            (next value).Keeps goal post after (taken ++ tokens)

/--
A sequence keeps on when its second part does wherever the first one ends.
-/
theorem keeps_bind
    {goal : List Token.Kind -> Prop}
    {post : β -> List Token -> Token -> Prop}
    {token : Token}
    {taken : List Token}
    {parser : Parser α}
    {next : α -> Parser β} :
    (parser.bind next).Keeps contract goal post token taken ↔
      parser.Keeps contract goal
        (fun value tokens after =>
          (next value).Keeps contract goal post after tokens)
        token taken := by
  induction parser generalizing token taken with
  | finish value => rfl
  | inspect rest inductionHypothesis => exact inductionHypothesis _
  | advance rest inductionHypothesis =>
      exact and_congr_right fun _ =>
        and_congr_right fun _ => and_congr_right fun _ =>
        forall_congr' fun _ => inductionHypothesis
  | reject refusal => rfl
  | note event rest inductionHypothesis => exact inductionHypothesis
  | call rule rest inductionHypothesis =>
      exact and_congr_right fun _ =>
        forall_congr' fun _ => forall_congr' fun _ =>
        forall_congr' fun _ => forall_congr' fun _ => forall_congr' fun _ =>
          inductionHypothesis _

/-- A parser that keeps the contract meets it when every call does. -/
theorem meets_run
    {callee : Callee}
    (answers : ∀ rule cursor reply, callee rule cursor = some reply ->
      reply.Meets (contract.goal rule) (contract.post rule) cursor.spot [])
    {goal : List Token.Kind -> Prop}
    {post : α -> List Token -> Token -> Prop}
    {parser : Parser α}
    {cursor : Cursor}
    {taken : List Token}
    {reply : Reply α}
    (keeps : parser.Keeps contract goal post cursor.current taken)
    (found : parser.run callee cursor = some reply) :
    reply.Meets goal post cursor.spot taken := by
  induction parser generalizing cursor taken with
  | finish value =>
      cases found
      refine ⟨[], .stay _, fun token member => ?_, ?_⟩
      · cases member
      · rw [List.append_nil]
        exact keeps
  | inspect next inductionHypothesis => exact inductionHypothesis _ keeps found
  | advance next inductionHypothesis =>
      obtain ⟨inside, readable, further, keeps⟩ := keeps
      have alone : ∀ token ∈ [cursor.current], token.Readable := by
        intro token member
        cases List.mem_singleton.1 member
        exact readable
      simp only [run] at found
      cases moved : cursor.spot.next? with
      | none =>
          obtain ⟨token, rest, log, invalid, pulled, failed⟩ :=
            Spot.advance_of_next?_none moved
          rw [failed] at found
          cases found
          refine Failure.unreadable (.stay cursor.spot) alone inside
            pulled invalid ?_
          rw [List.append_nil]
          exact further
      | some spot =>
          obtain ⟨log, advanced⟩ := Spot.advance_of_next? moved
          rw [advanced] at found
          have meets := inductionHypothesis (keeps _) found
          exact meets.after (.step inside moved (.stay spot)) alone
  | reject refusal =>
      cases found
      refine Failure.refused (.stay cursor.spot) (fun token member => ?_) ?_
      · cases member
      · rw [List.append_nil]
        exact keeps
  | note event next inductionHypothesis =>
      have meets : reply.Meets goal post (cursor.record event).spot taken :=
        inductionHypothesis keeps found
      exact meets
  | call rule next inductionHypothesis =>
      obtain ⟨leads, keeps⟩ := keeps
      simp only [run] at found
      cases answer : callee rule cursor with
      | none =>
          rw [answer] at found
          cases found
      | some step =>
          rw [answer] at found
          have meets := answers _ _ _ answer
          rcases step with ⟨diagnostic | value, after⟩
          · cases found
            exact Failure.toward leads meets
          · obtain ⟨tokens, moves, readable, reached⟩ := meets
            have goesOn := inductionHypothesis value
              (keeps value tokens after.current reached moves.head?_eq) found
            exact goesOn.after moves readable

end Parser

namespace Contract

/-- The body of every rule keeps the contract. -/
def Holds (contract : Contract) : Prop :=
  ∀ (rule : Rule) (token : Token),
    rule.body.Keeps contract (contract.goal rule) (contract.post rule) token []

/-- Every answer meets the contract. -/
theorem meets_answer?
    {contract : Contract}
    (holds : contract.Holds)
    {depth : Nat}
    {rule : Rule}
    {cursor : Cursor}
    {reply : Reply rule.Result}
    (found : Rule.answer? depth rule cursor = some reply) :
    reply.Meets (contract.goal rule) (contract.post rule) cursor.spot [] := by
  induction depth generalizing rule cursor with
  | zero => cases found
  | succ depth inductionHypothesis =>
      exact Parser.meets_run contract
        (fun _ _ _ answered => inductionHypothesis answered)
        (holds rule cursor.current) found

/-- The reply of a parser that keeps the contract meets it. -/
theorem meets_parse
    {α : Type}
    {contract : Contract}
    (holds : contract.Holds)
    {goal : List Token.Kind -> Prop}
    {post : α -> List Token -> Token -> Prop}
    {parser : Parser α}
    {cursor : Cursor}
    {taken : List Token}
    (keeps : parser.Keeps contract goal post cursor.current taken) :
    (parser.parse cursor).Meets goal post cursor.spot taken :=
  Parser.meets_run contract (fun _ _ _ answered => meets_answer? holds answered)
    keeps
    (Parser.run_answer?_eq (Nat.lt_succ_self _))

end Contract
end MatrixLang
