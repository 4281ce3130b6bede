import MatrixLang.Parser.Run

/-!
# Guarded parsers

A parser is guarded when it never moves over the end of the file and calls rules
only after it has moved.  `Parser.isSome_run` turns this into progress: a
guarded parser has a reply as soon as every call with less in front of the
cursor has one.

The predicate is a weakest precondition: it carries what has to hold of the
value, the lookahead token and the record of movement where the parser ends.
`Parser.Consumes` and `Parser.Steady` are the two ways in which it is used.
-/

namespace MatrixLang
namespace Parser

variable {α β : Type}

/--
Started at a lookahead token, having moved or not, a parser is guarded and ends
with the postcondition.
-/
def Guarded
    (token : Token)
    (moved : Bool)
    (post : α -> Token -> Bool -> Prop) : Parser α -> Prop
  | .finish value => post value token moved
  | .inspect next => (next token).Guarded token moved post
  | .advance next =>
      token.kind ≠ .endOfFile ∧ ∀ after, next.Guarded after true post
  | .reject _ => True
  | .note _ next => next.Guarded token moved post
  | .call _ next =>
      moved = true ∧ ∀ value after, (next value).Guarded after true post

/--
A sequence is guarded when its second part is wherever the first one ends.
-/
theorem guarded_bind
    {token : Token}
    {moved : Bool}
    {post : β -> Token -> Bool -> Prop}
    {parser : Parser α}
    {next : α -> Parser β} :
    (parser.bind next).Guarded token moved post ↔
      parser.Guarded token moved fun value after moved =>
        (next value).Guarded after moved post := by
  induction parser generalizing token moved with
  | finish value => rfl
  | inspect rest inductionHypothesis => exact inductionHypothesis _
  | advance rest inductionHypothesis =>
      exact and_congr_right fun _ => forall_congr' fun _ => inductionHypothesis
  | reject refusal => rfl
  | note event rest inductionHypothesis => exact inductionHypothesis
  | call rule rest inductionHypothesis =>
      exact and_congr_right fun _ =>
        forall_congr' fun _ => forall_congr' fun _ =>
        inductionHypothesis _

/--
A guarded parser has a reply when every call has one that is closer to the end.
-/
theorem isSome_run
    {callee : Callee}
    {bound : Nat}
    (shrinks : ∀ rule cursor reply,
      callee rule cursor = some reply -> reply.cursor.left ≤ cursor.left)
    (answered :
      ∀ rule cursor, cursor.left < bound -> (callee rule cursor).isSome)
    {parser : Parser α}
    {cursor : Cursor}
    {moved : Bool}
    {post : α -> Token -> Bool -> Prop}
    (guarded : parser.Guarded cursor.current moved post)
    (within : cursor.left ≤ bound)
    (movedWithin : moved = true -> cursor.left < bound) :
    (parser.run callee cursor).isSome := by
  induction parser generalizing cursor moved with
  | finish value => rfl
  | inspect next inductionHypothesis =>
      exact inductionHypothesis _ guarded within movedWithin
  | advance next inductionHypothesis =>
      obtain ⟨inside, guarded⟩ := guarded
      have shorter : cursor.advance.cursor.left < bound :=
        Nat.lt_of_lt_of_le (Cursor.left_advance_lt inside) within
      simp only [run]
      generalize cursor.advance = step at shorter ⊢
      rcases step with ⟨_ | _, after⟩
      · rfl
      · exact inductionHypothesis (guarded _) (Nat.le_of_lt shorter) fun _ =>
          shorter
  | reject refusal => rfl
  | note event next inductionHypothesis =>
      have reply : (next.run callee (cursor.record event)).isSome :=
        inductionHypothesis guarded within movedWithin
      exact reply
  | call rule next inductionHypothesis =>
      obtain ⟨hasMoved, guarded⟩ := guarded
      have below := movedWithin hasMoved
      have present := answered rule cursor below
      simp only [run]
      cases answer : callee rule cursor with
      | none => simp [answer] at present
      | some reply =>
          have shorter := Nat.lt_of_le_of_lt (shrinks _ _ _ answer) below
          rcases reply with ⟨_ | value, after⟩
          · rfl
          · exact inductionHypothesis _ (guarded _ _) (Nat.le_of_lt shorter)
              fun _ => shorter

/-- A parser is guarded and has moved where it ends, from wherever it starts. -/
def Consumes (parser : Parser α) : Prop :=
  ∀ token moved post,
    (∀ value after, post value after true) -> parser.Guarded token moved post

/-- A parser is guarded if something has moved before it. -/
def Steady (parser : Parser α) : Prop :=
  ∀ token post,
    (∀ value after, post value after true) -> parser.Guarded token true post

theorem Consumes.steady
    {parser : Parser α}
    (consumes : parser.Consumes) :
    parser.Steady :=
  fun token post ends => consumes token true post ends

theorem Consumes.bind
    {parser : Parser α}
    {next : α -> Parser β}
    (consumes : parser.Consumes)
    (steady : ∀ value, (next value).Steady) :
    (parser.bind next).Consumes :=
  fun token moved _ ends =>
    guarded_bind.2
      (consumes token moved _ fun value after => steady value after _ ends)

theorem Steady.bind
    {parser : Parser α}
    {next : α -> Parser β}
    (first : parser.Steady)
    (steady : ∀ value, (next value).Steady) :
    (parser.bind next).Steady :=
  fun token _ ends =>
    guarded_bind.2 (first token _ fun value after => steady value after _ ends)

theorem steady_finish (value : α) : (Parser.finish value).Steady :=
  fun token _ ends => ends value token

theorem steady_apply (rule : Rule) : (apply rule).Steady :=
  fun _ _ ends => ⟨rfl, ends⟩

theorem steady_emit (event : Event) : (emit event).Steady :=
  fun token _ ends => ends () token

theorem consumes_expect
    {kind : Token.Kind}
    (inside : kind ≠ .endOfFile) :
    (expect kind).Consumes := by
  intro token moved post ends
  simp only [expect, Guarded]
  split
  · next same => exact ⟨same ▸ inside, fun after => ends _ after⟩
  · trivial

theorem consumes_pass
    {kind : Token.Kind}
    (inside : kind ≠ .endOfFile) :
    (pass kind).Consumes :=
  (consumes_expect inside).bind fun _ => steady_finish ()

theorem consumes_here
    {next : Position -> Parser α}
    (consumes : ∀ position, (next position).Consumes) :
    (here.bind next).Consumes :=
  fun token moved post ends => consumes token.position token moved post ends

theorem steady_current
    {next : Token -> Parser α}
    (steady : ∀ token, (next token).Steady) :
    (current.bind next).Steady :=
  fun token post ends => steady token token post ends

/--
A parser that goes on by the lookahead token is guarded as what it goes on with.
-/
theorem guarded_current
    {token : Token}
    {moved : Bool}
    {post : α -> Token -> Bool -> Prop}
    {next : Token -> Parser α} :
    (current.bind next).Guarded token moved post ↔
      (next token).Guarded token moved post :=
  Iff.rfl

/-- Moving over a token that is not the end of the file is guarded. -/
theorem guarded_skip
    {token : Token}
    {moved : Bool}
    {post : α -> Token -> Bool -> Prop}
    {next : Unit -> Parser α}
    (inside : token.kind ≠ .endOfFile)
    (steady : (next ()).Steady)
    (ends : ∀ value after, post value after true) :
    (skip.bind next).Guarded token moved post :=
  ⟨inside, fun after => steady after post ends⟩

end Parser
end MatrixLang
