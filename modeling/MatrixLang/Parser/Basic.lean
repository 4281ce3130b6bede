import MatrixLang.Diagnostic
import MatrixLang.Event
import MatrixLang.Syntax.Stmt
import MatrixLang.Syntax.Level
import MatrixLang.Syntax.Module

/-!
# Parsers

A parser is a program that inspects the lookahead token, advances over it,
rejects it, notes an event or calls one of the recursive rules of the grammar.
The programs form a monad.  They are data, so a statement about every parser is
proved by induction on the program.
-/

namespace MatrixLang

/-- The recursive rules of the grammar. -/
inductive Rule
  /-- An expression of any form. -/
  | expression
  /-- A power, whose exponent is a power again. -/
  | power
  /-- Any number of operators of a level, each with its right operand. -/
  | operands (level : Level)
  /-- Any number of indices in brackets. -/
  | indices
  /-- The arguments of a call behind the first one. -/
  | arguments
  /-- The elements of an aggregate behind the first one. -/
  | elements
  /-- A statement of any form. -/
  | statement
  /-- The statements of a block. -/
  | statements
  /-- The parameters of a function behind the first one. -/
  | parameters
  /-- The elements of a record type behind the first one. -/
  | bindings
  /-- The clauses of a switch, before or behind its default. -/
  | clauses (afterDefault : Bool)
  /-- The declarations of a module. -/
  | declarations
deriving DecidableEq

/-- What a rule of the grammar yields. -/
abbrev Rule.Result : Rule -> Type
  | .expression => Expr
  | .power => Expr
  | .operands _ => List (BinaryOp × Expr)
  | .indices => List Expr
  | .arguments => List Expr
  | .elements => List Expr
  | .statement => Stmt
  | .statements => List Stmt
  | .parameters => List Parameter
  | .bindings => List Binding
  | .clauses _ => List Clause
  | .declarations => List Declaration

/-- Why a parser rejects the lookahead token. -/
inductive Refusal
  /-- Its kind is none of the expected ones. -/
  | unexpected (expected : List Token.Kind)
  /-- It is a literal without a value. -/
  | number
deriving DecidableEq

/-- The cause of a failure at a rejected token. -/
def Refusal.cause (token : Token) : Refusal -> Cause
  | .unexpected expected => .unexpected token expected
  | .number => .number token

/-- A program over the lookahead token that yields a value. -/
inductive Parser (α : Type) : Type
  /-- Yields a value. -/
  | finish (value : α)
  /-- Goes on by the lookahead token. -/
  | inspect (next : Token -> Parser α)
  /-- Moves over the lookahead token. -/
  | advance (next : Parser α)
  /-- Fails at the lookahead token. -/
  | reject (refusal : Refusal)
  /-- Notes an event. -/
  | note (event : Event) (next : Parser α)
  /-- Goes on with what a rule yields. -/
  | call (rule : Rule) (next : rule.Result -> Parser α)

namespace Parser

variable {α β γ : Type}

/-- Goes on with what a parser yields. -/
def bind (parser : Parser α) (next : α -> Parser β) : Parser β :=
  match parser with
  | .finish value => next value
  | .inspect rest => .inspect fun token => (rest token).bind next
  | .advance rest => .advance (rest.bind next)
  | .reject refusal => .reject refusal
  | .note event rest => .note event (rest.bind next)
  | .call rule rest => .call rule fun value => (rest value).bind next

instance : Monad Parser where
  pure := Parser.finish
  bind := Parser.bind

/-- The lookahead token. -/
def current : Parser Token :=
  .inspect .finish

/-- The position of the lookahead token. -/
def here : Parser Position :=
  .inspect fun token => .finish token.position

/-- Moves over the lookahead token. -/
def skip : Parser Unit :=
  .advance (.finish ())

/--
Fails because the kind of the lookahead token is none of the expected ones.
-/
def unexpected (expected : List Token.Kind) : Parser α :=
  .reject (.unexpected expected)

/-- Notes an event. -/
def emit (event : Event) : Parser Unit :=
  .note event (.finish ())

/-- What a rule yields. -/
def apply (rule : Rule) : Parser rule.Result :=
  .call rule .finish

/-- Moves over a token of a kind and yields its spelling. -/
def expect (kind : Token.Kind) : Parser String :=
  .inspect fun token =>
    if token.kind = kind then
      .advance (.finish token.spelling)
    else
      unexpected [kind]

/-- Moves over a token of a kind. -/
def pass (kind : Token.Kind) : Parser Unit := do
  let _ ← expect kind
  pure ()

@[simp]
theorem pure_eq (value : α) : (pure value : Parser α) = .finish value :=
  rfl

@[simp]
theorem bind_eq
    (parser : Parser α)
    (next : α -> Parser β) :
    parser >>= next = parser.bind next :=
  rfl

theorem bind_finish (parser : Parser α) : parser.bind .finish = parser := by
  induction parser with
  | finish value => rfl
  | inspect next inductionHypothesis => simp [bind, inductionHypothesis]
  | advance next inductionHypothesis => simp [bind, inductionHypothesis]
  | reject refusal => rfl
  | note event next inductionHypothesis => simp [bind, inductionHypothesis]
  | call rule next inductionHypothesis => simp [bind, inductionHypothesis]

theorem bind_assoc
    (parser : Parser α)
    (first : α -> Parser β)
    (second : β -> Parser γ) :
    (parser.bind first).bind second =
      parser.bind fun value => (first value).bind second := by
  induction parser with
  | finish value => rfl
  | inspect next inductionHypothesis => simp [bind, inductionHypothesis]
  | advance next inductionHypothesis => simp [bind, inductionHypothesis]
  | reject refusal => rfl
  | note event next inductionHypothesis => simp [bind, inductionHypothesis]
  | call rule next inductionHypothesis => simp [bind, inductionHypothesis]

instance : LawfulMonad Parser :=
  LawfulMonad.mk' Parser bind_finish (fun _ _ => rfl) bind_assoc

/-- What follows an expected token goes on with its spelling. -/
theorem expect_bind
    (kind : Token.Kind)
    (next : String -> Parser α) :
    (expect kind).bind next =
      current.bind fun token =>
        if token.kind = kind then skip.bind fun _ => next token.spelling
        else unexpected [kind] := by
  change Parser.inspect _ = Parser.inspect _
  congr 1
  funext token
  change (if _ then _ else _ : Parser String).bind next = if _ then _ else _
  split <;> rfl

theorem pass_bind
    (kind : Token.Kind)
    (next : Unit -> Parser α) :
    (pass kind).bind next = (expect kind).bind fun _ => next () := by
  change ((expect kind).bind fun _ => .finish ()).bind next = _
  rw [bind_assoc]
  rfl

end Parser
end MatrixLang
