import MatrixLang.Proofs.Acceptance
import MatrixLang.Proofs.EndOfStream

/-!
# Declarations one after the other

A module is parsed in rounds.  Each round parses one declaration and announces
it, and the rounds end with the end of the file or with the first failure.
`Declares` collects the rounds made so far.  They are made exactly where
declarations can be read (`Declares.reads`, `Declaration.AllRead.declares`), and
parsing goes on behind them as it does anywhere else (`Declares.parse_eq`).
-/

namespace MatrixLang

/-- The declaration that is read from tokens. -/
def Declaration.Reads (tokens : List Token) : Declaration -> Prop
  | .function declared => declared.Reads tokens
  | .record declared => declared.Reads tokens

theorem Declaration.Reads.cons
    {declaration : Declaration}
    {tokens rest : List Token}
    {list : List Declaration}
    (read : declaration.Reads tokens)
    (others : AllRead rest list) :
    AllRead (tokens ++ rest) (declaration :: list) := by
  cases declaration with
  | function declared => exact .function read others
  | record declared => exact .record read others

namespace Grammar

open MatrixLang.Parser

/--
The declaration that starts with a token; it is announced as soon as it is
finished.
-/
def declarationFrom (token : Token) : Parser Declaration :=
  match token.kind with
  | .functionWord => do
      let first ← function
      emit (.parsedFunction first.name first.position)
      pure (.function first)
  | .recordWord => do
      let first ← record
      emit (.parsedRecord first.name first.position)
      pure (.record first)
  | _ => unexpected Expected.declaration

/-- A declaration. -/
def declaration : Parser Declaration :=
  current.bind declarationFrom

theorem declarations_eq :
    declarations = current.bind fun token =>
      if token.kind = .endOfFile then .finish []
      else (declarationFrom token).bind fun first =>
        (apply .declarations).bind fun rest => .finish (first :: rest) := by
  rw [declarations, bind_eq]
  congr 1
  funext token
  split
  · next kind =>
      have first : declarationFrom token = function.bind fun first =>
          (emit (.parsedFunction first.name first.position)).bind fun _ =>
            .finish (.function first) := by
        rw [declarationFrom, kind]
        rfl
      rw [kind, if_neg (by decide), first, bind_assoc]
      rfl
  · next kind =>
      have first : declarationFrom token = record.bind fun first =>
          (emit (.parsedRecord first.name first.position)).bind fun _ =>
            .finish (.record first) := by
        rw [declarationFrom, kind]
        rfl
      rw [kind, if_neg (by decide), first, bind_assoc]
      rfl
  · next kind =>
      rw [kind, if_pos rfl]
      rfl
  · next notFunction notRecord notEnd =>
      have first : declarationFrom token = unexpected Expected.declaration := by
        rw [declarationFrom]
        split
        · next kind => exact absurd kind notFunction
        · next kind => exact absurd kind notRecord
        · rfl
      rw [if_neg notEnd, first]
      rfl

/-- Declarations are parsed in rounds up to the end of the file. -/
theorem parse_declarations
    (cursor : Cursor) :
    declarations.parse cursor =
      if cursor.AtEnd then ⟨.ok [], cursor⟩
      else (declaration.parse cursor).bind fun first middle =>
        (declarations.parse middle).bind fun rest last =>
          ⟨.ok (first :: rest), last⟩ := by
  have start : declarations.parse cursor =
      (if cursor.current.kind = .endOfFile then .finish []
        else (declarationFrom cursor.current).bind fun first =>
          (apply .declarations).bind fun rest => .finish (first :: rest) :
        Parser (List Declaration)).parse cursor := by
    rw [declarations_eq]
    rfl
  rw [start]
  by_cases ended : cursor.current.kind = .endOfFile
  · have atEnd : cursor.AtEnd := ended
    rw [if_pos ended, if_pos atEnd, parse_finish]
  · have inside : ¬ cursor.AtEnd := ended
    rw [if_neg ended, if_neg inside, parse_bind]
    congr 1
    funext first middle
    exact parse_call .declarations _ middle

/-- A module is its declarations, sorted and announced. -/
theorem parse_module
    (cursor : Cursor) :
    module.parse cursor =
      (declarations.parse cursor).bind fun list after =>
        let module := Module.ofDeclarations cursor.current.position list
        ⟨.ok module, after.record
          (.parsedModule module.functions.length module.records.length)⟩ :=
  parse_call .declarations _ cursor

theorem parses_declaration :
    Follows (.oneOf .function [.record])
      (fun tokens read => Declaration.Reads tokens read)
      declaration := by
  have function : Form.function.Opens .functionWord := (Form.Opens.single _).seq
  have record : Form.record.Opens .recordWord := (Form.Opens.single _).seq
  intro token
  refine parsesAt_current ?_
  rw [declarationFrom]
  split
  · refine ParsesAt.oneOf ?_ (List.mem_cons_self ..)
    refine ParsesAt.words (fun _ derived => derived.of_seq_empty) ?_
    refine (parses_function token).bind fun first tokens middle read _ =>
      parsesAt_emit ?_
    refine parsesAt_finish ?_
    rw [List.append_nil]
    exact read
  · refine ParsesAt.oneOf ?_
      (List.mem_cons_of_mem _ (List.mem_singleton_self _))
    refine ParsesAt.words (fun _ derived => derived.of_seq_empty) ?_
    refine (parses_record token).bind fun first tokens middle read _ =>
      parsesAt_emit ?_
    refine parsesAt_finish ?_
    rw [List.append_nil]
    exact read
  · refine parsesAt_unexpected (List.cons_ne_nil _ _) ?_ fun kind member =>
      .inl ?_
    · simp only [Expected.declaration, List.mem_cons, List.not_mem_nil,
        or_false, not_or]
      constructor <;> assumption
    · simp only [Expected.declaration, List.mem_cons, List.not_mem_nil,
        or_false] at member
      rcases member with rfl | rfl
      · exact function.oneOf (by simp)
      · exact record.oneOf (by simp)

theorem takes_declaration
    {read : Declaration}
    {tokens : List Token}
    (reads : read.Reads tokens)
    (after : Token) :
    declaration.Takes tokens after read := by
  apply takes_current
  cases read with
  | function declared =>
      rw [declarationFrom, Function.Reads.start reads after]
      apply (Function.Reads.takes reads after).alone
      exact takes_emit (takes_finish _)
  | record declared =>
      rw [declarationFrom, Record.Reads.start reads after]
      apply (Record.Reads.takes reads after).alone
      exact takes_emit (takes_finish _)

theorem consumes_declaration : declaration.Consumes := by
  intro token moved post ends
  rw [declaration, guarded_current, declarationFrom]
  split
  · exact (consumes_function.bind fun _ =>
      (steady_emit _).bind fun _ => steady_finish _) token moved post ends
  · exact (consumes_record.bind fun _ =>
      (steady_emit _).bind fun _ => steady_finish _) token moved post ends
  · trivial

end Grammar

/-! ## Rounds -/

open Grammar in
/-- Declarations that have been parsed and announced one after the other. -/
inductive Declares : Cursor -> List Declaration -> Cursor -> Prop
  | none (cursor : Cursor) : Declares cursor [] cursor
  | more
      {cursor middle last : Cursor}
      {first : Declaration}
      {list : List Declaration} :
      declaration.parse cursor = ⟨.ok first, middle⟩ ->
      Declares middle list last ->
      Declares cursor (first :: list) last

/-- No further declaration is parsed. -/
def Cursor.Declared (cursor : Cursor) : Prop :=
  ∀ first middle, Grammar.declaration.parse cursor ≠ ⟨.ok first, middle⟩

namespace Declares

open MatrixLang.Grammar

variable {cursor last : Cursor} {list : List Declaration}

/-- A finished declaration leaves the cursor closer to the end of the file. -/
theorem reach_lt
    {middle : Cursor}
    {first : Declaration}
    (parsed : declaration.parse cursor = ⟨.ok first, middle⟩) :
    middle.reach < cursor.reach := by
  obtain ⟨count, runs⟩ := declaration.runs_parse cursor
  rw [parsed] at runs
  have moved : 0 < count := runs.pos_of_consumes consumes_declaration
  have fewer : count + middle.reach ≤ cursor.reach :=
    runs.within
      (consumes_declaration _ true (fun _ _ _ => True) fun _ _ => trivial)
  omega

/-- At the end of the file no further declaration is parsed. -/
theorem declared_of_atEnd (ended : cursor.AtEnd) : cursor.Declared := by
  intro first middle parsed
  have closer := reach_lt parsed
  rw [Cursor.reach_eq_zero ended] at closer
  exact Nat.not_lt_zero _ closer

/-- Parsing goes on behind the rounds. -/
theorem parse_eq
    (rounds : Declares cursor list last) :
    declarations.parse cursor =
      (declarations.parse last).bind fun rest after =>
        ⟨.ok (list ++ rest), after⟩ := by
  induction rounds with
  | none cursor =>
      rcases declarations.parse cursor with ⟨_ | rest, after⟩ <;> rfl
  | @more cursor middle last first list parsed _ inductionHypothesis =>
      have inside : ¬ cursor.AtEnd :=
        fun ended => declared_of_atEnd ended _ _ parsed
      rw [parse_declarations, if_neg inside, parsed]
      change (declarations.parse middle).bind _ = _
      rw [inductionHypothesis]
      rcases declarations.parse last with ⟨_ | rest, after⟩ <;> rfl

/--
The declarations of the rounds are read from the tokens that the cursor moves
over.
-/
theorem reads
    (rounds : Declares cursor list last) :
    ∃ tokens,
      cursor.spot.Moves tokens last.spot ∧ Declaration.AllRead tokens list := by
  induction rounds with
  | none cursor => exact ⟨[], .stay _, .none⟩
  | @more cursor middle last first list parsed _ inductionHypothesis =>
      obtain ⟨rest, further, others⟩ := inductionHypothesis
      have meets := parses_declaration.meets cursor
      rw [parsed] at meets
      obtain ⟨tokens, moves, -, -, read⟩ := meets
      exact ⟨tokens ++ rest, moves.trans further,
        Declaration.Reads.cons read others⟩

end Declares

/-- Declarations that can be read from the next tokens are parsed in rounds. -/
theorem Declaration.AllRead.declares
    {tokens : List Token}
    {list : List Declaration}
    {cursor : Cursor}
    {stop : Spot}
    (reads : AllRead tokens list)
    (moves : cursor.spot.Moves tokens stop) :
    ∃ log, Declares cursor list (stop.cursor log) := by
  have round
      {front back : List Token}
      {first : Declaration}
      {list : List Declaration}
      {cursor : Cursor}
      (read : first.Reads front)
      (moves : cursor.spot.Moves (front ++ back) stop)
      (others : ∀ middle : Cursor, middle.spot.Moves back stop ->
        ∃ log, Declares middle list (stop.cursor log)) :
      ∃ log, Declares cursor (first :: list) (stop.cursor log) := by
    obtain ⟨middle, frontMoves, backMoves⟩ := moves.split
    obtain ⟨log, parsed⟩ :=
      Grammar.takes_declaration read _ cursor middle frontMoves rfl
    obtain ⟨lastLog, rounds⟩ := others (middle.cursor log) backMoves
    exact ⟨lastLog, .more parsed rounds⟩
  induction reads generalizing cursor with
  | none =>
      cases moves
      exact ⟨cursor.log, .none cursor⟩
  | function read _ inductionHypothesis =>
      exact round read moves fun _ further => inductionHypothesis further
  | record read _ inductionHypothesis =>
      exact round read moves fun _ further => inductionHypothesis further

end MatrixLang
