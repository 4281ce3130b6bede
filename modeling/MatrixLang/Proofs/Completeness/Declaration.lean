import MatrixLang.Proofs.Completeness.Statement
import MatrixLang.Proofs.Reading.Declaration

/-!
# Declarations that can be read are parsed

Functions and record types are parsed in front of any token, and a module in
front of the end of the file: `Module.Reads.takes`.
-/

namespace MatrixLang

open MatrixLang.Parser MatrixLang.Grammar

/-! ## Functions -/

/-- A type starts with one of the kinds that are expected of types. -/
theorem Ty.Reads.start
    {tokens : List Token}
    {ty : Ty}
    (reads : ty.Reads tokens)
    (after : Token) :
    (lookahead tokens after).kind ∈ Expected.type := by
  cases reads with
  | simple found =>
      rw [lookahead_cons]
      rcases Ty.of_ofKind? found with
        ⟨kind, -⟩ | ⟨kind, -⟩ | ⟨kind, -⟩ | ⟨kind, -⟩ | ⟨kind, -⟩
      all_goals
        rw [kind]
        decide
  | _ => simp [Expected.type, *]

namespace Parameter

variable {tokens : List Token} {after : Token}

theorem Reads.takes
    {element : Parameter}
    (reads : element.Reads tokens)
    (after : Token) :
    parameter.Takes tokens after element := by
  cases reads with
  | @intro name typeTokens type typeRead nameKind =>
      apply takes_here
      rw [lookahead_append, position_lookahead typeRead.ne_nil]
      apply (typeRead.takes name).bind
      exact takes_expect nameKind (takes_finish _)

theorem Reads.start_ne
    {element : Parameter}
    (reads : element.Reads tokens)
    (after : Token) :
    (lookahead tokens after).kind ≠ .closeParen := by
  cases reads with
  | @intro name _ _ typeRead nameKind =>
      intro same
      have start := typeRead.start (lookahead [name] after)
      rw [lookahead_append] at same
      rw [same] at start
      exact absurd start (by decide)

theorem FurtherReads.takes
    {list : List Parameter}
    (reads : FurtherReads tokens list)
    (closing : after.kind = .closeParen) :
    furtherParameters.Takes tokens after list := by
  induction reads with
  | none => exact takes_furtherItems_nil closing
  | more commaKind read _ inductionHypothesis =>
      exact takes_furtherItems_cons commaKind (read.takes _)
        (takes_apply inductionHypothesis)

theorem AllRead.takes
    {list : List Parameter}
    (reads : AllRead tokens list)
    (closing : after.kind = .closeParen) :
    (items parameter (apply .parameters)).Takes tokens after list := by
  cases reads with
  | none => exact takes_items_nil closing
  | some read others =>
      exact takes_items_cons (read.start_ne _) (read.takes _)
        (takes_apply (others.takes closing))

end Parameter

theorem Function.Reads.takes
    {tokens : List Token}
    {declared : Function}
    (reads : declared.Reads tokens)
    (after : Token) :
    function.Takes tokens after declared := by
  cases reads with
  | @intro word name left right leftCurly rightCurly typeTokens parameterTokens
      bodyTokens returnType parameters body wordKind typeRead nameKind leftKind
      parametersRead rightKind leftCurlyKind bodyRead rightCurlyKind =>
      have listTakes (next : Token) :
          (parenthesized parameter (apply .parameters)).Takes
            (left :: (parameterTokens ++ [right])) next parameters :=
        takes_parenthesized leftKind (parametersRead.takes rightKind) rightKind
      have bodyTakes :
          block.Takes (leftCurly :: (bodyTokens ++ [rightCurly])) after body :=
        takes_block leftCurlyKind (bodyRead.complete _ rightCurlyKind).1
          rightCurlyKind
      apply takes_here
      apply takes_pass wordKind
      apply (typeRead.takes _).bind
      apply takes_expect nameKind
      rw [List.append_cons parameterTokens, ← List.cons_append]
      apply (listTakes _).bind
      exact bodyTakes.last

/-! ## Record types -/

/-- A binding starts with one of the kinds that are expected of bindings. -/
theorem Binding.Reads.start
    {tokens : List Token}
    {element : Binding}
    (reads : element.Reads tokens)
    (after : Token) :
    (lookahead tokens after).kind ∈ Expected.binding := by
  cases reads with
  | intro found typeRead nameKind =>
      rw [lookahead_cons]
      rcases Binding.of_mutable? found with ⟨kind, -⟩ | ⟨kind, -⟩
      all_goals
        rw [kind]
        decide

namespace Record

variable {tokens rest : List Token} {semicolon after : Token}
  {element : Binding}
  {list : List Binding}

theorem takes_recordElement
    (read : element.Reads tokens)
    (semicolonKind : semicolon.kind = .semicolon) :
    recordElement.Takes (tokens ++ [semicolon]) after element := by
  apply (read.takes semicolon).bind
  exact takes_pass semicolonKind (takes_finish element)

theorem ElementsRead.takes
    (reads : ElementsRead tokens list)
    (closing : after.kind = .closeCurly) :
    furtherRecordElements.Takes tokens after list := by
  induction reads with
  | none =>
      apply takes_current
      rw [lookahead_nil, if_pos closing]
      exact takes_finish []
  | @more semicolon tokens rest element list read semicolonKind others
      inductionHypothesis =>
      have start := read.start semicolon
      have notClosing : (lookahead tokens semicolon).kind ≠ .closeCurly := by
        intro same
        rw [same] at start
        exact absurd start (by decide)
      apply takes_current
      rw [lookahead_append, lookahead_cons, if_neg notClosing, if_pos start,
        List.append_cons]
      apply (takes_recordElement read semicolonKind).bind
      exact (takes_apply inductionHypothesis).last

theorem Reads.takes
    {declared : Record}
    (reads : declared.Reads tokens)
    (after : Token) :
    record.Takes tokens after declared := by
  cases reads with
  | intro wordKind nameKind leftKind elementsRead rightKind =>
      cases elementsRead with
      | @more _ elementTokens _ _ _ read semicolonKind others =>
          apply takes_here
          apply takes_pass wordKind
          apply takes_expect nameKind
          apply takes_pass leftKind
          rw [List.append_assoc, List.cons_append,
            List.append_cons elementTokens]
          apply (takes_recordElement read semicolonKind).bind
          apply (takes_apply (others.takes rightKind)).bind
          exact takes_pass rightKind (takes_finish _)

end Record

/-! ## Modules -/

theorem Function.Reads.start
    {tokens : List Token}
    {declared : Function}
    (reads : declared.Reads tokens)
    (after : Token) :
    (lookahead tokens after).kind = .functionWord := by
  cases reads with
  | intro wordKind => exact wordKind

theorem Record.Reads.start
    {tokens : List Token}
    {declared : Record}
    (reads : declared.Reads tokens)
    (after : Token) :
    (lookahead tokens after).kind = .recordWord := by
  cases reads with
  | intro wordKind => exact wordKind

theorem Declaration.AllRead.takes
    {tokens : List Token}
    {list : List Declaration}
    {after : Token}
    (reads : AllRead tokens list)
    (ended : after.kind = .endOfFile) :
    declarations.Takes tokens after list := by
  induction reads with
  | none =>
      apply takes_current
      rw [lookahead_nil, ended]
      exact takes_finish []
  | function read others inductionHypothesis =>
      apply takes_current
      rw [lookahead_append, read.start]
      apply (read.takes _).bind
      apply takes_emit
      exact (takes_apply inductionHypothesis).last
  | record read others inductionHypothesis =>
      apply takes_current
      rw [lookahead_append, read.start]
      apply (read.takes _).bind
      apply takes_emit
      exact (takes_apply inductionHypothesis).last

/--
A module that can be read from tokens is parsed from them in front of the end of
the file.
-/
theorem Module.Reads.takes
    {tokens : List Token}
    {declared : Module}
    {after : Token}
    (reads : declared.Reads tokens after)
    (ended : after.kind = .endOfFile) :
    module.Takes tokens after declared := by
  obtain ⟨list, read, rfl⟩ := reads
  have start :
      (lookahead tokens after).position = startOf (tokens ++ [after]) := by
    cases tokens <;> rfl
  apply takes_here
  rw [start]
  apply (takes_apply (read.takes ended)).alone
  exact takes_emit (takes_finish _)

end MatrixLang
