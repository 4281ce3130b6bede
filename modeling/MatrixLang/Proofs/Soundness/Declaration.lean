import MatrixLang.Proofs.Soundness.Statement

/-!
# Declarations are read by the grammar

The parsers of declarations keep the contract of the grammar, and so do the
bodies of all rules: `Grammar.holds_contract`.  `Grammar.meets_module` says what
this means for parsing a module.
-/

namespace MatrixLang
namespace Grammar

open MatrixLang.Parser

theorem parses_parameter : Follows .parameter Parameter.Reads parameter := by
  intro token
  refine parsesAt_here ?_
  refine (parses_type token).bind fun type tokens middle typeRead starts => ?_
  rw [← startOf_of_starts starts typeRead.ne_nil]
  refine parsesAt_expect .identifier rfl fun nameKind last => ?_
  exact parsesAt_finish (.intro typeRead nameKind)

theorem parses_furtherParameters :
    furtherParameters.Parses contract (.further .parameter) [.closeParen]
      fun tokens list _ => Parameter.FurtherReads tokens list :=
  parses_furtherItems parses_parameter (parses_apply .parameters) .none
    fun _ _ _ _ _ comma read others => .more comma read others

theorem parses_parameters :
    Follows (.parenthesized .parameter)
      (Between .openParen .closeParen Parameter.AllRead)
      (parenthesized parameter (apply .parameters)) :=
  parses_parenthesized parses_parameter (parses_apply .parameters) .none
    fun _ _ _ _ read others => .some read others

theorem parses_function : Follows .function Function.Reads function := by
  intro token
  refine parsesAt_here ?_
  refine parsesAt_pass .functionWord rfl fun wordKind after => ?_
  refine (parses_type after).bind fun returnType typeTokens middle typeRead _ =>
    ?_
  refine parsesAt_expect .identifier rfl fun nameKind after => ?_
  refine (parses_parameters after).bind fun parameters tokens middle read _ =>
    ?_
  obtain ⟨left, parameterTokens, right, rfl, leftKind, parametersRead,
    rightKind⟩ := read
  refine (parses_block middle).last fun body tokens last read _ => ?_
  obtain ⟨leftCurly, inner, rightCurly, rfl, leftCurlyKind, bodyRead,
    rightCurlyKind⟩ := read
  rw [List.cons_append, List.append_assoc]
  exact .intro wordKind typeRead nameKind leftKind parametersRead rightKind
    leftCurlyKind
    bodyRead rightCurlyKind

/-- An element of a record type may stand in front of others. -/
def LeadsElements (tokens : List Token) (element : Binding) : Prop :=
  ∀ rest list, Record.ElementsRead rest list ->
    Record.ElementsRead (tokens ++ rest) (element :: list)

theorem parses_recordElement :
    Follows .recordElement LeadsElements recordElement := by
  intro token
  refine (parses_binding token).bind fun element tokens middle read _ => ?_
  refine parsesAt_pass .semicolon rfl fun semicolonKind last =>
    parsesAt_finish ?_
  intro rest list others
  rw [List.append_assoc]
  exact .more read semicolonKind others

theorem opens_recordElement
    {kind : Token.Kind}
    (member : kind ∈ Expected.binding) :
    Form.recordElement.Opens kind :=
  (opens_binding member).seq.seq

theorem parses_furtherRecordElements :
    furtherRecordElements.Parses contract (.many .recordElement) [.closeCurly]
      fun tokens list _ => Record.ElementsRead tokens list := by
  intro token
  refine parsesAt_current ?_
  split
  · exact (parsesAt_finish .none).none
  · next notClosing =>
      split
      · refine ParsesAt.more ?_
        refine (parses_recordElement token).bind
          fun first tokens middle leads _ => ?_
        refine (parses_apply .bindings middle).last
          fun list rest last others _ => ?_
        exact leads rest list others
      · next notBinding =>
          refine parsesAt_unexpected (List.cons_ne_nil _ _) ?_
            fun kind member => ?_
          · rw [Expected.record, List.mem_append, List.mem_singleton, not_or]
            exact ⟨notBinding, notClosing⟩
          · rw [Expected.record, List.mem_append, List.mem_singleton] at member
            rcases member with start | rfl
            · exact .inl (opens_recordElement start).many
            · exact .inr ⟨List.mem_singleton_self _, .none⟩

theorem parses_record : Follows .record Record.Reads record := by
  intro token
  refine parsesAt_here ?_
  refine parsesAt_pass .recordWord rfl fun wordKind after => ?_
  refine parsesAt_expect .identifier rfl fun nameKind after => ?_
  refine parsesAt_pass .openCurly rfl fun leftKind after => ?_
  refine (parses_recordElement after).bind fun first tokens middle leads _ => ?_
  refine (parses_apply .bindings middle).bindClosing
    fun list rest middle others _ => ?_
  refine parsesAt_pass .closeCurly rfl fun rightKind last => parsesAt_finish ?_
  rw [← List.append_assoc]
  exact .intro wordKind nameKind leftKind (leads rest list others) rightKind

theorem parses_declarations :
    declarations.Parses contract .module []
      fun tokens list after =>
        Declaration.AllRead tokens list ∧ after.kind = .endOfFile := by
  have function : Form.function.Opens .functionWord := (Form.Opens.single _).seq
  have record : Form.record.Opens .recordWord := (Form.Opens.single _).seq
  intro token
  refine parsesAt_current ?_
  split
  · refine ParsesAt.more (ParsesAt.front (fun _ => .left) ?_)
    refine (parses_function token).bind fun first tokens middle read _ =>
      parsesAt_emit ?_
    refine (parses_apply .declarations middle).last
      fun list rest last others _ => ?_
    exact ⟨.function read others.1, others.2⟩
  · refine ParsesAt.more (ParsesAt.front (fun _ => .right) ?_)
    refine (parses_record token).bind fun first tokens middle read _ =>
      parsesAt_emit ?_
    refine (parses_apply .declarations middle).last
      fun list rest last others _ => ?_
    exact ⟨.record read others.1, others.2⟩
  · next ended => exact (parsesAt_finish ⟨.none, ended⟩).none
  · refine parsesAt_unexpected (List.cons_ne_nil _ _) ?_ fun kind member =>
      .inl ?_
    · simp only [Expected.declaration, List.mem_cons, List.not_mem_nil,
        or_false, not_or]
      constructor <;> assumption
    · simp only [Expected.declaration, List.mem_cons, List.not_mem_nil,
        or_false] at member
      rcases member with rfl | rfl
      · exact (function.oneOf (by simp)).many
      · exact (record.oneOf (by simp)).many

/-- A rule whose body is parsed as the contract says keeps it. -/
theorem keeps_of_parses
    {rule : Rule}
    (parses : rule.body.Parses contract rule.form rule.closers rule.Reads)
    (token : Token) :
    rule.body.Keeps contract (contract.goal rule) (contract.post rule)
      token [] := by
  refine parses token _ _ [] ?_ ?_
  · intro word complete
    exact ⟨[], by rwa [List.append_nil]⟩
  · exact fun value tokens after derived read _ => ⟨derived, read⟩

/-- The bodies of all rules keep the contract of the grammar. -/
theorem holds_contract : contract.Holds
  | .expression => keeps_of_parses parses_selection
  | .power => keeps_of_parses parses_power
  | .operands level => keeps_of_parses (parses_operands level)
  | .indices => keeps_of_parses parses_indices
  | .arguments => keeps_of_parses parses_furtherArguments
  | .elements => keeps_of_parses parses_furtherElements
  | .statement => keeps_of_parses parses_statement
  | .statements => keeps_of_parses parses_statements
  | .parameters => keeps_of_parses parses_furtherParameters
  | .bindings => keeps_of_parses parses_furtherRecordElements
  | .clauses afterDefault => keeps_of_parses (parses_clauses afterDefault)
  | .declarations => keeps_of_parses parses_declarations

/-- A module is read up to the end of the file. -/
theorem parses_module :
    module.Parses contract .module []
      fun tokens module after =>
        module.Reads tokens after ∧ after.kind = .endOfFile := by
  intro token
  refine parsesAt_here ?_
  refine ParsesAt.words (fun _ derived => derived.of_seq_empty) ?_
  refine (parses_apply .declarations token).bind
    fun list tokens after read starts => ?_
  refine parsesAt_emit (parsesAt_finish ⟨⟨list, ?_, ?_⟩, read.2⟩)
  · rw [List.append_nil]
    exact read.1
  · rw [List.append_nil]
    have position : startOf (tokens ++ [after]) = token.position := by
      rw [startOf, starts]
      rfl
    rw [position]

end Grammar
end MatrixLang
