import MatrixLang.Proofs.Printing.Statement
import MatrixLang.Proofs.Reading.Declaration

/-!
# Printed declarations are read back

The texts of functions and record types are read back before any text, and so is
the text of a module, which lists its record types before its functions.
-/

namespace MatrixLang

/-! ## Parameters -/

namespace Parameter

/-- Tokens from which a parameter is read, but for positions. -/
def ReadsBack (parameter : Parameter) (tokens : List Token) : Prop :=
  ∃ read : Parameter, read.Reads tokens ∧ read.erase = parameter.erase

/-- The text of a parameter is read back wherever no word goes on behind it. -/
def Written (parameter : Parameter) : Prop :=
  ∀ rest, Token.stops rest = true ->
    Prints parameter.text.toList rest parameter.ReadsBack

theorem Reads.written
    {tokens : List Token}
    {parameter : Parameter}
    (reads : parameter.Reads tokens)
    (spelled : ∀ token ∈ tokens, token.Spelled) : parameter.Written := by
  intro rest stop
  cases reads with
  | @intro name tokens type typeRead nameKind =>
      simp only [List.forall_mem_append, List.forall_mem_cons] at spelled
      rw [Parameter.text, String.toList_append, String.toList_append,
        List.append_assoc]
      apply Prints.part (typeRead.written spelled.1 _ rfl)
      rintro typeTokens ⟨read, reads, same⟩
      apply Prints.space
      apply Prints.lastName (spelled.2.1.name nameKind) stop
      intro token kind spelling
      refine ⟨_, .intro reads kind, ?_⟩
      simp only [Parameter.relabel, same, spelling]

theorem FurtherReads.written
    {tokens : List Token}
    {list : List Parameter}
    (reads : FurtherReads tokens list)
    (spelled : ∀ token ∈ tokens, token.Spelled) :
    ∀ parameter ∈ list, parameter.Written := by
  induction reads with
  | none => exact List.forall_mem_nil _
  | more _ read _ inductionHypothesis =>
      simp only [List.forall_mem_append, List.forall_mem_cons] at spelled
      exact List.forall_mem_cons.2
        ⟨read.written spelled.2.1, inductionHypothesis spelled.2.2⟩

theorem AllRead.written
    {tokens : List Token}
    {list : List Parameter}
    (reads : AllRead tokens list)
    (spelled : ∀ token ∈ tokens, token.Spelled) :
    ∀ parameter ∈ list, parameter.Written := by
  cases reads with
  | none => exact List.forall_mem_nil _
  | some read others =>
      rw [List.forall_mem_append] at spelled
      exact List.forall_mem_cons.2
        ⟨read.written spelled.1, others.written spelled.2⟩

/-- Parameters behind commas are read back. -/
theorem prints_further
    {list : List Parameter}
    {rest : List Char}
    (written : ∀ parameter ∈ list, parameter.Written)
    (stop : Token.stops rest = true) :
    Prints (furtherText (list.map Parameter.text)) rest
      (ListReadsBack erase FurtherReads list) := by
  refine Prints.further ⟨[], .none, rfl⟩ ?_ written stop
  rintro parameter list comma tokens others commaKind ⟨read, reads, same⟩
    ⟨further, furtherReads, furtherSame⟩
  refine ⟨read :: further, .more commaKind reads furtherReads, ?_⟩
  rw [List.map_cons, List.map_cons, same, furtherSame]

/-- The parameters of a function are read back. -/
theorem prints_all
    {list : List Parameter}
    {rest : List Char}
    (written : ∀ parameter ∈ list, parameter.Written)
    (stop : Token.stops rest = true) :
    Prints (Text.commaSeparated (list.map Parameter.text)).toList rest
      (ListReadsBack erase AllRead list) := by
  have further :=
    prints_further (fun parameter isLater =>
      written parameter (List.mem_of_mem_tail isLater)) stop
  refine Prints.listing ⟨[], .none, rfl⟩ ?_ written further stop
  rintro parameter list tokens others ⟨read, reads, same⟩
    ⟨further, furtherReads, furtherSame⟩
  refine ⟨read :: further, .some reads furtherReads, ?_⟩
  rw [List.map_cons, List.map_cons, same, furtherSame]

end Parameter

/-! ## Functions and record types -/

/-- The text of a function is read back before any text. -/
def Function.Written (function : Function) : Prop :=
  ∀ rest, Prints function.text.toList rest fun tokens =>
    ∃ read : Function, read.Reads tokens ∧ read.erase = function.erase

/--
Whatever function is read from tokens as the scanner spells them is written
back.
-/
theorem Function.Reads.written
    {tokens : List Token}
    {function : Function}
    (reads : function.Reads tokens)
    (spelled : ∀ token ∈ tokens, token.Spelled) : function.Written := by
  intro rest
  cases reads with
  | @intro word name left right leftCurly rightCurly typeTokens parameterTokens
      tokens returnType parameters body wordKind typeRead nameKind leftKind
      parametersRead rightKind leftCurlyKind bodyRead rightCurlyKind =>
      have letters :
          (Function.mk returnType name.spelling parameters body
              word.position).text.toList =
            "function".toList ++
              (" ".toList ++ (returnType.text.toList ++ (" ".toList ++
              (name.spelling.toList ++ ("(".toList ++
                ((Text.commaSeparated (parameters.map Parameter.text)).toList ++
                  (")".toList ++
                  (" ".toList ++
                    (Stmt.braced 0 (Stmt.lines 1 body)).toList)))))))) := by
        simp [Function.text]
      simp only [List.forall_mem_append, List.forall_mem_cons] at spelled
      obtain ⟨-, typeSpelled, nameSpelled, -, parametersSpelled, -, -,
        bodySpelled, -⟩ := spelled
      rw [letters]
      apply Prints.keywordSpace .functionWord (by decide)
      intro firstWord firstKind
      apply Prints.part (typeRead.written typeSpelled _ rfl)
      rintro types ⟨type, typeReads, typeSame⟩
      apply Prints.space
      apply Prints.name (nameSpelled.name nameKind) rfl
      intro nameToken nameTokenKind spelling
      apply Prints.sign .openParen (by decide) rfl
      intro opening openingKind
      apply Prints.part
        (Parameter.prints_all (parametersRead.written parametersSpelled) rfl)
      rintro listed ⟨list, listReads, listSame⟩
      apply Prints.sign .closeParen (by decide) rfl
      intro closing closingKind
      apply Prints.space
      apply Prints.braced 0 (Stmt.prints_lines (bodyRead.written bodySpelled) 1)
      rintro openingCurly statements closingCurly openingCurlyKind
        ⟨read, reads, same⟩ closingCurlyKind
      refine ⟨_, .intro firstKind typeReads nameTokenKind openingKind listReads
        closingKind openingCurlyKind reads closingCurlyKind, ?_⟩
      simp only [Function.relabel, typeSame, spelling, listSame, same]

namespace Record

/-- The lines of the elements of a record type. -/
def elementLines (elements : List Binding) : String :=
  String.join (elements.map fun element => Stmt.line 1 (elementText element))

theorem ElementsRead.written
    {tokens : List Token}
    {list : List Binding}
    (reads : ElementsRead tokens list)
    (spelled : ∀ token ∈ tokens, token.Spelled) :
    ∀ element ∈ list, element.Written := by
  induction reads with
  | none => exact List.forall_mem_nil _
  | more read _ _ inductionHypothesis =>
      simp only [List.forall_mem_append, List.forall_mem_cons] at spelled
      exact List.forall_mem_cons.2
        ⟨read.written spelled.1, inductionHypothesis spelled.2.2⟩

/-- The elements of a record type are read back from their lines. -/
theorem prints_elements
    {list : List Binding}
    (written : ∀ element ∈ list, element.Written)
    (rest : List Char) :
    Prints (elementLines list).toList rest
      (ListReadsBack Binding.erase ElementsRead list) := by
  induction list with
  | nil => exact Prints.nothing ⟨[], .none, rfl⟩
  | cons element list inductionHypothesis =>
      rw [List.forall_mem_cons] at written
      have letters : (elementLines (element :: list)).toList =
          (indentation 1).toList ++
            (element.text.toList ++ (";".toList ++ ("\n".toList ++
            (elementLines list).toList))) := by
        simp [elementLines, elementText, Stmt.line, String.join_cons]
      rw [letters]
      apply Prints.indented 1
      apply Prints.part (written.1 _ rfl)
      rintro tokens ⟨read, reads, same⟩
      apply Prints.sign .semicolon (by decide) rfl
      intro semicolon semicolonKind
      apply Prints.blanks (by decide)
      apply Prints.mono (inductionHypothesis written.2)
      rintro others ⟨further, furtherReads, furtherSame⟩
      refine ⟨read :: further, .more reads semicolonKind furtherReads, ?_⟩
      rw [List.map_cons, List.map_cons, same, furtherSame]

/-- The text of a record type is read back before any text. -/
def Written (record : Record) : Prop :=
  ∀ rest, Prints record.text.toList rest fun tokens =>
    ∃ read : Record, read.Reads tokens ∧ read.erase = record.erase

/--
Whatever record type is read from tokens as the scanner spells them is written
back.
-/
theorem Reads.written
    {tokens : List Token}
    {record : Record}
    (reads : record.Reads tokens)
    (spelled : ∀ token ∈ tokens, token.Spelled) : record.Written := by
  intro rest
  cases reads with
  | @intro word name left right tokens element list wordKind nameKind leftKind
      elementsRead rightKind =>
      have letters : (Record.mk name.spelling (element :: list)
            word.position).text.toList =
          "record".toList ++
            (" ".toList ++ (name.spelling.toList ++ (" ".toList ++
            (Stmt.braced 0 (elementLines (element :: list))).toList))) := by
        simp [Record.text, elementLines]
      simp only [List.forall_mem_append, List.forall_mem_cons] at spelled
      obtain ⟨-, nameSpelled, -, elementsSpelled, -⟩ := spelled
      rw [letters]
      apply Prints.keywordSpace .recordWord (by decide)
      intro firstWord firstKind
      apply Prints.name (nameSpelled.name nameKind) rfl
      intro nameToken nameTokenKind spelling
      apply Prints.space
      apply Prints.braced 0
        (prints_elements (elementsRead.written elementsSpelled))
      rintro opening elements closing openingKind
        ⟨read, reads, same⟩ closingKind
      cases read with
      | nil => cases same
      | cons firstRead furtherRead =>
          refine ⟨_,
            .intro firstKind nameTokenKind openingKind reads closingKind, ?_⟩
          simp only [Record.relabel, spelling, same]

end Record

/-! ## Modules -/

namespace Declaration

/-- The text of a declaration. -/
def text : Declaration -> String
  | .function declared => declared.text
  | .record declared => declared.text

/-- The text of a declaration is read back before any text. -/
def Written : Declaration -> Prop
  | .function declared => declared.Written
  | .record declared => declared.Written

/--
Whatever declarations are read from tokens as the scanner spells them are
written back.
-/
theorem AllRead.written
    {tokens : List Token}
    {list : List Declaration}
    (reads : AllRead tokens list)
    (spelled : ∀ token ∈ tokens, token.Spelled) :
    ∀ declaration ∈ list, declaration.Written := by
  induction reads with
  | none => exact List.forall_mem_nil _
  | function read _ inductionHypothesis =>
      rw [List.forall_mem_append] at spelled
      exact List.forall_mem_cons.2
        ⟨read.written spelled.1, inductionHypothesis spelled.2⟩
  | record read _ inductionHypothesis =>
      rw [List.forall_mem_append] at spelled
      exact List.forall_mem_cons.2
        ⟨read.written spelled.1, inductionHypothesis spelled.2⟩

/-- A declaration before others is read back with them. -/
theorem prints_cons
    {declaration : Declaration}
    {list : List Declaration}
    {more rest : List Char}
    (written : declaration.Written)
    (others : Prints more rest (ListReadsBack erase AllRead list)) :
    Prints (declaration.text.toList ++ more) rest
      (ListReadsBack erase AllRead (declaration :: list)) := by
  cases declaration with
  | function function =>
      apply Prints.part (written _)
      rintro tokens ⟨read, reads, same⟩
      apply Prints.mono others
      rintro others ⟨further, furtherReads, furtherSame⟩
      refine ⟨.function read :: further, .function reads furtherReads, ?_⟩
      rw [List.map_cons, List.map_cons, furtherSame]
      simp only [relabel, same]
  | record record =>
      apply Prints.part (written _)
      rintro tokens ⟨read, reads, same⟩
      apply Prints.mono others
      rintro others ⟨further, furtherReads, furtherSame⟩
      refine ⟨.record read :: further, .record reads furtherReads, ?_⟩
      rw [List.map_cons, List.map_cons, furtherSame]
      simp only [relabel, same]

/-- Declarations with blank lines between them are read back. -/
theorem prints_all
    {list : List Declaration}
    (written : ∀ declaration ∈ list, declaration.Written)
    (rest : List Char) :
    Prints (String.intercalate "\n\n" (list.map text)).toList rest
      (ListReadsBack erase AllRead list) := by
  induction list with
  | nil => exact Prints.nothing ⟨[], .none, rfl⟩
  | cons declaration list inductionHypothesis =>
      rw [List.forall_mem_cons] at written
      have others := inductionHypothesis written.2
      cases list with
      | nil =>
          rw [List.map_cons, List.map_nil, String.intercalate_singleton,
            ← List.append_nil declaration.text.toList]
          exact prints_cons written.1 others
      | cons next list =>
          rw [List.map_cons, List.map_cons, String.intercalate_cons_cons,
            String.toList_append, String.toList_append, List.append_assoc]
          exact prints_cons written.1 (Prints.blanks (by decide) others)

end Declaration

namespace Module

/-- The declarations of a module in the order of its text. -/
def declarations (module : Module) : List Declaration :=
  module.records.map .record ++ module.functions.map .function

theorem text_eq
    (module : Module) :
    module.text =
      String.intercalate "\n\n" (module.declarations.map Declaration.text) := by
  rw [Module.text, declarations, List.map_append, List.map_map, List.map_map]
  congr 2

/-- A module is made of its declarations. -/
theorem ofDeclarations_declarations
    (module : Module) :
    ofDeclarations module.position module.declarations = module := by
  have noFunctions :
      module.records.filterMap (fun _ => (none : Option Function)) = [] := by
    simp
  have noRecords :
      module.functions.filterMap (fun _ => (none : Option Record)) = [] := by
    simp
  simp only [ofDeclarations, declarations, List.filterMap_append,
    List.filterMap_map, Function.comp_def, noFunctions, noRecords,
    List.filterMap_some, List.nil_append, List.append_nil]

/-- The declarations of which a module is made are its own. -/
theorem mem_declarations
    {position : Position}
    {list : List Declaration}
    {declaration : Declaration}
    (isOne : declaration ∈ (ofDeclarations position list).declarations) :
    declaration ∈ list := by
  rw [declarations, List.mem_append, List.mem_map, List.mem_map] at isOne
  rcases isOne with ⟨record, isRecord, rfl⟩ | ⟨function, isFunction, rfl⟩
  · obtain ⟨source, isSource, found⟩ := List.mem_filterMap.1 isRecord
    cases source with
    | function _ => cases found
    | record _ =>
        cases found
        exact isSource
  · obtain ⟨source, isSource, found⟩ := List.mem_filterMap.1 isFunction
    cases source with
    | record _ => cases found
    | function _ =>
        cases found
        exact isSource

/-- The text of a module is read back, but for positions. -/
theorem Reads.prints
    {tokens : List Token}
    {module : Module}
    {after : Token}
    (reads : module.Reads tokens after)
    (spelled : ∀ token ∈ tokens, token.Spelled)
    (rest : List Char) :
    Prints module.text.toList rest fun tokens =>
      ∃ list, Declaration.AllRead tokens list ∧
        ∀ position, (ofDeclarations position list).erase = module.erase := by
  obtain ⟨list, all, rfl⟩ := reads
  have written := all.written spelled
  rw [text_eq]
  apply Prints.mono (Declaration.prints_all (fun declaration isOne =>
    written declaration (mem_declarations isOne)) rest)
  rintro tokens ⟨read, allRead, same⟩
  refine ⟨read, allRead, ?_⟩
  intro position
  rw [erase_ofDeclarations, same, ← erase_ofDeclarations,
    ofDeclarations_declarations]

end Module
end MatrixLang
