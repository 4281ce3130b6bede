import MatrixLang.Proofs.Reading.Statement
import MatrixLang.Syntax.Module

/-!
# Reading declarations

The grammar of functions, record types and modules with the trees in it.
-/

namespace MatrixLang

namespace Parameter

/-- The parameter that is read from tokens. -/
inductive Reads : List Token -> Parameter -> Prop
  | intro
      {name : Token}
      {tokens : List Token}
      {type : Ty}
      (typeRead : type.Reads tokens)
      (nameKind : name.kind = .identifier) :
      Reads (tokens ++ [name]) ⟨type, name.spelling, startOf tokens⟩

/-- The parameters behind the first one. -/
inductive FurtherReads : List Token -> List Parameter -> Prop
  | none : FurtherReads [] []
  | more
      {comma : Token}
      {tokens rest : List Token}
      {parameter : Parameter}
      {list : List Parameter}
      (commaKind : comma.kind = .comma)
      (read : parameter.Reads tokens)
      (others : FurtherReads rest list) :
      FurtherReads (comma :: (tokens ++ rest)) (parameter :: list)

/-- All the parameters of a function, of which there may be none. -/
inductive AllRead : List Token -> List Parameter -> Prop
  | none : AllRead [] []
  | some
      {tokens rest : List Token}
      {parameter : Parameter}
      {list : List Parameter}
      (read : parameter.Reads tokens)
      (others : FurtherReads rest list) :
      AllRead (tokens ++ rest) (parameter :: list)

end Parameter

/-- The function that is read from tokens. -/
inductive Function.Reads : List Token -> Function -> Prop
  | intro
      {word name left right leftCurly rightCurly : Token}
      {typeTokens parameterTokens tokens : List Token}
      {returnType : Ty}
      {parameters : List Parameter}
      {body : List Stmt}
      (wordKind : word.kind = .functionWord)
      (typeRead : returnType.Reads typeTokens)
      (nameKind : name.kind = .identifier)
      (leftKind : left.kind = .openParen)
      (parametersRead : Parameter.AllRead parameterTokens parameters)
      (rightKind : right.kind = .closeParen)
      (leftCurlyKind : leftCurly.kind = .openCurly)
      (bodyRead : Passage.statements.Reads tokens body)
      (rightCurlyKind : rightCurly.kind = .closeCurly) :
      Reads
        (word :: (typeTokens ++ name :: left ::
          (parameterTokens ++ right :: leftCurly ::
          (tokens ++ [rightCurly]))))
        ⟨returnType, name.spelling, parameters, body, word.position⟩

namespace Record

/-- Some elements of a record type, each with its semicolon. -/
inductive ElementsRead : List Token -> List Binding -> Prop
  | none : ElementsRead [] []
  | more
      {semicolon : Token}
      {tokens rest : List Token}
      {element : Binding}
      {list : List Binding}
      (read : element.Reads tokens)
      (semicolonKind : semicolon.kind = .semicolon)
      (others : ElementsRead rest list) :
      ElementsRead (tokens ++ semicolon :: rest) (element :: list)

/-- The record type that is read from tokens. -/
inductive Reads : List Token -> Record -> Prop
  | intro
      {word name left right : Token}
      {tokens : List Token}
      {element : Binding}
      {list : List Binding}
      (wordKind : word.kind = .recordWord)
      (nameKind : name.kind = .identifier)
      (leftKind : left.kind = .openCurly)
      (elementsRead : ElementsRead tokens (element :: list))
      (rightKind : right.kind = .closeCurly) :
      Reads (word :: name :: left :: (tokens ++ [right]))
        ⟨name.spelling, element :: list, word.position⟩

end Record

/-- The declarations that are read from tokens. -/
inductive Declaration.AllRead : List Token -> List Declaration -> Prop
  | none : AllRead [] []
  | function
      {tokens rest : List Token}
      {function : Function}
      {list : List Declaration}
      (read : function.Reads tokens)
      (others : AllRead rest list) :
      AllRead (tokens ++ rest) (.function function :: list)
  | record
      {tokens rest : List Token}
      {record : Record}
      {list : List Declaration}
      (read : record.Reads tokens)
      (others : AllRead rest list) :
      AllRead (tokens ++ rest) (.record record :: list)

/-- The module that is read from tokens in front of a lookahead token. -/
def Module.Reads
    (tokens : List Token)
    (module : Module)
    (after : Token) : Prop :=
  ∃ list, Declaration.AllRead tokens list ∧
    module = .ofDeclarations (startOf (tokens ++ [after])) list

end MatrixLang
